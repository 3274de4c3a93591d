import Dialogue.Value.Basic

/-!
# Merging layers

Option trees are laid over one another, later layers winning: mappings are united key by key,
lists are joined, and whatever else comes later replaces what was there.  A layer of another
kind than what lies below it replaces it as a whole.

Reference model of `deep_merge` (`Value.merge`), with `_merge_into` as `Value.layEntries` and `_kind` as
`Value.kind`.

## Results

* `Value.lay_kind` — what lies on top decides the kind of the result.
* `Value.merge_append` — merging is a fold: layers may be added one at a time.
-/

set_option autoImplicit false

namespace Dialogue

namespace Value

/-- A list or mapping in its own form; inner values stay as they are. -/
def owned : Value → Value
  | .list _ items => .list .own items
  | .tree _ entries => .tree .own entries
  | v => v

mutual

/-- Lay the second value over the first. -/
def lay (below : Value) : Value → Value
  | .tree _ es =>
    match below with
    | .tree _ ds => .tree .own (layEntries ds es)
    | _ => .tree .own es
  | .list _ ys =>
    match below with
    | .list _ xs => .list .own (xs ++ ys)
    | _ => .list .own ys
  | v => v
termination_by structural v => v

/-- Lay entries over a mapping, one after the other.  An entry is laid over what its key holds
when both are mappings or both are lists; otherwise it is put there unchanged. -/
def layEntries (below : List (String × Value)) : List (String × Value) → List (String × Value)
  | [] => below
  | (k, v) :: rest =>
    layEntries
      (Table.put below k
        (match Table.get? below k with
        | some u => if u.kind = v.kind ∧ v.kind ≠ .scalar then lay u v else v
        | none => v))
      rest
termination_by structural es => es

end

/-- Merge layers, the lowest first.  No layer at all gives the empty mapping. -/
def merge : List Value → Value
  | [] => .tree .own []
  | first :: rest => rest.foldl lay first.owned

/-! ## Shape of the result -/

theorem owned_kind (v : Value) : v.owned.kind = v.kind := by
  cases v <;> rfl

theorem lay_kind (below v : Value) : (lay below v).kind = v.kind := by
  cases v <;> simp only [lay] <;> cases below <;> rfl

theorem merge_append (first : Value) (layers more : List Value) :
    merge (first :: (layers ++ more)) = more.foldl lay (merge (first :: layers)) := by
  simp [merge, List.foldl_append]

end Value

end Dialogue
