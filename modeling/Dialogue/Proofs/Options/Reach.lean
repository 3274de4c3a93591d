import Dialogue.Proofs.Layers
import Mathlib.Data.List.Infix

/-!
# What stands at a key path

A key path leads from a mapping through the mappings within it.  A layer touches a path if it has a
value there, or if it has anything but a mapping on the way.  When a layer is laid over another one,
what stands at a path that it touches is told by the layer, and at every other path all stays as it
was.

## Results

* `isUnambiguous_get?` — no key comes twice in the parts of a value in which none does.
* `entry_induction` — induction from the entries of a value to the value.
* `touches_cons_iff` — a mapping touches a path just when the entry on the way does.
* `at?_onto` — what stands at a path when a value was put over another one.
* `at?_lay_of_touches`, `at?_lay_of_not_touches` — the same for a layer.
* `isUnambiguous_lay` — no key comes twice in a layer over another one, if none does in either.
* `isSome_at?_lay` — a layer that leaves the way to a path open keeps what stands there, or replaces it.
-/

set_option autoImplicit false

namespace Dialogue.Value

/-! ## Mappings without doubled keys -/

mutual

/-- Does no key come twice, neither in this mapping nor in those that can be reached through it? -/
def isUnambiguous : Value → Bool
  | .tree _ es => decide (Table.keys es).Nodup && areUnambiguous es
  | _ => true
termination_by structural v => v

/-- Does no key come twice in any of these entries? -/
def areUnambiguous : List (String × Value) → Bool
  | [] => true
  | (_, v) :: rest => isUnambiguous v && areUnambiguous rest
termination_by structural es => es

end

theorem isUnambiguous_tree_iff (form : Form) (es : Table Value) :
    (Value.tree form es).isUnambiguous = true ↔
      Table.Distinct es ∧ areUnambiguous es = true := by
  rw [isUnambiguous, Bool.and_eq_true, decide_eq_true_iff]
  rfl

theorem distinct_of_isUnambiguous {v : Value} (h : v.isUnambiguous = true) : v.Distinct := by
  cases v with
  | tree form es => exact ((isUnambiguous_tree_iff form es).mp h).1
  | null | flag | int | double | text | list | choice => trivial

theorem areUnambiguous_iff (es : Table Value) :
    areUnambiguous es = true ↔ ∀ e ∈ es, e.2.isUnambiguous = true := by
  induction es with
  | nil => simp [areUnambiguous]
  | cons e rest ih => simp [areUnambiguous, ih]

theorem isUnambiguous_get? {v u : Value} {key : String} (h : v.isUnambiguous = true)
    (hget : v.get? key = some u) : u.isUnambiguous = true := by
  obtain ⟨form, es, rfl⟩ := exists_tree_of_get? hget
  have hmem : (key, u) ∈ es := Table.mem_of_get? hget
  exact (areUnambiguous_iff es).mp ((isUnambiguous_tree_iff form es).mp h).2 _ hmem

/-! ## One step on a path -/

theorem get?_of_kind_ne {v : Value} (h : v.kind ≠ .tree) (key : String) : v.get? key = none := by
  rw [Option.eq_none_iff_forall_ne_some]
  intro u hget
  obtain ⟨form, es, rfl⟩ := exists_tree_of_get? hget
  exact h rfl

theorem get?_owned (v : Value) (key : String) : v.owned.get? key = v.get? key := by
  cases v <;> rfl

theorem sizeOf_get?_lt {v u : Value} {key : String} (h : v.get? key = some u) :
    sizeOf u < sizeOf v := by
  obtain ⟨form, es, rfl⟩ := exists_tree_of_get? h
  have hmem : (key, u) ∈ es := Table.mem_of_get? h
  have hlt := List.sizeOf_lt_of_mem hmem
  simp only [Prod.mk.sizeOf_spec] at hlt
  simp only [tree.sizeOf_spec]
  omega

/-- What holds of a value if it holds of all its entries holds of every value. -/
theorem entry_induction {motive : Value → Prop}
    (step : ∀ v, (∀ key u, v.get? key = some u → motive u) → motive v) (v : Value) : motive v :=
  step v fun _ u _ => entry_induction step u
termination_by sizeOf v
decreasing_by exact sizeOf_get?_lt ‹_›

/-- What an entry holds in a mapping that was put over another value. -/
theorem get?_onto {v : Value} (distinct : v.Distinct) (tree : v.kind = .tree)
    (held : Option Value) (key : String) :
    (onto held v).get? key =
      (v.get? key).elim (held.bind fun u => u.get? key)
        fun w => some (onto (held.bind fun u => u.get? key) w) := by
  cases held with
  | none => cases hv : v.get? key <;> simp [onto, hv]
  | some u =>
    by_cases hu : u.kind = .tree
    · rw [onto_of_trees hu tree]
      obtain ⟨form, ds, rfl⟩ := exists_tree_of_kind hu
      obtain ⟨form', es, rfl⟩ := exists_tree_of_kind tree
      exact get?_layEntries distinct ds key
    · rw [onto_of_kind_ne fun h => hu (h.trans tree), Option.bind_some, get?_of_kind_ne hu]
      cases hv : v.get? key <;> simp [onto]

/-- No key comes twice in a value that was put over another one, if none does in either. -/
theorem isUnambiguous_onto {v : Value} (unambiguous : v.isUnambiguous = true) {held : Option Value}
    (before : ∀ u ∈ held, u.isUnambiguous = true) : (onto held v).isUnambiguous = true := by
  induction v using entry_induction generalizing held with
  | step v ih =>
    rcases held with _ | u
    · exact unambiguous
    have hu : u.isUnambiguous = true := before u rfl
    by_cases hkind : u.kind = v.kind
    · cases v with
      | tree form es =>
        obtain ⟨form', ds, rfl⟩ := exists_tree_of_kind hkind
        have hds : Table.Distinct ds := distinct_of_isUnambiguous hu
        have hes : Table.Distinct es := distinct_of_isUnambiguous unambiguous
        have hdistinct := distinct_layEntries hds es
        refine (isUnambiguous_tree_iff .own _).mpr
          ⟨hdistinct, (areUnambiguous_iff _).mpr fun e he => ?_⟩
        have hget := Table.get?_of_mem hdistinct he
        rw [get?_layEntries hes] at hget
        cases hupper : Table.get? es e.1 with
        | none =>
          rw [hupper] at hget
          exact isUnambiguous_get? hu hget
        | some w =>
          rw [hupper] at hget
          rw [← Option.some.inj hget]
          exact ih e.1 w hupper (isUnambiguous_get? unambiguous hupper)
            fun x hx => isUnambiguous_get? hu hx
      | list form ys =>
        obtain ⟨form', xs, rfl⟩ := exists_list_of_kind hkind
        rfl
      | null | flag | int | double | text | choice =>
        rw [onto_of_scalar _ rfl]
        exact unambiguous
    · rw [onto_of_kind_ne hkind]
      exact unambiguous

theorem isUnambiguous_lay {below v : Value} (hbelow : below.isUnambiguous = true)
    (hv : v.isUnambiguous = true) : (lay below v).isUnambiguous = true := by
  by_cases hkind : below.kind = v.kind
  · by_cases hscalar : v.kind = .scalar
    · rw [lay_of_scalar hscalar]
      exact hv
    · rw [← onto_of_kind_eq hkind hscalar]
      exact isUnambiguous_onto hv fun u hu => Option.some.inj hu ▸ hbelow
  · rw [lay_of_kind_ne hkind]
    cases v with
    | tree form es => exact hv
    | list | null | flag | int | double | text | choice => rfl

/-! ## Paths -/

/-- What stands at a key path, which leads through mappings. -/
def at? (v : Value) : List String → Option Value
  | [] => some v
  | key :: path => (v.get? key).bind fun u => u.at? path

/-- A layer touches a path if it has a value there, or anything but a mapping where a proper part of
the path leads to. -/
def Touches (layer : Value) (path : List String) : Prop :=
  (layer.at? path).isSome = true ∨
    ∃ front key rest v, path = front ++ key :: rest ∧ layer.at? front = some v ∧ v.kind ≠ .tree

theorem at?_of_kind_ne {v : Value} (h : v.kind ≠ .tree) (key : String) (path : List String) :
    v.at? (key :: path) = none := by
  rw [at?, get?_of_kind_ne h, Option.bind_none]

theorem at?_of_get? {v u : Value} {key : String} (h : v.get? key = some u) (path : List String) :
    v.at? (key :: path) = u.at? path := by
  rw [at?, h, Option.bind_some]

theorem at?_append (v : Value) (front rest : List String) :
    v.at? (front ++ rest) = (v.at? front).bind fun u => u.at? rest := by
  induction front generalizing v with
  | nil => rfl
  | cons key front ih =>
    rw [List.cons_append, at?, at?]
    cases v.get? key with
    | none => rfl
    | some u => exact ih u

theorem at?_concat (v : Value) (path : List String) (key : String) :
    v.at? (path ++ [key]) = (v.at? path).bind fun u => u.get? key := by
  simp only [at?_append, at?, Option.bind_fun_some]

theorem isSome_at?_of_append {v : Value} {front rest : List String}
    (has : (v.at? (front ++ rest)).isSome = true) : (v.at? front).isSome = true := by
  rw [at?_append] at has
  exact Option.isSome_of_isSome_bind has

theorem touches_of_at? {v u : Value} {path : List String} (h : v.at? path = some u) :
    v.Touches path :=
  .inl (by rw [h, Option.isSome_some])

theorem touches_of_kind_ne {v : Value} (h : v.kind ≠ .tree) (path : List String) :
    v.Touches path := by
  cases path with
  | nil => exact touches_of_at? rfl
  | cons key path => exact .inr ⟨[], key, path, v, rfl, rfl, h⟩

/-- A mapping touches a path just when the entry on the way does. -/
theorem touches_cons_iff {v : Value} (tree : v.kind = .tree) (key : String) (path : List String) :
    v.Touches (key :: path) ↔ ∃ u, v.get? key = some u ∧ u.Touches path := by
  constructor
  · rintro (hat | ⟨front, other, rest, w, hpath, hat, hw⟩)
    · obtain ⟨w, hw⟩ := Option.isSome_iff_exists.mp hat
      obtain ⟨u, hu, hw⟩ := Option.bind_eq_some_iff.mp hw
      exact ⟨u, hu, touches_of_at? hw⟩
    · cases front with
      | nil =>
        cases hat
        exact absurd tree hw
      | cons first front =>
        obtain ⟨rfl, rfl⟩ := List.cons.inj hpath
        obtain ⟨u, hu, hat⟩ := Option.bind_eq_some_iff.mp hat
        exact ⟨u, hu, .inr ⟨front, other, rest, w, rfl, hat, hw⟩⟩
  · rintro ⟨u, hu, hat | ⟨front, other, rest, w, rfl, hat, hw⟩⟩
    · exact .inl (by rwa [at?_of_get? hu])
    · exact .inr ⟨key :: front, other, rest, w, rfl, by rwa [at?_of_get? hu], hw⟩

/-! ## A value over another one -/

/-- What stands at a path after a value was put over what was held: the value tells at the paths that
it touches, and all else is as it was held. -/
theorem at?_onto {v : Value} (unambiguous : v.isUnambiguous = true) (held : Option Value)
    (path : List String) :
    (v.Touches path →
      (onto held v).at? path = (v.at? path).map (onto (held.bind fun u => u.at? path))) ∧
    (¬v.Touches path → (onto held v).at? path = held.bind fun u => u.at? path) := by
  -- on the path: what is held under a key and what is put there are again such a pair
  induction path generalizing v held with
  | nil =>
    refine ⟨fun _ => ?_, fun h => absurd (touches_of_at? rfl) h⟩
    cases held <;> rfl
  | cons key path ih =>
    by_cases tree : v.kind = .tree
    · have hget := get?_onto (distinct_of_isUnambiguous unambiguous) tree held key
      have hheld : (held.bind fun u => u.at? (key :: path)) =
          (held.bind fun u => u.get? key).bind fun u => u.at? path := by
        cases held <;> rfl
      rw [touches_cons_iff tree, at?, hget, hheld]
      cases hv : v.get? key with
      | none =>
        refine ⟨?_, fun _ => rfl⟩
        rintro ⟨u, hu, -⟩
        cases hu
      | some u =>
        obtain ⟨htouched, huntouched⟩ :=
          ih (isUnambiguous_get? unambiguous hv) (held.bind fun u => u.get? key)
        rw [at?_of_get? hv]
        constructor
        · rintro ⟨w, hw, htouches⟩
          cases hw
          exact htouched htouches
        · exact fun hnot => huntouched fun htouches => hnot ⟨u, rfl, htouches⟩
    · refine ⟨fun _ => ?_, fun h => absurd (touches_of_kind_ne tree _) h⟩
      have hkind : (onto held v).kind ≠ .tree := by rwa [onto_kind]
      rw [at?_of_kind_ne hkind, at?_of_kind_ne tree, Option.map_none]

/-- Away from the top, a layer is laid over another one as a value is put over one that is held. -/
theorem at?_lay (below v : Value) (key : String) (path : List String) :
    (lay below v).at? (key :: path) = (onto (some below) v).at? (key :: path) := by
  by_cases hkind : below.kind = v.kind
  · by_cases hscalar : v.kind = .scalar
    · rw [lay_of_scalar hscalar, onto_of_scalar _ hscalar]
    · rw [onto_of_kind_eq hkind hscalar]
  · rw [lay_of_kind_ne hkind, onto_of_kind_ne hkind, at?, at?, get?_owned]

theorem at?_lay_of_touches {v : Value} (unambiguous : v.isUnambiguous = true) (below : Value)
    {path : List String} (nonempty : path ≠ []) (touches : v.Touches path) :
    (lay below v).at? path = (v.at? path).map (onto (below.at? path)) := by
  cases path with
  | nil => exact absurd rfl nonempty
  | cons key path =>
    rw [at?_lay]
    exact (at?_onto unambiguous (some below) _).1 touches

theorem at?_lay_of_not_touches {v : Value} (unambiguous : v.isUnambiguous = true) (below : Value)
    {path : List String} (untouched : ¬v.Touches path) :
    (lay below v).at? path = below.at? path := by
  cases path with
  | nil => exact absurd (touches_of_at? rfl) untouched
  | cons key path =>
    rw [at?_lay]
    exact (at?_onto unambiguous (some below) _).2 untouched

/-! ## What is not lost -/

/-- Does a value leave the way to a path open, with nothing but mappings on it? -/
def Clears (v : Value) (path : List String) : Prop :=
  ∀ front ∈ path.dropLast.inits, ∀ u ∈ v.at? front, u.kind = .tree

theorem isSome_at?_lay_of_isSome {v : Value} (unambiguous : v.isUnambiguous = true) (below : Value)
    {path : List String} (has : (v.at? path).isSome = true) :
    ((lay below v).at? path).isSome = true := by
  by_cases hpath : path = []
  · rw [hpath]
    rfl
  · obtain ⟨u, hu⟩ := Option.isSome_iff_exists.mp has
    rw [at?_lay_of_touches unambiguous below hpath (touches_of_at? hu), hu]
    rfl

/-- **What stands at a path is not lost** when a layer is laid over it that leaves the way open. -/
theorem isSome_at?_lay {v : Value} (unambiguous : v.isUnambiguous = true) {path : List String}
    (clears : v.Clears path) {below : Value} (has : (below.at? path).isSome = true) :
    ((lay below v).at? path).isSome = true := by
  by_cases htouches : v.Touches path
  · rcases htouches with hat | ⟨front, key, rest, u, rfl, hat, hkind⟩
    · exact isSome_at?_lay_of_isSome unambiguous below hat
    · refine absurd (clears front ?_ u hat) hkind
      rw [List.mem_inits, List.dropLast_append_of_ne_nil (List.cons_ne_nil key rest)]
      exact List.prefix_append front _
  · rw [at?_lay_of_not_touches unambiguous below htouches]
    exact has

end Dialogue.Value
