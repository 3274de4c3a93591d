import Dialogue.Value.Key

/-!
# Tables under keys of any form

Labels and commands stand under keys of any form, in the order in which the keys first came.  A key is
found however it is written.  Putting something under a known key leaves the key as it was written
first.

A table of names may be asked with a value of any form too.  Its names are texts, so nothing else is
found in it.

## Results

* `Keyed.canonical_put` — up to the way in which keys are written, putting is putting into an
  ordered table.
* `Keyed.get?_put_self`, `Keyed.get?_put_of_ne` — a table answers with what was put last under a
  key.
-/

set_option autoImplicit false

namespace Dialogue

/-- Things under keys of any form, in the order in which the keys first came. -/
abbrev Keyed (α : Type) := List (Value × α)

namespace Keyed

variable {α : Type}

/-- The table with its keys in the form that all ways of writing them share. -/
def canonical (t : Keyed α) : Keyed α :=
  t.map fun e => (e.1.asKey, e.2)

/-- The keys, in order and as they were written first. -/
def keys (t : Keyed α) : List Value :=
  Table.keys t

/-- What is under a key. -/
def get? (t : Keyed α) (key : Value) : Option α :=
  Table.get? (canonical t) key.asKey

/-- Is there something under this key? -/
def has (t : Keyed α) (key : Value) : Bool :=
  (get? t key).isSome

/-- Put something under a key: in place when the key is known, else at the end. -/
def put : Keyed α → Value → α → Keyed α
  | [], key, new => [(key, new)]
  | (k, v) :: rest, key, new =>
    if k.asKey = key.asKey then (k, new) :: rest else (k, v) :: put rest key new

/-- The table that a list of entries makes when a later entry replaces an earlier one. -/
def ofEntries (entries : Keyed α) : Keyed α :=
  entries.foldl (fun t e => put t e.1 e.2) []

/-- What is under what should be a key. -/
def find (t : Keyed α) (key : Value) : Except Fault (Option α) :=
  match key.keyFault? with
  | some f => .error f
  | none => .ok (get? t key)

/-- What must be under what should be a key. -/
def fetch (t : Keyed α) (key : Value) : Except Fault α :=
  match find t key with
  | .error f => .error f
  | .ok none => .error (.missingKey key)
  | .ok (some a) => .ok a

/-! ## What a table answers -/

theorem canonical_put (t : Keyed α) (key : Value) (new : α) :
    canonical (put t key new) = Table.put (canonical t) key.asKey new := by
  induction t with
  | nil => rfl
  | cons e rest ih =>
    obtain ⟨k, v⟩ := e
    by_cases h : k.asKey = key.asKey
    · simp [put, canonical, Table.put, h]
    · simp only [canonical] at ih
      simp [put, canonical, Table.put, h, ih]

/-- However a key is written, it finds the same. -/
theorem get?_congr (t : Keyed α) {key other : Value} (h : other.asKey = key.asKey) :
    get? t other = get? t key := by
  simp [get?, h]

theorem get?_put_self (t : Keyed α) (key : Value) (new : α) :
    get? (put t key new) key = some new := by
  rw [get?, canonical_put, Table.get?_put_self]

theorem get?_put_of_ne (t : Keyed α) {key other : Value} (new : α)
    (h : other.asKey ≠ key.asKey) : get? (put t key new) other = get? t other := by
  rw [get?, canonical_put, Table.get?_put_of_ne _ _ h, get?]

/-- What was there stays there. -/
theorem has_put {t : Keyed α} {key : Value} (h : has t key = true) (other : Value) (new : α) :
    has (put t other new) key = true := by
  unfold has at h ⊢
  by_cases hk : key.asKey = other.asKey
  · rw [get?_congr _ hk, get?_put_self]
    rfl
  · rwa [get?_put_of_ne _ _ hk]

end Keyed

namespace Table

variable {α : Type}

/-- The things of a table under its names as keys. -/
def keyed (t : Table α) : Keyed α :=
  t.map fun e => (.text e.1, e.2)

/-- What a table of names holds under what should be a key. -/
def find (t : Table α) (key : Value) : Except Fault (Option α) :=
  match key with
  | .text s => .ok (get? t s)
  | key =>
    match key.keyFault? with
    | some f => .error f
    | none => .ok none

theorem find_text (t : Table α) (s : String) : find t (.text s) = .ok (get? t s) := rfl

/-- Only names are found in a table of names. -/
theorem find_eq_some_iff {t : Table α} {key : Value} {a : α} :
    find t key = .ok (some a) ↔ ∃ s, key = .text s ∧ get? t s = some a := by
  constructor
  · intro h
    unfold find at h
    split at h
    · rename_i s
      exact ⟨s, rfl, Except.ok.inj h⟩
    · split at h <;> cases h
  · rintro ⟨s, rfl, h⟩
    rw [find_text, h]

/-- What a table of names must hold under what should be a key. -/
def fetch (t : Table α) (key : Value) : Except Fault α :=
  match find t key with
  | .error f => .error f
  | .ok none => .error (.missingKey key)
  | .ok (some a) => .ok a

end Table

end Dialogue
