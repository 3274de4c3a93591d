/-!
# Ordered tables

A table pairs keys with values and keeps the order in which the keys first came.  Records,
commands and option trees are tables whose keys are names; the operations here work with keys of
any type.

## Results

* `get?_put_self`, `get?_put_of_ne` — a table answers with what was put last under a key.
* `get?_putAll` — when a table is put into another one, that answers only where the first does not.
* `mem_of_get?`, `get?_of_mem` — what a table answers are its entries, when no key comes twice.
* `keys_put_of_mem`, `keys_put_of_not_mem` — putting under a known key keeps the order of the
  keys, putting under a new one adds it at the end.
* `eq_of_get?` — a table is told by its keys, in order, and by what it answers.
* `Distinct.put` — no key ever comes twice.
-/

set_option autoImplicit false

namespace Dialogue

/-- Names with values, in the order in which the names first came. -/
abbrev Table (α : Type) := List (String × α)

namespace Table

variable {κ α : Type}

/-- The keys, in order. -/
def keys (t : List (κ × α)) : List κ :=
  t.map Prod.fst

/-- No key comes twice. -/
def Distinct (t : List (κ × α)) : Prop :=
  (keys t).Nodup

variable [DecidableEq κ]

/-- The value under a key. -/
def get? : List (κ × α) → κ → Option α
  | [], _ => none
  | (k, v) :: rest, key => if k = key then some v else get? rest key

/-- Put a value under a key: in place when the key is known, else at the end. -/
def put : List (κ × α) → κ → α → List (κ × α)
  | [], key, new => [(key, new)]
  | (k, v) :: rest, key, new => if k = key then (k, new) :: rest else (k, v) :: put rest key new

/-- Put every entry of the second table into the first, in order. -/
def putAll (t u : List (κ × α)) : List (κ × α) :=
  u.foldl (fun acc e => put acc e.1 e.2) t

/-- The table that a list of entries makes when a later entry replaces an earlier one. -/
def ofEntries (entries : List (κ × α)) : List (κ × α) :=
  putAll [] entries

/-- Is there a value under this key? -/
def has (t : List (κ × α)) (key : κ) : Bool :=
  (get? t key).isSome

/-! ## What a table answers -/

theorem get?_put_self (t : List (κ × α)) (key : κ) (new : α) :
    get? (put t key new) key = some new := by
  induction t with
  | nil => simp [put, get?]
  | cons e rest ih =>
    obtain ⟨k, v⟩ := e
    by_cases h : k = key <;> simp [put, get?, h, ih]

theorem get?_put_of_ne (t : List (κ × α)) {key other : κ} (new : α) (h : other ≠ key) :
    get? (put t key new) other = get? t other := by
  induction t with
  | nil => simp [put, get?, Ne.symm h]
  | cons e rest ih =>
    obtain ⟨k, v⟩ := e
    by_cases hk : k = key
    · subst hk
      simp [put, get?, Ne.symm h]
    · simp only [put, if_neg hk, get?, ih]

theorem get?_isSome_iff (t : List (κ × α)) (key : κ) :
    (get? t key).isSome = true ↔ key ∈ keys t := by
  induction t with
  | nil => simp [get?, keys]
  | cons e rest ih =>
    obtain ⟨k, v⟩ := e
    by_cases h : k = key
    · simp [get?, keys, h]
    · simp only [get?, if_neg h, ih]
      simp [keys, Ne.symm h]

theorem get?_eq_none_iff (t : List (κ × α)) (key : κ) : get? t key = none ↔ key ∉ keys t := by
  rw [← get?_isSome_iff]
  cases get? t key <;> simp

theorem mem_of_get? {t : List (κ × α)} {key : κ} {a : α} (h : get? t key = some a) :
    (key, a) ∈ t := by
  induction t with
  | nil => cases h
  | cons e rest ih =>
    obtain ⟨k, b⟩ := e
    unfold get? at h
    split at h
    · rename_i hk
      cases h
      rw [hk]
      exact List.mem_cons_self
    · exact List.mem_cons_of_mem _ (ih h)

theorem get?_of_mem {t : List (κ × α)} (distinct : Distinct t) {e : κ × α} (h : e ∈ t) :
    get? t e.1 = some e.2 := by
  induction t with
  | nil => cases h
  | cons d rest ih =>
    obtain ⟨hnot, hrest⟩ := List.nodup_cons.mp distinct
    rcases List.mem_cons.mp h with rfl | h
    · exact if_pos rfl
    · have hne : d.1 ≠ e.1 := fun heq => hnot (heq ▸ List.mem_map_of_mem h)
      exact (if_neg hne).trans (ih hrest h)

/-- To put under a key what it holds already changes nothing. -/
theorem put_of_get? {t : List (κ × α)} {key : κ} {a : α} (held : get? t key = some a) :
    put t key a = t := by
  induction t with
  | nil => cases held
  | cons e rest ih =>
    obtain ⟨k, b⟩ := e
    by_cases hk : k = key
    · have hab : b = a := by simpa [get?, hk] using held
      rw [put, if_pos hk, hab]
    · have hrest : get? rest key = some a := by simpa [get?, hk] using held
      rw [put, if_neg hk, ih hrest]

theorem mem_of_mem_put {t : List (κ × α)} {key : κ} {new : α} {e : κ × α}
    (h : e ∈ put t key new) : e ∈ t ∨ e = (key, new) := by
  induction t with
  | nil => exact .inr (List.mem_singleton.mp h)
  | cons f rest ih =>
    unfold put at h
    split at h
    · rename_i hk
      rcases List.mem_cons.mp h with rfl | h
      · exact .inr (by rw [hk])
      · exact .inl (List.mem_cons_of_mem _ h)
    · rcases List.mem_cons.mp h with rfl | h
      · exact .inl List.mem_cons_self
      · exact (ih h).imp_left (List.mem_cons_of_mem _)

theorem mem_of_mem_putAll {t u : List (κ × α)} {e : κ × α} (h : e ∈ putAll t u) :
    e ∈ t ∨ e ∈ u := by
  unfold putAll at h
  induction u generalizing t with
  | nil => exact .inl h
  | cons f rest ih =>
    rcases ih h with h | h
    · rcases mem_of_mem_put h with h | rfl
      · exact .inl h
      · exact .inr List.mem_cons_self
    · exact .inr (List.mem_cons_of_mem _ h)

/-- A table answers for another one only where that has no answer. -/
theorem get?_putAll {t u : List (κ × α)} (distinct : Distinct u) (key : κ) :
    get? (putAll t u) key = (get? u key).or (get? t key) := by
  induction u generalizing t with
  | nil => rfl
  | cons e rest ih =>
    obtain ⟨hnot, hrest⟩ := List.nodup_cons.mp distinct
    show get? (putAll (put t e.1 e.2) rest) key = _
    rw [ih hrest]
    by_cases hkey : e.1 = key
    · subst hkey
      rw [(get?_eq_none_iff rest e.1).mpr hnot, get?_put_self]
      simp [get?]
    · rw [get?_put_of_ne t e.2 (Ne.symm hkey)]
      simp [get?, hkey]

theorem get?_map {β : Type} (t : List (κ × α)) (f : α → β) (key : κ) :
    get? (t.map fun e => (e.1, f e.2)) key = (get? t key).map f := by
  induction t with
  | nil => rfl
  | cons e rest ih => by_cases hkey : e.1 = key <;> simp [get?, hkey, ih]

/-! ## The order of the keys -/

theorem keys_put_of_mem {t : List (κ × α)} {key : κ} (new : α) (h : key ∈ keys t) :
    keys (put t key new) = keys t := by
  induction t with
  | nil => simp [keys] at h
  | cons e rest ih =>
    obtain ⟨k, v⟩ := e
    by_cases hk : k = key
    · simp [put, keys, hk]
    · have : key ∈ keys rest := by simpa [keys, Ne.symm hk] using h
      have := ih this
      simp only [keys] at this
      simp [put, keys, hk, this]

theorem keys_put_of_not_mem {t : List (κ × α)} {key : κ} (new : α) (h : key ∉ keys t) :
    keys (put t key new) = keys t ++ [key] := by
  induction t with
  | nil => simp [put, keys]
  | cons e rest ih =>
    obtain ⟨k, v⟩ := e
    have hk : k ≠ key := by
      intro hk
      exact h (by simp [keys, hk])
    have hr : key ∉ keys rest := by
      intro hr
      exact h (by simp only [keys, List.map_cons, List.mem_cons]; exact Or.inr hr)
    have := ih hr
    simp only [keys] at this
    simp [put, keys, hk, this]

theorem mem_keys_put (t : List (κ × α)) (key other : κ) (new : α) :
    other ∈ keys (put t key new) ↔ other ∈ keys t ∨ other = key := by
  by_cases h : key ∈ keys t
  · rw [keys_put_of_mem new h]
    constructor
    · exact Or.inl
    · rintro (h' | rfl)
      · exact h'
      · exact h
  · rw [keys_put_of_not_mem new h, List.mem_append, List.mem_singleton]

/-- A table is told by its keys, in order, and by what it answers. -/
theorem eq_of_get? {t u : List (κ × α)} (distinct : Distinct t) (same : keys t = keys u)
    (answers : ∀ key, get? t key = get? u key) : t = u := by
  induction t generalizing u with
  | nil => exact (List.map_eq_nil_iff.mp same.symm).symm
  | cons e t ih =>
    cases u with
    | nil => cases same
    | cons d u =>
      obtain ⟨k, a⟩ := e
      obtain ⟨l, b⟩ := d
      obtain ⟨hk, hkeys⟩ := List.cons.inj same
      have hk : k = l := hk
      subst hk
      obtain ⟨hnot, hrest⟩ := List.nodup_cons.mp distinct
      have hab : a = b := by simpa [get?] using answers k
      rw [hab, ih hrest hkeys fun key => ?_]
      by_cases hkey : k = key
      · subst hkey
        have hnot' : k ∉ keys u := fun h => hnot (hkeys ▸ h)
        rw [(get?_eq_none_iff t k).mpr hnot, (get?_eq_none_iff u k).mpr hnot']
      · simpa [get?, hkey] using answers key

theorem Distinct.put {t : List (κ × α)} (h : Distinct t) (key : κ) (new : α) :
    Distinct (put t key new) := by
  unfold Distinct
  by_cases hk : key ∈ keys t
  · rw [keys_put_of_mem new hk]
    exact h
  · rw [keys_put_of_not_mem new hk, List.nodup_append]
    refine ⟨h, by simp, ?_⟩
    intro a ha b hb
    rw [List.mem_singleton.mp hb]
    exact fun heq => hk (heq ▸ ha)

theorem Distinct.putAll {t : List (κ × α)} (h : Distinct t) (u : List (κ × α)) :
    Distinct (putAll t u) := by
  unfold Table.putAll
  induction u generalizing t with
  | nil => exact h
  | cons e rest ih => exact ih (h.put e.1 e.2)

end Table

end Dialogue
