import Dialogue.Json.Reader

/-!
# What a document can hold

A document that can be read holds a JSON value: constants, numbers and texts, and lists and mappings
of JSON values.

A document that cannot be read is no JSON, or goes beyond what can be read: a whole number has too
many digits, or there are too many lists and objects within one another.

## Results

* `read_holds` — what is read is a JSON value.
* `readAny_tells` — every part of a document can only be wrong in this way.
* `read_tells`, `overLimit_iff` — so can a whole document: what is JSON goes beyond what can be
  read when it is refused.
-/

set_option autoImplicit false

namespace Dialogue.Json

/-- What goes beyond what can be read, however well it is written. -/
inductive OverLimit : Fault → Prop where
  | digits {n : Nat} (many : mostDigits < n) : OverLimit (.tooManyDigits n)
  | levels (what : String) : OverLimit (.tooDeep what)

/-- Reading tells a fault only when what is read is no JSON or goes beyond what can be read. -/
def Tells {α : Type} (x : Except Fault α) : Prop :=
  ∀ f, x = .error f → f = .notJson ∨ OverLimit f

section

variable {α β : Type}

theorem tells_ok (a : α) : Tells (.ok a : Except Fault α) := by
  intro f h
  cases h

theorem tells_notJson : Tells (.error .notJson : Except Fault α) := by
  intro f h
  cases h
  exact .inl rfl

theorem tells_overLimit {f : Fault} (beyond : OverLimit f) : Tells (.error f : Except Fault α) := by
  intro g h
  cases h
  exact .inr beyond

theorem Tells.map {x : Except Fault α} (h : Tells x) (g : α → β) : Tells (x.map g) := by
  cases x with
  | ok a => exact tells_ok (g a)
  | error f =>
    intro e he
    cases he
    exact h f rfl

theorem Tells.bind {x : Except Fault α} {g : α → Except Fault β} (h : Tells x)
    (hg : ∀ a, Tells (g a)) : Tells (x >>= g) := by
  cases x with
  | ok a => exact hg a
  | error f =>
    intro e he
    cases he
    exact h f rfl

end

theorem whole_tells (negative : Bool) (ds : List Char) : Tells (whole negative ds) := by
  unfold whole
  split
  · rename_i many
    exact tells_overLimit (.digits many)
  · exact tells_ok _

theorem magnitude_tells (negative : Bool) (cs : List Char) : Tells (magnitude negative cs) := by
  unfold magnitude
  split
  · exact tells_notJson
  · split
    · dsimp only
      split
      · exact (whole_tells negative _).map _
      all_goals exact tells_ok _
    · exact tells_notJson

theorem scalar_tells (cs : List Char) : Tells (scalar cs) := by
  unfold scalar
  split
  · exact tells_ok _
  · split <;> exact magnitude_tells _ _

theorem quotedText_tells (cs : List Char) : Tells (quotedText cs) := by
  unfold quotedText
  split
  · exact tells_ok _
  · exact tells_notJson

/-- Every part of a document can only be wrong in this way, however much there may be to read. -/
theorem readAny_tells (n : Nat) :
    (∀ levels cs, Tells (readValue n levels cs)) ∧ (∀ levels cs, Tells (readItems n levels cs)) ∧
      (∀ levels cs, Tells (readEntries n levels cs)) := by
  induction n with
  | zero =>
    refine ⟨fun _ _ => tells_notJson, fun _ _ => tells_notJson, fun levels cs => ?_⟩
    unfold readEntries
    exact tells_notJson
  | succ n ih =>
    obtain ⟨hvalue, hitems, hentries⟩ := ih
    refine ⟨fun levels cs => ?_, fun levels cs => ?_, fun levels cs => ?_⟩
    · unfold readValue
      split
      · exact tells_notJson
      · exact (quotedText_tells _).map _
      · exact tells_overLimit (.levels _)
      · split
        · exact tells_ok _
        · obtain rfl := Nat.succ.inj ‹n + 1 = _›
          exact (hitems _ _).map _
      · exact tells_overLimit (.levels _)
      · split
        · exact tells_ok _
        · obtain rfl := Nat.succ.inj ‹n + 1 = _›
          exact (hentries _ _).map _
      · exact scalar_tells _
    · unfold readItems
      refine (hvalue levels cs).bind fun p => ?_
      dsimp only
      split
      · exact tells_ok _
      · exact (hitems _ _).bind fun _ => tells_ok _
      · exact tells_notJson
    · unfold readEntries
      split
      · obtain rfl := Nat.succ.inj ‹n + 1 = _›
        refine (quotedText_tells _).bind fun p => ?_
        dsimp only
        split
        · refine (hvalue _ _).bind fun q => ?_
          split
          · exact tells_ok _
          · exact (hentries _ _).bind fun _ => tells_ok _
          · exact tells_notJson
        · exact tells_notJson
      · exact tells_notJson

/-- A document can only be wrong in this way. -/
theorem read_tells (s : String) : Tells (read s) := by
  unfold read
  refine ((readAny_tells _).1 _ _).bind fun p => ?_
  dsimp only
  split
  · exact tells_ok _
  · exact tells_notJson

theorem overLimit_iff {s : String} {f : Fault} (h : read s = .error f) :
    OverLimit f ↔ f ≠ .notJson := by
  constructor
  · rintro (_ | _) hf <;> cases hf
  · intro hf
    exact (read_tells s f h).resolve_left hf

/-! ## What is read -/

/-- A JSON value: a constant, a number, a text, or a list or a mapping of such values in which no
key comes twice. -/
inductive Held : Value → Prop where
  | null : Held .null
  | flag (b : Bool) : Held (.flag b)
  | int (n : Int) : Held (.int n)
  | double (d : Double) : Held (.double d)
  | text (s : String) : Held (.text s)
  | list {items : List Value} (all : ∀ v ∈ items, Held v) : Held (.ofList items)
  | table {entries : Table Value} (distinct : Table.Distinct entries)
    (all : ∀ e ∈ entries, Held e.2) : Held (.ofTable entries)

/-- Whatever is read has this property. -/
def Holds {α : Type} (P : α → Prop) (x : Except Fault α) : Prop :=
  ∀ a, x = .ok a → P a

section

variable {α β : Type} {P : α → Prop} {Q : β → Prop}

theorem holds_ok {a : α} (h : P a) : Holds P (.ok a) := by
  intro b hb
  cases hb
  exact h

theorem holds_error (f : Fault) : Holds P (.error f) := by
  intro a h
  cases h

theorem Holds.map {x : Except Fault α} (h : Holds P x) {g : α → β} (hg : ∀ a, P a → Q (g a)) :
    Holds Q (x.map g) := by
  cases x with
  | ok a => exact holds_ok (hg a (h a rfl))
  | error f => exact holds_error f

theorem Holds.bind {x : Except Fault α} (h : Holds P x) {g : α → Except Fault β}
    (hg : ∀ a, P a → Holds Q (g a)) : Holds Q (x >>= g) := by
  cases x with
  | ok a => exact hg a (h a rfl)
  | error f => exact holds_error f

theorem holds_any (x : Except Fault α) : Holds (fun _ => True) x :=
  fun _ _ => trivial

end

theorem whole_holds (negative : Bool) (ds : List Char) : Holds Held (whole negative ds) := by
  unfold whole
  split
  · exact holds_error _
  · exact holds_ok (.int _)

theorem magnitude_holds (negative : Bool) (cs : List Char) :
    Holds (fun p => Held p.1) (magnitude negative cs) := by
  unfold magnitude
  split
  · exact holds_error _
  · split
    · dsimp only
      split
      · exact (whole_holds negative _).map fun _ hv => hv
      all_goals exact holds_ok (.double _)
    · exact holds_error _

theorem constants_held : ∀ e ∈ constants, Held e.2 := by
  simp only [constants, List.forall_mem_cons]
  exact ⟨.null, .flag _, .flag _, .double _, .double _, .double _, by simp⟩

theorem scalar_holds (cs : List Char) : Holds (fun p => Held p.1) (scalar cs) := by
  unfold scalar
  split
  · rename_i found hfound
    obtain ⟨e, he, hword⟩ := List.exists_of_findSome?_eq_some hfound
    obtain ⟨rest, -, rfl⟩ := Option.map_eq_some_iff.mp hword
    exact holds_ok (constants_held e he)
  · split <;> exact magnitude_holds _ _

/-- The table that entries make holds no other values than these. -/
theorem held_ofEntries {entries : Table Value} (all : ∀ e ∈ entries, Held e.2) :
    Held (.ofTable (Table.ofEntries entries)) := by
  have hnone : Table.Distinct ([] : Table Value) := List.nodup_nil
  refine .table (hnone.putAll entries) fun e he => ?_
  rcases Table.mem_of_mem_putAll he with hnone | hentry
  · cases hnone
  · exact all e hentry

/-- Every part of a document that can be read holds JSON values. -/
theorem readAny_holds (n : Nat) :
    (∀ levels cs, Holds (fun p => Held p.1) (readValue n levels cs)) ∧
      (∀ levels cs, Holds (fun p => ∀ v ∈ p.1, Held v) (readItems n levels cs)) ∧
      (∀ levels cs, Holds (fun p => ∀ e ∈ p.1, Held e.2) (readEntries n levels cs)) := by
  induction n with
  | zero =>
    refine ⟨fun _ _ => holds_error _, fun _ _ => holds_error _, fun levels cs => ?_⟩
    unfold readEntries
    exact holds_error _
  | succ n ih =>
    obtain ⟨hvalue, hitems, hentries⟩ := ih
    refine ⟨fun levels cs => ?_, fun levels cs => ?_, fun levels cs => ?_⟩
    · unfold readValue
      split
      · exact holds_error _
      · exact (holds_any _).map fun _ _ => .text _
      · exact holds_error _
      · split
        · exact holds_ok (.list (by simp))
        · obtain rfl := Nat.succ.inj ‹n + 1 = _›
          exact (hitems _ _).map fun _ hall => .list hall
      · exact holds_error _
      · split
        · exact holds_ok (.table List.nodup_nil (by simp))
        · obtain rfl := Nat.succ.inj ‹n + 1 = _›
          exact (hentries _ _).map fun _ hall => held_ofEntries hall
      · exact scalar_holds _
    · unfold readItems
      refine (hvalue levels cs).bind fun p hp => ?_
      dsimp only
      split
      · exact holds_ok (List.forall_mem_singleton.mpr hp)
      · exact (hitems _ _).bind fun q hq => holds_ok (List.forall_mem_cons.mpr ⟨hp, hq⟩)
      · exact holds_error _
    · unfold readEntries
      split
      · obtain rfl := Nat.succ.inj ‹n + 1 = _›
        refine (holds_any _).bind fun p _ => ?_
        dsimp only
        split
        · refine (hvalue _ _).bind fun q hq => ?_
          split
          · exact holds_ok (List.forall_mem_singleton.mpr hq)
          · exact (hentries _ _).bind fun r hr => holds_ok (List.forall_mem_cons.mpr ⟨hq, hr⟩)
          · exact holds_error _
        · exact holds_error _
      · exact holds_error _

/-- What a document holds is a JSON value. -/
theorem read_holds {s : String} {v : Value} (h : read s = .ok v) : Held v := by
  refine (?_ : Holds Held (read s)) v h
  unfold read
  refine ((readAny_holds _).1 _ _).bind fun p hp => ?_
  dsimp only
  split
  · exact holds_ok hp
  · exact holds_error _

end Dialogue.Json
