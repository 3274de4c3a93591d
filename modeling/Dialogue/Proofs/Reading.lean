import Dialogue.Line
import Dialogue.Proofs.Index

/-!
# Reading statements

What can be wrong with a statement, and who speaks in one that is right.

## Results

* `Cast.character_error`, `Cast.image_error` — characters and images are missing for no other reason
  than that they were not registered.
* `Statement.parse_error` — why a statement cannot be read.
* `Statement.parse_who` — whoever speaks is the narrator or is known.
-/

set_option autoImplicit false

namespace Dialogue

namespace Cast

theorem character_eq_ok {c : Cast} {key : String} {record : Character} (h : key ≠ "")
    (found : Table.get? c.records key = some record) :
    c.character (.text key) = .ok record := by
  have ht : (Value.text key).truthy = true := by simpa [Value.truthy] using h
  unfold character
  rw [if_pos ht]
  simp only [Cast.find, Table.find_text, found]

theorem character_eq_error {c : Cast} {key : String} (h : key ≠ "")
    (missing : Table.get? c.records key = none) :
    c.character (.text key) = .error (.unknownCharacter key) := by
  have ht : (Value.text key).truthy = true := by simpa [Value.truthy] using h
  unfold character
  rw [if_pos ht]
  simp only [Cast.find, Table.find_text, missing]
  rfl

/-- Only an unknown character cannot be found. -/
theorem character_error {c : Cast} {key : String} {f : Fault}
    (h : c.character (.text key) = .error f) : f = .unknownCharacter key ∧ ¬ c.Knows key := by
  by_cases hk : key = ""
  · subst hk
    rw [character_empty] at h
    cases h
  · cases hr : Table.get? c.records key with
    | none =>
      rw [character_eq_error hk hr] at h
      cases h
      refine ⟨rfl, ?_⟩
      simp [Knows, Table.has, hr]
    | some record =>
      rw [character_eq_ok hk hr] at h
      cases h

theorem exists_character {c : Cast} {key : String} (h : c.Knows key) :
    ∃ record, c.character (.text key) = .ok record := by
  cases hc : c.character (.text key) with
  | ok record => exact ⟨record, rfl⟩
  | error f => exact absurd h (character_error hc).2

theorem knows_of_character {c : Cast} {key : String} {record : Character} (hne : key ≠ "")
    (h : c.character (.text key) = .ok record) : c.Knows key := by
  cases hr : Table.get? c.records key with
  | none =>
    rw [character_eq_error hne hr] at h
    cases h
  | some _ => simp [Knows, Table.has, hr]

/-- An image is missing for want of the character or of the expression. -/
theorem image_error {c : Cast} {key : String} {expression? : Option String} {f : Fault}
    (h : c.image (.text key) (Value.optionalText expression?) = .error f) :
    f = .unknownCharacter key ∨ ∃ who expression, f = .unknownExpression who expression := by
  cases expression? with
  | none => cases h
  | some expression =>
    simp only [Value.optionalText, image] at h
    cases hc : c.character (.text key) with
    | error g =>
      simp only [hc, Except.error.injEq] at h
      exact .inl (h ▸ (character_error hc).1)
    | ok record =>
      simp only [hc, Table.find_text] at h
      cases hi : Table.get? record.expressions expression with
      | none =>
        simp only [hi, Except.error.injEq] at h
        exact .inr ⟨_, _, h.symm⟩
      | some image =>
        simp only [hi] at h
        cases h

end Cast

/-- What can be wrong with a statement. -/
inductive Fault.OfStatement : Fault → Prop where
  | malformed (statement : Value) (reason : Malformation) : OfStatement (.malformed statement reason)
  | unknownCharacter (key : String) : OfStatement (.unknownCharacter key)
  | unknownExpression (character expression : String) :
    OfStatement (.unknownExpression character expression)

namespace Statement

/-- Is the next draw something that no alternative can be drawn by? -/
def Undrawn (statement : Value) (draws : List Value) (f : Fault) : Prop :=
  ∃ form first rest next, statement = .list form (first :: rest) ∧ draws.head? = some next ∧
    drawn form first rest next = .error f

theorem select_error {statement : Value} {draws left : List Value} {f : Fault}
    (h : select statement draws = (.error f, left)) :
    f.OfStatement ∨ Undrawn statement draws f := by
  unfold select at h
  split at h
  · cases h
  · cases h
  · split at h
    · cases h
    · cases h
      exact .inl (.malformed _ _)
  · cases h
    exact .inl (.malformed _ _)
  · rename_i form first rest
    cases draws with
    | nil =>
      simp only [draw] at h
      split at h
      · cases h
      · cases h
        exact .inl (.malformed _ _)
      · rename_i hd
        cases hd
    | cons next more =>
      simp only [draw] at h
      split at h
      · cases h
      · cases h
        exact .inl (.malformed _ _)
      · rename_i g left' hd
        cases h
        obtain ⟨hdrawn, -⟩ := Prod.mk.inj hd
        exact .inr ⟨form, first, rest, next, rfl, rfl, hdrawn⟩
  · cases h
    exact .inl (.malformed _ _)

theorem speaker_error {cast : Cast} {text : List Char} {f : Fault}
    (h : speaker cast text = .error f) : ∃ key, f = .unknownCharacter key := by
  unfold speaker at h
  split at h
  · rename_i key expression rest _
    cases hc : cast.character (.text key) with
    | ok record => simp [hc, Except.map] at h
    | error g =>
      simp only [hc, Except.map, Except.error.injEq] at h
      exact ⟨key, h ▸ (Cast.character_error hc).1⟩
  · split at h
    · rename_i key _
      cases hc : cast.character (.text key) with
      | ok record => simp [hc, Except.map] at h
      | error g =>
        simp only [hc, Except.map, Except.error.injEq] at h
        exact ⟨key, h ▸ (Cast.character_error hc).1⟩
    · cases h

/-- A text cannot be read for want of a character or of an expression. -/
theorem readText_unknown {cast : Cast} {isCommand : String → Bool} {source : Value} {text : String}
    {f : Fault} (h : readText cast isCommand source text = .error f) :
    (∃ key, f = .unknownCharacter key) ∨
      ∃ character expression, f = .unknownExpression character expression := by
  unfold readText at h
  split at h
  split at h
  · cases h
  · split at h
    · rename_i g hs
      cases h
      exact .inl (speaker_error hs)
    · split at h
      · rename_i g hi
        cases h
        rcases Cast.image_error hi with rfl | hexpression
        · exact .inl ⟨_, rfl⟩
        · exact .inr hexpression
      · cases h

theorem readText_error {cast : Cast} {isCommand : String → Bool} {source : Value} {text : String}
    {f : Fault} (h : readText cast isCommand source text = .error f) : f.OfStatement := by
  obtain ⟨key, rfl⟩ | ⟨character, expression, rfl⟩ := readText_unknown h
  · exact .unknownCharacter key
  · exact .unknownExpression character expression

/-- A statement cannot be read for what is wrong with it, or because nothing can be drawn. -/
theorem parse_error {cast : Cast} {isCommand : String → Bool} {statement : Value}
    {draws : List Value} {f : Fault} (h : (parse cast isCommand statement draws).1 = .error f) :
    f.OfStatement ∨ Undrawn statement draws f := by
  unfold parse at h
  split at h
  · rename_i g left hs
    cases h
    exact select_error hs
  · exact .inl (readText_error h)

theorem key_ne_of_colonForm? {text rest : List Char} {key expression : String}
    (h : colonForm? text = some (key, expression, rest)) : key ≠ "" := by
  unfold colonForm? at h
  split at h
  · cases h
  · rename_i hword
    split at h
    · cases h
    · cases h
      intro hempty
      exact hword (by simpa using congrArg String.toList hempty)
  · cases h

/-- Whoever speaks is the narrator or is known. -/
theorem speaker_who {cast : Cast} {text said : List Char} {who : String}
    {expression? : Option String} (h : speaker cast text = .ok (who, expression?, said)) :
    who = narratorKey ∨ cast.Knows who := by
  unfold speaker at h
  split at h
  · rename_i key expression rest hform
    cases hc : cast.character (.text key) with
    | error g => simp [hc, Except.map] at h
    | ok record =>
      simp only [hc, Except.map, Except.ok.injEq, Prod.mk.injEq] at h
      obtain ⟨rfl, -⟩ := h
      exact .inr (Cast.knows_of_character (key_ne_of_colonForm? hform) hc)
  · split at h
    · rename_i key hkey
      cases hc : cast.character (.text key) with
      | error g => simp [hc, Except.map] at h
      | ok record =>
        simp only [hc, Except.map, Except.ok.injEq, Prod.mk.injEq] at h
        obtain ⟨rfl, -⟩ := h
        have hstarts := (Cast.startsLine_iff text key).mp (List.find?_some hkey)
        exact .inr (Cast.knows_of_character hstarts.1 hc)
    · cases h
      exact .inl rfl

theorem readText_who {cast : Cast} {isCommand : String → Bool} {source : Value} {text : String}
    {line : Line} (h : readText cast isCommand source text = .ok line) {who : String}
    (hwho : line.who = some who) : who = narratorKey ∨ cast.Knows who := by
  unfold readText at h
  split at h
  split at h
  · cases h
    cases hwho
  · split at h
    · cases h
    · rename_i speaks expression? said hs
      split at h
      · cases h
      · cases h
        cases hwho
        exact speaker_who hs

theorem parse_who {cast : Cast} {isCommand : String → Bool} {statement : Value}
    {draws : List Value} {line : Line}
    (h : (parse cast isCommand statement draws).1 = .ok line) {who : String}
    (hwho : line.who = some who) : who = narratorKey ∨ cast.Knows who := by
  unfold parse at h
  split at h
  · cases h
  · exact readText_who h hwho

end Statement

end Dialogue
