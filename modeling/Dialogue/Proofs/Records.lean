import Dialogue.Character.Reading
import Dialogue.Library.Schema

/-!
# Records that files may hold

A character file may hold a record when every field in it is a known one and has its form.  Such a
record makes a character with the fields that it gives, unless it gives a field under both of its
spellings.  Then one of them counts, and the other is a field that nobody knows.

## Results

* `Field.readFrom_eq` — a field is read from the mapping under either spelling.
* `Regular.ofEntries_put` — a record that files may hold is rejected for unknown fields only.
* `Regular.mem_unknownFields_iff` — nothing is unknown in it but the plain spelling of a field that
  it gives twice.
* `readAs_of_isRecord` — a record that gives no field twice makes the character that it describes.
* `readAs_of_ambiguous` — any other record is rejected for the fields that it gives twice.
-/

set_option autoImplicit false

namespace Dialogue

open Library (isText isMappingOf isKindName isMapping isRecord recordFields)

namespace Character

/-! ## What a record gives -/

namespace Field

/-- What a mapping gives for a field, under either of its spellings. -/
def given? (f : Field) (entries : Table Value) : Option Value :=
  (f.alias?.bind (Table.get? entries)).or (Table.get? entries f.name)

/-- Does a mapping give a field under both of its spellings? -/
def doubled (f : Field) (entries : Table Value) : Bool :=
  f.alias?.any fun other => Table.has entries other && Table.has entries f.name

theorem spelling?_eq_some_iff {f : Field} {entries : Table Value} {spelling : String} :
    f.spelling? entries = some spelling ↔ Table.has entries spelling = true ∧
      (f.alias? = some spelling ∨ f.name = spelling ∧ f.doubled entries = false) := by
  unfold spelling? doubled
  cases f.alias? with
  | none =>
    cases hn : Table.has entries f.name <;> grind
  | some other =>
    cases ho : Table.has entries other <;> cases hn : Table.has entries f.name <;> grind

/-- A field is read from the mapping under either spelling. -/
theorem readFrom_eq {α : Type} {f : Field} {entries : Table Value} {default : α}
    {read : List String → Value → Checked α} (out : Value → α)
    (h : ∀ v, f.given? entries = some v → ∀ place, read place v = .ok (out v)) :
    f.readFrom entries default read = .ok ((f.given? entries).elim default out) := by
  unfold given? at h ⊢
  unfold readFrom spelling? Table.has
  cases ha : f.alias? with
  | none =>
    cases hn : Table.get? entries f.name with
    | none => simp
    | some v => simp [hn, h v (by simp [ha, hn])]
  | some other =>
    cases ho : Table.get? entries other with
    | none =>
      cases hn : Table.get? entries f.name with
      | none => simp [ho]
      | some v => simp [ho, hn, h v (by simp [ha, ho, hn])]
    | some v => simp [ho, h v (by simp [ha, ho])]

end Field

/-- The texts of a mapping with texts. -/
def textsOf (v : Value) : Table String :=
  (v.entries?.getD []).filterMap fun e => e.2.text?.map fun s => (e.1, s)

/-- The character that a mapping describes: what is not given takes its default. -/
def described (key : String) (entries : Table Value) : Character where
  key
  name := (Field.shownName.given? entries).elim none Value.text?
  expressions := (Field.expressions.given? entries).elim [] textsOf
  defaultExpression := (Field.defaultExpression.given? entries).elim none Value.text?
  kind := (Field.kind.given? entries).elim .pop fun v => (DialogKind.ofValue? v).getD .pop
  position := (Field.position.given? entries).elim none Value.text?
  options := (Field.options.given? entries).elim none Value.entries?

/-- Does a mapping give some field under both of its spellings? -/
def Ambiguous (entries : Table Value) : Prop :=
  ∃ f ∈ Field.all, f.doubled entries = true

instance (entries : Table Value) : Decidable (Ambiguous entries) :=
  inferInstanceAs (Decidable (∃ f ∈ Field.all, f.doubled entries = true))

/-! ## The form of what is given -/

theorem optionalAt_text {v : Value} (h : isText v = true) (place : List String) :
    optionalAt (textAt place) v = .ok v.text? := by
  cases v with
  | text s => rfl
  | _ => cases h

theorem textEntriesAt_eq (place : List String) {entries : Table Value}
    (h : ∀ e ∈ entries, isText e.2 = true) :
    textEntriesAt place entries =
      .ok (entries.filterMap fun e => e.2.text?.map fun s => (e.1, s)) := by
  induction entries with
  | nil => rfl
  | cons e rest ih =>
    obtain ⟨k, v⟩ := e
    obtain ⟨hv, hrest⟩ := List.forall_mem_cons.mp h
    cases v with
    | text s =>
      unfold textEntriesAt
      rw [ih hrest]
      rfl
    | _ => cases hv

theorem textsAt_eq {v : Value} (h : isMappingOf isText v = true) (place : List String) :
    textsAt place v = .ok (textsOf v) := by
  cases v with
  | tree form entries =>
    have htexts : ∀ e ∈ entries, isText e.2 = true := by
      simpa [isMappingOf, Value.entries?] using h
    exact textEntriesAt_eq place htexts
  | _ => cases h

theorem kindAt_eq {v : Value} (h : isKindName v = true) (place : List String) :
    kindAt place v = .ok ((DialogKind.ofValue? v).getD .pop) := by
  unfold isKindName at h
  unfold kindAt
  cases hk : DialogKind.ofValue? v with
  | none => simp [hk] at h
  | some k => simp

theorem optionalAt_mapping {v : Value} (h : isMapping v = true) (place : List String) :
    optionalAt (mappingAt place) v = .ok v.entries? := by
  cases v with
  | tree form entries => rfl
  | _ => cases h

/-! ## Records -/

/-- Under each of its spellings a field must have this form. -/
structure Field.Formed (f : Field) (form : Value → Bool) : Prop where
  plain : Table.get? recordFields f.name = some form
  other : ∀ spelling, f.alias? = some spelling → Table.get? recordFields spelling = some form

theorem Field.Formed.given?_put {f : Field} {form : Value → Bool} (formed : f.Formed form)
    (entries : Table Value) (key : Value) :
    f.given? (Table.put entries "key" key) = f.given? entries := by
  have hnone : Table.get? recordFields "key" = none := rfl
  have hplain : f.name ≠ "key" := by
    intro h
    have := formed.plain
    rw [h, hnone] at this
    cases this
  unfold Field.given?
  rw [Table.get?_put_of_ne _ _ hplain]
  cases ha : f.alias? with
  | none => rfl
  | some spelling =>
    have hother : spelling ≠ "key" := by
      intro h
      have := formed.other spelling ha
      rw [h, hnone] at this
      cases this
    rw [Option.bind_some, Option.bind_some, Table.get?_put_of_ne _ _ hother]

theorem doubled_put {f : Field} (hf : f ∈ Field.all) (entries : Table Value) (key : Value) :
    f.doubled (Table.put entries "key" key) = f.doubled entries := by
  have hapart : ∀ f ∈ Field.all,
      f.alias?.all (fun other => other ≠ "key" ∧ f.name ≠ "key") = true := by decide
  unfold Field.doubled Table.has
  cases ha : f.alias? with
  | none => rfl
  | some other =>
    have hne : other ≠ "key" ∧ f.name ≠ "key" := by simpa [ha] using hapart f hf
    simp only [Option.any_some, Table.get?_put_of_ne _ _ hne.1, Table.get?_put_of_ne _ _ hne.2]

theorem mem_unknownFields {entries : Table Value} {issue : Issue} :
    issue ∈ unknownFields entries ↔ ∃ k ∈ Table.keys entries,
      (∀ f ∈ Field.all, f.spelling? entries ≠ some k) ∧ issue = ⟨[k], .unknownField⟩ := by
  unfold unknownFields
  constructor
  · intro h
    obtain ⟨k, hk, rfl⟩ := List.mem_map.mp h
    obtain ⟨hk, hnone⟩ := List.mem_filter.mp hk
    refine ⟨k, hk, ?_, rfl⟩
    simpa using hnone
  · rintro ⟨k, hk, hnone, rfl⟩
    refine List.mem_map.mpr ⟨k, List.mem_filter.mpr ⟨hk, ?_⟩, rfl⟩
    simpa using hnone

theorem readFrom_key (entries : Table Value) (key : String) :
    Field.key.readFrom (Table.put entries "key" (.text key)) "" textAt = .ok key := by
  have hget : Table.get? (Table.put entries "key" (Value.text key)) "key" = some (.text key) :=
    Table.get?_put_self _ _ _
  simp [Field.readFrom, Field.spelling?, Field.key, Table.has, hget, textAt]

/-- Every entry of a record is a field and has the form of this field. -/
def Regular (entries : Table Value) : Prop :=
  ∀ e ∈ entries, ∃ form, Table.get? recordFields e.1 = some form ∧ form e.2 = true

theorem regular_of_isRecord {v : Value} {entries : Table Value} (hv : v.entries? = some entries)
    (h : isRecord v = true) : Regular entries := by
  have hall : ∀ e ∈ entries, (Table.get? recordFields e.1).any (fun form => form e.2) = true := by
    simpa [isRecord, hv] using h
  intro e he
  cases hform : Table.get? recordFields e.1 with
  | none => simpa [hform] using hall e he
  | some form => exact ⟨form, rfl, by simpa [hform] using hall e he⟩

section Records

variable {entries : Table Value} (regular : Regular entries)

include regular

/-- What a record gives for a field has the form of this field. -/
theorem Regular.given {f : Field} {form : Value → Bool} (formed : f.Formed form) {v : Value}
    (given : f.given? entries = some v) : form v = true := by
  obtain ⟨spelling, hget, hform⟩ : ∃ spelling, Table.get? entries spelling = some v ∧
      Table.get? recordFields spelling = some form := by
    unfold Field.given? at given
    rcases Option.or_eq_some_iff.mp given with halias | ⟨-, hplain⟩
    · obtain ⟨spelling, hspelling, hget⟩ := Option.bind_eq_some_iff.mp halias
      exact ⟨spelling, hget, formed.other spelling hspelling⟩
    · exact ⟨f.name, hplain, formed.plain⟩
  obtain ⟨found, hfound, hv⟩ := regular _ (Table.mem_of_get? hget)
  rw [hform] at hfound
  cases hfound
  exact hv

theorem Regular.readFrom_put {α : Type} {f : Field} {form : Value → Bool} (formed : f.Formed form)
    {default : α} {read : List String → Value → Checked α} {out : Value → α} (key : Value)
    (h : ∀ v, form v = true → ∀ place, read place v = .ok (out v)) :
    f.readFrom (Table.put entries "key" key) default read =
      .ok ((f.given? entries).elim default out) := by
  rw [Field.readFrom_eq out, formed.given?_put]
  intro v hv place
  rw [formed.given?_put] at hv
  exact h v (regular.given formed hv) place

/-- A record is rejected for what is unknown in it, and for nothing else. -/
theorem Regular.ofEntries_put (key : String) :
    ofEntries (Table.put entries "key" (.text key)) =
      match unknownFields (Table.put entries "key" (.text key)) with
      | [] => .ok (described key entries)
      | unknown => .error unknown := by
  have hname : Field.shownName.Formed isText := ⟨rfl, by rintro _ ⟨⟩⟩
  have hexpressions : Field.expressions.Formed (isMappingOf isText) := ⟨rfl, by rintro _ ⟨⟩⟩
  have hdefault : Field.defaultExpression.Formed isText := ⟨rfl, by rintro _ ⟨⟩; rfl⟩
  have hkind : Field.kind.Formed isKindName := ⟨rfl, by rintro _ ⟨⟩; rfl⟩
  have hposition : Field.position.Formed isText := ⟨rfl, by rintro _ ⟨⟩⟩
  have hoptions : Field.options.Formed isMapping := ⟨rfl, by rintro _ ⟨⟩; rfl⟩
  unfold ofEntries
  rw [readFrom_key, regular.readFrom_put hname _ fun _ => optionalAt_text,
    regular.readFrom_put hexpressions _ fun _ => textsAt_eq,
    regular.readFrom_put hdefault _ fun _ => optionalAt_text,
    regular.readFrom_put hkind _ fun _ => kindAt_eq,
    regular.readFrom_put hposition _ fun _ => optionalAt_text,
    regular.readFrom_put hoptions _ fun _ => optionalAt_mapping]
  cases unknownFields (Table.put entries "key" (.text key)) <;> rfl

theorem Regular.exists_field {key : Value} {k : String}
    (h : k ∈ Table.keys (Table.put entries "key" key)) :
    ∃ f ∈ Field.all, f.alias? = some k ∨ f.name = k := by
  rcases (Table.mem_keys_put _ _ _ _).mp h with hk | rfl
  · obtain ⟨e, he, rfl⟩ := List.mem_map.mp hk
    obtain ⟨form, hform, -⟩ := regular e he
    have hnames : ∀ name ∈ Table.keys recordFields,
        ∃ f ∈ Field.all, f.alias? = some name ∨ f.name = name := by decide
    exact hnames e.1 ((Table.get?_isSome_iff _ _).mp (by rw [hform]; rfl))
  · exact ⟨Field.key, by decide, .inr rfl⟩

/-- Nothing is unknown in a record but the plain spelling of a field that it gives twice. -/
theorem Regular.mem_unknownFields_iff (key : Value) (issue : Issue) :
    issue ∈ unknownFields (Table.put entries "key" key) ↔
      ∃ f ∈ Field.all, f.doubled entries = true ∧ issue = ⟨[f.name], .unknownField⟩ := by
  rw [mem_unknownFields]
  constructor
  · rintro ⟨k, hk, hnone, rfl⟩
    obtain ⟨f, hf, hspelled⟩ := regular.exists_field hk
    have hhas := (Table.get?_isSome_iff (Table.put entries "key" key) k).mpr hk
    have hnot := hnone f hf
    rw [ne_eq, Field.spelling?_eq_some_iff, doubled_put hf] at hnot
    -- a second spelling that is there is always the one that counts
    have hplain : f.name = k :=
      hspelled.resolve_left fun halias => hnot ⟨hhas, .inl halias⟩
    refine ⟨f, hf, ?_, by rw [hplain]⟩
    cases hdoubled : f.doubled entries with
    | true => rfl
    | false => exact absurd ⟨hhas, .inr ⟨hplain, hdoubled⟩⟩ hnot
  · rintro ⟨f, hf, hdoubled, rfl⟩
    refine ⟨f.name, ?_, ?_, rfl⟩
    · have hhas : Table.has entries f.name = true := by
        unfold Field.doubled at hdoubled
        cases ha : f.alias? with
        | none => simp [ha] at hdoubled
        | some other =>
          have hboth : Table.has entries other = true ∧ Table.has entries f.name = true := by
            simpa [ha] using hdoubled
          exact hboth.2
      exact (Table.mem_keys_put _ _ _ _).mpr (.inl ((Table.get?_isSome_iff _ _).mp hhas))
    · -- no other field has this spelling, and this field is read under its second one
      intro g hg hspelling
      have hapart : ∀ f ∈ Field.all, ∀ g ∈ Field.all,
          g.alias? ≠ some f.name ∧ (g.name = f.name → g = f) := by decide
      rw [Field.spelling?_eq_some_iff, doubled_put hg] at hspelling
      rcases hspelling.2 with halias | ⟨hname, hsingle⟩
      · exact (hapart f hf g hg).1 halias
      · rw [(hapart f hf g hg).2 hname, hdoubled] at hsingle
        cases hsingle

end Records

/-- **A record that files may hold, and that gives no field twice, makes the character that it
describes.** -/
theorem readAs_of_isRecord {v : Value} {entries : Table Value} (hv : v.entries? = some entries)
    (h : isRecord v = true) (single : ¬ Ambiguous entries) (key : String) :
    readAs key v = .ok (described key entries) := by
  have regular := regular_of_isRecord hv h
  have hnone : unknownFields (Table.put entries "key" (.text key)) = [] := by
    refine List.eq_nil_iff_forall_not_mem.mpr fun issue hissue => ?_
    obtain ⟨f, hf, hdoubled, -⟩ := (regular.mem_unknownFields_iff _ issue).mp hissue
    exact single ⟨f, hf, hdoubled⟩
  unfold readAs
  rw [hv]
  simp only [regular.ofEntries_put, hnone]
  rfl

/-- **A record that gives some field twice is rejected**, for the plain spellings of such fields. -/
theorem readAs_of_ambiguous {v : Value} {entries : Table Value} (hv : v.entries? = some entries)
    (h : isRecord v = true) (double : Ambiguous entries) (key : String) :
    ∃ issues, readAs key v = .error (.invalidRecord issues) ∧ ∀ issue, issue ∈ issues ↔
      ∃ f ∈ Field.all, f.doubled entries = true ∧ issue = ⟨[f.name], .unknownField⟩ := by
  have regular := regular_of_isRecord hv h
  refine ⟨unknownFields (Table.put entries "key" (.text key)), ?_,
    regular.mem_unknownFields_iff _⟩
  obtain ⟨f, hf, hdoubled⟩ := double
  have hmem := (regular.mem_unknownFields_iff (.text key) _).mpr ⟨f, hf, hdoubled, rfl⟩
  unfold readAs
  rw [hv]
  simp only [regular.ofEntries_put]
  cases hu : unknownFields (Table.put entries "key" (.text key)) with
  | nil =>
    rw [hu] at hmem
    cases hmem
  | cons issue rest => rfl

end Character

end Dialogue
