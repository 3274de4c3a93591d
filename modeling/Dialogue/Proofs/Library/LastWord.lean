import Dialogue.Proofs.Library.Gathering
import Dialogue.Proofs.Script.Sections

/-!
# Who has the last word

Files are taken by name, and what a later one says replaces what an earlier one said about the same
matter: about a label, about a key, about the statements that belong to no label.  So on every
matter the last file that can be used and says something about it has its way, as a whole, and the
files between that say nothing about it, or cannot be used, make no difference.

## Results

* `foldl_lastHolds_iff` — what is told after file upon file is what the last one says that says
  something.
* `tellsLabel_iff`, `tellsLoose_iff`, `tellsRecord_iff` — what a single file says, by what it holds.
* `libraryIn_byLast` — the library of a data folder is what the last usable files say.
* `load_by_last` — a data folder is loaded unless a JSON file in it goes beyond what can be read, and
  then on every matter the last file has its way.
-/

set_option autoImplicit false

namespace Dialogue

namespace Table

variable {κ α β : Type} [DecidableEq κ]

omit [DecidableEq κ] in
theorem Distinct.map {t : List (κ × α)} (h : Distinct t) (f : α → β) :
    Distinct (t.map fun e => (e.1, f e.2)) := by
  have hkeys : keys (t.map fun e => (e.1, f e.2)) = keys t := by simp [keys]
  unfold Distinct
  rw [hkeys]
  exact h

end Table

namespace Library

open Files

/-! ## The last word -/

section LastHolds

variable {β σ : Type} {holds : String × Node → β → Prop}

/-- The last of these files that holds something holds this. -/
def LastHolds (holds : String × Node → β → Prop) (files : Table Node) (b : β) : Prop :=
  ∃ before e after, files = before ++ e :: after ∧ holds e b ∧ ∀ f ∈ after, ∀ c, ¬ holds f c

theorem not_lastHolds_nil (b : β) : ¬ LastHolds holds [] b := by
  rintro ⟨before, e, after, h, -⟩
  simp at h

/-- The first file is the last one when those after it hold nothing. -/
theorem lastHolds_cons_iff {e : String × Node} {files : Table Node} {b : β} :
    LastHolds holds (e :: files) b ↔
      LastHolds holds files b ∨ (∀ f ∈ files, ∀ c, ¬ holds f c) ∧ holds e b := by
  constructor
  · rintro ⟨before, f, after, h, hb, hafter⟩
    cases before with
    | nil =>
      obtain ⟨rfl, rfl⟩ := List.cons.inj h
      exact .inr ⟨hafter, hb⟩
    | cons g before =>
      obtain ⟨rfl, rfl⟩ := List.cons.inj h
      exact .inl ⟨before, f, after, rfl, hb, hafter⟩
  · rintro (⟨before, f, after, rfl, hb, hafter⟩ | ⟨hfiles, hb⟩)
    · exact ⟨e :: before, f, after, rfl, hb, hafter⟩
    · exact ⟨[], e, files, rfl, hb, hfiles⟩

/-- There is a last one when any file holds something. -/
theorem exists_lastHolds_iff {files : Table Node} :
    (∃ b, LastHolds holds files b) ↔ ∃ e ∈ files, ∃ b, holds e b := by
  constructor
  · rintro ⟨b, before, e, after, rfl, hb, -⟩
    exact ⟨e, by simp, b, hb⟩
  · intro h
    induction files with
    | nil => simp at h
    | cons f rest ih =>
      by_cases hrest : ∃ g ∈ rest, ∃ b, holds g b
      · obtain ⟨b, hb⟩ := ih hrest
        exact ⟨b, lastHolds_cons_iff.mpr (.inl hb)⟩
      · obtain ⟨e, he, b, hb⟩ := h
        rcases List.mem_cons.mp he with rfl | he
        · exact ⟨b, lastHolds_cons_iff.mpr (.inr ⟨fun g hg c hc => hrest ⟨g, hg, c, hc⟩, hb⟩)⟩
        · exact absurd ⟨e, he, b, hb⟩ hrest

variable {add : σ → String × Node → σ} {tell : String × Node → Option β}

/-- **What is told after file upon file is what the last one holds that holds something, or what was
told before all of them.** -/
theorem foldl_lastHolds_iff (look : σ → Option β) (tells : ∀ e b, tell e = some b ↔ holds e b)
    (step : ∀ store e, look (add store e) = (tell e).or (look store)) {store : σ}
    {files : Table Node} {b : β} :
    look (files.foldl add store) = some b ↔
      LastHolds holds files b ∨ (∀ f ∈ files, ∀ c, ¬ holds f c) ∧ look store = some b := by
  induction files generalizing store with
  | nil => simp [not_lastHolds_nil]
  | cons e rest ih =>
    have hnone : tell e = none ↔ ∀ c, ¬ holds e c := by
      simp [← tells, Option.eq_none_iff_forall_ne_some]
    rw [List.foldl_cons, ih, lastHolds_cons_iff, step, Option.or_eq_some_iff, tells, hnone,
      List.forall_mem_cons]
    tauto

end LastHolds

/-! ## What a file holds -/

/-- A file among the scripts that can be used holds these statements under a label. -/
inductive HoldsLabel (label : String) (e : String × Node) : List Value → Prop where
  | json {text : String} {v : Value} {form : Form} {statements : List Value}
    (suffix : Path.suffix [scriptsName, e.1] = ".json") (reads : e.2.readText = .ok text)
    (parses : Json.read text = .ok v) (valid : isScriptFile v = true)
    (entry : (v.get? "labels").bind (Value.get? · label) = some (.list form statements)) :
    HoldsLabel label e statements
  | script {text : String} {texts : List String}
    (suffix : Path.suffix [scriptsName, e.1] = ".script") (reads : e.2.readText = .ok text)
    (entry : Table.get? (Script.read text).labels label = some texts) :
    HoldsLabel label e (texts.map .text)

/-- A file among the scripts that can be used holds these statements under no label, at least
one. -/
inductive HoldsLoose (e : String × Node) : List Value → Prop where
  | json {text : String} {v : Value} {form : Form} {statements : List Value}
    (suffix : Path.suffix [scriptsName, e.1] = ".json") (reads : e.2.readText = .ok text)
    (parses : Json.read text = .ok v) (valid : isScriptFile v = true)
    (entry : v.get? "sequence" = some (.list form statements)) (nonempty : statements ≠ []) :
    HoldsLoose e statements
  | script {text : String} (suffix : Path.suffix [scriptsName, e.1] = ".script")
    (reads : e.2.readText = .ok text) (nonempty : (Script.read text).loose ≠ []) :
    HoldsLoose e ((Script.read text).loose.map .text)

theorem HoldsLoose.ne_nil {e : String × Node} {statements : List Value}
    (h : HoldsLoose e statements) : statements ≠ [] := by
  cases h with
  | json _ _ _ _ _ nonempty => exact nonempty
  | script _ _ nonempty => exact fun h => nonempty (List.map_eq_nil_iff.mp h)

/-- A file of characters that can be used holds this record under a key. -/
def HoldsRecord (key : String) (e : String × Node) (record : Value) : Prop :=
  ∃ text v, e.2.readText = .ok text ∧ Json.read text = .ok v ∧ isCharacterFile v = true ∧
    v.get? key = some record

theorem valueIn?_eq_some_iff {form : Value → Bool} {n : Node} {v : Value} :
    valueIn? form n = some v ↔
      ∃ text, n.readText = .ok text ∧ Json.read text = .ok v ∧ form v = true := by
  refine ⟨exists_of_valueIn?, ?_⟩
  rintro ⟨text, hread, hparse, hform⟩
  simp [valueIn?, hread, hparse, hform, Except.toOption]

theorem pagesIn?_json {e : String × Node} {text : String} {v : Value}
    (suffix : Path.suffix [scriptsName, e.1] = ".json") (reads : e.2.readText = .ok text)
    (parses : Json.read text = .ok v) (valid : isScriptFile v = true) :
    pagesIn? e = some (.ofValue v) := by
  have hvalue : valueIn? isScriptFile e.2 = some v :=
    valueIn?_eq_some_iff.mpr ⟨text, reads, parses, valid⟩
  simp [pagesIn?, suffix, hvalue]

theorem pagesIn?_script {e : String × Node} {text : String}
    (suffix : Path.suffix [scriptsName, e.1] = ".script") (reads : e.2.readText = .ok text) :
    pagesIn? e = some (.ofScript (Script.read text)) := by
  simp [pagesIn?, suffix, reads, Except.toOption]

/-- Pages come from a script file in JSON or from a text script. -/
theorem cases_of_pagesIn? {e : String × Node} {pages : Pages} (h : pagesIn? e = some pages) :
    (∃ text v, Path.suffix [scriptsName, e.1] = ".json" ∧ e.2.readText = .ok text ∧
        Json.read text = .ok v ∧ isScriptFile v = true ∧ pages = .ofValue v) ∨
      ∃ text, Path.suffix [scriptsName, e.1] = ".script" ∧ e.2.readText = .ok text ∧
        pages = .ofScript (Script.read text) := by
  unfold pagesIn? at h
  split at h
  · rename_i suffix
    obtain ⟨v, hv, rfl⟩ := Option.map_eq_some_iff.mp h
    obtain ⟨text, reads, parses, valid⟩ := exists_of_valueIn? hv
    exact .inl ⟨text, v, suffix, reads, parses, valid, rfl⟩
  · split at h
    · rename_i suffix
      obtain ⟨text, ht, rfl⟩ := Option.map_eq_some_iff.mp h
      exact .inr ⟨text, suffix, Step.ok_of_toOption ht, rfl⟩
    · cases h

/-- The labels of a script file are a mapping of lists. -/
theorem exists_labels_of_isScriptFile {v : Value} (valid : isScriptFile v = true) :
    ∃ labels entries, v.get? "labels" = some labels ∧ labels.entries? = some entries ∧
      ∀ e ∈ entries, ∃ form items, e.2 = .list form items := by
  simp only [isScriptFile, Bool.and_eq_true] at valid
  obtain ⟨⟨hlabels, -⟩, -⟩ := valid
  cases hget : v.get? "labels" with
  | none => simp [required, hget] at hlabels
  | some labels =>
    cases hentries : labels.entries? with
    | none => simp [required, hget, isMappingOf, hentries] at hlabels
    | some entries =>
      refine ⟨labels, entries, rfl, hentries, fun e he => ?_⟩
      have hlist : isListOf isStatement e.2 = true := by
        have hall : ∀ e ∈ entries, isListOf isStatement e.2 = true := by
          simpa [required, hget, isMappingOf, hentries] using hlabels
        exact hall e he
      cases hv : e.2 with
      | list form items => exact ⟨form, items, rfl⟩
      | _ => simp [hv, isListOf] at hlist

theorem get?_ofValue_iff {v : Value} (valid : isScriptFile v = true) {label : String}
    {statements : List Value} :
    Table.get? (Pages.ofValue v).labels label = some statements ↔
      ∃ form, (v.get? "labels").bind (Value.get? · label) = some (.list form statements) := by
  obtain ⟨labels, entries, hget, hentries, hlists⟩ := exists_labels_of_isScriptFile valid
  have hofValue : (Pages.ofValue v).labels = entries.map fun e => (e.1, e.2.members?.getD []) := by
    simp [Pages.ofValue, hget, hentries]
  rw [hofValue, Table.get?_map entries fun v => v.members?.getD [], Option.map_eq_some_iff]
  have hentry : (v.get? "labels").bind (Value.get? · label) = Table.get? entries label := by
    rw [hget, Option.bind_some, Value.get?, hentries, Option.bind_some]
  rw [hentry]
  constructor
  · rintro ⟨w, hw, rfl⟩
    obtain ⟨form, items, rfl⟩ := hlists _ (Table.mem_of_get? hw)
    exact ⟨form, hw⟩
  · rintro ⟨form, hw⟩
    exact ⟨_, hw, rfl⟩

theorem loose_ofValue_iff {v : Value} (valid : isScriptFile v = true) {statements : List Value}
    (nonempty : statements ≠ []) :
    (Pages.ofValue v).loose = statements ↔
      ∃ form, v.get? "sequence" = some (.list form statements) := by
  simp only [isScriptFile, Bool.and_eq_true] at valid
  obtain ⟨-, hloose⟩ := valid
  cases hget : v.get? "sequence" with
  | none => simp [Pages.ofValue, hget, Ne.symm nonempty]
  | some w =>
    cases w with
    | list form items =>
      have hofValue : (Pages.ofValue v).loose = items := by simp [Pages.ofValue, hget, Value.members?]
      rw [hofValue]
      constructor
      · rintro rfl
        exact ⟨form, rfl⟩
      · rintro ⟨form, h⟩
        cases h
        rfl
    | _ => simp [optional, hget, isListOf] at hloose

/-- **What a file says about a label is what it holds under it.** -/
theorem tellsLabel_iff (label : String) (e : String × Node) (statements : List Value) :
    ((pagesIn? e).bind fun pages => Table.get? pages.labels label) = some statements ↔
      HoldsLabel label e statements := by
  rw [Option.bind_eq_some_iff]
  constructor
  · rintro ⟨pages, hpages, hlabel⟩
    rcases cases_of_pagesIn? hpages with
      ⟨text, v, suffix, reads, parses, valid, rfl⟩ | ⟨text, suffix, reads, rfl⟩
    · obtain ⟨form, entry⟩ := (get?_ofValue_iff valid).mp hlabel
      exact .json suffix reads parses valid entry
    · unfold Pages.ofScript at hlabel
      rw [Table.get?_map (Script.read text).labels fun texts => texts.map Value.text] at hlabel
      obtain ⟨texts, entry, rfl⟩ := Option.map_eq_some_iff.mp hlabel
      exact .script suffix reads entry
  · intro h
    cases h with
    | json suffix reads parses valid entry =>
      exact ⟨_, pagesIn?_json suffix reads parses valid, (get?_ofValue_iff valid).mpr ⟨_, entry⟩⟩
    | @script text texts suffix reads entry =>
      refine ⟨_, pagesIn?_script suffix reads, ?_⟩
      unfold Pages.ofScript
      rw [Table.get?_map (Script.read text).labels fun texts => texts.map Value.text, entry]
      rfl

/-- **What a file says under no label is what it holds there, if it is anything.** -/
theorem tellsLoose_iff (e : String × Node) (statements : List Value) :
    ((pagesIn? e).bind fun pages => if pages.loose = [] then none else some pages.loose) =
        some statements ↔ HoldsLoose e statements := by
  rw [Option.bind_eq_some_iff]
  constructor
  · rintro ⟨pages, hpages, hloose⟩
    split at hloose
    · cases hloose
    · rename_i nonempty
      cases hloose
      rcases cases_of_pagesIn? hpages with
        ⟨text, v, suffix, reads, parses, valid, rfl⟩ | ⟨text, suffix, reads, rfl⟩
      · obtain ⟨form, entry⟩ := (loose_ofValue_iff valid nonempty).mp rfl
        exact .json suffix reads parses valid entry nonempty
      · exact .script suffix reads fun h => nonempty (by simp [Pages.ofScript, h])
  · intro h
    cases h with
    | json suffix reads parses valid entry nonempty =>
      have hloose := (loose_ofValue_iff valid nonempty).mpr ⟨_, entry⟩
      exact ⟨_, pagesIn?_json suffix reads parses valid, by simp [hloose, nonempty]⟩
    | script suffix reads nonempty =>
      exact ⟨_, pagesIn?_script suffix reads, by simp [Pages.ofScript, nonempty]⟩

/-- **What a file says about a key is the record that it holds under it.** -/
theorem tellsRecord_iff (key : String) (e : String × Node) (record : Value) :
    ((valueIn? isCharacterFile e.2).bind fun v => v.get? key) = some record ↔
      HoldsRecord key e record := by
  simp only [Option.bind_eq_some_iff, valueIn?_eq_some_iff, HoldsRecord]
  constructor
  · rintro ⟨v, ⟨text, reads, parses, valid⟩, hkey⟩
    exact ⟨text, v, reads, parses, valid, hkey⟩
  · rintro ⟨text, v, reads, parses, valid, hkey⟩
    exact ⟨v, ⟨text, reads, parses, valid⟩, hkey⟩

/-! ## No key twice -/

/-- No key comes twice in a mapping that was read. -/
theorem distinct_of_held {v : Value} (held : Json.Held v) {entries : Table Value}
    (h : v.entries? = some entries) :
    Table.Distinct entries ∧ ∀ e ∈ entries, Json.Held e.2 := by
  cases held with
  | table distinct all =>
    cases h
    exact ⟨distinct, all⟩
  | _ => cases h

/-- No label comes twice in a file. -/
theorem distinct_of_pagesIn? {e : String × Node} {pages : Pages} (h : pagesIn? e = some pages) :
    Table.Distinct pages.labels := by
  rcases cases_of_pagesIn? h with ⟨text, v, -, -, parses, valid, rfl⟩ | ⟨text, -, -, rfl⟩
  · obtain ⟨labels, entries, hget, hentries, -⟩ := exists_labels_of_isScriptFile valid
    obtain ⟨all, hall, hlabels⟩ := Option.bind_eq_some_iff.mp hget
    have hheld : Json.Held labels :=
      (distinct_of_held (Json.read_holds parses) hall).2 _ (Table.mem_of_get? hlabels)
    have hdistinct := (distinct_of_held hheld hentries).1.map fun v => v.members?.getD []
    simpa [Pages.ofValue, hget, hentries] using hdistinct
  · exact (Script.read_distinct text).map _

/-! ## A data folder -/

/-- A library in which on every matter the last file has its way that can be used and says something
about it. -/
structure ByLast (folder : Node) (library : Library) : Prop where
  /-- The labels are those that files hold. -/
  labels : ∀ label, label ∈ Table.keys library.labels ↔
    ∃ e ∈ scriptFiles folder, ∃ statements, HoldsLabel label e statements
  /-- Under a label stand the statements of the last file that holds it. -/
  statements : ∀ label statements, Table.get? library.labels label = some statements ↔
    LastHolds (HoldsLabel label) (scriptFiles folder) statements
  /-- No label comes twice. -/
  labelled : Table.Distinct library.labels
  /-- The statements under no label are those of the last file that holds any. -/
  loose : ∀ statements, statements ≠ [] →
    (library.loose = statements ↔ LastHolds HoldsLoose (scriptFiles folder) statements)
  /-- There are none when no file holds any. -/
  empty : library.loose = [] ↔ ∀ e ∈ scriptFiles folder, ∀ statements, ¬ HoldsLoose e statements
  /-- The keys of characters are those that files hold. -/
  keys : ∀ key, key ∈ Table.keys library.characters ↔
    ∃ e ∈ recordFiles folder, ∃ record, HoldsRecord key e record
  /-- Under a key stands the record of the last file that holds it. -/
  records : ∀ key record, Table.get? library.characters key = some record ↔
    LastHolds (HoldsRecord key) (recordFiles folder) record
  /-- No key comes twice. -/
  keyed : Table.Distinct library.characters

theorem scriptsIn_label_iff (folder : Node) (label : String) (statements : List Value) :
    Table.get? (scriptsIn folder).labels label = some statements ↔
      LastHolds (HoldsLabel label) (scriptFiles folder) statements := by
  refine (foldl_lastHolds_iff (fun pages : Pages => Table.get? pages.labels label)
    (tellsLabel_iff label) fun store e => ?_).trans (by simp [Table.get?])
  cases hpages : pagesIn? e with
  | none => rfl
  | some pages => exact Table.get?_putAll (distinct_of_pagesIn? hpages) label

theorem scriptsIn_loose_iff (folder : Node) {statements : List Value}
    (nonempty : statements ≠ []) :
    (scriptsIn folder).loose = statements ↔
      LastHolds HoldsLoose (scriptFiles folder) statements := by
  have hlook : (scriptsIn folder).loose = statements ↔
      (if (scriptsIn folder).loose = [] then none else some (scriptsIn folder).loose) =
        some statements := by
    split
    · rename_i h
      simp [h, Ne.symm nonempty]
    · simp
  rw [hlook]
  refine (foldl_lastHolds_iff (fun pages : Pages => if pages.loose = [] then none else
    some pages.loose) tellsLoose_iff fun store e => ?_).trans (by simp)
  cases hpages : pagesIn? e with
  | none => rfl
  | some pages =>
    by_cases h : pages.loose = [] <;> simp [addPages, Pages.turn, h]

theorem charactersIn_iff (folder : Node) (key : String) (record : Value) :
    Table.get? (charactersIn folder) key = some record ↔
      LastHolds (HoldsRecord key) (recordFiles folder) record := by
  refine (foldl_lastHolds_iff (fun store : Table Value => Table.get? store key)
    (tellsRecord_iff key) fun store e => ?_).trans (by simp [Table.get?])
  cases hvalue : valueIn? isCharacterFile e.2 with
  | none => rfl
  | some v =>
    obtain ⟨text, -, parses, -⟩ := exists_of_valueIn? hvalue
    cases hentries : v.entries? with
    | none => simp [addRecords, hentries, Value.get?, Table.putAll]
    | some entries =>
      have hdistinct := (distinct_of_held (Json.read_holds parses) hentries).1
      simp [addRecords, hentries, Value.get?, Table.get?_putAll hdistinct]

/-- A table knows what it answers for. -/
theorem mem_keys_iff {β : Type} {holds : String × Node → β → Prop} {files : Table Node}
    {t : Table β} {key : String}
    (answers : ∀ b, Table.get? t key = some b ↔ LastHolds holds files b) :
    key ∈ Table.keys t ↔ ∃ e ∈ files, ∃ b, holds e b := by
  rw [← Table.get?_isSome_iff, Option.isSome_iff_exists, ← exists_lastHolds_iff]
  simp only [answers]

/-- **The library of a data folder is what the last usable files say.** -/
theorem libraryIn_byLast (folder : Node) : ByLast folder (libraryIn folder) where
  labels label := mem_keys_iff (scriptsIn_label_iff folder label)
  statements := scriptsIn_label_iff folder
  labelled := by
    have hnone : Table.Distinct ({} : Pages).labels := List.nodup_nil
    refine List.foldlRecOn (motive := fun pages : Pages => Table.Distinct pages.labels)
      (scriptFiles folder) _ hnone fun store hstore e _ => ?_
    cases pagesIn? e with
    | none => exact hstore
    | some pages => exact hstore.putAll pages.labels
  loose _ := scriptsIn_loose_iff folder
  empty := by
    constructor
    · intro hempty e he statements h
      obtain ⟨last, hlast⟩ := exists_lastHolds_iff.mpr ⟨e, he, statements, h⟩
      have hnonempty : last ≠ [] := by
        obtain ⟨_, _, _, -, h, -⟩ := hlast
        exact h.ne_nil
      exact hnonempty (((scriptsIn_loose_iff folder hnonempty).mpr hlast).symm.trans hempty)
    · intro hnobody
      by_contra hnonempty
      obtain ⟨before, e, after, hfiles, h, -⟩ := (scriptsIn_loose_iff folder hnonempty).mp rfl
      exact hnobody e (by simp [hfiles]) _ h
  keys key := mem_keys_iff (charactersIn_iff folder key)
  records := charactersIn_iff folder
  keyed := List.foldlRecOn (recordFiles folder) _ List.nodup_nil fun _ h _ _ =>
    Table.Distinct.putAll h _

/-- The JSON files that loading reads. -/
def jsonFiles (folder : Node) : Table Node :=
  recordFiles folder ++
    (scriptFiles folder).filter fun e => Path.suffix [scriptsName, e.1] = ".json"

/-- Does the text of a JSON file go beyond what can be read? -/
def Beyond (n : Node) : Prop :=
  ∃ text f, n.readText = .ok text ∧ Json.read text = .error f ∧ Json.OverLimit f

/-- Where JSON files are texts and no plain file stands in the place of the scripts, loading gives up
only at a JSON file that goes beyond what can be read. -/
theorem load_isOk_iff_of_texts {folder : Node}
    (place : ∀ bytes, folder.entry? scriptsName ≠ some (.file bytes))
    (texts : ∀ e ∈ jsonFiles folder, e.2.readText ≠ .error .notText) (old : Library) :
    (load folder old).1.1 = .ok () ↔ ∀ e ∈ jsonFiles folder, ¬ Beyond e.2 := by
  have hhalts : ∀ e ∈ jsonFiles folder, (Halts e.2 ↔ Beyond e.2) := fun e he =>
    ⟨fun h => h.resolve_left (texts e he), .inr⟩
  rw [load_isOk_iff]
  constructor
  · rintro ⟨hcharacters, hscripts⟩ e he hbeyond
    have hhalt := (hhalts e he).mpr hbeyond
    rcases List.mem_append.mp he with he | he
    · exact hcharacters ⟨e, he, hhalt⟩
    · obtain ⟨he, hsuffix⟩ := List.mem_filter.mp he
      exact hscripts (.inr ⟨e, he, of_decide_eq_true hsuffix, hhalt⟩)
  · intro hnone
    constructor
    · rintro ⟨e, he, hhalt⟩
      have hjson : e ∈ jsonFiles folder := List.mem_append_left _ he
      exact hnone e hjson ((hhalts e hjson).mp hhalt)
    · rintro (⟨bytes, hplain⟩ | ⟨e, he, hsuffix, hhalt⟩)
      · exact place bytes hplain
      · have hjson : e ∈ jsonFiles folder :=
          List.mem_append_right _ (List.mem_filter.mpr ⟨he, decide_eq_true hsuffix⟩)
        exact hnone e hjson ((hhalts e hjson).mp hhalt)

/-- These are the files of a folder, by name. -/
structure InOrder (files entries : Table Node) : Prop where
  sorted : files.Pairwise Node.Before
  all : files.Perm entries

theorem byName_inOrder (entries : Table Node) : InOrder (Node.byName entries) entries := by
  rw [Node.byName_eq]
  exact ⟨List.pairwise_insertionSort _ _, List.perm_insertionSort _ _⟩

/-- **Where JSON files are texts and no plain file stands in the place of the scripts, a data folder
is loaded unless a JSON file goes beyond what can be read, and then on every matter the last file by
name has its way that can be used and says something about it.** -/
theorem load_by_last {folder : Node}
    (place : ∀ bytes, folder.entry? scriptsName ≠ some (.file bytes))
    (texts : ∀ e ∈ jsonFiles folder, e.2.readText ≠ .error .notText) (old : Library) :
    ((load folder old).1.1 = .ok () ↔ ∀ e ∈ jsonFiles folder, ¬ Beyond e.2) ∧
      ((load folder old).1.1 = .ok () → ByLast folder (load folder old).1.2) ∧
      InOrder (scriptFiles folder) (entriesIn folder scriptsName) ∧
      InOrder (recordFiles folder)
        ((entriesIn folder charactersName).filter fun e => Path.endsIn e.1 ".json") := by
  refine ⟨load_isOk_iff_of_texts place texts old, fun h => ?_, byName_inOrder _, byName_inOrder _⟩
  have hload : (load folder old).1 = (.ok (), (load folder old).1.2) := Prod.ext h rfl
  rw [← (load_eq_ok_iff.mp hload).2]
  exact libraryIn_byLast folder

/-- Two scripts in JSON about one label, of which the later one has nothing under no label, a text
script with another label, a file that is no JSON, and two records of one character. -/
def revised : Node :=
  .folder [("characters", .folder
      [("b.json", .file "\x7b\"a\": \x7b\"name\": \"Ann\"\x7d\x7d".toUTF8),
       ("a.json", .file "\x7b\"a\": \x7b\"position\": \"left\"\x7d\x7d".toUTF8)]),
    ("script", .folder
      [("b.json", .file "\x7b\"labels\": \x7b\"x\": [\"r Ho\"]\x7d, \"sequence\": []\x7d".toUTF8),
       ("a.json", .file ("\x7b\"labels\": \x7b\"x\": [\"r Hi\", \"r Hm\"]\x7d, " ++
          "\"sequence\": [\"Once\"]\x7d").toUTF8),
       ("c.script", .file "# y\nr So".toUTF8), ("d.json", .file "\x7b".toUTF8)])]

/-- What it holds. -/
def revision : Library where
  characters := [("a", .ofTable [("name", .text "Ann")])]
  labels := [("x", [.text "r Ho"]), ("y", [.text "r So"])]
  loose := [.text "Once"]

/-- The general theorem for this folder. -/
theorem load_by_last_revised :
    (load revised {}).1 = (.ok (), revision) ∧ ByLast revised revision := by
  have hload : (load revised {}).1.1.toOption = some () ∧ (load revised {}).1.2 = revision := by
    decide +kernel
  have hplace : ∀ bytes, revised.entry? scriptsName ≠ some (.file bytes) := by
    intro bytes h
    cases h
  have hread : ∀ e ∈ jsonFiles revised, e.2.readText.toOption.isSome = true := by decide +kernel
  have htexts : ∀ e ∈ jsonFiles revised, e.2.readText ≠ .error .notText := by
    intro e he h
    have hsome := hread e he
    rw [h] at hsome
    cases hsome
  have hok := Step.ok_of_toOption hload.1
  obtain ⟨-, hlast, -⟩ := load_by_last hplace htexts {}
  exact ⟨Prod.ext hok hload.2, hload.2 ▸ hlast hok⟩

end Library

end Dialogue
