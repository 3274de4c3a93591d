import Dialogue.Library.Loading
import Dialogue.Proofs.Json
import Dialogue.Proofs.Step
import Mathlib.Data.List.Sort

/-!
# What is gathered from files

Loading takes file after file and reports as it goes.  What it takes from a file is told by the file
alone, so what it takes from all of them is told by the folder alone, whatever was reported before.

Loading gives up at a plain file in the place of the scripts, at a JSON file that is no text and at
one that goes beyond what can be read.  Any other file counts when it can be used.

## Results

* `Step.Gives.bind` — steps whose answers do not depend on the state have such an answer together.
* `Node.filter_byName` — leaving entries out and ordering them by name can change places.
* `jsonIn_eq_ok_iff`, `pagesIn_eq_ok_iff` — what a single file gives.
* `gather_eq_ok_iff` — files can be gathered when each of them can, and then each of them counts.
* `load_eq_ok_iff` — what loading answers is told by the folder: it is all that can be used, unless
  loading gives up.
-/

set_option autoImplicit false

namespace Dialogue

/-! ## Answers that do not depend on the state -/

namespace Step

variable {σ α β : Type}

/-- A step answers in the same way in every state. -/
def Gives (x : Step σ α) (result : Except Fault α) : Prop :=
  ∀ s, (x s).1 = result

theorem Gives.bind {x : Step σ α} {f : α → Step σ β} {result : Except Fault α}
    {next : α → Except Fault β} (hx : Gives x result) (hf : ∀ a, Gives (f a) (next a)) :
    Gives (x >>= f) (result >>= next) := by
  intro s
  have hs := hx s
  rw [bind_apply]
  cases h : x s with
  | mk answer t =>
    rw [h] at hs
    cases hs
    cases answer with
    | ok a => exact hf a t
    | error e => rfl

theorem gives_pure (a : α) : Gives (pure a : Step σ α) (.ok a) :=
  fun _ => rfl

theorem gives_throw (f : Fault) : Gives (throw f : Step σ α) (.error f) :=
  fun _ => rfl

theorem gives_modify (f : σ → σ) : Gives (modify f : Step σ Unit) (.ok ()) :=
  fun _ => rfl

end Step

/-! ## Entries by name -/

namespace Files.Node

/-- Does the name of one entry come before that of another? -/
def Before (e f : String × Node) : Prop :=
  e.1 ≤ f.1

instance : DecidableRel Before := fun e f =>
  inferInstanceAs (Decidable (e.1 ≤ f.1))

instance : IsTrans (String × Node) Before :=
  ⟨fun _ _ _ => String.le_trans⟩

instance : Std.Total Before :=
  ⟨fun e f => String.le_total e.1 f.1⟩

theorem insertByName_eq (e : String × Node) (entries : Table Node) :
    insertByName e entries = entries.orderedInsert Before e := by
  induction entries with
  | nil => rfl
  | cons f rest ih =>
    unfold insertByName
    rw [List.orderedInsert_cons, ih]
    rfl

theorem byName_eq (entries : Table Node) : byName entries = entries.insertionSort Before := by
  induction entries with
  | nil => rfl
  | cons e rest ih =>
    rw [List.insertionSort_cons, ← ih, ← insertByName_eq]
    rfl

theorem mem_byName {entries : Table Node} {e : String × Node} :
    e ∈ byName entries ↔ e ∈ entries := by
  rw [byName_eq, List.mem_insertionSort]

theorem filter_orderedInsert (keep : String × Node → Bool) (e : String × Node)
    {entries : Table Node} (sorted : entries.Pairwise Before) :
    (entries.orderedInsert Before e).filter keep =
      if keep e then (entries.filter keep).orderedInsert Before e else entries.filter keep := by
  induction entries with
  | nil => simp [List.filter_cons]
  | cons f rest ih =>
    obtain ⟨hf, hrest⟩ := List.pairwise_cons.mp sorted
    by_cases hle : Before e f
    · -- what is left stands behind the new entry too, since it stood behind the first one
      have hbefore : ∀ g ∈ (f :: rest).filter keep, Before e g := by
        intro g hg
        rcases List.mem_cons.mp (List.mem_filter.mp hg).1 with rfl | hg
        · exact hle
        · exact String.le_trans hle (hf g hg)
      have hfront : ((f :: rest).filter keep).orderedInsert Before e =
          e :: (f :: rest).filter keep := by
        cases hl : (f :: rest).filter keep with
        | nil => rfl
        | cons g more => exact List.orderedInsert_cons_of_le _ _ (hbefore g (by simp [hl]))
      rw [List.orderedInsert_cons_of_le _ _ hle, hfront, List.filter_cons]
    · rw [List.orderedInsert_of_not_le _ _ hle, List.filter_cons, List.filter_cons, ih hrest]
      cases keep f <;> cases keep e <;> simp [hle]

/-- Leaving entries out and ordering them by name can change places. -/
theorem filter_byName (keep : String × Node → Bool) (entries : Table Node) :
    (byName entries).filter keep = byName (entries.filter keep) := by
  rw [byName_eq, byName_eq]
  induction entries with
  | nil => rfl
  | cons e rest ih =>
    rw [List.insertionSort_cons, filter_orderedInsert keep e (List.pairwise_insertionSort _ _), ih,
      List.filter_cons]
    split
    · rw [List.insertionSort_cons]
    · rfl

end Files.Node

namespace Library

open Files

/-! ## One file -/

/-- The value of a JSON file that can be used: it can be read as text, the text is JSON, and the
value has the right form. -/
def valueIn? (form : Value → Bool) (n : Node) : Option Value :=
  (n.readText.toOption.bind fun s => (Json.read s).toOption).filter form

/-- Does loading give up at this JSON file?  It is no text, or its text goes beyond what can be
read. -/
def Halts (n : Node) : Prop :=
  n.readText = .error .notText ∨
    ∃ s f, n.readText = .ok s ∧ Json.read s = .error f ∧ Json.OverLimit f

/-- What a JSON file gives to loading, unless it ends it. -/
def jsonIn (form : Value → Bool) (n : Node) : Except Fault (Option Value) :=
  match n.readText with
  | .error .notText => .error .notText
  | .error _ => .ok none
  | .ok s =>
    match Json.read s with
    | .error .notJson => .ok none
    | .error f => .error f
    | .ok v => .ok (if form v then some v else none)

theorem jsonIn_eq_ok_iff {form : Value → Bool} {n : Node} {found : Option Value} :
    jsonIn form n = .ok found ↔ ¬ Halts n ∧ valueIn? form n = found := by
  unfold jsonIn valueIn? Halts
  cases ht : n.readText with
  | error f => cases f <;> simp [Except.toOption]
  | ok s =>
    cases hs : Json.read s with
    | error f =>
      have hover := Json.overLimit_iff hs
      cases f <;> simp [hs, hover, Except.toOption]
    | ok v => simp [hs, Except.toOption, Option.filter]

theorem exists_of_valueIn? {form : Value → Bool} {n : Node} {v : Value}
    (h : valueIn? form n = some v) :
    ∃ s, n.readText = .ok s ∧ Json.read s = .ok v ∧ form v = true := by
  obtain ⟨hread, hform⟩ := Option.filter_eq_some_iff.mp h
  obtain ⟨s, hs, hv⟩ := Option.bind_eq_some_iff.mp hread
  exact ⟨s, Step.ok_of_toOption hs, Step.ok_of_toOption hv, hform⟩

theorem not_halts_of_valueIn? {form : Value → Bool} {n : Node} {v : Value}
    (h : valueIn? form n = some v) : ¬ Halts n := by
  obtain ⟨s, hs, hv, -⟩ := exists_of_valueIn? h
  simp [Halts, hs, hv]

/-- The pages of a file of the folder of scripts that can be used. -/
def pagesIn? (e : String × Node) : Option Pages :=
  if Path.suffix [scriptsName, e.1] = ".json" then
    (valueIn? isScriptFile e.2).map .ofValue
  else if Path.suffix [scriptsName, e.1] = ".script" then
    e.2.readText.toOption.map fun s => .ofScript (Script.read s)
  else none

/-- What a file of the folder of scripts gives to loading, unless it ends it. -/
def pagesIn (e : String × Node) : Except Fault (Option Pages) :=
  if Path.suffix [scriptsName, e.1] = ".json" then
    (jsonIn isScriptFile e.2).map (Option.map Pages.ofValue)
  else .ok (pagesIn? e)

theorem pagesIn_eq_ok_iff {e : String × Node} {found : Option Pages} :
    pagesIn e = .ok found ↔
      ¬ (Path.suffix [scriptsName, e.1] = ".json" ∧ Halts e.2) ∧ pagesIn? e = found := by
  unfold pagesIn
  by_cases hjson : Path.suffix [scriptsName, e.1] = ".json"
  · have hmap : (jsonIn isScriptFile e.2).map (Option.map Pages.ofValue) = .ok found ↔
        ∃ v, jsonIn isScriptFile e.2 = .ok v ∧ v.map Pages.ofValue = found := by
      cases jsonIn isScriptFile e.2 <;> simp [Except.map]
    rw [if_pos hjson, hmap]
    simp [pagesIn?, hjson, jsonIn_eq_ok_iff]
  · rw [if_neg hjson]
    simp [hjson]

theorem loadJson_gives (form : Value → Bool) (path : Path) (n : Node) :
    Step.Gives (loadJson form path n) (jsonIn form n) := by
  unfold loadJson jsonIn
  cases n.readText with
  | error f => cases f <;> exact fun _ => rfl
  | ok s =>
    cases hv : Json.read s with
    | error f =>
      simp only [hv]
      cases f <;> exact fun _ => rfl
    | ok v =>
      simp only [hv]
      split <;> exact fun _ => rfl

theorem loadPages_gives (e : String × Node) :
    Step.Gives (loadPages [scriptsName, e.1] e.2) (pagesIn e) := by
  unfold loadPages pagesIn pagesIn?
  split
  · exact (loadJson_gives isScriptFile _ e.2).bind fun found => Step.gives_pure _
  · split
    · cases e.2.readText with
      | ok s => exact Step.gives_pure _
      | error f => exact (Step.gives_modify _).bind fun _ => Step.gives_pure _
    · exact Step.gives_pure _

/-! ## File after file -/

/-- Take over what files give, one after the other. -/
def gather {α σ : Type} (read : String × Node → Except Fault α) (put : σ → α → σ) (store : σ)
    (files : Table Node) : Except Fault σ :=
  files.foldlM (fun store e => (read e).map (put store)) store

section Gather

variable {α σ : Type} {read : String × Node → Except Fault α} {put : σ → α → σ}

theorem gather_cons (store : σ) (e : String × Node) (files : Table Node) :
    gather read put store (e :: files) =
      (read e).bind fun a => gather read put (put store a) files := by
  unfold gather
  rw [List.foldlM_cons]
  cases read e <;> rfl

/-- Files can be gathered when none of them ends the loading, and then each of them counts. -/
theorem gather_eq_ok_iff {bad : String × Node → Prop} {what : String × Node → α}
    (reads : ∀ {e a}, read e = .ok a ↔ ¬ bad e ∧ what e = a) {store t : σ} {files : Table Node} :
    gather read put store files = .ok t ↔ (∀ e ∈ files, ¬ bad e) ∧
      files.foldl (fun store e => put store (what e)) store = t := by
  induction files generalizing store with
  | nil => simp [gather, pure, Except.pure]
  | cons e rest ih =>
    rw [gather_cons, List.forall_mem_cons, List.foldl_cons]
    by_cases he : bad e
    · -- nothing is gathered from here on
      cases hr : read e with
      | error f => simp [Except.bind, he]
      | ok a => exact absurd he (reads.mp hr).1
    · have hr : read e = .ok (what e) := reads.mpr ⟨he, rfl⟩
      simp [hr, Except.bind, he, ih]

end Gather

/-- Characters with those of one more file. -/
def addRecords (store : Table Value) (found : Option Value) : Table Value :=
  Table.putAll store ((found.bind Value.entries?).getD [])

/-- Pages with those of one more file. -/
def addPages (store : Pages) (found : Option Pages) : Pages :=
  found.elim store store.turn

theorem loadCharacterFiles_gives (files : Table Node) (store : Table Value) :
    Step.Gives (loadCharacterFiles files store)
      (gather (fun e => jsonIn isCharacterFile e.2) addRecords store files) := by
  induction files generalizing store with
  | nil => exact Step.gives_pure store
  | cons e rest ih =>
    rw [gather_cons]
    exact (loadJson_gives isCharacterFile _ e.2).bind fun found => ih _

theorem loadScriptFiles_gives (files : Table Node) (store : Pages) :
    Step.Gives (loadScriptFiles files store) (gather pagesIn addPages store files) := by
  induction files generalizing store with
  | nil => exact Step.gives_pure store
  | cons e rest ih =>
    rw [gather_cons]
    refine (loadPages_gives e).bind fun found => ?_
    cases found with
    | none => exact ih store
    | some pages => exact ih (store.turn pages)

/-! ## A data folder -/

/-- What lies in a folder of a data folder. -/
def entriesIn (folder : Node) (name : String) : Table Node :=
  ((folder.entry? name).bind Node.entries?).getD []

/-- The JSON files among the characters of a data folder, by name. -/
def recordFiles (folder : Node) : Table Node :=
  Node.byName ((entriesIn folder charactersName).filter fun e => Path.endsIn e.1 ".json")

/-- The files among the scripts of a data folder, by name. -/
def scriptFiles (folder : Node) : Table Node :=
  Node.byName (entriesIn folder scriptsName)

/-- Does loading give up at the characters of a data folder?  It does at a JSON file among them. -/
def CharactersHalt (folder : Node) : Prop :=
  ∃ e ∈ recordFiles folder, Halts e.2

/-- Does loading give up at the scripts of a data folder?  It does at a plain file in their place,
and at a JSON file among them. -/
def ScriptsHalt (folder : Node) : Prop :=
  (∃ bytes, folder.entry? scriptsName = some (.file bytes)) ∨
    ∃ e ∈ scriptFiles folder, Path.suffix [scriptsName, e.1] = ".json" ∧ Halts e.2

/-- The characters in the usable files of a data folder. -/
def charactersIn (folder : Node) : Table Value :=
  (recordFiles folder).foldl (fun store e => addRecords store (valueIn? isCharacterFile e.2)) []

/-- The pages in the usable files of a data folder. -/
def scriptsIn (folder : Node) : Pages :=
  (scriptFiles folder).foldl (fun store e => addPages store (pagesIn? e)) {}

/-- The library in the usable files of a data folder. -/
def libraryIn (folder : Node) : Library where
  characters := charactersIn folder
  labels := (scriptsIn folder).labels
  loose := (scriptsIn folder).loose

/-- What loading makes of the characters of a data folder. -/
def readCharacters (folder : Node) : Except Fault (Table Value) :=
  gather (fun e => jsonIn isCharacterFile e.2) addRecords [] (recordFiles folder)

/-- What loading makes of the scripts of a data folder. -/
def readScripts (folder : Node) : Except Fault Pages :=
  match folder.entry? scriptsName with
  | some (.file _) => .error .notFolder
  | _ => gather pagesIn addPages {} (scriptFiles folder)

theorem readCharacters_eq_ok_iff {folder : Node} {characters : Table Value} :
    readCharacters folder = .ok characters ↔
      ¬ CharactersHalt folder ∧ charactersIn folder = characters := by
  unfold readCharacters CharactersHalt charactersIn
  rw [gather_eq_ok_iff jsonIn_eq_ok_iff]
  simp

theorem readScripts_eq_ok_iff {folder : Node} {pages : Pages} :
    readScripts folder = .ok pages ↔ ¬ ScriptsHalt folder ∧ scriptsIn folder = pages := by
  have hgather : gather pagesIn addPages {} (scriptFiles folder) = .ok pages ↔
      (∀ e ∈ scriptFiles folder, ¬ (Path.suffix [scriptsName, e.1] = ".json" ∧ Halts e.2)) ∧
        scriptsIn folder = pages :=
    gather_eq_ok_iff pagesIn_eq_ok_iff
  unfold readScripts ScriptsHalt
  cases folder.entry? scriptsName with
  | none => simpa using hgather
  | some n =>
    cases n with
    | file bytes => simp
    | folder entries => simpa using hgather

theorem loadCharacters_gives (folder : Node) :
    Step.Gives (loadCharacters folder) (readCharacters folder) := by
  unfold loadCharacters readCharacters recordFiles entriesIn
  cases folder.entry? charactersName with
  | none => exact (Step.gives_modify _).bind fun _ => Step.gives_pure _
  | some n => exact loadCharacterFiles_gives _ _

theorem loadScripts_gives (folder : Node) :
    Step.Gives (loadScripts folder) (readScripts folder) := by
  unfold loadScripts readScripts scriptFiles entriesIn
  cases folder.entry? scriptsName with
  | none => exact (Step.gives_modify _).bind fun _ => Step.gives_pure _
  | some n =>
    cases n with
    | file bytes => exact Step.gives_throw _
    | folder entries => exact loadScriptFiles_gives _ _

/-- What loading answers is told by the folder and by what was there before. -/
theorem load_fst (folder : Node) (old : Library) :
    (load folder old).1 =
      match readCharacters folder with
      | .error f => (.error f, old)
      | .ok characters =>
        match readScripts folder with
        | .error f => (.error f, { old with characters })
        | .ok pages => (.ok (), { characters, labels := pages.labels, loose := pages.loose }) := by
  unfold load
  have hcharacters := loadCharacters_gives folder []
  cases hc : (loadCharacters folder).run.run [] with
  | mk answer reports =>
    have hanswer : answer = readCharacters folder := by
      rw [← hcharacters]
      exact (congrArg Prod.fst hc).symm
    rw [← hanswer]
    cases answer with
    | error f => rfl
    | ok characters =>
      have hscripts := loadScripts_gives folder reports
      cases hs : (loadScripts folder).run.run reports with
      | mk answer more =>
        have hanswer : answer = readScripts folder := by
          rw [← hscripts]
          exact (congrArg Prod.fst hs).symm
        simp only [hs, ← hanswer]
        cases answer <;> rfl

theorem bad_of_error {α : Type} {x : Except Fault α} {bad : Prop} {what : α} {f : Fault}
    (reads : ∀ {a}, x = .ok a ↔ ¬ bad ∧ what = a) (h : x = .error f) : bad := by
  by_contra hnot
  have hok := reads.mpr ⟨hnot, rfl⟩
  rw [h] at hok
  cases hok

/-- A data folder is loaded when loading gives up nowhere in it, and then all that can be used of it
makes the library. -/
theorem load_eq_ok_iff {folder : Node} {old library : Library} :
    (load folder old).1 = (.ok (), library) ↔
      (¬ CharactersHalt folder ∧ ¬ ScriptsHalt folder) ∧ libraryIn folder = library := by
  rw [load_fst]
  cases hc : readCharacters folder with
  | error f =>
    have hhalt : CharactersHalt folder := bad_of_error readCharacters_eq_ok_iff hc
    simp [hhalt]
  | ok characters =>
    obtain ⟨hnot, rfl⟩ := readCharacters_eq_ok_iff.mp hc
    cases hs : readScripts folder with
    | error f =>
      have hhalt : ScriptsHalt folder := bad_of_error readScripts_eq_ok_iff hs
      simp [hhalt]
    | ok pages =>
      obtain ⟨hnone, rfl⟩ := readScripts_eq_ok_iff.mp hs
      simp [hnot, hnone, libraryIn]

theorem load_isOk_iff {folder : Node} {old : Library} :
    (load folder old).1.1 = .ok () ↔ ¬ CharactersHalt folder ∧ ¬ ScriptsHalt folder := by
  constructor
  · intro h
    exact (load_eq_ok_iff.mp (Prod.ext h rfl)).1
  · intro h
    exact congrArg Prod.fst (load_eq_ok_iff.mpr ⟨h, rfl⟩)

end Library

end Dialogue
