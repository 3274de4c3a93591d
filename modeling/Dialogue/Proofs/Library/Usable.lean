import Dialogue.Proofs.Library.Gathering

/-!
# Files that cannot be used

A data folder may hold anything.  Loading is meant to pass over what cannot be used, so that it
gives what it would give without it.  It does, unless it gives up at something that it should have
passed over.

## Results

* `entry?_narrow_self`, `entry?_narrow_of_ne` — leaving entries out of one folder leaves the others
  as they are.
* `libraryIn_pruned` — what can be used is the same without the rest.
* `not_halt_pruned` — loading does not give up at what can be used.
* `load_pruned` — loading a folder gives what loading its usable part gives, just when there is
  nothing in it at which loading gives up.
* `load_strayByte` — a byte that is no text ends the loading of characters.
-/

set_option autoImplicit false

namespace Dialogue

namespace Table

variable {α : Type}

/-- A table without what is under a name. -/
def without (t : Table α) (name : String) : Table α :=
  t.filter fun e => e.1 ≠ name

theorem get?_without (t : Table α) (name other : String) :
    get? (without t name) other = if other = name then none else get? t other := by
  unfold without
  induction t with
  | nil => simp [get?]
  | cons e rest ih =>
    obtain ⟨k, v⟩ := e
    by_cases hk : k = name
    · rw [List.filter_cons_of_neg (by simp [hk]), ih]
      by_cases ho : other = name
      · rw [if_pos ho, if_pos ho]
      · have hne : k ≠ other := fun h => ho (h ▸ hk)
        rw [if_neg ho, if_neg ho, get?, if_neg hne]
    · rw [List.filter_cons_of_pos (by simp [hk]), get?, get?, ih]
      by_cases ho : k = other
      · have hne : other ≠ name := ho ▸ hk
        rw [if_pos ho, if_neg hne, if_pos ho]
      · rw [if_neg ho, if_neg ho]

end Table

namespace Library

open Files

/-! ## Leaving entries out -/

/-- A folder with some entries left out of one of its folders.  A plain file in the place of that
folder is left out itself. -/
def narrow (name : String) (keep : String × Node → Bool) (folder : Node) : Node :=
  match folder.entry? name with
  | none => folder
  | some (.file _) => .folder ((folder.entries?.getD []).without name)
  | some (.folder entries) => Node.put (.folder (entries.filter keep)) [name] folder

theorem entry?_narrow_self (name : String) (keep : String × Node → Bool) (folder : Node) :
    Node.entry? (narrow name keep folder) name =
      (folder.entry? name).bind fun n =>
        n.entries?.map fun entries => .folder (entries.filter keep) := by
  unfold narrow
  cases hn : folder.entry? name with
  | none => exact hn
  | some n =>
    cases n with
    | file bytes => simp [Node.entry?, Node.entries?, Table.get?_without]
    | folder entries => simp [Node.put, Node.entry?, Node.entries?, Table.get?_put_self]

theorem entry?_narrow_of_ne {name other : String} (keep : String × Node → Bool) (folder : Node)
    (h : other ≠ name) : Node.entry? (narrow name keep folder) other = folder.entry? other := by
  unfold narrow
  cases hn : folder.entry? name with
  | none => rfl
  | some n =>
    cases folder with
    | file bytes => cases hn
    | folder all =>
      cases n with
      | file bytes => simp [Node.entry?, Node.entries?, Table.get?_without, h]
      | folder entries => simp [Node.put, Node.entry?, Node.entries?, Table.get?_put_of_ne _ _ h]

theorem entriesIn_narrow_self (name : String) (keep : String × Node → Bool) (folder : Node) :
    entriesIn (narrow name keep folder) name = (entriesIn folder name).filter keep := by
  unfold entriesIn
  rw [entry?_narrow_self]
  cases folder.entry? name with
  | none => rfl
  | some n => cases n <;> rfl

theorem entriesIn_narrow_of_ne {name other : String} (keep : String × Node → Bool) (folder : Node)
    (h : other ≠ name) : entriesIn (narrow name keep folder) other = entriesIn folder other := by
  unfold entriesIn
  rw [entry?_narrow_of_ne keep folder h]

/-! ## What can be used -/

/-- Can a file among the characters be used?  A file with another name is not looked at. -/
def usableRecords (e : String × Node) : Bool :=
  !Path.endsIn e.1 ".json" || (valueIn? isCharacterFile e.2).isSome

/-- Can a file among the scripts be used?  A file with another suffix is not looked at. -/
def usablePages (e : String × Node) : Bool :=
  !([".json", ".script"].contains (Path.suffix [scriptsName, e.1])) || (pagesIn? e).isSome

/-- A data folder without what cannot be used. -/
def pruned (folder : Node) : Node :=
  narrow scriptsName usablePages (narrow charactersName usableRecords folder)

theorem recordFiles_pruned (folder : Node) :
    recordFiles (pruned folder) = (recordFiles folder).filter usableRecords := by
  have hne : charactersName ≠ scriptsName := by decide
  unfold recordFiles pruned
  rw [entriesIn_narrow_of_ne _ _ hne, entriesIn_narrow_self, Node.filter_byName, List.filter_comm]

theorem scriptFiles_pruned (folder : Node) :
    scriptFiles (pruned folder) = (scriptFiles folder).filter usablePages := by
  have hne : scriptsName ≠ charactersName := by decide
  unfold scriptFiles pruned
  rw [entriesIn_narrow_self, entriesIn_narrow_of_ne _ _ hne, Node.filter_byName]

/-- What adds nothing may as well be left out. -/
theorem foldl_filter_idle {α σ : Type} {keep : α → Bool} {add : σ → α → σ}
    (idle : ∀ store a, keep a = false → add store a = store) (store : σ) (files : List α) :
    (files.filter keep).foldl add store = files.foldl add store := by
  rw [List.foldl_filter]
  congr 1
  funext store a
  cases h : keep a with
  | true => rfl
  | false => exact (idle store a h).symm

theorem charactersIn_pruned (folder : Node) :
    charactersIn (pruned folder) = charactersIn folder := by
  unfold charactersIn
  rw [recordFiles_pruned]
  refine foldl_filter_idle (fun store e h => ?_) _ _
  have hnone : valueIn? isCharacterFile e.2 = none := by
    unfold usableRecords at h
    simpa using (Bool.or_eq_false_iff.mp h).2
  rw [hnone]
  rfl

theorem scriptsIn_pruned (folder : Node) : scriptsIn (pruned folder) = scriptsIn folder := by
  unfold scriptsIn
  rw [scriptFiles_pruned]
  refine foldl_filter_idle (fun store e h => ?_) _ _
  have hnone : pagesIn? e = none := by
    unfold usablePages at h
    simpa using (Bool.or_eq_false_iff.mp h).2
  rw [hnone]
  rfl

/-- What can be used is the same without the rest. -/
theorem libraryIn_pruned (folder : Node) : libraryIn (pruned folder) = libraryIn folder := by
  unfold libraryIn
  rw [charactersIn_pruned, scriptsIn_pruned]

/-- Loading does not give up at what can be used. -/
theorem not_halt_pruned (folder : Node) :
    ¬ CharactersHalt (pruned folder) ∧ ¬ ScriptsHalt (pruned folder) := by
  constructor
  · rintro ⟨e, he, hhalts⟩
    rw [recordFiles_pruned] at he
    obtain ⟨hfile, husable⟩ := List.mem_filter.mp he
    have hjson := (List.mem_filter.mp (Node.mem_byName.mp hfile)).2
    have hsome : (valueIn? isCharacterFile e.2).isSome = true := by
      simpa [usableRecords, hjson] using husable
    obtain ⟨v, hv⟩ := Option.isSome_iff_exists.mp hsome
    exact not_halts_of_valueIn? hv hhalts
  · rintro (⟨bytes, hbytes⟩ | ⟨e, he, hjson, hhalts⟩)
    · -- a plain file in the place of the scripts is left out
      rw [pruned, entry?_narrow_self] at hbytes
      obtain ⟨n, -, hn⟩ := Option.bind_eq_some_iff.mp hbytes
      obtain ⟨entries, -, hentries⟩ := Option.map_eq_some_iff.mp hn
      cases hentries
    · rw [scriptFiles_pruned] at he
      have hsome : (valueIn? isScriptFile e.2).isSome = true := by
        simpa [usablePages, pagesIn?, hjson] using (List.mem_filter.mp he).2
      obtain ⟨v, hv⟩ := Option.isSome_iff_exists.mp hsome
      exact not_halts_of_valueIn? hv hhalts

/-- **Loading gives what is left when everything that cannot be used is left out**, and it gives an
answer, just when there is nothing in the folder at which it gives up. -/
theorem load_pruned (folder : Node) (old : Library) :
    (load (pruned folder) old).1.1 = .ok () ∧
      ((load folder old).1.1 = .ok () ↔ ¬ CharactersHalt folder ∧ ¬ ScriptsHalt folder) ∧
      ((load folder old).1 = (load (pruned folder) old).1 ↔
        ¬ CharactersHalt folder ∧ ¬ ScriptsHalt folder) := by
  have hpruned : (load (pruned folder) old).1 = (.ok (), libraryIn folder) :=
    load_eq_ok_iff.mpr ⟨not_halt_pruned folder, libraryIn_pruned folder⟩
  rw [hpruned, load_eq_ok_iff, and_iff_left rfl]
  exact ⟨rfl, load_isOk_iff, Iff.rfl⟩

/-- A byte that is no text ends the loading of characters, and those of another file are lost with
it.  A plain file in the place of the scripts ends their loading. -/
theorem load_strayByte :
    (load (.folder [("characters", .folder [("stray.json", .file ⟨#[0xff]⟩),
        ("tidy.json", .file "\x7b\"ok\": \x7b\x7d\x7d".toUTF8)])]) {}).1 = (.error .notText, {}) ∧
      (load (.folder [("script", .file .empty)]) {}).1 = (.error .notFolder, {}) :=
  ⟨rfl, rfl⟩

end Library

end Dialogue
