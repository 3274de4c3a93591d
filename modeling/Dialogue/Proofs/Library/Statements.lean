import Dialogue.Proofs.Library.Installing
import Dialogue.Proofs.Playhead
import Dialogue.Proofs.Refusals

/-!
# The statements of a library

A script file may hold just those values as statements that a text can be chosen from, however the
alternatives are drawn.  So no statement of a library is malformed, and none of those that a session
takes from libraries that were handed over to it.

## Results

* `Library.isStatement_iff` — a JSON value has the form of a statement just when it says something
  for every number that alternatives are counted out by.
* `Statement.parse_of_isStatement` — a value of this form is never malformed.
* `Library.Loaded.stated` — all statements of a library that was loaded have the form.
* `Playhead.exists_cue_of_taken` — what a playhead takes was defined or loaded before.
* `Playing.install_playhead` — handing a library over is a number of cues to the playhead.
* `Library.statements_fit` — all of this together.
-/

set_option autoImplicit false

namespace Dialogue

/-! ## The form of a statement -/

namespace Statement

variable {draws : List Value} {n : Int}

/-- A text is chosen from a statement just when the statement says it. -/
theorem select_eq_ok_iff (counted : Counted draws n) {statement : Value} {s : String} :
    (select statement draws).1 = .ok s ↔ Says statement n s := by
  constructor
  · intro h
    by_cases hspoken : ∃ s, Says statement n s
    · obtain ⟨other, hother⟩ := hspoken
      rw [select_of_spoken counted hother] at h
      cases h
      exact hother
    · rw [select_of_silent counted (not_exists.mp hspoken)] at h
      cases h
  · exact select_of_spoken counted

/-- Any number can be what alternatives are counted out by. -/
theorem counted_int (n : Int) : Counted [.int n] n :=
  rfl

/-- An alternative that is drawn is one of them, and if none can be drawn, that is not for what the
statement is like. -/
theorem draw_cases {form : Form} {first : Value} {rest draws left : List Value}
    {answer : Except Fault Value} (h : draw form first rest draws = (answer, left)) :
    (∃ chosen ∈ first :: rest, answer = .ok chosen) ∨
      ∃ f, answer = .error f ∧ ∀ statement reason, f ≠ .malformed statement reason := by
  cases draws with
  | nil =>
    cases h
    exact .inl ⟨first, List.mem_cons_self, rfl⟩
  | cons next more =>
    have hdrawn : drawn form first rest next = answer := congrArg Prod.fst h
    unfold drawn at hdrawn
    split at hdrawn
    · rename_i n _
      refine .inl ⟨_, ?_, hdrawn.symm⟩
      rw [List.getD_eq_getElem?_getD]
      cases hget : (first :: rest)[(n % (rest.length + 1)).toNat]? with
      | none => exact List.mem_cons_self
      | some v => exact List.mem_of_getElem? hget
    · exact .inr ⟨_, hdrawn.symm, fun _ _ h => by cases h⟩
    · split at hdrawn <;> exact .inr ⟨_, hdrawn.symm, fun _ _ h => by cases h⟩

end Statement

namespace Library

open Files
open Statement (Says)

theorem isText_iff {v : Value} : isText v = true ↔ ∃ s, v = .text s := by
  cases v <;> simp [isText]

theorem isStatement_list (form : Form) (items : List Value) :
    isStatement (.list form items) = true ↔ items ≠ [] ∧ ∀ v ∈ items, ∃ s, v = .text s := by
  simp [isStatement, isText, isNonempty, isListOf, required, Value.get?, Value.entries?,
    ← isText_iff]

theorem isStatement_tree (form : Form) (entries : Table Value) :
    isStatement (.tree form entries) = true ↔
      ∃ s, Table.get? entries "statement" = some (.text s) := by
  cases h : Table.get? entries "statement" <;>
    simp [isStatement, isNonempty, isListOf, required, Value.get?, Value.entries?, h, isText_iff]

theorem says_of_isStatement {v : Value} (h : isStatement v = true) (n : Int) :
    ∃ s, Says v n s := by
  cases v with
  | text s => exact ⟨s, .text s n⟩
  | list form items =>
    obtain ⟨hne, htexts⟩ := (isStatement_list form items).mp h
    have hlength : (0 : Int) < items.length := by
      exact_mod_cast List.length_pos_iff.mpr hne
    have hlt : (n % (items.length : Int)).toNat < items.length := by
      have := Int.emod_lt_of_pos n hlength
      omega
    obtain ⟨s, hs⟩ := htexts _ (List.getElem_mem hlt)
    exact ⟨s, .alternative hne (hs ▸ List.getElem?_eq_getElem hlt)⟩
  | tree form entries =>
    obtain ⟨s, hs⟩ := (isStatement_tree form entries).mp h
    exact ⟨s, .mapping n hs⟩
  | null | flag | int | double | choice => cases h

/-- **A JSON value has the form of a statement just when it says something** for every number that
alternatives are counted out by. -/
theorem isStatement_iff {v : Value} (held : Json.Held v) :
    isStatement v = true ↔ ∀ n, ∃ s, Says v n s := by
  refine ⟨says_of_isStatement, fun hsays => ?_⟩
  obtain ⟨s, hs⟩ := hsays 0
  cases hs with
  | text => rfl
  | choice => cases held
  | mapping _ found => exact (isStatement_tree _ _).mpr ⟨s, found⟩
  | @alternative form items _ _ hne =>
    refine (isStatement_list form items).mpr ⟨hne, fun v hv => ?_⟩
    -- every alternative is counted out by its own place
    obtain ⟨i, hi, rfl⟩ := List.mem_iff_getElem.mp hv
    obtain ⟨other, hother⟩ := hsays i
    cases hother with
    | alternative _ chosen =>
      have hplace : ((i : Int) % (items.length : Int)).toNat = i := by
        rw [Int.emod_eq_of_lt (by omega) (by omega), Int.toNat_natCast]
      rw [hplace, List.getElem?_eq_getElem hi] at chosen
      exact ⟨other, Option.some.inj chosen⟩

end Library

namespace Statement

theorem select_of_isStatement {v : Value} (h : Library.isStatement v = true) (draws : List Value)
    (statement : Value) (reason : Malformation) :
    (select v draws).1 ≠ .error (.malformed statement reason) := by
  intro failed
  cases v with
  | text s => cases failed
  | list form items =>
    obtain ⟨hne, htexts⟩ := (Library.isStatement_list form items).mp h
    cases items with
    | nil => exact hne rfl
    | cons first rest =>
      cases hdraw : draw form first rest draws with
      | mk answer left =>
        simp only [select, hdraw] at failed
        rcases draw_cases hdraw with ⟨chosen, hmem, rfl⟩ | ⟨f, rfl, hother⟩
        · obtain ⟨s, rfl⟩ := htexts chosen hmem
          cases failed
        · cases failed
          exact hother _ _ rfl
  | tree form entries =>
    obtain ⟨s, hs⟩ := (Library.isStatement_tree form entries).mp h
    simp only [select, hs] at failed
    cases failed
  | null | flag | int | double | choice => cases h

/-- A value with the form of a statement is never malformed, whatever is drawn. -/
theorem parse_of_isStatement {v : Value} (h : Library.isStatement v = true) (cast : Cast)
    (isCommand : String → Bool) (draws : List Value) (statement : Value) (reason : Malformation) :
    (parse cast isCommand v draws).1 ≠ .error (.malformed statement reason) := by
  intro failed
  unfold parse at failed
  split at failed
  · rename_i f left hselect
    cases failed
    exact select_of_isStatement h draws statement reason (congrArg Prod.fst hselect)
  · obtain ⟨key, hkey⟩ | ⟨character, expression, hexpression⟩ := readText_unknown failed
    · cases hkey
    · cases hexpression

end Statement

/-! ## Libraries -/

namespace Library

open Files

/-- All statements here have the form of one. -/
def AllStatements (statements : List Value) : Prop :=
  ∀ v ∈ statements, isStatement v = true

/-- All statements of these pages have the form of one. -/
structure Pages.Stated (pages : Pages) : Prop where
  labels : ∀ e ∈ pages.labels, AllStatements e.2
  loose : AllStatements pages.loose

theorem allStatements_of_isListOf {v : Value} (h : isListOf isStatement v = true) :
    AllStatements (v.members?.getD []) := by
  cases v with
  | list form items => exact List.all_eq_true.mp h
  | null | flag | int | double | text | tree | choice => cases h

/-- A script file that can be used holds statements. -/
theorem Pages.stated_ofValue {v : Value} (h : isScriptFile v = true) : (ofValue v).Stated := by
  simp only [isScriptFile, Bool.and_eq_true] at h
  obtain ⟨⟨hlabels, -⟩, hloose⟩ := h
  unfold ofValue
  constructor
  · cases hget : v.get? "labels" with
    | none => simp
    | some labels =>
      have hform : isMappingOf (isListOf isStatement) labels = true := by
        simpa [required, hget] using hlabels
      cases hentries : labels.entries? with
      | none => simp [hentries]
      | some entries =>
        have hall : ∀ e ∈ entries, isListOf isStatement e.2 = true := by
          simpa [isMappingOf, hentries] using hform
        simp only [Option.bind_some, hentries, Option.getD_some]
        exact List.forall_mem_map.mpr fun e he => allStatements_of_isListOf (hall e he)
  · cases hget : v.get? "sequence" with
    | none => simp [AllStatements]
    | some statements =>
      have hform : isListOf isStatement statements = true := by
        simpa [optional, hget] using hloose
      exact allStatements_of_isListOf hform

/-- A text script holds texts. -/
theorem Pages.stated_ofScript (s : Script) : (ofScript s).Stated := by
  have htexts : ∀ texts : List String, AllStatements (texts.map .text) := fun texts =>
    List.forall_mem_map.mpr fun _ _ => rfl
  exact ⟨List.forall_mem_map.mpr fun e _ => htexts e.2, htexts s.loose⟩

theorem Pages.Stated.turn {store next : Pages} (hstore : store.Stated) (hnext : next.Stated) :
    (store.turn next).Stated := by
  constructor
  · intro e he
    rcases Table.mem_of_mem_putAll he with he | he
    · exact hstore.labels e he
    · exact hnext.labels e he
  · unfold Pages.turn
    dsimp only
    split
    · exact hstore.loose
    · exact hnext.loose

theorem stated_of_pagesIn? {e : String × Node} {pages : Pages} (h : pagesIn? e = some pages) :
    pages.Stated := by
  unfold pagesIn? at h
  split at h
  · obtain ⟨v, hv, rfl⟩ := Option.map_eq_some_iff.mp h
    obtain ⟨-, -, -, hform⟩ := exists_of_valueIn? hv
    exact Pages.stated_ofValue hform
  · split at h
    · obtain ⟨s, -, rfl⟩ := Option.map_eq_some_iff.mp h
      exact Pages.stated_ofScript _
    · cases h

/-- Whatever lies in a data folder, its scripts hold statements. -/
theorem scriptsIn_stated (folder : Node) : (scriptsIn folder).Stated := by
  have hnone : Pages.Stated {} := ⟨by simp, by simp [AllStatements]⟩
  refine List.foldlRecOn (scriptFiles folder) _ hnone fun store hstore e _ => ?_
  cases hpages : pagesIn? e with
  | none => exact hstore
  | some pages => exact hstore.turn (stated_of_pagesIn? hpages)

/-- A library that was loaded, and perhaps loaded again, be it with or without success. -/
inductive Loaded : Library → Prop where
  | new : Loaded {}
  | load {library : Library} (folder : Node) (before : Loaded library) :
    Loaded (load folder library).1.2

/-- A statement of a library: under one of its labels, or under none. -/
def Has (library : Library) (v : Value) : Prop :=
  v ∈ library.loose ∨ ∃ e ∈ library.labels, v ∈ e.2

/-- **All statements of a library that was loaded have the form of one.** -/
theorem Loaded.stated {library : Library} (loaded : Loaded library) {v : Value}
    (has : library.Has v) : isStatement v = true := by
  induction loaded with
  | new =>
    rcases has with hloose | ⟨e, he, -⟩
    · cases hloose
    · cases he
  | @load library folder before ih =>
    rw [load_fst] at has
    split at has
    · exact ih has
    · split at has
      · exact ih has
      · rename_i pages hpages
        obtain ⟨-, rfl⟩ := readScripts_eq_ok_iff.mp hpages
        have hstated := scriptsIn_stated folder
        rcases has with hloose | ⟨e, he, hv⟩
        · exact hstated.loose v hloose
        · exact hstated.labels e he v hv

end Library

/-! ## What a playhead takes -/

/-- A cue gives a statement: it defines a label with it or loads a list with it. -/
def Cue.Gives (cue : Cue) (v : Value) : Prop :=
  (∃ e ∈ cue.defines, v ∈ e.2) ∨ ∃ statements, cue.loads? = some statements ∧ v ∈ statements

theorem mem_of_lastUnder? {α : Type} {entries : Keyed α} {key : Value} {a : α}
    (h : lastUnder? entries key = some a) : ∃ e ∈ entries, e.2 = a := by
  obtain ⟨e, he, rfl⟩ := Option.map_eq_some_iff.mp h
  exact ⟨e, List.mem_reverse.mp (List.mem_of_find?_eq_some he), rfl⟩

namespace Playhead

/-- What is in the list under the playhead was given by a cue. -/
theorem exists_cue_of_current {history : List Cue} {p : Playhead} {statements : List Value}
    (current : p.current? history = some statements) {v : Value} (hv : v ∈ statements) :
    ∃ cue ∈ history, cue.Gives v := by
  unfold current? at current
  split at current
  · obtain ⟨e, he, rfl⟩ := mem_of_lastUnder? current
    obtain ⟨cue, hcue, hdefines⟩ := List.mem_flatMap.mp he
    exact ⟨cue, hcue, .inl ⟨e, hdefines, hv⟩⟩
  · obtain ⟨cue, hcue, hloads⟩ := List.exists_of_findSome?_eq_some current
    exact ⟨cue, List.mem_reverse.mp hcue, .inr ⟨statements, hloads, hv⟩⟩
  · cases current

theorem exists_before_of_taken {cues : List Cue} {p : Playhead} {v : Value}
    (h : v ∈ p.taken cues) :
    ∃ before after, cues = before ++ .take :: after ∧ (p.followAll before).take.1 = .ok v := by
  induction cues generalizing p with
  | nil => cases h
  | cons cue rest ih =>
    rcases List.mem_append.mp h with hhere | hlater
    · rw [Option.mem_toList] at hhere
      cases cue with
      | take => exact ⟨[], rest, rfl, Step.ok_of_toOption hhere⟩
      | define | load | start | reset => cases hhere
    · obtain ⟨before, after, rfl, htake⟩ := ih hlater
      exact ⟨cue :: before, after, rfl, htake⟩

/-- **What a playhead takes was defined or loaded before.** -/
theorem exists_cue_of_taken {cues : List Cue} {v : Value}
    (h : v ∈ ({} : Playhead).taken cues) : ∃ cue ∈ cues, cue.Gives v := by
  obtain ⟨before, after, rfl, htake⟩ := exists_before_of_taken h
  rw [take_eq, (followAll_follows before).statements?] at htake
  cases hcurrent : (({} : Playhead).followAll before).current? before with
  | none =>
    rw [hcurrent] at htake
    cases htake
  | some statements =>
    rw [hcurrent, Option.bind_some] at htake
    cases hnext : statements[(({} : Playhead).followAll before).cursor]? with
    | none =>
      rw [hnext] at htake
      cases htake
    | some next =>
      rw [hnext] at htake
      cases htake
      obtain ⟨cue, hcue, hgives⟩ := exists_cue_of_current hcurrent (List.mem_of_getElem? hnext)
      exact ⟨cue, List.mem_append_left _ hcue, hgives⟩

end Playhead

/-! ## Handing a library over -/

namespace Library

/-- What handing a library over is to the playhead. -/
def cues (library : Library) : List Cue :=
  .define (Table.keyed (library.labels.map fun e => (e.1, .ofList e.2))) ::
    if library.loose ≠ [] then [.load (.ofList library.loose)] else []

theorem definitions_lists (labels : Table (List Value)) :
    definitions (Table.keyed (labels.map fun e => (e.1, .ofList e.2))) = Table.keyed labels := by
  induction labels with
  | nil => rfl
  | cons e rest ih => exact congrArg ((.text e.1, e.2) :: ·) ih

/-- Handing a library over gives the statements of the library. -/
theorem has_of_gives {library : Library} {cue : Cue} (hcue : cue ∈ library.cues) {v : Value}
    (gives : cue.Gives v) : library.Has v := by
  rcases List.mem_cons.mp hcue with rfl | hload
  · rcases gives with ⟨e, he, hv⟩ | ⟨statements, hloads, -⟩
    · have hkeyed : e ∈ Table.keyed library.labels := definitions_lists library.labels ▸ he
      obtain ⟨d, hd, rfl⟩ := List.mem_map.mp hkeyed
      exact .inr ⟨d, hd, hv⟩
    · cases hloads
  · split at hload
    · obtain rfl := List.mem_singleton.mp hload
      rcases gives with ⟨e, he, -⟩ | ⟨statements, hloads, hv⟩
      · cases he
      · cases hloads
        exact .inl hv
    · cases hload

end Library

namespace Playing

variable {K : Surface}

/-- Handlers that leave the playhead as it is. -/
def SparesPlayhead (p : Playing K) : Prop :=
  ∀ id occasion, Step.Keeps (fun h k : Host K => k.session.playhead = h.session.playhead)
    (p.react id occasion)

variable (p : Playing K) (library : Library)

theorem publish_playhead (spares : p.SparesPlayhead) (notice : Notice K.Handle) (h : Host K) :
    (p.publish notice h).2.session.playhead = h.session.playhead := by
  have frame : Step.Frame fun h k : Host K => k.session.playhead = h.session.playhead :=
    ⟨fun _ => rfl, fun first second => second.trans first⟩
  exact publish_of_react frame (fun _ _ _ => rfl) spares (fun _ _ => rfl) notice h

theorem loadSequence_playhead (spares : p.SparesPlayhead) (statements : List Value) (h : Host K) :
    (p.loadSequence (.ofList statements) false h).2.session.playhead =
      h.session.playhead.load statements := by
  let loaded := h.onSession fun s => { s with playhead := s.playhead.load statements }
  have hload : p.loadSequence (.ofList statements) false h =
      (p.publish (.loaded statements.length) >>= fun _ => pure ()) loaded := rfl
  rw [hload, Step.bind_pure_snd, publish_playhead p spares]
  rfl

/-- What is done with a library after its characters were registered is what the cues say. -/
theorem installScripts_playhead (spares : p.SparesPlayhead) (h : Host K) :
    (p.installScripts library h).2.session.playhead =
      h.session.playhead.followAll library.cues := by
  let labels := Table.keyed (library.labels.map fun e => (e.1, Value.ofList e.2))
  let defined := h.onSession fun s => { s with playhead := (Playhead.defineAll labels s.playhead).2 }
  have hdefine : defineLabels labels h = (.ok (), defined) :=
    Prod.ext (Playhead.defineAll_lists library.labels h.session.playhead) rfl
  unfold installScripts Library.cues
  rw [Step.bind_eq_of_ok hdefine]
  split
  · exact loadSequence_playhead p spares library.loose defined
  · rfl

/-- **Handing a library over is a number of cues to the playhead**, or nothing to it when a
character is refused. -/
theorem install_playhead (spares : p.SparesPlayhead) (h : Host K) :
    (p.install library false h).2.session.playhead =
      match (p.install library false h).1 with
      | .ok () => h.session.playhead.followAll library.cues
      | .error _ => h.session.playhead := by
  rw [install_eq]
  cases hr : registerCharacters (Library.handed library.characters) h with
  | mk answer registered =>
    have hplayhead : registered.session.playhead = h.session.playhead := by
      rw [registerCharacters, Act.onPart_apply] at hr
      obtain ⟨-, rfl⟩ := Prod.mk.inj hr
      rfl
    cases answer with
    | error f =>
      rw [Step.bind_eq_of_error hr]
      exact hplayhead
    | ok u =>
      rw [Step.bind_eq_of_ok hr, (installScripts_sure p library).fst registered,
        installScripts_playhead p library spares, hplayhead]

end Playing

/-! ## Statements that a session takes from libraries -/

/-- A statement cannot be malformed, whatever the cast, the commands and the draws of a session. -/
def NeverMalformed (v : Value) : Prop :=
  ∀ (K : Surface) (session : Session K) (statement : Value) (reason : Malformation),
    (session.parse v).1 ≠ .error (.malformed statement reason)

theorem neverMalformed_of_isStatement {v : Value} (h : Library.isStatement v = true) :
    NeverMalformed v :=
  fun _ session => Statement.parse_of_isStatement h session.cast session.commands.has session.draws

/-- A cue to a playhead that gets its statements from libraries alone. -/
inductive Cue.Supplied : Cue → Prop where
  | library {library : Library} (loaded : library.Loaded) {cue : Cue} (among : cue ∈ library.cues) :
    Supplied cue
  | start (label : Value) : Supplied (.start label)
  | take : Supplied .take
  | reset : Supplied .reset

theorem Cue.Supplied.stated {cue : Cue} (supplied : cue.Supplied) {v : Value}
    (gives : cue.Gives v) : Library.isStatement v = true := by
  cases supplied with
  | library loaded among => exact loaded.stated (Library.has_of_gives among gives)
  | start | take | reset =>
    rcases gives with ⟨e, he, -⟩ | ⟨statements, hloads, -⟩
    · cases he
    · cases hloads

namespace Library

open Files
open Statement (Counted select)

/-- **Script files may hold just the statements that can be told.**  What a document holds is a JSON
value, and a JSON value has the form of a statement just when a text can be chosen from it whatever
is drawn.  So no statement of a library that was loaded is ever malformed, nor is any that a playhead
takes from such libraries.  Handing a library over gives its statements to the playhead. -/
theorem statements_fit :
    (∀ s v, Json.read s = .ok v → Json.Held v) ∧
      (∀ v, Json.Held v → (isStatement v = true ↔
        ∀ draws n, Counted draws n → ∃ s, (select v draws).1 = .ok s)) ∧
      (∀ library v, Loaded library → library.Has v → NeverMalformed v) ∧
      (∀ cues, (∀ cue ∈ cues, Cue.Supplied cue) → ∀ v ∈ ({} : Playhead).taken cues,
        NeverMalformed v) ∧
      ∀ (K : Surface) (p : Playing K) (library : Library) (h : Host K), p.SparesPlayhead →
        (p.install library false h).2.session.playhead =
          match (p.install library false h).1 with
          | .ok () => h.session.playhead.followAll library.cues
          | .error _ => h.session.playhead := by
  refine ⟨fun _ _ => Json.read_holds, fun v held => ?_, fun library v loaded has => ?_,
    fun cues supplied v taken => ?_,
    fun K p library h spares => p.install_playhead library spares h⟩
  · rw [isStatement_iff held]
    constructor
    · intro hsays draws n counted
      obtain ⟨s, hs⟩ := hsays n
      exact ⟨s, (Statement.select_eq_ok_iff counted).mpr hs⟩
    · intro hselect n
      have counted := Statement.counted_int n
      obtain ⟨s, hs⟩ := hselect [.int n] n counted
      exact ⟨s, (Statement.select_eq_ok_iff counted).mp hs⟩
  · exact neverMalformed_of_isStatement (loaded.stated has)
  · obtain ⟨cue, hcue, hgives⟩ := Playhead.exists_cue_of_taken taken
    exact neverMalformed_of_isStatement ((supplied cue hcue).stated hgives)

/-- A data folder with a script in JSON and one that is text. -/
def shelf : Node :=
  .folder [("script", .folder
    [("a.json", .file ("\x7b\"labels\": \x7b\"a\": [[\"r Hi\", \"r Ho\"], " ++
        "\x7b\"statement\": \"Bye\"\x7d]\x7d\x7d").toUTF8),
     ("b.script", .file "Once\n# b\nr Hm".toUTF8)])]

/-- What this folder holds. -/
def shelved : Library where
  labels := [("a", [.ofList [.text "r Hi", .text "r Ho"],
      .ofTable [("statement", .text "Bye")]]),
    ("b", [.text "r Hm"])]
  loose := [.text "Once"]

/-- The general theorem for two alternatives, for this folder, and for a run that takes the
alternatives from it after it was handed over. -/
theorem statements_fit_shelved :
    (∀ draws n, Counted draws n →
        ∃ s, (select (.ofList [.text "r Hi", .text "r Ho"]) draws).1 = .ok s) ∧
      (load shelf {}).1 = (.ok (), shelved) ∧ NeverMalformed (.text "Once") ∧
      NeverMalformed (.ofList [.text "r Hi", .text "r Ho"]) ∧
      ((Playing.within 0).install shelved false Playing.fresh).2.session.playhead =
        ({} : Playhead).followAll shelved.cues := by
  have hheld : Json.Held (.ofList [.text "r Hi", .text "r Ho"]) := .list (by simp [Json.Held.text])
  have hload : (load shelf {}).1 = (.ok (), shelved) := Playing.eq_of_toOption (by decide +kernel)
  have hloaded : Loaded shelved := by
    have hafter := Loaded.load shelf .new
    rwa [hload] at hafter
  have hsupplied : ∀ cue ∈ shelved.cues ++ [.start (.text "a"), .take], Cue.Supplied cue := by
    intro cue hcue
    rcases List.mem_append.mp hcue with hlibrary | hother
    · exact .library hloaded hlibrary
    · simp only [List.mem_cons, List.not_mem_nil, or_false] at hother
      rcases hother with rfl | rfl
      · exact .start _
      · exact .take
  obtain ⟨-, hform, hhas, htaken, hinstall⟩ := statements_fit
  have hspares : (Playing.within 0 : Playing .board).SparesPlayhead := fun _ _ _ => rfl
  exact ⟨(hform _ hheld).mp rfl, hload, hhas shelved _ hloaded (.inl List.mem_cons_self),
    htaken _ hsupplied _ (by decide +kernel),
    (hinstall _ (Playing.within 0) shelved Playing.fresh hspares).trans rfl⟩

end Library

end Dialogue
