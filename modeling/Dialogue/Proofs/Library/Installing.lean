import Dialogue.Proofs.Library.Gathering
import Dialogue.Proofs.Records
import Dialogue.Proofs.Session.Advance

/-!
# Handing a library over

The characters of a library are records that files may hold.  Handing the library over to a session
registers them one after the other.  A record that gives a field under both of its spellings gets
this far and is rejected only then.

## Results

* `Library.charactersIn_recorded` — whatever lies in a data folder, its characters are records that
  files may hold, under keys of their own.
* `Cast.register_handed` — records that give no field twice are all put into the cast.
* `Cast.register_handed_ambiguous` — one record that gives a field twice ends the registration.
* `Playing.install_of_register` — handing a library over answers as its registration does.
* `Playing.install_loaded` — a loaded library is rejected just when one of its records gives a field
  twice, and otherwise the session gets the characters that the records describe.
-/

set_option autoImplicit false

namespace Dialogue

/-! ## What a load gives -/

namespace Library

open Files

/-- Records that files may hold, each under a key of its own. -/
structure Recorded (characters : Table Value) : Prop where
  distinct : Table.Distinct characters
  records : ∀ e ∈ characters, isRecord e.2 = true

theorem Recorded.addRecords {store : Table Value} (h : Recorded store) (n : Node) :
    Recorded (addRecords store (valueIn? isCharacterFile n)) := by
  refine ⟨h.distinct.putAll _, fun e he => ?_⟩
  rcases Table.mem_of_mem_putAll he with he | he
  · exact h.records e he
  · cases hn : valueIn? isCharacterFile n with
    | none => simp [hn] at he
    | some v =>
      obtain ⟨-, -, -, hform⟩ := exists_of_valueIn? hn
      cases hv : v.entries? with
      | none => simp [hn, hv] at he
      | some entries =>
        have hall : ∀ e ∈ entries, isRecord e.2 = true := by
          simpa [isCharacterFile, isMappingOf, hv] using hform
        exact hall e (by simpa [hn, hv] using he)

/-- Whatever lies in a data folder, its characters are records that files may hold. -/
theorem charactersIn_recorded (folder : Node) : Recorded (charactersIn folder) := by
  have hnone : Recorded [] := ⟨List.nodup_nil, by simp⟩
  exact List.foldlRecOn (recordFiles folder) _ hnone fun store hstore e _ => hstore.addRecords e.2

/-- How a library hands its characters over. -/
def handed (characters : Table Value) : Table Entry :=
  characters.map fun e => (e.1, .fields e.2)

/-- The fields of a record. -/
def fieldsOf (v : Value) : Table Value :=
  v.entries?.getD []

theorem entries?_of_isRecord {v : Value} (h : isRecord v = true) :
    v.entries? = some (fieldsOf v) := by
  unfold isRecord at h
  unfold fieldsOf
  cases hv : v.entries? with
  | none => simp [hv] at h
  | some entries => rfl

/-- The characters that records describe, each under its key. -/
def describedAll (characters : Table Value) : Table Character :=
  characters.map fun e => (e.1, Character.described e.1 (fieldsOf e.2))

theorem keys_describedAll (characters : Table Value) :
    Table.keys (describedAll characters) = Table.keys characters := by
  simp [Table.keys, describedAll, Function.comp_def]

end Library

/-! ## Registration -/

open Library (Recorded handed fieldsOf describedAll isRecord)
open Character (Ambiguous described)

namespace Cast

theorem recordOf_fields {v : Value} (h : isRecord v = true) (single : ¬ Ambiguous (fieldsOf v))
    (key : String) : recordOf key (.fields v) = .ok (described key (fieldsOf v)) :=
  Character.readAs_of_isRecord (Library.entries?_of_isRecord h) h single key

theorem recordOf_ambiguous {v : Value} (h : isRecord v = true) (double : Ambiguous (fieldsOf v))
    (key : String) : ∃ issues, recordOf key (.fields v) = .error (.invalidRecord issues) := by
  obtain ⟨issues, hissues, -⟩ :=
    Character.readAs_of_ambiguous (Library.entries?_of_isRecord h) h double key
  exact ⟨issues, hissues⟩

theorem register_handed_cons (key : String) (v : Value) (rest : Table Value) (c : Cast) :
    register (handed ((key, v) :: rest)) c =
      match recordOf key (.fields v) with
      | .ok record => register (handed rest) { c with records := Table.put c.records key record }
      | .error f => (.error f, c) :=
  rfl

/-- One record that gives a field twice ends the registration. -/
theorem register_handed_ambiguous {characters : Table Value}
    (records : ∀ e ∈ characters, isRecord e.2 = true)
    (double : ∃ e ∈ characters, Ambiguous (fieldsOf e.2)) (c : Cast) :
    ∃ issues, (register (handed characters) c).1 = .error (.invalidRecord issues) := by
  induction characters generalizing c with
  | nil =>
    obtain ⟨e, he, -⟩ := double
    cases he
  | cons e rest ih =>
    obtain ⟨key, v⟩ := e
    obtain ⟨hv, hrest⟩ := List.forall_mem_cons.mp records
    rw [register_handed_cons]
    by_cases hdouble : Ambiguous (fieldsOf v)
    · obtain ⟨issues, hissues⟩ := recordOf_ambiguous hv hdouble key
      exact ⟨issues, by rw [hissues]⟩
    · -- this record is taken, so a later one is to blame
      rw [recordOf_fields hv hdouble]
      refine ih hrest ?_ _
      obtain ⟨e, he, hambiguous⟩ := double
      rcases List.mem_cons.mp he with rfl | he
      · exact absurd hambiguous hdouble
      · exact ⟨e, he, hambiguous⟩

/-- Records that give no field twice are all put into the cast, one after the other. -/
theorem register_handed {characters : Table Value}
    (records : ∀ e ∈ characters, isRecord e.2 = true)
    (single : ∀ e ∈ characters, ¬ Ambiguous (fieldsOf e.2)) (c : Cast) :
    (register (handed characters) c).1 = .ok () ∧
      (register (handed characters) c).2.records =
        Table.putAll c.records (describedAll characters) := by
  induction characters generalizing c with
  | nil => exact ⟨rfl, rfl⟩
  | cons e rest ih =>
    obtain ⟨key, v⟩ := e
    obtain ⟨hv, hrest⟩ := List.forall_mem_cons.mp records
    obtain ⟨hsingle, hothers⟩ := List.forall_mem_cons.mp single
    rw [register_handed_cons, recordOf_fields hv hsingle]
    exact ih hrest hothers _

end Cast

/-! ## Installation -/

namespace Step

variable {σ : Type}

theorem Sure.fst {x : Step σ Unit} (h : Sure x) (s : σ) : (x s).1 = .ok () := by
  cases hx : x s with
  | mk answer t =>
    cases answer with
    | ok u => rfl
    | error f => exact absurd hx (h s t f)

end Step

theorem Playhead.defineAll_lists (labels : Table (List Value)) (q : Playhead) :
    (defineAll (Table.keyed (labels.map fun e => (e.1, .ofList e.2))) q).1 = .ok () := by
  induction labels generalizing q with
  | nil => rfl
  | cons e rest ih => exact ih _

namespace Playing

variable {K : Surface}

/-- Handlers that leave the cast as it is. -/
def SparesCast (p : Playing K) : Prop :=
  ∀ id occasion, Step.Keeps (fun h k : Host K => k.session.cast = h.session.cast)
    (p.react id occasion)

/-- What is done with a library after its characters were registered. -/
def installScripts (p : Playing K) (library : Library) : Act K Unit := do
  defineLabels (Table.keyed (library.labels.map fun e => (e.1, .ofList e.2)))
  if library.loose ≠ [] then p.loadSequence (.ofList library.loose) false

variable (p : Playing K) (library : Library)

theorem install_eq : p.install library false =
    registerCharacters (handed library.characters) >>= fun _ => p.installScripts library :=
  rfl

theorem defineLabels_sure (labels : Table (List Value)) :
    Step.Sure (defineLabels (K := K) (Table.keyed (labels.map fun e => (e.1, .ofList e.2)))) := by
  intro h k f failed
  have hfst := congrArg Prod.fst failed
  rw [defineLabels, Act.onPart_apply, Playhead.defineAll_lists] at hfst
  cases hfst

theorem loadSequence_sure (statements : List Value) :
    Step.Sure (p.loadSequence (.ofList statements) false) := by
  refine Step.Sure.bind (fun h k f failed => ?_) fun _ => ?_
  · cases failed
  · exact (publish_sure _).bind fun _ => Step.sure_pure ()

theorem installScripts_sure : Step.Sure (p.installScripts library) := by
  refine (defineLabels_sure _).bind fun _ => ?_
  split
  · exact loadSequence_sure p _
  · exact Step.sure_pure ()

theorem installScripts_cast (spares : p.SparesCast) (h : Host K) :
    (p.installScripts library h).2.session.cast = h.session.cast := by
  have frame : Step.Frame fun h k : Host K => k.session.cast = h.session.cast :=
    ⟨fun _ => rfl, fun first second => second.trans first⟩
  refine Step.Keeps.bind frame (fun _ => rfl) (fun _ => ?_) h
  split
  · refine Step.Keeps.bind frame (fun _ => rfl) fun _ => ?_
    refine Step.Keeps.bind frame ?_ fun _ => Step.keeps_pure frame ()
    exact publish_of_react frame (fun _ _ _ => rfl) spares (fun _ _ => rfl) _
  · exact Step.keeps_pure frame ()

/-- Handing a library over answers as the registration of its characters does. -/
theorem install_of_register (h : Host K) :
    (p.install library false h).1 =
        (Cast.register (handed library.characters) h.session.cast).1 ∧
      (p.SparesCast → (p.install library false h).2.session.cast =
        (registerCharacters (handed library.characters) h).2.session.cast) := by
  rw [install_eq]
  cases hr : registerCharacters (handed library.characters) h with
  | mk answer registered =>
    have hanswer : (Cast.register (handed library.characters) h.session.cast).1 = answer :=
      congrArg Prod.fst hr
    rw [hanswer]
    cases answer with
    | error f =>
      rw [Step.bind_eq_of_error hr]
      exact ⟨rfl, fun _ => rfl⟩
    | ok u =>
      rw [Step.bind_eq_of_ok hr]
      exact ⟨(installScripts_sure p library).fst registered,
        fun spares => installScripts_cast p library spares registered⟩

/-- **A loaded library is rejected just when one of its records gives a field twice.**  Otherwise
it is accepted and the session gets the characters that the records describe; it keeps them unless a
handler that hears of the loaded statements changes the cast. -/
theorem install_loaded {folder : Files.Node} {old library : Library}
    (loaded : (Library.load folder old).1 = (.ok (), library)) (p : Playing K) (h : Host K) :
    ((∃ issues, (p.install library false h).1 = .error (.invalidRecord issues)) ↔
        ∃ e ∈ library.characters, Ambiguous (fieldsOf e.2)) ∧
      ∃ registered, registerCharacters (handed library.characters) h =
          ((p.install library false h).1, registered) ∧
        (p.SparesCast → (p.install library false h).2.session.cast = registered.session.cast) ∧
        ((∀ e ∈ library.characters, ¬ Ambiguous (fieldsOf e.2)) →
          (p.install library false h).1 = .ok () ∧ ∀ e ∈ library.characters,
            Table.get? registered.session.cast.records e.1 =
              some (described e.1 (fieldsOf e.2))) := by
  obtain ⟨-, hlibrary⟩ := Library.load_eq_ok_iff.mp loaded
  obtain ⟨distinct, records⟩ : Recorded library.characters := by
    rw [← hlibrary]
    exact Library.charactersIn_recorded folder
  obtain ⟨hanswer, hspared⟩ := install_of_register p library h
  refine ⟨?_, (registerCharacters (handed library.characters) h).2, ?_, hspared, ?_⟩
  · rw [hanswer]
    constructor
    · rintro ⟨issues, hissues⟩
      by_contra hnone
      have hsingle : ∀ e ∈ library.characters, ¬ Ambiguous (fieldsOf e.2) := by
        intro e he hdouble
        exact hnone ⟨e, he, hdouble⟩
      rw [(Cast.register_handed records hsingle h.session.cast).1] at hissues
      cases hissues
    · intro hdouble
      exact Cast.register_handed_ambiguous records hdouble h.session.cast
  · rw [hanswer]
    rfl
  · intro hsingle
    obtain ⟨hregister, hrecords⟩ := Cast.register_handed records hsingle h.session.cast
    refine ⟨hanswer.trans hregister, fun e he => ?_⟩
    have hdistinct : Table.Distinct (describedAll library.characters) := by
      rw [Table.Distinct, Library.keys_describedAll]
      exact distinct
    have hmem : (e.1, described e.1 (fieldsOf e.2)) ∈ describedAll library.characters :=
      List.mem_map_of_mem he
    rw [registerCharacters, Act.onPart_apply]
    show Table.get? (Cast.register (handed library.characters) h.session.cast).2.records _ = _
    rw [hrecords, Table.get?_putAll hdistinct, Table.get?_of_mem hdistinct hmem]
    rfl

/-! ## A record that gives a field twice -/

/-- A data folder with one file, which holds characters. -/
def folderOf (characters : String) : Files.Node :=
  .folder [("characters", .folder [("all.json", .file characters.toUTF8)])]

/-- A record that gives each field once, whatever the spelling. -/
def onefold : Library where
  characters := [("a", .ofTable [("name", .text "Ann"), ("dialogType", .text "vn")])]

/-- A record that gives a field under both of its spellings. -/
def twofold : Library where
  characters := [("a", .ofTable [("dialogType", .text "vn"), ("dialog_type", .text "vn")])]

theorem eq_of_toOption {loaded : Except Fault Unit × Library} {library : Library}
    (h : loaded.1.toOption = some () ∧ loaded.2 = library) : loaded = (.ok (), library) :=
  Prod.ext (Step.ok_of_toOption h.1) h.2

theorem load_onefold : (Library.load (folderOf
    "\x7b\"a\": \x7b\"name\": \"Ann\", \"dialogType\": \"vn\"\x7d\x7d") {}).1 =
    (.ok (), onefold) :=
  eq_of_toOption (by decide +kernel)

theorem load_twofold : (Library.load (folderOf
    "\x7b\"a\": \x7b\"dialogType\": \"vn\", \"dialog_type\": \"vn\"\x7d\x7d") {}).1 =
    (.ok (), twofold) :=
  eq_of_toOption (by decide +kernel)

/-- A host of which nothing was asked yet. -/
def fresh : Host .board where
  session := { surface := {} }

/-- The general theorem for a record that gives no field twice, and for one that gives one. -/
theorem install_loaded_board :
    (∃ registered, registerCharacters (handed onefold.characters) fresh =
        (((within 0).install onefold false fresh).1, registered) ∧
      Table.get? registered.session.cast.records "a" =
        some { key := "a", name := some "Ann", kind := .vn }) ∧
      ∃ issues, ((within 0).install twofold false fresh).1 = .error (.invalidRecord issues) := by
  constructor
  · obtain ⟨-, registered, hregistered, -, hdescribed⟩ :=
      install_loaded load_onefold (within 0) fresh
    have hsingle : ∀ e ∈ onefold.characters, ¬ Ambiguous (fieldsOf e.2) := by decide
    exact ⟨registered, hregistered, (hdescribed hsingle).2 _ List.mem_cons_self⟩
  · refine (install_loaded load_twofold (within 0) fresh).1.mpr ?_
    decide

/-- A file may hold a record that the session rejects. -/
theorem install_twofold :
    (Library.load (folderOf
        "\x7b\"a\": \x7b\"dialogType\": \"vn\", \"dialog_type\": \"vn\"\x7d\x7d") {}).1 =
        (.ok (), twofold) ∧
      ((within 0).install twofold false fresh).1 =
        .error (.invalidRecord [⟨["dialog_type"], .unknownField⟩]) :=
  ⟨load_twofold, rfl⟩

end Playing

end Dialogue
