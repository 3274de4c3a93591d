import Dialogue.Proofs.Playhead
import Dialogue.Proofs.Session.Failing
import Dialogue.Proofs.Session.Recording

/-!
# Side lines

A host plays a script by defining labels, loading lists, starting labels and going on.  In between it
may ask for other things: have a statement said or read, show a text of its own, clear the board, change
settings, register characters and commands.  As long as handlers leave the session alone, such side
lines do not disturb the script, whether they succeed or fail.

Side lines do change who is known, which words are commands, how boxes look and what is drawn, and a
statement of the script may fail for it or not.  But a statement is taken before it is read.  What is
taken depends on the playhead and on whether the board can be cleared, and a side line changes neither:
it puts no box on the board that cannot be asked for its options.

## Results

* `Playing.taken?_eq_some_iff` — what is meant by the statement that is taken.
* `Playing.carryOut_sideline` — a side line leaves the playhead where it is.
* `Playing.carryOut_script` — what a request of the script takes, and where it leaves the playhead.
* `Host.glimpses_eq` — what can be seen of a script follows from its requests alone.
* `Host.glimpses_filter` — so side lines do not disturb it.
-/

set_option autoImplicit false

namespace Dialogue

/-! ## Requests of the script, and others -/

/-- Does this request belong to the script? -/
def Request.isScript : Request .board → Bool
  | .defineLabels _ | .loadSequence .. | .startLabel .. | .advance => true
  | _ => false

/-- Is this request a side line?  A command that it registers has an aloof handler, and options are
mappings. -/
def Request.isSideline : Request .board → Bool
  | .say _ | .parse _ | .clear | .registerCharacters _ | .nameCommand _ => true
  | .registerCommand _ calls => aloofLists calls
  | .showText kind text options => Request.isTidy (.showText kind text options)
  | .configure options => Settings.givesTrees options
  | .attempt r => r.isSideline
  | _ => false

/-- What going on asks of the playhead: nothing, if the board cannot be cleared. -/
def Cue.going (clearable : Bool) : List Cue :=
  if clearable then [.take] else []

/-- What a request of the script asks of the playhead, on a board that can be cleared or cannot. -/
def Request.cues (clearable : Bool) : Request .board → List Cue
  | .defineLabels labels => [.define labels]
  | .loadSequence statements wanted =>
    .load statements :: Cue.going
      (wanted && (statements.members?.isSome && statements.length?.isSome) && clearable)
  | .startLabel label wanted =>
    .start label :: Cue.going (wanted && label.keyFault?.isNone && clearable)
  | .advance => Cue.going clearable
  | _ => []

/-! ## The statement that is taken -/

namespace Playhead

theorem exists_take {q : Playhead} (active : q.standing = .active) : ∃ v r, q.take = (.ok v, r) := by
  cases htake : q.take with
  | mk result r =>
    cases result with
    | ok v => exact ⟨v, r, rfl⟩
    | error f =>
      obtain ⟨rfl, rfl⟩ := take_error htake
      exact absurd active ((take_error_iff _).mp htake)

/-- A playhead that stands at no statement takes none and stays where it is. -/
theorem going_of_not_active {q : Playhead} (inactive : q.standing ≠ .active) (clearable : Bool) :
    q.followAll (Cue.going clearable) = q ∧ q.taken (Cue.going clearable) = [] := by
  have htake := (take_error_iff q).mpr inactive
  cases clearable with
  | false => exact ⟨rfl, rfl⟩
  | true =>
    have hfollow : q.follow .take = q := congrArg Prod.snd htake
    have hgiven : q.given? .take = none := congrArg (fun r => r.1.toOption) htake
    refine ⟨hfollow, ?_⟩
    show (q.given? .take).toList ++ [] = []
    rw [hgiven]
    rfl

theorem going_of_take {q r : Playhead} {statement : Value} (take : q.take = (.ok statement, r)) :
    q.followAll (Cue.going true) = r ∧ q.taken (Cue.going true) = [statement] := by
  have hgiven : q.given? .take = some statement := congrArg (fun r => r.1.toOption) take
  refine ⟨congrArg Prod.snd take, ?_⟩
  show (q.given? .take).toList ++ [] = [statement]
  rw [hgiven]
  rfl

end Playhead

namespace Playing

variable {K : Surface}

/-- The statement that is taken when a session goes on: the one at the playhead, once the surface was
cleared. -/
def taken? (p : Playing K) (h : Host K) : Option Value :=
  match h.session.playhead.standing, p.clear h with
  | .active, (.ok (), cleared) => cleared.session.playhead.take.1.toOption
  | _, _ => none

/-- What a request of the script does before it goes on, if it is to go on. -/
def leadUp? (p : Playing .board) : Request .board → Option (Act .board Unit)
  | .loadSequence statements true => some (p.loadSequence statements false)
  | .startLabel label true => some (p.startLabel label false)
  | .advance => some (pure ())
  | _ => none

/-- The statement that is taken when a session goes on after something that may fail. -/
def takenAfter? (p : Playing K) (x : Act K Unit) (h : Host K) : Option Value :=
  match x h with
  | (.ok (), k) => p.taken? k
  | (.error _, _) => none

/-- The statement that a request of the script takes. -/
def takenBy? (p : Playing .board) (r : Request .board) (h : Host .board) : Option Value :=
  (p.leadUp? r).bind fun x => p.takenAfter? x h

/-- What is taken is the statement that is said then. -/
theorem taken?_eq_some_iff {p : Playing K} {h : Host K} {statement : Value} :
    p.taken? h = some statement ↔
      h.session.playhead.standing = .active ∧ ∃ taken, p.Takes h statement taken ∧
        p.advance h = (do let _ ← p.say statement; return true : Act K Bool) taken := by
  constructor
  · intro htaken
    unfold taken? at htaken
    split at htaken
    · rename_i cleared active hclear
      have htake := Step.ok_of_toOption htaken
      have takes : p.Takes h statement _ := ⟨cleared, _, hclear, Prod.ext htake rfl, rfl⟩
      exact ⟨active, _, takes, takes.advance active⟩
    · cases htaken
  · rintro ⟨active, -, ⟨cleared, rest, hclear, htake, -⟩, -⟩
    unfold taken?
    rw [active, hclear]
    show cleared.session.playhead.take.1.toOption = some statement
    rw [htake]
    rfl

/-- To load a list and go on is to load it, and to go on then. -/
theorem loadSequence_eq (p : Playing K) (statements : Value) (advance : Bool) :
    p.loadSequence statements advance =
      (p.loadSequence statements false >>= fun _ => p.advanceIf advance) := by
  unfold loadSequence
  rw [bind_assoc]
  refine bind_congr fun _ => ?_
  cases statements.length? with
  | none => rfl
  | some length =>
    show _ = ((p.publish (.loaded length) >>= fun _ => pure ()) >>= fun _ => p.advanceIf advance)
    rw [bind_assoc]
    refine bind_congr fun _ => ?_
    rw [pure_bind]

/-- To start a label and go on is to start it, and to go on then. -/
theorem startLabel_eq (p : Playing K) (label : Value) (advance : Bool) :
    p.startLabel label advance =
      (p.startLabel label false >>= fun _ => p.advanceIf advance) := by
  unfold startLabel
  simp only [bind_assoc]
  refine bind_congr fun found => bind_congr fun _ => bind_congr fun _ => ?_
  exact (pure_bind _ _).symm

end Playing

/-! ## Where a host stands in its script -/

namespace Host

/-- Can every box on the board be asked for its options, so that the board can be cleared? -/
def clearable (h : Host .board) : Bool :=
  h.session.surface.visible.all Box.hasOptions

/-- The playhead is this one, the board can be cleared or cannot, option trees are mappings and handlers
are aloof. -/
structure Stationed (q : Playhead) (clearable : Bool) (h : Host .board) : Prop where
  playhead : h.session.playhead = q
  clearable : h.clearable = clearable
  trees : h.Treelike
  aloof : h.Aloof

/-- The second host stands in its script where the first one stood. -/
def Spares (h k : Host .board) : Prop :=
  ∀ q clearable, Stationed q clearable h → Stationed q clearable k

variable {q : Playhead} {clearable : Bool} {h k : Host .board}

theorem spares_apart : Apart Spares where
  frame :=
    ⟨fun _ _ _ stationed => stationed, fun hk kl _ _ stationed => kl _ _ (hk _ _ stationed)⟩
  reported _ _ _ _ _ stationed := { stationed with }
  disk _ _ _ _ stationed := { stationed with }
  library _ _ _ _ stationed := { stationed with }

/-- What aloof handlers do leaves a host where it stands. -/
theorem spares_of_stays (stays : Stays h k) : Spares h k := by
  intro q clearable stationed
  obtain ⟨-, haside, haloof⟩ := stays stationed.aloof
  have hsession : k.session = { h.session with bus := k.session.bus } := haside
  refine ⟨?_, ?_, ?_, haloof⟩
  · rw [hsession]
    exact stationed.playhead
  · unfold Host.clearable
    rw [hsession]
    exact stationed.clearable
  · unfold Treelike
    rw [hsession]
    exact stationed.trees

/-- A box that can be asked for its options may be put on the board. -/
theorem Stationed.boxed (stationed : Stationed q clearable h) (intent : Intent) {options : Value}
    (mapping : options.kind = .tree) : Stationed q clearable (h.boxed intent options) := by
  have hbox : (h.session.surface.next intent options).hasOptions = true :=
    Box.hasOptions_of_kind mapping
  refine { stationed with clearable := ?_ }
  show (h.session.surface.visible ++ [_]).all Box.hasOptions = _
  rw [List.all_append, List.all_cons, hbox]
  exact (Bool.and_true _).trans stationed.clearable

/-- A board that can be cleared can be cleared again. -/
theorem Stationed.wiped (stationed : Stationed q true h) : Stationed q true h.wiped := by
  refine { stationed with clearable := ?_ }
  have hall := List.all_eq_true.mp stationed.clearable
  exact List.all_eq_true.mpr fun box hm => hall box (List.mem_of_mem_filter hm)

/-- The playhead may be asked for something. -/
theorem Stationed.moved (stationed : Stationed q clearable h) (new : Playhead) :
    Stationed new clearable (h.onSession fun s => { s with playhead := new }) :=
  { stationed with playhead := rfl }

theorem Stationed.onPlayhead (stationed : Stationed q clearable h) {α : Type}
    (f : Playhead → Except Fault α × Playhead) :
    Act.onPart Session.playhead (fun playhead s => { s with playhead }) f h =
      ((f q).1, h.onSession fun s => { s with playhead := (f q).2 }) := by
  rw [Act.onPart_apply, stationed.playhead]

end Host

namespace Playing

open Host

variable {p : Playing .board} {q : Playhead} {c : Bool} {h : Host .board} {r : Request .board}
  (react : ∀ id occasion, Step.Keeps Stays (p.react id occasion))

include react

/-! ## What leaves the playhead where it is -/

theorem publish_spares (notice : Notice Nat) : Step.Keeps Spares (p.publish notice) := by
  refine publish_of_react spares_apart.frame spares_apart.reported ?_ ?_ notice
  · exact fun id occasion h => spares_of_stays (react id occasion h)
  · exact fun _ _ _ _ stationed => { stationed with }

/-- The board is cleared if it can be, and else is left as it is. -/
theorem clear_stationed (stationed : Stationed q c h) :
    if c then ∃ k, p.clear h = (.ok (), k) ∧ Stationed q c k else ∃ f, p.clear h = (.error f, h) := by
  cases c with
  | true =>
    have hboxes := List.all_eq_true.mp stationed.clearable
    have htold := publish_spares react .cleared h.wiped q true stationed.wiped
    exact ⟨_, clear_of_hasOptions p hboxes, htold⟩
  | false =>
    obtain ⟨box, visible, unasked⟩ := List.all_eq_false.mp stationed.clearable
    exact clear_of_not_hasOptions p visible (Bool.eq_false_of_not_eq_true unasked)

theorem clear_spares : Step.Keeps Spares p.clear := by
  intro h q c stationed
  have hclear := clear_stationed react stationed
  cases c with
  | true =>
    obtain ⟨k, hk, kstationed⟩ := hclear
    rw [hk]
    exact kstationed
  | false =>
    obtain ⟨f, hf⟩ := hclear
    rw [hf]
    exact stationed

/-- **The parts of saying a statement leave the playhead where it is.** -/
theorem saying_spares : Saying p Spares where
  toApart := spares_apart
  drawn _ _ _ _ stationed := { stationed with }
  prompted _ _ _ _ stationed := { stationed with }
  displayed line h q c stationed := by
    rcases display_cases p line h with hsame | ⟨options, hkind, hdisplay⟩
    · rw [hsame]
      exact stationed
    · rw [hdisplay]
      exact publish_spares react _ _ q c (stationed.boxed _ hkind)
  told notice _ := publish_spares react notice
  handled id name h := spares_of_stays (react id (.command name) h)
  skipped _ _ _ _ stationed := { stationed with }

/-- **A side line leaves the playhead where it is**, whether it succeeds or fails. -/
theorem carryOut_sideline (sideline : r.isSideline = true) :
    Step.Keeps Spares (p.carryOut r) := by
  have saying := saying_spares react
  induction r with
  | attempt r ih => exact (ih sideline).attempt _
  | say statement => exact saying.bind (saying.say statement) fun _ => saying.pure _
  | parse statement =>
    exact saying.bind (Act.onPart_keeps fun h => saying.drawn _ h) fun _ => saying.pure _
  | clear => exact saying.bind (clear_spares react) fun _ => saying.pure _
  | registerCharacters entries =>
    refine saying.bind (Act.onPart_keeps fun h q c stationed => ?_) fun _ => saying.pure _
    exact { stationed with }
  | nameCommand name =>
    intro h q c stationed
    rcases carryOut_nameCommand p name h with hsame | ⟨commands, hnamed⟩
    · rw [hsame]
      exact stationed
    · rw [hnamed]
      exact { stationed with }
  | registerCommand name calls =>
    intro h q c stationed
    rcases carryOut_registerCommand p name calls h with hsame | ⟨commands, hadded⟩
    · rw [hsame]
      exact stationed
    · have hnamed : Stationed q c (h.onSession fun s => { s with commands }) := { stationed with }
      have haloof : (Handler.held none calls).aloof = true := sideline
      rw [hadded]
      exact spares_of_stays (stays_addHandler haloof _) q c hnamed
  | showText kind text options =>
    refine saying.bind (fun h q c stationed => ?_) fun _ => saying.pure _
    have htidy : (Request.showText kind text options : Request .board).isTidy = true := sideline
    have hkind := stationed.trees.resolve_kind kind (Request.given_of_isTidy htidy)
    have hasked : (h.session.surface.next (.ofText text)
        (h.session.settings.resolve kind none .null options)).hasOptions = true :=
      Box.hasOptions_of_kind hkind
    rcases showText_cases kind text options h with hs | hs | ⟨hnot, -⟩
    · rw [hs]
      exact stationed
    · rw [hs]
      exact stationed.boxed _ hkind
    · rw [hasked] at hnot
      cases hnot
  | configure options =>
    refine saying.bind (Act.onPart_keeps fun h q c stationed => ?_) fun _ => saying.pure _
    exact { stationed with trees := Settings.update_kind sideline stationed.trees }
  | _ => cases sideline

/-! ## What moves the playhead -/

theorem advance_of_clearable (active : q.standing = .active)
    (stationed : Stationed q true h) : ∃ statement rest, q.take = (.ok statement, rest) ∧
      p.taken? h = some statement ∧ Stationed rest true (p.advance h).2 := by
  have saying := saying_spares react
  have hactive : h.session.playhead.standing = .active := stationed.playhead ▸ active
  obtain ⟨k, hk, kstationed⟩ := clear_stationed react stationed
  obtain ⟨statement, rest, htake⟩ := Playhead.exists_take active
  have takes : p.Takes h statement (k.onSession fun s => { s with playhead := rest }) :=
    ⟨k, rest, hk, kstationed.playhead ▸ htake, rfl⟩
  have hadvance := takes.advance hactive
  refine ⟨statement, rest, htake, taken?_eq_some_iff.mpr ⟨hactive, _, takes, hadvance⟩, ?_⟩
  rw [hadvance]
  exact saying.bind (saying.say statement) (fun _ => saying.pure true) _ _ _ (kstationed.moved rest)

/-- On a board that cannot be cleared, no statement is reached. -/
theorem advance_of_blocked (active : q.standing = .active) (stationed : Stationed q false h) :
    p.taken? h = none ∧ Stationed q false (p.advance h).2 := by
  have hactive : h.session.playhead.standing = .active := stationed.playhead ▸ active
  obtain ⟨f, hf⟩ := clear_stationed react stationed
  refine ⟨?_, ?_⟩
  · unfold taken?
    rw [hactive, hf]
  · rw [advance_of_active hactive, Step.bind_eq_of_error hf]
    exact stationed

/-- A playhead that stands at no statement is not moved. -/
theorem advance_of_not_active (inactive : q.standing ≠ .active) (stationed : Stationed q c h) :
    p.taken? h = none ∧ Stationed q c (p.advance h).2 := by
  have saying := saying_spares react
  constructor
  · unfold taken?
    split
    · rename_i hactive _
      exact absurd (stationed.playhead ▸ hactive) inactive
    · rfl
  · unfold advance
    rw [Step.bind_eq_of_ok (Step.get_apply h)]
    cases hstanding : h.session.playhead.standing with
    | idle => exact stationed
    | exhausted =>
      refine saying.bind (clear_spares react) (fun _ => ?_) h q c stationed
      refine saying.bind saying.get fun k => ?_
      exact saying.bind (publish_spares react _) fun _ => saying.pure false
    | active => exact absurd (stationed.playhead ▸ hstanding) inactive

/-- **Going on takes what the playhead gives when it is asked**, whatever becomes of the statement. -/
theorem advance_stationed (stationed : Stationed q c h) :
    Stationed (q.followAll (Cue.going c)) c (p.advance h).2 ∧
      (p.taken? h).toList = q.taken (Cue.going c) := by
  by_cases active : q.standing = .active
  · cases c with
    | true =>
      obtain ⟨statement, rest, htake, htaken, hstationed⟩ :=
        advance_of_clearable react active stationed
      obtain ⟨hfollow, hgiven⟩ := Playhead.going_of_take htake
      rw [hfollow, htaken, hgiven]
      exact ⟨hstationed, rfl⟩
    | false =>
      obtain ⟨htaken, hstationed⟩ := advance_of_blocked react active stationed
      rw [htaken]
      exact ⟨hstationed, rfl⟩
  · obtain ⟨htaken, hstationed⟩ := advance_of_not_active react active stationed
    obtain ⟨hfollow, hgiven⟩ := Playhead.going_of_not_active active c
    rw [hfollow, htaken, hgiven]
    exact ⟨hstationed, rfl⟩

/-- What follows a cue that was followed, or refused, is asked of the playhead as the cue left it. -/
theorem advanceIf_stationed {x : Act .board Unit} {cue : Cue} {goes : Bool} (wanted : Bool)
    (led : Stationed (q.follow cue) c (x h).2) (ends : (x h).1.toOption.isSome = goes) :
    Stationed (q.followAll (cue :: Cue.going (wanted && goes && c))) c
        ((x >>= fun _ => p.advanceIf wanted) h).2 ∧
      (if wanted then (p.takenAfter? x h).toList else []) =
        (q.follow cue).taken (Cue.going (wanted && goes && c)) := by
  unfold takenAfter?
  rw [Step.bind_apply]
  cases hx : x h with
  | mk result k =>
    rw [hx] at led ends
    cases wanted with
    | false =>
      cases result <;> exact ⟨led, rfl⟩
    | true =>
      cases result with
      | error f =>
        cases ends
        exact ⟨led, rfl⟩
      | ok u =>
        cases ends
        obtain ⟨hstationed, htaken⟩ := advance_stationed react led
        refine ⟨?_, htaken⟩
        show Stationed _ c (p.advanceIf true k).2
        have hadvance : (p.advanceIf true k).2 = (p.advance k).2 := Step.bind_pure_snd ..
        rw [hadvance]
        exact hstationed

theorem loadSequence_stationed (stationed : Stationed q c h) (statements : Value) :
    Stationed (q.follow (.load statements)) c (p.loadSequence statements false h).2 ∧
      (p.loadSequence statements false h).1.toOption.isSome =
        (statements.members?.isSome && statements.length?.isSome) := by
  have hpart := stationed.onPlayhead (Playhead.loadMembers statements)
  have hmoved := stationed.moved (q.loadMembers statements).2
  have hends : (q.loadMembers statements).1.toOption.isSome = statements.members?.isSome := by
    unfold Playhead.loadMembers
    cases statements.members? <;> rfl
  unfold loadSequence
  cases hload : (q.loadMembers statements).1 with
  | error f =>
    rw [hload] at hpart hends
    rw [Step.bind_eq_of_error hpart, ← hends]
    exact ⟨hmoved, rfl⟩
  | ok u =>
    rw [hload] at hpart hends
    rw [Step.bind_eq_of_ok hpart, ← hends]
    cases statements.length? with
    | none => exact ⟨hmoved, rfl⟩
    | some length => exact ⟨publish_spares react (.loaded length) _ _ _ hmoved, rfl⟩

theorem startLabel_stationed (stationed : Stationed q c h) (label : Value) :
    Stationed (q.follow (.start label)) c (p.startLabel label false h).2 ∧
      (p.startLabel label false h).1.toOption.isSome = label.keyFault?.isNone := by
  have saying := saying_spares react
  have hpart := stationed.onPlayhead (Playhead.start label)
  have hmoved := stationed.moved (q.start label).2
  have hends : (q.start label).1.toOption.isSome = label.keyFault?.isNone := by
    unfold Playhead.start
    cases label.keyFault? <;> rfl
  unfold startLabel
  cases hstart : (q.start label).1 with
  | error f =>
    rw [hstart] at hpart hends
    rw [Step.bind_eq_of_error hpart, ← hends]
    exact ⟨hmoved, rfl⟩
  | ok found =>
    rw [hstart] at hpart hends
    rw [Step.bind_eq_of_ok hpart, ← hends]
    cases found with
    | true => exact ⟨publish_spares react (.started label true) _ _ _ hmoved, rfl⟩
    | false =>
      have hnoted := saying.reported _ _ (Playhead.quiet_reportsOfStart label false) _ _ hmoved
      exact ⟨publish_spares react (.started label false) _ _ _ hnoted, rfl⟩

/-- **A request of the script takes what the playhead gives at its cues, and leaves the playhead where
these lead.** -/
theorem carryOut_script (stationed : Stationed q c h) (script : r.isScript = true) :
    Stationed (q.followAll (r.cues c)) c (p.carryOut r h).2 ∧
      (p.takenBy? r h).toList = q.taken (r.cues c) := by
  cases r with
  | defineLabels labels =>
    have hstate : (p.carryOut (.defineLabels labels) h).2 = (defineLabels labels h).2 :=
      Step.bind_pure_snd ..
    rw [hstate]
    unfold defineLabels
    rw [stationed.onPlayhead]
    exact ⟨stationed.moved _, rfl⟩
  | loadSequence statements wanted =>
    have hstate : (p.carryOut (.loadSequence statements wanted) h).2 =
      (p.loadSequence statements wanted h).2 := Step.bind_pure_snd ..
    obtain ⟨hled, hends⟩ := loadSequence_stationed react stationed statements
    obtain ⟨hstationed, htaken⟩ := advanceIf_stationed react wanted hled hends
    rw [hstate, loadSequence_eq]
    refine ⟨hstationed, Eq.trans ?_ htaken⟩
    cases wanted <;> rfl
  | startLabel label wanted =>
    have hstate : (p.carryOut (.startLabel label wanted) h).2 =
      (p.startLabel label wanted h).2 := Step.bind_pure_snd ..
    obtain ⟨hled, hends⟩ := startLabel_stationed react stationed label
    obtain ⟨hstationed, htaken⟩ := advanceIf_stationed react wanted hled hends
    rw [hstate, startLabel_eq]
    refine ⟨hstationed, Eq.trans ?_ htaken⟩
    cases wanted <;> rfl
  | advance =>
    have hstate : (p.carryOut .advance h).2 = (p.advance h).2 := Step.bind_pure_snd ..
    rw [hstate]
    exact advance_stationed react stationed
  | _ => cases script

end Playing

/-! ## What can be seen of a script -/

/-- What can be seen of a script after a request: the statements that the request took, the label that is
played, the place in the list, and where the playhead stands. -/
structure Glimpse where
  taken : List Value
  label? : Option Value
  cursor : Nat
  standing : Standing
deriving DecidableEq, Repr

namespace Playhead

/-- What can be seen of a playhead after it gave these statements. -/
def glimpse (taken : List Value) (q : Playhead) : Glimpse where
  taken := taken
  label? := q.label?
  cursor := q.cursor
  standing := q.standing

/-- What can be seen of a playhead that follows cues, a few at a time. -/
def glimpses : List (List Cue) → Playhead → List Glimpse
  | [], _ => []
  | cues :: rest, q => (q.followAll cues).glimpse (q.taken cues) :: (q.followAll cues).glimpses rest

end Playhead

namespace Host

/-- What can be seen of the script when a host performed a request. -/
def glimpse (r : Request .board) (h : Host .board) : Glimpse :=
  (perform r h).2.session.playhead.glimpse ((Playing.within (h.depth r)).takenBy? r h).toList

/-- What can be seen of the script while a host performs requests, after each that belongs to it. -/
def glimpses : List (Request .board) → Host .board → List Glimpse
  | [], _ => []
  | r :: rest, h =>
    if r.isScript then h.glimpse r :: glimpses rest (perform r h).2
    else glimpses rest (perform r h).2

variable {q : Playhead} {clearable : Bool} {h : Host .board} {r : Request .board}
  {requests : List (Request .board)}

/-- **What can be seen of a script follows from its requests alone**, and from where the host stood. -/
theorem glimpses_eq (stationed : Stationed q clearable h)
    (each : ∀ r ∈ requests, r.isScript = true ∨ r.isSideline = true) :
    h.glimpses requests =
      q.glimpses ((requests.filter Request.isScript).map (Request.cues clearable)) := by
  induction requests generalizing q h with
  | nil => rfl
  | cons r rest ih =>
    have react := Playing.reactWithin_stays (h.depth r)
    have hrest : ∀ other ∈ rest, other.isScript = true ∨ other.isSideline = true :=
      fun other hm => each other (List.mem_cons_of_mem _ hm)
    rw [glimpses]
    cases script : r.isScript with
    | true =>
      obtain ⟨hstationed, htaken⟩ :=
        Playing.carryOut_script (p := Playing.within (h.depth r)) react stationed script
      have hglimpse : h.glimpse r =
          (q.followAll (r.cues clearable)).glimpse (q.taken (r.cues clearable)) := by
        unfold glimpse
        rw [htaken, ← hstationed.playhead]
        rfl
      have hgoes : (perform r h).2.glimpses rest = (q.followAll (r.cues clearable)).glimpses
          ((rest.filter Request.isScript).map (Request.cues clearable)) := ih hstationed hrest
      rw [if_pos rfl, List.filter_cons_of_pos script, hglimpse, hgoes]
      rfl
    | false =>
      have hside : r.isSideline = true := by
        have hr := each r List.mem_cons_self
        rw [script] at hr
        exact hr.resolve_left Bool.false_ne_true
      have hspared : Stationed q clearable (perform r h).2 :=
        Playing.carryOut_sideline (p := Playing.within (h.depth r)) react hside h _ _ stationed
      rw [if_neg Bool.false_ne_true, List.filter_cons_of_neg (by simp [script]), ih hspared hrest]

/-- **Side lines do not disturb a script.**  Whatever side lines a host performs between the requests of
its script, and whether these succeed or fail: after each request of the script, the statements that it
took, the label, the place in the list and where the playhead stands are what they are without them. -/
theorem glimpses_filter (trees : h.Treelike) (aloof : h.Aloof)
    (each : ∀ r ∈ requests, r.isScript = true ∨ r.isSideline = true) :
    h.glimpses requests = h.glimpses (requests.filter Request.isScript) := by
  have stationed : Stationed h.session.playhead h.clearable h := ⟨rfl, rfl, trees, aloof⟩
  have hscript : ∀ r ∈ requests.filter Request.isScript, r.isScript = true ∨ r.isSideline = true :=
    fun r hm => .inl (List.mem_filter.mp hm).2
  rw [glimpses_eq stationed each, glimpses_eq stationed hscript, List.filter_filter]
  simp only [Bool.and_self]

/-- A script of two statements, with side lines in between: a statement that is none, an option that is
unknown, a command that gives up when the first statement is said, and boxes on the board. -/
def interrupted : List (Request .board) :=
  [.defineLabels [(.text "a", .ofList [.text "wave One", .text "Two"])],
   .say .null,
   .registerCommand (.text "wave") [[.raise (.raised "late")]],
   .startLabel (.text "a") true,
   .configure [(.text "pop", .tree .own []), (.text "size", .int 3)],
   .showText .vn (.text "Aside") .null,
   .registerCharacters [("r", .fields (.tree .own []))],
   .parse (.text "Two"),
   .advance,
   .clear,
   .nameCommand (.text "Two"),
   .advance]

/-- The general theorem for this script, played by a host that observes its session. -/
theorem glimpses_filter_interrupted :
    (∀ r ∈ interrupted, r.isScript = true ∨ r.isSideline = true) ∧
      let h : Host .board := observing { surface := {} }
      h.glimpses interrupted = h.glimpses (interrupted.filter Request.isScript) ∧
        (h.glimpses interrupted).map Glimpse.taken =
          [[], [.text "wave One"], [.text "Two"], []] := by
  have each : ∀ r ∈ interrupted, r.isScript = true ∨ r.isSideline = true := by decide
  refine ⟨each, ?_⟩
  intro h
  have aloof : h.Aloof := fun handler hm => by
    rw [List.mem_singleton.mp hm]
    rfl
  have same : h.glimpses interrupted = h.glimpses (interrupted.filter Request.isScript) :=
    glimpses_filter ⟨rfl, rfl⟩ aloof each
  exact ⟨same, by decide +kernel⟩

end Host

end Dialogue
