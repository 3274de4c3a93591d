import Dialogue.Proofs.Reading
import Dialogue.Proofs.Session.Keeping
import Dialogue.Surface.Board

/-!
# Going on

A session that goes on looks where its playhead stands, clears the surface and tells that it is
clear, and only then takes the statement.  Whoever is told may have moved the playhead by then, and
there may be no statement any more.

## Results

* `Host.remembers_changes` — no change of a host takes a character away.
* `Host.knows_narrator`, `Playing.within_keepsCast` — so the narrator stays, and whatever handlers do
  takes nobody away.
* `Commands.run_error` — commands fail with the first one that fails.
* `Playing.advance_error` — going on fails for want of a statement just when those who are told of
  the clearing take it away, and otherwise fails for what is wrong with the statement, for a
  command's handler, or for the surface.
-/

set_option autoImplicit false

namespace Dialogue

variable {K : Surface}

/-! ## Characters stay -/

/-- Whoever is known in the first state is known in the second. -/
def Host.Remembers (h k : Host K) : Prop :=
  ∀ key, h.session.cast.Knows key → k.session.cast.Knows key

theorem Host.remembers_inside : Inside (Host.Remembers (K := K)) where
  frame := ⟨fun _ _ hk => hk, fun first second key hk => second key (first key hk)⟩
  settings _ _ _ hk := hk
  cast entries h _ hk := Cast.knows_register entries h.session.cast hk
  commands _ _ _ _ _ _ hk := hk
  playhead _ _ _ hk := hk
  shown _ _ _ hk := hk
  drawn _ _ _ hk := hk
  journal _ _ _ _ hk := hk
  disk _ _ _ hk := hk
  library _ _ _ hk := hk

theorem Host.remembers_parts {p : Playing K}
    (react : ∀ id occasion, Step.Keeps Host.Remembers (p.react id occasion)) :
    Parts p Host.Remembers where
  toShowing := remembers_inside.showing (fun _ _ _ hk => hk) (fun _ _ _ hk => hk) react
  handled id name := react id (.command name)
  skipped _ _ _ hk := hk

theorem Host.remembers_changes : Changes (Host.Remembers (K := K)) where
  toInside := remembers_inside
  bus _ _ _ hk := hk
  surface _ _ _ hk := hk
  handlers _ _ _ hk := hk
  answered _ _ _ _ _ _ carried := carried
  said _ react := (remembers_parts react).course.say

/-- The narrator belongs to the cast of every host that a host with a new cast comes to. -/
theorem Host.knows_narrator {h : Host K} (new : h.session.cast = {})
    (requests : List (Request K)) : (h.performAll requests).session.cast.Knows narratorKey := by
  refine performAll_keeps remembers_changes requests h narratorKey ?_
  rw [new]
  rfl

/-- The handlers of a session take no character away. -/
def Playing.KeepsCast (p : Playing K) : Prop :=
  ∀ id occasion, Step.Keeps Host.Remembers (p.react id occasion)

theorem Playing.within_keepsCast (n : Nat) : (Playing.within n : Playing K).KeepsCast :=
  Playing.reactWithin_keeps Host.remembers_changes n

/-! ## Commands one after the other -/

namespace Commands

variable {σ η β : Type} {stage : Stage σ η β}

/-- Commands fail with the first one that fails, after those before it have run. -/
theorem run_error {names : List Value} {s t : σ} {f : Fault}
    (h : run stage names s = (.error f, t)) :
    ∃ before name after u, names = before ++ name :: after ∧ run stage before s = (.ok (), u) ∧
      runOne stage name u = (.error f, t) := by
  induction names generalizing s with
  | nil => cases h
  | cons name rest ih =>
    rcases Step.bind_eq_error_iff.mp h with hfirst | ⟨_, u, hfirst, hrest⟩
    · exact ⟨[], name, rest, s, rfl, rfl, hfirst⟩
    · obtain ⟨before, other, after, v, rfl, hbefore, hother⟩ := ih hrest
      refine ⟨name :: before, other, after, v, rfl, ?_, hother⟩
      exact Step.bind_eq_ok_iff.mpr ⟨(), u, hfirst, hbefore⟩

end Commands

namespace Playing

variable {p : Playing K}

/-- Nothing but the handler of a command can fail in a session. -/
theorem runOne_error {name : String} {h k : Host K} {f : Fault}
    (failed : Commands.runOne p.stage (.text name) h = (.error f, k)) :
    ∃ id, Keyed.get? h.session.commands.handlers (.text name) = some (some id) ∧
      p.react id (.command (.text name)) h = (.error f, k) := by
  have hfind : Keyed.find (p.stage.table h).handlers (.text name) =
      .ok (Keyed.get? h.session.commands.handlers (.text name)) := rfl
  cases hfound : Keyed.get? h.session.commands.handlers (.text name) with
  | none =>
    rw [hfound] at hfind
    rw [Commands.runOne_of_none hfind] at failed
    cases failed
  | some handler? =>
    rw [hfound] at hfind
    rw [Commands.runOne_known hfind] at failed
    rcases Step.bind_eq_error_iff.mp failed with hreact | ⟨_, t, -, heffect⟩
    · cases handler? with
      | none => cases hreact
      | some id => exact ⟨id, rfl, hreact⟩
    · exact absurd heffect (Commands.takeEffect_sure (fun b => Step.sure_modify _) _ t k f)

/-! ## What can fail on the way -/

theorem publish_sure (notice : Notice K.Handle) : Step.Sure (p.publish notice) :=
  (Step.sure_lift _).bind fun _ => Step.sure_pure _

/-- A surface that cannot be cleared is all that can be wrong with clearing. -/
theorem clear_error {h k : Host K} {f : Fault} (failed : p.clear h = (.error f, k)) :
    (K.clear h.session.surface).1 = .error f := by
  rcases Step.bind_eq_error_iff.mp failed with hclear | ⟨_, t, -, hrest⟩
  · exact congrArg Prod.fst hclear
  · refine absurd hrest (Step.Sure.bind (Step.sure_modify _) (fun _ => ?_) t k f)
    exact publish_sure .cleared

end Playing

/-- There is a statement to take just when the playhead stands at one. -/
theorem Playhead.take_error_iff (q : Playhead) :
    q.take = (.error .noStatement, q) ↔ q.standing ≠ .active := by
  unfold take standing
  cases q.statements? with
  | none => simp
  | some statements =>
    by_cases h : q.cursor < statements.length
    · simp [h]
    · simp [h]

theorem Playhead.take_error {q r : Playhead} {f : Fault} (h : q.take = (.error f, r)) :
    f = .noStatement ∧ r = q := by
  unfold take at h
  split at h
  · cases h
    exact ⟨rfl, rfl⟩
  · split at h
    · cases h
      exact ⟨rfl, rfl⟩
    · cases h

/-! ## Going on -/

namespace Playing

/-- There was a statement, and those who were told of the clearing have taken it away. -/
def LosesStatement (p : Playing K) (h : Host K) : Prop :=
  h.session.playhead.standing = .active ∧
    ∃ k, p.clear h = (.ok (), k) ∧ k.session.playhead.standing ≠ .active

/-- The surface is cleared and a statement is taken. -/
def Takes (p : Playing K) (h : Host K) (statement : Value) (k : Host K) : Prop :=
  ∃ cleared playhead, p.clear h = (.ok (), cleared) ∧
    cleared.session.playhead.take = (.ok statement, playhead) ∧
      k = cleared.onSession fun s => { s with playhead }

theorem takes_of_take {p : Playing K} {h cleared taken : Host K} {statement : Value}
    (clear : p.clear h = (.ok (), cleared))
    (take : Act.onPart Session.playhead (fun playhead s => { s with playhead }) Playhead.take
      cleared = (.ok statement, taken)) : p.Takes h statement taken := by
  obtain ⟨hok, rfl⟩ := Prod.mk.inj take
  exact ⟨cleared, _, clear, Prod.ext hok rfl, rfl⟩

/-- Why going on fails when there is a statement. -/
inductive Failure (p : Playing K) (h : Host K) (f : Fault) : Prop where
  /-- The surface cannot be cleared. -/
  | clearing (refused : (K.clear h.session.surface).1 = .error f)
  /-- The statement cannot be read. -/
  | reading {statement : Value} {k : Host K} (takes : p.Takes h statement k)
    (unread : (k.session.parse statement).1 = .error f)
    (what : f.OfStatement ∨ Statement.Undrawn statement k.session.draws f)
  /-- The handler of a command fails, after those before it have run. -/
  | handling {statement : Value} {k u v : Host K} {line : Line} {session : Session K}
    {before after : List String} {name : String} {id : HandlerId} (takes : p.Takes h statement k)
    (read : k.session.parse statement = (.ok line, session))
    (place : line.commands = before ++ name :: after)
    (ran : Commands.run p.stage (before.map .text) (k.onSession fun _ => session) = (.ok (), u))
    (handler : Keyed.get? u.session.commands.handlers (.text name) = some (some id))
    (failed : p.react id (.command (.text name)) u = (.error f, v))
  /-- The surface does not show the line. -/
  | rendering {statement options : Value} {k u : Host K} {line : Line} {session : Session K}
    (takes : p.Takes h statement k) (read : k.session.parse statement = (.ok line, session))
    (ran : p.execute line (k.onSession fun _ => session) = (.ok (), u))
    (box : u.session.optionsOf (Value.optionalText line.who) (Value.optionalText line.sideImage)
      .null = .ok options)
    (refused : (K.render line.intent options u.session.surface).1 = .error f)

variable {p : Playing K} {h : Host K}

theorem advance_of_active (active : h.session.playhead.standing = .active) :
    p.advance h = (do
      p.clear
      let statement ← Act.onPart Session.playhead (fun playhead s => { s with playhead })
        Playhead.take
      let _ ← p.say statement
      return true : Act K Bool) h := by
  unfold Playing.advance
  rw [Step.bind_eq_of_ok (Step.get_apply h), active]

/-- If the statement was taken away, there is none to take. -/
theorem LosesStatement.advance (loses : p.LosesStatement h) :
    ∃ k, p.advance h = (.error .noStatement, k) := by
  obtain ⟨active, cleared, hclear, hlost⟩ := loses
  have htake := (Playhead.take_error_iff cleared.session.playhead).mpr hlost
  refine ⟨cleared, ?_⟩
  rw [advance_of_active active, Step.bind_eq_of_ok hclear]
  apply Step.bind_eq_of_error
  rw [Act.onPart_apply, htake]
  rfl

theorem execute_error {line : Line} {k : Host K} {f : Fault}
    (failed : p.execute line h = (.error f, k)) :
    ∃ before name after u id, line.commands = before ++ name :: after ∧
      Commands.run p.stage (before.map .text) h = (.ok (), u) ∧
      Keyed.get? u.session.commands.handlers (.text name) = some (some id) ∧
      p.react id (.command (.text name)) u = (.error f, k) := by
  unfold execute at failed
  split at failed
  · rcases Step.bind_eq_error_iff.mp failed with hrun | ⟨_, t, -, hpublish⟩
    · obtain ⟨before, name, after, u, hsplit, hbefore, hone⟩ := Commands.run_error hrun
      obtain ⟨first, rest, hcommands, rfl, hrest⟩ := List.map_eq_append_iff.mp hsplit
      obtain ⟨word, last, rfl, rfl, -⟩ := List.map_eq_cons_iff.mp hrest
      obtain ⟨id, hid, hreact⟩ := runOne_error hone
      exact ⟨first, word, last, u, id, hcommands, hbefore, hid, hreact⟩
    · exact absurd hpublish (publish_sure _ t k f)
  · cases failed

/-- The box of a line always has options, if the speaker of the line is known. -/
theorem exists_boxOptions {line : Line} (known : ∀ who, line.who = some who →
    h.session.cast.Knows who) : ∃ options, h.session.optionsOf (Value.optionalText line.who)
      (Value.optionalText line.sideImage) .null = .ok options := by
  have hcharacter : ∃ record, h.session.cast.character (Value.optionalText line.who) =
      .ok record := by
    cases hwho : line.who with
    | none => exact ⟨_, rfl⟩
    | some who => exact Cast.exists_character (known who hwho)
  obtain ⟨record, hrecord⟩ := hcharacter
  unfold Session.optionsOf
  rw [hrecord]
  exact ⟨_, rfl⟩

theorem display_error {line : Line} {k : Host K} {f : Fault}
    (known : ∀ who, line.who = some who → h.session.cast.Knows who)
    (failed : p.display line h = (.error f, k)) :
    ∃ options, h.session.optionsOf (Value.optionalText line.who)
        (Value.optionalText line.sideImage) .null = .ok options ∧
      (K.render line.intent options h.session.surface).1 = .error f := by
  obtain ⟨options, hoptions⟩ := exists_boxOptions known
  have hbox : boxOptions (K := K) (Value.optionalText line.who) (Value.optionalText line.sideImage)
      .null h = (.ok options, h) := by
    unfold boxOptions
    rw [Act.onPart_apply]
    exact Prod.ext hoptions rfl
  refine ⟨options, hoptions, ?_⟩
  unfold display at failed
  split at failed
  · rw [Step.bind_eq_of_ok hbox] at failed
    rcases Step.bind_eq_error_iff.mp failed with hrender | ⟨_, t, -, hpublish⟩
    · rcases Step.bind_eq_error_iff.mp hrender with hpart | ⟨_, t, -, hrest⟩
      · exact congrArg Prod.fst hpart
      · refine absurd hrest (Step.Sure.bind (Step.sure_modify _) (fun _ => ?_) t k f)
        exact (Step.sure_modify _).bind fun _ => Step.sure_pure _
    · exact absurd hpublish (publish_sure _ t k f)
  · cases failed

/-- Saying a statement that was taken fails for one of the reasons. -/
theorem say_error {statement : Value} {taken k : Host K} {f : Fault} (keeps : p.KeepsCast)
    (takes : p.Takes h statement taken) (narrator : taken.session.cast.Knows narratorKey)
    (failed : p.say statement taken = (.error f, k)) : p.Failure h f := by
  rcases Step.bind_eq_error_iff.mp failed with hparse | ⟨line, read, hparse, hrest⟩
  · have hunread : (taken.session.parse statement).1 = .error f := (Prod.mk.inj hparse).1
    exact .reading takes hunread (Statement.parse_error hunread)
  obtain ⟨hline, hread⟩ := Prod.mk.inj hparse
  have hsession : taken.session.parse statement = (.ok line, read.session) :=
    Prod.ext hline (congrArg Host.session hread)
  have hhost : read = taken.onSession fun _ => read.session := by
    rw [← hread]
    rfl
  rcases Step.bind_eq_error_iff.mp hrest with hexecute | ⟨_, ran, hexecute, hrest⟩
  · obtain ⟨before, name, after, u, id, hplace, hran, hhandler, hreact⟩ := execute_error hexecute
    rw [hhost] at hran
    exact .handling takes hsession hplace hran hhandler hreact
  rcases Step.bind_eq_error_iff.mp hrest with hdisplay | ⟨_, t, -, hrest⟩
  · -- the speaker was known when the line was read, and is known still
    have hknown : ∀ who, line.who = some who → ran.session.cast.Knows who := by
      intro who hwho
      have hran := (Host.remembers_parts keeps).course.execute line read
      rw [hexecute] at hran
      have hcast : read.session.cast = taken.session.cast := by
        rw [← hread]
        rfl
      refine hran who ?_
      rw [hcast]
      rcases Statement.parse_who hline hwho with rfl | hk
      · exact narrator
      · exact hk
    obtain ⟨options, hbox, hrefused⟩ := display_error hknown hdisplay
    rw [hhost] at hexecute
    exact .rendering takes hsession hexecute hbox hrefused
  · cases hrest

/-- **If the surface is cleared for a statement, going on fails for want of a statement when those
who are told of the clearing take it away, and else for what is wrong with the statement, for the
handler of a command, or for the surface.** -/
theorem advance_error (keeps : p.KeepsCast) (narrator : h.session.cast.Knows narratorKey) :
    (p.LosesStatement h → ∃ k, p.advance h = (.error .noStatement, k)) ∧
      (¬ p.LosesStatement h → ∀ f k, p.advance h = (.error f, k) → p.Failure h f) := by
  refine ⟨LosesStatement.advance, fun stays f k failed => ?_⟩
  have hkeeps := clear_keeps Host.remembers_changes keeps
  cases hstanding : h.session.playhead.standing with
  | idle =>
    unfold advance at failed
    rw [Step.bind_eq_of_ok (Step.get_apply h), hstanding] at failed
    cases failed
  | exhausted =>
    unfold advance at failed
    rw [Step.bind_eq_of_ok (Step.get_apply h), hstanding] at failed
    rcases Step.bind_eq_error_iff.mp failed with hclear | ⟨_, t, -, hrest⟩
    · exact .clearing (clear_error hclear)
    · refine absurd hrest (Step.Sure.bind Step.sure_get (fun _ => ?_) t k f)
      exact (publish_sure _).bind fun _ => Step.sure_pure _
  | active =>
    rw [advance_of_active hstanding] at failed
    rcases Step.bind_eq_error_iff.mp failed with hclear | ⟨_, cleared, hclear, hrest⟩
    · exact .clearing (clear_error hclear)
    rcases Step.bind_eq_error_iff.mp hrest with htake | ⟨statement, taken, htake, hrest⟩
    · -- no statement is left, so it was taken away
      obtain ⟨herror, -⟩ := Prod.mk.inj htake
      obtain ⟨rfl, hleft⟩ := Playhead.take_error (Prod.ext herror rfl)
      have hlost := (Playhead.take_error_iff _).mp (Prod.ext herror hleft)
      exact absurd ⟨hstanding, cleared, hclear, hlost⟩ stays
    have htakes := takes_of_take hclear htake
    have hknown : taken.session.cast.Knows narratorKey := by
      have hcleared := hkeeps h
      rw [hclear] at hcleared
      have htaken := onPlayhead_keeps Host.remembers_changes Playhead.take cleared
      rw [htake] at htaken
      exact htaken _ (hcleared _ narrator)
    rcases Step.bind_eq_error_iff.mp hrest with hsay | ⟨_, t, -, hrest⟩
    · exact say_error keeps htakes hknown hsay
    · cases hrest

/-! ## A statement that is taken away -/

/-- Whoever is told that the surface is clear loads a list without statements. -/
def usurped : Host .board where
  session := {
    surface := {}
    playhead := { loose? := some [.text "Hi"] }
    bus := ({} : Bus HandlerId (Notice Nat)).subscribeFirst .dialogCleared 0 (.int 0) }
  handlers := [.held none [[.loadSequence (.ofList []) false]]]

theorem usurped_loses : (within 2).LosesStatement usurped :=
  ⟨by decide, _, rfl, by decide +kernel⟩

/-- A statement is due that is no statement. -/
def unreadable : Host .board where
  session := { surface := {}, playhead := { loose? := some [.null] } }

/-- The general theorem for one host that loses its statement, and for one that does not. -/
theorem advance_error_board :
    (∃ k, (within 2).advance usurped = (.error .noStatement, k)) ∧
      (within 2).Failure unreadable (.malformed .null (.unsupported "NoneType")) := by
  constructor
  · exact (advance_error (within_keepsCast 2) (Host.knows_narrator rfl [])).1 usurped_loses
  · refine (advance_error (within_keepsCast 2) (Host.knows_narrator rfl [])).2 ?_ _ _ rfl
    rintro ⟨-, k, hclear, hlost⟩
    cases hclear
    exact hlost (by decide)

/-- Going on may fail for want of a statement, though no statement is wrong and no command has a
handler. -/
theorem advance_usurped : ∃ k, (within 2).advance usurped = (.error .noStatement, k) ∧
    ¬ Fault.noStatement.OfStatement ∧ usurped.session.commands = .prompting := by
  obtain ⟨k, hk⟩ := usurped_loses.advance
  refine ⟨k, hk, ?_, rfl⟩
  intro h
  cases h

end Playing

end Dialogue
