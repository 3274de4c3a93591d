import Dialogue.Proofs.Bus.Waiting
import Dialogue.Proofs.Session.Failing

/-!
# Discreet handlers

Handlers are discreet when they leave it alone whether more is announced to come: those that wait for a
signal, and those of commands, but for the handlers under the names of the built-in commands, which may
announce whatever they like.  Their own effect comes after the handler, so after any commands the last
built-in one among them has decided.

## Results

* `Playing.publish_of_waiting` — what the handlers keep that wait, telling a notice keeps.
* `Discreet.publish` — telling a notice announces nothing.
* `Discreet.runOne` — what one command announces; `Discreet.run` — what commands announce.
-/

set_option autoImplicit false

namespace Dialogue

variable {K : Surface}

/-! ## What is announced -/

namespace Commands

/-- A session has its built-in commands, and they are known. -/
structure Equipped (c : Commands HandlerId Bool) : Prop where
  builtins : c.builtins = prompting.builtins
  known : ∀ name, prompting.announces? name ≠ none → c.has name = true

/-- Is this the handler of this command? -/
def Calls (c : Commands HandlerId Bool) (name : String) (id : HandlerId) : Prop :=
  Keyed.get? c.handlers (.text name) = some (some id)

theorem Equipped.announces? {c : Commands HandlerId Bool} (equipped : c.Equipped) :
    c.announces? = prompting.announces? := by
  funext name
  unfold Commands.announces?
  rw [equipped.builtins]

/-- Two commands are built in. -/
theorem announces?_prompting (name : String) : prompting.announces? name =
    match name with
    | "enableNextPrompt" => some true
    | "disableNextPrompt" => some false
    | _ => none := by
  have hbuiltins : prompting.builtins =
      [(.text "enableNextPrompt", true), (.text "disableNextPrompt", false)] := by decide
  unfold announces?
  rw [hbuiltins]
  split
  · rfl
  · rfl
  · rename_i henable hdisable
    simp [Keyed.get?, Keyed.canonical, Table.get?, Value.asKey, Ne.symm henable, Ne.symm hdisable]

theorem equipped_prompting : prompting.Equipped where
  builtins := rfl
  known name h := by
    rw [announces?_prompting] at h
    split at h
    · rfl
    · rfl
    · exact absurd rfl h

end Commands

namespace Host

/-- Is more announced to come? -/
def prompt (h : Host K) : Value :=
  h.session.settings.prompt

/-- What held of the first host still holds of the second one, and the same is announced, unless one is
free to announce. -/
def Steady (holds : Host K → Prop) (free : Bool) (h k : Host K) : Prop :=
  holds h → holds k ∧ (free = false → k.prompt = h.prompt)

theorem steady_frame (holds : Host K → Prop) (free : Bool) : Step.Frame (Steady holds free) where
  refl _ holding := ⟨holding, fun _ => rfl⟩
  trans hk kl holding := by
    obtain ⟨kholding, hprompt⟩ := hk holding
    obtain ⟨lholding, kprompt⟩ := kl kholding
    exact ⟨lholding, fun hfree => (kprompt hfree).trans (hprompt hfree)⟩

theorem Steady.weaken {holds : Host K → Prop} {h k : Host K} (steady : Steady holds false h k)
    (free : Bool) : Steady holds free h k :=
  fun holding => ⟨(steady holding).1, fun _ => (steady holding).2 rfl⟩

end Host

/-! ## Telling those who wait -/

namespace Playing

variable {p : Playing K} {R : Host K → Host K → Prop}

/-- **What the handlers keep that wait on the bus, telling a notice keeps**, if changes of the bus keep
it that make nobody wait. -/
theorem publish_of_waiting (frame : Step.Frame R)
    (failed : ∀ signal h, R h (h.note (.reported (.handlerFailed signal))))
    (bus : ∀ b h, Bus.Fewer b h.session.bus → R h (Host.site.withBus b h))
    (told : ∀ id notice b h, h.session.bus.Waits id → Bus.Fewer b h.session.bus →
      R h (p.react id (.event notice) (Host.site.withBus b h)).2)
    (notice : Notice K.Handle) : Step.Keeps R (p.publish notice) := by
  intro h
  suffices keeps : ∀ id event b h, h.session.bus.Waits id → Bus.Fewer b h.session.bus →
      R h (p.tell id event (Host.site.withBus b h)).2 from
    Bus.Site.publish_keeps_waiting frame bus keeps p.rounds notice.signal notice h
  intro id event b h waits fewer
  have htold := told id event.data b h waits fewer
  unfold tell
  simp only [Step.state_bind, ExceptT.run]
  cases hreact : p.react id (.event event.data) (Host.site.withBus b h) with
  | mk result k =>
    rw [hreact] at htold
    cases result with
    | ok u => exact htold
    | error f => exact frame.trans htold (failed event.signal k)

/-- While this holds, whoever waits for a signal leaves alone what is announced, and so do the handlers
of commands that are not built in.  It holds on then, and whatever else becomes of the session when a
statement is said. -/
structure Discreet (p : Playing K) (holds : Host K → Prop) : Prop where
  equipped : ∀ h, holds h → h.session.commands.Equipped
  journal : ∀ o h, holds h → holds (h.note o)
  drawn : ∀ draws h, holds h → holds (h.onSession fun s => { s with draws })
  prompted : ∀ b h, holds h →
    holds (h.onSession fun s => { s with settings := { s.settings with prompt := .flag b } })
  bus : ∀ b h, Bus.Fewer b h.session.bus → holds h → holds (Host.site.withBus b h)
  told : ∀ id notice b h, h.session.bus.Waits id → Bus.Fewer b h.session.bus →
    Host.Steady holds false h (p.react id (.event notice) (Host.site.withBus b h)).2
  commanded : ∀ name id h, h.session.commands.Calls name id →
    Host.Steady holds (Commands.prompting.announces? name).isSome h
      (p.react id (.command (.text name)) h).2

namespace Discreet

variable {holds : Host K → Prop} (discreet : p.Discreet holds) {h k : Host K}

include discreet

/-- Telling a notice announces nothing. -/
theorem publish (notice : Notice K.Handle) :
    Step.Keeps (Host.Steady holds false) (p.publish notice) :=
  publish_of_waiting (Host.steady_frame holds false)
    (fun _ h holding => ⟨discreet.journal _ h holding, fun _ => rfl⟩)
    (fun b h fewer holding => ⟨discreet.bus b h fewer holding, fun _ => rfl⟩)
    discreet.told notice

/-! ## Commands -/

/-- A command announces what it does by itself, whatever its handler announced. -/
theorem takeEffect (holding : holds h) (name : String) :
    ∃ k, Commands.takeEffect p.stage (.text name) h = (.ok (), k) ∧ holds k ∧
      k.prompt = (Commands.prompting.announces? name).elim h.prompt .flag := by
  have hannounces := congrFun (discreet.equipped h holding).announces? name
  have hprompt : (h.onSession (Session.promptedAll [name])).prompt =
      (Commands.prompting.announces? name).elim h.prompt .flag := by
    rw [← hannounces]
    exact Commands.promptAfter_cons h.session.commands name [] h.prompt
  refine ⟨_, takeEffect_eq p name h, ?_, hprompt⟩
  unfold Host.onSession Session.promptedAll
  rw [Commands.promptAfter_cons, hannounces]
  cases Commands.prompting.announces? name with
  | none => exact holding
  | some b => exact discreet.prompted b h holding

/-- **What one command announces**: what it does by itself, if it announces anything, and nothing else.
-/
theorem runOne (holding : holds h) {name : String}
    (ran : Commands.runOne p.stage (.text name) h = (.ok (), k)) :
    holds k ∧ k.prompt = (Commands.prompting.announces? name).elim h.prompt .flag := by
  have hfind : Keyed.find (p.stage.table h).handlers (.text name) =
      .ok (Keyed.get? h.session.commands.handlers (.text name)) := rfl
  cases hfound : Keyed.get? h.session.commands.handlers (.text name) with
  | none =>
    -- a built-in command is always known, so this one announces nothing
    have hnone : Commands.prompting.announces? name = none := by
      by_contra hsome
      have hknown := (discreet.equipped h holding).known name hsome
      simp [Commands.has, Keyed.has, hfound] at hknown
    rw [hfound] at hfind
    rw [Commands.runOne_of_none hfind] at ran
    cases ran
    rw [hnone]
    exact ⟨discreet.journal _ h holding, rfl⟩
  | some handler? =>
    rw [hfound] at hfind
    rw [Commands.runOne_known hfind] at ran
    obtain ⟨_, m, hhandle, heffect⟩ := Step.bind_eq_ok_iff.mp ran
    have hm : holds m ∧ (Commands.prompting.announces? name = none → m.prompt = h.prompt) := by
      cases handler? with
      | none =>
        cases hhandle
        exact ⟨holding, fun _ => rfl⟩
      | some id =>
        have hsteady := discreet.commanded name id h hfound holding
        have hreact : p.react id (.command (.text name)) h = (.ok _, m) := hhandle
        rw [hreact] at hsteady
        exact ⟨hsteady.1, fun hnone => hsteady.2 (by rw [hnone]; rfl)⟩
    obtain ⟨l, hl, lholding, lprompt⟩ := discreet.takeEffect hm.1 name
    obtain rfl := (Prod.mk.inj (hl.symm.trans heffect)).2
    refine ⟨lholding, lprompt.trans ?_⟩
    cases hname : Commands.prompting.announces? name with
    | none => exact hm.2 hname
    | some b => rfl

/-- **What commands announce**: what the last built-in one among them announces. -/
theorem run {names : List String} (holding : holds h)
    (ran : Commands.run p.stage (names.map .text) h = (.ok (), k)) :
    holds k ∧ k.prompt = Commands.prompting.promptAfter names h.prompt := by
  induction names generalizing h with
  | nil =>
    cases ran
    exact ⟨holding, rfl⟩
  | cons name rest ih =>
    obtain ⟨_, m, hone, hrest⟩ := Step.bind_eq_ok_iff.mp ran
    obtain ⟨mholding, mprompt⟩ := discreet.runOne holding hone
    obtain ⟨kholding, kprompt⟩ := ih mholding hrest
    rw [kprompt, mprompt, Commands.promptAfter_cons]
    exact ⟨kholding, rfl⟩

/-- So do the commands of a line, when it is told that they were run. -/
theorem execute {line : Line} (holding : holds h) (ran : p.execute line h = (.ok (), k)) :
    holds k ∧ k.prompt = Commands.prompting.promptAfter line.commands h.prompt := by
  unfold Playing.execute at ran
  split at ran
  · obtain ⟨_, m, hrun, hpublish⟩ := Step.bind_eq_ok_iff.mp ran
    obtain ⟨mholding, mprompt⟩ := discreet.run holding hrun
    have hsteady := discreet.publish (.executed line.commands) m mholding
    rw [hpublish] at hsteady
    exact ⟨hsteady.1, (hsteady.2 rfl).trans mprompt⟩
  · rename_i hnone
    cases ran
    rw [not_not.mp hnone]
    exact ⟨holding, rfl⟩

end Discreet

end Playing

end Dialogue
