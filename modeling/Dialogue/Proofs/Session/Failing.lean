import Dialogue.Proofs.Session.Going

/-!
# Statements that fail

A statement that cannot be read, or a command of which the handler fails, ends what going on does
where it stands.  The surface was cleared and that was told, the playhead is past the statement, the
commands before the one that failed have run, and nothing else has happened.  What comes next is the
statement after it.

This holds on every surface, while handlers do not call back into the session.

## Results

* `Playing.reserved_of_aloof` — aloof handlers do not call back.
* `Playing.Withdrawn.clear`, `Playing.Withdrawn.run` — what clearing the surface and running commands
  make of a session then.
* `Playing.advance_takes` — going on is to take the statement that is due, and to say it.
* `Playing.advance_spends` — what is left of a session by a statement that fails.
-/

set_option autoImplicit false

namespace Dialogue

variable {K : Surface}

/-! ## Handlers that do not call back -/

/-- The session of the second host is that of the first but for deeds on its bus that publish
nothing. -/
structure Host.Beside (h k : Host K) : Prop where
  session : k.session = { h.session with bus := k.session.bus }
  bus : Bus.Does h.session.bus [] k.session.bus

namespace Playing

/-- As long as this holds, a handler that is called leaves the session as it is, but for deeds on its
bus that publish nothing.  It holds on then, and it holds on whatever becomes of the session and is
written into the journal. -/
structure Withdrawn (p : Playing K) (holds : Host K → Prop) : Prop where
  session : ∀ f h, holds h → holds (h.onSession f)
  journal : ∀ more h, holds h → holds { h with journal := h.journal ++ more }
  react : ∀ id occasion h, holds h →
    h.Beside (p.react id occasion h).2 ∧ holds (p.react id occasion h).2

/-- From this host on, handlers do not call back into the session. -/
def Reserved (p : Playing K) (h : Host K) : Prop :=
  ∃ holds, p.Withdrawn holds ∧ holds h

/-- **Aloof handlers do not call back.** -/
theorem reserved_of_aloof {h : Host .board} (n : Nat) (aloof : h.Aloof) :
    (within n : Playing .board).Reserved h := by
  refine ⟨Host.Aloof, ⟨fun _ _ aloof => aloof, fun _ _ aloof => aloof, ?_⟩, aloof⟩
  intro id occasion h aloof
  obtain ⟨does, aside, still⟩ := reactWithin_stays n id occasion h aloof
  exact ⟨⟨aside, does⟩, still⟩

/-! ## Telling them something -/

/-- The session stays as it is but for its bus, and nothing is published. -/
def hush (holds : Host K → Prop) : Bus.Account (Host K) HandlerId (Notice K.Handle) where
  holds := holds
  tells h signs k :=
    k.session = { h.session with bus := k.session.bus } ∧ Bus.publications signs = []

variable {p : Playing K} {holds : Host K → Prop} {h k : Host K}

theorem Withdrawn.lawful (withdrawn : p.Withdrawn holds) :
    Bus.Site.Lawful Host.site (hush holds) where
  bus_withBus _ _ := rfl
  holds_withBus b h holding := withdrawn.session (fun s => { s with bus := b }) h holding
  tells_refl _ := ⟨rfl, rfl⟩
  tells_withBus _ _ := ⟨rfl, rfl⟩
  tells_trans := by
    rintro h k l first second ⟨hk, hfirst⟩ ⟨kl, hsecond⟩
    refine ⟨by rw [kl, hk], ?_⟩
    rw [Bus.publications_append, hfirst, hsecond]
    rfl

theorem Withdrawn.tell (withdrawn : p.Withdrawn holds) (id : HandlerId)
    (event : Event (Notice K.Handle)) (holding : holds h) :
    h.Beside (p.tell id event h).2 ∧ holds (p.tell id event h).2 := by
  obtain ⟨beside, still⟩ := withdrawn.react id (.event event.data) h holding
  unfold Playing.tell
  simp only [Step.state_bind, ExceptT.run]
  cases hr : p.react id (.event event.data) h with
  | mk result k =>
    rw [hr] at beside still
    cases result with
    | ok u => exact ⟨beside, still⟩
    | error f => exact ⟨⟨beside.session, beside.bus⟩, withdrawn.journal _ k still⟩

theorem Withdrawn.tame (withdrawn : p.Withdrawn holds) :
    Host.site.Tame (hush holds) p.tell := by
  intro id event h holding _
  obtain ⟨beside, still⟩ := withdrawn.tell id event holding
  exact ⟨still, [], beside.bus, beside.session, rfl⟩

/-- A notice was published, nothing else was published meanwhile, and the session is as it was but for
its bus. -/
structure Tells (h : Host K) (notice : Notice K.Handle) (k : Host K) : Prop where
  session : k.session = { h.session with bus := k.session.bus }
  published : ∃ trace,
    Bus.Run h.session.bus (.deed (.publish notice.signal notice) :: trace) k.session.bus ∧
      Bus.publications (Bus.heard trace) = []

/-- Publishing tells a notice, whether an event is being delivered or not. -/
theorem Withdrawn.publish (withdrawn : p.Withdrawn holds) (notice : Notice K.Handle)
    (holding : holds h) : ∃ k, p.publish notice h = (.ok (), k) ∧ Tells h notice k ∧ holds k := by
  refine ⟨(Host.site.publish p.tell p.rounds notice.signal notice h).2, rfl, ?_⟩
  by_cases idle : h.session.bus.running? = none
  · obtain ⟨⟨trace, run, aside, silent⟩, -⟩ := Bus.Site.publish_played withdrawn.lawful
      withdrawn.tame p.rounds notice.signal notice holding idle
    exact ⟨⟨aside, trace, run, silent⟩, Bus.Site.publish_holds withdrawn.lawful withdrawn.tame
      p.rounds notice.signal notice holding idle⟩
  · obtain ⟨hstate, -⟩ := Bus.Site.publish_does withdrawn.lawful p.tell p.rounds notice.signal
      notice idle
    rw [hstate]
    refine ⟨⟨rfl, [], ?_, rfl⟩, withdrawn.lawful.holds_withBus _ h holding⟩
    exact (Bus.Run.nil _).snoc (.deed rfl)

/-! ## The parts of going on -/

/-- Clearing the surface clears it once, and tells that. -/
theorem Withdrawn.clear (withdrawn : p.Withdrawn holds) (holding : holds h)
    (clears : (K.clear h.session.surface).1 = .ok ()) :
    ∃ k, p.clear h = (.ok (), k) ∧ holds k ∧
      Tells (h.onSession fun s => { s with surface := (K.clear s.surface).2 }) .cleared k := by
  let wiped := h.onSession fun s => { s with surface := (K.clear s.surface).2 }
  let noted := wiped.note (.cleared (K.visible wiped.session.surface))
  obtain ⟨k, hpublish, tells, still⟩ := withdrawn.publish .cleared
    (withdrawn.journal [.cleared (K.visible wiped.session.surface)] wiped
      (withdrawn.session _ h holding))
  refine ⟨k, ?_, still, ⟨tells.session, tells.published⟩⟩
  have hwipe : Act.onPart Session.surface (fun surface s => { s with surface }) K.clear h =
      (.ok (), wiped) := by
    rw [Act.onPart_apply, clears]
    rfl
  unfold Playing.clear
  rw [Step.bind_eq_of_ok hwipe]
  exact hpublish

end Playing

namespace Playing

variable {p : Playing K} {holds : Host K → Prop} {h k : Host K}

/-- A known command that does not fail has taken its own effect after its handler, and nothing
else. -/
theorem Withdrawn.runOne (withdrawn : p.Withdrawn holds) (holding : holds h) {name : String}
    (known : h.session.commands.has name = true)
    (ran : Commands.runOne p.stage (.text name) h = (.ok (), k)) :
    holds k ∧ Bus.Does h.session.bus [] k.session.bus ∧
      k.session = { h.session.promptedAll [name] with bus := k.session.bus } := by
  obtain ⟨handler?, hknown⟩ := Option.isSome_iff_exists.mp known
  have hfind : Keyed.find (p.stage.table h).handlers (.text name) = .ok (some handler?) :=
    congrArg Except.ok hknown
  rw [Commands.runOne_known hfind] at ran
  obtain ⟨_, m, hhandle, heffect⟩ := Step.bind_eq_ok_iff.mp ran
  have hm : h.Beside m ∧ holds m := by
    cases handler? with
    | none =>
      cases hhandle
      exact ⟨⟨rfl, Bus.Does.refl _⟩, holding⟩
    | some id =>
      have hreact := withdrawn.react id (.command (.text name)) h holding
      have hmade : p.react id (.command (.text name)) h = (.ok _, m) := hhandle
      rw [hmade] at hreact
      exact hreact
  rw [takeEffect_eq] at heffect
  obtain rfl := (Prod.mk.inj heffect).2
  obtain ⟨⟨hsession, hbus⟩, still⟩ := hm
  refine ⟨withdrawn.session _ m still, hbus, ?_⟩
  show m.session.promptedAll [name] = _
  rw [hsession]
  rfl

/-- Known commands that do not fail have taken their own effects, and done nothing else. -/
theorem Withdrawn.run (withdrawn : p.Withdrawn holds) {names : List String} (holding : holds h)
    (known : ∀ name ∈ names, h.session.commands.has name = true)
    (ran : Commands.run p.stage (names.map .text) h = (.ok (), k)) :
    holds k ∧ Bus.Does h.session.bus [] k.session.bus ∧
      k.session = { h.session.promptedAll names with bus := k.session.bus } := by
  induction names generalizing h with
  | nil =>
    cases ran
    exact ⟨holding, Bus.Does.refl _, rfl⟩
  | cons name rest ih =>
    obtain ⟨_, m, hone, hrest⟩ := Step.bind_eq_ok_iff.mp ran
    obtain ⟨mholding, mbus, msession⟩ :=
      withdrawn.runOne holding (known name List.mem_cons_self) hone
    have hknown : ∀ other ∈ rest, m.session.commands.has other = true := by
      intro other hm
      rw [msession]
      exact known other (List.mem_cons_of_mem _ hm)
    obtain ⟨kholding, kbus, ksession⟩ := ih mholding hknown hrest
    refine ⟨kholding, mbus.trans kbus, ?_⟩
    rw [Session.promptedAll_cons, ksession, msession]
    rfl

end Playing

/-- Commands fail with one before which all have run. -/
theorem Commands.run_of_error {σ η β : Type} {stage : Stage σ η β} {before : List Value}
    {name : Value} (after : List Value) {s u t : σ} {f : Fault}
    (ran : run stage before s = (.ok (), u)) (failed : runOne stage name u = (.error f, t)) :
    run stage (before ++ name :: after) s = (.error f, t) := by
  induction before generalizing s with
  | nil =>
    cases ran
    exact Step.bind_eq_of_error failed
  | cons first rest ih =>
    obtain ⟨_, v, hfirst, hrest⟩ := Step.bind_eq_ok_iff.mp ran
    exact (Step.bind_eq_of_ok hfirst).trans (ih hrest)

/-! ## The statement that is due -/

/-- What a statement leaves of a session when it could be taken: the surface was cleared once, the
playhead stands after the statement, these draws are left, this is announced, and nothing else has
changed but the bus. -/
structure Session.Spent (s : Session K) (draws : List Value) (prompt : Value) (t : Session K) :
    Prop where
  surface : t.surface = (K.clear s.surface).2
  playhead : t.playhead = { s.playhead with cursor := s.playhead.cursor + 1 }
  draws : t.draws = draws
  settings : t.settings = { s.settings with prompt }
  cast : t.cast = s.cast
  commands : t.commands = s.commands
  handle : t.handle? = s.handle?

namespace Playing

/-- A statement is spent: of the session is left what it leaves, nothing was published but that the
surface is clear, and handlers go on not to call back. -/
structure Spends (p : Playing K) (h : Host K) (statement prompt : Value) (k : Host K) : Prop where
  spent : h.session.Spent (h.session.parse statement).2.draws prompt k.session
  told : ∃ trace,
    Bus.Run h.session.bus (.deed (.publish .dialogCleared .cleared) :: trace) k.session.bus ∧
      Bus.publications (Bus.heard trace) = []
  reserved : p.Reserved k

/-- The surface is cleared, and the statement is taken and read, may it be read or not. -/
def Turns (p : Playing K) (h : Host K) (statement : Value) (m : Host K) : Prop :=
  ∃ taken, p.Takes h statement taken ∧ m = taken.onSession fun s => (s.parse statement).2

variable {p : Playing K} {holds : Host K → Prop} {h k m u : Host K} {statement : Value}
  {playhead : Playhead}

/-- How a statement is read does not depend on what is told. -/
theorem Tells.parse_eq {notice : Notice K.Handle} (tells : Tells h notice k) (statement : Value) :
    k.session.parse statement = ((h.session.parse statement).1,
      { k.session with draws := (h.session.parse statement).2.draws }) :=
  Session.parse_eq_of_same statement (by rw [tells.session]) (by rw [tells.session])
    (by rw [tells.session])

/-- The statement that is due is taken when the surface is clear. -/
theorem Withdrawn.takes (withdrawn : p.Withdrawn holds) (holding : holds h)
    (due : h.session.playhead.take = (.ok statement, playhead))
    (clears : (K.clear h.session.surface).1 = .ok ()) :
    ∃ taken, p.Takes h statement taken ∧ holds taken ∧
      Tells (h.onSession fun s =>
        { s with surface := (K.clear s.surface).2, playhead }) .cleared taken := by
  obtain ⟨cleared, hclear, cholding, tells⟩ := withdrawn.clear holding clears
  have hplayhead : cleared.session.playhead = h.session.playhead := by
    rw [tells.session]
    rfl
  refine ⟨_, ⟨cleared, playhead, hclear, hplayhead ▸ due, rfl⟩, withdrawn.session _ _ cholding, ?_,
    tells.published⟩
  show { cleared.session with playhead } = _
  rw [tells.session]
  rfl

/-- To go on is to say the statement that is taken. -/
theorem Takes.advance {taken : Host K} (takes : p.Takes h statement taken)
    (active : h.session.playhead.standing = .active) :
    p.advance h = (do let _ ← p.say statement; return true : Act K Bool) taken := by
  obtain ⟨cleared, rest, hclear, htake, rfl⟩ := takes
  have hpart : Act.onPart Session.playhead (fun playhead s => { s with playhead }) Playhead.take
      cleared = (.ok statement, cleared.onSession fun s => { s with playhead := rest }) := by
    rw [Act.onPart_apply, htake]
  rw [advance_of_active active, Step.bind_eq_of_ok hclear, Step.bind_eq_of_ok hpart]

/-- **Going on is to take the statement that is due, and to say it.** -/
theorem advance_takes (reserved : p.Reserved h)
    (due : h.session.playhead.take = (.ok statement, playhead))
    (clears : (K.clear h.session.surface).1 = .ok ()) :
    ∃ taken, p.Takes h statement taken ∧
      p.advance h = (do let _ ← p.say statement; return true : Act K Bool) taken := by
  obtain ⟨holds, withdrawn, holding⟩ := reserved
  obtain ⟨taken, takes, -⟩ := withdrawn.takes holding due clears
  exact ⟨taken, takes, takes.advance (Playhead.take_ok due).1⟩

/-- Reading the statement that was taken spends it. -/
theorem Withdrawn.spends (withdrawn : p.Withdrawn holds) {taken : Host K} (holding : holds taken)
    (due : h.session.playhead.take = (.ok statement, playhead))
    (tells : Tells (h.onSession fun s =>
      { s with surface := (K.clear s.surface).2, playhead }) .cleared taken) :
    p.Spends h statement h.session.settings.prompt
      (taken.onSession fun s => (s.parse statement).2) := by
  have hread := tells.parse_eq statement
  obtain ⟨trace, run, silent⟩ := tells.published
  refine ⟨?_, ⟨trace, ?_, silent⟩, holds, withdrawn, withdrawn.session _ taken holding⟩
  · show h.session.Spent _ _ (taken.session.parse statement).2
    rw [hread, tells.session]
    exact ⟨rfl, (Playhead.take_ok due).2, rfl, rfl, rfl, rfl, rfl⟩
  · show Bus.Run _ _ (taken.session.parse statement).2.bus
    rw [hread]
    exact run

/-- Commands that have run add to a statement that was read what they announce. -/
theorem Spends.run (withdrawn : p.Withdrawn holds) {prompt : Value} {names : List String}
    (spends : p.Spends h statement prompt m) (holding : holds m)
    (known : ∀ name ∈ names, h.session.commands.has name = true)
    (ran : Commands.run p.stage (names.map .text) m = (.ok (), u)) :
    p.Spends h statement (h.session.commands.promptAfter names prompt) u ∧ holds u := by
  obtain ⟨uholding, ⟨deeds, hdeeds, hsilent⟩, usession⟩ :=
    withdrawn.run holding (spends.spent.commands.symm ▸ known) ran
  obtain ⟨trace, run, silent⟩ := spends.told
  refine ⟨⟨?_, ⟨trace ++ deeds.map .deed, ?_, ?_⟩, holds, withdrawn, uholding⟩, uholding⟩
  · obtain ⟨surface, playhead, draws, settings, cast, commands, handle⟩ := spends.spent
    rw [usession]
    refine ⟨surface, playhead, draws, ?_, cast, commands, handle⟩
    show { m.session.settings with
      prompt := m.session.commands.promptAfter names m.session.settings.prompt } = _
    rw [settings, commands]
  · rw [← List.cons_append]
    exact run.append hdeeds
  · rw [Bus.heard_append, Bus.publications_append, silent, hsilent]
    rfl

/-- A handler adds nothing, may it fail or not. -/
theorem Spends.react (withdrawn : p.Withdrawn holds) {prompt : Value}
    (spends : p.Spends h statement prompt u) (holding : holds u) {id : HandlerId}
    {occasion : Occasion K} {result : Except Fault Unit}
    (reacts : p.react id occasion u = (result, k)) : p.Spends h statement prompt k := by
  obtain ⟨⟨ksession, kbus⟩, kholding⟩ := withdrawn.react id occasion u holding
  rw [reacts] at ksession kbus kholding
  obtain ⟨deeds, hdeeds, hsilent⟩ := kbus
  obtain ⟨trace, run, silent⟩ := spends.told
  refine ⟨?_, ⟨trace ++ deeds.map .deed, ?_, ?_⟩, holds, withdrawn, kholding⟩
  · obtain ⟨surface, playhead, draws, settings, cast, commands, handle⟩ := spends.spent
    rw [ksession]
    exact ⟨surface, playhead, draws, settings, cast, commands, handle⟩
  · rw [← List.cons_append]
    exact run.append hdeeds
  · rw [Bus.heard_append, Bus.publications_append, silent, hsilent]
    rfl

/-- The commands of a line fail with the handler of one before which all have run. -/
theorem execute_of_react {line : Line} {before after : List String} {name : String}
    {id : HandlerId} {f : Fault} (place : line.commands = before ++ name :: after)
    (ran : Commands.run p.stage (before.map .text) m = (.ok (), u))
    (handler : Keyed.get? u.session.commands.handlers (.text name) = some (some id))
    (failed : p.react id (.command (.text name)) u = (.error f, k)) :
    p.execute line m = (.error f, k) := by
  have hfind : Keyed.find (p.stage.table u).handlers (.text name) = .ok (some (some id)) :=
    congrArg Except.ok handler
  have hone : Commands.runOne p.stage (.text name) u = (.error f, k) := by
    rw [Commands.runOne_known hfind]
    exact Step.bind_eq_of_error failed
  have hrun := Commands.run_of_error (after.map .text) ran hone
  have hcommands : line.commands.map Value.text =
      before.map .text ++ .text name :: after.map .text := by
    rw [place, List.map_append, List.map_cons]
  unfold execute
  rw [if_pos (by rw [place]; exact List.append_ne_nil_of_right_ne_nil _ (List.cons_ne_nil _ _)),
    hcommands]
  exact Step.bind_eq_of_error hrun

/-- **A statement that fails is used up and leaves nothing half-done.**  A statement is due, the
surface can be cleared, and handlers do not call back.  Then a statement that cannot be read leaves
the session that was turned to it: its surface was cleared once, its playhead stands after the
statement, only that the surface is clear was published, and nothing has changed otherwise.  If the
commands before one have run, and the handler of this one fails, the session that it leaves differs
from this only by what those commands announce.  After both, going on is to take the statement that
comes next, and to say it. -/
theorem advance_spends (reserved : p.Reserved h)
    (due : h.session.playhead.take = (.ok statement, playhead))
    (clears : (K.clear h.session.surface).1 = .ok ()) :
    ∃ m, p.Turns h statement m ∧ p.Spends h statement h.session.settings.prompt m ∧
      (∀ f, (h.session.parse statement).1 = .error f → p.advance h = (.error f, m)) ∧
      (∀ line before name after u id f k, (h.session.parse statement).1 = .ok line →
        line.commands = before ++ name :: after →
        Commands.run p.stage (before.map .text) m = (.ok (), u) →
        Keyed.get? h.session.commands.handlers (.text name) = some (some id) →
        p.react id (.command (.text name)) u = (.error f, k) →
        p.advance h = (.error f, k) ∧ p.Spends h statement
          (h.session.commands.promptAfter before h.session.settings.prompt) k) ∧
      ∀ prompt k, p.Spends h statement prompt k → ∀ q : Playing K, q.Reserved k →
        ∀ next rest, playhead.take = (.ok next, rest) →
        (K.clear k.session.surface).1 = .ok () →
        ∃ taken, q.Takes k next taken ∧
          q.advance k = (do let _ ← q.say next; return true : Act K Bool) taken := by
  obtain ⟨holds, withdrawn, holding⟩ := reserved
  obtain ⟨taken, takes, tholding, tells⟩ := withdrawn.takes holding due clears
  have hadvance := takes.advance (Playhead.take_ok due).1
  have hread : (taken.session.parse statement).1 = (h.session.parse statement).1 := by
    rw [tells.parse_eq]
    rfl
  let m := taken.onSession fun s => (s.parse statement).2
  have spends : p.Spends h statement h.session.settings.prompt m :=
    withdrawn.spends tholding due tells
  refine ⟨m, ⟨taken, takes, rfl⟩, spends, fun f unread => ?_, ?_, ?_⟩
  · have hparse : Playing.parse statement taken = (.error f, m) :=
      Prod.ext (hread.trans unread) rfl
    rw [hadvance]
    exact Step.bind_eq_of_error (Step.bind_eq_of_error hparse)
  · intro line before name after u id f k parsed place ran handler failed
    have hparse : Playing.parse statement taken = (.ok line, m) :=
      Prod.ext (hread.trans parsed) rfl
    have hknown : ∀ other ∈ line.commands, h.session.commands.has other = true :=
      Statement.parse_commands parsed
    rw [place] at hknown
    have hbefore : ∀ other ∈ before, h.session.commands.has other = true :=
      fun other hm => hknown other (List.mem_append_left _ hm)
    obtain ⟨ran_spends, uholding⟩ :=
      spends.run withdrawn (withdrawn.session _ taken tholding) hbefore ran
    refine ⟨?_, ran_spends.react withdrawn uholding failed⟩
    have hexecute := execute_of_react place ran (ran_spends.spent.commands.symm ▸ handler) failed
    have hsay : p.say statement taken = (.error f, k) := by
      unfold Playing.say
      rw [Step.bind_eq_of_ok hparse]
      exact Step.bind_eq_of_error hexecute
    rw [hadvance]
    exact Step.bind_eq_of_error hsay
  · intro prompt k spent q reserved next rest following kclears
    have hplayhead : k.session.playhead = playhead :=
      spent.spent.playhead.trans (Playhead.take_ok due).2.symm
    exact advance_takes reserved (hplayhead ▸ following) kclears

/-! ## A host with two statements that fail -/

/-- The second of three commands has a handler that gives up, and the statement after them is no
statement. -/
def fragile : Host .board where
  session := {
    surface := {}
    commands := { Commands.prompting with
      handlers := Keyed.put Commands.prompting.handlers (.text "boom") (some 0) }
    playhead := {
      loose? := some [.text "disableNextPrompt boom enableNextPrompt Hi", .null] } }
  handlers := [.held none [[.raise (.raised "boom")]]]

/-- The line that the first statement makes. -/
def boom : Line where
  source := .text "disableNextPrompt boom enableNextPrompt Hi"
  who := some narratorKey
  text := "Hi"
  commands := ["disableNextPrompt", "boom", "enableNextPrompt"]

/-- The general theorem for both statements: only the first command runs, nothing is put on the board,
and the second statement is the next one to fail. -/
theorem advance_spends_fragile :
    ∃ k l, (within 2).advance fragile = (.error (.raised "boom"), k) ∧
      k.session.playhead.cursor = 1 ∧ k.session.settings.prompt = .flag false ∧
      k.session.surface.clears = 1 ∧ k.session.surface.history = [] ∧
      (within 2).advance k = (.error (.malformed .null (.unsupported "NoneType")), l) ∧
      l.session.playhead.cursor = 2 ∧ l.session.surface.clears = 2 := by
  have aloof : fragile.Aloof := by
    intro handler hm
    obtain rfl := List.mem_singleton.mp hm
    rfl
  obtain ⟨m, ⟨taken, ⟨cleared, playhead, hclear, htake, rfl⟩, rfl⟩, -, -, handled, -⟩ :=
    advance_spends (reserved_of_aloof 2 aloof) rfl rfl
  cases hclear
  cases htake
  have hparse : (fragile.session.parse boom.source).1 = .ok boom :=
    Step.ok_of_toOption (by decide +kernel)
  obtain ⟨hfirst, first⟩ :=
    handled boom ["disableNextPrompt"] "boom" ["enableNextPrompt"] _ 0 _ _ hparse rfl rfl rfl rfl
  have hplayhead := first.spent.playhead
  have hsurface := first.spent.surface
  have hdue : ∃ rest, Playhead.take _ = (.ok .null, rest) :=
    ⟨_, congrArg Playhead.take hplayhead⟩
  obtain ⟨rest, hdue⟩ := hdue
  obtain ⟨l, -, second, unread, -⟩ := advance_spends first.reserved hdue (by rw [hsurface]; rfl)
  refine ⟨_, l, hfirst, ?_, ?_, ?_, ?_, unread _ rfl, ?_, ?_⟩
  · rw [hplayhead]
    rfl
  · rw [first.spent.settings]
    rfl
  · rw [hsurface]
    rfl
  · rw [hsurface]
    rfl
  · rw [second.spent.playhead, hplayhead]
    rfl
  · rw [second.spent.surface, hsurface]
    rfl

end Playing

end Dialogue
