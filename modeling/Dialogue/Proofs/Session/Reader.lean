import Dialogue.Proofs.Grammar
import Dialogue.Proofs.Playhead
import Dialogue.Proofs.Session.Sound

/-!
# The reader of a script

What a session does as it goes on, told as a list of effects: the board is cleared, notices are told,
the playhead moves, commands are run, a line is put into a box.  Each effect changes the session in
its own way, and handlers only hear of it.  A host does the parts of going on just as the reader does
them.

## Results

* `Playing.Performs.session` — a host that performs effects changes its session as they say, but for
  its bus.
* `Playing.clear_performs`, `Playing.execute_performs`, `Playing.display_performs` — the parts of going
  on are done as the reader does them.
* `Playing.say_performs` — what a statement says is done as a reader does it, and nothing can fail but
  the handler of a command.
-/

set_option autoImplicit false

namespace Dialogue

/-! ## Effects -/

/-- One thing that a reader does. -/
inductive Effect where
  /-- The boxes that are not meant to persist are taken away. -/
  | wipe
  /-- A notice is told. -/
  | tell (notice : Notice Nat)
  /-- The playhead moves past its statement, and these draws are left. -/
  | move (draws : List Value)
  /-- A command is run. -/
  | run (name : String)
  /-- A line is put into a box. -/
  | box (line : Line)

namespace Session

/-- The session after the playhead moved past its statement. -/
def moved (draws : List Value) (s : Session .board) : Session .board :=
  { s with playhead := { s.playhead with cursor := s.playhead.cursor + 1 }, draws }

/-- The session after something was put into a box with these options. -/
def shown (intent : Intent) (options : Value) (s : Session .board) : Session .board :=
  { s with
    surface := s.surface.add (s.surface.next intent options)
    handle? := some (s.surface.next intent options).handle }

/-- The options of the box that a line is put into. -/
def lineOptions (s : Session .board) (line : Line) : Except Fault Value :=
  s.optionsOf (Value.optionalText line.who) (Value.optionalText line.sideImage) .null

/-- What an effect makes of a session, if nothing else happens. -/
def after (s : Session .board) : Effect → Session .board
  | .wipe => { s with surface := s.surface.wiped }
  | .tell _ => s
  | .move draws => s.moved draws
  | .run name => s.promptedAll [name]
  | .box line =>
    match s.lineOptions line with
    | .error _ => s
    | .ok options => s.shown line.intent options

/-- What effects make of a session, one after the other. -/
def afterAll (s : Session .board) (effects : List Effect) : Session .board :=
  effects.foldl after s

theorem afterAll_append (s : Session .board) (first second : List Effect) :
    s.afterAll (first ++ second) = (s.afterAll first).afterAll second :=
  List.foldl_append

/-- What happens to the bus and what an effect does are independent of each other. -/
theorem after_withBus (s : Session .board) (b : Bus HandlerId (Notice Nat)) (e : Effect) :
    ({ s with bus := b } : Session .board).after e = { s.after e with bus := b } := by
  cases e with
  | wipe | tell | move | run => rfl
  | box line =>
    have hoptions : ({ s with bus := b } : Session .board).lineOptions line =
        s.lineOptions line := rfl
    simp only [after, hoptions]
    cases s.lineOptions line <;> rfl

theorem afterAll_withBus (s : Session .board) (b : Bus HandlerId (Notice Nat))
    (effects : List Effect) :
    ({ s with bus := b } : Session .board).afterAll effects =
      { s.afterAll effects with bus := b } := by
  induction effects generalizing s with
  | nil => rfl
  | cons e rest ih =>
    show (({ s with bus := b } : Session .board).after e).afterAll rest = _
    rw [after_withBus]
    exact ih (s.after e)

theorem after_commands (s : Session .board) (e : Effect) : (s.after e).commands = s.commands := by
  cases e with
  | wipe | tell | move | run => rfl
  | box line =>
    simp only [after]
    split <;> rfl

/-- Commands have no effect of their own but on whether more is announced to come. -/
theorem afterAll_run (s : Session .board) (names : List String) :
    s.afterAll (names.map .run) = s.promptedAll names := by
  induction names generalizing s with
  | nil => rfl
  | cons name rest ih =>
    have hafter : s.afterAll ((name :: rest).map .run) =
        (s.promptedAll [name]).afterAll (rest.map .run) := rfl
    rw [hafter, ih, ← promptedAll_cons]

/-- What a reader does with a line: the commands in order, and a notice if there are any; then a box
for the text and a notice of it, if there is any. -/
def effectsOf (s : Session .board) (line : Line) : List Effect :=
  line.commands.map .run ++
    (if line.commands = [] then [] else [.tell (.executed line.commands)]) ++
    (if line.text = "" then []
      else [.box line, .tell (.displayed line (s.surface.history.length + 1))])

/-- What a reader does before it comes to a line. -/
def turning (draws : List Value) : List Effect :=
  [.wipe, .tell .cleared, .move draws]

end Session

/-! ## What a host performs -/

/-- The host after its board was cleared, before anyone is told. -/
def Host.wiped (h : Host .board) : Host .board :=
  (h.onSession fun s => s.after .wipe).note
    (.cleared (h.session.surface.wiped.visible.map Box.handle))

namespace Playing

variable (p : Playing .board)

/-- The handler of a command, if there is one, takes its turn and leaves the session as it is. -/
def Handles (name : String) : Option HandlerId → Host .board → Host .board → Prop
  | none, h, k => k = h
  | some id, h, k => p.react id (.command (.text name)) h = (.ok (), k) ∧ Host.Aside h k

/-- A host does one thing. -/
inductive Does : Effect → Host .board → Host .board → Prop where
  | wipe (h) : Does .wipe h h.wiped
  | tell {notice h k} (told : p.Told notice h k) : Does (.tell notice) h k
  | move (draws h) : Does (.move draws) h (h.onSession (Session.moved draws))
  /-- The handler first, then the effect that the command has by itself. -/
  | run {name handler? h k}
    (known : Keyed.get? h.session.commands.handlers (.text name) = some handler?)
    (handled : p.Handles name handler? h k) :
    Does (.run name) h (k.onSession (Session.promptedAll [name]))
  | box {line options h} (found : h.session.lineOptions line = .ok options) : Does (.box line) h
    ((h.onSession (Session.shown line.intent options)).note
      (.rendered (h.session.surface.next line.intent options).handle line.intent
        options))

/-- A host does these things, one after the other. -/
inductive Performs : List Effect → Host .board → Host .board → Prop where
  | nil (h) : Performs [] h h
  | cons {e rest h m k} (first : p.Does e h m) (later : Performs rest m k) :
    Performs (e :: rest) h k

/-- After these effects and some of the commands the handler of the next command fails. -/
def Breaks (first : List Effect) (commands : List String) (h : Host .board) (f : Fault)
    (k : Host .board) : Prop :=
  ∃ before name after m id, commands = before ++ name :: after ∧
    p.Performs (first ++ before.map .run) h m ∧
    Keyed.get? m.session.commands.handlers (.text name) = some (some id) ∧
    p.react id (.command (.text name)) m = (.error f, k)

variable {p} {h m k : Host .board}

theorem Does.performs {e : Effect} (does : p.Does e h k) : p.Performs [e] h k :=
  .cons does (.nil k)

theorem Performs.append {first second : List Effect} (hm : p.Performs first h m)
    (mk : p.Performs second m k) : p.Performs (first ++ second) h k := by
  induction hm with
  | nil => exact mk
  | cons first _ ih => exact .cons first (ih mk)

theorem Breaks.cons {e : Effect} {first : List Effect} {commands : List String} {f : Fault}
    (does : p.Does e h m) (breaks : p.Breaks first commands m f k) :
    p.Breaks (e :: first) commands h f k := by
  obtain ⟨before, name, after, u, id, place, performs, handler, failed⟩ := breaks
  exact ⟨before, name, after, u, id, place, .cons does performs, handler, failed⟩

theorem Breaks.append {first second : List Effect} {commands : List String} {f : Fault}
    (performs : p.Performs first h m) (breaks : p.Breaks second commands m f k) :
    p.Breaks (first ++ second) commands h f k := by
  induction performs with
  | nil => exact breaks
  | cons does _ ih => exact (ih breaks).cons does

/-- Doing one thing changes the session as it says, but for its bus. -/
theorem Does.session {e : Effect} (does : p.Does e h k) :
    k.session = { h.session.after e with bus := k.session.bus } := by
  cases does with
  | wipe | move => rfl
  | tell told => exact told.aside
  | @run name handler? _ k _ handled =>
    have haside : Host.Aside h k := by
      cases handler? with
      | none => exact handled ▸ Host.Aside.refl h
      | some id => exact handled.2
    show k.session.promptedAll [name] = { h.session.promptedAll [name] with
      bus := (k.session.promptedAll [name]).bus }
    rw [haside]
    rfl
  | box found =>
    simp only [Session.after, found]
    rfl

/-- **A host that performs effects changes its session as they say, but for its bus.** -/
theorem Performs.session {effects : List Effect} (performs : p.Performs effects h k) :
    k.session = { h.session.afterAll effects with bus := k.session.bus } := by
  induction performs with
  | nil => rfl
  | @cons e rest h m k first _ ih =>
    rw [first.session, Session.afterAll_withBus] at ih
    exact ih

theorem Performs.commands {effects : List Effect} (performs : p.Performs effects h k) :
    k.session.commands = h.session.commands := by
  induction performs with
  | nil => rfl
  | @cons e _ h m _ first _ ih =>
    rw [ih, first.session]
    exact h.session.after_commands e

/-- No line breaks without a command that has a handler. -/
theorem Breaks.handled {first : List Effect} {commands : List String} {f : Fault}
    (breaks : p.Breaks first commands h f k) : ∃ name ∈ commands, ∃ id,
      Keyed.get? h.session.commands.handlers (.text name) = some (some id) := by
  obtain ⟨before, name, after, m, id, rfl, performs, handler, -⟩ := breaks
  rw [performs.commands] at handler
  exact ⟨name, by simp, id, handler⟩

/-! ## The parts of going on -/

variable (calm : p.Calm)

include calm

theorem publish_performs (notice : Notice Nat) (sound : h.Sound) :
    ∃ k, p.publish notice h = (.ok (), k) ∧ p.Performs [.tell notice] h k := by
  obtain ⟨k, told⟩ := publish_told calm notice sound.rests sound.aloof
  exact ⟨k, told.publishes, (Does.tell told).performs⟩

theorem clear_performs (sound : h.Sound) :
    ∃ k, p.clear h = (.ok (), k) ∧ p.Performs [.wipe, .tell .cleared] h k := by
  have hclear : p.clear h = p.publish .cleared h.wiped := by
    have hboard := Board.clear_of_hasOptions sound.boxes
    unfold clear
    rw [Step.bind_eq_of_ok (a := ()) (t := h.onSession fun s => s.after .wipe)]
    · rfl
    · rw [Act.onPart_apply]
      show ((Board.clear h.session.surface).1, h.onSession fun s =>
        { s with surface := (Board.clear h.session.surface).2 }) = _
      rw [hboard]
      rfl
  have hsound : h.wiped.Sound :=
    ⟨sound.rests, sound.aloof, sound.narrator,
      fun box hm => sound.boxes box (List.mem_of_mem_filter hm)⟩
  obtain ⟨k, hk, performs⟩ := publish_performs calm .cleared hsound
  exact ⟨k, hclear.trans hk, .cons (.wipe h) performs⟩

/-- A known command is run, or its handler fails. -/
theorem runOne_performs {name : String} (aloof : h.Aloof)
    (known : h.session.commands.has name = true) :
    (∃ k, Commands.runOne p.stage (.text name) h = (.ok (), k) ∧ p.Does (.run name) h k) ∨
      ∃ id f k, Keyed.get? h.session.commands.handlers (.text name) = some (some id) ∧
        p.react id (.command (.text name)) h = (.error f, k) ∧
        Commands.runOne p.stage (.text name) h = (.error f, k) := by
  obtain ⟨handler?, hknown⟩ := Option.isSome_iff_exists.mp known
  have hfind : Keyed.find (p.stage.table h).handlers (.text name) = .ok (some handler?) :=
    congrArg Except.ok hknown
  have hrun := Commands.runOne_known hfind
  cases handler? with
  | none =>
    refine .inl ⟨h.onSession (Session.promptedAll [name]), ?_, .run hknown rfl⟩
    exact hrun.trans (takeEffect_eq p name h)
  | some id =>
    have haside := (calm.react id (.command (.text name)) h aloof).2.1
    cases hreact : p.react id (.command (.text name)) h with
    | mk result k =>
      rw [hreact] at haside
      have hhandle : p.stage.handle (.text name) id h = (result, k) := hreact
      cases result with
      | ok u =>
        refine .inl ⟨k.onSession (Session.promptedAll [name]), ?_, .run hknown ⟨hreact, haside⟩⟩
        exact hrun.trans ((Step.bind_eq_of_ok hhandle).trans (takeEffect_eq p name k))
      | error f =>
        exact .inr ⟨id, f, k, hknown, hreact, hrun.trans (Step.bind_eq_of_error hhandle)⟩

/-- Known commands are run one after the other, until the handler of one fails. -/
theorem run_performs {names : List String} (sound : h.Sound)
    (known : ∀ name ∈ names, h.session.commands.has name = true) :
    (∃ k, Commands.run p.stage (names.map .text) h = (.ok (), k) ∧
        p.Performs (names.map .run) h k) ∨
      ∃ f k, p.Breaks [] names h f k ∧
        Commands.run p.stage (names.map .text) h = (.error f, k) := by
  induction names generalizing h with
  | nil => exact .inl ⟨h, rfl, .nil h⟩
  | cons name rest ih =>
    have hname := known name List.mem_cons_self
    rcases runOne_performs calm sound.aloof hname with
      ⟨m, hone, does⟩ | ⟨id, f, k, hid, hreact, hone⟩
    · have hsound := ((Host.keepsSound_parts calm).course.runOne (.text name)).apply hone sound
      have hknown : ∀ other ∈ rest, m.session.commands.has other = true := by
        intro other hm
        rw [does.performs.commands]
        exact known other (List.mem_cons_of_mem _ hm)
      rcases ih hsound hknown with ⟨k, hrun, performs⟩ | ⟨f, k, breaks, hrun⟩
      · exact .inl ⟨k, (Step.bind_eq_of_ok hone).trans hrun, .cons does performs⟩
      · refine .inr ⟨f, k, ?_, (Step.bind_eq_of_ok hone).trans hrun⟩
        obtain ⟨before, other, after, u, id, place, performs, handler, failed⟩ := breaks
        exact ⟨name :: before, other, after, u, id, by rw [place]; rfl, .cons does performs,
          handler, failed⟩
    · exact .inr ⟨f, k, ⟨[], name, rest, h, id, rfl, .nil h, hid, hreact⟩,
        Step.bind_eq_of_error hone⟩

theorem execute_performs {line : Line} (sound : h.Sound)
    (known : ∀ name ∈ line.commands, h.session.commands.has name = true) :
    (∃ k, p.execute line h = (.ok (), k) ∧ p.Performs (line.commands.map .run ++
        (if line.commands = [] then [] else [.tell (.executed line.commands)])) h k) ∨
      ∃ f k, p.Breaks [] line.commands h f k ∧ p.execute line h = (.error f, k) := by
  unfold execute
  by_cases hnil : line.commands = []
  · simp only [hnil, ne_eq, not_true_eq_false, if_false, if_true]
    exact .inl ⟨h, rfl, .nil h⟩
  · rw [if_pos hnil, if_neg hnil]
    rcases run_performs calm sound known with ⟨m, hrun, performs⟩ | ⟨f, k, breaks, hrun⟩
    · have hkeeps := (Host.keepsSound_parts calm).course.run (line.commands.map .text)
      have hsound := hkeeps.apply hrun sound
      obtain ⟨k, hpublish, told⟩ := publish_performs calm (.executed line.commands) hsound
      exact .inl ⟨k, (Step.bind_eq_of_ok hrun).trans hpublish, performs.append told⟩
    · exact .inr ⟨f, k, breaks, Step.bind_eq_of_error hrun⟩

/-- A text is put into one box, if there is any. -/
theorem display_performs {line : Line} (sound : h.Sound)
    (known : ∀ who, line.who = some who → h.session.cast.Knows who) :
    ∃ k, p.display line h = (.ok (), k) ∧ p.Performs (if line.text = "" then []
      else [.box line, .tell (.displayed line (h.session.surface.history.length + 1))]) h k := by
  unfold display Line.displayable
  by_cases hempty : line.text = ""
  · simp only [hempty, bne_self_eq_false, Bool.false_eq_true, if_false, if_true]
    exact ⟨h, rfl, .nil h⟩
  · obtain ⟨options, hoptions⟩ := exists_boxOptions known
    have hkind := Session.optionsOf_kind hoptions
    have hbox : boxOptions (K := .board) (Value.optionalText line.who)
        (Value.optionalText line.sideImage) .null h = (.ok options, h) := by
      unfold boxOptions
      rw [Act.onPart_apply]
      exact Prod.ext hoptions rfl
    let shown := (h.onSession (Session.shown line.intent options)).note
      (.rendered (h.session.surface.next line.intent options).handle line.intent
        options)
    have hrender : render line.intent options h =
        (.ok (h.session.surface.history.length + 1), shown) := by
      have hboard := Board.render_of_kind hkind line.intent h.session.surface
      unfold render
      rw [Step.bind_eq_of_ok (a := h.session.surface.history.length + 1)
        (t := h.onSession fun s : Session .board =>
          { s with surface := s.surface.add (s.surface.next line.intent options) })]
      · rfl
      · rw [Act.onPart_apply]
        show ((Board.render line.intent options h.session.surface).1,
          h.onSession fun s : Session .board =>
            { s with surface := (Board.render line.intent options h.session.surface).2 }) = _
        rw [hboard]
        rfl
    have hsound : shown.Sound :=
      ⟨sound.rests, sound.aloof, sound.narrator,
        Board.hasOptions_add sound.boxes hkind line.intent⟩
    obtain ⟨k, hpublish, told⟩ := publish_performs calm
      (.displayed line (h.session.surface.history.length + 1)) hsound
    rw [if_pos (bne_iff_ne.mpr hempty), if_neg hempty]
    refine ⟨k, ?_, .cons (.box hoptions) told⟩
    rw [Step.bind_eq_of_ok hbox, Step.bind_eq_of_ok hrender]
    exact hpublish

/-- What a statement says is done as a reader does it, unless the handler of a command fails. -/
theorem say_performs {statement : Value} {line : Line} {read : Host .board}
    (parsed : parse statement h = (.ok line, read)) (sound : read.Sound)
    (commands : ∀ name ∈ line.commands, read.session.commands.has name = true)
    (who : ∀ who, line.who = some who → read.session.cast.Knows who) :
    (∃ k, p.say statement h = (.ok line, k) ∧
        p.Performs (read.session.effectsOf line) read k) ∨
      ∃ f k, p.Breaks [] line.commands read f k ∧ p.say statement h = (.error f, k) := by
  unfold say
  rw [Step.bind_eq_of_ok parsed]
  rcases execute_performs calm sound commands with ⟨m, hexecute, performs⟩ | ⟨f, k, breaks, hexecute⟩
  · have hsound := ((Host.keepsSound_parts calm).course.execute line).apply hexecute sound
    have hsame : m.session.surface = read.session.surface ∧ m.session.cast = read.session.cast := by
      have hsession := performs.session
      rw [Session.afterAll_append, Session.afterAll_run] at hsession
      rw [hsession]
      split <;> exact ⟨rfl, rfl⟩
    obtain ⟨hsurface, hcast⟩ := hsame
    rw [← hcast] at who
    obtain ⟨k, hdisplay, shows⟩ := display_performs calm hsound who
    rw [hsurface] at shows
    refine .inl ⟨k, ?_, performs.append shows⟩
    rw [Step.bind_eq_of_ok hexecute, Step.bind_eq_of_ok hdisplay]
    rfl
  · exact .inr ⟨f, k, breaks, Step.bind_eq_of_error hexecute⟩

end Playing

end Dialogue
