import Dialogue.Proofs.Refusals
import Dialogue.Proofs.Session.Going
import Mathlib.Logic.Relation

/-!
# Lines that were read before

A line that was read may be used much later: its commands are run and its box is made when handlers
have been called, and a host may keep it for as long as it likes.  Meanwhile characters, commands,
labels and settings may be given anew, and registrations may end half-way.

A host only changes by a few kinds of changes (`Host.Change`), whatever is asked of it and whatever its
handlers ask.  Names of commands and characters are added and never taken away, and a record keeps the
key that it is registered under.  So a line never goes stale.  It also follows that no command is ever
passed over as unknown: a line only has commands that were known when it was read.

Lines are read for a host, and for its handlers while something else is going on.  What was read for
a handler is in the journal, so the journal of any later host has only lines that can be used.

## Results

* `Host.Change.kept`, `Host.Later.kept` — what one change keeps, and any number of changes.
* `Commands.runOne_unknown` — what is done with unknown names does not matter for a known one.
* `Playing.run_of_known` — commands that are known are run without passing one over.
* `Host.later_changes` — every request leads to a later host, at any depth of calls.
* `Playing.carryOut_line`, `Playing.advance_line` — what is answered when a line was read.
* `Host.line_lasts` — a line that was read once can be used at any later point.
-/

set_option autoImplicit false

namespace Dialogue

variable {K : Surface}

namespace Commands

variable {σ η β : Type}

/-- No registration takes a command away. -/
theorem has_register {c d : Commands η β} {name : Value} {handler : Option η}
    (registered : c.register name handler = .ok d) {word : String} (known : c.has word = true) :
    d.has word = true := by
  unfold register at registered
  split at registered
  · cases registered
  · cases registered
    exact Keyed.has_put known name handler

/-- What is done with unknown names does not matter for a known one. -/
theorem runOne_unknown {stage : Stage σ η β} {name : Value} {s : σ} {handler? : Option η}
    (known : Keyed.find (stage.table s).handlers name = .ok (some handler?))
    (unknown : Value → Step σ Unit) :
    runOne { stage with unknown } name s = runOne stage name s := by
  rw [runOne_known known]
  exact runOne_known known

end Commands

/-! ## Changes of a host -/

namespace Host

/-- A host knows the commands of a line, and whoever speaks. -/
structure Knows (h : Host K) (line : Line) : Prop where
  commands : ∀ name ∈ line.commands, h.session.commands.has name = true
  who : ∀ who, line.who = some who → h.session.cast.Knows who

/-- One change of a host.  Whatever the bus, the surface, the playhead, the settings and the handlers
become, the cast and the commands change by registrations alone, and the journal is added to.  Lines
are written into it only when they are known. -/
inductive Change : Host K → Host K → Prop where
  | journal {more : List (Occurrence K)} (light : ∀ o ∈ more, o.weighs = false) (h : Host K) :
    Change h { h with journal := h.journal ++ more }
  | line {h : Host K} {line : Line} (known : h.Knows line) :
    Change h (h.note (.replied (.line line)))
  | disk (disk : Files.Node) (h : Host K) : Change h { h with disk }
  | library (library : Library) (h : Host K) : Change h { h with library }
  | handlers (handlers : List (Handler K)) (h : Host K) : Change h { h with handlers }
  | bus (b : Bus HandlerId (Notice K.Handle)) (h : Host K) : Change h (site.withBus b h)
  | surface (surface : K.State) (h : Host K) : Change h (h.onSession fun s => { s with surface })
  | settings (settings : Settings) (h : Host K) : Change h (h.onSession fun s => { s with settings })
  | cast (entries : Table Entry) (h : Host K) :
    Change h (h.onSession fun s => { s with cast := (s.cast.register entries).2 })
  | commands {name : Value} {handler : Option HandlerId} {commands : Commands HandlerId Bool}
    {h : Host K} (registered : h.session.commands.register name handler = .ok commands) :
    Change h (h.onSession fun s => { s with commands })
  | playhead (playhead : Playhead) (h : Host K) : Change h (h.onSession fun s => { s with playhead })
  | shown (handle : K.Handle) (h : Host K) :
    Change h (h.onSession fun s => { s with handle? := some handle })
  | drawn (draws : List Value) (h : Host K) : Change h (h.onSession fun s => { s with draws })

/-- A host is later than another when any number of changes lead to it. -/
def Later : Host K → Host K → Prop :=
  Relation.ReflTransGen Change

/-- What stays of a host: known commands and characters are known, records bear their keys, no command
is passed over, and lines are written into the journal only when they are known. -/
structure Kept (h k : Host K) : Prop where
  commands : ∀ name, h.session.commands.has name = true → k.session.commands.has name = true
  cast : Remembers h k
  titled : h.session.cast.Titled → k.session.cast.Titled
  quiet : ∀ name, .reported (.commandPassedOver name) ∈ k.journal →
    .reported (.commandPassedOver name) ∈ h.journal
  lines : ∀ line, .replied (.line line) ∈ k.journal →
    .replied (.line line) ∈ h.journal ∨ k.Knows line

/-- A line that is known stays known. -/
theorem Kept.knows {h k : Host K} (kept : Kept h k) {line : Line} (known : h.Knows line) :
    k.Knows line :=
  ⟨fun name hname => kept.commands name (known.commands name hname),
    fun who hwho => kept.cast who (known.who who hwho)⟩

theorem Kept.refl (h : Host K) : Kept h h :=
  ⟨fun _ known => known, fun _ known => known, id, fun _ told => told, fun _ told => .inl told⟩

theorem Kept.trans {h k l : Host K} (first : Kept h k) (second : Kept k l) : Kept h l where
  commands name known := second.commands name (first.commands name known)
  cast key known := second.cast key (first.cast key known)
  titled titled := second.titled (first.titled titled)
  quiet name told := first.quiet name (second.quiet name told)
  lines line told := by
    rcases second.lines line told with hbefore | hknown
    · exact (first.lines line hbefore).imp_right second.knows
    · exact .inr hknown

/-- **What one change keeps.** -/
theorem Change.kept {h k : Host K} (change : Change h k) : Kept h k := by
  cases change with
  | @journal more light =>
    have hbefore : ∀ o : Occurrence K, o.weighs = true → o ∈ h.journal ++ more → o ∈ h.journal := by
      intro o weighs ho
      rcases List.mem_append.mp ho with hold | hmore
      · exact hold
      · rw [light o hmore] at weighs
        cases weighs
    exact ⟨fun _ known => known, fun _ known => known, id, fun _ => hbefore _ rfl,
      fun _ told => .inl (hbefore _ rfl told)⟩
  | @line _ line known =>
    refine ⟨fun _ known => known, fun _ known => known, id, fun name told => ?_,
      fun other told => ?_⟩
    · rcases List.mem_append.mp told with hold | hnew
      · exact hold
      · cases List.mem_singleton.mp hnew
    · rcases List.mem_append.mp told with hold | hnew
      · exact .inl hold
      · cases List.mem_singleton.mp hnew
        exact .inr ⟨known.commands, known.who⟩
  | cast entries =>
    exact ⟨fun _ known => known, fun _ known => Cast.knows_register entries _ known,
      fun titled => titled.register entries, fun _ told => told, fun _ told => .inl told⟩
  | commands registered =>
    exact ⟨fun _ known => Commands.has_register registered known, fun _ known => known, id,
      fun _ told => told, fun _ told => .inl told⟩
  | _ =>
    exact ⟨fun _ known => known, fun _ known => known, id, fun _ told => told,
      fun _ told => .inl told⟩

/-- **What any number of changes keep.** -/
theorem Later.kept {h k : Host K} (later : Later h k) : Kept h k := by
  induction later with
  | refl => exact Kept.refl h
  | tail _ change ih => exact ih.trans change.kept

/-- At any point later than the first, the second of two hosts is later than the one before it. -/
def LaterSince (first h k : Host K) : Prop :=
  Later first h → Later h k

variable {first : Host K}

theorem laterSince_frame : Step.Frame (LaterSince first) :=
  ⟨fun _ _ => .refl, fun hk kl reached => (hk reached).trans (kl (reached.trans (hk reached)))⟩

theorem Change.since {h k : Host K} (change : Change h k) : LaterSince first h k :=
  fun _ => .single change

end Host

/-! ## Known commands -/

namespace Playing

open Host

/-- Handlers that do nothing but change their host, when they are called later than at this point.
Whatever else they do is up to them, and nothing is said of handlers that are called at other points:
what follows from this for a request also says that it calls its handlers at later points only. -/
def Ages (p : Playing K) (first : Host K) : Prop :=
  ∀ id occasion, Step.Keeps (LaterSince first) (p.react id occasion)

variable {p : Playing K} {first : Host K}

theorem runOne_of_known (ages : p.Ages first) {name : String} {h : Host K} (reached : Later first h)
    (known : h.session.commands.has name = true) (unknown : Value → Act K Unit) :
    Commands.runOne { p.stage with unknown } (.text name) h = Commands.runOne p.stage (.text name) h ∧
      Later h (Commands.runOne p.stage (.text name) h).2 := by
  obtain ⟨handler?, hfound⟩ := Option.isSome_iff_exists.mp known
  have hfind : Keyed.find (p.stage.table h).handlers (.text name) = .ok (some handler?) :=
    congrArg Except.ok hfound
  refine ⟨Commands.runOne_unknown hfind unknown, ?_⟩
  -- nothing is known of what is done with unknown names, so let it be nothing
  rw [← Commands.runOne_unknown hfind fun _ => pure ()]
  exact Commands.runOne_keeps laterSince_frame (fun _ => Step.keeps_pure laterSince_frame ())
    (fun name id => ages id (.command name))
    (fun b => Step.keeps_modify fun h => (Change.settings _ h).since) (.text name) h reached

/-- **Commands that are known are run without passing one over**, whatever their handlers register
meanwhile. -/
theorem run_of_known (ages : p.Ages first) {names : List String} {h : Host K}
    (reached : Later first h) (known : ∀ name ∈ names, h.session.commands.has name = true)
    (unknown : Value → Act K Unit) :
    Commands.run { p.stage with unknown } (names.map .text) h =
        Commands.run p.stage (names.map .text) h ∧
      Later h (Commands.run p.stage (names.map .text) h).2 := by
  induction names generalizing h with
  | nil => exact ⟨rfl, .refl⟩
  | cons name rest ih =>
    obtain ⟨hname, hrest⟩ := List.forall_mem_cons.mp known
    obtain ⟨hsame, hlater⟩ := runOne_of_known ages reached hname unknown
    rw [List.map_cons, Commands.run, Commands.run]
    cases hone : Commands.runOne p.stage (.text name) h with
    | mk answer t =>
      rw [hone] at hsame hlater
      cases answer with
      | error f =>
        rw [Step.bind_eq_of_error hsame, Step.bind_eq_of_error hone]
        exact ⟨rfl, hlater⟩
      | ok u =>
        obtain ⟨hran, hafter⟩ := ih (reached.trans hlater) fun other hother =>
          hlater.kept.commands other (hrest other hother)
        rw [Step.bind_eq_of_ok hsame, Step.bind_eq_of_ok hone]
        exact ⟨hran, hlater.trans hafter⟩

end Playing

/-! ## Every request -/

namespace Host

variable {first : Host K}

theorem later_inside : Inside (LaterSince first) where
  frame := laterSince_frame
  journal _ h light := (Change.journal light h).since
  disk disk h := (Change.disk disk h).since
  library library h := (Change.library library h).since
  settings settings h := (Change.settings settings h).since
  cast entries h := (Change.cast entries h).since
  commands _ _ _ _ registered := (Change.commands registered).since
  playhead playhead h := (Change.playhead playhead h).since
  shown handle h := (Change.shown handle h).since
  drawn draws h := (Change.drawn draws h).since

theorem later_showing {p : Playing K} (ages : p.Ages first) : Showing p (LaterSince first) :=
  later_inside.showing (fun b h => (Change.bus b h).since)
    (fun surface h => (Change.surface surface h).since) ages

end Host

namespace Playing

open Host

variable {p : Playing K} {first : Host K}

theorem execute_of_known (ages : p.Ages first) {line : Line} {h : Host K} (reached : Later first h)
    (known : ∀ name ∈ line.commands, h.session.commands.has name = true) :
    Later h (p.execute line h).2 := by
  unfold execute
  split
  · have hrun := (run_of_known ages reached known fun _ => pure ()).2
    refine laterSince_frame.bind_apply (fun _ => hrun) (fun _ t _ => ?_) reached
    exact (later_showing ages).told _ t
  · exact .refl

/-- Saying a statement leads to a later host: the commands of its line are known. -/
theorem say_later (ages : p.Ages first) (statement : Value) :
    Step.Keeps (LaterSince first) (p.say statement) := by
  intro h reached
  have showing := later_showing ages
  refine laterSince_frame.bind_apply (showing.parse statement h) (fun line t hparse => ?_) reached
  obtain ⟨hline, rfl⟩ := Prod.mk.inj hparse
  have hknown := Session.parse_commands (Prod.ext hline rfl)
  refine laterSince_frame.bind_apply (fun read => execute_of_known ages read hknown) fun _ u _ => ?_
  exact laterSince_frame.bind_apply (showing.display line u) fun _ v _ _ => .refl

end Playing

/-! ## Lines -/

namespace Playing

open Host

variable {p : Playing K} {first h m t : Host K} {line : Line}

/-- A line is read for a request, and this is the host that reads it.  A request to go on reads one
when the surface was cleared and the statement was taken.  A line is read for a request that tries
another when it is read for the other. -/
inductive ReadsAt (p : Playing K) (h : Host K) (line : Line) : Request K → Host K → Prop where
  | parse {statement : Value} (read : (h.session.parse statement).1 = .ok line) :
    ReadsAt p h line (.parse statement) h
  | say {statement : Value} (read : (h.session.parse statement).1 = .ok line) :
    ReadsAt p h line (.say statement) h
  | advance {statement : Value} {taken : Host K} (takes : p.Takes h statement taken)
    (read : (taken.session.parse statement).1 = .ok line) : ReadsAt p h line .advance taken
  | attempt {r : Request K} {t : Host K} (reads : ReadsAt p h line r t) :
    ReadsAt p h line (.attempt r) t

/-- A line is read later than it is asked for. -/
theorem ReadsAt.later {r : Request K} (reads : p.ReadsAt h line r t) (ages : p.Ages first)
    (reached : Later first h) : Later h t := by
  induction reads with
  | parse | say => exact .refl
  | attempt _ ih => exact ih
  | advance takes =>
    obtain ⟨cleared, playhead, hclear, -, rfl⟩ := takes
    have hcleared := (later_showing ages).clear h reached
    rw [hclear] at hcleared
    exact hcleared.tail (.playhead playhead cleared)

theorem ReadsAt.exists_parse {r : Request K} (reads : p.ReadsAt h line r t) :
    ∃ statement, (t.session.parse statement).1 = .ok line := by
  induction reads with
  | parse read | say read => exact ⟨_, read⟩
  | advance _ read => exact ⟨_, read⟩
  | attempt _ ih => exact ih

/-- A line that was said was read. -/
theorem say_line {statement : Value} (said : p.say statement h = (.ok line, m)) :
    (h.session.parse statement).1 = .ok line := by
  obtain ⟨read, t, hparse, hrest⟩ := Step.bind_eq_ok_iff.mp said
  obtain ⟨-, u, -, hrest⟩ := Step.bind_eq_ok_iff.mp hrest
  obtain ⟨-, v, -, hrest⟩ := Step.bind_eq_ok_iff.mp hrest
  cases hrest
  exact congrArg Prod.fst hparse

/-- Is this answer anything but a line? -/
def Lineless (reply : Reply K) : Prop :=
  ∀ line, reply ≠ .line line

/-- **A request is answered with a line only when the line was read for it.** -/
theorem carryOut_line {r : Request K} (answered : p.carryOut r h = (.ok (.line line), m)) :
    p.ReadsAt h line r h := by
  have hnone {r : Request K} (answered : p.carryOut r h = (.ok (.line line), m)) :
      ¬ Step.Answers Lineless (p.carryOut r) := fun answers => answers h _ m answered line rfl
  induction r with
  | parse statement =>
    obtain ⟨read, t, hparse, hanswer⟩ := Step.bind_eq_ok_iff.mp answered
    cases hanswer
    exact .parse (congrArg Prod.fst hparse)
  | say statement =>
    obtain ⟨said, t, hsay, hanswer⟩ := Step.bind_eq_ok_iff.mp answered
    cases hanswer
    exact .say (say_line hsay)
  | raise fault => exact absurd (Step.answers_throw _ fault) (hnone answered)
  | attempt r ih =>
    rw [carryOut_attempt] at answered
    split at answered <;> rename_i hr <;> cases answered
    exact .attempt (ih hr)
  | configure | registerCharacters | nameCommand | registerCommand | defineLabels | loadSequence
  | takeScript | startLabel | advance | clear | showText | boxOptions | settings | names | reset
  | subscribe | unsubscribe | consume =>
    exact absurd (Step.answers_bind fun _ => Step.answers_pure nofun) (hnone answered)
  | look | item | findCharacter | findLabel | install =>
    refine absurd (Step.answers_bind fun _ => ?_) (hnone answered)
    exact Step.answers_bind fun _ => Step.answers_pure nofun
  | ask r =>
    refine absurd (Step.answers_bind fun h => Step.answers_bind fun _ => ?_) (hnone answered)
    exact Step.answers_bind fun _ => Step.answers_bind fun _ => Step.answers_pure nofun
  | putFiles | loadLibrary =>
    refine absurd (Step.answers_bind fun h => Step.answers_bind fun _ => ?_) (hnone answered)
    exact Step.answers_bind fun _ => Step.answers_pure nofun

/-- **When going on is answered with yes, a line was read**, and what came of it is later still. -/
theorem advance_line (ages : p.Ages first) (reached : Later first h)
    (answered : p.carryOut .advance h = (.ok (.truth true), m)) :
    ∃ line t, p.ReadsAt h line .advance t ∧ Later t m := by
  obtain ⟨went, last, hadvance, hanswer⟩ := Step.bind_eq_ok_iff.mp answered
  cases hanswer
  cases hstanding : h.session.playhead.standing with
  | idle =>
    unfold advance at hadvance
    rw [Step.bind_eq_of_ok (Step.get_apply h), hstanding] at hadvance
    cases hadvance
  | exhausted =>
    unfold advance at hadvance
    rw [Step.bind_eq_of_ok (Step.get_apply h), hstanding] at hadvance
    obtain ⟨-, cleared, -, hrest⟩ := Step.bind_eq_ok_iff.mp hadvance
    rw [Step.bind_eq_of_ok (Step.get_apply cleared)] at hrest
    obtain ⟨-, told, -, hrest⟩ := Step.bind_eq_ok_iff.mp hrest
    cases hrest
  | active =>
    rw [advance_of_active hstanding] at hadvance
    obtain ⟨_, cleared, hclear, hrest⟩ := Step.bind_eq_ok_iff.mp hadvance
    obtain ⟨statement, taken, htake, hrest⟩ := Step.bind_eq_ok_iff.mp hrest
    obtain ⟨line, said, hsay, hrest⟩ := Step.bind_eq_ok_iff.mp hrest
    cases hrest
    have hreads : p.ReadsAt h line .advance taken :=
      .advance (takes_of_take hclear htake) (say_line hsay)
    have hsaid := say_later ages statement taken (reached.trans (hreads.later ages reached))
    rw [hsay] at hsaid
    exact ⟨line, taken, hreads, hsaid⟩

end Playing

namespace Host

variable {first : Host K}

/-- A line that was read is known. -/
theorem knows_of_parse {h : Host K} (narrator : h.session.cast.Knows narratorKey)
    {statement : Value} {line : Line} (read : (h.session.parse statement).1 = .ok line) :
    h.Knows line := by
  have hparsed : h.session.parse statement = (.ok line, (h.session.parse statement).2) :=
    Prod.ext read rfl
  exact ⟨Session.parse_commands hparsed, Session.parse_who hparsed narrator⟩

/-- **Every request leads to a later host**, and so do answers to handlers that are written down. -/
theorem later_changes (narrator : first.session.cast.Knows narratorKey) :
    Changes (LaterSince first) where
  toInside := later_inside
  bus b h := (Change.bus b h).since
  surface surface h := (Change.surface surface h).since
  handlers handlers h := (Change.handlers handlers h).since
  answered p r h reply m carried since reached := by
    have hafter := since reached
    refine hafter.tail ?_
    cases reply with
    | line line =>
      obtain ⟨statement, hread⟩ := (Playing.carryOut_line carried).exists_parse
      have hknows := knows_of_parse (reached.kept.cast narratorKey narrator) hread
      exact .line (hafter.kept.knows hknows)
    | _ => exact .journal (by simp [Occurrence.weighs]) m
  said _ ages := Playing.say_later ages

end Host

/-- The handlers of a host do nothing to it but change it, at any depth of calls. -/
theorem Playing.within_ages (n : Nat) {first : Host K}
    (narrator : first.session.cast.Knows narratorKey) : (Playing.within n).Ages first :=
  Playing.reactWithin_keeps (Host.later_changes narrator) n

namespace Host

/-- The options of a box for somebody who is known are a mapping. -/
theorem exists_optionsOf {h : Host K} {line : Line}
    (known : ∀ who, line.who = some who → h.session.cast.Knows who) :
    ∃ entries, h.session.optionsOf (Value.optionalText line.who)
      (Value.optionalText line.sideImage) .null = .ok (.ofTable entries) := by
  obtain ⟨options, hoptions⟩ := Playing.exists_boxOptions known
  have hkind := Session.optionsOf_kind hoptions
  obtain ⟨entries, rfl⟩ : ∃ entries, options = .ofTable entries := by
    unfold Session.optionsOf at hoptions
    cases hspeaker : h.session.cast.character (Value.optionalText line.who) with
    | error f =>
      rw [hspeaker] at hoptions
      cases hoptions
    | ok speaker =>
      rw [hspeaker] at hoptions
      cases hoptions
      exact Value.exists_entries_merge hkind
  exact ⟨entries, hoptions⟩

/-- A host whose session has a new cast, and in whose journal there is nothing. -/
structure New (h : Host K) : Prop where
  cast : h.session.cast = {}
  journal : h.journal = []

/-- A line can be used: its commands are known and run without one being passed over, no command ever
was, whoever speaks is registered with a record that bears the same key, and the options of its box
are a mapping. -/
structure Usable (line : Line) (h : Host K) : Prop where
  commands : ∀ name ∈ line.commands, h.session.commands.has name = true
  run : ∀ p : Playing K, p.Ages h → ∀ unknown : Value → Act K Unit,
    Commands.run { p.stage with unknown } (line.commands.map .text) h =
      Commands.run p.stage (line.commands.map .text) h
  quiet : ∀ name, .reported (.commandPassedOver name) ∉ h.journal
  speaker : ∀ who, line.who = some who → ∃ record,
    Table.get? h.session.cast.records who = some record ∧ record.key = who
  options : ∃ entries, h.session.optionsOf (Value.optionalText line.who)
    (Value.optionalText line.sideImage) .null = .ok (.ofTable entries)

theorem New.narrator {first : Host K} (new : first.New) :
    first.session.cast.Knows narratorKey := by
  rw [new.cast]
  rfl

/-- A line that is known can be used. -/
theorem Knows.usable {first h : Host K} (new : first.New) (reached : Later first h) {line : Line}
    (known : h.Knows line) : Usable line h := by
  have htitled : h.session.cast.Titled := by
    refine reached.kept.titled ?_
    rw [new.cast]
    exact Cast.titled_new
  refine ⟨known.commands,
    fun p ages unknown => (Playing.run_of_known ages .refl known.commands unknown).1,
    fun name htold => ?_, fun who hline => ?_, exists_optionsOf known.who⟩
  · have hfirst := reached.kept.quiet name htold
    rw [new.journal] at hfirst
    cases hfirst
  · obtain ⟨record, hrecord⟩ := Cast.knows_iff.mp (known.who who hline)
    exact ⟨record, hrecord, htitled who record hrecord⟩

/-- **A line that was read can be used at any later point.**  Lines are read for requests, and they are
all that requests are answered with.  The lines that were read for handlers are in the journal.  Every
request leads to a later host, whether it fails or not, and so does whatever handlers do, at any depth
of calls. -/
theorem line_lasts {first h : Host K} (new : first.New) (reached : Later first h) :
    (∀ p : Playing K, p.Ages h → ∀ r t line, p.ReadsAt h line r t →
        Later h t ∧ ∀ k, Later t k → Usable line k) ∧
      (∀ line, .replied (.line line) ∈ h.journal → Usable line h) ∧
      (∀ (p : Playing K) r line m, p.carryOut r h = (.ok (.line line), m) →
        p.ReadsAt h line r h) ∧
      (∀ p : Playing K, p.Ages h → ∀ m, p.carryOut .advance h = (.ok (.truth true), m) →
        ∃ line t, p.ReadsAt h line .advance t ∧ Later t m) ∧
      (∀ p : Playing K, p.Ages h → ∀ r, Later h (p.carryOut r h).2) ∧
      (∀ n, (Playing.within n).Ages h) ∧
      ∀ requests, Later h (h.performAll requests) := by
  have hnarrator := reached.kept.cast narratorKey new.narrator
  have changes := later_changes hnarrator
  refine ⟨fun p ages r t line reads => ?_, fun line told => ?_,
    fun p r line m => Playing.carryOut_line, fun p ages m => Playing.advance_line ages .refl,
    fun p ages r => Playing.carryOut_keeps changes ages r h .refl,
    fun n => Playing.within_ages n hnarrator,
    fun requests => performAll_keeps changes requests h .refl⟩
  · have hlater := reads.later ages .refl
    obtain ⟨statement, hread⟩ := reads.exists_parse
    have hknows := knows_of_parse (hlater.kept.cast narratorKey hnarrator) hread
    exact ⟨hlater, fun k further =>
      (further.kept.knows hknows).usable new (reached.trans (hlater.trans further))⟩
  · rcases reached.kept.lines line told with hold | hknown
    · rw [new.journal] at hold
      cases hold
    · exact hknown.usable new reached

/-- A host of which nothing was asked yet. -/
def unasked : Host .board where
  session := { surface := {} }

/-- Somebody is registered, and a command. -/
def hiring : List (Request .board) :=
  [.registerCharacters [("r", .fields (.ofTable [("name", .text "Robot")]))],
   .nameCommand (.text "wave")]

/-- Both are registered anew, and the command says something itself. -/
def rehiring : List (Request .board) :=
  [.registerCharacters [("r", .fields (.ofTable [("name", .text "Rob")]))],
   .registerCommand (.text "wave") [[.say (.text "r Again")]]]

/-- The general theorem for a speaker and a command that are registered anew. -/
theorem line_lasts_rehiring :
    ((unasked.performAll hiring).session.parse (.text "wave r Hello")).1 =
        .ok { source := .text "wave r Hello", who := some "r", text := "Hello",
              commands := ["wave"] } ∧
      Usable { source := .text "wave r Hello", who := some "r", text := "Hello",
               commands := ["wave"] } ((unasked.performAll hiring).performAll rehiring) := by
  have hread : ((unasked.performAll hiring).session.parse (.text "wave r Hello")).1 =
      .ok { source := .text "wave r Hello", who := some "r", text := "Hello",
            commands := ["wave"] } :=
    Step.ok_of_toOption (by decide +kernel)
  have hnew : unasked.New := ⟨rfl, rfl⟩
  have hhired := performAll_keeps (later_changes hnew.narrator) hiring unasked .refl
  obtain ⟨hlasts, -, -, -, -, hages, hafter⟩ := line_lasts hnew hhired
  have hreads := Playing.ReadsAt.parse (p := Playing.within 0) hread
  exact ⟨hread, (hlasts _ (hages 0) _ _ _ hreads).2 _ (hafter rehiring)⟩

end Host

end Dialogue
