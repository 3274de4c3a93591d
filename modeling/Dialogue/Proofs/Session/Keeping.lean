import Dialogue.Host.Performing
import Dialogue.Proofs.Bus.Settled
import Dialogue.Proofs.Library.Reporting

/-!
# What a session keeps

Whatever handlers ask for, a host changes by a few kinds of changes only.  What all of these keep
is kept by every request, at any depth of calls.

A relation that not every change of the bus keeps, or of the surface, may still be kept when notices
are told, when the surface is cleared and when a line is put into a box (`Parts`).  A relation that
minds what is written into the journal may still be kept when the surface is cleared and this is told,
and when a line is put into a box and this is told (`Course`).  A relation that minds commands being
passed over may still be kept when a statement is said (`Telling`), for then its commands are known.  One
that minds which lines handlers are answered with may still be kept when an answer is written down
(`Changes`), for then the line was read.  One that minds where the session stands in its script may
still be kept when a statement is said outside of any script (`Saying`).

## Results

* `Apart.carryOut` — what is kept apart from a session, requests keep that leave it alone.
* `Saying.say` — what the parts of saying a statement keep is kept when a statement is said.
* `Onward.carryOut` — what the parts of going through a script keep, the requests keep that do so.
* `Telling.carryOut`, `Course.carryOut`, `Parts.carryOut` — what the parts of going on keep is kept by
  every request but those that turn to the bus, to the surface or to the handlers themselves.
* `Commands.promptAfter_cons`, `Playing.takeEffect_eq` — what commands announce by themselves, one after
  the other.
* `Playing.carryOut_keeps` — what the changes of a host keep, and its handlers, is kept by every
  request.
* `Playing.reactWithin_keeps` — what the changes keep, the handlers of a host keep.
* `Host.performAll_keeps` — so it is kept however many requests a host performs.
-/

set_option autoImplicit false

namespace Dialogue

variable {K : Surface} {R : Host K → Host K → Prop}

/-- Does this tell that a command was passed over, or of a line that was read for a handler? -/
def Occurrence.weighs : Occurrence K → Bool
  | .reported r => r.skips
  | .replied (.line _) => true
  | _ => false

/-! ## Kinds of changes -/

/-- A relation that holds across whatever a host does apart from its session, when nothing but reports
is written into the journal, and none of a command that was passed over. -/
structure Apart (R : Host K → Host K → Prop) : Prop where
  frame : Step.Frame R
  reported : ∀ (rs : List Report) h, Quiet rs →
    R h { h with journal := h.journal ++ rs.map Occurrence.reported }
  disk : ∀ disk h, R h { h with disk }
  library : ∀ library h, R h { h with library }

/-- A relation that holds across whatever a host does outside its session. -/
structure Outside (R : Host K → Host K → Prop) : Prop extends Apart R where
  journal : ∀ more h, (∀ o ∈ more, o.weighs = false) → R h { h with journal := h.journal ++ more }
  reported := fun _ h quiet => journal _ h (List.forall_mem_map.mpr quiet)

/-- A relation that also holds across changes of the smaller parts of a session. -/
structure Within (R : Host K → Host K → Prop) : Prop extends Apart R where
  cast : ∀ entries h,
    R h (h.onSession fun s => { s with cast := (s.cast.register entries).2 })
  commands : ∀ name handler commands h,
    h.session.commands.register name handler = .ok commands →
      R h (h.onSession fun s => { s with commands })
  playhead : ∀ playhead h, R h (h.onSession fun s => { s with playhead })
  drawn : ∀ draws h, R h (h.onSession fun s => { s with draws })

/-- A relation that also holds across changes inside the session, of neither bus nor surface. -/
structure Inside (R : Host K → Host K → Prop) : Prop extends Outside R, Within R where
  settings : ∀ settings h, R h (h.onSession fun s => { s with settings })
  shown : ∀ handle h, R h (h.onSession fun s => { s with handle? := some handle })

/-- Does this notice tell of the surface: that it was cleared, or that a line was put into a box? -/
def Notice.tellsSurface {H : Type} : Notice H → Bool
  | .cleared | .displayed .. => true
  | _ => false

/-- A relation that holds across the parts that going through a script consists of, when a statement is
said as a whole. -/
structure Onward (p : Playing K) (R : Host K → Host K → Prop) : Prop extends Apart R where
  playhead : ∀ playhead h, R h (h.onSession fun s => { s with playhead })
  cleared : Step.Keeps R p.clear
  told : ∀ notice, notice.tellsSurface = false → Step.Keeps R (p.publish notice)
  said : ∀ statement, Step.Keeps R (p.say statement)

/-- A relation that holds across the parts that going on consists of, when a statement is said as a
whole. -/
structure Telling (p : Playing K) (R : Host K → Host K → Prop) : Prop extends Within R where
  cleared : Step.Keeps R p.clear
  told : ∀ notice, notice.tellsSurface = false → Step.Keeps R (p.publish notice)
  said : ∀ statement, Step.Keeps R (p.say statement)

/-- A relation that holds across the parts that saying a statement consists of, when a line is put into
a box and this is told at once. -/
structure Saying (p : Playing K) (R : Host K → Host K → Prop) : Prop extends Apart R where
  drawn : ∀ draws h, R h (h.onSession fun s => { s with draws })
  prompted : ∀ b h,
    R h (h.onSession fun s => { s with settings := { s.settings with prompt := .flag b } })
  displayed : ∀ line, Step.Keeps R (p.display line)
  told : ∀ notice, notice.tellsSurface = false → Step.Keeps R (p.publish notice)
  handled : ∀ id name, Step.Keeps R (p.react id (.command name))
  skipped : ∀ name h, R h (h.note (.reported (.commandPassedOver name)))

/-- A relation that holds across the parts that going on consists of, when each change of the surface
is told at once. -/
structure Course (p : Playing K) (R : Host K → Host K → Prop) : Prop
    extends Within R, Saying p R where
  cleared : Step.Keeps R p.clear

/-- A relation that holds across what is shown and told. -/
structure Showing (p : Playing K) (R : Host K → Host K → Prop) : Prop extends Inside R where
  wiped : ∀ h, R h (h.onSession fun s => { s with surface := (K.clear s.surface).2 })
  boxed : ∀ who sideImage options intent h, h.session.optionsOf who sideImage .null = .ok options →
    R h (h.onSession fun s => { s with surface := (K.render intent options s.surface).2 })
  told : ∀ notice, Step.Keeps R (p.publish notice)

/-- A relation that holds across the parts that going on consists of. -/
structure Parts (p : Playing K) (R : Host K → Host K → Prop) : Prop extends Showing p R where
  handled : ∀ id name, Step.Keeps R (p.react id (.command name))
  skipped : ∀ name h, R h (h.note (.reported (.commandPassedOver name)))

/-- A relation that holds across every kind of change that a request can make, across answers to
handlers that are written down, and across saying a statement when it holds across what handlers
do. -/
structure Changes (R : Host K → Host K → Prop) : Prop extends Inside R where
  bus : ∀ b h, R h (Host.site.withBus b h)
  surface : ∀ surface h, R h (h.onSession fun s => { s with surface })
  handlers : ∀ handlers h, R h { h with handlers }
  answered : ∀ (p : Playing K) r h reply m, p.carryOut r h = (.ok reply, m) → R h m →
    R h (m.note (.replied reply))
  said : ∀ p : Playing K, (∀ id occasion, Step.Keeps R (p.react id occasion)) →
    ∀ statement, Step.Keeps R (p.say statement)

namespace Apart

variable {α β : Type} (apart : Apart R)

include apart

theorem bind {x : Act K α} {f : α → Act K β} (hx : Step.Keeps R x)
    (hf : ∀ a, Step.Keeps R (f a)) : Step.Keeps R (x >>= f) :=
  Step.Keeps.bind apart.frame hx hf

theorem pure (a : α) : Step.Keeps R (Pure.pure a : Act K α) :=
  Step.keeps_pure apart.frame a

theorem throw (f : Fault) : Step.Keeps R (throwThe Fault f : Act K α) :=
  Step.keeps_throw apart.frame f

theorem of (result : Except Fault α) : Step.Keeps R (Step.of result : Act K α) :=
  Step.keeps_of apart.frame result

theorem get : Step.Keeps R (MonadState.get : Act K (Host K)) :=
  Step.keeps_get apart.frame

theorem report {r : Report} (quiet : r.skips = false) : Step.Keeps R (Act.report r : Act K Unit) :=
  Step.keeps_modify fun h => apart.reported [r] h (List.forall_mem_singleton.mpr quiet)

theorem reports {rs : List Report} (quiet : Quiet rs) :
    Step.Keeps R (rs.forM (Act.report (K := K))) := by
  induction rs with
  | nil => exact apart.pure _
  | cons r rest ih =>
    obtain ⟨hr, hrest⟩ := List.forall_mem_cons.mp quiet
    exact apart.bind (apart.report hr) fun _ => ih hrest

end Apart

theorem Outside.note (outside : Outside R) {o : Occurrence K} (light : o.weighs = false) :
    Step.Keeps R (modify (Host.note o) : Act K Unit) :=
  Step.keeps_modify fun h => outside.journal _ h (List.forall_mem_singleton.mpr light)

namespace Act

theorem onPart_apply {α β : Type} (part : Session K → β) (put : β → Session K → Session K)
    (f : β → Except Fault α × β) (h : Host K) :
    onPart part put f h = ((f (part h.session)).1, h.onSession (put (f (part h.session)).2)) :=
  rfl

theorem onPart_keeps {α β : Type} {part : Session K → β} {put : β → Session K → Session K}
    {f : β → Except Fault α × β} (h : ∀ h, R h (h.onSession (put (f (part h.session)).2))) :
    Step.Keeps R (onPart part put f) :=
  h

end Act

/-! ## Inside a session -/

namespace Within

variable (within : Within R)

include within

theorem onPlayhead {α : Type} (f : Playhead → Except Fault α × Playhead) :
    Step.Keeps R (Act.onPart (K := K) Session.playhead (fun playhead s => { s with playhead }) f) :=
  Act.onPart_keeps fun h => within.playhead _ h

theorem parse (statement : Value) : Step.Keeps R (Playing.parse (K := K) statement) :=
  Act.onPart_keeps fun h => within.drawn _ h

theorem registerCharacters (entries : Table Entry) :
    Step.Keeps R (Playing.registerCharacters (K := K) entries) :=
  Act.onPart_keeps fun h => within.cast entries h

/-- Registering a command keeps what adding its handler keeps. -/
theorem registerCommand (name : Value) (handler? : Option (Handler K))
    (added : ∀ handler ∈ handler?, ∀ h, R h (h.addHandler handler)) :
    Step.Keeps R (Playing.registerCommand name handler?) := by
  intro h
  refine within.frame.bind_apply (within.frame.refl h) fun a t hget => ?_
  cases hget
  cases hr : h.session.commands.register name (handler?.map fun _ => h.handlers.length) with
  | error f => exact within.frame.refl h
  | ok commands =>
    refine within.frame.bind_apply (within.commands name _ commands h hr) fun _ t _ => ?_
    cases handler? with
    | none => exact within.frame.refl t
    | some handler => exact added handler rfl t

end Within

namespace Inside

variable (inside : Inside R)

include inside

theorem configure (options : Keyed Value) : Step.Keeps R (Playing.configure (K := K) options) :=
  Act.onPart_keeps fun h => inside.settings _ h

/-- Showing something keeps what the surface keeps. -/
theorem render {intent : Intent} {options : Value} {h : Host K}
    (surface : R h (h.onSession fun s =>
      { s with surface := (K.render intent options s.surface).2 })) :
    R h (Playing.render intent options h).2 := by
  refine inside.frame.bind_apply surface fun handle t _ => ?_
  refine inside.frame.bind_apply (inside.shown handle t) fun _ t _ => ?_
  exact inside.frame.bind_apply (inside.note rfl t) fun _ t _ => inside.frame.refl t

end Inside

/-! ## Telling handlers -/

namespace Playing

section

variable {p : Playing K} (frame : Step.Frame R)
  (reported : ∀ (rs : List Report) h, Quiet rs →
    R h { h with journal := h.journal ++ rs.map Occurrence.reported })
  (react : ∀ id occasion, Step.Keeps R (p.react id occasion))

include frame reported react

theorem tell_of_react (id : HandlerId) (event : Event (Notice K.Handle)) (h : Host K) :
    R h (p.tell id event h).2 := by
  have hreact := react id (.event event.data) h
  unfold tell
  simp only [Step.state_bind, ExceptT.run]
  cases hr : p.react id (.event event.data) h with
  | mk result k =>
    rw [hr] at hreact
    cases result with
    | ok u => exact hreact
    | error f =>
      refine frame.trans hreact (reported [.handlerFailed event.signal] k ?_)
      exact List.forall_mem_singleton.mpr rfl

theorem publish_of_react (bus : ∀ b h, R h (Host.site.withBus b h)) (notice : Notice K.Handle) :
    Step.Keeps R (p.publish notice) :=
  Bus.Site.publish_keeps frame bus (tell_of_react frame reported react) p.rounds notice.signal notice

end

end Playing

/-- What is shown and told keeps what changes of the bus and of the surface keep, and what handlers
do. -/
theorem Inside.showing (inside : Inside R) (bus : ∀ b h, R h (Host.site.withBus b h))
    (surface : ∀ surface h, R h (h.onSession fun s => { s with surface })) {p : Playing K}
    (react : ∀ id occasion, Step.Keeps R (p.react id occasion)) : Showing p R where
  toInside := inside
  wiped h := surface _ h
  boxed _ _ _ _ h _ := surface _ h
  told := Playing.publish_of_react inside.frame inside.reported react bus

theorem Playing.occurrenceOf_weighs (title? : Option Value) (occasion : Occasion K) :
    (occurrenceOf title? occasion).weighs = false := by
  cases occasion <;> rfl

/-! ## Requests that leave the session alone -/

/-- Does this request leave the session alone? -/
def Request.isOutside : Request K → Bool
  | .boxOptions .. | .settings | .names | .look .. | .item _ | .raise _ | .putFiles _
  | .loadLibrary | .findCharacter _ | .findLabel _ => true
  | .attempt r => r.isOutside
  | _ => false

namespace Apart

variable (apart : Apart R)

include apart

/-- **What is kept apart from a session, requests keep that leave it alone.** -/
theorem carryOut (p : Playing K) {r : Request K} (alone : r.isOutside = true) :
    Step.Keeps R (p.carryOut r) := by
  induction r with
  | boxOptions who sideImage options =>
    exact apart.bind (Act.onPart_keeps fun h => apart.frame.refl h) fun _ => apart.pure _
  | settings => exact apart.bind apart.get fun _ => apart.pure _
  | names => exact apart.bind apart.get fun _ => apart.pure _
  | look key default =>
    refine apart.bind (apart.bind apart.get fun _ => apart.pure _) fun _ => ?_
    exact apart.bind (apart.of _) fun _ => apart.pure _
  | item key =>
    refine apart.bind (apart.bind apart.get fun _ => apart.pure _) fun _ => ?_
    exact apart.bind (apart.of _) fun _ => apart.pure _
  | raise fault => exact apart.throw fault
  | putFiles files =>
    intro h
    refine apart.frame.bind_apply (apart.frame.refl h) fun a t hget => ?_
    cases hget
    refine apart.frame.bind_apply (apart.disk _ h) fun _ t _ => ?_
    exact apart.bind (apart.of _) (fun _ => apart.pure _) t
  | loadLibrary =>
    intro h
    refine apart.frame.bind_apply (apart.frame.refl h) fun a t hget => ?_
    cases hget
    have hquiet := Library.load_quiet h.disk.working h.library
    generalize Library.load h.disk.working h.library = loaded at hquiet ⊢
    rcases loaded with ⟨⟨result, library⟩, reports⟩
    have hloaded : R h { h with
        library, journal := h.journal ++ reports.map Occurrence.reported } :=
      apart.frame.trans (apart.library library h) (apart.reported _ { h with library } hquiet)
    refine apart.frame.bind_apply hloaded fun _ t _ => ?_
    exact apart.bind (apart.of result) (fun _ => apart.pure _) t
  | findCharacter key =>
    refine apart.bind apart.get fun _ => ?_
    exact apart.bind (apart.of _) fun _ => apart.pure _
  | findLabel label =>
    refine apart.bind apart.get fun _ => ?_
    exact apart.bind (apart.of _) fun _ => apart.pure _
  | attempt r ih => exact (ih alone).attempt _
  | _ => cases alone

end Apart

/-! ## Commands -/

namespace Commands

variable {σ η β : Type} {stage : Stage σ η β}

/-- What a command does by itself. -/
def takeEffect (stage : Stage σ η β) (name : Value) : Step σ Unit := do
  (Keyed.get? (stage.table (← get)).builtins name).elim (pure ()) stage.effect

/-- A known command is its handler, if it has one, and then what it does by itself. -/
theorem runOne_known {name : Value} {handler? : Option η} {s : σ}
    (known : Keyed.find (stage.table s).handlers name = .ok (some handler?)) :
    runOne stage name s =
      (handler?.elim (pure ()) (stage.handle name) >>= fun _ => takeEffect stage name) s := by
  have hknown : (Step.of (Keyed.find (stage.table s).handlers name) : Step σ _) s =
      (.ok (some handler?), s) := by
    rw [known]
    rfl
  have heffect : ∀ t, takeEffect stage name t =
      ((Keyed.get? (stage.table t).builtins name).elim (pure ()) stage.effect) t := fun t => rfl
  unfold runOne
  rw [Step.bind_eq_of_ok (Step.get_apply s), Step.bind_eq_of_ok hknown]
  cases handler? with
  | none =>
    show ((get >>= fun _ => _ : Step σ Unit)) s = takeEffect stage name s
    rw [heffect, Step.bind_eq_of_ok (Step.get_apply s)]
    cases Keyed.get? (stage.table s).builtins name <;> rfl
  | some id =>
    show _ = (stage.handle name id >>= fun _ => takeEffect stage name) s
    simp only [Step.bind_apply (stage.handle name id)]
    rcases stage.handle name id s with ⟨_ | _, t⟩
    · rfl
    · simp only [heffect, Step.bind_eq_of_ok (Step.get_apply t)]
      cases Keyed.get? (stage.table t).builtins name <;> rfl

/-- Nothing but what is done with unknown names is done with one. -/
theorem runOne_of_none {name : Value} {s : σ}
    (unknown : Keyed.find (stage.table s).handlers name = .ok none) :
    runOne stage name s = stage.unknown name s := by
  unfold runOne
  rw [Step.bind_eq_of_ok (Step.get_apply s), unknown]
  rfl

theorem takeEffect_sure (effect : ∀ b, Step.Sure (stage.effect b)) (name : Value) :
    Step.Sure (takeEffect stage name) := by
  refine Step.sure_get.bind fun s => ?_
  cases Keyed.get? (stage.table s).builtins name with
  | none => exact Step.sure_pure ()
  | some b => exact effect b

section Keeps

variable {S : σ → σ → Prop} (frame : Step.Frame S)
  (unknown : ∀ name, Step.Keeps S (stage.unknown name))
  (handle : ∀ name h, Step.Keeps S (stage.handle name h))
  (effect : ∀ b, Step.Keeps S (stage.effect b))

include frame effect

theorem takeEffect_keeps (name : Value) : Step.Keeps S (takeEffect stage name) := by
  refine Step.Keeps.bind frame (Step.keeps_get frame) fun s => ?_
  cases Keyed.get? (stage.table s).builtins name with
  | none => exact Step.keeps_pure frame ()
  | some e => exact effect e

include unknown handle

/-- What unknown names, handlers and effects keep is kept when a command is run. -/
theorem runOne_keeps (name : Value) : Step.Keeps S (runOne stage name) := by
  intro s
  cases hfind : Keyed.find (stage.table s).handlers name with
  | error f =>
    have hrun : runOne stage name s = (.error f, s) := by
      unfold runOne
      rw [Step.bind_eq_of_ok (Step.get_apply s), hfind]
      rfl
    rw [hrun]
    exact frame.refl s
  | ok found =>
    cases found with
    | none =>
      rw [runOne_of_none hfind]
      exact unknown name s
    | some handler? =>
      rw [runOne_known hfind]
      refine Step.Keeps.bind frame ?_ (fun _ => takeEffect_keeps frame effect name) s
      cases handler? with
      | none => exact Step.keeps_pure frame ()
      | some h => exact handle name h

end Keeps

/-! ## What commands announce -/

/-- What a command announces by itself. -/
def announces? (c : Commands η Bool) (name : String) : Option Bool :=
  Keyed.get? c.builtins (.text name)

/-- Is more announced to come after these commands, if this was announced before them?  The last of
them that says so decides. -/
def promptAfter (c : Commands η Bool) (names : List String) (prompt : Value) : Value :=
  (names.filterMap c.announces?).getLast?.elim prompt .flag

theorem promptAfter_cons (c : Commands η Bool) (name : String) (rest : List String)
    (prompt : Value) :
    c.promptAfter (name :: rest) prompt =
      c.promptAfter rest ((c.announces? name).elim prompt .flag) := by
  unfold promptAfter
  cases hname : c.announces? name with
  | none => rw [List.filterMap_cons_none hname]; rfl
  | some b =>
    rw [List.filterMap_cons_some hname, List.getLast?_cons]
    cases (rest.filterMap c.announces?).getLast? <;> rfl

end Commands

namespace Session

/-- The session when commands have taken the effects that they have by themselves. -/
def promptedAll (names : List String) (s : Session K) : Session K :=
  { s with settings := { s.settings with
    prompt := s.commands.promptAfter names s.settings.prompt } }

theorem promptedAll_cons (name : String) (rest : List String) (s : Session K) :
    s.promptedAll (name :: rest) = (s.promptedAll [name]).promptedAll rest := by
  unfold promptedAll
  rw [Commands.promptAfter_cons, Commands.promptAfter_cons]
  rfl

end Session

/-- The effect that a command takes by itself cannot fail, and is on what is announced. -/
theorem Playing.takeEffect_eq (p : Playing K) (name : String) (h : Host K) :
    Commands.takeEffect p.stage (.text name) h =
      (.ok (), h.onSession (Session.promptedAll [name])) := by
  have heffect : Commands.takeEffect p.stage (.text name) h =
      ((h.session.commands.announces? name).elim (pure ()) p.stage.effect) h := rfl
  rw [heffect]
  unfold Host.onSession Session.promptedAll
  rw [Commands.promptAfter_cons]
  cases h.session.commands.announces? name <;> rfl

/-! ## Requests in parts -/

theorem Playhead.quiet_reportsOfStart (label : Value) (found : Bool) :
    Quiet (reportsOfStart label found) := by
  cases found <;> simp [Quiet, reportsOfStart, Report.skips]

/-- Does this request turn to the bus, to the surface or to the handlers of the host itself? -/
def Request.isDirect : Request K → Bool
  | .registerCommand .. | .subscribe .. | .unsubscribe .. | .consume | .ask _ | .showText .. => true
  | .attempt r => r.isDirect
  | _ => false

/-- Does this request go through the script, or say a statement or clear the surface, or does it leave
the session alone? -/
def Request.isOnward : Request K → Bool
  | .defineLabels _ | .loadSequence .. | .takeScript .. | .startLabel .. | .advance | .say _ | .clear
  | .reset => true
  | .attempt r => r.isOnward
  | r => r.isOutside

namespace Onward

variable {p : Playing K} (onward : Onward p R)

include onward

theorem onPlayhead {α : Type} (f : Playhead → Except Fault α × Playhead) :
    Step.Keeps R (Act.onPart (K := K) Session.playhead (fun playhead s => { s with playhead }) f) :=
  Act.onPart_keeps fun h => onward.playhead _ h

theorem advance : Step.Keeps R p.advance := by
  unfold Playing.advance
  refine onward.bind onward.get fun h => ?_
  split
  · exact onward.pure _
  · refine onward.bind onward.cleared fun _ => ?_
    refine onward.bind onward.get fun k => ?_
    refine onward.bind (onward.told _ rfl) fun _ => ?_
    exact onward.pure _
  · refine onward.bind onward.cleared fun _ => ?_
    refine onward.bind (onward.onPlayhead _) fun statement => ?_
    refine onward.bind (onward.said statement) fun _ => ?_
    exact onward.pure _

theorem advanceIf (wanted : Bool) : Step.Keeps R (p.advanceIf wanted) := by
  cases wanted with
  | false => exact onward.pure _
  | true => exact onward.bind onward.advance fun _ => onward.pure _

theorem loadSequence (statements : Value) (advance : Bool) :
    Step.Keeps R (p.loadSequence statements advance) := by
  refine onward.bind (onward.onPlayhead _) fun _ => ?_
  cases statements.length? with
  | none => exact onward.throw _
  | some length =>
    refine onward.bind (onward.told _ rfl) fun _ => ?_
    exact onward.advanceIf advance

theorem takeScript (script : Value) (advance : Bool) :
    Step.Keeps R (p.takeScript script advance) := by
  unfold Playing.takeScript
  split
  · exact onward.onPlayhead _
  · exact onward.loadSequence _ advance
  · exact onward.throw _

theorem startLabel (label : Value) (advance : Bool) :
    Step.Keeps R (p.startLabel label advance) := by
  refine onward.bind (onward.onPlayhead _) fun found => ?_
  refine onward.bind (onward.reports (Playhead.quiet_reportsOfStart label found)) fun _ => ?_
  refine onward.bind (onward.told _ rfl) fun _ => ?_
  exact onward.advanceIf advance

/-- What registering the characters of a library keeps, installing it keeps. -/
theorem install {library : Library} (advance : Bool)
    (registered : Step.Keeps R (Playing.registerCharacters (K := K)
      (library.characters.map fun e => (e.1, .fields e.2)))) :
    Step.Keeps R (p.install library advance) := by
  refine onward.bind registered fun _ => ?_
  refine onward.bind (onward.onPlayhead _) fun _ => ?_
  split
  · exact onward.loadSequence _ advance
  · exact onward.pure _

/-- **What the parts of going through a script keep, the requests keep that do so**, and those that leave
the session alone. -/
theorem carryOut {r : Request K} (goes : r.isOnward = true) : Step.Keeps R (p.carryOut r) := by
  induction r with
  | defineLabels labels => exact onward.bind (onward.onPlayhead _) fun _ => onward.pure _
  | loadSequence statements advance =>
    exact onward.bind (onward.loadSequence _ _) fun _ => onward.pure _
  | takeScript script advance =>
    exact onward.bind (onward.takeScript _ _) fun _ => onward.pure _
  | startLabel label advance =>
    exact onward.bind (onward.startLabel _ _) fun _ => onward.pure _
  | advance => exact onward.bind onward.advance fun _ => onward.pure _
  | say statement => exact onward.bind (onward.said _) fun _ => onward.pure _
  | clear => exact onward.bind onward.cleared fun _ => onward.pure _
  | reset =>
    refine onward.bind (Step.keeps_modify fun h => ?_) fun _ => onward.pure _
    exact onward.playhead _ h
  | attempt r ih => exact (ih goes).attempt _
  | _ => exact onward.toApart.carryOut p goes

end Onward

namespace Telling

variable {p : Playing K} (telling : Telling p R)

include telling

theorem onward : Onward p R where
  toApart := telling.toApart
  playhead := telling.playhead
  cleared := telling.cleared
  told := telling.told
  said := telling.said

/-- **What the parts of going on keep is kept by every request but those that turn to the bus, to the
surface or to the handlers themselves**, if what is configured keeps it. -/
theorem carryOut {r : Request K} (indirect : r.isDirect = false)
    (configured : ∀ options, Step.Keeps R (Playing.configure (K := K) options)) :
    Step.Keeps R (p.carryOut r) := by
  induction r with
  | configure options =>
    exact telling.bind (configured options) fun _ => telling.pure _
  | registerCharacters entries =>
    exact telling.bind (telling.registerCharacters entries) fun _ => telling.pure _
  | nameCommand name =>
    exact telling.bind (telling.registerCommand name none (by simp)) fun _ => telling.pure _
  | parse statement => exact telling.bind (telling.parse _) fun _ => telling.pure _
  | install advance =>
    refine telling.bind telling.get fun _ => ?_
    refine telling.bind ?_ fun _ => telling.pure _
    exact telling.onward.install advance (telling.registerCharacters _)
  | attempt r ih => exact (ih indirect).attempt _
  | registerCommand | subscribe | unsubscribe | consume | ask | showText => cases indirect
  | _ => exact telling.onward.carryOut rfl

end Telling

namespace Saying

variable {p : Playing K} (saying : Saying p R)

include saying

theorem runOne (name : Value) : Step.Keeps R (Commands.runOne p.stage name) := by
  have hunknown : ∀ name, Step.Keeps R (p.stage.unknown name) :=
    fun name => Step.keeps_modify fun h => saying.skipped name h
  have heffect : ∀ b, Step.Keeps R (p.stage.effect b) :=
    fun b => Step.keeps_modify fun h => saying.prompted b h
  exact Commands.runOne_keeps saying.frame hunknown (fun name id => saying.handled id name)
    heffect name

theorem run (names : List Value) : Step.Keeps R (Commands.run p.stage names) := by
  induction names with
  | nil => exact saying.pure _
  | cons name rest ih => exact saying.bind (saying.runOne name) fun _ => ih

theorem execute (line : Line) : Step.Keeps R (p.execute line) := by
  unfold Playing.execute
  split
  · refine saying.bind (saying.run _) fun _ => ?_
    exact saying.told _ rfl
  · exact saying.pure _

/-- What the parts of saying a statement keep is kept when a statement is said. -/
theorem say (statement : Value) : Step.Keeps R (p.say statement) := by
  refine saying.bind (Act.onPart_keeps fun h => saying.drawn _ h) fun line => ?_
  refine saying.bind (saying.execute line) fun _ => ?_
  refine saying.bind (saying.displayed line) fun _ => ?_
  exact saying.pure line

end Saying

namespace Course

variable {p : Playing K} (course : Course p R)

include course

/-- What is kept when each change of the surface is told at once is kept when a statement is said as a
whole. -/
theorem telling : Telling p R where
  toWithin := course.toWithin
  cleared := course.cleared
  told := course.told
  said := course.say

/-- What the parts of going on keep is kept by every request that is not direct, if what is configured
keeps it. -/
theorem carryOut {r : Request K} (indirect : r.isDirect = false)
    (configured : ∀ options, Step.Keeps R (Playing.configure (K := K) options)) :
    Step.Keeps R (p.carryOut r) :=
  course.telling.carryOut indirect configured

end Course

namespace Showing

variable {p : Playing K} (showing : Showing p R)

include showing

theorem clear : Step.Keeps R p.clear := by
  refine showing.bind (Act.onPart_keeps fun h => showing.wiped h) fun _ => ?_
  refine showing.bind (fun h => showing.note rfl h) fun _ => ?_
  exact showing.told .cleared

theorem display (line : Line) : Step.Keeps R (p.display line) := by
  unfold Playing.display
  split
  · intro h
    refine showing.frame.bind_apply (showing.frame.refl h) fun options t hbox => ?_
    obtain ⟨hoptions, rfl⟩ := Prod.mk.inj hbox
    refine showing.frame.bind_apply (showing.render (showing.boxed _ _ _ _ h hoptions))
      fun _ t _ => ?_
    exact showing.told _ t
  · exact showing.pure _

end Showing

namespace Parts

variable {p : Playing K} (parts : Parts p R)

include parts

/-- What the parts of going on keep is kept when changes of the surface are told at once. -/
theorem course : Course p R where
  toWithin := parts.toWithin
  prompted _ h := parts.settings _ h
  cleared := parts.clear
  displayed := parts.display
  told notice _ := parts.told notice
  handled := parts.handled
  skipped := parts.skipped

/-- What the parts of going on keep is kept by every request that is not direct. -/
theorem carryOut {r : Request K} (indirect : r.isDirect = false) :
    Step.Keeps R (p.carryOut r) :=
  parts.course.carryOut indirect parts.configure

end Parts

/-! ## All requests -/

namespace Playing

section

variable (changes : Changes R)

include changes

theorem onPlayhead_keeps {α : Type} (f : Playhead → Except Fault α × Playhead) :
    Step.Keeps R (Act.onPart (K := K) Session.playhead (fun playhead s => { s with playhead }) f) :=
  changes.onPlayhead f

theorem showText_keeps (kind : DialogKind) (text options : Value) :
    Step.Keeps R (showText (K := K) kind text options) := by
  unfold showText
  split
  · refine changes.bind changes.get fun h => ?_
    refine changes.bind (fun h => changes.render (changes.surface _ h)) fun handle => ?_
    exact changes.pure _
  · exact changes.pure _

theorem subscribe_keeps (signal : Signal) (title : Value) (calls : List (List (Request K)))
    (priority : Value) (oneShot : Bool) :
    Step.Keeps R (subscribe signal title calls priority oneShot) := by
  unfold subscribe
  cases title.keyFault? with
  | some f => exact changes.throw f
  | none =>
    refine changes.bind changes.get fun h => ?_
    refine changes.bind (Step.keeps_modify fun h => changes.handlers _ h) fun _ => ?_
    refine changes.bind changes.get fun h => ?_
    refine changes.bind (changes.of _) fun b => ?_
    exact Step.keeps_modify fun h => changes.bus b h

theorem unsubscribe_keeps (signal : Signal) (title : Value) :
    Step.Keeps R (unsubscribe (K := K) signal title) := by
  unfold unsubscribe
  cases title.keyFault? with
  | some f => exact changes.throw f
  | none =>
    refine changes.bind changes.get fun h => ?_
    cases h.latest? title with
    | none => exact changes.throw _
    | some id => exact Step.keeps_modify fun h => changes.bus _ h

variable {p : Playing K} (react : ∀ id occasion, Step.Keeps R (p.react id occasion))

include react

/-- What the changes keep is kept across going on, if it is kept across what handlers do. -/
theorem telling_of_changes : Telling p R where
  toWithin := changes.toWithin
  cleared := (changes.showing changes.bus changes.surface react).clear
  told notice _ := (changes.showing changes.bus changes.surface react).told notice
  said := changes.said p react

theorem clear_keeps : Step.Keeps R p.clear :=
  (telling_of_changes changes react).cleared

/-- **What the changes of a host keep, and its handlers, is kept by every request.** -/
theorem carryOut_keeps (r : Request K) : Step.Keeps R (p.carryOut r) := by
  induction r with
  | registerCommand name calls =>
    refine changes.bind (changes.registerCommand name _ ?_) fun _ => changes.pure _
    exact fun handler _ h => changes.handlers _ h
  | subscribe signal title calls priority oneShot =>
    exact changes.bind (subscribe_keeps changes _ _ _ _ _) fun _ => changes.pure _
  | unsubscribe signal title =>
    exact changes.bind (unsubscribe_keeps changes _ _) fun _ => changes.pure _
  | consume =>
    refine changes.bind (Step.keeps_modify fun h => ?_) fun _ => changes.pure _
    exact changes.bus _ h
  | ask r =>
    refine changes.bind changes.get fun h => ?_
    rcases K.answer r h.session.surface with ⟨⟨result, surface⟩, marks⟩
    have hmarks : ∀ o ∈ marks.map (Occurrence.marked (K := K)), o.weighs = false :=
      List.forall_mem_map.mpr fun _ _ => rfl
    refine changes.bind (Step.keeps_modify fun h => changes.surface surface h) fun _ => ?_
    refine changes.bind (Step.keeps_modify fun h => changes.journal _ h hmarks) fun _ => ?_
    exact changes.bind (changes.of result) fun _ => changes.pure _
  | showText kind text options =>
    exact changes.bind (showText_keeps changes _ _ _) fun _ => changes.pure _
  | attempt r ih => exact ih.attempt _
  | _ =>
    exact (telling_of_changes changes react).carryOut rfl changes.configure

theorem carryOutAll_keeps (requests : List (Request K)) :
    Step.Keeps R (p.carryOutAll requests) := by
  induction requests with
  | nil => exact changes.pure ()
  | cons r rest ih =>
    intro h
    have hcarried := carryOut_keeps changes react r h
    cases carried : p.carryOut r h with
    | mk result m =>
      rw [carried] at hcarried
      cases result with
      | error f =>
        rw [carryOutAll, Step.bind_eq_of_error carried]
        exact hcarried
      | ok reply =>
        rw [carryOutAll, Step.bind_eq_of_ok carried]
        cases isAnswered r with
        | false => exact changes.frame.trans hcarried (ih m)
        | true =>
          have hnoted := changes.answered p r h reply m carried hcarried
          exact changes.frame.trans hnoted (ih (m.note (.replied reply)))

omit react in
/-- **What the changes of a host keep, its handlers keep at any depth of calls.** -/
theorem reactWithin_keeps (n : Nat) (id : HandlerId) (occasion : Occasion K) :
    Step.Keeps R (reactWithin n id occasion) := by
  -- a handler with calls to spare carries out its requests with handlers that have one call fewer
  induction n generalizing id occasion with
  | zero => exact changes.pure ()
  | succ n ih =>
    unfold reactWithin
    refine changes.bind changes.get fun h => ?_
    split
    · exact changes.pure ()
    · exact changes.pure ()
    · exact changes.note rfl
    · exact changes.report rfl
    · refine changes.bind (changes.note (occurrenceOf_weighs _ _)) fun _ => ?_
      refine changes.bind ?_ fun requests => carryOutAll_keeps changes ih requests
      intro h
      show R h (h.takeCall id).2
      unfold Host.takeCall
      split
      · exact changes.handlers _ h
      · exact changes.frame.refl h

end

end Playing

namespace Host

/-- The host after it performed requests, whether they failed or not. -/
def performAll (requests : List (Request K)) (h : Host K) : Host K :=
  requests.foldl (fun h r => (perform r h).2) h

theorem perform_keeps (changes : Changes R) (r : Request K) : Step.Keeps R (perform r) := by
  intro h
  have hreact := Playing.reactWithin_keeps changes (h.depth r)
  exact Playing.carryOut_keeps (p := Playing.within (h.depth r)) changes hreact r h

theorem performAll_keeps (changes : Changes R) (requests : List (Request K)) (h : Host K) :
    R h (performAll requests h) := by
  induction requests generalizing h with
  | nil => exact changes.frame.refl h
  | cons r rest ih => exact changes.frame.trans (perform_keeps changes r h) (ih _)

end Host

end Dialogue
