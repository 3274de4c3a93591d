import Dialogue.Proofs.Bus.Watching
import Dialogue.Proofs.Session.Resting
import Dialogue.Proofs.Session.Sights

/-!
# Notices mirror the board

An observer sees every event of its session before any other handler does.  While nobody else waits
with a higher priority, the notices of the board that it saw, and those that still wait, are those of
what became of the board, one for one and in order.  What becomes of the board is told at once, and
what is told waits in the queue; so this holds at any depth of calls.

## Results

* `Playing.deliver_poised`, `Playing.settle_poised` — deliveries keep the board mirrored, as the
  observer comes first.
* `Playing.publish_fit` — so does publishing what became of the board.
-/

set_option autoImplicit false

namespace Dialogue

/-! ## Mirrored boards -/

/-- A notice tells of what is seen of a board: it was cleared, or a line was put into a box.  The notice
has the whole line that the surface was handed, and the handle of the box. -/
inductive Mirrors : Sight → Notice Nat → Prop where
  | cleared : Mirrors .cleared .cleared
  | boxed (line : Line) (handle : Nat) :
    Mirrors (.boxed handle line.intent) (.displayed line handle)

/-- What is seen of a board is told by one notice only: a notice with any other line tells of something
else. -/
theorem Mirrors.unique {seen : Sight} {notice other : Notice Nat} (mirrors : Mirrors seen notice)
    (also : Mirrors seen other) : notice = other := by
  cases mirrors with
  | cleared =>
    cases also
    rfl
  | boxed line handle =>
    generalize hintent : line.intent = intent at also
    cases also with
    | boxed next => rw [Line.eq_of_intent hintent]

/-- The priority of an observer. -/
def observerPriority : Value :=
  .int 1000000

/-- Does this request leave the observer before all others that wait? -/
def Request.isModest {K : Surface} : Request K → Bool
  | .subscribe _ _ _ priority _ =>
    match priority.exceeds observerPriority with
    | .ok true => false
    | _ => true
  | _ => true

theorem not_exceeds_of_isModest {K : Surface} {signal : Signal} {title priority : Value}
    {calls : List (List (Request K))} {oneShot : Bool}
    (h : (Request.subscribe signal title calls priority oneShot).isModest = true) :
    priority.exceeds observerPriority ≠ .ok true := by
  intro exceeds
  unfold Request.isModest at h
  simp only [exceeds] at h
  cases h

namespace Host

/-- The notices of the board that the observer saw, those that wait, and those that are to be told yet
mirror what became of the board. -/
structure Mirrored (debt : List (Notice Nat)) (h : Host .board) : Prop where
  run : ∃ trace, Bus.Run {} trace h.session.bus
  watched : Bus.Watched 0 observerPriority h.session.bus
  observer : h.handlers[0]? = some .observer
  alone : ∀ id, h.handlers[id]? = some .observer → id = 0
  modest : ∀ handler ∈ h.handlers, handler.every Request.isModest = true
  boxes : ∀ o ∈ h.journal, ∀ n, o.box? = some n → n ≤ h.session.surface.history.length
  mirror : List.Forall₂ Mirrors (sights h.journal) (tidings h.journal ++
    (h.session.bus.queue.map Event.data ++ debt).filter Notice.tellsSurface)

variable {h k : Host .board} {debt : List (Notice Nat)}

theorem Mirrored.of_eq (mirrored : Mirrored debt h) (bus : k.session.bus = h.session.bus)
    (handlers : k.handlers = h.handlers) (journal : k.journal = h.journal)
    (boxes : h.session.surface.history.length ≤ k.session.surface.history.length) :
    Mirrored debt k := by
  obtain ⟨run, watched, observer, alone, modest, hboxes, mirror⟩ := mirrored
  rw [← bus] at run watched mirror
  rw [← handlers] at observer alone modest
  rw [← journal] at hboxes mirror
  exact ⟨run, watched, observer, alone, modest,
    fun o ho n hn => Nat.le_trans (hboxes o ho n hn) boxes, mirror⟩

/-- What tells nothing of the board may be written into the journal. -/
theorem Mirrored.journal (mirrored : Mirrored debt h) {more : List (Occurrence .board)}
    (silent : ∀ o ∈ more, o.Silent) : Mirrored debt { h with journal := h.journal ++ more } := by
  refine { mirrored with boxes := fun o ho n hn => ?_, mirror := ?_ }
  · rcases List.mem_append.mp ho with ho | ho
    · exact mirrored.boxes o ho n hn
    · rw [(silent o ho).box] at hn
      cases hn
  · show List.Forall₂ Mirrors (sights (h.journal ++ more)) (tidings (h.journal ++ more) ++ _)
    rw [sights_silent silent, tidings_silent silent]
    exact mirrored.mirror

theorem Mirrored.note (mirrored : Mirrored debt h) {o : Occurrence .board} (silent : o.Silent) :
    Mirrored debt (h.note o) := by
  refine mirrored.journal fun other ho => ?_
  rw [List.mem_singleton.mp ho]
  exact silent

/-- A deed that respects the observer and publishes nothing keeps the board mirrored. -/
theorem Mirrored.deed (mirrored : Mirrored debt h) {d : Bus.Deed HandlerId (Notice Nat)}
    {b : Bus HandlerId (Notice Nat)} (result : d.result h.session.bus = .ok b)
    (respects : d.Respects 0 observerPriority) (quiet : d.event? h.session.bus = none) :
    Mirrored debt (h.onSession fun s => { s with bus := b }) := by
  obtain ⟨trace, run⟩ := mirrored.run
  have hqueue : b.queue = h.session.bus.queue := by
    rw [(d.result_spec result).2.2, quiet]
    exact List.append_nil _
  refine { mirrored with
    run := ⟨_, run.snoc (.deed result)⟩
    watched := d.watched result respects mirrored.watched
    mirror := ?_ }
  show List.Forall₂ Mirrors _ (_ ++ (b.queue.map Event.data ++ debt).filter _)
  rw [hqueue]
  exact mirrored.mirror

/-- What is to be told waits once it was published. -/
theorem Mirrored.publish {notice : Notice Nat} (mirrored : Mirrored (notice :: debt) h) :
    Mirrored debt (site.withBus (h.session.bus.publish notice.signal notice).2 h) := by
  obtain ⟨trace, run⟩ := mirrored.run
  have hresult : (Bus.Deed.publish notice.signal notice).result h.session.bus =
      .ok (h.session.bus.publish notice.signal notice).2 := rfl
  refine { mirrored with
    run := ⟨_, run.snoc (.deed hresult)⟩
    watched := Bus.Deed.watched hresult trivial mirrored.watched
    mirror := ?_ }
  have hwaiting : (h.session.bus.publish notice.signal notice).2.queue.map Event.data ++ debt =
      h.session.bus.queue.map Event.data ++ notice :: debt := by
    simp [Bus.publish]
  show List.Forall₂ Mirrors _
    (_ ++ ((h.session.bus.publish notice.signal notice).2.queue.map Event.data ++ debt).filter _)
  rw [hwaiting]
  exact mirrored.mirror

theorem Mirrored.addHandler (mirrored : Mirrored debt h) (title? : Option Value)
    {calls : List (List (Request .board))} (modest : everyCall Request.isModest calls = true) :
    Mirrored debt (h.addHandler (.held title? calls)) := by
  refine { mirrored with observer := ?_, alone := fun id hid => ?_, modest := fun each hm => ?_ }
  · exact List.getElem?_append_left (List.getElem?_eq_some_iff.mp mirrored.observer).1 ▸
      mirrored.observer
  · have hid : (h.handlers ++ [.held title? calls])[id]? = some .observer := hid
    rw [List.getElem?_append] at hid
    split at hid
    · exact mirrored.alone id hid
    · cases List.mem_singleton.mp (List.mem_of_getElem? hid)
  · rcases List.mem_append.mp hm with hm | hm
    · exact mirrored.modest each hm
    · rw [List.mem_singleton.mp hm]
      exact modest

theorem Mirrored.takeCall (mirrored : Mirrored debt h) (id : HandlerId) :
    Mirrored debt (h.takeCall id).2 := by
  have hevery := (takeCall_every id mirrored.modest).2
  rcases takeCall_cases id h with hnone | ⟨title?, next, rest, hid, hsome⟩
  · rw [hnone]
    exact mirrored
  · rw [hsome] at hevery ⊢
    have hother : id ≠ 0 := by
      rintro rfl
      rw [mirrored.observer] at hid
      cases hid
    refine { mirrored with observer := ?_, alone := fun other hat => ?_, modest := hevery }
    · exact (List.getElem?_set_ne hother).trans mirrored.observer
    · have hat : (h.handlers.set id (.held title? rest))[other]? = some .observer := hat
      by_cases heq : id = other
      · subst heq
        have hheld := List.mem_of_getElem? hat
        rw [List.getElem?_set_self (List.getElem?_eq_some_iff.mp hid).1] at hat
        cases hat
      · rw [List.getElem?_set_ne heq] at hat
        exact mirrored.alone other hat

/-! ## Deliveries -/

theorem Mirrored.called (mirrored : Mirrored debt h) {d : Delivery HandlerId (Notice Nat)}
    {s : Subscription HandlerId} {c : Bus HandlerId (Notice Nat)}
    (running : h.session.bus.running? = some d) (next : h.session.bus.callNext = (some s, c)) :
    s.handler ≠ 0 ∧ Mirrored debt (site.withBus c h) := by
  obtain ⟨trace, run⟩ := mirrored.run
  obtain ⟨hother, hwatched⟩ := mirrored.watched.callNext_some run.orderly running next
  have hqueue : c.queue = h.session.bus.queue := by
    obtain ⟨_, _, -, -, -, rfl⟩ := Bus.callNext_some running next
    rfl
  refine ⟨hother, { mirrored with
    run := ⟨_, run.snoc (.called running next)⟩, watched := hwatched, mirror := ?_ }⟩
  show List.Forall₂ Mirrors _ (_ ++ (c.queue.map Event.data ++ debt).filter _)
  rw [hqueue]
  exact mirrored.mirror

theorem Mirrored.ended (mirrored : Mirrored debt h) {d : Delivery HandlerId (Notice Nat)}
    {c : Bus HandlerId (Notice Nat)} (running : h.session.bus.running? = some d)
    (none : h.session.bus.callNext = (none, c)) : Mirrored debt (site.withBus c.finish h) := by
  obtain ⟨trace, run⟩ := mirrored.run
  have hwatched := (mirrored.watched.callNext_none run.orderly running none).finish
  have hqueue : c.finish.queue = h.session.bus.queue := by
    obtain ⟨spent, -, hfinish⟩ := Bus.callNext_none_finish running none
    rw [hfinish]
    rfl
  refine { mirrored with
    run := ⟨_, run.snoc (.ended running none)⟩, watched := hwatched, mirror := ?_ }
  show List.Forall₂ Mirrors _ (_ ++ (c.finish.queue.map Event.data ++ debt).filter _)
  rw [hqueue]
  exact mirrored.mirror

/-- **The delivery of an event begins with the observer**, and a host whose observer has written the
event down is mirrored as it was before. -/
theorem Mirrored.begun (mirrored : Mirrored debt h) {e : Event (Notice Nat)}
    {rest : List (Event (Notice Nat))} (idle : h.session.bus.running? = none)
    (waiting : h.session.bus.queue = e :: rest) :
    ∃ d s c x, h.session.bus.start.running? = some d ∧ d.event = e ∧
      h.session.bus.start.callNext = (some s, c) ∧ s.handler = 0 ∧ c.running? = some x ∧
      x.event = e ∧ d.pending.length = x.pending.length + 1 ∧
      Mirrored debt ((site.withBus c h).note (.observed e.data)) := by
  obtain ⟨trace, run⟩ := mirrored.run
  obtain ⟨hsomebody, d, s, c, hd, hevent, hnext, hs, hwatched, hqueue, x, hx, hxevent, hlength⟩ :=
    mirrored.watched.start idle waiting
  refine ⟨d, s, c, x, hd, hevent, hnext, hs, hx, hxevent, hlength.symm, ?_⟩
  have hrun := (run.snoc (.begun idle waiting hsomebody)).snoc (.called hd hnext)
  refine { mirrored with
    run := ⟨_, hrun⟩, watched := hwatched, boxes := fun o ho n hn => ?_, mirror := ?_ }
  · rcases List.mem_append.mp ho with ho | ho
    · exact mirrored.boxes o ho n hn
    · rw [List.mem_singleton.mp ho] at hn
      cases hn
  · have hsights : sights (h.journal ++ [.observed e.data]) = sights h.journal := by
      rw [sights_snoc rfl]
      exact List.append_nil _
    have htidings : tidings (h.journal ++ [.observed e.data]) =
        tidings h.journal ++ [e.data].filter Notice.tellsSurface := by
      rw [tidings_append]
      cases htells : e.data.tellsSurface <;> simp [tidings, Occurrence.tiding?, htells]
    have hmirror := mirrored.mirror
    rw [waiting] at hmirror
    show List.Forall₂ Mirrors (sights (h.journal ++ [.observed e.data]))
      (tidings (h.journal ++ [.observed e.data]) ++ (c.queue.map Event.data ++ debt).filter _)
    rw [hsights, htidings, hqueue, List.append_assoc, ← List.filter_append]
    exact hmirror

/-- The board is mirrored, and the lists that are held, and so many more, are fewer than the calls to
spare. -/
structure Poised (calls extra : Nat) (h : Host .board) : Prop where
  lists : heldLists h.handlers + extra < calls
  mirrored : Mirrored [] h

/-- A bus is at rest, or else an event is being delivered on it. -/
structure Stands (resting : Bool) (b : Bus HandlerId (Notice Nat)) : Prop where
  rests : resting = true → b.AtRest
  busy : resting = false → b.running? ≠ none

/-- A host that is poised, with its bus at rest or busy. -/
structure Fit (resting : Bool) (calls extra : Nat) (h : Host .board) : Prop
    extends Poised calls extra h where
  stands : Stands resting h.session.bus

variable {resting : Bool} {m extra rounds : Nat}

theorem stands_busy {b : Bus HandlerId (Notice Nat)} (busy : b.running? ≠ none) : Stands false b :=
  ⟨nofun, fun _ => busy⟩

/-- A bus stands as before while the same event is being delivered and the same events wait. -/
theorem Stands.of_eq {b c : Bus HandlerId (Notice Nat)} (stands : Stands resting b)
    (running : c.running? = b.running?) (queue : c.queue = b.queue) : Stands resting c where
  rests heq := ⟨running.trans (stands.rests heq).idle, queue.trans (stands.rests heq).nothing⟩
  busy heq := running.symm ▸ stands.busy heq

theorem Fit.of_eq (fit : Fit resting m extra h) (bus : k.session.bus = h.session.bus)
    (handlers : k.handlers = h.handlers) (journal : k.journal = h.journal)
    (boxes : h.session.surface.history.length ≤ k.session.surface.history.length) :
    Fit resting m extra k := by
  refine ⟨⟨?_, fit.mirrored.of_eq bus handlers journal boxes⟩, ?_⟩
  · rw [handlers]
    exact fit.lists
  · rw [bus]
    exact fit.stands

theorem Fit.journal (fit : Fit resting m extra h) {more : List (Occurrence .board)}
    (silent : ∀ o ∈ more, o.Silent) :
    Fit resting m extra { h with journal := h.journal ++ more } :=
  ⟨⟨fit.lists, fit.mirrored.journal silent⟩, fit.stands⟩

theorem Fit.note (fit : Fit resting m extra h) {o : Occurrence .board} (silent : o.Silent) :
    Fit resting m extra (h.note o) :=
  ⟨⟨fit.lists, fit.mirrored.note silent⟩, fit.stands⟩

theorem Fit.mono {n more : Nat} (fit : Fit resting m extra h) (calls : m ≤ n)
    (less : more ≤ extra) : Fit resting n more h := by
  have hlists := fit.lists
  exact ⟨⟨by omega, fit.mirrored⟩, fit.stands⟩

end Host

namespace Playing

open Host

/-- Handlers with so many calls to spare keep a host fit, if none of them is the observer being told of
an event. -/
def KeepFit (m : Nat) : Prop :=
  ∀ resting extra id occasion h, (id = 0 → ∃ name, occasion = .command name) →
    Fit resting m extra h → Fit resting m extra (reactWithin m id occasion h).2

variable {resting : Bool} {m extra rounds : Nat} {h k : Host .board}

theorem tell_fit (keep : KeepFit m) (rounds : Nat) {id : HandlerId} (other : id ≠ 0)
    (event : Event (Notice Nat)) (fit : Fit resting m extra h) :
    Fit resting m extra ((bounded m rounds).tell id event h).2 := by
  have hreact := keep resting extra id (.event event.data) h (fun heq => absurd heq other) fit
  unfold tell
  simp only [Step.state_bind, ExceptT.run]
  cases hr : reactWithin m id (.event event.data) h with
  | mk result k =>
    rw [hr] at hreact
    cases result with
    | ok u => exact hreact
    | error f => exact hreact.note (Occurrence.silent_reported _)

/-- The observer writes down what it is told. -/
theorem tell_observer (m rounds : Nat) (observer : h.handlers[0]? = some .observer)
    (event : Event (Notice Nat)) :
    ((bounded (m + 1) rounds).tell 0 event h).2 = h.note (.observed event.data) := by
  have hreact : reactWithin (m + 1) 0 (.event event.data) h =
      (.ok (), h.note (.observed event.data)) := by
    unfold reactWithin
    rw [Step.bind_eq_of_ok (Step.get_apply h), observer]
    rfl
  unfold tell
  simp only [Step.state_bind, ExceptT.run, hreact]
  rfl

/-- Serving leads to a host that is poised and has nobody left to call. -/
theorem serve_poised (keep : KeepFit m) (rounds n : Nat) {d : Delivery HandlerId (Notice Nat)}
    (poised : Poised m extra h) (running : h.session.bus.running? = some d)
    (enough : d.pending.length ≤ n) :
    ∃ k x c, Poised m extra k ∧ k.session.bus.running? = some x ∧
      k.session.bus.callNext = (none, c) ∧
      (site.serve (bounded m rounds).tell d.event n h).2 = site.withBus c k := by
  -- every call takes somebody off the pending ones, so as many calls as they are are enough
  induction n generalizing h d with
  | zero =>
    have hnil : d.pending = [] := List.length_eq_zero_iff.mp (Nat.le_zero.mp enough)
    exact ⟨h, d, h.session.bus, poised, running, Bus.callNext_of_pending_nil running hnil, rfl⟩
  | succ n ih =>
    cases hnext : h.session.bus.callNext with
    | mk next b =>
      cases next with
      | none =>
        rw [Bus.Site.serve_none hnext]
        exact ⟨h, d, b, poised, running, hnext, rfl⟩
      | some sub =>
        rw [Bus.Site.serve_some hnext]
        obtain ⟨hother, hcalled⟩ := poised.mirrored.called running hnext
        obtain ⟨x, hx, hevent, hless⟩ : ∃ x, b.running? = some x ∧ x.event = d.event ∧
            x.pending.length ≤ n := by
          obtain ⟨dead, later, hp, -, -, rfl⟩ := Bus.callNext_some running hnext
          rw [hp, List.length_append, List.length_cons] at enough
          exact ⟨_, rfl, rfl, by show later.length ≤ n; omega⟩
        have hbusy : (site.withBus b h).session.bus.running? ≠ none := by
          show b.running? ≠ none
          rw [hx]
          exact Option.some_ne_none x
        have hfit : Fit false m extra (site.withBus b h) :=
          ⟨⟨poised.lists, hcalled⟩, stands_busy hbusy⟩
        have htold := tell_fit keep rounds hother d.event hfit
        obtain ⟨signs, hdoes⟩ :=
          (tell_tends m rounds sub.handler d.event (site.withBus b h)).deeds hbusy
        have hrest := ih htold.toPoised (hdoes.running.trans hx) hless
        rw [hevent] at hrest
        exact hrest

/-- **To deliver an event keeps a host poised**, as the observer comes first. -/
theorem deliver_poised (keep : KeepFit m) (rounds : Nat) (poised : Poised m extra h)
    (idle : h.session.bus.running? = none) :
    Poised m extra (site.deliver (bounded m rounds).tell h).2 ∧
      (site.deliver (bounded m rounds).tell h).2.session.bus.running? = none := by
  cases waiting : h.session.bus.queue with
  | nil =>
    have hstart : h.session.bus.start = h.session.bus := by
      unfold Bus.start
      rw [idle, waiting]
    have hidle : (site.bus (site.withBus h.session.bus.start h)).running? = none := by
      rw [hstart]
      exact idle
    have hdeliver : (site.deliver (bounded m rounds).tell h).2 = h := by
      refine (Bus.Site.deliver_none hidle).trans ?_
      show site.withBus h.session.bus.start h = h
      rw [hstart]
      rfl
    rw [hdeliver]
    exact ⟨poised, idle⟩
  | cons e rest =>
    obtain ⟨d, s, c, x, hd, hevent, hnext, hs, hx, hxevent, hlength, hbegun⟩ :=
      poised.mirrored.begun idle waiting
    obtain ⟨n, rfl⟩ : ∃ n, m = n + 1 := Nat.exists_eq_succ_of_ne_zero (by
      have hlists := poised.lists
      omega)
    -- the first call goes to the observer
    have hobserver : (site.withBus c h).handlers[0]? = some .observer := poised.mirrored.observer
    have hfirst := tell_observer n rounds hobserver e
    have hserve : (site.serve (bounded (n + 1) rounds).tell d.event d.pending.length
        (site.withBus h.session.bus.start h)).2 =
        (site.serve (bounded (n + 1) rounds).tell x.event x.pending.length
          ((site.withBus c h).note (.observed e.data))).2 := by
      rw [hlength, hevent, hxevent]
      refine (Bus.Site.serve_some hnext).trans ?_
      rw [hs]
      exact congrArg (fun k => (site.serve _ e x.pending.length k).2) hfirst
    obtain ⟨k, y, b, hpoised, hy, hnone, hserved⟩ := serve_poised keep rounds
      x.pending.length (h := (site.withBus c h).note (.observed e.data))
      ⟨poised.lists, hbegun⟩ hx (Nat.le_refl _)
    have hdeliver : (site.deliver (bounded (n + 1) rounds).tell h).2 = site.withBus b.finish k :=
      (Bus.Site.deliver_some hd).trans
        (congrArg (fun t => site.withBus (site.bus t).finish t) (hserve.trans hserved))
    rw [hdeliver]
    refine ⟨⟨hpoised.lists, hpoised.mirrored.ended hy hnone⟩, ?_⟩
    obtain ⟨spent, -, hfinish⟩ := Bus.callNext_none_finish hy hnone
    show b.finish.running? = none
    rw [hfinish]
    rfl

theorem deliverMany_poised (keep : KeepFit m) (rounds n : Nat) (poised : Poised m extra h)
    (idle : h.session.bus.running? = none) :
    Poised m extra (site.deliverMany (bounded m rounds).tell n h).2 ∧
      (site.deliverMany (bounded m rounds).tell n h).2.session.bus.running? = none := by
  induction n generalizing h with
  | zero => exact ⟨poised, idle⟩
  | succ n ih =>
    obtain ⟨hfirst, hidle⟩ := deliver_poised keep rounds poised idle
    exact ih hfirst hidle

theorem settle_poised (keep : KeepFit m) (n : Nat) (poised : Poised m extra h)
    (idle : h.session.bus.running? = none) :
    Poised m extra (site.settle (bounded m rounds).tell n h).2 := by
  induction n generalizing h with
  | zero => exact poised
  | succ n ih =>
    cases waiting : (site.bus h).queue with
    | nil =>
      rw [Bus.Site.settle_nil waiting]
      exact poised
    | cons e rest =>
      rw [Bus.Site.settle_cons waiting]
      obtain ⟨hround, hidle⟩ :=
        deliverMany_poised keep rounds (e :: rest).length poised idle
      exact ih hround hidle

/-- **To publish what is to be told makes a host fit**, if there are as many rounds as calls. -/
theorem publish_fit (keep : KeepFit m) (enough : m ≤ rounds) {notice : Notice Nat}
    (lists : heldLists h.handlers + extra < m) (mirrored : Mirrored [notice] h)
    (stands : Stands resting h.session.bus) :
    Fit resting m extra ((bounded m rounds).publish notice h).2 := by
  have hstate : ((bounded m rounds).publish notice h).2 =
      (site.publish (bounded m rounds).tell rounds notice.signal notice h).2 := rfl
  have hwaiting : Poised m extra
      (site.withBus (h.session.bus.publish notice.signal notice).2 h) :=
    ⟨lists, mirrored.publish⟩
  cases resting with
  | false =>
    have hbusy : (site.bus h).running? ≠ none := stands.busy rfl
    rw [hstate, (Bus.Site.publish_does unheard_lawful _ rounds notice.signal notice hbusy).1]
    exact ⟨hwaiting, stands_busy hbusy⟩
  | true =>
    have hidle : (site.bus h).running? = none := (stands.rests rfl).idle
    have hrests := publish_rests (m := m) notice hidle (Nat.lt_of_lt_of_le (by omega) enough)
    refine ⟨?_, fun _ => hrests, nofun⟩
    rw [hstate, Bus.Site.publish_snd, hidle]
    exact settle_poised keep rounds hwaiting hidle

end Playing

end Dialogue
