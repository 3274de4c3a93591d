import Dialogue.Proofs.Bus.Hosted
import Dialogue.Proofs.Bus.OneShot
import Dialogue.Proofs.Bus.Priorities

/-!
# How an event is delivered

An event is brought to the subscriptions that its signal has when the delivery begins, one after the
other.  Whose handler is gone by its turn is passed over, and when the event is consumed after a call
nobody else is called.  Nobody asks before the first call, so an event that was consumed while it waited
is still brought to one handler.  A handler may do with the bus what it likes, and may fail; the failure is
reported, and the delivery goes on.

## Results

* `callNext_of_dead`, `callNext_of_live` — a delivery comes to one subscription after the other.
* `Host.Serves.unique` — there is one way only in which an event is brought to subscriptions.
* `Host.serve_serves`, `Host.deliver_serves` — the loop of a host brings an event to subscriptions in
  this way.
* `Host.delivery_law` — the same for any run, with the order in which subscriptions are called, and
  the calls that the journal tells of.
-/

set_option autoImplicit false

namespace Dialogue.Bus

variable {η α : Type}

/-! ## Passing a subscription -/

/-- A delivery has come to a subscription, which is perhaps to be struck off in the end, and holds
this handler now. -/
def pass (s : Subscription η) (struck : Bool) (last? : Option η) (b : Bus η α) : Bus η α :=
  { b with
    running? := b.running?.map fun d =>
      { d with
        pending := d.pending.tail
        last?
        spent := if struck then s.ticket :: d.spent else d.spent } }

section

variable [DecidableEq η] {b : Bus η α} {d : Delivery η α} {s : Subscription η}
  {rest : List (Subscription η)}

omit [DecidableEq η] in
theorem running?_pass (s : Subscription η) (struck : Bool) (last? : Option η)
    (running : b.running? = some d) :
    (b.pass s struck last?).running? = some
      { d with
        pending := d.pending.tail
        last?
        spent := if struck then s.ticket :: d.spent else d.spent } :=
  congrArg (Option.map _) running

theorem isLive_pass (s : Subscription η) (struck : Bool) (held? : Option η) (b : Bus η α) :
    (b.pass s struck held?).isLive = b.isLive := by
  have hbusy : (b.pass s struck held?).isBusy = b.isBusy := by
    simp [isBusy, pass]
  funext last? t
  unfold isLive isKept holds
  rw [hbusy]
  rfl

/-- When somebody was called for an event that is consumed, nobody else is. -/
theorem callNext_of_cut {handler : η} (running : b.running? = some d)
    (called : d.last? = some handler) (consumed : b.isConsumed d.event = true) :
    b.callNext = (none, b) := by
  unfold callNext
  simp [running, called, consumed]

/-- A delivery comes to the subscription after one whose handler is gone as it comes to the first
one. -/
theorem callNext_of_dead (running : b.running? = some d) (pending : d.pending = s :: rest)
    (whole : d.last? = none ∨ b.isConsumed d.event = false) (dead : b.isLive d.last? s = false) :
    b.callNext = (b.pass s true none).callNext := by
  have hcut : (d.last?.isSome && b.isConsumed d.event) = false := by
    rcases whole with h | h <;> simp [h]
  unfold callNext
  rw [running?_pass s true none running, running, isLive_pass]
  simp only [hcut, pending, pickLive, dead, Option.isSome_none, Bool.false_and, Bool.false_eq_true,
    if_false, if_true, List.tail_cons]
  rfl

/-- A subscription whose handler is there is called. -/
theorem callNext_of_live (running : b.running? = some d) (pending : d.pending = s :: rest)
    (whole : d.last? = none ∨ b.isConsumed d.event = false) (live : b.isLive d.last? s = true) :
    b.callNext = (some s, b.pass s s.oneShot (some s.handler)) := by
  have hcut : (d.last?.isSome && b.isConsumed d.event) = false := by
    rcases whole with h | h <;> simp [h]
  unfold callNext pass
  simp only [running, hcut, pending, pickLive, live, Bool.false_eq_true, if_false, if_true,
    Option.map_some, List.tail_cons]

end

/-- The calls among what was heard. -/
def callsOf (signs : List (Sign η α)) : List (η × Signal × α) :=
  signs.filterMap fun
    | .called handler signal data => some (handler, signal, data)
    | _ => none

theorem callsOf_append (first second : List (Sign η α)) :
    callsOf (first ++ second) = callsOf first ++ callsOf second :=
  List.filterMap_append

/-- No deed calls anybody. -/
theorem Does.callsOf [DecidableEq η] {b c : Bus η α} {signs : List (Sign η α)}
    (h : Does b signs c) : callsOf signs = [] := by
  obtain ⟨deeds, -, rfl⟩ := h
  unfold Bus.callsOf heard
  rw [List.filterMap_map, List.filterMap_filterMap, List.filterMap_eq_nil_iff]
  intro d _
  cases d <;> rfl

namespace Host

/-! ## One subscription after the other -/

/-- A delivery has come to a subscription. -/
def passing (s : Subscription Value) (struck : Bool) (last? : Option Value) (h : Host) : Host :=
  { h with bus := h.bus.pass s struck last? }

/-- What a handler does in its turn: its call is written down, its next list is taken away, and the
requests of the list are carried out until one fails. -/
def turn (n : Nat) (s : Subscription Value) (e : Event Payload) (h : Host) :
    Except Fault Unit × Host :=
  carryOutAll (carryOut (Host.react n) (n + 1)) (takeHeld s.handler h).1
    (note (.called s.handler e.signal e.data) (takeHeld s.handler h).2)

/-- How an event is brought to subscriptions: this handler was called just before and is held, these
subscriptions are to be come to, those are called, and this is what becomes of the host. -/
inductive Serves (n : Nat) (e : Event Payload) : Option Value →
    List (Subscription Value) → Host → List (Subscription Value) → Host → Prop where
  /-- Nobody is left. -/
  | done (last? : Option Value) (h : Host) : Serves n e last? [] h [] h
  /-- The event is consumed after a call, and nobody else is called. -/
  | cut {last : Value} {s : Subscription Value} {rest : List (Subscription Value)} {h : Host}
    (consumed : h.bus.isConsumed e = true) : Serves n e (some last) (s :: rest) h [] h
  /-- The handler of a subscription is gone. -/
  | gone {last? : Option Value} {s : Subscription Value}
    {rest called : List (Subscription Value)} {h k : Host}
    (whole : last? = none ∨ h.bus.isConsumed e = false) (dead : h.bus.isLive last? s = false)
    (later : Serves n e none rest (passing s true none h) called k) :
    Serves n e last? (s :: rest) h called k
  /-- A handler is called and does all that it has to do. -/
  | answered {last? : Option Value} {s : Subscription Value}
    {rest called : List (Subscription Value)} {h told k : Host}
    (whole : last? = none ∨ h.bus.isConsumed e = false) (live : h.bus.isLive last? s = true)
    (ran : turn n s e (passing s s.oneShot (some s.handler) h) = (.ok (), told))
    (later : Serves n e (some s.handler) rest told called k) :
    Serves n e last? (s :: rest) h (s :: called) k
  /-- A handler is called and fails, which is reported; the delivery goes on. -/
  | failed {last? : Option Value} {s : Subscription Value}
    {rest called : List (Subscription Value)} {h told k : Host} {f : Fault}
    (whole : last? = none ∨ h.bus.isConsumed e = false) (live : h.bus.isLive last? s = true)
    (ran : turn n s e (passing s s.oneShot (some s.handler) h) = (.error f, told))
    (later : Serves n e (some s.handler) rest
      (note (.reported (.handlerFailed e.signal)) told) called k) :
    Serves n e last? (s :: rest) h (s :: called) k

variable {n : Nat} {e : Event Payload} {last? : Option Value}

/-- **There is one way only in which an event is brought to subscriptions.** -/
theorem Serves.unique {roster called others : List (Subscription Value)} {h k l : Host}
    (first : Serves n e last? roster h called k) (second : Serves n e last? roster h others l) :
    others = called ∧ l = k := by
  induction first generalizing others l with
  | done last? h =>
    cases second
    exact ⟨rfl, rfl⟩
  | cut consumed =>
    cases second with
    | cut _ => exact ⟨rfl, rfl⟩
    | gone whole _ _ | answered whole _ _ _ | failed whole _ _ _ => simp [consumed] at whole
  | gone whole dead _ ih =>
    cases second with
    | cut consumed => simp [consumed] at whole
    | gone _ _ later => exact ih later
    | answered _ live _ _ | failed _ live _ _ => simp [dead] at live
  | answered whole live ran _ ih =>
    cases second with
    | cut consumed => simp [consumed] at whole
    | gone _ dead _ => simp [live] at dead
    | answered _ _ again later =>
      rw [ran] at again
      cases again
      obtain ⟨rfl, rfl⟩ := ih later
      exact ⟨rfl, rfl⟩
    | failed _ _ again _ =>
      rw [ran] at again
      cases again
  | failed whole live ran _ ih =>
    cases second with
    | cut consumed => simp [consumed] at whole
    | gone _ dead _ => simp [live] at dead
    | answered _ _ again _ =>
      rw [ran] at again
      cases again
    | failed _ _ again later =>
      rw [ran] at again
      cases again
      obtain ⟨rfl, rfl⟩ := ih later
      exact ⟨rfl, rfl⟩

/-- Those who are called stand on the roster, in the same order. -/
theorem Serves.sublist {roster called : List (Subscription Value)} {h k : Host}
    (serves : Serves n e last? roster h called k) : called.Sublist roster := by
  induction serves with
  | done last? h => exact List.Sublist.refl _
  | cut consumed => exact List.nil_sublist _
  | gone _ _ _ ih => exact ih.cons _
  | answered _ _ _ _ ih => exact ih.cons_cons _
  | failed _ _ _ _ ih => exact ih.cons_cons _

/-- A turn leaves the running delivery as it is, and calls nobody but its own handler. -/
theorem turn_spec (s : Subscription Value) {h : Host} (busy : h.bus.running? ≠ none) :
    (turn n s e h).2.bus.running? = h.bus.running? ∧
      callsOf (log (turn n s e h).2) = callsOf (log h) ++ [(s.handler, e.signal, e.data)] := by
  let called := note (.called s.handler e.signal e.data) (takeHeld s.handler h).2
  have hbus : called.bus = h.bus := bus_takeHeld s.handler h
  have hlog : log called = log h ++ [.called s.handler e.signal e.data] := by
    refine (log_note _ _).trans ?_
    rw [log_takeHeld]
    rfl
  obtain ⟨signs, hacts, -⟩ := carryOutAll_acts (Host.react n) (n + 1)
    (takeHeld s.handler h).1 (h := called) (hbus.symm ▸ busy)
  have hturn : (turn n s e h).2 =
      (carryOutAll (carryOut (Host.react n) (n + 1)) (takeHeld s.handler h).1 called).2 := rfl
  rw [hturn]
  refine ⟨hacts.does.running.trans (congrArg Bus.running? hbus), ?_⟩
  rw [hacts.log, callsOf_append, hacts.does.callsOf, hlog, callsOf_append, List.append_nil]
  rfl

theorem busy_passing (s : Subscription Value) (struck : Bool) (last? : Option Value) {h : Host}
    (busy : h.bus.running? ≠ none) : (passing s struck last? h).bus.running? ≠ none := by
  obtain ⟨d, hd⟩ := Option.ne_none_iff_exists'.mp busy
  exact (running?_pass s struck last? hd).symm ▸ Option.some_ne_none _

/-- The calls that are written down meanwhile are those of the subscriptions that are called. -/
theorem Serves.calls {roster called : List (Subscription Value)} {h k : Host}
    (serves : Serves n e last? roster h called k) (busy : h.bus.running? ≠ none) :
    callsOf (log k) =
      callsOf (log h) ++ called.map fun s => (s.handler, e.signal, e.data) := by
  induction serves with
  | done last? h => exact (List.append_nil _).symm
  | cut consumed => exact (List.append_nil _).symm
  | gone whole dead _ ih => exact ih (busy_passing _ true _ busy)
  | @answered last? s rest called h told k whole live ran _ ih =>
    have hpassing := busy_passing s s.oneShot (some s.handler) busy
    obtain ⟨hrunning, hcalls⟩ := turn_spec (n := n) (e := e) s hpassing
    rw [ran] at hrunning hcalls
    rw [ih (hrunning ▸ hpassing), hcalls, List.append_assoc]
    rfl
  | @failed last? s rest called h told k f whole live ran _ ih =>
    have hpassing := busy_passing s s.oneShot (some s.handler) busy
    obtain ⟨hrunning, hcalls⟩ := turn_spec (n := n) (e := e) s hpassing
    rw [ran] at hrunning hcalls
    have hnoted : log (note (.reported (.handlerFailed e.signal)) told) = log told :=
      (log_note _ told).trans (List.append_nil _)
    rw [ih (hrunning ▸ hpassing), hnoted, hcalls, List.append_assoc]
    rfl

/-! ## The loop of a host -/

theorem react_turn (s : Subscription Value) (h : Host) :
    (Host.react (n + 1) s.handler e h).2 =
      match turn n s e h with
      | (.ok _, k) => k
      | (.error _, k) => note (.reported (.handlerFailed e.signal)) k :=
  react_snd n s.handler e h

/-- A handler is called, whether it fails or not. -/
theorem Serves.call {s : Subscription Value} {rest called : List (Subscription Value)} {h k : Host}
    (whole : last? = none ∨ h.bus.isConsumed e = false) (live : h.bus.isLive last? s = true)
    (later : Serves n e (some s.handler) rest
      (Host.react (n + 1) s.handler e (passing s s.oneShot (some s.handler) h)).2 called k) :
    Serves n e last? (s :: rest) h (s :: called) k := by
  rw [react_turn] at later
  cases hran : turn n s e (passing s s.oneShot (some s.handler) h) with
  | mk result told =>
    rw [hran] at later
    cases result with
    | ok u => exact .answered whole live hran later
    | error f => exact .failed whole live hran later

/-- **The loop of a host brings an event to the subscriptions that are pending.** -/
theorem serve_serves (n : Nat) {m : Nat} {h : Host} {d : Delivery Value Payload}
    (running : h.bus.running? = some d) (enough : d.pending.length ≤ m) :
    ∃ called, Serves n d.event d.last? d.pending h called
      (site.serve (Host.react (n + 1)) d.event m h).2 := by
  generalize hp : d.pending = pending
  -- by induction on those that are left: the loop comes to one of them after the other
  induction pending generalizing m h d with
  | nil =>
    refine ⟨[], ?_⟩
    cases m with
    | zero => exact .done _ h
    | succ m =>
      rw [Site.serve_none (callNext_of_pending_nil running hp)]
      exact .done _ h
  | cons s rest ih =>
    obtain ⟨m, rfl⟩ : ∃ m', m = m' + 1 := by
      cases m with
      | zero => simp [hp] at enough
      | succ m => exact ⟨m, rfl⟩
    rw [hp, List.length_cons] at enough
    by_cases hcut : d.last? ≠ none ∧ h.bus.isConsumed d.event = true
    · obtain ⟨hcalled, hconsumed⟩ := hcut
      obtain ⟨last, hlast⟩ := Option.ne_none_iff_exists'.mp hcalled
      rw [Site.serve_none (callNext_of_cut running hlast hconsumed), hlast]
      exact ⟨[], .cut hconsumed⟩
    · have hwhole : d.last? = none ∨ h.bus.isConsumed d.event = false := by
        rcases hl : d.last? with _ | last
        · exact .inl rfl
        · exact .inr (by simpa [hl] using hcut)
      cases hlive : h.bus.isLive d.last? s with
      | false =>
        have hskip : site.serve (Host.react (n + 1)) d.event (m + 1) h =
            site.serve (Host.react (n + 1)) d.event (m + 1) (passing s true none h) :=
          Site.serve_congr (callNext_of_dead running hp hwhole hlive) fun _ => rfl
        have hpassed : (passing s true none h).bus.running? = _ := running?_pass s true none running
        obtain ⟨called, hserves⟩ := ih (m := m + 1) hpassed (by simp [hp]; omega) (by simp [hp])
        exact ⟨called, .gone hwhole hlive (hskip ▸ hserves)⟩
      | true =>
        rw [Site.serve_some (callNext_of_live running hp hwhole hlive)]
        have hpassed : (passing s s.oneShot (some s.handler) h).bus.running? = _ :=
          running?_pass s s.oneShot (some s.handler) running
        obtain ⟨signs, hdoes, -⟩ := react_does n s.handler d.event (by rw [hpassed]; simp)
        obtain ⟨called, hserves⟩ := ih (m := m) (hdoes.running.trans hpassed)
          (by simp [hp]; omega) (by simp [hp])
        exact ⟨s :: called, Serves.call hwhole hlive hserves⟩

/-- To deliver an event is to bring it to the subscriptions of its signal, and to end the delivery. -/
theorem deliver_serves (n : Nat) {h : Host} {e : Event Payload} {rest : List (Event Payload)}
    (idle : h.bus.running? = none) (first : h.bus.queue = e :: rest) :
    ∃ called served,
      Serves n e none (h.bus.subscriptions e.signal) { h with bus := h.bus.start } called served ∧
      (site.deliver (Host.react (n + 1)) h).2 = { served with bus := served.bus.finish } ∧
      callsOf (log served) =
        callsOf (log h) ++ called.map fun s => (s.handler, e.signal, e.data) := by
  by_cases nobody : h.bus.subscriptions e.signal = []
  · have hstart := start_of_nobody idle first nobody
    have hidle : h.bus.start.running? = none := by
      rw [hstart]
      exact idle
    have hfinish : h.bus.start.finish = h.bus.start := by
      unfold Bus.finish
      rw [hidle]
    rw [nobody, Site.deliver_none hidle]
    refine ⟨[], { h with bus := h.bus.start }, .done _ _, ?_, (List.append_nil _).symm⟩
    rw [hfinish]
    rfl
  · obtain ⟨r, -, hstart⟩ := start_of_somebody idle first nobody
    let d : Delivery Value Payload :=
      { event := e, edition := r.edition, pending := h.bus.subscriptions e.signal }
    have hd : (site.bus (site.withBus h.bus.start h)).running? = some d := by
      show h.bus.start.running? = _
      rw [hstart]
    obtain ⟨called, hserves⟩ := serve_serves n hd (Nat.le_refl _)
    have hbusy : (site.withBus h.bus.start h).bus.running? ≠ none := by
      show (site.bus (site.withBus h.bus.start h)).running? ≠ none
      rw [hd]
      simp
    have hcalls := hserves.calls hbusy
    rw [Site.deliver_some hd]
    exact ⟨called, _, hserves, rfl, hcalls⟩

/-- **The law of delivery.**  After any run, the event that waits longest is brought to the
subscriptions that its signal has then, those of higher priority first and those of equal priority in
the order in which they subscribed.  Whose handler is gone by its turn is passed over; when the event
is consumed after a call nobody else is called; a handler that fails is reported.  No subscription is
called twice, and none that was made since, and the journal tells of these calls and no others. -/
theorem delivery_law (n : Nat) {past : List (Turn Value Payload)} {h : Host} {e : Event Payload}
    {rest : List (Event Payload)} (run : Run {} past h.bus) (idle : h.bus.running? = none)
    (first : h.bus.queue = e :: rest) :
    let roster := h.bus.subscriptions e.signal
    let started : Host := { h with bus := h.bus.start }
    roster.Pairwise Ahead ∧
      ∃ called served,
        (∀ c k, Serves n e none roster started c k ↔ c = called ∧ k = served) ∧
        (site.deliver (Host.react (n + 1)) h).2 = { served with bus := served.bus.finish } ∧
        callsOf (log (site.deliver (Host.react (n + 1)) h).2) =
          callsOf (log h) ++ called.map (fun s => (s.handler, e.signal, e.data)) ∧
        called.Sublist roster ∧ (called.map Subscription.ticket).Nodup ∧
        ∀ s ∈ called, s.ticket < h.bus.issued := by
  intro roster started
  obtain ⟨called, served, hserves, hdeliver, hcalls⟩ := deliver_serves n idle first
  have hsub : called.Sublist roster := hserves.sublist
  refine ⟨run.ranked e.signal, called, served, fun c k => ?_, hdeliver, ?_, hsub,
    (run.orderly.nodup e.signal).sublist (hsub.map _), fun s hs => ?_⟩
  · constructor
    · exact fun other => hserves.unique other
    · rintro ⟨rfl, rfl⟩
      exact hserves
  · rw [hdeliver]
    exact hcalls
  · exact run.orderly.fresh e.signal s (.inl (hsub.subset hs))

/-- Two handlers wait for an event.  The one of higher priority lets a third one wait and then
fails. -/
def crowded : Host where
  bus := (({} : Bus Value Payload).play
    [some (.subscribe .dialogCleared (.text "low") (.int 0) false false),
     some (.subscribe .dialogCleared (.text "high") (.int 1) false false),
     some (.publish .dialogCleared [])]).2
  held := [(.text "high",
    [[.subscribe .dialogCleared (.text "late") (.int 2) false false, .raise .noStatement]])]

/-- The event that the two handlers wait for. -/
def awaited : Event Payload :=
  { number := 4, signal := .dialogCleared, data := [] }

/-- The law for these handlers: both are called, and the third one is not. -/
theorem delivery_law_crowded : ∃ called served,
    Serves 1 awaited none (crowded.bus.subscriptions .dialogCleared)
      { crowded with bus := crowded.bus.start } called served ∧
    called.map Subscription.handler = [.text "high", .text "low"] := by
  have hqueue : crowded.bus.queue = [awaited] := by rfl
  obtain ⟨-, called, served, hserves, -, hcalls, -⟩ :=
    delivery_law 1 (h := crowded) (play_run {} _) rfl hqueue
  refine ⟨called, served, (hserves called served).mpr ⟨rfl, rfl⟩, ?_⟩
  have hlog : callsOf (log (site.deliver (Host.react 2) crowded).2) =
      [(.text "high", .dialogCleared, []), (.text "low", .dialogCleared, [])] := by decide +kernel
  have hmapped := hcalls.symm.trans hlog
  have hfirst := congrArg (List.map Prod.fst) hmapped
  simpa [crowded, callsOf, log, Function.comp_def] using hfirst

end Host

end Dialogue.Bus
