import Dialogue.Proofs.Bus.Settled

/-!
# Who waits on a bus

A handler waits when it is on the roster of a signal, or when its turn in the delivery that is under way
is still to come.  Nobody waits who did not subscribe, and only those who wait are called.

## Results

* `Deed.waits` — only by subscribing a handler comes to wait.
* `fewer_start`, `fewer_finish`, `waits_of_callNext` — the steps of a delivery make nobody wait, and
  call only those who do.
* `Site.publish_keeps_waiting` — what the handlers keep that wait, publishing an event keeps.
-/

set_option autoImplicit false

namespace Dialogue.Bus

variable {σ η α : Type}

/-- Is this handler on a roster, or is its turn in a delivery still to come? -/
def Waits (b : Bus η α) (handler : η) : Prop :=
  ∃ signal s, b.Present signal s ∧ s.handler = handler

/-- Whoever waits on the first bus waits on the second one. -/
def Fewer (b c : Bus η α) : Prop :=
  ∀ handler, b.Waits handler → c.Waits handler

theorem Fewer.refl (b : Bus η α) : Fewer b b :=
  fun _ waits => waits

/-- Nobody waits on a new bus. -/
theorem not_waits_new (handler : η) : ¬ ({} : Bus η α).Waits handler := by
  rintro ⟨signal, s, hs | ⟨d, hd, -⟩, -⟩
  · cases hs
  · cases hd

/-- Whoever subscribes first waits, and nobody else comes to wait by that. -/
theorem waits_subscribeFirst {b : Bus η α} {signal : Signal} {first handler : η} {priority : Value}
    (waits : (b.subscribeFirst signal first priority).Waits handler) :
    handler = first ∨ b.Waits handler := by
  obtain ⟨other, s, hs | hs, rfl⟩ := waits
  · unfold subscriptions subscribeFirst at hs
    rw [roster?_enroll] at hs
    by_cases hsignal : signal = other
    · rw [if_pos hsignal] at hs
      rcases List.mem_cons.mp hs with rfl | hs
      · exact .inl rfl
      · exact .inr ⟨signal, s, .inl hs, rfl⟩
    · rw [if_neg hsignal] at hs
      exact .inr ⟨other, s, .inl hs, rfl⟩
  · exact .inr ⟨other, s, .inr hs, rfl⟩

variable [DecidableEq η] {b c : Bus η α}

/-! ## Deeds -/

theorem Move.waits {turn : Turn η α} (move : Move b turn c) {handler : η} (waits : c.Waits handler) :
    b.Waits handler ∨
      ∃ d signal s, turn = .deed d ∧ d.made? b = some (signal, s) ∧ s.handler = handler := by
  obtain ⟨signal, s, present, rfl⟩ := waits
  rcases move.present present with before | ⟨d, hturn, made⟩
  · exact .inl ⟨signal, s, before, rfl⟩
  · exact .inr ⟨d, signal, s, hturn, made, rfl⟩

/-- **Only by subscribing a handler comes to wait.** -/
theorem Deed.waits {d : Deed η α} (result : d.result b = .ok c) {handler : η}
    (waits : c.Waits handler) : b.Waits handler ∨
      ∃ signal priority oneShot weak, d = .subscribe signal handler priority oneShot weak := by
  rcases (Move.deed result).waits waits with before | ⟨e, signal, s, hturn, made, rfl⟩
  · exact .inl before
  · cases hturn
    cases d with
    | subscribe signal handler priority oneShot weak =>
      cases made
      exact .inr ⟨signal, priority, oneShot, weak, rfl⟩
    | _ => cases made

/-- Other deeds make nobody wait. -/
theorem Deed.fewer {d : Deed η α} (result : d.result b = .ok c)
    (other : ∀ signal handler priority oneShot weak,
      d ≠ .subscribe signal handler priority oneShot weak) : Fewer c b := by
  intro handler waits
  rcases Deed.waits result waits with before | ⟨signal, priority, oneShot, weak, hd⟩
  · exact before
  · exact absurd hd (other signal handler priority oneShot weak)

theorem fewer_publish (signal : Signal) (data : α) (b : Bus η α) :
    Fewer (b.publish signal data).2 b :=
  Deed.fewer (show (Deed.publish signal data).result b = .ok _ from rfl)
    fun _ _ _ _ _ hd => by cases hd

theorem fewer_consumeCurrent (b : Bus η α) : Fewer b.consumeCurrent b := by
  rcases consumeCurrent_eq b with heq | ⟨e, heq⟩
  · rw [heq]
    exact Fewer.refl b
  · rw [heq]
    exact Deed.fewer (show (Deed.consume e).result b = .ok _ from rfl)
      fun _ _ _ _ _ hd => by cases hd

theorem fewer_unsubscribe (signal : Signal) (gone : η) (b : Bus η α) :
    Fewer (b.unsubscribe signal gone) b :=
  Deed.fewer (show (Deed.unsubscribe signal gone).result b = .ok _ from rfl)
    fun _ _ _ _ _ hd => by cases hd

/-! ## Deliveries -/

theorem Move.fewer {turn : Turn η α} (move : Move b turn c) (step : ∀ d, turn ≠ .deed d) :
    Fewer c b := by
  intro handler waits
  rcases move.waits waits with before | ⟨d, -, -, hturn, -⟩
  · exact before
  · exact absurd hturn (step d)

theorem fewer_start (b : Bus η α) : Fewer b.start b := by
  cases hrunning : b.running? with
  | some d =>
    have hstart : b.start = b := by
      unfold start
      rw [hrunning]
    rw [hstart]
    exact Fewer.refl b
  | none =>
    cases hqueue : b.queue with
    | nil =>
      have hstart : b.start = b := by
        unfold start
        rw [hrunning, hqueue]
      rw [hstart]
      exact Fewer.refl b
    | cons e rest =>
      by_cases nobody : b.subscriptions e.signal = []
      · exact (Move.passed hrunning hqueue nobody).fewer fun _ hturn => by cases hturn
      · exact (Move.begun hrunning hqueue nobody).fewer fun _ hturn => by cases hturn

omit [DecidableEq η] in
theorem fewer_finish (b : Bus η α) : Fewer b.finish b := by
  rintro handler ⟨signal, s, present, rfl⟩
  cases hrunning : b.running? with
  | none =>
    have hfinish : b.finish = b := by
      unfold finish
      rw [hrunning]
    rw [hfinish] at present
    exact ⟨signal, s, present, rfl⟩
  | some d =>
    rcases present with hs | ⟨x, hx, -⟩
    · exact ⟨signal, s, .inl ((mem_subscriptions_finish hrunning signal s).mp hs).1, rfl⟩
    · have hnone : b.finish.running? = none := by
        unfold finish
        rw [hrunning]
      rw [hnone] at hx
      cases hx

theorem callNext_of_idle (idle : b.running? = none) : b.callNext = (none, b) := by
  unfold callNext
  rw [idle]

/-- Whoever is called waited. -/
theorem waits_of_callNext {s : Subscription η} (next : b.callNext = (some s, c)) :
    b.Waits s.handler ∧ Fewer c b := by
  cases hrunning : b.running? with
  | none =>
    rw [callNext_of_idle hrunning] at next
    cases next
  | some d =>
    refine ⟨?_, (Move.called hrunning next).fewer fun _ hturn => by cases hturn⟩
    obtain ⟨dead, later, hpending, -, -, -⟩ := callNext_some hrunning next
    exact ⟨d.event.signal, s, .inr ⟨d, hrunning, rfl, by simp [hpending]⟩, rfl⟩

/-- Nobody comes to wait when there is nobody to call. -/
theorem fewer_of_callNext (none : b.callNext = (none, c)) : Fewer c b := by
  cases hrunning : b.running? with
  | none =>
    rw [callNext_of_idle hrunning] at none
    cases none
    exact Fewer.refl b
  | some d =>
    rcases callNext_none hrunning none with ⟨-, rfl⟩ | ⟨-, _, rfl⟩
    · exact Fewer.refl _
    · rintro handler ⟨signal, s, hs | ⟨x, hx, -, hs⟩, rfl⟩
      · exact ⟨signal, s, .inl hs, rfl⟩
      · cases hx
        cases hs

/-! ## What the loops keep -/

namespace Site

variable {site : Site σ η α} {react : η → Event α → StateM σ Unit} {R : σ → σ → Prop}
  (frame : Step.Frame R) (bus : ∀ b s, Fewer b (site.bus s) → R s (site.withBus b s))
  (keeps : ∀ handler e b s, (site.bus s).Waits handler → Fewer b (site.bus s) →
    R s (react handler e (site.withBus b s)).2)

include frame bus keeps

theorem serve_keeps_waiting (e : Event α) (n : Nat) (s : σ) : R s (site.serve react e n s).2 := by
  induction n generalizing s with
  | zero => exact frame.refl s
  | succ n ih =>
    cases h : (site.bus s).callNext with
    | mk next b =>
      cases next with
      | none =>
        rw [serve_none h]
        exact bus b s (fewer_of_callNext h)
      | some sub =>
        obtain ⟨waits, fewer⟩ := waits_of_callNext h
        rw [serve_some h]
        exact frame.trans (keeps sub.handler e b s waits fewer) (ih _)

theorem deliver_keeps_waiting (s : σ) : R s (site.deliver react s).2 := by
  have hstart := bus _ s (fewer_start (site.bus s))
  cases h : (site.bus (site.withBus (site.bus s).start s)).running? with
  | none =>
    rw [deliver_none h]
    exact hstart
  | some d =>
    rw [deliver_some h]
    have hserve := serve_keeps_waiting frame bus keeps d.event d.pending.length
      (site.withBus (site.bus s).start s)
    exact frame.trans (frame.trans hstart hserve) (bus _ _ (fewer_finish _))

theorem deliverMany_keeps_waiting (n : Nat) (s : σ) : R s (site.deliverMany react n s).2 := by
  induction n generalizing s with
  | zero => exact frame.refl s
  | succ n ih => exact frame.trans (deliver_keeps_waiting frame bus keeps s) (ih _)

theorem settle_keeps_waiting (n : Nat) (s : σ) : R s (site.settle react n s).2 := by
  induction n generalizing s with
  | zero => exact frame.refl s
  | succ n ih =>
    cases h : (site.bus s).queue with
    | nil =>
      rw [settle_nil h]
      exact frame.refl s
    | cons e rest =>
      rw [settle_cons h]
      exact frame.trans (deliverMany_keeps_waiting frame bus keeps _ s) (ih _)

/-- **What the handlers keep that wait on the bus, publishing an event keeps**, if changes of the bus
keep it that make nobody wait. -/
theorem publish_keeps_waiting (n : Nat) (signal : Signal) (data : α) (s : σ) :
    R s (site.publish react n signal data s).2 := by
  rw [publish_snd]
  have hput := bus _ s (fewer_publish signal data (site.bus s))
  split
  · exact frame.trans hput (settle_keeps_waiting frame bus keeps n _)
  · exact hput

end Site

end Dialogue.Bus
