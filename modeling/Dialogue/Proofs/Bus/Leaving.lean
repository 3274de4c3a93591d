import Dialogue.Proofs.Bus.OneShot

/-!
# Leaving a signal

A handler leaves a signal when it unsubscribes, or when the roster is cleared.  A delivery that is
under way goes on with the roster it began with, so the handler may still be called by it.  What
begins later begins with the roster as it is then, and what the older delivery spent is struck off
its own edition, so nobody comes back but by subscribing again.

## Results

* `subscriptions_unsubscribe` — unsubscribing takes the subscriptions of one handler off one roster.
* `Run.joined` — whoever is on a roster was on it before, or has subscribed since.
* `Run.met` — a delivery calls only those who were on the roster when it began.
* `Run.leaves` — who has left is called by no delivery that begins later, before it subscribes
  again.
-/

set_option autoImplicit false

namespace Dialogue.Bus

variable {η α : Type}

/-! ## What leaving does -/

/-- Does this deed end all waiting of a handler for a signal? -/
def Deed.Ends (signal : Signal) (handler : η) : Deed η α → Prop
  | .unsubscribe g h => g = signal ∧ h = handler
  | .clear g => g = signal
  | .clearAll => True
  | _ => False

variable [DecidableEq η]

/-- **Unsubscribing takes the subscriptions of one handler off one roster, and leaves all others
where they are.** -/
theorem subscriptions_unsubscribe (b : Bus η α) (signal other : Signal) (handler : η) :
    (b.unsubscribe signal handler).subscriptions other =
      if signal = other then (b.subscriptions signal).filter fun s => s.handler ≠ handler
      else b.subscriptions other := by
  by_cases hb : b.subscriptions signal = []
  · rw [unsubscribe_eq_self handler hb]
    split
    · rename_i heq
      rw [← heq, hb, List.filter_nil]
    · rfl
  · obtain ⟨s, hs⟩ := List.exists_mem_of_ne_nil _ hb
    obtain ⟨r, hr, hm⟩ := exists_roster?_of_mem hs
    rw [unsubscribe_eq handler hr (List.ne_nil_of_mem hm), subscriptions, roster?,
      rosterIn?_putRoster, subscriptions_eq_of_roster? hr]
    split <;> rfl

/-- Who leaves is on the roster no more. -/
theorem Deed.ne_of_ends {b c : Bus η α} {d : Deed η α} (result : d.result b = .ok c)
    {signal : Signal} {handler : η} (ends : d.Ends signal handler) :
    ∀ s ∈ c.subscriptions signal, s.handler ≠ handler := by
  intro s hs
  cases d with
  | unsubscribe g h =>
    obtain ⟨rfl, rfl⟩ := ends
    cases result
    rw [subscriptions_unsubscribe, if_pos rfl] at hs
    simpa using (List.mem_filter.mp hs).2
  | clear g =>
    obtain rfl : g = signal := ends
    cases result
    simp [subscriptions, roster?_clear] at hs
  | clearAll =>
    cases result
    simp [subscriptions, roster?, Bus.clearAll, rosterIn?] at hs
  | subscribe => exact ends.elim
  | forget => exact ends.elim
  | publish => exact ends.elim
  | consume => exact ends.elim

/-! ## Coming back -/

/-- A turn puts nobody on a roster but those who subscribe. -/
theorem Move.joined {b c : Bus η α} {turn : Turn η α} (move : Move b turn c) {signal : Signal}
    {s : Subscription η} (h : s ∈ c.subscriptions signal) :
    s ∈ b.subscriptions signal ∨ ∃ d, turn = .deed d ∧ d.made? b = some (signal, s) := by
  cases move with
  | @deed _ d result =>
    rcases d.mem_subscriptions result h with h | h
    · exact .inl h
    · exact .inr ⟨d, rfl, h⟩
  | passed idle first nobody =>
    rw [start_of_nobody idle first nobody] at h
    exact .inl h
  | begun idle first somebody =>
    obtain ⟨r, -, hs⟩ := start_of_somebody idle first somebody
    rw [hs] at h
    exact .inl h
  | called running next =>
    obtain ⟨_, _, -, -, -, rfl⟩ := callNext_some running next
    exact .inl h
  | ended running none =>
    obtain ⟨spent, -, hf⟩ := callNext_none_finish running none
    rw [hf] at h
    exact .inl ((mem_subscriptions_finish rfl signal s).mp h).1

/-- What happened in a run after it made a subscription to a signal. -/
def Since (b : Bus η α) (trace : List (Turn η α)) (signal : Signal) (s : Subscription η)
    (later : List (Turn η α)) : Prop :=
  ∃ before a d, Run b before a ∧ d.made? a = some (signal, s) ∧
    trace = before ++ .deed d :: later

theorem Since.snoc {b : Bus η α} {trace later : List (Turn η α)} {signal : Signal}
    {s : Subscription η} (h : Since b trace signal s later) (turn : Turn η α) :
    Since b (trace ++ [turn]) signal s (later ++ [turn]) := by
  obtain ⟨before, a, d, run, made, rfl⟩ := h
  exact ⟨before, a, d, run, made, by simp⟩

/-- Nobody ended the waiting of a handler for a signal. -/
def Unbroken (signal : Signal) (handler : η) (trace : List (Turn η α)) : Prop :=
  ∀ d, .deed d ∈ trace → ¬ d.Ends signal handler

/-- **Whoever is on a roster was on it before, or has subscribed since, and has not left after
that.** -/
theorem Run.joined {b c : Bus η α} {trace : List (Turn η α)} (run : Run b trace c)
    {signal : Signal} {s : Subscription η} (h : s ∈ c.subscriptions signal) :
    (s ∈ b.subscriptions signal ∧ Unbroken signal s.handler trace) ∨
      ∃ later, Since b trace signal s later ∧ Unbroken signal s.handler later := by
  induction run with
  | nil => exact .inl ⟨h, fun _ hd => by cases hd⟩
  | @snoc x c trace turn run move ih =>
    -- the last turn did not end it, as the subscription is on the roster after it
    have hlast : ∀ later, Unbroken signal s.handler later →
        Unbroken signal s.handler (later ++ [turn]) := by
      intro later hlater d hd ends
      rcases List.mem_append.mp hd with hd | hd
      · exact hlater d hd ends
      · cases List.mem_singleton.mp hd
        cases move with
        | deed result => exact d.ne_of_ends result ends s h rfl
    rcases move.joined h with hs | ⟨d, rfl, made⟩
    · rcases ih hs with ⟨hb, hun⟩ | ⟨later, hsince, hun⟩
      · exact .inl ⟨hb, hlast trace hun⟩
      · exact .inr ⟨later ++ [turn], hsince.snoc turn, hlast later hun⟩
    · exact .inr ⟨[], ⟨trace, x, d, run, made, rfl⟩, fun _ hd => by cases hd⟩

/-! ## Being called -/

/-- Whoever a delivery of this event has still to come to is among these. -/
def Expects (e : Event α) (roster : List (Subscription η)) (b : Bus η α) : Prop :=
  ∀ d, b.running? = some d → d.event = e → ∀ s ∈ d.pending, s ∈ roster

/-- A delivery that has begun comes to nobody new. -/
theorem Move.expects {b c : Bus η α} {turn : Turn η α} (move : Move b turn c) {e : Event α}
    {roster : List (Subscription η)} (h : Expects e roster b) (other : turn ≠ .begun e) :
    Expects e roster c ∧ ∀ s, turn = .called e s → s ∈ roster := by
  cases move with
  | @deed _ d result =>
    have hrun := (d.result_spec result).1
    exact ⟨fun x hx => h x (hrun ▸ hx), nofun⟩
  | passed idle first nobody =>
    rw [start_of_nobody idle first nobody]
    exact ⟨h, nofun⟩
  | begun idle first somebody =>
    obtain ⟨r, -, hs⟩ := start_of_somebody idle first somebody
    rw [hs]
    refine ⟨fun d hd he => ?_, nofun⟩
    cases hd
    exact absurd (congrArg Turn.begun he) other
  | @called _ d t running next =>
    obtain ⟨dead, rest, hp, -, -, rfl⟩ := callNext_some running next
    refine ⟨fun x hx he u hu => ?_, fun u hu => ?_⟩
    · cases hx
      exact h d running he u (by simp [hp, hu])
    · obtain ⟨he, rfl⟩ := Turn.called.inj hu
      exact h d running he t (by simp [hp])
  | ended running none =>
    obtain ⟨spent, -, hf⟩ := callNext_none_finish running none
    rw [hf]
    exact ⟨fun x hx => (by cases hx), nofun⟩

/-- While a delivery lasts, it expects only those who were on the roster when it began, and afterwards
it does not begin again. -/
theorem Run.expects {past later : List (Turn η α)} {a b c : Bus η α} {e : Event α}
    (before : Run {} past a) (begins : Move a (.begun e) b) (run : Run b later c) :
    Expects e (a.subscriptions e.signal) c ∧
      ∀ s, .called e s ∈ later → s ∈ a.subscriptions e.signal := by
  induction run with
  | nil =>
    refine ⟨fun d hd _ t ht => ?_, fun t ht => by cases ht⟩
    cases begins with
    | begun idle first somebody =>
      obtain ⟨r, -, hs⟩ := start_of_somebody idle first somebody
      rw [hs] at hd
      cases hd
      exact ht
  | @snoc x c trace turn run move ih =>
    have hother : turn ≠ .begun e := by
      rintro rfl
      cases move with
      | begun idle first somebody =>
        refine ((before.snoc begins).append run).not_mem_taken (e := e) (by simp [first]) ?_
        exact mem_taken_of_begun (by simp)
    obtain ⟨hexpects, hcalled⟩ := move.expects ih.1 hother
    refine ⟨hexpects, fun s hs => ?_⟩
    rcases List.mem_append.mp hs with hs | hs
    · exact ih.2 s hs
    · exact hcalled s (List.mem_singleton.mp hs).symm

/-- **A delivery calls only those who were on the roster of its signal when it began.** -/
theorem Run.met {past later : List (Turn η α)} {a b c : Bus η α} {e : Event α}
    (before : Run {} past a) (begins : Move a (.begun e) b) (run : Run b later c)
    {s : Subscription η} (called : .called e s ∈ later) : s ∈ a.subscriptions e.signal :=
  (before.expects begins run).2 s called

/-- **Who has left a signal is called by no delivery that begins later, be it of an event that waits
already, before it subscribes again; and who unsubscribes leaves all others where they are.** -/
theorem Run.leaves {past : List (Turn η α)} {a b : Bus η α} (run : Run {} past a) {d : Deed η α}
    (result : d.result a = .ok b) {signal : Signal} {handler : η} (ends : d.Ends signal handler) :
    (∀ s ∈ b.subscriptions signal, s.handler ≠ handler) ∧
      (∀ during e later c s, Run b (during ++ .begun e :: later) c → e.signal = signal →
        .called e s ∈ later → s.handler = handler →
        ∃ since, Since b during signal s since ∧ Unbroken signal handler since) ∧
      (d = .unsubscribe signal handler →
        (b.subscriptions signal = (a.subscriptions signal).filter fun s => s.handler ≠ handler) ∧
          ∀ other, other ≠ signal → b.subscriptions other = a.subscriptions other) := by
  refine ⟨d.ne_of_ends result ends, ?_, ?_⟩
  · rintro during e later c s after rfl called rfl
    obtain ⟨x, hduring, hlater⟩ := after.split
    obtain ⟨y, begins, hlater⟩ := hlater.of_cons
    have hmet := Run.met ((run.snoc (.deed result)).append hduring) begins hlater called
    rcases hduring.joined hmet with ⟨hs, -⟩ | hagain
    · exact absurd rfl (d.ne_of_ends result ends s hs)
    · exact hagain
  · rintro rfl
    cases result
    refine ⟨?_, fun other hne => ?_⟩
    · rw [subscriptions_unsubscribe, if_pos rfl]
    · rw [subscriptions_unsubscribe, if_neg (Ne.symm hne)]

/-! ## A handler that leaves while another event waits -/

/-- Handler 0 has subscribed twice, and is called for the first of two events. -/
def arriving : List (Option (Deed Nat Unit)) :=
  [some (.subscribe .labelStarted 0 (.int 0) false false),
    some (.subscribe .labelStarted 1 (.int 0) false true),
    some (.subscribe .labelStarted 0 (.int 5) false true),
    some (.publish .labelStarted ()), some (.publish .labelStarted ()), none, none]

/-- Handler 0 leaves while it is being called. -/
def departed : Bus Nat Unit :=
  (play {} arriving).2.unsubscribe .labelStarted 0

/-- The first event is delivered to the end, and then handler 0 comes back. -/
def returning : List (Option (Deed Nat Unit)) :=
  [none, none, none, some (.subscribe .labelStarted 0 (.int 0) true false)]

/-- The general theorem for a handler that leaves while it is being called and comes back. -/
theorem leaves_returning :
    (∀ s ∈ departed.subscriptions .labelStarted, s.handler ≠ 0) ∧
      ∃ since, Since departed (play departed returning).1 .labelStarted
        ⟨9, .int 0, 0, true, false⟩ since := by
  have hresult : (Deed.unsubscribe .labelStarted 0).result (play {} arriving).2 = .ok departed := rfl
  have hends : (Deed.unsubscribe .labelStarted 0 : Deed Nat Unit).Ends .labelStarted 0 := ⟨rfl, rfl⟩
  obtain ⟨hoff, hlater, -⟩ := Run.leaves (play_run {} arriving) hresult hends
  refine ⟨hoff, ?_⟩
  -- the second event waits meanwhile; its delivery calls handler 1 and then handler 0
  obtain ⟨since, h, -⟩ := hlater _ ⟨7, .labelStarted, ()⟩ _ _ ⟨9, .int 0, 0, true, false⟩
    ((play_run _ returning).append (play_run _ [none, none, none])) rfl (.tail _ (.head _)) rfl
  exact ⟨since, h⟩

end Dialogue.Bus
