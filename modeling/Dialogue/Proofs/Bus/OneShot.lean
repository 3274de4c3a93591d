import Dialogue.Proofs.Bus.Run

/-!
# Subscriptions that are called once

A subscription that is called once is not struck off by its call but by the end of the delivery that
called it, and only off the roster that the delivery began with.  A handler that unsubscribes while
the delivery lasts, be it one that has nothing to do with the subscription, lets the roster go on in
another edition.  The subscription stays on it then and is called again.

## Results

* `Run.begins` — a delivery that lasts has begun.
* `Run.recorded` — whoever was called keeps its ticket for itself.
* `Run.underway` — during a delivery a subscription it has met stands on the roster it began with
  unless somebody unsubscribed meanwhile.
* `Run.called` — one that was called once is not called again before it has outlived its delivery.
* `Run.calls_le_one` — so it is called at most once, or outlives a delivery that called it; and it
  outlives just those during which somebody unsubscribed from its signal.
-/

set_option autoImplicit false

namespace Dialogue.Bus

variable {η α : Type}

/-! ## What a run tells -/

/-- Did somebody unsubscribe from the signal of this event since its delivery began? -/
def Replaced (e : Event α) (trace : List (Turn η α)) : Prop :=
  ∃ before during handler, trace = before ++ .begun e :: during ∧
    .deed (.unsubscribe e.signal handler) ∈ during

theorem Replaced.snoc {e : Event α} {trace : List (Turn η α)} (h : Replaced e trace)
    (turn : Turn η α) : Replaced e (trace ++ [turn]) := by
  obtain ⟨before, during, handler, rfl, hm⟩ := h
  refine ⟨before, during ++ [turn], handler, by simp, ?_⟩
  exact List.mem_append_left _ hm

/-- Only unsubscribing from the signal replaces a roster. -/
theorem Replaced.of_snoc {e : Event α} {trace : List (Turn η α)} {turn : Turn η α}
    (h : Replaced e (trace ++ [turn]))
    (other : ∀ handler, turn ≠ .deed (.unsubscribe e.signal handler)) : Replaced e trace := by
  obtain ⟨before, during, handler, heq, hm⟩ := h
  rcases List.eq_nil_or_concat during with rfl | ⟨during, last, rfl⟩
  · cases hm
  · rw [List.concat_eq_append, ← List.cons_append, ← List.append_assoc] at heq
    obtain ⟨rfl, hlast⟩ := List.append_inj' heq rfl
    rw [List.concat_eq_append, ← hlast] at hm
    refine ⟨before, during, handler, rfl, ?_⟩
    rcases List.mem_append.mp hm with hm | hm
    · exact hm
    · exact absurd (List.mem_singleton.mp hm).symm (other handler)

theorem replaced_snoc_iff {e : Event α} {trace : List (Turn η α)} {turn : Turn η α}
    (other : ∀ handler, turn ≠ .deed (.unsubscribe e.signal handler)) :
    Replaced e (trace ++ [turn]) ↔ Replaced e trace :=
  ⟨fun h => h.of_snoc other, fun h => h.snoc turn⟩

theorem mem_taken_of_begun {e : Event α} {trace : List (Turn η α)} (h : .begun e ∈ trace) :
    e ∈ taken trace :=
  List.mem_filterMap.mpr ⟨.begun e, h, rfl⟩

theorem Replaced.mem_taken {e : Event α} {trace : List (Turn η α)} (h : Replaced e trace) :
    e ∈ taken trace := by
  obtain ⟨before, during, handler, rfl, -⟩ := h
  exact mem_taken_of_begun (by simp)

variable [DecidableEq η]

/-- How often a subscription was called. -/
def calls (s : Subscription η) (trace : List (Turn η α)) : Nat :=
  trace.countP fun
    | .called _ t => t = s
    | _ => false

theorem calls_snoc (s : Subscription η) (trace : List (Turn η α)) (turn : Turn η α) :
    calls s (trace ++ [turn]) = calls s trace + calls s [turn] :=
  List.countP_append

theorem calls_called (s : Subscription η) (e : Event α) (t : Subscription η) :
    calls s [.called e t] = if t = s then 1 else 0 := by
  simp [calls]

theorem calls_eq_zero {s : Subscription η} {trace : List (Turn η α)}
    (h : ∀ e, .called e s ∉ trace) : calls s trace = 0 := by
  unfold calls
  rw [List.countP_eq_zero]
  intro turn hm
  cases turn with
  | called e t =>
    intro ht
    simp only [decide_eq_true_eq] at ht
    exact h e (ht ▸ hm)
  | _ => simp

/-! ## Deliveries that last -/

/-- A delivery that lasts has begun. -/
theorem Run.begins {trace : List (Turn η α)} {b : Bus η α} (run : Run {} trace b)
    {d : Delivery η α} (running : b.running? = some d) :
    ∃ before during, trace = before ++ .begun d.event :: during := by
  induction run generalizing d with
  | nil => cases running
  | @snoc b c trace turn _ move ih =>
    -- all turns but the beginning of a delivery leave the event of the running one as it is
    have hlater : ∀ x, b.running? = some x → d.event = x.event →
        ∃ before during, trace ++ [turn] = before ++ .begun d.event :: during := by
      intro x hx he
      obtain ⟨before, during, rfl⟩ := ih hx
      exact ⟨before, during ++ [turn], by simp [he]⟩
    cases move with
    | @deed _ deed result =>
      obtain ⟨hrun, -, -⟩ := deed.result_spec result
      exact hlater d (hrun ▸ running) rfl
    | passed idle first nobody =>
      rw [start_of_nobody idle first nobody] at running
      simp [idle] at running
    | @begun e _ idle first somebody =>
      obtain ⟨r, -, hs⟩ := start_of_somebody idle first somebody
      rw [hs] at running
      cases running
      exact ⟨trace, [], rfl⟩
    | @called _ x s was next =>
      obtain ⟨_, _, -, -, -, rfl⟩ := callNext_some was next
      cases running
      exact hlater x was rfl
    | ended was none =>
      obtain ⟨spent, -, hf⟩ := callNext_none_finish was none
      rw [hf] at running
      cases running

/-- An event whose delivery begins was not taken from the queue before. -/
theorem Run.not_mem_taken {trace : List (Turn η α)} {b : Bus η α} (run : Run {} trace b)
    {e : Event α} (waits : e ∈ b.queue) : e ∉ taken trace := by
  intro hm
  have hn := run.distinct.nodup
  rw [List.map_append, List.nodup_append] at hn
  exact hn.2.2 _ (List.mem_map_of_mem hm) _ (List.mem_map_of_mem waits) rfl

/-! ## Those who were called -/

/-- Whoever was called has a ticket of its own. -/
structure Recorded (trace : List (Turn η α)) (b : Bus η α) : Prop where
  taken : ∀ e s, .called e s ∈ trace → e ∈ taken trace
  issued : ∀ e s, .called e s ∈ trace → s.ticket < b.issued
  same : ∀ e s, .called e s ∈ trace → ∀ signal t, b.Present signal t → t.ticket = s.ticket →
    signal = e.signal ∧ t = s

omit [DecidableEq η] in
/-- A turn that calls nobody keeps what is recorded, if nobody is present that was not before but
those with new tickets. -/
theorem Recorded.snoc {trace : List (Turn η α)} {b c : Bus η α} {turn : Turn η α}
    (h : Recorded trace b) (quiet : ∀ e s, turn ≠ .called e s) (issued : b.issued ≤ c.issued)
    (present : ∀ signal t, c.Present signal t → b.Present signal t ∨ t.ticket = b.issued) :
    Recorded (trace ++ [turn]) c := by
  have hold : ∀ e s, Turn.called e s ∈ trace ++ [turn] → Turn.called e s ∈ trace := by
    intro e s hm
    rcases List.mem_append.mp hm with hm | hm
    · exact hm
    · exact absurd (List.mem_singleton.mp hm).symm (quiet e s)
  refine ⟨fun e s hm => ?_, fun e s hm => ?_, fun e s hm signal t ht heq => ?_⟩
  · rw [taken_append]
    exact List.mem_append_left _ (h.taken e s (hold e s hm))
  · exact Nat.lt_of_lt_of_le (h.issued e s (hold e s hm)) issued
  · have hlt := h.issued e s (hold e s hm)
    rcases present signal t ht with ht | ht
    · exact h.same e s (hold e s hm) signal t ht heq
    · omega

theorem Run.recorded {trace : List (Turn η α)} {b : Bus η α} (run : Run {} trace b) :
    Recorded trace b := by
  induction run with
  | nil => exact ⟨by simp, by simp, by simp⟩
  | @snoc b c trace turn run move ih =>
    have hissued := move.events.1
    have hpresent : ∀ signal t, c.Present signal t →
        b.Present signal t ∨ t.ticket = b.issued := by
      intro signal t ht
      rcases move.present ht with ht | ⟨d, rfl, ht⟩
      · exact .inl ht
      · cases move with
        | deed result => exact .inr (d.ticket_made result ht).1
    cases move with
    | @called _ d s running next =>
      have hs : b.Present d.event.signal s := by
        obtain ⟨dead, later, hp, -⟩ := callNext_some running next
        exact .inr ⟨d, running, rfl, by simp [hp]⟩
      have hevent : d.event ∈ Bus.taken trace := by
        obtain ⟨before, during, rfl⟩ := run.begins running
        exact mem_taken_of_begun (by simp)
      have hfresh := run.orderly.fresh _ _ hs
      refine ⟨fun e t hm => ?_, fun e t hm => ?_, fun e t hm signal u hu heq => ?_⟩
      all_goals rcases List.mem_append.mp hm with hm | hm
      · rw [taken_append]
        exact List.mem_append_left _ (ih.taken e t hm)
      · cases List.mem_singleton.mp hm
        rw [taken_append]
        exact List.mem_append_left _ hevent
      · exact Nat.lt_of_lt_of_le (ih.issued e t hm) hissued
      · cases List.mem_singleton.mp hm
        omega
      · have hlt := ih.issued e t hm
        rcases hpresent signal u hu with hu | hu
        · exact ih.same e t hm signal u hu heq
        · omega
      · cases List.mem_singleton.mp hm
        rcases hpresent signal u hu with hu | hu
        · exact run.orderly.single _ _ _ _ hu hs heq
        · omega
    | _ => exact ih.snoc (by simp) hissued hpresent

/-! ## While a delivery lasts -/

/-- Does the roster of a signal still have the edition that a delivery began with? -/
def Current (b : Bus η α) (d : Delivery η α) : Prop :=
  (b.roster? d.event.signal).map Roster.edition = some d.edition

/-- What holds of the delivery that lasts. -/
structure Underway (trace : List (Turn η α)) (b : Bus η α) (d : Delivery η α) : Prop where
  issued : ∀ ticket ∈ d.spent, ticket < b.issued
  spent : ∀ s, .called d.event s ∈ trace → s.oneShot = true → s.ticket ∈ d.spent
  current : ∀ s ∈ b.subscriptions d.event.signal, s ∈ d.pending ∨ s.ticket ∈ d.spent →
    (b.Current d ↔ ¬ Replaced d.event trace)

omit [DecidableEq η] in
/-- A delivery begins with the roster of its signal. -/
theorem Underway.of_begun {trace : List (Turn η α)} {b : Bus η α} {d : Delivery η α}
    {e : Event α} {r : Roster η} (event : d.event = e) (roster : b.roster? e.signal = some r)
    (edition : d.edition = r.edition) (fresh : d.spent = []) (quiet : ∀ s, .called e s ∉ trace)
    (new : e ∉ taken trace) : Underway (trace ++ [.begun e]) b d := by
  subst event
  refine ⟨by simp [fresh], fun s hm _ => ?_, fun s _ _ => ?_⟩
  · rcases List.mem_append.mp hm with hm | hm
    · exact absurd hm (quiet s)
    · cases List.mem_singleton.mp hm
  · have hcur : b.Current d := by
      unfold Current
      rw [roster, edition]
      rfl
    have hrep : ¬ Replaced d.event (trace ++ [.begun d.event]) := by
      intro h
      exact new (h.of_snoc (by simp)).mem_taken
    exact iff_of_true hcur hrep

/-- Deeds keep the roster of a delivery in place but for unsubscribing from its signal. -/
theorem Underway.deed {trace : List (Turn η α)} {b c : Bus η α} {d : Delivery η α}
    {deed : Deed η α} (h : Underway trace b d) (orderly : Orderly b)
    (running : b.running? = some d)
    (begins : ∃ before during, trace = before ++ .begun d.event :: during)
    (result : deed.result b = .ok c) : Underway (trace ++ [.deed deed]) c d := by
  obtain ⟨-, hle, -⟩ := deed.result_spec result
  refine ⟨fun ticket ht => Nat.lt_of_lt_of_le (h.issued ticket ht) hle, fun s hm once => ?_,
    fun s hs hmet => ?_⟩
  · refine h.spent s ?_ once
    simpa using hm
  · -- a subscription that the delivery has met is not a new one
    have hmem : s ∈ b.subscriptions d.event.signal := by
      rcases deed.mem_subscriptions result hs with hs | hs
      · exact hs
      · obtain ⟨ht, -⟩ := deed.ticket_made result hs
        rcases hmet with hmet | hmet
        · have := orderly.fresh _ s (.inr ⟨d, running, rfl, hmet⟩)
          omega
        · have := h.issued _ hmet
          omega
    have hold := h.current s hmem hmet
    cases deed.change result d.event.signal with
    | kept other same =>
      rw [replaced_snoc_iff (by simpa using other), ← hold, Current, Current, same]
    | joined _ now _ =>
      obtain ⟨r, hr, -⟩ := exists_roster?_of_mem hmem
      rw [replaced_snoc_iff (by simp), ← hold, Current, Current, now, hr]
      rfl
    | nobody nobody _ =>
      rw [nobody] at hmem
      cases hmem
    | @left handler r before now _ =>
      have hcur : ¬ c.Current d := by
        have := orderly.begun d running
        rw [Current, now]
        simp only [Option.map_some, Option.some.injEq]
        omega
      have hrep : Replaced d.event (trace ++ [.deed (.unsubscribe d.event.signal handler)]) := by
        obtain ⟨before', during, rfl⟩ := begins
        refine ⟨before', during ++ [.deed (.unsubscribe d.event.signal handler)], handler, ?_, ?_⟩
        · simp
        · simp
      exact iff_of_false hcur (not_not_intro hrep)
    | cleared _ now => simp [subscriptions, now] at hs

/-- A call spends tickets that the delivery has met, among them the one that is called once. -/
theorem Underway.called {trace : List (Turn η α)} {b c : Bus η α} {d : Delivery η α}
    {s : Subscription η} (h : Underway trace b d) (orderly : Orderly b)
    (running : b.running? = some d) (next : b.callNext = (some s, c)) :
    ∀ x, c.running? = some x → Underway (trace ++ [.called d.event s]) c x := by
  obtain ⟨dead, later, hp, -, -, rfl⟩ := callNext_some running next
  rintro x hx
  cases hx
  have hpresent : ∀ t ∈ d.pending, b.Present d.event.signal t :=
    fun t ht => .inr ⟨d, running, rfl, ht⟩
  -- every ticket that is spent now was spent before or is one of a pending subscription
  have hspent : ∀ ticket ∈ (if s.oneShot then [s.ticket] else []) ++
      ((dead.map Subscription.ticket).reverse ++ d.spent),
      (∃ t ∈ d.pending, t.ticket = ticket) ∨ ticket ∈ d.spent := by
    intro ticket ht
    rcases List.mem_append.mp ht with ht | ht
    · split at ht
      · exact .inl ⟨s, by simp [hp], (List.mem_singleton.mp ht).symm⟩
      · cases ht
    · rcases List.mem_append.mp ht with ht | ht
      · obtain ⟨t, htm, rfl⟩ := List.mem_map.mp (List.mem_reverse.mp ht)
        exact .inl ⟨t, by simp [hp, htm], rfl⟩
      · exact .inr ht
  refine ⟨fun ticket ht => ?_, fun t hm once => ?_, fun t ht hmet => ?_⟩
  · rcases hspent ticket ht with ⟨t, htm, rfl⟩ | ht
    · exact orderly.fresh _ _ (hpresent t htm)
    · exact h.issued ticket ht
  · rcases List.mem_append.mp hm with hm | hm
    · exact List.mem_append_right _ (List.mem_append_right _ (h.spent t hm once))
    · cases List.mem_singleton.mp hm
      simp [once]
  · rw [replaced_snoc_iff (by simp)]
    refine h.current t ht ?_
    rcases hmet with hmet | hmet
    · exact .inl (by simp [hp, hmet])
    · rcases hspent t.ticket hmet with ⟨u, hu, heq⟩ | hmet
      · -- the two have one ticket, so they are the same
        have := orderly.single _ _ _ _ (hpresent u hu) (.inl ht) heq
        exact .inl (this.2 ▸ hu)
      · exact .inr hmet

theorem Run.underway {trace : List (Turn η α)} {b : Bus η α} (run : Run {} trace b)
    {d : Delivery η α} (running : b.running? = some d) : Underway trace b d := by
  induction run generalizing d with
  | nil => cases running
  | @snoc b c trace turn run move ih =>
    cases move with
    | @deed _ deed result =>
      have hrun : b.running? = some d := (deed.result_spec result).1 ▸ running
      exact (ih hrun).deed run.orderly hrun (run.begins hrun) result
    | passed idle first nobody =>
      rw [start_of_nobody idle first nobody] at running
      simp [idle] at running
    | @begun e rest idle first somebody =>
      have hnew : e ∉ taken trace := run.not_mem_taken (first ▸ List.mem_cons_self)
      obtain ⟨r, hr, hs⟩ := start_of_somebody idle first somebody
      rw [hs] at running ⊢
      cases running
      exact Underway.of_begun rfl hr rfl rfl (fun s hm => hnew (run.recorded.taken e s hm)) hnew
    | called was next => exact (ih was).called run.orderly was next d running
    | ended was none =>
      obtain ⟨spent, -, hf⟩ := callNext_none_finish was none
      rw [hf] at running
      cases running

/-! ## Being called once -/

/-- A subscription that was called has nothing before it but the end of the delivery that called
it. -/
structure Called (s : Subscription η) (trace : List (Turn η α)) (b : Bus η α) : Prop where
  pending : ∀ d, b.running? = some d → s ∉ d.pending
  lasting : ∀ signal, s ∈ b.subscriptions signal →
    ∃ d, b.running? = some d ∧ .called d.event s ∈ trace

/-- A subscription outlives a delivery that called it: it stays on the roster. -/
def Outlives (s : Subscription η) (trace : List (Turn η α)) : Prop :=
  ∃ before e rest b c, trace = before ++ .ended e :: rest ∧ Run {} before b ∧
    Move b (.ended e) c ∧ .called e s ∈ before ∧ s ∈ c.subscriptions e.signal

theorem Outlives.snoc {s : Subscription η} {trace : List (Turn η α)} (h : Outlives s trace)
    (turn : Turn η α) : Outlives s (trace ++ [turn]) := by
  obtain ⟨before, e, rest, b, c, rfl, hrest⟩ := h
  exact ⟨before, e, rest ++ [turn], b, c, by simp, hrest⟩

omit [DecidableEq η] in
theorem Called.snoc {s : Subscription η} {trace : List (Turn η α)} {b c : Bus η α}
    (h : Called s trace b) (turn : Turn η α) (running : c.running? = b.running?)
    (entries : ∀ signal, s ∈ c.subscriptions signal → s ∈ b.subscriptions signal) :
    Called s (trace ++ [turn]) c where
  pending d hd := h.pending d (running ▸ hd)
  lasting signal hs := by
    obtain ⟨d, hd, hm⟩ := h.lasting signal (entries signal hs)
    exact ⟨d, running ▸ hd, List.mem_append_left _ hm⟩

/-- Until it outlives a delivery, a subscription that was called comes to its turn no more. -/
theorem Run.called {trace : List (Turn η α)} {b : Bus η α} (run : Run {} trace b)
    {s : Subscription η} (stays : ¬ Outlives s trace) {e : Event α} (hm : .called e s ∈ trace) :
    Called s trace b := by
  -- only the end of the delivery that called it can break this, and then it outlives it
  induction run generalizing e with
  | nil => cases hm
  | @snoc b c trace turn run move ih =>
    have hbefore : ¬ Outlives s trace := fun h => stays (h.snoc turn)
    have hrecord := run.recorded
    cases move with
    | @deed _ deed result =>
      have hm : .called e s ∈ trace := by simpa using hm
      refine (ih hbefore hm).snoc _ (deed.result_spec result).1 fun signal hs => ?_
      rcases deed.mem_subscriptions result hs with hs | hs
      · exact hs
      · have := (deed.ticket_made result hs).1
        have := hrecord.issued e s hm
        omega
    | passed idle first nobody =>
      have hm : .called e s ∈ trace := by simpa using hm
      rw [start_of_nobody idle first nobody]
      exact (ih hbefore hm).snoc _ rfl fun _ hs => hs
    | @begun x rest idle first somebody =>
      have hm : .called e s ∈ trace := by simpa using hm
      -- nothing was being delivered, so the subscription is on no roster
      have hoff : ∀ signal, s ∉ b.subscriptions signal := by
        intro signal hs
        obtain ⟨d, hd, -⟩ := (ih hbefore hm).lasting signal hs
        simp [idle] at hd
      obtain ⟨r, -, hs⟩ := start_of_somebody idle first somebody
      rw [hs]
      refine ⟨fun d hd => ?_, fun signal hs => absurd hs (hoff signal)⟩
      cases hd
      exact hoff x.signal
    | @called _ d t running next =>
      obtain ⟨dead, later, hp, -, -, rfl⟩ := callNext_some running next
      rcases List.mem_append.mp hm with hm | hm
      · have hcalled := ih hbefore hm
        refine ⟨fun x hx hs => ?_, fun signal hs => ?_⟩
        · cases hx
          exact hcalled.pending d running (by simp [hp, hs])
        · obtain ⟨x, hx, hmx⟩ := hcalled.lasting signal hs
          have hxd : x = d := Option.some.inj (hx.symm.trans running)
          exact ⟨_, rfl, List.mem_append_left _ (hxd ▸ hmx)⟩
      · cases List.mem_singleton.mp hm
        refine ⟨fun x hx hs => ?_, fun signal _ => ⟨_, rfl, by simp⟩⟩
        cases hx
        -- it would be pending twice
        have hnodup := run.orderly.pending d running
        rw [hp, List.map_append, List.map_cons] at hnodup
        have := (List.nodup_cons.mp (List.nodup_append.mp hnodup).2.1).1
        exact this (List.mem_map_of_mem hs)
    | @ended _ d was none =>
      have hm : .called e s ∈ trace := by simpa using hm
      have hcalled := ih hbefore hm
      have hmove := Move.ended was none
      obtain ⟨spent, -, hf⟩ := callNext_none_finish was none
      rw [hf] at hmove ⊢
      refine ⟨fun x hx => (by cases hx), fun signal hs => ?_⟩
      have hroster := ((mem_subscriptions_finish rfl signal s).mp hs).1
      obtain ⟨x, hx, hmx⟩ := hcalled.lasting signal hroster
      have hxd : x = d := Option.some.inj (hx.symm.trans was)
      subst hxd
      obtain ⟨rfl, -⟩ := hrecord.same _ s hmx signal s (.inl hroster) rfl
      exact absurd ⟨trace, x.event, [], b, _, rfl, run, hmove, hmx, hs⟩ stays

/-- A subscription that outlives no delivery is called at most once. -/
theorem Run.calls_le_one {trace : List (Turn η α)} {b : Bus η α} (run : Run {} trace b)
    {s : Subscription η} (stays : ¬ Outlives s trace) : calls s trace ≤ 1 := by
  induction run with
  | nil => simp [calls]
  | @snoc b c trace turn run move ih =>
    have hbefore : ¬ Outlives s trace := fun h => stays (h.snoc turn)
    rw [calls_snoc]
    cases move with
    | @called _ d t running next =>
      rw [calls_called]
      split
      · rename_i hts
        subst hts
        obtain ⟨dead, later, hp, -⟩ := callNext_some running next
        have hnot : ∀ e, .called e t ∉ trace := by
          intro e hm
          refine (run.called hbefore hm).pending d running ?_
          simp [hp]
        have hzero := calls_eq_zero hnot
        omega
      · exact ih hbefore
    | _ => exact ih hbefore

/-- **A subscription that is called once is called at most once, or it outlives a delivery that
called it; and it outlives a delivery just when it is on the roster in the end and somebody
unsubscribed from the signal meanwhile.** -/
theorem Run.one_shot {trace : List (Turn η α)} {b : Bus η α} (run : Run {} trace b)
    {s : Subscription η} (once : s.oneShot = true) :
    (calls s trace ≤ 1 ∨ Outlives s trace) ∧
      ∀ e c, .called e s ∈ trace → Move b (.ended e) c →
        (s ∈ c.subscriptions e.signal ↔
          s ∈ b.subscriptions e.signal ∧ Replaced e trace) := by
  constructor
  · by_cases h : Outlives s trace
    · exact .inr h
    · exact .inl (run.calls_le_one h)
  · intro e c hm move
    cases move with
    | @ended _ d running none =>
      have hway := run.underway running
      have hspent := hway.spent s hm once
      obtain ⟨spent, hmore, hf⟩ := callNext_none_finish running none
      rw [hf, mem_subscriptions_finish rfl]
      constructor
      · rintro ⟨hs, hnot⟩
        refine ⟨hs, Classical.not_not.mp fun hrep => hnot ⟨?_, hmore _ hspent⟩⟩
        exact (hway.current s hs (.inr hspent)).mpr hrep
      · rintro ⟨hs, hrep⟩
        refine ⟨hs, fun hcur => ?_⟩
        exact (hway.current s hs (.inr hspent)).mp hcur.1 hrep

/-! ## A subscription that outlives a delivery -/

/-- The subscription of handler 1, who comes second and is to be called once. -/
def guest : Subscription Nat :=
  { ticket := 2, priority := .int 0, handler := 1, oneShot := true, weak := false }

/-- Handler 0 leaves while the first of two events is delivered, before handler 1 is called. -/
def leaving : List (Option (Deed Nat Unit)) :=
  [some (.subscribe .labelStarted 0 (.int 0) false false),
    some (.subscribe .labelStarted 1 (.int 0) true false),
    some (.publish .labelStarted ()), none, none, some (.unsubscribe .labelStarted 0), none, none,
    some (.publish .labelStarted ()), none, none]

/-- The general theorem for a run in which handler 1 is called a second time. -/
theorem one_shot_leaving : guest.oneShot = true ∧
    (calls guest (play {} leaving).1 ≤ 1 ∨ Outlives guest (play {} leaving).1) :=
  ⟨rfl, (Run.one_shot (play_run {} leaving) rfl).1⟩

/-- Not every subscription that is to be called once is called at most once. -/
theorem exists_called_twice : ∃ (trace : List (Turn Nat Unit)) (b : Bus Nat Unit)
    (s : Subscription Nat), Run {} trace b ∧ s.oneShot = true ∧ calls s trace = 2 :=
  ⟨_, _, guest, play_run {} leaving, rfl, by decide⟩

end Dialogue.Bus
