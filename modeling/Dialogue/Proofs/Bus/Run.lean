import Dialogue.Proofs.Bus.Rosters

/-!
# Runs of a bus

A run is what happens to a bus one after the other: deeds of the host and of the handlers that are
being called, in any order, and between them the steps by which waiting events are delivered.  Deeds
may come at any time, so a run lets handlers do whatever they like.

## Results

* `play_run` — a run can be had by playing deeds and steps one after the other.
* `Run.split`, `Run.unique` — a run can be interrupted anywhere, and leads to one state only.
* `Move.present` — nobody is on a roster, or pending, that has not subscribed.
* `Run.distinct` — no event is taken from the queue twice.
* `Run.orderly` — after every run a ticket stands for one subscription to one signal, and numbers
  that are to be given out are not in use.
-/

set_option autoImplicit false

namespace Dialogue.Bus

variable {η α : Type}

/-! ## Turns and runs -/

/-- What happens to a bus. -/
inductive Turn (η α : Type) where
  /-- The host or a handler does something. -/
  | deed (d : Deed η α)
  /-- An event that nobody waits for is taken from the queue. -/
  | passed (e : Event α)
  /-- The delivery of an event begins. -/
  | begun (e : Event α)
  /-- A handler is called for an event. -/
  | called (e : Event α) (s : Subscription η)
  /-- The delivery of an event ends. -/
  | ended (e : Event α)

/-- The event that a turn takes from the queue. -/
def Turn.taken? : Turn η α → Option (Event α)
  | .passed e => some e
  | .begun e => some e
  | _ => none

/-- The events that were taken from the queue, in order. -/
def taken (trace : List (Turn η α)) : List (Event α) :=
  trace.filterMap Turn.taken?

variable [DecidableEq η]

/-- One turn of a bus. -/
inductive Move : Bus η α → Turn η α → Bus η α → Prop where
  | deed {b c : Bus η α} {d : Deed η α} (result : d.result b = .ok c) : Move b (.deed d) c
  | passed {b : Bus η α} {e : Event α} {rest : List (Event α)} (idle : b.running? = none)
    (first : b.queue = e :: rest) (nobody : b.subscriptions e.signal = []) :
    Move b (.passed e) b.start
  | begun {b : Bus η α} {e : Event α} {rest : List (Event α)} (idle : b.running? = none)
    (first : b.queue = e :: rest) (somebody : b.subscriptions e.signal ≠ []) :
    Move b (.begun e) b.start
  | called {b c : Bus η α} {d : Delivery η α} {s : Subscription η} (running : b.running? = some d)
    (next : b.callNext = (some s, c)) : Move b (.called d.event s) c
  | ended {b c : Bus η α} {d : Delivery η α} (running : b.running? = some d)
    (none : b.callNext = (none, c)) : Move b (.ended d.event) c.finish

/-- The turns that lead from one state of a bus to another one. -/
inductive Run : Bus η α → List (Turn η α) → Bus η α → Prop where
  | nil (b : Bus η α) : Run b [] b
  | snoc {a b c : Bus η α} {trace : List (Turn η α)} {turn : Turn η α} (run : Run a trace b)
    (move : Move b turn c) : Run a (trace ++ [turn]) c

theorem Run.append {a b c : Bus η α} {first second : List (Turn η α)} (h : Run a first b)
    (k : Run b second c) : Run a (first ++ second) c := by
  induction k with
  | nil => simpa using h
  | snoc _ move ih =>
    rw [← List.append_assoc]
    exact ih.snoc move

theorem Run.of_snoc {a c : Bus η α} {trace : List (Turn η α)} {turn : Turn η α}
    (h : Run a (trace ++ [turn]) c) : ∃ b, Run a trace b ∧ Move b turn c := by
  generalize heq : trace ++ [turn] = whole at h
  cases h with
  | nil => simp at heq
  | snoc run move =>
    obtain ⟨rfl, hlast⟩ := List.append_inj' heq rfl
    cases hlast
    exact ⟨_, run, move⟩

/-- A run can be interrupted anywhere. -/
theorem Run.split {a c : Bus η α} {first second : List (Turn η α)}
    (h : Run a (first ++ second) c) : ∃ b, Run a first b ∧ Run b second c := by
  induction second generalizing first with
  | nil => exact ⟨c, by simpa using h, .nil c⟩
  | cons turn second ih =>
    rw [List.append_cons] at h
    obtain ⟨m, hm, hsecond⟩ := ih h
    obtain ⟨b, hb, move⟩ := hm.of_snoc
    exact ⟨b, hb, ((Run.nil b).snoc move).append hsecond⟩

/-- A turn leads to one state only. -/
theorem Move.unique {b c x : Bus η α} {turn : Turn η α} (h : Move b turn c) (k : Move b turn x) :
    c = x := by
  cases h with
  | deed result =>
    cases k with
    | deed other => exact Except.ok.inj (result.symm.trans other)
  | passed => cases k with | passed => rfl
  | begun => cases k with | begun => rfl
  | @called _ d s _ next =>
    generalize hturn : Turn.called d.event s = turn at k
    cases k with
    | called _ other =>
      obtain ⟨-, rfl⟩ := Turn.called.inj hturn
      exact (Prod.mk.inj (next.symm.trans other)).2
    | _ => cases hturn
  | @ended _ d _ none =>
    generalize hturn : Turn.ended d.event = turn at k
    cases k with
    | ended _ other => rw [(Prod.mk.inj (none.symm.trans other)).2]
    | _ => cases hturn

/-- A run leads to one state only. -/
theorem Run.unique {a b c : Bus η α} {trace : List (Turn η α)} (h : Run a trace b)
    (k : Run a trace c) : b = c := by
  induction h generalizing c with
  | nil =>
    generalize hempty : ([] : List (Turn η α)) = trace at k
    cases k with
    | nil => rfl
    | snoc => simp at hempty
  | snoc run move ih =>
    obtain ⟨x, hx, other⟩ := k.of_snoc
    cases ih hx
    exact move.unique other

theorem Run.of_cons {a c : Bus η α} {turn : Turn η α} {trace : List (Turn η α)}
    (h : Run a (turn :: trace) c) : ∃ b, Move a turn b ∧ Run b trace c := by
  have happend : Run a ([turn] ++ trace) c := h
  obtain ⟨b, hfirst, hrest⟩ := happend.split
  have hsnoc : Run a ([] ++ [turn]) b := hfirst
  obtain ⟨x, hnil, move⟩ := hsnoc.of_snoc
  cases hnil.unique (.nil a)
  exact ⟨b, move, hrest⟩

/-- The step by which the delivery of what waits goes on. -/
def advance (b : Bus η α) : Option (Turn η α × Bus η α) :=
  match b.running?, b.queue with
  | some d, _ =>
    match b.callNext with
    | (some s, c) => some (.called d.event s, c)
    | (none, c) => some (.ended d.event, c.finish)
  | none, e :: _ =>
    some (if (b.subscriptions e.signal).isEmpty then .passed e else .begun e, b.start)
  | none, [] => none

theorem advance_move {b c : Bus η α} {turn : Turn η α} (h : b.advance = some (turn, c)) :
    Move b turn c := by
  unfold advance at h
  split at h
  · rename_i d _ running
    split at h
    · rename_i s x next
      cases h
      exact .called running next
    · rename_i x none
      cases h
      exact .ended running none
  · rename_i e rest idle first
    split at h
    · rename_i nobody
      cases h
      exact .passed idle first (List.isEmpty_iff.mp nobody)
    · rename_i somebody
      cases h
      exact .begun idle first (by simpa using somebody)
  · cases h

/-- Play deeds, with steps of delivery where none is given.  Refused deeds are left out, and so are
steps when nothing waits. -/
def play (b : Bus η α) : List (Option (Deed η α)) → List (Turn η α) × Bus η α
  | [] => ([], b)
  | some d :: rest =>
    match d.result b with
    | .ok c => ((.deed d) :: (play c rest).1, (play c rest).2)
    | .error _ => play b rest
  | none :: rest =>
    match b.advance with
    | some (turn, c) => (turn :: (play c rest).1, (play c rest).2)
    | none => play b rest

/-- What is played is a run. -/
theorem play_run (b : Bus η α) (cues : List (Option (Deed η α))) :
    Run b (b.play cues).1 (b.play cues).2 := by
  induction cues generalizing b with
  | nil => exact Run.nil b
  | cons cue rest ih =>
    cases cue with
    | some d =>
      unfold play
      split
      · rename_i c result
        exact ((Run.nil b).snoc (.deed result)).append (ih c)
      · exact ih b
    | none =>
      unfold play
      split
      · rename_i turn c h
        exact ((Run.nil b).snoc (advance_move h)).append (ih c)
      · exact ih b

/-! ## Events -/

/-- No two events that were taken or that wait have the same number. -/
structure Distinct (trace : List (Turn η α)) (b : Bus η α) : Prop where
  nodup : ((taken trace ++ b.queue).map Event.number).Nodup
  issued : ∀ e ∈ taken trace ++ b.queue, e.number < b.issued

omit [DecidableEq η] in
theorem taken_append (first second : List (Turn η α)) :
    taken (first ++ second) = taken first ++ taken second :=
  List.filterMap_append

/-- A turn takes the first event that waits, or lets a new one wait behind the others. -/
theorem Move.events {b c : Bus η α} {turn : Turn η α} (h : Move b turn c) :
    b.issued ≤ c.issued ∧
      ((taken [turn] ++ c.queue = b.queue) ∨
        ∃ e, e.number = b.issued ∧ b.issued < c.issued ∧
          taken [turn] ++ c.queue = b.queue ++ [e]) := by
  cases h with
  | @deed _ d result =>
    obtain ⟨-, hi, hq⟩ := d.result_spec result
    refine ⟨hi, ?_⟩
    cases d with
    | publish g data =>
      cases result
      exact .inr ⟨_, rfl, by simp [publish], hq⟩
    | _ => exact .inl (hq.trans (List.append_nil _))
  | passed idle first nobody =>
    rw [start_of_nobody idle first nobody]
    exact ⟨Nat.le_refl _, .inl first.symm⟩
  | begun idle first somebody =>
    obtain ⟨r, -, hs⟩ := start_of_somebody idle first somebody
    rw [hs]
    exact ⟨Nat.le_refl _, .inl first.symm⟩
  | called running next =>
    obtain ⟨_, _, -, -, -, rfl⟩ := callNext_some running next
    exact ⟨Nat.le_refl _, .inl rfl⟩
  | ended running none =>
    rcases callNext_none running none with ⟨-, rfl⟩ | ⟨-, _, rfl⟩
    · simp only [finish, running]
      exact ⟨Nat.le_refl _, .inl rfl⟩
    · exact ⟨Nat.le_refl _, .inl rfl⟩

theorem Run.distinct {trace : List (Turn η α)} {b : Bus η α} (run : Run {} trace b) :
    Distinct trace b := by
  induction run with
  | nil => exact ⟨by simp [taken], by simp [taken]⟩
  | snoc _ move ih =>
    obtain ⟨hn, hi⟩ := ih
    obtain ⟨hle, hq | ⟨e, he, hlt, hq⟩⟩ := move.events
    · refine ⟨?_, ?_⟩ <;> rw [taken_append, List.append_assoc, hq]
      · exact hn
      · exact fun e he => Nat.lt_of_lt_of_le (hi e he) hle
    · refine ⟨?_, ?_⟩ <;> rw [taken_append, List.append_assoc, hq, ← List.append_assoc]
      · rw [List.map_append, List.nodup_append]
        refine ⟨hn, by simp, ?_⟩
        intro n hn m hm hnm
        obtain ⟨x, hx, rfl⟩ := List.mem_map.mp hn
        have hlt := hi x hx
        simp only [List.map_cons, List.map_nil, List.mem_singleton] at hm
        omega
      · intro x hx
        rcases List.mem_append.mp hx with hx | hx
        · exact Nat.lt_of_lt_of_le (hi x hx) hle
        · rw [List.mem_singleton.mp hx]
          omega

/-! ## Subscriptions -/

/-- Is this subscription on the roster of a signal, or still to be come to by a delivery of it? -/
def Present (b : Bus η α) (signal : Signal) (s : Subscription η) : Prop :=
  s ∈ b.subscriptions signal ∨
    ∃ d, b.running? = some d ∧ d.event.signal = signal ∧ s ∈ d.pending

/-- Nobody is present that was not before, but for those that subscribe. -/
theorem Move.present {b c : Bus η α} {turn : Turn η α} (move : Move b turn c) {signal : Signal}
    {s : Subscription η} (h : c.Present signal s) :
    b.Present signal s ∨ ∃ d, turn = .deed d ∧ d.made? b = some (signal, s) := by
  cases move with
  | @deed _ d result =>
    rcases h with hs | ⟨x, hx, hsig, hs⟩
    · rcases d.mem_subscriptions result hs with hs | hs
      · exact .inl (.inl hs)
      · exact .inr ⟨d, rfl, hs⟩
    · exact .inl (.inr ⟨x, (d.result_spec result).1 ▸ hx, hsig, hs⟩)
  | passed idle first nobody =>
    rw [start_of_nobody idle first nobody] at h
    exact .inl h
  | begun idle first somebody =>
    obtain ⟨r, -, hs⟩ := start_of_somebody idle first somebody
    rw [hs] at h
    rcases h with hs | ⟨x, hx, rfl, hs⟩
    · exact .inl (.inl hs)
    · cases hx
      exact .inl (.inl hs)
  | @called _ d s running next =>
    obtain ⟨dead, later, hp, -, -, rfl⟩ := callNext_some running next
    rcases h with hs | ⟨x, hx, rfl, hs⟩
    · exact .inl (.inl hs)
    · cases hx
      exact .inl (.inr ⟨d, running, rfl, by simp [hp, hs]⟩)
  | ended running none =>
    obtain ⟨spent, -, hf⟩ := callNext_none_finish running none
    rw [hf] at h
    rcases h with hs | ⟨x, hx, -⟩
    · exact .inl (.inl ((mem_subscriptions_finish rfl signal s).mp hs).1)
    · cases hx

/-- A ticket stands for one subscription to one signal, and numbers not given out are not in
use. -/
structure Orderly (b : Bus η α) : Prop where
  fresh : ∀ signal s, b.Present signal s → s.ticket < b.issued
  single : ∀ signal s other t, b.Present signal s → b.Present other t → s.ticket = t.ticket →
    signal = other ∧ s = t
  nodup : ∀ signal, ((b.subscriptions signal).map Subscription.ticket).Nodup
  pending : ∀ d, b.running? = some d → (d.pending.map Subscription.ticket).Nodup
  edition : ∀ signal r, b.roster? signal = some r → r.edition < b.issued
  begun : ∀ d, b.running? = some d → d.edition < b.issued

omit [DecidableEq η] in
theorem Orderly.new : Orderly ({} : Bus η α) := by
  have hs : ∀ signal s, ¬ Present ({} : Bus η α) signal s := by
    rintro signal s (h | ⟨d, h, -⟩)
    · simp [subscriptions, roster?, rosterIn?] at h
    · cases h
  exact ⟨fun _ _ h => absurd h (hs _ _), fun _ _ _ _ h => absurd h (hs _ _),
    fun signal => by simp [subscriptions, roster?, rosterIn?], fun _ h => (by cases h),
    fun _ _ h => (by simp [roster?, rosterIn?] at h), fun _ h => (by cases h)⟩

theorem Orderly.deed {b c : Bus η α} {d : Deed η α} (h : Orderly b) (result : d.result b = .ok c) :
    Orderly c := by
  obtain ⟨hrun, hle, -⟩ := d.result_spec result
  have hpresent : ∀ signal s, c.Present signal s →
      b.Present signal s ∨ d.made? b = some (signal, s) := by
    intro signal s hs
    rcases (Move.deed result).present hs with hs | ⟨x, hx, hs⟩
    · exact .inl hs
    · cases hx
      exact .inr hs
  refine ⟨?_, ?_, ?_, fun x hx => h.pending x (hrun ▸ hx), ?_, ?_⟩
  · intro signal s hs
    rcases hpresent signal s hs with hs | hs
    · exact Nat.lt_of_lt_of_le (h.fresh signal s hs) hle
    · obtain ⟨ht, hlt⟩ := d.ticket_made result hs
      omega
  · -- each of the two was there before, or was made just now with a number nobody had
    intro signal s other t hs ht hst
    rcases hpresent signal s hs with hs | hs <;> rcases hpresent other t ht with ht | ht
    · exact h.single signal s other t hs ht hst
    · have := h.fresh signal s hs
      have := (d.ticket_made result ht).1
      omega
    · have := h.fresh other t ht
      have := (d.ticket_made result hs).1
      omega
    · rw [hs, Option.some.injEq, Prod.mk.injEq] at ht
      exact ht
  · intro signal
    cases d.change result signal with
    | kept _ same => exact subscriptions_congr same ▸ h.nodup signal
    | joined inserted now _ =>
      rw [subscriptions_eq_of_roster? now, ((insertByPriority_perm inserted).map _).nodup_iff,
        List.map_cons, List.nodup_cons]
      refine ⟨fun hm => ?_, h.nodup signal⟩
      obtain ⟨s, hs, ht⟩ := List.mem_map.mp hm
      have := h.fresh signal s (.inl hs)
      simp only at ht
      omega
    | nobody _ same => exact subscriptions_congr same ▸ h.nodup signal
    | left before now _ =>
      rw [subscriptions_eq_of_roster? now]
      have := h.nodup signal
      rw [subscriptions_eq_of_roster? before] at this
      exact this.sublist (List.filter_sublist.map _)
    | cleared _ now => simp [subscriptions, now]
  · intro signal r hr
    cases d.change result signal with
    | kept _ same => exact Nat.lt_of_lt_of_le (h.edition signal r (same ▸ hr)) hle
    | joined _ now issued =>
      rw [now, Option.some.injEq] at hr
      subst hr
      cases hb : b.roster? signal with
      | none =>
        simp only [Option.elim_none]
        omega
      | some old =>
        have := h.edition signal old hb
        simp only [Option.elim_some]
        omega
    | nobody _ same => exact Nat.lt_of_lt_of_le (h.edition signal r (same ▸ hr)) hle
    | left _ now issued =>
      rw [now, Option.some.injEq] at hr
      subst hr
      simp only
      omega
    | cleared _ now =>
      rw [now] at hr
      cases hr
  · exact fun x hx => Nat.lt_of_lt_of_le (h.begun x (hrun ▸ hx)) hle

omit [DecidableEq η] in
/-- A bus on which nothing new stands is as orderly as before. -/
theorem Orderly.of_present {b c : Bus η α} (h : Orderly b) (issued : c.issued = b.issued)
    (present : ∀ signal s, c.Present signal s → b.Present signal s)
    (entries : ∀ signal, (c.subscriptions signal).Sublist (b.subscriptions signal))
    (edition : ∀ signal r, c.roster? signal = some r →
      ∃ old, b.roster? signal = some old ∧ r.edition = old.edition)
    (running : ∀ d, c.running? = some d →
      (d.pending.map Subscription.ticket).Nodup ∧ d.edition < b.issued) : Orderly c where
  fresh signal s hs := issued ▸ h.fresh signal s (present signal s hs)
  single signal s other t hs ht := h.single signal s other t (present _ _ hs) (present _ _ ht)
  nodup signal := (h.nodup signal).sublist ((entries signal).map _)
  pending d hd := (running d hd).1
  edition signal r hr := by
    obtain ⟨old, ho, he⟩ := edition signal r hr
    rw [issued, he]
    exact h.edition signal old ho
  begun d hd := issued ▸ (running d hd).2

theorem Move.orderly {b c : Bus η α} {turn : Turn η α} (h : Orderly b) (move : Move b turn c) :
    Orderly c := by
  -- what is no deed brings nobody new
  have hpresent : (∀ d, turn ≠ .deed d) → ∀ signal s, c.Present signal s → b.Present signal s := by
    intro hturn signal s hs
    rcases move.present hs with hs | ⟨d, hd, -⟩
    · exact hs
    · exact absurd hd (hturn d)
  cases move with
  | deed result => exact h.deed result
  | passed idle first nobody =>
    have hnobody := hpresent (by simp)
    rw [start_of_nobody idle first nobody] at hnobody ⊢
    exact h.of_present rfl hnobody (fun _ => List.Sublist.refl _)
      (fun _ r hr => ⟨r, hr, rfl⟩) fun d hd => by simp [idle] at hd
  | @begun e _ idle first somebody =>
    obtain ⟨r, hr, hs⟩ := start_of_somebody idle first somebody
    have hnobody := hpresent (by simp)
    rw [hs] at hnobody ⊢
    refine h.of_present rfl hnobody (fun _ => List.Sublist.refl _) (fun _ r hr => ⟨r, hr, rfl⟩) ?_
    intro d hd
    cases hd
    exact ⟨h.nodup e.signal, h.edition e.signal r hr⟩
  | @called _ d s running next =>
    obtain ⟨dead, later, hp, -, -, rfl⟩ := callNext_some running next
    have hsub : later.Sublist d.pending := hp ▸ ((List.suffix_cons s later).trans
      (List.suffix_append dead _)).sublist
    refine h.of_present rfl (hpresent (by simp)) (fun _ => List.Sublist.refl _)
      (fun _ r hr => ⟨r, hr, rfl⟩) ?_
    intro x hx
    cases hx
    exact ⟨(h.pending d running).sublist (hsub.map _), h.begun d running⟩
  | @ended c d running none =>
    have hnobody := hpresent (by simp)
    obtain ⟨spent, -, hf⟩ := callNext_none_finish running none
    rw [hf] at hnobody ⊢
    have hstruck := roster?_finish (b := { b with running? := some { d with spent } }) rfl
    refine h.of_present rfl hnobody (fun g => ?_) (fun g r hr => ?_) fun y hy => by cases hy
    · cases hb : b.roster? g with
      | none => simp [subscriptions, (hstruck g).trans (congrArg _ hb)]
      | some r =>
        rw [subscriptions_eq_of_roster? ((hstruck g).trans (congrArg _ hb)),
          subscriptions_eq_of_roster? hb]
        unfold strike
        split
        · exact List.filter_sublist
        · exact List.Sublist.refl _
    · rw [hstruck g] at hr
      obtain ⟨old, ho, rfl⟩ := Option.map_eq_some_iff.mp hr
      refine ⟨old, ho, ?_⟩
      unfold strike
      split <;> rfl

/-- **After every run a ticket stands for one subscription to one signal.** -/
theorem Run.orderly {trace : List (Turn η α)} {b : Bus η α} (run : Run {} trace b) : Orderly b := by
  induction run with
  | nil => exact Orderly.new
  | snoc _ move ih => exact move.orderly ih

end Dialogue.Bus
