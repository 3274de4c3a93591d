import Dialogue.Proofs.Bus.Leaving
import Dialogue.Proofs.Bus.Priorities

/-!
# Who stays on a roster

A roster is edited in three ways: a subscription is inserted, the roster is replaced by what is left
of it, and what a delivery has spent is struck off in the end, though the roster may have gone on in
another edition by then.  None of them loses a subscription that has no reason to go.

## Results

* `Run.accounted` — what a delivery has spent was called once, or was found dead by that delivery.
* `Run.stays` — a subscription is on the roster of its signal unless it was released.
* `Run.kept_rosters` — every roster is in order, holds nobody twice, and holds whoever has subscribed
  and was not released.
-/

set_option autoImplicit false

namespace Dialogue.Bus

variable {η α : Type} [DecidableEq η]

/-! ## Reasons to go -/

/-- A delivery for this signal came to a subscription and found its handler gone: nobody kept it, and
the delivery did not hold it any more. -/
def Died (trace : List (Turn η α)) (signal : Signal) (s : Subscription η) : Prop :=
  ∃ first rest c d before after, trace = first ++ rest ∧ Run {} first c ∧ c.running? = some d ∧
    d.event.signal = signal ∧ d.pending = before ++ s :: after ∧ c.PassesOver d (before ++ [s])

/-- Why a subscription may have gone from the roster of its signal. -/
inductive Released (trace : List (Turn η α)) (signal : Signal) (s : Subscription η)
    (later : List (Turn η α)) : Prop where
  /-- Its handler unsubscribed, or the roster was cleared. -/
  | parted {d : Deed η α} (deed : .deed d ∈ later) (ends : d.Ends signal s.handler)
  /-- It was to be called once, and was called. -/
  | called {e : Event α} (once : s.oneShot = true) (call : .called e s ∈ later)
  /-- Its handler was held weakly and died. -/
  | died (weak : s.weak = true) (dead : Died trace signal s)

theorem Died.snoc {trace : List (Turn η α)} {signal : Signal} {s : Subscription η}
    (h : Died trace signal s) (turn : Turn η α) : Died (trace ++ [turn]) signal s := by
  obtain ⟨first, rest, c, d, before, after, rfl, h⟩ := h
  exact ⟨first, rest ++ [turn], c, d, before, after, by simp, h⟩

theorem Released.snoc {trace later : List (Turn η α)} {signal : Signal} {s : Subscription η}
    (h : Released trace signal s later) (turn : Turn η α) :
    Released (trace ++ [turn]) signal s (later ++ [turn]) := by
  cases h with
  | parted deed ends => exact .parted (List.mem_append_left _ deed) ends
  | called once call => exact .called once (List.mem_append_left _ call)
  | died weak dead => exact .died weak (dead.snoc turn)

/-- Only a handler that is held weakly can be gone. -/
theorem Died.weak {trace : List (Turn η α)} {signal : Signal} {s : Subscription η}
    (h : Died trace signal s) : s.weak = true := by
  obtain ⟨_, _, c, d, before, _, -, -, -, -, -, -, hdead⟩ := h
  have hkept : c.isKept s = false := hdead.1 s (by simp)
  simp only [isKept, Bool.or_eq_false_iff] at hkept
  simpa using hkept.1.1

/-! ## What a delivery spends -/

/-- A subscription that a delivery has done with: it was called once, or found dead. -/
def Done (trace : List (Turn η α)) (signal : Signal) (s : Subscription η) : Prop :=
  (s.oneShot = true ∧ ∃ e, .called e s ∈ trace) ∨ Died trace signal s

theorem Done.snoc {trace : List (Turn η α)} {signal : Signal} {s : Subscription η}
    (h : Done trace signal s) (turn : Turn η α) : Done (trace ++ [turn]) signal s := by
  rcases h with ⟨once, e, call⟩ | dead
  · exact .inl ⟨once, e, List.mem_append_left _ call⟩
  · exact .inr (dead.snoc turn)

/-- Whoever is passed over as dead is done with. -/
theorem Run.done_of_dead {trace : List (Turn η α)} {b : Bus η α} (run : Run {} trace b)
    {d : Delivery η α} (running : b.running? = some d) {signal : Signal} {s t : Subscription η}
    (present : b.Present signal s) {dead later : List (Subscription η)}
    (pending : d.pending = dead ++ later) (passes : b.PassesOver d dead) (ht : t ∈ dead)
    (same : t.ticket = s.ticket) : Done trace signal s := by
  have hpending : t ∈ d.pending := pending ▸ List.mem_append_left _ ht
  obtain ⟨rfl, rfl⟩ := run.orderly.single _ _ _ _ (.inr ⟨d, running, rfl, hpending⟩) present same
  obtain ⟨before, after, rfl⟩ := List.append_of_mem ht
  have hsplit : before ++ t :: after = (before ++ [t]) ++ after := by simp
  refine .inr ⟨trace, [], b, d, before, after ++ later, by simp, run, running, rfl, ?_, passes.1, ?_⟩
  · rw [pending, List.append_assoc, List.cons_append]
  · exact (hsplit ▸ passes.2).left

/-- A call spends who is called, if it was to be called once, and whoever was found dead on the way. -/
theorem Run.done_of_call {trace : List (Turn η α)} {b c : Bus η α} (run : Run {} trace b)
    {x d : Delivery η α} {t : Subscription η} (was : b.running? = some x)
    (next : b.callNext = (some t, c)) (running : c.running? = some d) {signal : Signal}
    {s : Subscription η} (present : b.Present signal s) (spent : s.ticket ∈ d.spent) :
    s.ticket ∈ x.spent ∨ Done (trace ++ [.called x.event t]) signal s := by
  obtain ⟨dead, rest, hp, hdead, -, rfl⟩ := callNext_some was next
  cases running
  rcases List.mem_append.mp spent with hs | hs
  · refine .inr ?_
    split at hs
    · rename_i once
      obtain ⟨-, rfl⟩ := run.orderly.single _ _ _ _ present
        (.inr ⟨x, was, rfl, by simp [hp]⟩) (List.mem_singleton.mp hs)
      exact .inl ⟨once, x.event, by simp⟩
    · cases hs
  · rcases List.mem_append.mp hs with hs | hs
    · obtain ⟨u, hu, same⟩ := List.mem_map.mp (List.mem_reverse.mp hs)
      exact .inr ((run.done_of_dead was present hp hdead hu same).snoc _)
    · exact .inl hs

/-- **Whoever a delivery has spent was called once, or was found dead.** -/
theorem Run.accounted {trace : List (Turn η α)} {b : Bus η α} (run : Run {} trace b)
    {d : Delivery η α} (running : b.running? = some d) {signal : Signal} {s : Subscription η}
    (present : b.Present signal s) (spent : s.ticket ∈ d.spent) : Done trace signal s := by
  induction run generalizing d with
  | nil => cases running
  | @snoc b c trace turn run move ih =>
    -- a new subscription has a ticket that nobody has spent
    have hbefore : b.running? = some d → s.ticket ∈ d.spent → Done (trace ++ [turn]) signal s := by
      intro hd hs
      rcases move.present present with hp | ⟨x, rfl, made⟩
      · exact (ih hd hp hs).snoc turn
      · have := (run.underway hd).issued _ hs
        cases move with
        | deed result =>
          have := (x.ticket_made result made).1
          omega
    cases move with
    | @deed _ x result => exact hbefore ((x.result_spec result).1 ▸ running) spent
    | passed idle first nobody =>
      rw [start_of_nobody idle first nobody] at running
      simp [idle] at running
    | begun idle first somebody =>
      obtain ⟨r, -, hs⟩ := start_of_somebody idle first somebody
      rw [hs] at running
      cases running
      cases spent
    | called was next =>
      have hpresent : b.Present signal s := by
        rcases Move.present (.called was next) present with h | ⟨y, hy, -⟩
        · exact h
        · cases hy
      rcases run.done_of_call was next running hpresent spent with hs | hdone
      · exact (ih was hpresent hs).snoc _
      · exact hdone
    | ended was none =>
      obtain ⟨spent, -, hf⟩ := callNext_none_finish was none
      rw [hf] at running
      cases running

/-! ## Staying -/

/-- A subscription is on the roster as soon as it is made. -/
theorem Deed.mem_of_made {b c : Bus η α} {d : Deed η α} (result : d.result b = .ok c)
    {signal : Signal} {s : Subscription η} (made : d.made? b = some (signal, s)) :
    s ∈ c.subscriptions signal := by
  cases d with
  | subscribe g handler priority oneShot weak =>
    cases made
    obtain ⟨entries, hi, rfl⟩ := subscribe_eq_ok result
    have hr := roster?_enroll (b := b) signal signal entries
    rw [if_pos rfl] at hr
    rw [subscriptions_eq_of_roster? hr]
    exact (insertByPriority_perm hi).mem_iff.mpr List.mem_cons_self
  | _ => cases made

/-- A deed takes only those off a roster whose waiting it ends. -/
theorem Deed.stays {b c : Bus η α} {d : Deed η α} (result : d.result b = .ok c) {signal : Signal}
    {s : Subscription η} (h : s ∈ b.subscriptions signal) :
    s ∈ c.subscriptions signal ∨ d.Ends signal s.handler := by
  cases d.change result signal with
  | kept _ same => exact .inl (subscriptions_congr same ▸ h)
  | joined inserted now _ =>
    rw [subscriptions_eq_of_roster? now]
    exact .inl ((insertByPriority_perm inserted).mem_iff.mpr (List.mem_cons_of_mem _ h))
  | nobody nobody _ =>
    rw [nobody] at h
    cases h
  | @left handler r before now _ =>
    by_cases hs : s.handler = handler
    · exact .inr ⟨rfl, hs.symm⟩
    · rw [subscriptions_eq_of_roster? before] at h
      rw [subscriptions_eq_of_roster? now]
      exact .inl (List.mem_filter.mpr ⟨h, by simpa using hs⟩)
  | cleared which _ =>
    rcases which with rfl | rfl
    · exact .inr rfl
    · exact .inr trivial

omit [DecidableEq η] in
/-- Whom the end of a delivery takes off a roster, the delivery has spent. -/
theorem spent_of_struck {b : Bus η α} {signal : Signal} {s : Subscription η}
    (gone : s ∉ b.finish.subscriptions signal) (h : s ∈ b.subscriptions signal)
    {d : Delivery η α} (running : b.running? = some d) : s.ticket ∈ d.spent := by
  rw [mem_subscriptions_finish running] at gone
  by_contra hnot
  exact gone ⟨h, fun hs => hnot hs.2⟩

/-- A turn takes nobody off a roster but whose waiting it ends, and whom a delivery has done
with. -/
theorem Run.stays_snoc {trace : List (Turn η α)} {b c : Bus η α} (run : Run {} trace b)
    {turn : Turn η α} (move : Move b turn c) {signal : Signal} {s : Subscription η}
    (h : s ∈ b.subscriptions signal) :
    s ∈ c.subscriptions signal ∨ (∃ d, turn = .deed d ∧ d.Ends signal s.handler) ∨
      Done trace signal s := by
  cases move with
  | @deed _ d result =>
    rcases d.stays result h with h | ends
    · exact .inl h
    · exact .inr (.inl ⟨d, rfl, ends⟩)
  | passed idle first nobody =>
    rw [start_of_nobody idle first nobody]
    exact .inl h
  | begun idle first somebody =>
    obtain ⟨r, -, hs⟩ := start_of_somebody idle first somebody
    rw [hs]
    exact .inl h
  | called running next =>
    obtain ⟨_, _, -, -, -, rfl⟩ := callNext_some running next
    exact .inl h
  | @ended c d running none =>
    rw [or_iff_not_imp_left]
    intro hgone
    refine .inr ?_
    rcases callNext_none running none with ⟨-, rfl⟩ | ⟨hdead, _, rfl⟩
    · exact run.accounted running (.inl h) (spent_of_struck hgone h running)
    · rcases List.mem_append.mp (spent_of_struck hgone h rfl) with hs | hs
      · obtain ⟨t, ht, same⟩ := List.mem_map.mp (List.mem_reverse.mp hs)
        exact run.done_of_dead running (.inl h) (List.append_nil _).symm hdead ht same
      · exact run.accounted running (.inl h) hs

/-- What happened since a subscription was made ends with the last turn, or the last turn made
it. -/
theorem Since.of_snoc {b : Bus η α} {trace later : List (Turn η α)} {turn : Turn η α}
    {signal : Signal} {s : Subscription η} (h : Since b (trace ++ [turn]) signal s later) :
    (later = [] ∧ ∃ a d, Run b trace a ∧ turn = .deed d ∧ d.made? a = some (signal, s)) ∨
      ∃ rest, later = rest ++ [turn] ∧ Since b trace signal s rest := by
  obtain ⟨before, a, d, run, made, heq⟩ := h
  rcases List.eq_nil_or_concat later with rfl | ⟨rest, last, rfl⟩
  · obtain ⟨rfl, hlast⟩ := List.append_inj' heq rfl
    exact .inl ⟨rfl, a, d, run, List.singleton_inj.mp hlast, made⟩
  · rw [List.concat_eq_append, ← List.cons_append, ← List.append_assoc] at heq
    obtain ⟨rfl, hlast⟩ := List.append_inj' heq rfl
    cases hlast
    exact .inr ⟨rest, List.concat_eq_append, before, a, d, run, made, rfl⟩

/-- Whoever was called, was called after it had subscribed. -/
theorem Since.called {trace later : List (Turn η α)} {signal : Signal} {s : Subscription η}
    (h : Since {} trace signal s later) {e : Event α} (call : .called e s ∈ trace) :
    .called e s ∈ later := by
  obtain ⟨before, a, d, run, made, rfl⟩ := h
  rcases List.mem_append.mp call with call | call
  · have hlt := run.recorded.issued e s call
    cases d with
    | subscribe =>
      cases made
      exact absurd hlt (Nat.lt_irrefl _)
    | _ => cases made
  · simpa using call

/-- **A subscription is on the roster of its signal unless it was released.** -/
theorem Run.stays {trace later : List (Turn η α)} {b : Bus η α} (run : Run {} trace b)
    {signal : Signal} {s : Subscription η} (h : Since {} trace signal s later) :
    s ∈ b.subscriptions signal ∨ Released trace signal s later := by
  induction run generalizing later with
  | nil =>
    obtain ⟨before, a, d, -, -, heq⟩ := h
    simp at heq
  | @snoc b c trace turn run move ih =>
    have hsince := h
    rcases h.of_snoc with ⟨rfl, a, d, hrun, rfl, made⟩ | ⟨rest, rfl, hrest⟩
    · cases hrun.unique run
      cases move with
      | deed result => exact .inl (d.mem_of_made result made)
    · rcases ih hrest with hs | hreleased
      · rcases run.stays_snoc move hs with hs | ⟨d, rfl, ends⟩ | ⟨once, e, call⟩ | dead
        · exact .inl hs
        · exact .inr (.parted (d := d) (by simp) ends)
        · exact .inr (.called once (hsince.called (List.mem_append_left _ call)))
        · exact .inr (.died dead.weak (dead.snoc turn))
      · exact .inr (hreleased.snoc turn)

/-- **After every run, also while an event is being delivered, every roster is in order, holds nobody
twice, holds only those that subscribed to its signal and have not left since, and holds all that
subscribed to it and were not released.** -/
theorem Run.kept_rosters {trace : List (Turn η α)} {b : Bus η α} (run : Run {} trace b)
    (signal : Signal) :
    (b.subscriptions signal).Pairwise Ahead ∧
      ((b.subscriptions signal).map Subscription.ticket).Nodup ∧
      (∀ s ∈ b.subscriptions signal,
        ∃ later, Since {} trace signal s later ∧ Unbroken signal s.handler later) ∧
      ∀ s later, Since {} trace signal s later →
        s ∈ b.subscriptions signal ∨ Released trace signal s later := by
  refine ⟨run.ranked signal, run.orderly.nodup signal, fun s hs => ?_, fun s later => run.stays⟩
  rcases run.joined hs with ⟨hnew, -⟩ | hsince
  · simp [subscriptions, roster?, rosterIn?] at hnew
  · exact hsince

/-- Handler 2 comes first and is called once, and lets handler 0 leave; the host gives up handler 1
before it is come to, and handler 3 joins meanwhile. -/
def comings : List (Option (Deed Nat Unit)) :=
  [some (.subscribe .labelStarted 0 (.int 0) false false),
    some (.subscribe .labelStarted 1 (.int 0) false true),
    some (.subscribe .labelStarted 2 (.int 5) true false), some (.forget 1),
    some (.publish .labelStarted ()), none, none, some (.unsubscribe .labelStarted 0),
    some (.subscribe .labelStarted 3 (.int 5) false false), none]

/-- The general theorem in the middle of a delivery. -/
theorem kept_rosters_comings :
    ((play {} comings).2.subscriptions .labelStarted).map Subscription.handler = [2, 3, 1] ∧
      ((play {} comings).2.subscriptions .labelStarted).Pairwise Ahead ∧
      ∀ s later, Since {} (play {} comings).1 .labelStarted s later →
        s ∈ (play {} comings).2.subscriptions .labelStarted ∨
          Released (play {} comings).1 .labelStarted s later :=
  have h := Run.kept_rosters (play_run {} comings) .labelStarted
  ⟨rfl, h.1, h.2.2.2⟩

end Dialogue.Bus
