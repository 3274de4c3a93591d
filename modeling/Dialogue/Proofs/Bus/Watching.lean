import Dialogue.Proofs.Bus.Serving

/-!
# Watchers

A watcher waits for every signal before all others, strongly and for good.  As long as nobody else
subscribes with a higher priority, and nobody clears a roster or takes the watcher off it, the watcher
is called first for every event, and for no event twice.

## Results

* `Deed.watched` — a deed that respects the watcher leaves it where it is.
* `Watched.callNext_some`, `Watched.callNext_none`, `Watched.finish` — a delivery that has come to the
  watcher does not come to it again, and leaves it on the roster.
* `Watched.start` — a delivery begins with the call of the watcher.
-/

set_option autoImplicit false

namespace Dialogue.Bus

variable {η α : Type}

/-! ## Who is called first -/

/-- A watcher's subscription: strong and for good, with this priority. -/
structure Watches (w : η) (top : Value) (s : Subscription η) : Prop where
  handler : s.handler = w
  priority : s.priority = top
  lasting : s.oneShot = false
  strong : s.weak = false

/-- The watcher comes first on every roster, and nowhere else.  The event that is being delivered was
brought to it already, and it will not be struck off. -/
structure Watched (w : η) (top : Value) (b : Bus η α) : Prop where
  first : ∀ signal, ∃ s others, b.subscriptions signal = s :: others ∧ Watches w top s ∧
    ∀ t ∈ others, t.handler ≠ w
  told : ∀ d, b.running? = some d → ∀ t ∈ d.pending, t.handler ≠ w
  unspent : ∀ d, b.running? = some d → ∀ signal, ∀ s ∈ b.subscriptions signal, s.handler = w →
    s.ticket ∉ d.spent

/-- A deed that respects the watcher: it subscribes nobody before the watcher, nor the watcher once
more, and neither takes it off a roster nor drops the roster. -/
def Deed.Respects (w : η) (top : Value) : Deed η α → Prop
  | .subscribe _ handler priority _ _ => handler ≠ w ∧ priority.exceeds top ≠ .ok true
  | .unsubscribe _ handler => handler ≠ w
  | .clear _ | .clearAll => False
  | .forget _ | .publish .. | .consume _ => True

/-- Who does not exceed the first of a roster is inserted behind it. -/
theorem insertByPriority_behind {s t : Subscription η} {others new : List (Subscription η)}
    (low : s.priority.exceeds t.priority ≠ .ok true)
    (h : insertByPriority s (t :: others) = .ok new) :
    ∃ later, new = t :: later ∧ later.Perm (s :: others) := by
  unfold insertByPriority at h
  split at h
  · cases h
  · rename_i hexceeds
    exact absurd hexceeds low
  · cases hr : insertByPriority s others with
    | error f => simp [hr, Except.map] at h
    | ok later =>
      simp only [hr, Except.map, Except.ok.injEq] at h
      exact ⟨later, h.symm, insertByPriority_perm hr⟩

variable [DecidableEq η] {b c : Bus η α} {w : η} {top : Value}

/-! ## What leaves the watcher where it is -/

/-- **A deed that respects the watcher leaves it where it is.** -/
theorem Deed.watched {d : Deed η α} (result : d.result b = .ok c) (respects : d.Respects w top)
    (h : Watched w top b) : Watched w top c := by
  have hrunning : c.running? = b.running? := (d.result_spec result).1
  refine ⟨fun signal => ?_, fun x hx => h.told x (hrunning ▸ hx), fun x hx signal s hs hw => ?_⟩
  · obtain ⟨s, others, hentries, hs, hothers⟩ := h.first signal
    cases d.change result signal with
    | kept _ same => exact ⟨s, others, (subscriptions_congr same).trans hentries, hs, hothers⟩
    | @joined handler priority oneShot weak entries inserted now _ =>
      obtain ⟨hother, hlow⟩ := respects
      rw [hentries] at inserted
      obtain ⟨later, rfl, hperm⟩ := insertByPriority_behind (hs.priority.symm ▸ hlow) inserted
      refine ⟨s, later, subscriptions_eq_of_roster? now, hs, fun t ht => ?_⟩
      rcases List.mem_cons.mp (hperm.mem_iff.mp ht) with rfl | ht
      · exact hother
      · exact hothers t ht
    | nobody _ same => exact ⟨s, others, (subscriptions_congr same).trans hentries, hs, hothers⟩
    | @left handler r before now _ =>
      have hother : handler ≠ w := respects
      rw [subscriptions_eq_of_roster? before] at hentries
      have hstays : decide (s.handler ≠ handler) = true := by
        rw [hs.handler]
        exact decide_eq_true (Ne.symm hother)
      refine ⟨s, others.filter fun t => t.handler ≠ handler, ?_, hs, fun t ht => ?_⟩
      · rw [subscriptions_eq_of_roster? now, hentries, List.filter_cons]
        exact if_pos hstays
      · exact hothers t (List.mem_filter.mp ht).1
    | cleared which _ => rcases which with rfl | rfl <;> exact respects.elim
  · rcases d.mem_subscriptions result hs with hs | hmade
    · exact h.unspent x (hrunning ▸ hx) signal s hs hw
    · -- nobody but the watcher itself would have made this subscription
      cases d with
      | subscribe =>
        cases hmade
        exact absurd hw respects.1
      | _ => cases hmade

omit [DecidableEq η] in
/-- Nobody that is pending has the ticket of the watcher. -/
theorem Watched.ticket_ne (h : Watched w top b) (orderly : b.Orderly) {d : Delivery η α}
    (running : b.running? = some d) {signal : Signal} {s t : Subscription η}
    (hs : s ∈ b.subscriptions signal) (hw : s.handler = w) (ht : t ∈ d.pending) :
    s.ticket ≠ t.ticket := by
  intro heq
  obtain ⟨-, rfl⟩ :=
    orderly.single signal s d.event.signal t (.inl hs) (.inr ⟨d, running, rfl, ht⟩) heq
  exact h.told d running s ht hw

omit [DecidableEq η] in
/-- A delivery that comes to somebody pending, and spends nobody but such, leaves the watcher where it
is. -/
theorem Watched.pass (h : Watched w top b) (orderly : b.Orderly) {d : Delivery η α}
    (running : b.running? = some d) {later : List (Subscription η)} {last? : Option η}
    {spent : List Nat} (left : later.Sublist d.pending)
    (spends : ∀ ticket ∈ spent, ticket ∈ d.spent ∨ ∃ t ∈ d.pending, t.ticket = ticket) :
    Watched w top { b with running? := some { d with pending := later, last?, spent } } := by
  refine ⟨h.first, fun x hx t ht => ?_, fun x hx signal s hs hw hspent => ?_⟩
  · cases hx
    exact h.told d running t (left.subset ht)
  · cases hx
    rcases spends _ hspent with hold | ⟨t, ht, heq⟩
    · exact h.unspent d running signal s hs hw hold
    · exact h.ticket_ne orderly running hs hw ht heq.symm

/-- A delivery that has come to the watcher does not come to it again. -/
theorem Watched.callNext_some (h : Watched w top b) (orderly : b.Orderly) {d : Delivery η α}
    {s : Subscription η} (running : b.running? = some d) (next : b.callNext = (some s, c)) :
    s.handler ≠ w ∧ Watched w top c := by
  obtain ⟨dead, later, hpending, -, -, rfl⟩ := Bus.callNext_some running next
  refine ⟨h.told d running s (by simp [hpending]), h.pass orderly running ?_ fun ticket ht => ?_⟩
  · rw [hpending]
    exact (List.sublist_cons_self s later).trans (List.sublist_append_right dead _)
  · rcases List.mem_append.mp ht with ht | ht
    · refine .inr ⟨s, by simp [hpending], ?_⟩
      cases ho : s.oneShot <;> simp_all
    · rcases List.mem_append.mp ht with ht | ht
      · obtain ⟨t, hm, rfl⟩ := List.mem_map.mp (List.mem_reverse.mp ht)
        exact .inr ⟨t, by simp [hpending, hm], rfl⟩
      · exact .inl ht

theorem Watched.callNext_none (h : Watched w top b) (orderly : b.Orderly) {d : Delivery η α}
    (running : b.running? = some d) (none : b.callNext = (none, c)) : Watched w top c := by
  rcases Bus.callNext_none running none with ⟨-, rfl⟩ | ⟨-, _, rfl⟩
  · exact h
  · refine h.pass orderly running (List.nil_sublist _) fun ticket ht => ?_
    rcases List.mem_append.mp ht with ht | ht
    · obtain ⟨t, hm, rfl⟩ := List.mem_map.mp (List.mem_reverse.mp ht)
      exact .inr ⟨t, hm, rfl⟩
    · exact .inl ht

omit [DecidableEq η] in
/-- The end of a delivery does not strike the watcher off. -/
theorem Watched.finish (h : Watched w top b) : Watched w top b.finish := by
  cases running : b.running? with
  | none =>
    have hsame : b.finish = b := by
      unfold Bus.finish
      rw [running]
    exact hsame.symm ▸ h
  | some d =>
    have hidle : b.finish.running? = none := by
      unfold Bus.finish
      rw [running]
    refine ⟨fun signal => ?_, fun x hx => ?_, fun x hx => ?_⟩
    · obtain ⟨s, others, hentries, hs, hothers⟩ := h.first signal
      have hmem : s ∈ b.subscriptions signal := by simp [hentries]
      obtain ⟨r, hr, -⟩ := exists_roster?_of_mem hmem
      have hfinish : b.finish.subscriptions signal = (strike d r).entries :=
        subscriptions_eq_of_roster? ((roster?_finish running signal).trans (by rw [hr]; rfl))
      have hkept : s.ticket ∉ d.spent := h.unspent d running signal s hmem hs.handler
      rw [subscriptions_eq_of_roster? hr] at hentries
      rw [hfinish]
      unfold strike
      split
      · refine ⟨s, others.filter fun t => !d.spent.contains t.ticket, ?_, hs, fun t ht => ?_⟩
        · show r.entries.filter _ = _
          rw [hentries]
          exact List.filter_cons_of_pos (by simpa using hkept)
        · exact hothers t (List.mem_filter.mp ht).1
      · exact ⟨s, others, hentries, hs, hothers⟩
    · rw [hidle] at hx
      cases hx
    · rw [hidle] at hx
      cases hx

/-- **The delivery of an event begins with the call of the watcher.** -/
theorem Watched.start (h : Watched w top b) {e : Event α} {rest : List (Event α)}
    (idle : b.running? = none) (waiting : b.queue = e :: rest) :
    b.subscriptions e.signal ≠ [] ∧ ∃ d s c, b.start.running? = some d ∧ d.event = e ∧
      b.start.callNext = (some s, c) ∧ s.handler = w ∧ Watched w top c ∧ c.queue = rest ∧
      ∃ x, c.running? = some x ∧ x.event = e ∧ x.pending.length + 1 = d.pending.length := by
  obtain ⟨s, others, hentries, hs, hothers⟩ := h.first e.signal
  have hsomebody : b.subscriptions e.signal ≠ [] := by simp [hentries]
  obtain ⟨r, -, hstart⟩ := start_of_somebody idle waiting hsomebody
  rw [hentries] at hstart
  let d : Delivery η α := { event := e, edition := r.edition, pending := s :: others }
  have hd : b.start.running? = some d := congrArg Bus.running? hstart
  have hkept : b.start.isKept s = true := by simp [isKept, hs.strong]
  have hnext := callNext_of_live hd rfl (.inl rfl) (isLive_of_isKept d.last? hkept)
  rw [hs.lasting] at hnext
  have hpassed := running?_pass s false (some s.handler) hd
  refine ⟨hsomebody, d, s, _, hd, rfl, hnext, hs.handler, ?_, ?_, _, hpassed, rfl, rfl⟩
  · refine ⟨fun signal => ?_, fun x hx t ht => ?_, fun x hx signal t _ _ ht => ?_⟩
    · have hsame : b.start.subscriptions signal = b.subscriptions signal := by
        rw [hstart]
        rfl
      exact hsame ▸ h.first signal
    · cases hpassed.symm.trans hx
      exact hothers t ht
    · cases hpassed.symm.trans hx
      cases ht
  · show b.start.queue = rest
    rw [hstart]

end Dialogue.Bus
