import Dialogue.Bus.Basic

/-!
# Rosters under change

What each operation of a bus does to the roster of every signal, to the event that is being
delivered, and to the numbers that are given out.

## Results

* `Deed.change` — a host joins, leaves or clears the roster of a signal, and leaves all others as
  they are.
* `callNext_some`, `callNext_none` — a delivery passes over subscriptions that are dead and calls the
  first live one that it has not come to yet, until the event is found consumed after a call or none
  is left.
* `mem_subscriptions_finish` — the end of a delivery strikes what is spent off the roster that the
  delivery began with, and off no other.
-/

set_option autoImplicit false

namespace Dialogue.Bus

variable {η α : Type}

/-! ## Lists of rosters -/

theorem rosterIn?_putRoster (signal other : Signal) (r : Roster η)
    (rosters : List (Signal × Roster η)) :
    rosterIn? other (putRoster signal r rosters) =
      if signal = other then some r else rosterIn? other rosters := by
  induction rosters with
  | nil => simp [putRoster, rosterIn?]
  | cons e rest ih =>
    obtain ⟨s, old⟩ := e
    by_cases hs : s = signal
    · subst hs
      by_cases ho : s = other <;> simp [putRoster, rosterIn?, ho]
    · by_cases ho : s = other
      · subst ho
        simp [putRoster, rosterIn?, hs, Ne.symm hs]
      · simp [putRoster, rosterIn?, hs, ho, ih]

theorem rosterIn?_filter_ne (signal other : Signal) (rosters : List (Signal × Roster η)) :
    rosterIn? other (rosters.filter fun e => e.1 ≠ signal) =
      if signal = other then none else rosterIn? other rosters := by
  induction rosters with
  | nil => simp [rosterIn?]
  | cons e rest ih =>
    obtain ⟨s, r⟩ := e
    by_cases hs : s = signal
    · subst hs
      by_cases ho : s = other <;> simp_all [rosterIn?]
    · by_cases ho : s = other
      · subst ho
        simp [rosterIn?, hs, Ne.symm hs]
      · simp_all [rosterIn?]

theorem rosterIn?_map (f : Roster η → Roster η) (signal : Signal)
    (rosters : List (Signal × Roster η)) :
    rosterIn? signal (rosters.map fun e => (e.1, f e.2)) = (rosterIn? signal rosters).map f := by
  induction rosters with
  | nil => rfl
  | cons e rest ih =>
    obtain ⟨s, r⟩ := e
    by_cases h : s = signal <;> simp [rosterIn?, h, ih]

variable {b c : Bus η α}

theorem subscriptions_eq_of_roster? {signal : Signal} {r : Roster η}
    (h : b.roster? signal = some r) : b.subscriptions signal = r.entries := by
  simp [subscriptions, h]

theorem subscriptions_congr {signal : Signal} (h : c.roster? signal = b.roster? signal) :
    c.subscriptions signal = b.subscriptions signal := by
  simp [subscriptions, h]

theorem exists_roster?_of_mem {signal : Signal} {s : Subscription η}
    (h : s ∈ b.subscriptions signal) : ∃ r, b.roster? signal = some r ∧ s ∈ r.entries := by
  cases hr : b.roster? signal with
  | none => simp [subscriptions, hr] at h
  | some r => exact ⟨r, rfl, subscriptions_eq_of_roster? hr ▸ h⟩

/-- Inserting puts the new subscription among the others and changes nothing else. -/
theorem insertByPriority_perm {s : Subscription η} {entries new : List (Subscription η)}
    (h : insertByPriority s entries = .ok new) : new.Perm (s :: entries) := by
  induction entries generalizing new with
  | nil =>
    simp only [insertByPriority, Except.ok.injEq] at h
    exact h ▸ List.Perm.refl _
  | cons t rest ih =>
    unfold insertByPriority at h
    split at h
    · cases h
    · cases h
      exact List.Perm.refl _
    · cases hr : insertByPriority s rest with
      | error f => simp [hr, Except.map] at h
      | ok later =>
        simp only [hr, Except.map, Except.ok.injEq] at h
        subst h
        exact ((ih hr).cons t).trans (List.Perm.swap s t rest)

/-! ## The beginning and the end of a delivery -/

/-- An event that nobody waits for is passed over. -/
theorem start_of_nobody {e : Event α} {rest : List (Event α)} (idle : b.running? = none)
    (first : b.queue = e :: rest) (h : b.subscriptions e.signal = []) :
    b.start = { b with queue := rest } := by
  unfold start
  rw [idle, first]
  cases hr : b.roster? e.signal with
  | none => simp [hr]
  | some r =>
    rw [subscriptions_eq_of_roster? hr] at h
    simp [hr, h]

/-- A delivery begins with the whole roster of its signal. -/
theorem start_of_roster? {e : Event α} {rest : List (Event α)} {r : Roster η}
    (idle : b.running? = none) (first : b.queue = e :: rest) (hr : b.roster? e.signal = some r)
    (hne : r.entries ≠ []) :
    b.start = { b with
      queue := rest
      begun := r.edition :: b.begun
      running? := some { event := e, edition := r.edition, pending := r.entries } } := by
  unfold start
  rw [idle, first]
  simp [hr, hne]

/-- How a delivery that begins differs from the bus before. -/
theorem start_of_somebody {e : Event α} {rest : List (Event α)} (idle : b.running? = none)
    (first : b.queue = e :: rest) (somebody : b.subscriptions e.signal ≠ []) :
    ∃ r, b.roster? e.signal = some r ∧ b.start = { b with
      queue := rest
      begun := r.edition :: b.begun
      running? := some
        { event := e, edition := r.edition, pending := b.subscriptions e.signal } } := by
  obtain ⟨s, hs⟩ := List.exists_mem_of_ne_nil _ somebody
  obtain ⟨r, hr, hm⟩ := exists_roster?_of_mem hs
  refine ⟨r, hr, ?_⟩
  rw [start_of_roster? idle first hr (List.ne_nil_of_mem hm), subscriptions_eq_of_roster? hr]

theorem roster?_finish {d : Delivery η α} (running : b.running? = some d) (signal : Signal) :
    b.finish.roster? signal = (b.roster? signal).map (strike d) := by
  simp only [finish, running]
  exact rosterIn?_map (strike d) signal b.rosters

/-- The end of a delivery takes what is spent off the roster it began with, and nothing else. -/
theorem mem_subscriptions_finish {d : Delivery η α} (running : b.running? = some d)
    (signal : Signal) (s : Subscription η) :
    s ∈ b.finish.subscriptions signal ↔
      s ∈ b.subscriptions signal ∧
        ¬ ((b.roster? signal).map Roster.edition = some d.edition ∧ s.ticket ∈ d.spent) := by
  have hf := roster?_finish running signal
  cases hr : b.roster? signal with
  | none =>
    rw [hr] at hf
    simp [subscriptions, hf, hr]
  | some r =>
    rw [hr] at hf
    rw [subscriptions_eq_of_roster? hf, subscriptions_eq_of_roster? hr]
    unfold strike
    split
    · rename_i he
      simp [he]
    · rename_i he
      simp [he]

/-! ## What a host does -/

/-- What a host, or a handler that is being called, can do with a bus. -/
inductive Deed (η α : Type) where
  | subscribe (signal : Signal) (handler : η) (priority : Value) (oneShot weak : Bool)
  | unsubscribe (signal : Signal) (handler : η)
  | clear (signal : Signal)
  | clearAll
  | forget (handler : η)
  | publish (signal : Signal) (data : α)
  | consume (event : Event α)

/-- The bus after a deed.  A refused subscription is no deed. -/
def Deed.result [DecidableEq η] (b : Bus η α) : Deed η α → Except Fault (Bus η α)
  | .subscribe signal handler priority oneShot weak =>
    b.subscribe signal handler priority oneShot weak
  | .unsubscribe signal handler => .ok (b.unsubscribe signal handler)
  | .clear signal => .ok (b.clear signal)
  | .clearAll => .ok b.clearAll
  | .forget handler => .ok (b.forget handler)
  | .publish signal data => .ok (b.publish signal data).2
  | .consume event => .ok (b.consume event)

/-- The event that a deed lets wait. -/
def Deed.event? (b : Bus η α) : Deed η α → Option (Event α)
  | .publish signal data => some (b.publish signal data).1
  | _ => none

/-- To consume the event that is being delivered is to consume an event, if there is one. -/
theorem consumeCurrent_eq (b : Bus η α) :
    b.consumeCurrent = b ∨ ∃ e, b.consumeCurrent = b.consume e := by
  cases h : b.current? with
  | none => exact .inl (by rw [consumeCurrent, h]; rfl)
  | some e => exact .inr ⟨e, by rw [consumeCurrent, h]; rfl⟩

/-- The subscription that subscribing makes. -/
abbrev made (b : Bus η α) (handler : η) (priority : Value) (oneShot weak : Bool) :
    Subscription η :=
  { ticket := b.issued, priority, handler, oneShot, weak }

/-- What a deed makes of the roster of a signal. -/
inductive Change [DecidableEq η] (b c : Bus η α) (signal : Signal) : Deed η α → Prop where
  | kept {d : Deed η α} (other : ∀ handler, d ≠ .unsubscribe signal handler)
    (same : c.roster? signal = b.roster? signal) : Change b c signal d
  | joined {handler : η} {priority : Value} {oneShot weak : Bool}
    {entries : List (Subscription η)}
    (inserted : insertByPriority (b.made handler priority oneShot weak)
      (b.subscriptions signal) = .ok entries)
    (now : c.roster? signal =
      some { edition := (b.roster? signal).elim (b.issued + 1) Roster.edition, entries })
    (issued : c.issued = b.issued + 2) :
    Change b c signal (.subscribe signal handler priority oneShot weak)
  | nobody {handler : η} (nobody : b.subscriptions signal = [])
    (same : c.roster? signal = b.roster? signal) : Change b c signal (.unsubscribe signal handler)
  | left {handler : η} {r : Roster η} (before : b.roster? signal = some r)
    (now : c.roster? signal = some
      { edition := b.issued, entries := r.entries.filter fun s => s.handler ≠ handler })
    (issued : c.issued = b.issued + 1) : Change b c signal (.unsubscribe signal handler)
  | cleared {d : Deed η α} (which : d = .clear signal ∨ d = .clearAll)
    (now : c.roster? signal = none) : Change b c signal d

theorem subscribe_eq_ok {signal : Signal} {handler : η} {priority : Value} {oneShot weak : Bool}
    (h : b.subscribe signal handler priority oneShot weak = .ok c) :
    ∃ entries, insertByPriority (b.made handler priority oneShot weak) (b.subscriptions signal) =
      .ok entries ∧ c = b.enroll signal entries := by
  unfold subscribe at h
  cases hi : insertByPriority (b.made handler priority oneShot weak) (b.subscriptions signal) with
  | error f => simp [hi, Except.map] at h
  | ok entries =>
    simp only [hi, Except.map, Except.ok.injEq] at h
    exact ⟨entries, rfl, h.symm⟩

theorem roster?_enroll (signal other : Signal) (entries : List (Subscription η)) :
    (b.enroll signal entries).roster? other =
      if signal = other then
        some { edition := (b.roster? signal).elim (b.issued + 1) Roster.edition, entries }
      else b.roster? other :=
  rosterIn?_putRoster ..

theorem roster?_clear (signal other : Signal) :
    (b.clear signal).roster? other = if signal = other then none else b.roster? other :=
  rosterIn?_filter_ne ..

variable [DecidableEq η]

/-- Leaving a signal that nobody waits for changes nothing. -/
theorem unsubscribe_eq_self {signal : Signal} (handler : η) (h : b.subscriptions signal = []) :
    b.unsubscribe signal handler = b := by
  unfold unsubscribe
  split
  · rfl
  · rename_i r hr
    rw [subscriptions_eq_of_roster? hr] at h
    simp [h]

/-- Those who stay go on in a new edition of the roster. -/
theorem unsubscribe_eq {signal : Signal} {r : Roster η} (handler : η)
    (h : b.roster? signal = some r) (hne : r.entries ≠ []) :
    b.unsubscribe signal handler =
      { b with
        rosters := putRoster signal
          { edition := b.issued, entries := r.entries.filter fun s => s.handler ≠ handler }
          b.rosters
        retired := b.retire [r]
        issued := b.issued + 1 } := by
  have he : r.entries.isEmpty = false := by simpa using hne
  simp only [unsubscribe, h, he, Bool.false_eq_true, if_false]

/-- **A host joins, leaves or clears the roster of a signal, and leaves all others as they are.** -/
theorem Deed.change {d : Deed η α} (h : d.result b = .ok c) (signal : Signal) :
    Change b c signal d := by
  cases d with
  | subscribe g handler priority oneShot weak =>
    obtain ⟨entries, hi, rfl⟩ := subscribe_eq_ok h
    have hr := roster?_enroll (b := b) g signal entries
    by_cases hg : g = signal
    · subst hg
      exact .joined hi (by simpa using hr) rfl
    · exact .kept (fun _ => by simp) (by simpa [hg] using hr)
  | unsubscribe g handler =>
    cases h
    by_cases hb : b.subscriptions g = []
    · by_cases hg : g = signal
      · subst hg
        exact .nobody hb (by rw [unsubscribe_eq_self handler hb])
      · refine .kept (fun _ heq => hg (by cases heq; rfl)) ?_
        rw [unsubscribe_eq_self handler hb]
    · obtain ⟨s, hs⟩ := List.exists_mem_of_ne_nil _ hb
      obtain ⟨r, hr, hm⟩ := exists_roster?_of_mem hs
      rw [unsubscribe_eq handler hr (List.ne_nil_of_mem hm)]
      have hp := rosterIn?_putRoster g signal
        { edition := b.issued, entries := r.entries.filter fun s => s.handler ≠ handler } b.rosters
      by_cases hg : g = signal
      · subst hg
        exact .left hr (by simpa [roster?] using hp) rfl
      · exact .kept (fun _ heq => hg (by cases heq; rfl)) (by simpa [roster?, hg] using hp)
  | clear g =>
    cases h
    have hr := roster?_clear (b := b) g signal
    by_cases hg : g = signal
    · subst hg
      exact .cleared (.inl rfl) (by simpa using hr)
    · exact .kept (fun _ => by simp) (by simpa [hg] using hr)
  | clearAll =>
    cases h
    exact .cleared (.inr rfl) rfl
  | forget handler =>
    cases h
    exact .kept (fun _ => by simp) rfl
  | publish g data =>
    cases h
    exact .kept (fun _ => by simp) rfl
  | consume event =>
    cases h
    exact .kept (fun _ => by simp) rfl

/-- The subscription that a deed makes, and its signal. -/
def Deed.made? (b : Bus η α) : Deed η α → Option (Signal × Subscription η)
  | .subscribe signal handler priority oneShot weak =>
    some (signal, b.made handler priority oneShot weak)
  | _ => none

/-- Nobody gets onto a roster except by subscribing. -/
theorem Deed.mem_subscriptions {d : Deed η α} (h : d.result b = .ok c) {signal : Signal}
    {s : Subscription η} (hs : s ∈ c.subscriptions signal) :
    s ∈ b.subscriptions signal ∨ d.made? b = some (signal, s) := by
  cases Deed.change h signal with
  | kept _ same => exact .inl (subscriptions_congr same ▸ hs)
  | joined inserted now _ =>
    rw [subscriptions_eq_of_roster? now] at hs
    rcases List.mem_cons.mp ((insertByPriority_perm inserted).mem_iff.mp hs) with rfl | hs
    · exact .inr rfl
    · exact .inl hs
  | nobody _ same => exact .inl (subscriptions_congr same ▸ hs)
  | left before now _ =>
    rw [subscriptions_eq_of_roster? now] at hs
    exact .inl (subscriptions_eq_of_roster? before ▸ (List.mem_filter.mp hs).1)
  | cleared _ now => simp [subscriptions, now] at hs

/-- A new subscription has a new ticket. -/
theorem Deed.ticket_made {d : Deed η α} (h : d.result b = .ok c) {signal : Signal}
    {s : Subscription η} (hs : d.made? b = some (signal, s)) :
    s.ticket = b.issued ∧ b.issued < c.issued := by
  cases d with
  | subscribe g handler priority oneShot weak =>
    obtain ⟨entries, -, rfl⟩ := subscribe_eq_ok h
    cases hs
    exact ⟨rfl, by simp [Bus.enroll]⟩
  | _ => cases hs

/-- A deed leaves the running delivery as it is, takes no number back, and lets at most one event
wait. -/
theorem Deed.result_spec {d : Deed η α} (h : d.result b = .ok c) :
    c.running? = b.running? ∧ b.issued ≤ c.issued ∧
      c.queue = b.queue ++ (d.event? b).toList := by
  cases d with
  | subscribe g handler priority oneShot weak =>
    obtain ⟨entries, -, rfl⟩ := subscribe_eq_ok h
    simp [Bus.enroll, Deed.event?]
  | unsubscribe g handler =>
    cases h
    unfold Bus.unsubscribe
    split
    · simp [Deed.event?]
    · split <;> simp [Deed.event?]
  | clear g =>
    cases h
    simp [Bus.clear, Deed.event?]
  | clearAll =>
    cases h
    simp [Bus.clearAll, Deed.event?]
  | forget handler =>
    cases h
    simp [Bus.forget, Deed.event?]
  | publish g data =>
    cases h
    simp [Bus.publish, Deed.event?]
  | consume event =>
    cases h
    simp [Bus.consume, Deed.event?]

/-! ## Calling -/

theorem isLive_none (s : Subscription η) : b.isLive none s = b.isKept s := by
  simp [isLive]

/-- Whoever is kept is there. -/
theorem isLive_of_isKept {s : Subscription η} (last? : Option η) (kept : b.isKept s = true) :
    b.isLive last? s = true := by
  simp [isLive, kept]

/-- Nobody keeps whoever is not there. -/
theorem isKept_eq_false {s : Subscription η} {last? : Option η} (dead : b.isLive last? s = false) :
    b.isKept s = false := by
  cases hk : b.isKept s with
  | false => rfl
  | true => rw [isLive_of_isKept last? hk] at dead; cases dead

/-- All these are found dead one after the other: nobody keeps their handlers, and a delivery that
holds this handler when it comes to the first of them does not hold that of the first. -/
def AllDead (b : Bus η α) (last? : Option η) (dead : List (Subscription η)) : Prop :=
  (∀ t ∈ dead, b.isKept t = false) ∧ ∀ t ∈ dead.head?, last? ≠ some t.handler

theorem allDead_nil (last? : Option η) : b.AllDead last? [] :=
  ⟨by simp, by simp⟩

theorem AllDead.cons {t : Subscription η} {last? held? : Option η} {dead : List (Subscription η)}
    (ht : b.isLive last? t = false) (h : b.AllDead held? dead) : b.AllDead last? (t :: dead) := by
  refine ⟨fun u hu => ?_, fun u hu => ?_⟩
  · rcases List.mem_cons.mp hu with rfl | hu
    · exact isKept_eq_false ht
    · exact h.1 u hu
  · cases hu
    rw [isLive, Bool.or_eq_false_iff] at ht
    exact of_decide_eq_false ht.2

theorem AllDead.left {last? : Option η} {dead more : List (Subscription η)}
    (h : b.AllDead last? (dead ++ more)) : b.AllDead last? dead := by
  refine ⟨fun t ht => h.1 t (List.mem_append_left _ ht), fun t ht => h.2 t ?_⟩
  rw [List.head?_append, Option.mem_def.mp ht]
  rfl

/-- The first live subscription is picked; it is spent when it is called once, and the dead ones
before it are spent. -/
theorem pickLive_some {s : Subscription η} {last? now? : Option η}
    {pending later : List (Subscription η)} {before after : List Nat}
    (h : pickLive b.isLive last? pending before = (some s, now?, later, after)) :
    ∃ dead, pending = dead ++ s :: later ∧ b.AllDead last? dead ∧
      b.isLive last? s = true ∧ now? = some s.handler ∧
      after = (if s.oneShot then [s.ticket] else []) ++
        ((dead.map Subscription.ticket).reverse ++ before) := by
  induction pending generalizing last? before with
  | nil => simp [pickLive] at h
  | cons t rest ih =>
    unfold pickLive at h
    split at h
    · rename_i hl
      simp only [Prod.mk.injEq, Option.some.injEq] at h
      obtain ⟨rfl, rfl, rfl, rfl⟩ := h
      refine ⟨[], rfl, allDead_nil last?, hl, rfl, ?_⟩
      split <;> rfl
    · rename_i hl
      obtain ⟨dead, rfl, hdead, hs, rfl, rfl⟩ := ih h
      exact ⟨t :: dead, rfl, hdead.cons (by simpa using hl),
        isLive_of_isKept last? (isLive_none s ▸ hs), rfl, by simp⟩

/-- When nothing is picked, all are dead and spent. -/
theorem pickLive_none {last? now? : Option η} {pending later : List (Subscription η)}
    {before after : List Nat}
    (h : pickLive b.isLive last? pending before = (none, now?, later, after)) :
    later = [] ∧ b.AllDead last? pending ∧
      after = (pending.map Subscription.ticket).reverse ++ before := by
  induction pending generalizing last? before with
  | nil =>
    simp only [pickLive, Prod.mk.injEq, true_and] at h
    obtain ⟨-, rfl, rfl⟩ := h
    exact ⟨rfl, allDead_nil last?, by simp⟩
  | cons t rest ih =>
    unfold pickLive at h
    split at h
    · simp at h
    · rename_i hl
      obtain ⟨rfl, hrest, rfl⟩ := ih h
      exact ⟨rfl, hrest.cons (by simpa using hl), by simp⟩

omit [DecidableEq η] in
theorem whole_of_not_cut {d : Delivery η α} (h : ¬ (d.last?.isSome && b.isConsumed d.event) = true) :
    d.last? = none ∨ b.isConsumed d.event = false := by
  cases hlast : d.last? with
  | none => exact .inl rfl
  | some handler => exact .inr (by simpa [hlast] using h)

/-- A delivery passes these over as dead.  It comes to nobody any more when somebody was called and
the event is consumed. -/
def PassesOver (b : Bus η α) (d : Delivery η α) (dead : List (Subscription η)) : Prop :=
  (d.last? = none ∨ b.isConsumed d.event = false) ∧ b.AllDead d.last? dead

/-- **The next call goes to the first live subscription that was not come to yet**, unless somebody was
called already and the event is consumed. -/
theorem callNext_some {d : Delivery η α} {s : Subscription η} (running : b.running? = some d)
    (h : b.callNext = (some s, c)) :
    ∃ dead later, d.pending = dead ++ s :: later ∧ b.PassesOver d dead ∧
      b.isLive d.last? s = true ∧
      c = { b with running? := some { d with
        pending := later
        last? := some s.handler
        spent := (if s.oneShot then [s.ticket] else []) ++
          ((dead.map Subscription.ticket).reverse ++ d.spent) } } := by
  unfold callNext at h
  simp only [running] at h
  split at h
  · simp at h
  · rename_i hc
    rcases hp : pickLive b.isLive d.last? d.pending d.spent with ⟨next, now?, later, spent⟩
    simp only [hp, Prod.mk.injEq] at h
    obtain ⟨rfl, rfl⟩ := h
    obtain ⟨dead, hpending, hdead, hs, rfl, rfl⟩ := pickLive_some hp
    exact ⟨dead, later, hpending, ⟨whole_of_not_cut hc, hdead⟩, hs, rfl⟩

/-- Nobody is called any more when somebody was called and the event is consumed, or when all that are
left are dead. -/
theorem callNext_none {d : Delivery η α} (running : b.running? = some d)
    (h : b.callNext = (none, c)) :
    (b.isConsumed d.event = true ∧ c = b) ∨
      (b.PassesOver d d.pending ∧
        ∃ last?, c = { b with running? := some { d with
          pending := []
          last?
          spent := (d.pending.map Subscription.ticket).reverse ++ d.spent } }) := by
  unfold callNext at h
  simp only [running] at h
  split at h
  · rename_i hc
    simp only [Prod.mk.injEq, true_and] at h
    exact .inl ⟨(Bool.and_eq_true _ _ ▸ hc).2, h.symm⟩
  · rename_i hc
    rcases hp : pickLive b.isLive d.last? d.pending d.spent with ⟨next, now?, later, spent⟩
    simp only [hp, Prod.mk.injEq] at h
    obtain ⟨rfl, rfl⟩ := h
    obtain ⟨rfl, hdead, rfl⟩ := pickLive_none hp
    exact .inr ⟨⟨whole_of_not_cut hc, hdead⟩, now?, rfl⟩

/-- To look for the next one when nobody is pending changes nothing. -/
theorem callNext_of_pending_nil {d : Delivery η α} (running : b.running? = some d)
    (h : d.pending = []) : b.callNext = (none, b) := by
  have hsame : ({ b with running? := some d } : Bus η α) = b := by
    rw [← running]
  unfold callNext
  simp only [running]
  split
  · rfl
  · obtain ⟨event, edition, pending, last?, spent⟩ := d
    subst h
    exact congrArg _ hsame

/-- When nobody is called any more, the delivery ends as one that has spent perhaps a little more. -/
theorem callNext_none_finish {d : Delivery η α} (running : b.running? = some d)
    (h : b.callNext = (none, c)) :
    ∃ spent, (∀ ticket ∈ d.spent, ticket ∈ spent) ∧
      c.finish = ({ b with running? := some { d with spent } } : Bus η α).finish := by
  rcases callNext_none running h with ⟨-, rfl⟩ | ⟨-, _, rfl⟩
  · exact ⟨d.spent, fun _ ht => ht, by simp [finish, running]⟩
  · exact ⟨_, fun _ ht => List.mem_append_right _ ht, rfl⟩

end Dialogue.Bus
