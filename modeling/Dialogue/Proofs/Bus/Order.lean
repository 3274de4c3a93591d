import Dialogue.Proofs.Bus.Settled
import Mathlib.Data.List.Nodup

/-!
# Events in order

Events wait in the order in which they were published and are taken from the queue in that order.
A delivery ends before the next event is taken, so handlers are called for one event after the
other.

## Results

* `Run.contents` — what was published is what was taken and what waits, in order.
* `Run.inOrder` — later events have higher numbers, and the event that is being delivered is the one
  that was taken last.
* `Run.undivided` — no handler is called for one event between two that are called for another.
-/

set_option autoImplicit false

namespace Dialogue

/-- What an event says. -/
def Event.content {α : Type} (e : Event α) : Signal × α :=
  (e.signal, e.data)

namespace Bus

variable {η α : Type}

/-! ## What was published -/

/-- What was published, in order. -/
def publications (signs : List (Sign η α)) : List (Signal × α) :=
  signs.filterMap fun
    | .published signal data => some (signal, data)
    | _ => none

theorem publications_append (first second : List (Sign η α)) :
    publications (first ++ second) = publications first ++ publications second :=
  List.filterMap_append

variable [DecidableEq η]

/-- A turn takes the event that waits longest, or lets one wait that is published just then. -/
theorem Move.contents {b c : Bus η α} {turn : Turn η α} (move : Move b turn c) :
    b.queue.map Event.content ++ publications (heard [turn]) =
      (taken [turn] ++ c.queue).map Event.content := by
  cases move with
  | @deed _ d result =>
    obtain ⟨-, -, hqueue⟩ := d.result_spec result
    have htaken : taken [Turn.deed d] = [] := rfl
    rw [htaken, List.nil_append, hqueue, List.map_append]
    congr 1
    cases d <;> rfl
  | passed idle first nobody =>
    rw [start_of_nobody idle first nobody, first]
    exact List.append_nil _
  | begun idle first somebody =>
    obtain ⟨r, -, hs⟩ := start_of_somebody idle first somebody
    rw [hs, first]
    exact List.append_nil _
  | called running next =>
    obtain ⟨_, _, -, -, -, rfl⟩ := callNext_some running next
    exact List.append_nil _
  | ended running none =>
    obtain ⟨spent, -, hf⟩ := callNext_none_finish running none
    rw [hf]
    exact List.append_nil _

/-- **What waited and what was published is what was taken and what waits, in order.** -/
theorem Run.contents {a b : Bus η α} {trace : List (Turn η α)} (run : Run a trace b) :
    a.queue.map Event.content ++ publications (heard trace) =
      (taken trace ++ b.queue).map Event.content := by
  induction run with
  | nil => exact List.append_nil _
  | @snoc b c trace turn _ move ih =>
    calc a.queue.map Event.content ++ publications (heard (trace ++ [turn]))
        = a.queue.map Event.content ++ publications (heard trace) ++
            publications (heard [turn]) := by
          rw [heard_append, publications_append, List.append_assoc]
      _ = (taken trace).map Event.content ++
            (b.queue.map Event.content ++ publications (heard [turn])) := by
          rw [ih, List.map_append, List.append_assoc]
      _ = (taken (trace ++ [turn]) ++ c.queue).map Event.content := by
          rw [move.contents, taken_append, List.append_assoc, ← List.map_append]

/-! ## One event after the other -/

omit [DecidableEq η] in
/-- The events that handlers were called for, call by call. -/
def callings (trace : List (Turn η α)) : List (Event α) :=
  trace.filterMap fun
    | .called e _ => some e
    | _ => none

omit [DecidableEq η] in
theorem callings_append (first second : List (Turn η α)) :
    callings (first ++ second) = callings first ++ callings second :=
  List.filterMap_append

omit [DecidableEq η] in
theorem callings_sublist {first second : List (Turn η α)} (h : first.Sublist second) :
    (callings first).Sublist (callings second) :=
  h.filterMap _

/-- Events have higher numbers the later they were published, and handlers are called for an event
only while it is the one that was taken last. -/
structure InOrder (trace : List (Turn η α)) (b : Bus η α) : Prop where
  numbers : (taken trace ++ b.queue).Pairwise fun e f => e.number < f.number
  latest : ∀ d, b.running? = some d → ∃ before, taken trace = before ++ [d.event]
  called : ∀ e ∈ callings trace, e ∈ taken trace
  calls : (callings trace).Pairwise fun e f => e.number ≤ f.number

omit [DecidableEq η] in
/-- A turn that calls nobody keeps the order, if it keeps the numbers and the running event. -/
theorem InOrder.of_silent {trace : List (Turn η α)} {b c : Bus η α} {turn : Turn η α}
    (h : InOrder trace b) (silent : callings [turn] = [])
    (numbers : (taken (trace ++ [turn]) ++ c.queue).Pairwise fun e f => e.number < f.number)
    (latest : ∀ d, c.running? = some d → ∃ before, taken (trace ++ [turn]) = before ++ [d.event]) :
    InOrder (trace ++ [turn]) c := by
  refine ⟨numbers, latest, ?_, ?_⟩
  all_goals rw [callings_append, silent, List.append_nil]
  · intro e he
    rw [taken_append]
    exact List.mem_append_left _ (h.called e he)
  · exact h.calls

omit [DecidableEq η] in
/-- A turn that calls a handler keeps the order, as it calls it for the event that was taken last. -/
theorem InOrder.of_called {trace : List (Turn η α)} {b c : Bus η α} {d : Delivery η α}
    (h : InOrder trace b) (running : b.running? = some d) (queue : c.queue = b.queue)
    (same : ∀ x, c.running? = some x → x.event = d.event) (s : Subscription η) :
    InOrder (trace ++ [.called d.event s]) c := by
  obtain ⟨before, hbefore⟩ := h.latest d running
  have htaken : taken (trace ++ [Turn.called d.event s]) = before ++ [d.event] := by
    rw [taken_append, hbefore]
    exact List.append_nil _
  refine ⟨?_, fun x hx => ⟨before, same x hx ▸ htaken⟩, ?_, ?_⟩
  · rw [htaken, queue, ← hbefore]
    exact h.numbers
  · intro e he
    rw [callings_append] at he
    rw [htaken]
    rcases List.mem_append.mp he with he | he
    · exact hbefore ▸ h.called e he
    · exact List.mem_append_right _ he
  · -- whoever was called before was called for an event that was taken no later
    rw [callings_append, List.pairwise_append]
    refine ⟨h.calls, List.pairwise_singleton _ _, ?_⟩
    intro e he f hf
    have hf : f = d.event := List.mem_singleton.mp hf
    have hpairs := (List.pairwise_append.mp h.numbers).1
    have hmem := h.called e he
    rw [hbefore] at hpairs hmem
    rw [hf]
    rcases List.mem_append.mp hmem with hm | hm
    · exact Nat.le_of_lt ((List.pairwise_append.mp hpairs).2.2 e hm _ (by simp))
    · exact Nat.le_of_eq (congrArg Event.number (List.mem_singleton.mp hm))

/-- The numbers go on rising, as new events get numbers that were not given out. -/
theorem InOrder.numbers_snoc {trace : List (Turn η α)} {b c : Bus η α} {turn : Turn η α}
    (h : InOrder trace b) (distinct : Distinct trace b) (move : Move b turn c) :
    (taken (trace ++ [turn]) ++ c.queue).Pairwise fun e f => e.number < f.number := by
  rw [taken_append, List.append_assoc]
  obtain ⟨-, hqueue | ⟨e, he, -, hqueue⟩⟩ := move.events
  · rw [hqueue]
    exact h.numbers
  · rw [hqueue, ← List.append_assoc, List.pairwise_append]
    refine ⟨h.numbers, List.pairwise_singleton _ e, ?_⟩
    intro x hx y hy
    rw [List.mem_singleton.mp hy, he]
    exact distinct.issued x hx

/-- **After every run events are in order.** -/
theorem Run.inOrder {trace : List (Turn η α)} {b : Bus η α} (run : Run {} trace b) :
    InOrder trace b := by
  induction run with
  | nil =>
    refine ⟨List.Pairwise.nil, fun d hd => ?_, fun e he => ?_, List.Pairwise.nil⟩
    · cases hd
    · cases he
  | @snoc b c trace turn run move ih =>
    have hnumbers := ih.numbers_snoc run.distinct move
    cases move with
    | @deed _ d result =>
      refine ih.of_silent rfl hnumbers fun x hx => ?_
      obtain ⟨before, hbefore⟩ := ih.latest x ((d.result_spec result).1 ▸ hx)
      refine ⟨before, ?_⟩
      rw [taken_append, hbefore]
      exact List.append_nil _
    | passed idle first nobody =>
      refine ih.of_silent rfl hnumbers fun x hx => ?_
      rw [start_of_nobody idle first nobody] at hx
      simp [idle] at hx
    | begun idle first somebody =>
      refine ih.of_silent rfl hnumbers fun x hx => ?_
      obtain ⟨r, -, hs⟩ := start_of_somebody idle first somebody
      rw [hs] at hx
      cases hx
      exact ⟨taken trace, taken_append trace _⟩
    | ended running none =>
      refine ih.of_silent rfl hnumbers fun x hx => ?_
      obtain ⟨spent, -, hf⟩ := callNext_none_finish running none
      rw [hf] at hx
      cases hx
    | @called _ d s running next =>
      obtain ⟨dead, later, -, -, -, hc⟩ := callNext_some running next
      refine ih.of_called running (by rw [hc]) (fun x hx => ?_) s
      rw [hc] at hx
      cases hx
      rfl

omit [DecidableEq η] in
/-- No handler is called for one event between two handlers that are called for another. -/
def Undivided (trace : List (Turn η α)) : Prop :=
  ∀ e f s t u, [.called e s, .called f t, .called e u].Sublist trace → f = e

/-- **Handlers are called for one event after the other.** -/
theorem Run.undivided {trace : List (Turn η α)} {b : Bus η α} (run : Run {} trace b) :
    Undivided trace := by
  intro e f s t u hsub
  have horder := run.inOrder
  have hcallings : [e, f, e].Sublist (callings trace) := callings_sublist hsub
  have hcalls := horder.calls.sublist hcallings
  have hef : e.number ≤ f.number := (List.pairwise_cons.mp hcalls).1 f (by simp)
  have hfe : f.number ≤ e.number :=
    (List.pairwise_cons.mp (List.pairwise_cons.mp hcalls).2).1 e (by simp)
  -- both were taken, and no two events that were taken have the same number
  have he := horder.called e (hcallings.subset (by simp))
  have hf := horder.called f (hcallings.subset (by simp))
  have hnodup : ((taken trace).map Event.number).Nodup := by
    have hn := run.distinct.nodup
    rw [List.map_append, List.nodup_append] at hn
    exact hn.1
  exact List.inj_on_of_nodup_map hnodup hf he (Nat.le_antisymm hfe hef)

end Bus

end Dialogue
