import Dialogue.Proofs.Bus.Hosted
import Dialogue.Proofs.Bus.Order

/-!
# The queue runs dry

A host settles its bus in rounds, at most so many.  Handlers may publish in every round, but a
handler that publishes uses something up, and in the end nothing is left to use up.  So there are
rounds enough: when publishing from outside returns, all events were delivered.

## Results

* `Site.settle_rests` — rounds are enough when there are more of them than there is to use up.
* `Host.react_thrifty` — what the handlers of a host use up are the lists they hold.
* `Host.run_to_completion` — events are delivered one after the other, in the order in which they
  were published, and publishing from outside leaves none waiting.
-/

set_option autoImplicit false

namespace Dialogue.Bus

variable {σ η α : Type}

/-- Nothing is being delivered, and nothing waits. -/
structure AtRest (b : Bus η α) : Prop where
  idle : b.running? = none
  nothing : b.queue = []

section

variable [DecidableEq η]

/-- Deeds let events wait behind the others, and no more than are heard of. -/
theorem Does.queue {b c : Bus η α} {signs : List (Sign η α)} (h : Does b signs c) :
    ∃ more, c.queue = b.queue ++ more ∧ more.map Event.content = publications signs := by
  obtain ⟨deeds, run, rfl⟩ := h
  have htaken : taken (deeds.map (Turn.deed (η := η) (α := α))) = [] := by
    unfold taken
    rw [List.filterMap_map, List.filterMap_eq_nil_iff]
    intro d _
    rfl
  have hcontents := run.contents
  rw [htaken, List.nil_append] at hcontents
  obtain ⟨more, hmore⟩ : ∃ more, c.queue = b.queue ++ more := by
    clear htaken hcontents
    generalize htrace : deeds.map Turn.deed = trace at run
    induction run generalizing deeds with
    | nil => exact ⟨[], (List.append_nil _).symm⟩
    | @snoc x c trace turn _ move ih =>
      obtain ⟨earlier, last, rfl, hearlier, hlast⟩ := List.map_eq_append_iff.mp htrace
      obtain ⟨d, rest, rfl, rfl, -⟩ := List.map_eq_cons_iff.mp hlast
      obtain ⟨more, hmore⟩ := ih earlier hearlier
      cases move with
      | deed result =>
        obtain ⟨-, -, hqueue⟩ := d.result_spec result
        exact ⟨more ++ (d.event? x).toList, by rw [hqueue, hmore, List.append_assoc]⟩
  refine ⟨more, hmore, ?_⟩
  rw [hmore, List.map_append] at hcontents
  exact (List.append_cancel_left hcontents).symm

end

/-! ## Using up -/

namespace Site

variable (site : Site σ η α) (left : σ → Nat)

/-- These events wait in the second state, with others behind them only if something was used up
since the first. -/
def Leaves (waiting : List (Event α)) (s t : σ) : Prop :=
  ∃ more, (site.bus t).queue = waiting ++ more ∧ left t ≤ left s ∧ (more = [] ∨ left t < left s)

/-- Handlers that are called while an event is being delivered publish only by using something
up. -/
structure Thrifty (holds : σ → Prop) (react : η → Event α → StateM σ Unit) : Prop where
  left_withBus : ∀ b s, left (site.withBus b s) = left s
  react : ∀ handler e s, holds s → (site.bus s).running? ≠ none →
    site.Leaves left (site.bus s).queue s (react handler e s).2

variable {site left}

theorem Leaves.refl (s : σ) : site.Leaves left (site.bus s).queue s s :=
  ⟨[], (List.append_nil _).symm, Nat.le_refl _, .inl rfl⟩

theorem Leaves.trans {waiting more : List (Event α)} {s t u : σ} (used : left t ≤ left s)
    (fresh : more = [] ∨ left t < left s) (h : site.Leaves left (waiting ++ more) t u) :
    site.Leaves left waiting s u := by
  obtain ⟨later, hqueue, hused, hfresh⟩ := h
  refine ⟨more ++ later, by rw [hqueue, List.append_assoc], Nat.le_trans hused used, ?_⟩
  rcases fresh with rfl | hlt
  · rcases hfresh with rfl | hlt
    · exact .inl rfl
    · exact .inr (Nat.lt_of_lt_of_le hlt used)
  · exact .inr (Nat.lt_of_le_of_lt hused hlt)

variable [DecidableEq η] {acc : Account σ η α} {react : η → Event α → StateM σ Unit}
  (lawful : site.Lawful acc) (tame : site.Tame acc react)
  (thrifty : site.Thrifty left acc.holds react)

include lawful tame thrifty

theorem serve_leaves (e : Event α) (n : Nat) {s : σ} (holds : acc.holds s)
    (busy : (site.bus s).running? ≠ none) :
    acc.holds (site.serve react e n s).2 ∧ (site.bus (site.serve react e n s).2).running? ≠ none ∧
      site.Leaves left (site.bus s).queue s (site.serve react e n s).2 := by
  induction n generalizing s with
  | zero => exact ⟨holds, busy, Leaves.refl s⟩
  | succ n ih =>
    obtain ⟨d, hd⟩ := Option.ne_none_iff_exists'.mp busy
    cases hnext : (site.bus s).callNext with
    | mk next b =>
      have hbus := lawful.bus_withBus b s
      have hput := lawful.holds_withBus b s holds
      have hleft := thrifty.left_withBus b s
      cases next with
      | none =>
        rw [serve_none hnext]
        have hb : b.running? ≠ none ∧ b.queue = (site.bus s).queue := by
          rcases callNext_none hd hnext with ⟨-, rfl⟩ | ⟨-, _, rfl⟩
          · exact ⟨busy, rfl⟩
          · exact ⟨by simp, rfl⟩
        refine ⟨hput, hbus.symm ▸ hb.1, [], ?_, Nat.le_of_eq hleft, .inl rfl⟩
        rw [hbus, hb.2, List.append_nil]
      | some sub =>
        rw [serve_some hnext]
        have hb : b.running? ≠ none ∧ b.queue = (site.bus s).queue := by
          obtain ⟨dead, later, -, -, -, rfl⟩ := callNext_some hd hnext
          exact ⟨by simp, rfl⟩
        obtain ⟨hafter, signs, hdoes, -⟩ :=
          tame sub.handler e (site.withBus b s) hput (hbus.symm ▸ hb.1)
        obtain ⟨more, hqueue, hused, hfresh⟩ :=
          thrifty.react sub.handler e (site.withBus b s) hput (hbus.symm ▸ hb.1)
        have hrunning := hdoes.running
        rw [hbus] at hrunning hqueue
        rw [hb.2] at hqueue
        rw [hleft] at hused hfresh
        obtain ⟨hend, hbusy, hleaves⟩ := ih hafter (hrunning ▸ hb.1)
        rw [hqueue] at hleaves
        exact ⟨hend, hbusy, Leaves.trans hused hfresh hleaves⟩

/-- To deliver an event takes it from the queue. -/
theorem deliver_leaves {s : σ} {e : Event α} {rest : List (Event α)} (holds : acc.holds s)
    (idle : (site.bus s).running? = none) (first : (site.bus s).queue = e :: rest) :
    site.Leaves left rest s (site.deliver react s).2 := by
  have hbus := lawful.bus_withBus (site.bus s).start s
  have hput := lawful.holds_withBus (site.bus s).start s holds
  have hleft := thrifty.left_withBus (site.bus s).start s
  by_cases nobody : (site.bus s).subscriptions e.signal = []
  · have hstart := start_of_nobody idle first nobody
    have hidle : (site.bus (site.withBus (site.bus s).start s)).running? = none := by
      rw [hbus, hstart]
      exact idle
    rw [deliver_none hidle]
    refine ⟨[], ?_, Nat.le_of_eq hleft, .inl rfl⟩
    rw [hbus, hstart, List.append_nil]
  · obtain ⟨r, -, hstart⟩ := start_of_somebody idle first nobody
    obtain ⟨d, hd⟩ : ∃ d, (site.bus (site.withBus (site.bus s).start s)).running? = some d := by
      rw [hbus, hstart]
      exact ⟨_, rfl⟩
    rw [deliver_some hd]
    obtain ⟨-, tbusy, more, tqueue, tused, tfresh⟩ :=
      serve_leaves lawful tame thrifty d.event d.pending.length hput (by rw [hd]; simp)
    have hqueue : (site.bus (site.withBus (site.bus s).start s)).queue = rest := by
      rw [hbus, hstart]
    rw [hqueue] at tqueue
    rw [hleft] at tused tfresh
    let served := (site.serve react d.event d.pending.length
      (site.withBus (site.bus s).start s)).2
    obtain ⟨x, hx⟩ : ∃ x, (site.bus served).running? = some x :=
      Option.ne_none_iff_exists'.mp tbusy
    have hfinish : (site.bus served).finish.queue = rest ++ more := by
      unfold finish
      rw [hx]
      exact tqueue
    have hended := lawful.bus_withBus (site.bus served).finish served
    have hlast := thrifty.left_withBus (site.bus served).finish served
    refine ⟨more, ?_, ?_, ?_⟩
    · rw [hended]
      exact hfinish
    · rw [hlast]
      exact tused
    · rw [hlast]
      exact tfresh

/-- To deliver so many events takes them from the queue. -/
theorem deliverMany_leaves {s : σ} {first rest : List (Event α)} (holds : acc.holds s)
    (idle : (site.bus s).running? = none) (queue : (site.bus s).queue = first ++ rest) :
    site.Leaves left rest s (site.deliverMany react first.length s).2 := by
  induction first generalizing s rest with
  | nil =>
    refine ⟨[], ?_, Nat.le_refl _, .inl rfl⟩
    rw [List.append_nil]
    exact queue
  | cons e later ih =>
    have hfirst : (site.bus s).queue = e :: (later ++ rest) := queue
    obtain ⟨more, hqueue, hused, hfresh⟩ := deliver_leaves lawful tame thrifty holds idle hfirst
    obtain ⟨hplayed, hidle⟩ := deliver_played lawful tame holds idle
    rw [List.append_assoc] at hqueue
    exact Leaves.trans hused hfresh (ih hplayed.1 hidle hqueue)

/-- **Rounds are enough when there are more of them than there is to use up.** -/
theorem settle_rests (n : Nat) {s : σ} (holds : acc.holds s) (idle : (site.bus s).running? = none)
    (enough : (site.bus s).queue = [] ∨ left s < n) :
    (site.bus (site.settle react n s).2).AtRest := by
  -- a round that leaves something waiting has used something up
  induction n generalizing s with
  | zero =>
    rcases enough with nothing | hlt
    · exact ⟨idle, nothing⟩
    · exact absurd hlt (Nat.not_lt_zero _)
  | succ n ih =>
    cases hq : (site.bus s).queue with
    | nil =>
      rw [settle_nil hq]
      exact ⟨idle, hq⟩
    | cons e rest =>
      have hlt : left s < n + 1 := by
        rcases enough with nothing | hlt
        · rw [hq] at nothing
          cases nothing
        · exact hlt
      rw [settle_cons hq]
      have hsplit : (site.bus s).queue = e :: rest ++ [] := by rw [hq, List.append_nil]
      obtain ⟨more, hqueue, -, hfresh⟩ :=
        deliverMany_leaves lawful tame thrifty holds idle hsplit
      obtain ⟨hplayed, hidle⟩ := deliverMany_played lawful tame (e :: rest).length holds idle
      rw [List.nil_append] at hqueue
      refine ih hplayed.1 hidle ?_
      rcases hfresh with rfl | hless
      · exact .inl hqueue
      · exact .inr (by omega)

/-- When publishing from outside returns, nothing waits. -/
theorem publish_rests (n : Nat) (signal : Signal) (data : α) {s : σ} (holds : acc.holds s)
    (idle : (site.bus s).running? = none) (enough : left s < n) :
    (site.bus (site.publish react n signal data s).2).AtRest := by
  rw [publish_snd, idle]
  have hleft := thrifty.left_withBus ((site.bus s).publish signal data).2 s
  have hidle : (site.bus (site.withBus ((site.bus s).publish signal data).2 s)).running? = none := by
    rw [lawful.bus_withBus]
    exact idle
  exact settle_rests lawful tame thrifty n (lawful.holds_withBus _ s holds) hidle
    (.inr (hleft ▸ enough))

end Site

/-! ## A host with its lists -/

namespace Host

/-- A list that is taken away is not held any more. -/
theorem heldLists_put {held : Keyed (List (List Request))} {handler : Value} {next : List Request}
    {rest : List (List Request)} (h : Keyed.get? held handler = some (next :: rest)) :
    heldLists (Keyed.put held handler rest) + 1 = heldLists held := by
  induction held with
  | nil => cases h
  | cons entry others ih =>
    obtain ⟨key, calls⟩ := entry
    by_cases hk : key.asKey = handler.asKey
    · have hcalls : calls = next :: rest := by
        simpa [Keyed.get?, Keyed.canonical, Table.get?, hk] using h
      simp only [Keyed.put, hk, if_true, heldLists, hcalls, List.length_cons]
      omega
    · have hothers : Keyed.get? others handler = some (next :: rest) := by
        simpa [Keyed.get?, Keyed.canonical, Table.get?, hk] using h
      have := ih hothers
      simp only [Keyed.put, hk, if_false, heldLists]
      omega

/-- To take a list uses one up, if there is one. -/
theorem heldLists_takeHeld (handler : Value) (h : Host) :
    heldLists (takeHeld handler h).2.held ≤ heldLists h.held ∧
      ((takeHeld handler h).1 = [] ∨
        heldLists (takeHeld handler h).2.held < heldLists h.held) := by
  unfold takeHeld
  split
  · rename_i next rest hget
    have hput := heldLists_put hget
    constructor
    · show heldLists (Keyed.put h.held handler rest) ≤ _
      omega
    · refine .inr ?_
      show heldLists (Keyed.put h.held handler rest) < _
      omega
  · exact ⟨Nat.le_refl _, .inl rfl⟩

/-- **A handler publishes only what the lists say that it uses up.** -/
theorem react_thrifty (n : Nat) :
    site.Thrifty (fun h => heldLists h.held) account.holds (Host.react (n + 1)) where
  left_withBus _ _ := rfl
  react handler e h _ busy := by
    obtain ⟨signs, hdoes, -, hheld, hsilent⟩ := react_does n handler e busy
    obtain ⟨hle, hless⟩ := heldLists_takeHeld handler h
    obtain ⟨more, hqueue, hcontents⟩ := hdoes.queue
    rw [← hheld] at hle hless
    refine ⟨more, hqueue, hle, ?_⟩
    rcases hless with hnil | hlt
    · rw [hsilent hnil] at hcontents
      exact .inl (List.map_eq_nil_iff.mp hcontents)
    · exact .inr hlt

/-- A host that was at rest is at rest again after every request. -/
theorem perform_rests (r : Request) {h : Host} (rest : h.bus.AtRest) :
    (perform r h).2.bus.AtRest := by
  have hperform (r : Request) : perform r h = carryOut (Host.react h.depth) h.depth r h := rfl
  rw [hperform]
  induction r using induction_on_outset with
  | publish signal data =>
    rw [carryOut_publish]
    cases payloadOf data with
    | error f => exact rest
    | ok payload =>
      exact Site.publish_rests lawful (react_tame (heldLists h.held))
        (react_thrifty (heldLists h.held)) h.depth signal payload trivial rest.idle
        (Nat.lt_succ_self _)
  | attempt r ih =>
    rw [carryOut_attempt_snd]
    exact ih
  | silent r hr =>
    obtain ⟨result, b, hcarry, hdoes, -⟩ := carryOut_deed (Host.react h.depth) h.depth hr h
    rw [hcarry]
    obtain ⟨more, hqueue, hcontents⟩ := hdoes.queue
    have hmore : more = [] := List.map_eq_nil_iff.mp hcontents
    refine ⟨hdoes.running.trans rest.idle, ?_⟩
    rw [hqueue, rest.nothing, hmore]
    rfl

theorem performAll_rests (requests : List Request) (h : Host) (rest : h.bus.AtRest) :
    (performAll requests h).bus.AtRest := by
  induction requests generalizing h with
  | nil => exact rest
  | cons r later ih => exact ih _ (perform_rests r rest)

end Host

/-- Events were taken in the order in which they were published, each of them once, and handlers were
called for one event after the other. -/
structure Sequential [DecidableEq η] (trace : List (Turn η α)) : Prop where
  undivided : Undivided trace
  order : (taken trace).map Event.content = publications (heard trace)
  once : (taken trace).Pairwise fun e f => e.number < f.number

/-- A run from rest to rest takes what was published in it. -/
theorem Run.order [DecidableEq η] {a b : Bus η α} {trace : List (Turn η α)} (run : Run a trace b)
    (before : a.AtRest) (after : b.AtRest) :
    (taken trace).map Event.content = publications (heard trace) := by
  have hcontents := run.contents
  rw [before.nothing, after.nothing, List.append_nil] at hcontents
  exact hcontents.symm

theorem Run.sequential [DecidableEq η] {b : Bus η α} {trace : List (Turn η α)}
    (run : Run {} trace b) (after : b.AtRest) : Sequential trace where
  undivided := run.undivided
  order := run.order ⟨rfl, rfl⟩ after
  once := (List.pairwise_append.mp run.inOrder.numbers).1

/-- **Events are handled run to completion, in the order in which they were published.**  Whatever a
host and its handlers ask for, what is heard of them is heard of a run in which handlers are called
for one event after the other, and in which each event is taken once, in its turn.  Nothing is being
delivered and nothing waits between the requests of the host; so what the host publishes next is
taken at once, and when the publishing returns, all that was published meanwhile was taken. -/
theorem Host.run_to_completion (held : Keyed (List (List Request))) (requests : List Request) :
    let h := performAll requests { held }
    (∃ trace, Run {} trace h.bus ∧ heard trace = story requests { held } ∧ Sequential trace) ∧
      h.bus.AtRest ∧
      ∀ signal payload,
        let k := (site.publish (Host.react h.depth) h.depth signal payload h).2
        k.bus.AtRest ∧
          ∃ turn during, turn.taken? = some { number := h.bus.issued, signal, data := payload } ∧
            Run h.bus (.deed (.publish signal payload) :: turn :: during) k.bus ∧
            log k = log h ++ heard (turn :: during) ∧
            (taken (turn :: during)).map Event.content =
              (signal, payload) :: publications (heard (turn :: during)) := by
  intro h
  have hrest : h.bus.AtRest := performAll_rests requests { held } ⟨rfl, rfl⟩
  refine ⟨?_, hrest, fun signal payload => ?_⟩
  · obtain ⟨⟨trace, run, hheard⟩, -⟩ := performAll_run held requests
    exact ⟨trace, run, hheard, run.sequential hrest⟩
  · have krest := Site.publish_rests lawful (react_tame (heldLists h.held))
      (react_thrifty (heldLists h.held)) h.depth signal payload (s := h) trivial hrest.idle
      (Nat.lt_succ_self _)
    obtain ⟨turn, during, htaken, run, hlog⟩ := Site.publish_takes lawful
      (react_tame (heldLists h.held)) (heldLists h.held) signal payload trivial hrest.idle
      hrest.nothing
    refine ⟨krest, turn, during, htaken, run, hlog, ?_⟩
    have horder := run.order hrest krest
    rw [heard_cons, publications_append] at horder
    exact horder

end Dialogue.Bus
