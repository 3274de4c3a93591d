import Dialogue.Bus.Settling
import Dialogue.Proofs.Bus.Run
import Dialogue.Proofs.Step

/-!
# Settling is a run

A host that settles its bus calls handlers in a loop of its own.  What it does to the bus is a run
all the same, provided that its handlers do nothing with the bus but deeds.  What is heard of the run,
its calls and publishings, is what is told of the host (`Account`): it may be written down in a log,
or be known from what handlers never do.

## Results

* `Site.serve_played`, `Site.deliver_takes`, `Site.settle_played` — the loops of a host, each from
  the one inside it.
* `Site.publish_played` — publishing an event is a run; `Site.publish_does` — it is a deed alone
  while an event is being delivered; `Site.publish_takes` — the event is taken at once when none
  waits.
* `Site.publish_keeps` — what handlers keep of a state, publishing an event keeps.
-/

set_option autoImplicit false

namespace Dialogue.Bus

variable {σ η α : Type}

/-- What can be heard of a bus. -/
inductive Sign (η α : Type) where
  | called (handler : η) (signal : Signal) (data : α)
  | published (signal : Signal) (data : α)

/-- What can be heard of a turn. -/
def Turn.sign? : Turn η α → Option (Sign η α)
  | .called e s => some (.called s.handler e.signal e.data)
  | .deed (.publish signal data) => some (.published signal data)
  | _ => none

/-- The calls and publishings of a run. -/
def heard (trace : List (Turn η α)) : List (Sign η α) :=
  trace.filterMap Turn.sign?

theorem heard_append (first second : List (Turn η α)) :
    heard (first ++ second) = heard first ++ heard second :=
  List.filterMap_append

theorem heard_cons (turn : Turn η α) (trace : List (Turn η α)) :
    heard (turn :: trace) = heard [turn] ++ heard trace :=
  heard_append [turn] trace

variable [DecidableEq η]

/-! ## Deeds alone -/

/-- One bus comes from another by deeds alone, and this is heard of them. -/
def Does (b : Bus η α) (signs : List (Sign η α)) (c : Bus η α) : Prop :=
  ∃ deeds : List (Deed η α), Run b (deeds.map .deed) c ∧ heard (deeds.map .deed) = signs

theorem Does.refl (b : Bus η α) : Does b [] b :=
  ⟨[], Run.nil b, rfl⟩

theorem Does.one {b c : Bus η α} {d : Deed η α} (result : d.result b = .ok c) :
    Does b (heard [.deed d]) c :=
  ⟨[d], (Run.nil b).snoc (.deed result), rfl⟩

/-- Whatever event is consumed, if there is one, nothing is heard of it. -/
theorem Does.consume (b : Bus η α) (event? : Option (Event α)) :
    Does b [] (event?.elim b b.consume) := by
  cases event? with
  | none => exact Does.refl b
  | some e => exact Does.one (d := .consume e) rfl

theorem Does.trans {a b c : Bus η α} {first second : List (Sign η α)} (h : Does a first b)
    (k : Does b second c) : Does a (first ++ second) c := by
  obtain ⟨earlier, hrun, rfl⟩ := h
  obtain ⟨later, krun, rfl⟩ := k
  refine ⟨earlier ++ later, ?_, ?_⟩
  · rw [List.map_append]
    exact hrun.append krun
  · rw [List.map_append, heard_append]

/-- Deeds leave the event that is being delivered as it is. -/
theorem Run.running_of_deeds {b c : Bus η α} {trace : List (Turn η α)} (run : Run b trace c)
    (deeds : ∀ turn ∈ trace, ∃ d, turn = .deed d) : c.running? = b.running? := by
  induction run with
  | nil => rfl
  | @snoc x c trace turn _ move ih =>
    have hbefore := ih fun turn hm => deeds turn (List.mem_append_left _ hm)
    obtain ⟨d, rfl⟩ := deeds turn (by simp)
    cases move with
    | deed result => exact ((d.result_spec result).1).trans hbefore

theorem Does.running {b c : Bus η α} {signs : List (Sign η α)} (h : Does b signs c) :
    c.running? = b.running? := by
  obtain ⟨deeds, run, -⟩ := h
  refine run.running_of_deeds fun turn hm => ?_
  obtain ⟨d, -, rfl⟩ := List.mem_map.mp hm
  exact ⟨d, rfl⟩

/-! ## Sites -/

/-- What is known of the states of a site, and what is told from one of them to another one. -/
structure Account (σ η α : Type) where
  holds : σ → Prop
  tells : σ → List (Sign η α) → σ → Prop

namespace Site

variable (site : Site σ η α) (acc : Account σ η α)

omit [DecidableEq η] in
/-- A site gives back the bus that was put there, and the account does not depend on the bus. -/
structure Lawful : Prop where
  bus_withBus : ∀ b s, site.bus (site.withBus b s) = b
  holds_withBus : ∀ b s, acc.holds s → acc.holds (site.withBus b s)
  tells_refl : ∀ s, acc.tells s [] s
  tells_withBus : ∀ b s, acc.tells s [] (site.withBus b s)
  tells_trans : ∀ {s t u first second}, acc.tells s first t → acc.tells t second u →
    acc.tells s (first ++ second) u

/-- Whoever is called while an event is being delivered is told of, and does nothing with the bus but
deeds, which are told of too. -/
def Tame (react : η → Event α → StateM σ Unit) : Prop :=
  ∀ handler e s, acc.holds s → (site.bus s).running? ≠ none →
    acc.holds (react handler e s).2 ∧
      ∃ signs, Does (site.bus s) signs (site.bus (react handler e s).2) ∧
        acc.tells s (.called handler e.signal e.data :: signs) (react handler e s).2

/-- A run leads from the bus of one state to that of another, and what is heard of it is told. -/
def Played (s t : σ) : Prop :=
  acc.holds t ∧ ∃ trace, Run (site.bus s) trace (site.bus t) ∧ acc.tells s (heard trace) t

variable {site : Site σ η α} {acc : Account σ η α} (lawful : site.Lawful acc)

include lawful

theorem Played.refl {s : σ} (holds : acc.holds s) : site.Played acc s s :=
  ⟨holds, [], Run.nil _, lawful.tells_refl s⟩

theorem Played.trans {s t u : σ} (h : site.Played acc s t) (k : site.Played acc t u) :
    site.Played acc s u := by
  obtain ⟨-, first, hrun, htells⟩ := h
  obtain ⟨holds, second, krun, ktells⟩ := k
  refine ⟨holds, first ++ second, hrun.append krun, ?_⟩
  rw [heard_append]
  exact lawful.tells_trans htells ktells

omit lawful

variable {react : η → Event α → StateM σ Unit}

theorem serve_none {e : Event α} {n : Nat} {s : σ} {b : Bus η α}
    (h : (site.bus s).callNext = (none, b)) :
    (site.serve react e (n + 1) s).2 = site.withBus b s := by
  simp only [serve, Step.state_bind, Site.callNext, h]
  rfl

theorem serve_some {e : Event α} {n : Nat} {s : σ} {b : Bus η α} {sub : Subscription η}
    (h : (site.bus s).callNext = (some sub, b)) :
    (site.serve react e (n + 1) s).2 =
      (site.serve react e n (react sub.handler e (site.withBus b s)).2).2 := by
  simp only [serve, Step.state_bind, Site.callNext, h]

/-- Serving goes by the next call and by nothing else of the bus. -/
theorem serve_congr {e : Event α} {n : Nat} {s t : σ}
    (next : (site.bus s).callNext = (site.bus t).callNext)
    (same : ∀ b, site.withBus b s = site.withBus b t) :
    site.serve react e (n + 1) s = site.serve react e (n + 1) t := by
  simp only [serve, Step.state_bind, Site.callNext, next, same]

/-- Serving calls one handler after the other and stops where nobody is left to call. -/
theorem serve_played (lawful : site.Lawful acc) (tame : site.Tame acc react) {n : Nat} {s : σ}
    {d : Delivery η α} (holds : acc.holds s) (running : (site.bus s).running? = some d)
    (enough : d.pending.length ≤ n) :
    acc.holds (site.serve react d.event n s).2 ∧
      ∃ trace b x, Run (site.bus s) trace b ∧ b.running? = some x ∧
        b.callNext = (none, site.bus (site.serve react d.event n s).2) ∧
        acc.tells s (heard trace) (site.serve react d.event n s).2 := by
  -- every call takes somebody off the pending ones, so as many calls as they are are enough
  induction n generalizing s d with
  | zero =>
    have hnil : d.pending = [] := List.length_eq_zero_iff.mp (Nat.le_zero.mp enough)
    refine ⟨holds, [], site.bus s, d, Run.nil _, running, ?_, lawful.tells_refl s⟩
    exact callNext_of_pending_nil running hnil
  | succ n ih =>
    cases hnext : (site.bus s).callNext with
    | mk next b =>
      have hbus := lawful.bus_withBus b s
      have hput := lawful.holds_withBus b s holds
      have htells := lawful.tells_withBus b s
      cases next with
      | none =>
        rw [serve_none hnext]
        refine ⟨hput, [], site.bus s, d, Run.nil _, running, ?_, htells⟩
        rw [hnext, hbus]
      | some sub =>
        obtain ⟨dead, later, hp, -, -, hb⟩ := callNext_some running hnext
        have hmove : Move (site.bus s) (.called d.event sub) b := .called running hnext
        obtain ⟨x, hx, hevent, hpending⟩ :
            ∃ x, b.running? = some x ∧ x.event = d.event ∧ x.pending = later := by
          subst hb
          exact ⟨_, rfl, rfl, rfl⟩
        -- the handler does deeds, so the same event is delivered after it
        have hrun : (site.bus (site.withBus b s)).running? ≠ none := by
          rw [hbus, hx]
          simp
        obtain ⟨hafter, signs, hdoes, hcalled⟩ :=
          tame sub.handler d.event (site.withBus b s) hput hrun
        have hkept := hdoes.running
        rw [hbus] at hdoes hkept
        obtain ⟨deeds, hdeeds, rfl⟩ := hdoes
        have hless : x.pending.length ≤ n := by
          rw [hp, List.length_append, List.length_cons] at enough
          rw [hpending]
          omega
        obtain ⟨hend, trace, c, y, hserve, hy, hc, hl⟩ := ih hafter (hkept.trans hx) hless
        rw [hevent] at hend hc hl
        rw [serve_some hnext]
        refine ⟨hend, .called d.event sub :: (deeds.map .deed ++ trace), c, y, ?_, hy, hc, ?_⟩
        · exact ((Run.nil _).snoc hmove).append (hdeeds.append hserve)
        · have hheard : heard (.called d.event sub :: (deeds.map .deed ++ trace)) =
              (.called sub.handler d.event.signal d.event.data :: heard (deeds.map .deed)) ++
                heard trace := by
            rw [heard_cons, heard_append]
            rfl
          rw [hheard]
          exact lawful.tells_trans (lawful.tells_trans htells hcalled) hl

theorem deliver_none {s : σ}
    (h : (site.bus (site.withBus (site.bus s).start s)).running? = none) :
    (site.deliver react s).2 = site.withBus (site.bus s).start s := by
  simp only [deliver, Step.state_bind, update, Step.state_modify, Step.state_get, h]
  rfl

theorem deliver_some {s : σ} {d : Delivery η α}
    (h : (site.bus (site.withBus (site.bus s).start s)).running? = some d) :
    (site.deliver react s).2 =
      let served :=
        (site.serve react d.event d.pending.length (site.withBus (site.bus s).start s)).2
      site.withBus (site.bus served).finish served := by
  simp only [deliver, Step.state_bind, update, Step.state_modify, Step.state_get, h]

/-- A run that takes this event first leads from the bus of one state to that of another, and what is
heard of it is told. -/
def Takes (site : Site σ η α) (acc : Account σ η α) (e : Event α) (s t : σ) : Prop :=
  acc.holds t ∧ ∃ turn trace, turn.taken? = some e ∧
    Run (site.bus s) (turn :: trace) (site.bus t) ∧ acc.tells s (heard (turn :: trace)) t

theorem Takes.played {e : Event α} {s t : σ} (h : site.Takes acc e s t) : site.Played acc s t := by
  obtain ⟨holds, turn, trace, -, run, htells⟩ := h
  exact ⟨holds, turn :: trace, run, htells⟩

theorem Takes.trans (lawful : site.Lawful acc) {e : Event α} {s t u : σ}
    (h : site.Takes acc e s t) (k : site.Played acc t u) : site.Takes acc e s u := by
  obtain ⟨-, turn, first, htaken, hrun, htells⟩ := h
  obtain ⟨holds, second, krun, ktells⟩ := k
  refine ⟨holds, turn, first ++ second, htaken, hrun.append krun, ?_⟩
  have hsplit : heard (turn :: (first ++ second)) = heard (turn :: first) ++ heard second :=
    heard_append (turn :: first) second
  rw [hsplit]
  exact lawful.tells_trans htells ktells

theorem deliver_nothing (lawful : site.Lawful acc) (react : η → Event α → StateM σ Unit) {s : σ}
    (holds : acc.holds s) (idle : (site.bus s).running? = none)
    (nothing : (site.bus s).queue = []) :
    acc.holds (site.deliver react s).2 ∧ site.bus (site.deliver react s).2 = site.bus s ∧
      acc.tells s [] (site.deliver react s).2 := by
  have hbus := lawful.bus_withBus (site.bus s).start s
  have hs : (site.bus s).start = site.bus s := by
    unfold start
    rw [idle, nothing]
  have hidle : (site.bus (site.withBus (site.bus s).start s)).running? = none := by
    rw [hbus, hs]
    exact idle
  rw [deliver_none hidle]
  exact ⟨lawful.holds_withBus _ s holds, hbus.trans hs, lawful.tells_withBus _ s⟩

/-- To deliver an event is a run from rest to rest that takes this event. -/
theorem deliver_takes (lawful : site.Lawful acc) (tame : site.Tame acc react) {s : σ} {e : Event α}
    {rest : List (Event α)} (holds : acc.holds s) (idle : (site.bus s).running? = none)
    (first : (site.bus s).queue = e :: rest) :
    site.Takes acc e s (site.deliver react s).2 ∧
      (site.bus (site.deliver react s).2).running? = none := by
  have hbus := lawful.bus_withBus (site.bus s).start s
  have hput := lawful.holds_withBus (site.bus s).start s holds
  have htells := lawful.tells_withBus (site.bus s).start s
  by_cases nobody : (site.bus s).subscriptions e.signal = []
  · have hmove := Move.passed idle first nobody
    have hidle : (site.bus (site.withBus (site.bus s).start s)).running? = none := by
      rw [hbus, start_of_nobody idle first nobody]
      exact idle
    rw [deliver_none hidle]
    refine ⟨⟨hput, .passed e, [], rfl, ?_, htells⟩, hidle⟩
    rw [hbus]
    exact (Run.nil _).snoc hmove
  · have hmove := Move.begun idle first nobody
    obtain ⟨r, -, hs⟩ := start_of_somebody idle first nobody
    obtain ⟨d, hd⟩ : ∃ d, (site.bus (site.withBus (site.bus s).start s)).running? = some d := by
      rw [hbus, hs]
      exact ⟨_, rfl⟩
    obtain ⟨hserved, trace, b, x, hrun, hx, hc, hl⟩ :=
      serve_played lawful tame hput hd (Nat.le_refl d.pending.length)
    have hend := Move.ended hx hc
    obtain ⟨spent, -, hf⟩ := callNext_none_finish hx hc
    rw [hbus] at hrun
    rw [deliver_some hd]
    let served := (site.serve react d.event d.pending.length
      (site.withBus (site.bus s).start s)).2
    have hlast := lawful.tells_withBus (site.bus served).finish served
    refine ⟨⟨lawful.holds_withBus _ served hserved, .begun e, trace ++ [.ended x.event], rfl, ?_, ?_⟩,
      ?_⟩
    · rw [lawful.bus_withBus]
      exact ((Run.nil _).snoc hmove).append (hrun.snoc hend)
    · rw [heard_cons, heard_append]
      exact lawful.tells_trans htells (lawful.tells_trans hl hlast)
    · rw [lawful.bus_withBus, hf]
      rfl

theorem deliver_played (lawful : site.Lawful acc) (tame : site.Tame acc react) {s : σ}
    (holds : acc.holds s) (idle : (site.bus s).running? = none) :
    site.Played acc s (site.deliver react s).2 ∧
      (site.bus (site.deliver react s).2).running? = none := by
  cases first : (site.bus s).queue with
  | nil =>
    obtain ⟨hholds, hbus, htells⟩ := deliver_nothing lawful react holds idle first
    refine ⟨⟨hholds, [], ?_, htells⟩, ?_⟩
    · rw [hbus]
      exact Run.nil _
    · rw [hbus]
      exact idle
  | cons e rest =>
    obtain ⟨htakes, hidle⟩ := deliver_takes lawful tame holds idle first
    exact ⟨htakes.played, hidle⟩

theorem deliverMany_played (lawful : site.Lawful acc) (tame : site.Tame acc react) (n : Nat)
    {s : σ} (holds : acc.holds s) (idle : (site.bus s).running? = none) :
    site.Played acc s (site.deliverMany react n s).2 ∧
      (site.bus (site.deliverMany react n s).2).running? = none := by
  induction n generalizing s with
  | zero => exact ⟨Played.refl lawful holds, idle⟩
  | succ n ih =>
    obtain ⟨hfirst, hidle⟩ := deliver_played lawful tame holds idle
    obtain ⟨hrest, hend⟩ := ih hfirst.1 hidle
    exact ⟨Played.trans lawful hfirst hrest, hend⟩

theorem settle_nil {n : Nat} {s : σ} (h : (site.bus s).queue = []) :
    (site.settle react (n + 1) s).2 = s := by
  simp only [settle, Step.state_bind, Step.state_get, h]
  rfl

theorem settle_cons {n : Nat} {s : σ} {e : Event α} {rest : List (Event α)}
    (h : (site.bus s).queue = e :: rest) :
    (site.settle react (n + 1) s).2 =
      (site.settle react n (site.deliverMany react (e :: rest).length s).2).2 := by
  simp only [settle, Step.state_bind, Step.state_get, h]

theorem settle_played (lawful : site.Lawful acc) (tame : site.Tame acc react) (n : Nat)
    {s : σ} (holds : acc.holds s) (idle : (site.bus s).running? = none) :
    site.Played acc s (site.settle react n s).2 ∧
      (site.bus (site.settle react n s).2).running? = none := by
  induction n generalizing s with
  | zero => exact ⟨Played.refl lawful holds, idle⟩
  | succ n ih =>
    cases hq : (site.bus s).queue with
    | nil =>
      rw [settle_nil hq]
      exact ⟨Played.refl lawful holds, idle⟩
    | cons e rest =>
      rw [settle_cons hq]
      obtain ⟨hfirst, hidle⟩ := deliverMany_played lawful tame (e :: rest).length holds idle
      obtain ⟨hrest, hend⟩ := ih hfirst.1 hidle
      exact ⟨Played.trans lawful hfirst hrest, hend⟩

theorem publish_snd (n : Nat) (signal : Signal) (data : α) (s : σ) :
    (site.publish react n signal data s).2 =
      let t := site.withBus ((site.bus s).publish signal data).2 s
      if (site.bus s).running?.isNone then (site.settle react n t).2 else t := by
  unfold publish
  cases h : (site.bus s).running?.isNone with
  | true =>
    simp only [Step.state_bind, Step.state_modify, Step.state_get, h, if_true]
    rfl
  | false =>
    simp only [Step.state_bind, Step.state_modify, Step.state_get, h, Bool.false_eq_true, if_false]
    rfl

/-- While an event is being delivered, publishing another one is a deed. -/
theorem publish_does (lawful : site.Lawful acc) (react : η → Event α → StateM σ Unit) (n : Nat)
    (signal : Signal) (data : α) {s : σ} (busy : (site.bus s).running? ≠ none) :
    (site.publish react n signal data s).2 =
        site.withBus ((site.bus s).publish signal data).2 s ∧
      Does (site.bus s) [.published signal data]
        (site.bus (site.publish react n signal data s).2) := by
  have hbusy : (site.bus s).running?.isNone = false := by
    cases h : (site.bus s).running? with
    | none => exact absurd h busy
    | some d => rfl
  rw [publish_snd, hbusy]
  refine ⟨rfl, ?_⟩
  show Does (site.bus s) _ (site.bus (site.withBus _ s))
  rw [lawful.bus_withBus]
  exact Does.one (d := .publish signal data) rfl

/-- **To publish an event is a run from rest to rest, and what is heard of it after the publishing
itself is told.** -/
theorem publish_played (lawful : site.Lawful acc) (tame : site.Tame acc react) (n : Nat)
    (signal : Signal) (data : α) {s : σ} (holds : acc.holds s)
    (idle : (site.bus s).running? = none) :
    (∃ trace, Run (site.bus s) (.deed (.publish signal data) :: trace)
        (site.bus (site.publish react n signal data s).2) ∧
      acc.tells s (heard trace) (site.publish react n signal data s).2) ∧
      (site.bus (site.publish react n signal data s).2).running? = none := by
  rw [publish_snd, idle]
  let opened := site.withBus ((site.bus s).publish signal data).2 s
  have hbus : site.bus opened = ((site.bus s).publish signal data).2 := lawful.bus_withBus _ s
  have hidle : (site.bus opened).running? = none := by
    rw [hbus]
    exact idle
  obtain ⟨⟨-, trace, run, htells⟩, hend⟩ :=
    settle_played lawful tame n (lawful.holds_withBus _ s holds) hidle
  rw [hbus] at run
  have hmove : Move (site.bus s) (.deed (.publish signal data))
      ((site.bus s).publish signal data).2 := .deed rfl
  exact ⟨⟨trace, ((Run.nil _).snoc hmove).append run,
    lawful.tells_trans (lawful.tells_withBus _ s) htells⟩, hend⟩

theorem publish_holds (lawful : site.Lawful acc) (tame : site.Tame acc react) (n : Nat)
    (signal : Signal) (data : α) {s : σ} (holds : acc.holds s)
    (idle : (site.bus s).running? = none) :
    acc.holds (site.publish react n signal data s).2 := by
  rw [publish_snd, idle]
  let opened := site.withBus ((site.bus s).publish signal data).2 s
  have hidle : (site.bus opened).running? = none := by
    rw [lawful.bus_withBus]
    exact idle
  exact (settle_played lawful tame n (lawful.holds_withBus _ s holds) hidle).1.1

/-- An event that is published at rest is taken at once. -/
theorem publish_takes (lawful : site.Lawful acc) (tame : site.Tame acc react) (n : Nat)
    (signal : Signal) (data : α) {s : σ} (holds : acc.holds s)
    (idle : (site.bus s).running? = none) (nothing : (site.bus s).queue = []) :
    ∃ turn trace, turn.taken? = some ((site.bus s).publish signal data).1 ∧
      Run (site.bus s) (.deed (.publish signal data) :: turn :: trace)
        (site.bus (site.publish react (n + 1) signal data s).2) ∧
      acc.tells s (heard (turn :: trace)) (site.publish react (n + 1) signal data s).2 := by
  rw [publish_snd, idle]
  let opened := site.withBus ((site.bus s).publish signal data).2 s
  have hbus : site.bus opened = ((site.bus s).publish signal data).2 := lawful.bus_withBus _ s
  have hopened : acc.holds opened := lawful.holds_withBus _ s holds
  have hidle : (site.bus opened).running? = none := by
    rw [hbus]
    exact idle
  have hqueue : (site.bus opened).queue = [((site.bus s).publish signal data).1] := by
    rw [hbus]
    show (site.bus s).queue ++ _ = _
    rw [nothing]
    rfl
  obtain ⟨htakes, hdelivered⟩ := deliver_takes lawful tame hopened hidle hqueue
  obtain ⟨hrest, -⟩ := settle_played lawful tame n htakes.1 hdelivered
  obtain ⟨-, turn, trace, htaken, run, htells⟩ := htakes.trans lawful hrest
  rw [hbus] at run
  have hmove : Move (site.bus s) (.deed (.publish signal data))
      ((site.bus s).publish signal data).2 := .deed rfl
  have hsettle : (site.settle react (n + 1) opened).2 =
      (site.settle react n (site.deliver react opened).2).2 := settle_cons hqueue
  refine ⟨turn, trace, htaken, ?_, ?_⟩
  · show Run _ _ (site.bus (site.settle react (n + 1) opened).2)
    rw [hsettle]
    exact ((Run.nil _).snoc hmove).append run
  · show acc.tells s _ (site.settle react (n + 1) opened).2
    rw [hsettle]
    exact lawful.tells_trans (lawful.tells_withBus _ s) htells

/-! ## What the loops keep -/

variable {R : σ → σ → Prop}

theorem serve_keeps (frame : Step.Frame R) (bus : ∀ b s, R s (site.withBus b s))
    (keeps : ∀ handler e s, R s (react handler e s).2) (e : Event α) (n : Nat) (s : σ) :
    R s (site.serve react e n s).2 := by
  induction n generalizing s with
  | zero => exact frame.refl s
  | succ n ih =>
    cases h : (site.bus s).callNext with
    | mk next b =>
      cases next with
      | none =>
        rw [serve_none h]
        exact bus b s
      | some sub =>
        rw [serve_some h]
        exact frame.trans (frame.trans (bus b s) (keeps sub.handler e _)) (ih _)

theorem deliver_keeps (frame : Step.Frame R) (bus : ∀ b s, R s (site.withBus b s))
    (keeps : ∀ handler e s, R s (react handler e s).2) (s : σ) : R s (site.deliver react s).2 := by
  cases h : (site.bus (site.withBus (site.bus s).start s)).running? with
  | none =>
    rw [deliver_none h]
    exact bus _ s
  | some d =>
    rw [deliver_some h]
    have hserve := serve_keeps frame bus keeps d.event d.pending.length
      (site.withBus (site.bus s).start s)
    exact frame.trans (frame.trans (bus _ s) hserve) (bus _ _)

theorem deliverMany_keeps (frame : Step.Frame R) (bus : ∀ b s, R s (site.withBus b s))
    (keeps : ∀ handler e s, R s (react handler e s).2) (n : Nat) (s : σ) :
    R s (site.deliverMany react n s).2 := by
  induction n generalizing s with
  | zero => exact frame.refl s
  | succ n ih => exact frame.trans (deliver_keeps frame bus keeps s) (ih _)

theorem settle_keeps (frame : Step.Frame R) (bus : ∀ b s, R s (site.withBus b s))
    (keeps : ∀ handler e s, R s (react handler e s).2) (n : Nat) (s : σ) :
    R s (site.settle react n s).2 := by
  induction n generalizing s with
  | zero => exact frame.refl s
  | succ n ih =>
    cases h : (site.bus s).queue with
    | nil =>
      rw [settle_nil h]
      exact frame.refl s
    | cons e rest =>
      rw [settle_cons h]
      exact frame.trans (deliverMany_keeps frame bus keeps _ s) (ih _)

/-- What every change of the bus keeps, and every handler, is kept by publishing an event. -/
theorem publish_keeps (frame : Step.Frame R) (bus : ∀ b s, R s (site.withBus b s))
    (keeps : ∀ handler e s, R s (react handler e s).2) (n : Nat) (signal : Signal) (data : α)
    (s : σ) : R s (site.publish react n signal data s).2 := by
  rw [publish_snd]
  have hput := bus ((site.bus s).publish signal data).2 s
  split
  · exact frame.trans hput (settle_keeps frame bus keeps n _)
  · exact hput

end Site

end Dialogue.Bus
