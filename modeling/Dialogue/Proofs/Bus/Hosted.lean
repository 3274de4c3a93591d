import Dialogue.Bus.Host
import Dialogue.Proofs.Bus.Settled
import Dialogue.Proofs.Step

/-!
# What a host does is a run

The requests that a host carries out one after the other make a run of its bus.  Whoever is called
in it, and whatever is published in it, is in the journal, but for the events that the host itself
publishes, which are among its requests.  A request that tries another one comes to the same, but for
its answer.

## Results

* `carryOut_attempt_snd` — to try a request is to carry it out.
* `carryOut_deed`, `carryOut_publish` — a request is a deed, or publishes an event.
* `react_does` — a handler does nothing with the bus but deeds.
* `performAll_run` — what a host does is a run, of which its journal and its requests tell.
-/

set_option autoImplicit false

namespace Dialogue.Bus.Host

/-- What an entry of a journal tells of the bus. -/
def signOf? : Occurrence → Option (Sign Value Payload)
  | .called handler signal data => some (.called handler signal data)
  | .replied (.event signal data _) => some (.published signal data)
  | _ => none

/-- The calls and publishings that a journal tells of. -/
def log (h : Host) : List (Sign Value Payload) :=
  h.journal.filterMap signOf?

theorem log_note (o : Occurrence) (h : Host) : log (note o h) = log h ++ (signOf? o).toList := by
  unfold log note
  rw [List.filterMap_append]
  cases hs : signOf? o <;> simp [hs]

/-- What is told of a host is what its journal tells of. -/
def account : Account Host Value Payload where
  holds _ := True
  tells h signs k := log k = log h ++ signs

theorem lawful : Site.Lawful site account where
  bus_withBus _ _ := rfl
  holds_withBus _ _ _ := trivial
  tells_refl _ := (List.append_nil _).symm
  tells_withBus _ _ := (List.append_nil _).symm
  tells_trans hlog klog := by
    show log _ = log _ ++ _
    rw [klog, hlog, List.append_assoc]

/-- What is heard of a request that is answered like this. -/
def signsOf : Except Fault Reply → List (Sign Value Payload)
  | .ok reply => (signOf? (.replied reply)).toList
  | .error _ => []

variable (react : Value → Event Payload → StateM Host Unit)

/-- To try something comes to what it comes to, and is answered also when that failed. -/
theorem carryOut_attempt (rounds : Nat) (r : Request) (h : Host) :
    carryOut react rounds (.attempt r) h =
      match carryOut react rounds r h with
      | (.ok reply, k) => (.ok reply, k)
      | (.error f, k) => (.ok (.failed f), k) := by
  rw [carryOut, Step.tryCatch_apply]
  rcases carryOut react rounds r h with ⟨result, k⟩
  cases result <;> rfl

@[simp] theorem carryOut_attempt_snd (rounds : Nat) (r : Request) (h : Host) :
    (carryOut react rounds (.attempt r) h).2 = (carryOut react rounds r h).2 := by
  rw [carryOut_attempt]
  split <;> simp_all

/-- What is heard of a request of the host before anybody is called. -/
def outset : Request → List (Sign Value Payload)
  | .publish signal data =>
    match payloadOf data with
    | .ok payload => [.published signal payload]
    | .error _ => []
  | .attempt r => outset r
  | _ => []

/-- A request publishes something, tries another one, or nothing is heard of it at first. -/
@[elab_as_elim]
theorem induction_on_outset {P : Request → Prop} (r : Request)
    (publish : ∀ signal data, P (.publish signal data))
    (attempt : ∀ r, P r → P (.attempt r)) (silent : ∀ r, outset r = [] → P r) : P r := by
  induction r with
  | publish signal data => exact publish signal data
  | attempt r ih => exact attempt r ih
  | _ => exact silent _ rfl

/-- What does not give data by name cannot be published. -/
theorem carryOut_publish (rounds : Nat) (signal : Signal) (data : Value) (h : Host) :
    carryOut react rounds (.publish signal data) h =
      match payloadOf data with
      | .error f => (.error f, h)
      | .ok payload =>
        let published := site.publish react rounds signal payload h
        (.ok (.event signal payload (published.2.bus.isConsumed published.1)),
          keep published.1 published.2) := by
  have hr : carryOut react rounds (.publish signal data) h =
      (Step.of (payloadOf data) >>= fun payload => do
        let event ← ExceptT.lift (site.publish react rounds signal payload)
        modify (keep event)
        return .event signal payload ((← get).bus.isConsumed event) : Step Host Reply) h := rfl
  rw [hr]
  cases payloadOf data <;> rfl

/-- A request that publishes nothing is a deed or leaves the bus alone, and changes nothing else. -/
theorem carryOut_deed (rounds : Nat) {r : Request} (silent : outset r = []) (h : Host) :
    ∃ result b, carryOut react rounds r h = (result, { h with bus := b }) ∧
      Does h.bus [] b ∧ signsOf result = [] := by
  induction r with
  | subscribe signal handler priority oneShot weak =>
    have hr : carryOut react rounds (.subscribe signal handler priority oneShot weak) h =
        (Step.of (h.bus.subscribe signal handler priority oneShot weak) >>= fun b =>
          onBus fun _ => b : Step Host Reply) h := rfl
    rw [hr]
    cases hs : h.bus.subscribe signal handler priority oneShot weak with
    | error f => exact ⟨.error f, h.bus, rfl, Does.refl _, rfl⟩
    | ok b =>
      exact ⟨.ok .done, b, rfl, Does.one (d := .subscribe signal handler priority oneShot weak) hs,
        rfl⟩
  | unsubscribe signal handler =>
    exact ⟨_, _, rfl, Does.one (d := .unsubscribe signal handler) rfl, rfl⟩
  | publish signal data =>
    rw [carryOut_publish]
    cases hd : payloadOf data with
    | error f => exact ⟨.error f, h.bus, rfl, Does.refl _, rfl⟩
    | ok payload =>
      rw [outset, hd] at silent
      cases silent
  | clear signal? =>
    cases signal? with
    | none => exact ⟨_, _, rfl, Does.one (d := .clearAll) rfl, rfl⟩
    | some signal => exact ⟨_, _, rfl, Does.one (d := .clear signal) rfl, rfl⟩
  | forget handler => exact ⟨_, _, rfl, Does.one (d := .forget handler) rfl, rfl⟩
  | consume => exact ⟨_, _, rfl, Does.consume h.bus h.bus.current?, rfl⟩
  | withdraw place => exact ⟨_, _, rfl, Does.consume h.bus h.published[place]?, rfl⟩
  | look key default =>
    have hr : carryOut react rounds (.look key default) h =
        (Step.of (Table.find (h.bus.current?.elim [] Event.data) key) >>= fun found =>
          pure (.value (found.getD default)) : Step Host Reply) h := rfl
    rw [hr]
    cases Table.find (h.bus.current?.elim [] Event.data) key with
    | error f => exact ⟨.error f, h.bus, rfl, Does.refl _, rfl⟩
    | ok found => exact ⟨.ok (.value (found.getD default)), h.bus, rfl, Does.refl _, rfl⟩
  | item key =>
    have hr : carryOut react rounds (.item key) h =
        (Step.of (Table.fetch (h.bus.current?.elim [] Event.data) key) >>= fun found =>
          pure (.value found) : Step Host Reply) h := rfl
    rw [hr]
    cases Table.fetch (h.bus.current?.elim [] Event.data) key with
    | error f => exact ⟨.error f, h.bus, rfl, Does.refl _, rfl⟩
    | ok found => exact ⟨.ok (.value found), h.bus, rfl, Does.refl _, rfl⟩
  | raise fault => exact ⟨.error fault, h.bus, rfl, Does.refl _, rfl⟩
  | attempt r ih =>
    obtain ⟨result, b, hcarry, hdoes, hsigns⟩ := ih silent
    rw [carryOut_attempt, hcarry]
    cases result with
    | error f => exact ⟨.ok (.failed f), b, rfl, hdoes, rfl⟩
    | ok reply => exact ⟨.ok reply, b, rfl, hdoes, hsigns⟩

/-- Nothing is heard of a request whose answer does not belong into the journal. -/
theorem signsOf_of_unanswered (rounds : Nat) {r : Request} (unanswered : isAnswered r = false)
    (h : Host) : signsOf (carryOut react rounds r h).1 = [] := by
  induction r with
  | consume | withdraw place => rfl
  | attempt r ih =>
    have hr := ih unanswered
    rw [carryOut_attempt]
    split <;> rename_i hcarry
    · rwa [hcarry] at hr
    · rfl
  | _ => cases unanswered

/-! ## While an event is being delivered -/

/-- While an event is being delivered, a request is a deed or leaves the bus alone, and changes
nothing else but what was published; what is heard of it is in its answer. -/
theorem carryOut_does (rounds : Nat) (r : Request) {h : Host} (busy : h.bus.running? ≠ none) :
    ∃ result b published, carryOut react rounds r h = (result, { h with bus := b, published }) ∧
      Does h.bus (signsOf result) b := by
  induction r using induction_on_outset with
  | publish signal data =>
    rw [carryOut_publish]
    cases payloadOf data with
    | error f => exact ⟨_, h.bus, h.published, rfl, Does.refl _⟩
    | ok payload =>
      obtain ⟨hstate, hdoes⟩ := Site.publish_does lawful react rounds signal payload busy
      simp only [hstate] at hdoes ⊢
      exact ⟨_, _, _, rfl, hdoes⟩
  | attempt r ih =>
    obtain ⟨result, b, published, hcarry, hdoes⟩ := ih
    rw [carryOut_attempt, hcarry]
    cases result with
    | error f => exact ⟨.ok (.failed f), b, published, rfl, hdoes⟩
    | ok reply => exact ⟨.ok reply, b, published, rfl, hdoes⟩
  | silent r hr =>
    obtain ⟨result, b, hcarry, hdoes, hsigns⟩ := carryOut_deed react rounds hr h
    exact ⟨result, b, h.published, hcarry, hsigns.symm ▸ hdoes⟩

/-- Nothing but deeds happened to the bus, what is heard of them was logged, and no handler's list
was taken. -/
structure Acts (h : Host) (signs : List (Sign Value Payload)) (k : Host) : Prop where
  does : Does h.bus signs k.bus
  log : log k = log h ++ signs
  held : k.held = h.held

theorem Acts.refl (h : Host) : Acts h [] h :=
  ⟨Does.refl _, (List.append_nil _).symm, rfl⟩

theorem Acts.trans {h k l : Host} {first second : List (Sign Value Payload)} (hk : Acts h first k)
    (kl : Acts k second l) : Acts h (first ++ second) l where
  does := hk.does.trans kl.does
  log := by rw [kl.log, hk.log, List.append_assoc]
  held := kl.held.trans hk.held

theorem Acts.note {h : Host} {o : Occurrence} (silent : signOf? o = none) :
    Acts h [] (note o h) :=
  ⟨Does.refl _, by rw [log_note, silent]; rfl, rfl⟩

theorem carryOutAll_acts (rounds : Nat) (requests : List Request) {h : Host}
    (busy : h.bus.running? ≠ none) :
    ∃ signs, Acts h signs (carryOutAll (carryOut react rounds) requests h).2 ∧
      (requests = [] → signs = []) := by
  induction requests generalizing h with
  | nil => exact ⟨[], Acts.refl h, fun _ => rfl⟩
  | cons r rest ih =>
    obtain ⟨result, b, published, hcarry, hdoes⟩ := carryOut_does react rounds r busy
    unfold carryOutAll
    cases result with
    | error f =>
      rw [Step.bind_eq_of_error hcarry]
      exact ⟨[], ⟨hdoes, (List.append_nil _).symm, rfl⟩, fun _ => rfl⟩
    | ok reply =>
      rw [Step.bind_eq_of_ok hcarry]
      have hbusy : b.running? ≠ none := hdoes.running ▸ busy
      cases ha : isAnswered r with
      | true =>
        let noted := Host.note (.replied reply) { h with bus := b, published }
        have hfirst : Acts h (signsOf (.ok reply)) noted := ⟨hdoes, log_note _ _, rfl⟩
        obtain ⟨signs, hrest, -⟩ := ih (h := noted) hbusy
        exact ⟨_, hfirst.trans hrest, by simp⟩
      | false =>
        have hsilent : signsOf (.ok reply) = [] := by
          have hr := signsOf_of_unanswered react rounds ha h
          rwa [hcarry] at hr
        rw [hsilent] at hdoes
        have hfirst : Acts h [] { h with bus := b, published } :=
          ⟨hdoes, (List.append_nil _).symm, rfl⟩
        obtain ⟨signs, hrest, -⟩ := ih (h := { h with bus := b, published }) hbusy
        exact ⟨_, hfirst.trans hrest, by simp⟩

theorem bus_takeHeld (handler : Value) (h : Host) : (takeHeld handler h).2.bus = h.bus := by
  unfold takeHeld
  split <;> rfl

theorem log_takeHeld (handler : Value) (h : Host) : log (takeHeld handler h).2 = log h := by
  unfold takeHeld
  split <;> rfl

/-- What is taken does not depend on the journal. -/
theorem takeHeld_note (handler : Value) (o : Occurrence) (h : Host) :
    takeHeld handler (note o h) = ((takeHeld handler h).1, note o (takeHeld handler h).2) := by
  have hheld : (note o h).held = h.held := rfl
  unfold takeHeld
  rw [hheld]
  split <;> rfl

theorem react_snd (n : Nat) (handler : Value) (event : Event Payload) (h : Host) :
    (Host.react (n + 1) handler event h).2 =
      let taken := takeHeld handler h
      match carryOutAll (carryOut (Host.react n) (n + 1)) taken.1
        (note (.called handler event.signal event.data) taken.2) with
      | (.ok _, k) => k
      | (.error _, k) => note (.reported (.handlerFailed event.signal)) k := by
  unfold Host.react
  simp only [Step.state_bind, Step.state_modify, Step.state_modifyGet, takeHeld_note, ExceptT.run]
  cases carryOutAll (carryOut (Host.react n) (n + 1)) (takeHeld handler h).1
    (note (.called handler event.signal event.data) (takeHeld handler h).2) with
  | mk result k => cases result <;> rfl

/-- **Whoever is called is written into the journal, and then does nothing with the bus but deeds**,
which are written there too; of the lists that handlers hold its own first one is taken. -/
theorem react_does (n : Nat) (handler : Value) (event : Event Payload) {h : Host}
    (busy : h.bus.running? ≠ none) :
    ∃ signs, Does h.bus signs (Host.react (n + 1) handler event h).2.bus ∧
      log (Host.react (n + 1) handler event h).2 =
        log h ++ .called handler event.signal event.data :: signs ∧
      (Host.react (n + 1) handler event h).2.held = (takeHeld handler h).2.held ∧
      ((takeHeld handler h).1 = [] → signs = []) := by
  rw [react_snd]
  let called := note (.called handler event.signal event.data) (takeHeld handler h).2
  have hbus : called.bus = h.bus := bus_takeHeld handler h
  have hlog : log called = log h ++ [.called handler event.signal event.data] := by
    refine (log_note _ _).trans ?_
    rw [log_takeHeld]
    rfl
  obtain ⟨signs, hacts, hnil⟩ := carryOutAll_acts (Host.react n) (n + 1)
    (takeHeld handler h).1 (h := called) (hbus.symm ▸ busy)
  have hreact : Acts called signs
      (match carryOutAll (carryOut (Host.react n) (n + 1)) (takeHeld handler h).1 called with
        | (.ok _, k) => k
        | (.error _, k) => note (.reported (.handlerFailed event.signal)) k) := by
    split
    · rename_i k hk
      rw [hk] at hacts
      exact hacts
    · rename_i k hk
      rw [hk] at hacts
      have hfailed := hacts.trans (Acts.note (o := .reported (.handlerFailed event.signal)) rfl)
      rw [List.append_nil] at hfailed
      exact hfailed
  refine ⟨signs, hbus ▸ hreact.does, ?_, hreact.held, hnil⟩
  rw [hreact.log, hlog, List.append_assoc]
  rfl

theorem react_tame (n : Nat) : Site.Tame site account (Host.react (n + 1)) := by
  intro handler event h _ busy
  obtain ⟨signs, hdoes, hlog, -, -⟩ := react_does n handler event busy
  exact ⟨trivial, signs, hdoes, hlog⟩

/-! ## From rest to rest -/

/-- What came to a log since. -/
def news (h k : Host) : List (Sign Value Payload) :=
  (log k).drop (log h).length

theorem news_eq {h k : Host} {more : List (Sign Value Payload)} (hlog : log k = log h ++ more) :
    news h k = more := by
  unfold news
  rw [hlog, List.drop_left]

/-- To publish an event is a run from rest to rest, and so is every other request. -/
theorem perform_run (r : Request) {h : Host} (idle : h.bus.running? = none) :
    (∃ trace, Run h.bus trace (perform r h).2.bus ∧
      heard trace = outset r ++ news h (perform r h).2) ∧
      (perform r h).2.bus.running? = none := by
  have hperform (r : Request) : perform r h = carryOut (Host.react h.depth) h.depth r h := rfl
  rw [hperform]
  induction r using induction_on_outset with
  | publish signal data =>
    rw [carryOut_publish, outset]
    cases payloadOf data with
    | error f => exact ⟨⟨[], Run.nil _, (news_eq (List.append_nil _).symm).symm⟩, idle⟩
    | ok payload =>
      obtain ⟨⟨trace, run, hlog⟩, hidle⟩ :=
        Site.publish_played lawful (react_tame (heldLists h.held)) h.depth signal payload trivial idle
      have hnews (e : Event Payload) :
          news h (keep e (site.publish (Host.react h.depth) h.depth signal payload h).2) =
            heard trace := news_eq hlog
      refine ⟨⟨_, run, ?_⟩, hidle⟩
      rw [heard_cons, ← hnews]
      rfl
  | attempt r ih =>
    rw [carryOut_attempt_snd]
    exact ih
  | silent r hr =>
    obtain ⟨result, b, hcarry, hdoes, -⟩ := carryOut_deed (Host.react h.depth) h.depth hr h
    rw [hcarry, hr]
    refine ⟨?_, hdoes.running.trans idle⟩
    obtain ⟨deeds, run, hheard⟩ := hdoes
    have hnews : news h { h with bus := b } = [] := news_eq (List.append_nil _).symm
    exact ⟨deeds.map .deed, run, by rw [hheard, hnews]; rfl⟩

/-- The host after it carried out requests, whether they failed or not. -/
def performAll (requests : List Request) (h : Host) : Host :=
  requests.foldl (fun h r => (perform r h).2) h

/-- The calls and publishings of a host that carries out requests, as they follow each other. -/
def story : List Request → Host → List (Sign Value Payload)
  | [], _ => []
  | r :: rest, h => outset r ++ news h (perform r h).2 ++ story rest (perform r h).2

theorem performAll_played (requests : List Request) (h : Host) (idle : h.bus.running? = none) :
    (∃ trace, Run h.bus trace (performAll requests h).bus ∧ heard trace = story requests h) ∧
      (performAll requests h).bus.running? = none := by
  induction requests generalizing h with
  | nil => exact ⟨⟨[], Run.nil _, rfl⟩, idle⟩
  | cons r rest ih =>
    obtain ⟨⟨first, hrun, hfirst⟩, hidle⟩ := perform_run r idle
    obtain ⟨⟨second, krun, hsecond⟩, kidle⟩ := ih _ hidle
    refine ⟨⟨first ++ second, hrun.append krun, ?_⟩, kidle⟩
    rw [heard_append, hfirst, hsecond]
    rfl

/-- **What a new host does is a run of its bus**, and what is heard of the run is what the journal
and the requests tell of. -/
theorem performAll_run (held : Keyed (List (List Request))) (requests : List Request) :
    (∃ trace, Run {} trace (performAll requests { held }).bus ∧
      heard trace = story requests { held }) ∧
      (performAll requests { held }).bus.running? = none :=
  performAll_played requests { held } rfl

end Dialogue.Bus.Host
