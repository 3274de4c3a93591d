import Dialogue.Host.Performing
import Dialogue.Proofs.Step

/-!
# Lists of requests

A request can bring lists with it, which a new handler holds from then on, and the requests of those
can bring lists again.  A handler that is called uses up the first list that it holds.

## Results

* `Host.takeCall_cases` — to take a list from a handler leaves everything else as it is.
* `Host.takeCall_every` — what is so of all requests that the handlers hold is so of the list that is
  taken, and of those that are left.
* `Host.takeCall_lists` — a list that is taken is not held any more.
* `Playing.registerCommand_cases`, `Playing.carryOut_subscribe`, `Playing.carryOut_unsubscribe` — what
  becomes of a host that adds a handler, or lets one wait no longer.
* `Playing.carryOut_attempt` — to try a request is to carry it out, and to answer with the failure if it
  fails.
* `Playing.reactWithin_cases` — all that a handler can do when it is called.
-/

set_option autoImplicit false

namespace Dialogue

variable {K : Surface}

/-! ## What is so of all requests -/

mutual

/-- Is this so of a request, and of all those that it brings with it? -/
def Request.every (ok : Request K → Bool) : Request K → Bool
  | .registerCommand name calls => ok (.registerCommand name calls) && everyCall ok calls
  | .subscribe signal title calls priority oneShot =>
    ok (.subscribe signal title calls priority oneShot) && everyCall ok calls
  | .attempt r => ok (.attempt r) && r.every ok
  | r => ok r

/-- Is this so of all requests of all these lists? -/
def everyCall (ok : Request K → Bool) : List (List (Request K)) → Bool
  | [] => true
  | call :: rest => everyRequest ok call && everyCall ok rest

/-- Is this so of all these requests? -/
def everyRequest (ok : Request K → Bool) : List (Request K) → Bool
  | [] => true
  | r :: rest => r.every ok && everyRequest ok rest

end

/-- Is this so of all requests that a handler holds? -/
def Handler.every (ok : Request K → Bool) : Handler K → Bool
  | .held _ calls => everyCall ok calls
  | .observer | .remark _ => true

theorem Request.ok_of_every {ok : Request K → Bool} {r : Request K} (h : r.every ok = true) :
    ok r = true := by
  unfold every at h
  split at h
  · exact (Bool.and_eq_true_iff.mp h).1
  · exact (Bool.and_eq_true_iff.mp h).1
  · exact (Bool.and_eq_true_iff.mp h).1
  · exact h

theorem Request.every_of_attempt {ok : Request K → Bool} {r : Request K}
    (h : (Request.attempt r).every ok = true) : r.every ok = true := by
  rw [every] at h
  exact (Bool.and_eq_true_iff.mp h).2

theorem everyCall_of_registerCommand {ok : Request K → Bool} {name : Value}
    {calls : List (List (Request K))} (h : (Request.registerCommand name calls).every ok = true) :
    everyCall ok calls = true := by
  unfold Request.every at h
  exact (Bool.and_eq_true_iff.mp h).2

theorem everyCall_of_subscribe {ok : Request K → Bool} {signal : Signal} {title priority : Value}
    {oneShot : Bool} {calls : List (List (Request K))}
    (h : (Request.subscribe signal title calls priority oneShot).every ok = true) :
    everyCall ok calls = true := by
  unfold Request.every at h
  exact (Bool.and_eq_true_iff.mp h).2

/-! ## Counting -/

theorem heldLists_append (first second : List (Handler K)) :
    heldLists (first ++ second) = heldLists first + heldLists second := by
  induction first with
  | nil => exact (Nat.zero_add _).symm
  | cons handler rest ih =>
    simp only [List.cons_append, heldLists, ih]
    omega

theorem heldLists_set {handlers : List (Handler K)} {id : HandlerId} {old : Handler K}
    (h : handlers[id]? = some old) (new : Handler K) :
    heldLists (handlers.set id new) + old.lists = heldLists handlers + new.lists := by
  induction handlers generalizing id with
  | nil => cases h
  | cons handler rest ih =>
    cases id with
    | zero =>
      obtain rfl : handler = old := Option.some.inj h
      simp only [List.set_cons_zero, heldLists]
      omega
    | succ id =>
      have hrest : rest[id]? = some old := h
      have := ih hrest
      simp only [List.set_cons_succ, heldLists]
      omega

namespace Host

variable {h : Host K}

theorem heldLists_addHandler (handler : Handler K) (h : Host K) :
    heldLists (h.addHandler handler).handlers = heldLists h.handlers + handler.lists := by
  refine (heldLists_append h.handlers [handler]).trans ?_
  simp only [heldLists]
  omega

/-! ## Taking a list -/

/-- **To take a list from a handler leaves everything else as it is.** -/
theorem takeCall_cases (id : HandlerId) (h : Host K) :
    h.takeCall id = ([], h) ∨
      ∃ title? next rest, h.handlers[id]? = some (.held title? (next :: rest)) ∧
        h.takeCall id =
          (next, { h with handlers := h.handlers.set id (.held title? rest) }) := by
  unfold takeCall
  split
  · rename_i title? next rest hid
    exact .inr ⟨title?, next, rest, hid, rfl⟩
  · exact .inl rfl

theorem takeCall_session (id : HandlerId) (h : Host K) : (h.takeCall id).2.session = h.session := by
  rcases takeCall_cases id h with hnone | ⟨_, _, _, -, hsome⟩
  · rw [hnone]
  · rw [hsome]

/-- What is so of all requests that the handlers hold is so of the list that is taken, and of those
that are left. -/
theorem takeCall_every {ok : Request K → Bool} (id : HandlerId)
    (every : ∀ handler ∈ h.handlers, handler.every ok = true) :
    everyRequest ok (h.takeCall id).1 = true ∧
      ∀ handler ∈ (h.takeCall id).2.handlers, handler.every ok = true := by
  rcases takeCall_cases id h with hnone | ⟨title?, next, rest, hid, hsome⟩
  · rw [hnone]
    exact ⟨by unfold everyRequest; rfl, every⟩
  · have hheld := every _ (List.mem_of_getElem? hid)
    unfold Handler.every everyCall at hheld
    obtain ⟨hnext, hrest⟩ := Bool.and_eq_true_iff.mp hheld
    rw [hsome]
    refine ⟨hnext, fun other hm => ?_⟩
    rcases List.mem_or_eq_of_mem_set hm with hm | rfl
    · exact every other hm
    · exact hrest

/-- **A list that is taken is not held any more.** -/
theorem takeCall_lists (id : HandlerId) (h : Host K) :
    h.takeCall id = ([], h) ∨
      heldLists (h.takeCall id).2.handlers + listsInCall (h.takeCall id).1 + 1 =
        heldLists h.handlers := by
  rcases takeCall_cases id h with hnone | ⟨title?, next, rest, hid, hsome⟩
  · exact .inl hnone
  · refine .inr ?_
    have hset := heldLists_set hid (.held title? rest)
    have hlists : (Handler.held title? (next :: rest)).lists =
        1 + listsInCall next + (Handler.held title? rest).lists := by
      simp only [Handler.lists, listsIn]
    rw [hsome]
    show heldLists (h.handlers.set id (.held title? rest)) + listsInCall next + 1 = _
    omega

end Host

namespace Playing

/-! ## Trying something -/

/-- To try something comes to what it comes to, and is answered also when that failed. -/
theorem carryOut_attempt (p : Playing K) (r : Request K) (h : Host K) :
    p.carryOut (.attempt r) h =
      match p.carryOut r h with
      | (.ok reply, k) => (.ok reply, k)
      | (.error f, k) => (.ok (.failed f), k) := by
  rw [carryOut, Step.tryCatch_apply]
  rcases p.carryOut r h with ⟨result, k⟩
  cases result <;> rfl

theorem carryOut_attempt_snd (p : Playing K) (r : Request K) (h : Host K) :
    (p.carryOut (.attempt r) h).2 = (p.carryOut r h).2 :=
  Step.tryCatch_pure_snd ..

/-! ## Handlers that come and go -/

/-- A host that registers a command has it, and its handler if there is one, unless the name is
refused. -/
theorem registerCommand_cases (name : Value) (handler? : Option (Handler K)) (h : Host K) :
    (registerCommand name handler? h).2 = h ∨
      ∃ commands, (registerCommand name handler? h).2 =
        let named := h.onSession fun s => { s with commands }
        handler?.elim named named.addHandler := by
  unfold registerCommand
  rw [Step.bind_eq_of_ok (Step.get_apply h)]
  cases h.session.commands.register name (handler?.map fun _ => h.handlers.length) with
  | error f => exact .inl rfl
  | ok commands =>
    cases handler? with
    | none => exact .inr ⟨commands, rfl⟩
    | some handler => exact .inr ⟨commands, rfl⟩

theorem carryOut_nameCommand (p : Playing K) (name : Value) (h : Host K) :
    (p.carryOut (.nameCommand name) h).2 = h ∨
      ∃ commands, (p.carryOut (.nameCommand name) h).2 =
        h.onSession fun s => { s with commands } := by
  have hstate : (p.carryOut (.nameCommand name) h).2 = (registerCommand name none h).2 :=
    Step.bind_pure_snd ..
  rw [hstate]
  exact registerCommand_cases name none h

theorem carryOut_registerCommand (p : Playing K) (name : Value) (calls : List (List (Request K)))
    (h : Host K) :
    (p.carryOut (.registerCommand name calls) h).2 = h ∨
      ∃ commands, (p.carryOut (.registerCommand name calls) h).2 =
        (h.onSession fun s => { s with commands }).addHandler (.held none calls) := by
  have hstate : (p.carryOut (.registerCommand name calls) h).2 =
      (registerCommand name (some (.held none calls)) h).2 := Step.bind_pure_snd ..
  rw [hstate]
  exact registerCommand_cases name (some (.held none calls)) h

/-- A host that subscribes has a new handler, if its title is a key, and a new subscription, if its
priority is not refused. -/
theorem carryOut_subscribe (p : Playing K) (signal : Signal) (title : Value)
    (calls : List (List (Request K))) (priority : Value) (oneShot : Bool) (h : Host K) :
    (p.carryOut (.subscribe signal title calls priority oneShot) h).2 = h ∨
      (p.carryOut (.subscribe signal title calls priority oneShot) h).2 =
          h.addHandler (.held (some title) calls) ∨
        ∃ bus, h.session.bus.subscribe signal h.handlers.length priority oneShot false = .ok bus ∧
          (p.carryOut (.subscribe signal title calls priority oneShot) h).2 =
            (h.addHandler (.held (some title) calls)).onSession fun s => { s with bus } := by
  have hstate : (p.carryOut (.subscribe signal title calls priority oneShot) h).2 =
      (subscribe signal title calls priority oneShot h).2 := Step.bind_pure_snd ..
  rw [hstate]
  cases hkey : title.keyFault? with
  | some f =>
    unfold subscribe
    rw [hkey]
    exact .inl rfl
  | none =>
    have hrest : (subscribe signal title calls priority oneShot h).2 =
        ((Step.of (h.session.bus.subscribe signal h.handlers.length priority oneShot false) >>=
          fun bus => modify (Host.onSession fun s => { s with bus }) : Act K Unit)
            (h.addHandler (.held (some title) calls))).2 := by
      unfold subscribe
      rw [hkey]
      rfl
    rw [hrest]
    cases h.session.bus.subscribe signal h.handlers.length priority oneShot false with
    | error f => exact .inr (.inl rfl)
    | ok bus => exact .inr (.inr ⟨bus, rfl, rfl⟩)

/-- A host that unsubscribes a handler has it wait no longer. -/
theorem carryOut_unsubscribe (p : Playing K) (signal : Signal) (title : Value) (h : Host K) :
    (p.carryOut (.unsubscribe signal title) h).2 = h ∨
      ∃ id, h.latest? title = some id ∧ (p.carryOut (.unsubscribe signal title) h).2 =
        h.onSession fun s => { s with bus := s.bus.unsubscribe signal id } := by
  have hstate : (p.carryOut (.unsubscribe signal title) h).2 = (unsubscribe signal title h).2 :=
    Step.bind_pure_snd ..
  rw [hstate]
  unfold unsubscribe
  cases title.keyFault? with
  | some f => exact .inl rfl
  | none =>
    dsimp only
    rw [Step.bind_eq_of_ok (Step.get_apply h)]
    cases h.latest? title with
    | none => exact .inl rfl
    | some id => exact .inr ⟨id, rfl, rfl⟩

/-! ## Handlers that are called -/

/-- **All that a handler can do when it is called**: nothing, to write down what it sees, to make a
remark, or to carry out the list that it comes to. -/
theorem reactWithin_cases (n : Nat) (id : HandlerId) (occasion : Occasion K) (h : Host K) :
    reactWithin (n + 1) id occasion h = (.ok (), h) ∨
      (∃ notice, h.handlers[id]? = some .observer ∧ occasion = .event notice ∧
        reactWithin (n + 1) id occasion h = (.ok (), h.note (.observed notice))) ∨
      (∃ text, reactWithin (n + 1) id occasion h =
        (.ok (), h.note (.reported (.remark text)))) ∨
      ∃ title?, reactWithin (n + 1) id occasion h =
        let taken := (h.note (occurrenceOf title? occasion)).takeCall id
        carryOutAll { react := reactWithin n, rounds := n + 1 } taken.1 taken.2 := by
  unfold reactWithin
  rw [Step.bind_eq_of_ok (Step.get_apply h)]
  cases hid : h.handlers[id]? with
  | none => exact .inl rfl
  | some handler =>
    cases handler with
    | observer =>
      cases occasion with
      | command name => exact .inl rfl
      | event notice => exact .inr (.inl ⟨notice, rfl, rfl, rfl⟩)
    | remark text => exact .inr (.inr (.inl ⟨text, rfl⟩))
    | held title? calls => exact .inr (.inr (.inr ⟨title?, rfl⟩))

end Playing

end Dialogue
