import Dialogue.Proofs.Bus.Draining
import Dialogue.Proofs.Session.Keeping
import Dialogue.Proofs.Session.Lists

/-!
# Sessions come to rest

While an event is being delivered, whatever handlers ask for does nothing with the bus of their session
but deeds: what they publish waits.  A handler that does anything at all has used up one of its lists,
and requests bring no lists that were not counted with them.  So a host that has more rounds than lists
has delivered all events when it has published one.

## Results

* `Playing.carryOut_tends`, `Playing.reactWithin_tends` — requests add no lists but those that they
  bring, handlers add none, and both do nothing but deeds while an event is being delivered.
* `Playing.reactWithin_spends` — a handler that turns to the bus uses a list up.
* `Playing.publish_rests` — when a notice was published and there are rounds enough, nothing waits.
-/

set_option autoImplicit false

namespace Dialogue

variable {K : Surface} {h k l : Host K}

namespace Host

/-! ## What handlers tend to -/

/-- No more lists are added than so many, and while an event is being delivered nothing happens to the
bus but deeds. -/
structure Tends (extra : Nat) (h k : Host K) : Prop where
  lists : heldLists k.handlers ≤ heldLists h.handlers + extra
  deeds : h.session.bus.running? ≠ none → ∃ signs, Bus.Does h.session.bus signs k.session.bus

theorem tends_of_eq (handlers : k.handlers = h.handlers) (bus : k.session.bus = h.session.bus) :
    Tends 0 h k where
  lists := by
    rw [handlers]
    exact Nat.le_refl _
  deeds _ := by
    rw [bus]
    exact ⟨[], Bus.Does.refl _⟩

theorem Tends.refl (h : Host K) : Tends 0 h h :=
  tends_of_eq rfl rfl

theorem Tends.mono {m n : Nat} (le : m ≤ n) (hk : Tends m h k) : Tends n h k :=
  ⟨Nat.le_trans hk.lists (Nat.add_le_add_left le _), hk.deeds⟩

theorem Tends.trans {m n : Nat} (hk : Tends m h k) (kl : Tends n k l) : Tends (m + n) h l := by
  refine ⟨?_, fun busy => ?_⟩
  · have hlists := hk.lists
    have klists := kl.lists
    omega
  · obtain ⟨first, hdoes⟩ := hk.deeds busy
    obtain ⟨second, kdoes⟩ := kl.deeds (hdoes.running.symm ▸ busy)
    exact ⟨first ++ second, hdoes.trans kdoes⟩

theorem tends_withBus {b : Bus HandlerId (Notice K.Handle)} {signs : List (Bus.Sign _ _)}
    (does : Bus.Does h.session.bus signs b) : Tends 0 h (h.onSession fun s => { s with bus := b }) :=
  ⟨Nat.le_refl _, fun _ => ⟨signs, does⟩⟩

theorem tends_addHandler (handler : Handler K) (h : Host K) :
    Tends handler.lists h (h.addHandler handler) :=
  ⟨Nat.le_of_eq (heldLists_addHandler handler h), fun _ => ⟨[], Bus.Does.refl _⟩⟩

theorem tends_inside : Inside (Tends (K := K) 0) where
  frame := ⟨Tends.refl, fun hk kl => hk.trans kl⟩
  journal _ _ _ := tends_of_eq rfl rfl
  disk _ _ := tends_of_eq rfl rfl
  library _ _ := tends_of_eq rfl rfl
  settings _ _ := tends_of_eq rfl rfl
  cast _ _ := tends_of_eq rfl rfl
  commands _ _ _ _ _ := tends_of_eq rfl rfl
  playhead _ _ := tends_of_eq rfl rfl
  shown _ _ := tends_of_eq rfl rfl
  drawn _ _ := tends_of_eq rfl rfl

/-- Nothing is told of the states of a host. -/
def unheard : Bus.Account (Host K) HandlerId (Notice K.Handle) where
  holds _ := True
  tells _ _ _ := True

theorem unheard_lawful : Bus.Site.Lawful (site (K := K)) unheard where
  bus_withBus _ _ := rfl
  holds_withBus _ _ _ := trivial
  tells_refl _ := trivial
  tells_withBus _ _ := trivial
  tells_trans _ _ := trivial

end Host

namespace Playing

open Host

variable {p : Playing K} (react : ∀ id occasion, Step.Keeps (Tends 0) (p.react id occasion))

include react

theorem publish_tends (notice : Notice K.Handle) : Step.Keeps (Tends 0) (p.publish notice) := by
  intro h
  have hframe : Step.Frame fun h k : Host K => heldLists k.handlers ≤ heldLists h.handlers :=
    ⟨fun _ => Nat.le_refl _, fun hk kl => Nat.le_trans kl hk⟩
  refine ⟨?_, fun busy => ?_⟩
  · exact publish_of_react hframe (fun _ _ _ => Nat.le_refl _)
      (fun id occasion h => (react id occasion h).lists) (fun _ _ => Nat.le_refl _) notice h
  · exact ⟨_, (Bus.Site.publish_does unheard_lawful p.tell p.rounds notice.signal notice busy).2⟩

theorem tends_parts : Parts p (Tends 0) where
  toInside := tends_inside
  wiped _ := tends_of_eq rfl rfl
  boxed _ _ _ _ _ _ := tends_of_eq rfl rfl
  told := publish_tends react
  handled id name := react id (.command name)
  skipped _ _ := tends_of_eq rfl rfl

/-- **Requests add no lists but those that they bring, and do nothing but deeds while an event is being
delivered.** -/
theorem carryOut_tends (r : Request K) (h : Host K) : Tends r.lists h (p.carryOut r h).2 := by
  have hkeeps {n : Nat} {k : Host K} : Tends 0 h k → Tends n h k := Tends.mono (Nat.zero_le _)
  induction r with
  | registerCommand name calls =>
    rcases carryOut_registerCommand p name calls h with hsame | ⟨commands, hadded⟩
    · rw [hsame]
      exact hkeeps (Tends.refl h)
    · let registered := h.onSession fun s => { s with commands }
      have hregistered : Tends 0 h registered := tends_of_eq rfl rfl
      rw [hadded]
      exact (hregistered.trans (tends_addHandler (.held none calls) registered)).mono
        (Nat.le_of_eq (Nat.zero_add _))
  | subscribe signal title calls priority oneShot =>
    have hadd := tends_addHandler (.held (some title) calls) h
    rcases carryOut_subscribe p signal title calls priority oneShot h with
      hsame | hadded | ⟨bus, hbus, hadded⟩
    · rw [hsame]
      exact hkeeps (Tends.refl h)
    · rw [hadded]
      exact hadd
    · rw [hadded]
      exact hadd.trans (tends_withBus (Bus.Does.one
        (d := .subscribe signal h.handlers.length priority oneShot false) hbus))
  | unsubscribe signal title =>
    rcases carryOut_unsubscribe p signal title h with hsame | ⟨id, -, hleft⟩
    · rw [hsame]
      exact hkeeps (Tends.refl h)
    · rw [hleft]
      exact hkeeps (tends_withBus (Bus.Does.one (d := .unsubscribe signal id) rfl))
  | consume => exact hkeeps (tends_withBus (Bus.Does.consume _ h.session.bus.current?))
  | attempt r ih =>
    rw [carryOut_attempt_snd, Request.lists]
    exact ih
  | ask r =>
    refine hkeeps (tends_inside.bind tends_inside.get (fun k => ?_) h)
    rcases K.answer r k.session.surface with ⟨⟨result, surface⟩, marks⟩
    refine tends_inside.bind (Step.keeps_modify fun _ => tends_of_eq rfl rfl) fun _ => ?_
    refine tends_inside.bind (Step.keeps_modify fun _ => tends_of_eq rfl rfl) fun _ => ?_
    exact tends_inside.bind (tends_inside.of result) fun _ => tends_inside.pure _
  | showText kind text options =>
    refine hkeeps (tends_inside.bind ?_ (fun _ => tends_inside.pure _) h)
    unfold showText
    split
    · refine tends_inside.bind tends_inside.get fun k => ?_
      refine tends_inside.bind (fun _ => ?_) fun _ => tends_inside.pure _
      exact tends_inside.render (tends_of_eq rfl rfl)
    · exact tends_inside.pure _
  | _ => exact hkeeps ((tends_parts react).carryOut rfl h)

theorem carryOutAll_tends (requests : List (Request K)) (h : Host K) :
    Tends (listsInCall requests) h (p.carryOutAll requests h).2 := by
  induction requests generalizing h with
  | nil => exact Tends.mono (Nat.zero_le _) (Tends.refl h)
  | cons r rest ih =>
    have hfirst := carryOut_tends react r h
    have hlists : listsInCall (r :: rest) = r.lists + listsInCall rest := by
      simp only [listsInCall]
    rw [hlists]
    unfold carryOutAll
    cases hr : p.carryOut r h with
    | mk result k =>
      rw [hr] at hfirst
      cases result with
      | error f =>
        rw [Step.bind_eq_of_error hr]
        exact hfirst.mono (Nat.le_add_right _ _)
      | ok reply =>
        rw [Step.bind_eq_of_ok hr]
        cases isAnswered r with
        | false => exact hfirst.trans (ih k)
        | true =>
          have hnoted : Tends 0 k (k.note (.replied reply)) := tends_of_eq rfl rfl
          exact (hfirst.trans hnoted).trans (ih _)

omit react

/-- A way to play in which handlers have so many calls to spare, and deliveries so many rounds. -/
abbrev bounded (calls rounds : Nat) : Playing K where
  react := reactWithin calls
  rounds := rounds

/-- **Handlers add no lists, and do nothing but deeds while an event is being delivered.** -/
theorem reactWithin_tends (n : Nat) (id : HandlerId) (occasion : Occasion K) :
    Step.Keeps (Tends 0) (reactWithin n id occasion) := by
  -- the lists that requests bring were counted with the list that was taken
  induction n generalizing id occasion with
  | zero => exact tends_inside.pure ()
  | succ n ih =>
    intro h
    rcases reactWithin_cases n id occasion h with
      hr | ⟨notice, -, -, hr⟩ | ⟨text, hr⟩ | ⟨title?, hr⟩
    · rw [hr]
      exact Tends.refl h
    · rw [hr]
      exact tends_of_eq rfl rfl
    · rw [hr]
      exact tends_of_eq rfl rfl
    · rw [hr]
      let noted := h.note (occurrenceOf title? occasion)
      have hrest := carryOutAll_tends (p := bounded n (n + 1)) ih
        (noted.takeCall id).1 (noted.takeCall id).2
      have hbus : (noted.takeCall id).2.session.bus = h.session.bus :=
        congrArg Session.bus (takeCall_session id noted)
      have hlists : heldLists (noted.takeCall id).2.handlers + listsInCall (noted.takeCall id).1 ≤
          heldLists h.handlers := by
        rcases takeCall_lists id noted with hnone | hsome
        · rw [hnone]
          exact Nat.le_refl _
        · have hsame : heldLists noted.handlers = heldLists h.handlers := rfl
          omega
      refine ⟨Nat.le_trans hrest.lists hlists, fun busy => ?_⟩
      rw [← hbus] at busy ⊢
      exact hrest.deeds busy

/-- **A handler that turns to the bus uses a list up.** -/
theorem reactWithin_spends (n : Nat) (id : HandlerId) (occasion : Occasion K) (h : Host K) :
    (reactWithin n id occasion h).2.session.bus = h.session.bus ∨
      heldLists (reactWithin n id occasion h).2.handlers < heldLists h.handlers := by
  cases n with
  | zero => exact .inl rfl
  | succ n =>
    rcases reactWithin_cases n id occasion h with
      hr | ⟨notice, -, -, hr⟩ | ⟨text, hr⟩ | ⟨title?, hr⟩
    · rw [hr]
      exact .inl rfl
    · rw [hr]
      exact .inl rfl
    · rw [hr]
      exact .inl rfl
    · rw [hr]
      let noted := h.note (occurrenceOf title? occasion)
      rcases takeCall_lists id noted with hnone | hsome
      · refine .inl ?_
        show (carryOutAll _ (noted.takeCall id).1 (noted.takeCall id).2).2.session.bus = _
        rw [hnone]
        rfl
      · have hrest := (carryOutAll_tends (p := bounded n (n + 1))
          (reactWithin_tends n) (noted.takeCall id).1 (noted.takeCall id).2).lists
        have hsame : heldLists noted.handlers = heldLists h.handlers := rfl
        refine .inr (Nat.lt_of_le_of_lt hrest ?_)
        omega

/-! ## Coming to rest -/

variable {m rounds : Nat}

theorem tell_tends (m rounds : Nat) (id : HandlerId) (event : Event (Notice K.Handle)) (h : Host K) :
    Tends 0 h ((bounded m rounds : Playing K).tell id event h).2 :=
  tell_of_react tends_inside.frame tends_inside.reported (reactWithin_tends m) id event h

theorem tell_spends (m rounds : Nat) (id : HandlerId) (event : Event (Notice K.Handle)) (h : Host K) :
    ((bounded m rounds : Playing K).tell id event h).2.session.bus =
        h.session.bus ∨
      heldLists ((bounded m rounds : Playing K).tell id event h).2.handlers <
        heldLists h.handlers := by
  have hspends := reactWithin_spends m id (.event event.data) h
  unfold tell
  simp only [Step.state_bind, ExceptT.run]
  cases hr : reactWithin m id (.event event.data) h with
  | mk result k =>
    rw [hr] at hspends
    cases result <;> exact hspends

theorem within_tame : Bus.Site.Tame site unheard
    (bounded m rounds : Playing K).tell := by
  intro id event h _ busy
  obtain ⟨signs, hdoes⟩ := (tell_tends m rounds id event h).deeds busy
  exact ⟨trivial, signs, hdoes, trivial⟩

theorem within_thrifty : Bus.Site.Thrifty site (fun h : Host K => heldLists h.handlers)
    unheard.holds (bounded m rounds : Playing K).tell where
  left_withBus _ _ := rfl
  react id event h _ busy := by
    have htends := tell_tends m rounds id event h
    obtain ⟨signs, hdoes⟩ := htends.deeds busy
    obtain ⟨more, hqueue, -⟩ := hdoes.queue
    refine ⟨more, hqueue, htends.lists, ?_⟩
    rcases tell_spends m rounds id event h with hsame | hless
    · have hcancel : h.session.bus.queue ++ more = h.session.bus.queue ++ [] := by
        rw [List.append_nil, ← hqueue]
        exact congrArg Bus.queue hsame
      exact .inl (List.append_cancel_left hcancel)
    · exact .inr hless

/-- **When a notice was published, and there are more rounds than lists, nothing waits.** -/
theorem publish_rests (notice : Notice K.Handle) (idle : h.session.bus.running? = none)
    (enough : heldLists h.handlers < rounds) :
    ((bounded m rounds : Playing K).publish notice h).2.session.bus.AtRest :=
  Bus.Site.publish_rests unheard_lawful within_tame within_thrifty rounds notice.signal notice trivial
    idle enough

end Playing

end Dialogue
