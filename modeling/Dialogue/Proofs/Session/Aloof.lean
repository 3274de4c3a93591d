import Dialogue.Proofs.Bus.Draining
import Dialogue.Proofs.Session.Keeping
import Dialogue.Surface.Board

/-!
# Aloof handlers

A handler is aloof when it asks the session for nothing that changes it: it may look around, work
with files, wait for events and stop waiting, and it may fail.  While all handlers of a host are
aloof, telling them something leaves the session as it is but for its bus.

## Results

* `Playing.carryOut_stays`, `Playing.reactWithin_stays` — what is asked aloofly leaves the session as
  it is, and so do aloof handlers.
* `Playing.publish_told` — while handlers are aloof, publishing a notice delivers this notice, nothing
  else is published meanwhile, and nothing waits in the end.
-/

set_option autoImplicit false

namespace Dialogue

/-! ## Requests and handlers that are aloof -/

section

variable {K : Surface}

mutual

/-- Does this request leave the session as it is, but for its bus, and so do the lists that it
brings? -/
def Request.aloof : Request K → Bool
  | .subscribe _ _ calls _ _ => aloofLists calls
  | .unsubscribe .. | .consume | .ask _ => true
  | .attempt r => r.aloof
  | r => r.isOutside

/-- Are the requests of all these lists aloof? -/
def aloofLists : List (List (Request K)) → Bool
  | [] => true
  | call :: rest => aloofList call && aloofLists rest

/-- Are all these requests aloof? -/
def aloofList : List (Request K) → Bool
  | [] => true
  | r :: rest => r.aloof && aloofList rest

end

/-- Does this handler ask for nothing but aloof requests? -/
def Handler.aloof : Handler K → Bool
  | .held _ calls => aloofLists calls
  | .observer | .remark _ => true

end

variable {h k l : Host .board}

namespace Host

/-- All handlers are aloof. -/
def Aloof (h : Host .board) : Prop :=
  ∀ handler ∈ h.handlers, handler.aloof = true

/-- The session of the second host is that of the first but for its bus. -/
def Aside (h k : Host .board) : Prop :=
  k.session = { h.session with bus := k.session.bus }

theorem Aside.refl (h : Host .board) : Aside h h :=
  rfl

theorem Aside.trans (hk : Aside h k) (kl : Aside k l) : Aside h l := by
  have hsession : l.session = { k.session with bus := l.session.bus } := kl
  rw [hk] at hsession
  exact hsession

/-- While its handlers are aloof, the session stays as it is but for deeds on its bus, and they stay
aloof. -/
def Stays (h k : Host .board) : Prop :=
  h.Aloof → Bus.Does h.session.bus [] k.session.bus ∧ Aside h k ∧ k.Aloof

/-- What is written down does not matter to the session. -/
theorem stays_journal (more : List (Occurrence .board)) (h : Host .board) :
    Stays h { h with journal := h.journal ++ more } :=
  fun aloof => ⟨Bus.Does.refl _, Aside.refl h, aloof⟩

theorem stays_outside : Outside Stays where
  frame := by
    refine ⟨fun h aloof => ⟨Bus.Does.refl _, Aside.refl h, aloof⟩, fun hk kl aloof => ?_⟩
    obtain ⟨hdoes, haside, haloof⟩ := hk aloof
    obtain ⟨kdoes, kaside, kaloof⟩ := kl haloof
    exact ⟨hdoes.trans kdoes, haside.trans kaside, kaloof⟩
  journal more h _ := stays_journal more h
  disk _ h aloof := ⟨Bus.Does.refl _, Aside.refl h, aloof⟩
  library _ h aloof := ⟨Bus.Does.refl _, Aside.refl h, aloof⟩

theorem stays_withBus {b : Bus HandlerId (Notice Nat)} (does : Bus.Does h.session.bus [] b) :
    Stays h (h.onSession fun s => { s with bus := b }) :=
  fun aloof => ⟨does, rfl, aloof⟩

theorem stays_addHandler {handler : Handler .board} (aloof : handler.aloof = true)
    (h : Host .board) : Stays h (h.addHandler handler) := by
  refine fun others => ⟨Bus.Does.refl _, Aside.refl h, fun other hm => ?_⟩
  rcases List.mem_append.mp hm with hm | hm
  · exact others other hm
  · rw [List.mem_singleton.mp hm]
    exact aloof

end Host

/-! ## What is asked aloofly -/

namespace Playing

open Host

theorem subscribe_stays (signal : Signal) (title : Value) {calls : List (List (Request .board))}
    (priority : Value) (oneShot : Bool) (aloof : aloofLists calls = true) :
    Step.Keeps Stays (subscribe signal title calls priority oneShot) := by
  unfold subscribe
  cases title.keyFault? with
  | some f => exact stays_outside.throw f
  | none =>
    refine stays_outside.bind stays_outside.get fun h => ?_
    refine stays_outside.bind (Step.keeps_modify (stays_addHandler aloof)) fun _ k => ?_
    rw [Step.bind_eq_of_ok (Step.get_apply k)]
    cases hs : k.session.bus.subscribe signal h.handlers.length priority oneShot false with
    | error f => exact stays_outside.frame.refl k
    | ok b =>
      exact stays_withBus (Bus.Does.one (d := .subscribe signal _ priority oneShot false) hs)

theorem unsubscribe_stays (signal : Signal) (title : Value) :
    Step.Keeps Stays (unsubscribe signal title) := by
  unfold unsubscribe
  cases title.keyFault? with
  | some f => exact stays_outside.throw f
  | none =>
    refine stays_outside.bind stays_outside.get fun h => ?_
    cases h.latest? title with
    | none => exact stays_outside.throw _
    | some id =>
      exact Step.keeps_modify fun k =>
        stays_withBus (Bus.Does.one (d := .unsubscribe signal id) rfl)

/-- **What is asked aloofly leaves the session as it is, but for its bus.** -/
theorem carryOut_stays (p : Playing .board) {r : Request .board} (aloof : r.aloof = true) :
    Step.Keeps Stays (p.carryOut r) := by
  induction r with
  | subscribe signal title calls priority oneShot =>
    have hcalls : aloofLists calls = true := by
      unfold Request.aloof at aloof
      exact aloof
    refine stays_outside.bind (subscribe_stays signal title priority oneShot hcalls) fun _ => ?_
    exact stays_outside.pure _
  | unsubscribe signal title =>
    exact stays_outside.bind (unsubscribe_stays signal title) fun _ => stays_outside.pure _
  | consume =>
    refine stays_outside.bind (Step.keeps_modify fun k => ?_) fun _ => stays_outside.pure _
    exact stays_withBus (Bus.Does.consume k.session.bus k.session.bus.current?)
  | attempt r ih =>
    unfold Request.aloof at aloof
    exact (ih aloof).attempt _
  | ask r =>
    -- a board that is asked for its texts stays as it is, and nothing is drawn
    exact fun k calm => ⟨Bus.Does.refl _, Aside.refl k, calm⟩
  | _ =>
    refine stays_outside.carryOut p ?_
    unfold Request.aloof at aloof
    exact aloof

theorem carryOutAll_stays (p : Playing .board) {requests : List (Request .board)}
    (aloof : aloofList requests = true) : Step.Keeps Stays (p.carryOutAll requests) := by
  induction requests with
  | nil => exact stays_outside.pure ()
  | cons r rest ih =>
    unfold aloofList at aloof
    obtain ⟨hr, hrest⟩ := Bool.and_eq_true_iff.mp aloof
    refine stays_outside.bind (carryOut_stays p hr) fun reply => ?_
    cases isAnswered r with
    | false => exact ih hrest
    | true =>
      exact stays_outside.bind (Step.keeps_modify (stays_journal _)) fun _ => ih hrest

end Playing

/-- The list that is taken from an aloof handler is aloof, and so are those that are left. -/
theorem Host.takeCall_aloof (id : HandlerId) (aloof : h.Aloof) :
    aloofList (h.takeCall id).1 = true ∧ Aside h (h.takeCall id).2 ∧
      (h.takeCall id).2.session.bus = h.session.bus ∧ (h.takeCall id).2.Aloof := by
  unfold takeCall
  split
  · rename_i title? next rest hid
    have hheld := aloof _ (List.mem_of_getElem? hid)
    unfold Handler.aloof aloofLists at hheld
    obtain ⟨hnext, hrest⟩ := Bool.and_eq_true_iff.mp hheld
    refine ⟨hnext, Aside.refl h, rfl, fun other hm => ?_⟩
    rcases List.mem_or_eq_of_mem_set hm with hm | rfl
    · exact aloof other hm
    · exact hrest
  · exact ⟨rfl, Aside.refl h, rfl, aloof⟩

namespace Playing

open Host

/-- **Aloof handlers leave the session as it is, but for its bus, at any depth of calls.** -/
theorem reactWithin_stays (n : Nat) (id : HandlerId) (occasion : Occasion .board) :
    Step.Keeps Stays (reactWithin n id occasion) := by
  cases n with
  | zero => exact stays_outside.pure ()
  | succ n =>
    unfold reactWithin
    refine stays_outside.bind stays_outside.get fun h => ?_
    split
    · exact stays_outside.pure ()
    · exact stays_outside.pure ()
    · exact stays_outside.note rfl
    · exact stays_outside.report rfl
    · refine stays_outside.bind (stays_outside.note (occurrenceOf_weighs _ _)) fun _ k aloof => ?_
      obtain ⟨hrequests, haside, hbus, haloof⟩ := takeCall_aloof id aloof
      let p : Playing .board := { react := reactWithin n, rounds := n + 1 }
      obtain ⟨hdoes, hrest, hend⟩ := carryOutAll_stays p hrequests _ haloof
      rw [hbus] at hdoes
      exact ⟨hdoes, haside.trans hrest, hend⟩

/-! ## Telling aloof handlers -/

/-- Handlers leave the session as it is while they are aloof, and there is a round to deliver in. -/
structure Calm (p : Playing .board) : Prop where
  react : ∀ id occasion, Step.Keeps Stays (p.react id occasion)
  rounds : 0 < p.rounds

theorem within_calm {n : Nat} (positive : 0 < n) : (within n : Playing .board).Calm :=
  ⟨reactWithin_stays n, positive⟩

end Playing

namespace Host

open Bus

/-- What is told while handlers are aloof: the session stays as it is, and nothing is published. -/
def silence : Account (Host .board) HandlerId (Notice Nat) where
  holds := Aloof
  tells h signs k := Aside h k ∧ publications signs = []

theorem silence_lawful : Site.Lawful site silence where
  bus_withBus _ _ := rfl
  holds_withBus _ _ aloof := aloof
  tells_refl h := ⟨Aside.refl h, rfl⟩
  tells_withBus _ _ := ⟨rfl, rfl⟩
  tells_trans := by
    rintro s t u first second ⟨hk, hfirst⟩ ⟨kl, hsecond⟩
    refine ⟨hk.trans kl, ?_⟩
    rw [publications_append, hfirst, hsecond]
    rfl

end Host

namespace Playing

open Bus Host

variable {p : Playing .board} (calm : p.Calm)

include calm

theorem tell_stays (id : HandlerId) (event : Event (Notice Nat)) (h : Host .board) :
    Stays h (p.tell id event h).2 :=
  tell_of_react stays_outside.frame stays_outside.reported calm.react id event h

theorem tell_tame : site.Tame silence p.tell := by
  intro id e h aloof _
  obtain ⟨hdoes, haside, haloof⟩ := tell_stays calm id e h aloof
  exact ⟨haloof, [], hdoes, haside, rfl⟩

theorem tell_thrifty : site.Thrifty (fun _ => 0) silence.holds p.tell where
  left_withBus _ _ := rfl
  react id e h aloof _ := by
    obtain ⟨hdoes, -, -⟩ := tell_stays calm id e h aloof
    obtain ⟨more, hqueue, hmore⟩ := hdoes.queue
    exact ⟨more, hqueue, Nat.le_refl _, .inl (List.map_eq_nil_iff.mp hmore)⟩

end Playing

/-- A notice was told: it was published and delivered, nothing else was published or delivered
meanwhile, nothing waits, and the session is as it was but for its bus. -/
structure Playing.Told (p : Playing .board) (notice : Notice Nat) (h k : Host .board) : Prop where
  publishes : p.publish notice h = (.ok (), k)
  delivers : ∃ during, Bus.Run h.session.bus (.deed (.publish notice.signal notice) :: during)
      k.session.bus ∧
    Bus.taken during =
      [{ number := h.session.bus.issued, signal := notice.signal, data := notice }] ∧
    Bus.publications (Bus.heard during) = []
  aside : Host.Aside h k
  rests : k.session.bus.AtRest
  aloof : k.Aloof

namespace Playing

open Bus Host

/-- **While handlers are aloof, publishing a notice tells it.** -/
theorem publish_told {p : Playing .board} (calm : p.Calm) (notice : Notice Nat)
    (rest : h.session.bus.AtRest) (aloof : h.Aloof) : ∃ k, p.Told notice h k := by
  let k := (site.publish p.tell p.rounds notice.signal notice h).2
  obtain ⟨n, hn⟩ : ∃ n, p.rounds = n + 1 :=
    Nat.exists_eq_succ_of_ne_zero (Nat.ne_of_gt calm.rounds)
  have hrests : k.session.bus.AtRest :=
    Site.publish_rests silence_lawful (tell_tame calm) (tell_thrifty calm) p.rounds notice.signal notice
      aloof rest.idle calm.rounds
  have haloof : k.Aloof :=
    Site.publish_holds silence_lawful (tell_tame calm) p.rounds notice.signal notice aloof rest.idle
  obtain ⟨turn, during, htaken, run, haside, hsilent⟩ :=
    Site.publish_takes silence_lawful (tell_tame calm) n notice.signal notice aloof rest.idle rest.nothing
  rw [← hn] at run haside
  refine ⟨k, rfl, ⟨turn :: during, run, ?_, hsilent⟩, haside, hrests, haloof⟩
  -- the event that is taken first is all that was published
  have horder := run.order rest hrests
  rw [heard_cons, publications_append, hsilent] at horder
  have hsplit : taken (.deed (.publish notice.signal notice) :: turn :: during) =
      { number := h.session.bus.issued, signal := notice.signal, data := notice } ::
        taken during := by
    show taken (turn :: during) = _
    unfold taken
    rw [List.filterMap_cons, htaken]
    rfl
  rw [hsplit] at horder
  have hnone : taken during = [] := List.map_eq_nil_iff.mp (List.cons.inj horder).2
  rw [← hnone]
  exact hsplit

end Playing

end Dialogue
