import Dialogue.Proofs.Session.Mirroring
import Mathlib.Data.List.Forall2

/-!
# Requests while an observer looks on

Whatever a host or its handlers ask for, the notices that the observer sees go on to mirror the board.

## Results

* `Playing.fit_course` — the parts of going on keep a host fit.
* `Playing.carryOutAll_fit`, `Playing.reactWithin_fit` — so do requests, and handlers at any depth of
  calls.
-/

set_option autoImplicit false

namespace Dialogue

namespace Host

variable {resting : Bool} {m extra rounds : Nat} {h k : Host .board}

/-- A deed that respects the observer and publishes nothing keeps a host fit. -/
theorem Fit.deed (fit : Fit resting m extra h) {d : Bus.Deed HandlerId (Notice Nat)}
    {b : Bus HandlerId (Notice Nat)} (result : d.result h.session.bus = .ok b)
    (respects : d.Respects 0 observerPriority) (quiet : d.event? h.session.bus = none) :
    Fit resting m extra (h.onSession fun s => { s with bus := b }) := by
  obtain ⟨hrunning, -, hqueue⟩ := d.result_spec result
  rw [quiet] at hqueue
  exact ⟨⟨fit.lists, fit.mirrored.deed result respects quiet⟩,
    fit.stands.of_eq hrunning (hqueue.trans (List.append_nil _))⟩

/-- The observer has no title. -/
theorem latest?_ne_zero {title : Value} (observer : h.handlers[0]? = some .observer) :
    h.latest? title ≠ some 0 := by
  intro hlatest
  have hfound := List.find?_some hlatest
  simp [observer] at hfound

/-- A handler that takes a list has one call fewer to spare, and the lists that the list brings are not
held yet. -/
theorem Fit.takeCall {n : Nat} (fit : Fit resting (n + 1) extra h) (id : HandlerId) :
    h.takeCall id = ([], h) ∨
      everyRequest Request.isModest (h.takeCall id).1 = true ∧
        Fit resting n (listsInCall (h.takeCall id).1 + extra) (h.takeCall id).2 := by
  rcases takeCall_lists id h with hnone | htaken
  · exact .inl hnone
  · have hlists : heldLists (h.takeCall id).2.handlers +
        (listsInCall (h.takeCall id).1 + extra) < n := by
      have hbefore := fit.lists
      omega
    have hstands : Stands resting (h.takeCall id).2.session.bus := by
      rw [takeCall_session]
      exact fit.stands
    exact .inr ⟨(takeCall_every id fit.mirrored.modest).1,
      ⟨hlists, fit.mirrored.takeCall id⟩, hstands⟩

/-! ## What becomes of the board is to be told -/

/-- What is written down of the board is to be told. -/
theorem Mirrored.owes (mirrored : Mirrored [] h) {o : Occurrence .board} {seen : Sight}
    {notice : Notice Nat} (sight : o.sight? (ownBoxes h.journal) = some seen)
    (box : ∀ n, o.box? = some n → n ≤ h.session.surface.history.length)
    (mirrors : Mirrors seen notice) : Mirrored [notice] (h.note o) := by
  have hquiet : o.ownBox? = none ∧ o.tiding? = none := by
    cases o with
    | cleared | rendered => exact ⟨rfl, rfl⟩
    | _ => cases sight
  have htells : notice.tellsSurface = true := by
    cases mirrors <;> rfl
  refine { mirrored with boxes := fun other ho n hn => ?_, mirror := ?_ }
  · rcases List.mem_append.mp ho with ho | ho
    · exact mirrored.boxes other ho n hn
    · rw [List.mem_singleton.mp ho] at hn
      exact box n hn
  · have hsights : sights (h.journal ++ [o]) = sights h.journal ++ [seen] := by
      rw [sights_snoc hquiet.1, sight]
      rfl
    have htidings : tidings (h.journal ++ [o]) = tidings h.journal := by
      rw [tidings_append]
      simp [tidings, hquiet.2]
    have hfilter : [notice].filter Notice.tellsSurface = [notice] := by simp [htells]
    have hmirror := mirrored.mirror
    rw [List.append_nil] at hmirror
    show List.Forall₂ Mirrors (sights (h.journal ++ [o])) (tidings (h.journal ++ [o]) ++
      (h.session.bus.queue.map Event.data ++ [notice]).filter Notice.tellsSurface)
    rw [hsights, htidings, List.filter_append, hfilter, ← List.append_assoc]
    exact List.rel_append hmirror (.cons mirrors .nil)

theorem Mirrored.wiped (mirrored : Mirrored [] h) : Mirrored [.cleared] h.wiped := by
  have hsame : Mirrored [] (h.onSession fun s => s.after .wipe) :=
    mirrored.of_eq rfl rfl rfl (Nat.le_refl _)
  exact hsame.owes rfl (fun n hn => by cases hn) .cleared

/-- A box has a handle that no entry of the journal told of. -/
theorem Mirrored.fresh {debt : List (Notice Nat)} (mirrored : Mirrored debt h)
    (intent : Intent) (options : Value) :
    ∀ o ∈ h.journal, o.box? ≠ some (h.session.surface.next intent options).handle := by
  intro o ho hn
  have hle := mirrored.boxes o ho _ hn
  exact absurd hle (Nat.not_succ_le_self _)

theorem Mirrored.shown {debt : List (Notice Nat)} (mirrored : Mirrored debt h)
    (intent : Intent) (options : Value) : Mirrored debt (h.onSession (Session.shown intent options)) := by
  refine mirrored.of_eq rfl rfl rfl ?_
  show _ ≤ (h.session.surface.history ++ [_]).length
  rw [List.length_append]
  exact Nat.le_add_right _ _

/-- The handle of a box that was put on the board. -/
theorem handle_le_shown (intent : Intent) (options : Value) (h : Host .board) :
    (h.session.surface.next intent options).handle ≤
      (h.onSession (Session.shown intent options)).session.surface.history.length := by
  show h.session.surface.history.length + 1 ≤ (h.session.surface.history ++ [_]).length
  rw [List.length_append]
  exact Nat.le_refl _

/-- A line that was put into a box is to be told. -/
theorem Mirrored.boxed (mirrored : Mirrored [] h) (line : Line) (options : Value) :
    Mirrored [.displayed line (h.session.surface.next line.intent options).handle]
      (h.boxed line.intent options) := by
  refine (mirrored.shown line.intent options).owes (o := .rendered _ _ _) ?_
    (fun n hn => ?_) (.boxed line _)
  · unfold Occurrence.sight?
    refine if_neg fun hown => ?_
    obtain ⟨o, ho, hbox⟩ := List.mem_filterMap.mp hown
    exact mirrored.fresh _ _ o ho (Occurrence.box?_of_ownBox? hbox)
  · cases hn
    exact handle_le_shown line.intent options h

/-- What was put into a box of its own and answered with the box needs not to be told. -/
theorem Mirrored.own {debt : List (Notice Nat)} (mirrored : Mirrored debt h)
    (intent : Intent) (options : Value) :
    Mirrored debt ((h.boxed intent options).note
      (.replied (.handle (some (h.session.surface.next intent options).handle)))) := by
  let handle := (h.session.surface.next intent options).handle
  have hjournal : ((h.boxed intent options).note (.replied (.handle (some handle)))).journal =
      h.journal ++ [.rendered handle intent options, .replied (.handle (some handle))] :=
    List.append_assoc _ [_] [_]
  have hshown := mirrored.shown intent options
  refine { hshown with boxes := fun o ho n hn => ?_, mirror := ?_ }
  · rw [hjournal] at ho
    rcases List.mem_append.mp ho with ho | ho
    · exact hshown.boxes o ho n hn
    · have hbox : o.box? = some handle := by
        rcases List.mem_cons.mp ho with rfl | ho
        · rfl
        · rw [List.mem_singleton.mp ho]
          rfl
      rw [hbox] at hn
      cases hn
      exact handle_le_shown intent options h
  · rw [hjournal, sights_own intent options (mirrored.fresh intent options), tidings_append]
    exact (List.append_nil (tidings h.journal)).symm ▸ mirrored.mirror

end Host

namespace Playing

open Host

variable {resting : Bool} {m extra rounds : Nat} {h k : Host .board}

section

variable (keep : KeepFit m) (enough : m ≤ rounds)

include keep enough

theorem clear_fit (fit : Fit resting m extra h) :
    Fit resting m extra ((bounded m rounds).clear h).2 := by
  rcases clear_cases (bounded m rounds) h with hclear | ⟨-, f, hclear⟩
  · rw [hclear]
    exact publish_fit keep enough fit.lists fit.mirrored.wiped fit.stands
  · rw [hclear]
    exact fit

theorem display_fit (line : Line) (fit : Fit resting m extra h) :
    Fit resting m extra ((bounded m rounds).display line h).2 := by
  rcases display_cases (bounded m rounds) line h with hsame | ⟨options, -, hdisplay⟩
  · rw [hsame]
    exact fit
  · rw [hdisplay]
    exact publish_fit keep enough fit.lists (fit.mirrored.boxed line options) fit.stands

/-- What does not tell of the board can be told at any time. -/
theorem publish_fit_of_not (notice : Notice Nat) (other : notice.tellsSurface = false)
    (fit : Fit resting m extra h) :
    Fit resting m extra ((bounded m rounds).publish notice h).2 := by
  refine publish_fit keep enough fit.lists { fit.mirrored with mirror := ?_ } fit.stands
  have hfilter : [notice].filter Notice.tellsSurface = [] := by simp [other]
  have hmirror := fit.mirrored.mirror
  rw [List.append_nil] at hmirror
  rw [List.filter_append, hfilter, List.append_nil]
  exact hmirror

/-- **The parts of going on keep a host fit.** -/
theorem fit_course : Course (bounded m rounds)
    (fun h k => Fit resting m extra h → Fit resting m extra k) where
  frame := ⟨fun _ fit => fit, fun hk kl fit => kl (hk fit)⟩
  reported rs h _ fit := by
    refine fit.journal fun o ho => ?_
    obtain ⟨report, -, rfl⟩ := List.mem_map.mp ho
    exact Occurrence.silent_reported report
  disk _ _ fit := fit.of_eq rfl rfl rfl (Nat.le_refl _)
  library _ _ fit := fit.of_eq rfl rfl rfl (Nat.le_refl _)
  prompted _ _ fit := fit.of_eq rfl rfl rfl (Nat.le_refl _)
  cast _ _ fit := fit.of_eq rfl rfl rfl (Nat.le_refl _)
  commands _ _ _ _ _ fit := fit.of_eq rfl rfl rfl (Nat.le_refl _)
  playhead _ _ fit := fit.of_eq rfl rfl rfl (Nat.le_refl _)
  drawn _ _ fit := fit.of_eq rfl rfl rfl (Nat.le_refl _)
  cleared _ fit := clear_fit keep enough fit
  displayed line _ fit := display_fit keep enough line fit
  told notice other _ fit := publish_fit_of_not keep enough notice other fit
  handled id name h fit := keep resting extra id (.command name) h (fun _ => ⟨name, rfl⟩) fit
  skipped _ _ fit := fit.note (Occurrence.silent_reported _)

/-! ## Requests -/

/-- A request that shows no text keeps a host fit, with the lists that it brings. -/
theorem carryOut_fit {r : Request .board} (modest : r.every Request.isModest = true)
    (other : r.isShowing = false) (fit : Fit resting m (r.lists + extra) h) :
    Fit resting m extra ((bounded m rounds).carryOut r h).2 := by
  have hless : Fit resting m extra h := fit.mono (Nat.le_refl m) (Nat.le_add_left _ _)
  have hid : h.handlers.length ≠ 0 := by
    have hlength := (List.getElem?_eq_some_iff.mp fit.mirrored.observer).1
    omega
  induction r with
  | attempt r ih =>
    rw [carryOut_attempt_snd]
    rw [Request.lists] at fit
    exact ih (Request.every_of_attempt modest) other fit
  | registerCommand name calls =>
    rcases carryOut_registerCommand (bounded m rounds) name calls h with
      hsame | ⟨commands, hadded⟩
    · rw [hsame]
      exact hless
    · rw [hadded]
      have hregistered := hless.mirrored.of_eq (k := h.onSession fun s => { s with commands })
        rfl rfl rfl (Nat.le_refl _)
      refine ⟨⟨?_, hregistered.addHandler none (everyCall_of_registerCommand modest)⟩, fit.stands⟩
      rw [heldLists_addHandler, Nat.add_assoc]
      exact fit.lists
  | subscribe signal title calls priority oneShot =>
    have hadd : Fit resting m extra (h.addHandler (.held (some title) calls)) := by
      refine ⟨⟨?_, fit.mirrored.addHandler (some title) (everyCall_of_subscribe modest)⟩, fit.stands⟩
      rw [heldLists_addHandler, Nat.add_assoc]
      exact fit.lists
    rcases carryOut_subscribe (bounded m rounds) signal title calls priority oneShot h with
      hsame | hadded | ⟨bus, hbus, hadded⟩
    · rw [hsame]
      exact hless
    · rw [hadded]
      exact hadd
    · rw [hadded]
      exact hadd.deed (d := .subscribe signal h.handlers.length priority oneShot false) hbus
        ⟨hid, not_exceeds_of_isModest (Request.ok_of_every modest)⟩ rfl
  | unsubscribe signal title =>
    rcases carryOut_unsubscribe (bounded m rounds) signal title h with
      hsame | ⟨id, hlatest, hleft⟩
    · rw [hsame]
      exact hless
    · rw [hleft]
      have hother : id ≠ 0 := by
        rintro rfl
        exact latest?_ne_zero fit.mirrored.observer hlatest
      exact hless.deed (d := .unsubscribe signal id) rfl hother rfl
  | consume =>
    show Fit resting m extra (h.onSession fun s => { s with bus := s.bus.consumeCurrent })
    rcases Bus.consumeCurrent_eq h.session.bus with hnone | ⟨e, hconsumed⟩
    · exact hless.of_eq hnone rfl rfl (Nat.le_refl _)
    · exact hless.deed (d := .consume e) (congrArg Except.ok hconsumed.symm) trivial rfl
  | ask r =>
    rw [carryOut_ask]
    exact hless
  | showText => cases other
  | _ =>
    refine (fit_course keep enough).carryOut rfl (fun options => ?_) h hless
    exact Act.onPart_keeps fun h fit => fit.of_eq rfl rfl rfl (Nat.le_refl _)

omit keep enough in
/-- A text that is shown in a box of its own, and the answer written down, keeps a host fit. -/
theorem showText_fit {kind : DialogKind} {text options : Value} (fit : Fit resting m extra h)
    {result : Except Fault (Option Nat)} (shown : showText kind text options h = (result, k)) :
    (result.toOption = none → Fit resting m extra k) ∧
      ∀ handle?, result = .ok handle? → Fit resting m extra (k.note (.replied (.handle handle?))) := by
  rcases showText_cases kind text options h with hnone | hshown | ⟨-, f, hrefused⟩
  · rw [hnone] at shown
    cases shown
    refine ⟨fun _ => fit, fun handle? hok => ?_⟩
    cases hok
    exact fit.note (Occurrence.silent_replied rfl)
  · rw [hshown] at shown
    cases shown
    refine ⟨nofun, fun handle? hok => ?_⟩
    cases hok
    exact ⟨⟨fit.lists, fit.mirrored.own (.ofText text) _⟩, fit.stands⟩
  · rw [hrefused] at shown
    cases shown
    refine ⟨fun _ => fit.of_eq rfl rfl rfl ?_, nofun⟩
    show _ ≤ (h.session.surface.history ++ [_]).length
    rw [List.length_append]
    exact Nat.le_add_right _ _

/-- **What is asked, and its answer written down, keeps a host fit.** -/
theorem answer_fit {r : Request .board} (modest : r.every Request.isModest = true)
    (fit : Fit resting m (r.lists + extra) h) {result : Except Fault (Reply .board)}
    (carried : (bounded m rounds).carryOut r h = (result, k)) :
    (r.isShowing = false ∨ result.toOption = none → Fit resting m extra k) ∧
      ∀ reply, result = .ok reply → Fit resting m extra (k.note (.replied reply)) := by
  cases showing : r.isShowing with
  | false =>
    have hfit := carryOut_fit keep enough modest showing fit
    rw [carried] at hfit
    refine ⟨fun _ => hfit, fun reply hok => ?_⟩
    subst hok
    exact hfit.note (Occurrence.silent_replied (carryOut_ownBox showing h reply k carried))
  | true =>
    induction r generalizing result with
    | showText kind text options =>
      have hless : Fit resting m extra h := fit.mono (Nat.le_refl m) (Nat.le_add_left _ _)
      cases shown : showText kind text options h with
      | mk answer t =>
        obtain ⟨hkept, hnoted⟩ := showText_fit hless shown
        cases answer with
        | ok handle? =>
          rw [carryOut, Step.bind_eq_of_ok shown] at carried
          cases carried
          refine ⟨fun hnot => ?_, fun reply hok => ?_⟩
          · rcases hnot with hnot | hnot <;> cases hnot
          · cases hok
            exact hnoted handle? rfl
        | error f =>
          rw [carryOut, Step.bind_eq_of_error shown] at carried
          cases carried
          refine ⟨fun _ => hkept rfl, fun reply hok => ?_⟩
          cases hok
    | attempt r ih =>
      rw [carryOut_attempt] at carried
      rw [Request.lists] at fit
      have htried {result : Except Fault (Reply .board)}
          (hr : (bounded m rounds).carryOut r h = (result, k)) :=
        ih (Request.every_of_attempt modest) fit hr showing
      split at carried <;> rename_i hr <;> cases carried
      · exact htried hr
      · have hkept := (htried hr).1 (.inr rfl)
        refine ⟨fun _ => hkept, fun reply hok => ?_⟩
        cases hok
        exact hkept.note (Occurrence.silent_replied rfl)
    | _ => cases showing

omit keep enough in
/-- A request whose answer is not written down shows nothing. -/
theorem isShowing_of_not_isAnswered {r : Request .board} (unanswered : isAnswered r = false) :
    r.isShowing = false := by
  induction r with
  | consume => rfl
  | attempt r ih => exact ih unanswered
  | _ => cases unanswered

/-- **The requests of a list keep a host fit.** -/
theorem carryOutAll_fit {requests : List (Request .board)}
    (modest : everyRequest Request.isModest requests = true)
    (fit : Fit resting m (listsInCall requests + extra) h) :
    Fit resting m extra ((bounded m rounds).carryOutAll requests h).2 := by
  induction requests generalizing h with
  | nil => exact fit.mono (Nat.le_refl m) (Nat.le_add_left _ _)
  | cons r rest ih =>
    unfold everyRequest at modest
    obtain ⟨hmodest, hrest⟩ := Bool.and_eq_true_iff.mp modest
    have hlists : listsInCall (r :: rest) + extra = r.lists + (listsInCall rest + extra) := by
      simp only [listsInCall, Nat.add_assoc]
    rw [hlists] at fit
    unfold carryOutAll
    cases carried : (bounded m rounds).carryOut r h with
    | mk result k =>
      obtain ⟨hkept, hnoted⟩ := answer_fit keep enough hmodest fit carried
      cases result with
      | error f =>
        rw [Step.bind_eq_of_error carried]
        exact (hkept (.inr rfl)).mono (Nat.le_refl m) (Nat.le_add_left _ _)
      | ok reply =>
        rw [Step.bind_eq_of_ok carried]
        cases answered : isAnswered r with
        | true => exact ih hrest (hnoted reply rfl)
        | false =>
          exact ih hrest (hkept (.inl (isShowing_of_not_isAnswered answered)))

end

/-- **Handlers keep a host fit at any depth of calls.** -/
theorem reactWithin_fit (m : Nat) : KeepFit m := by
  -- a handler with a list to carry out has one list fewer, and its requests one call fewer to spare
  induction m with
  | zero => exact fun resting extra id occasion h _ fit => absurd fit.lists (Nat.not_lt_zero _)
  | succ n ih =>
    intro resting extra id occasion h hobserver fit
    rcases reactWithin_cases n id occasion h with
      hr | ⟨notice, hid, rfl, -⟩ | ⟨text, hr⟩ | ⟨title?, hr⟩
    · rw [hr]
      exact fit
    · obtain ⟨name, hname⟩ := hobserver (fit.mirrored.alone id hid)
      cases hname
    · rw [hr]
      exact fit.note (Occurrence.silent_reported _)
    · rw [hr]
      have hnoted : Fit resting (n + 1) extra (h.note (occurrenceOf title? occasion)) :=
        fit.note (Occurrence.silent_occurrenceOf title? occasion)
      rcases hnoted.takeCall id with hnone | ⟨hmodest, htaken⟩
      · rw [hnone]
        exact hnoted
      · exact (carryOutAll_fit ih (Nat.le_succ n) hmodest htaken).mono (Nat.le_succ n) (Nat.le_refl _)

end Playing

end Dialogue
