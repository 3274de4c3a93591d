import Dialogue.Proofs.Session.Reader

/-!
# Boxes

What can become of a board when a session clears it, shows a line or shows a text: the board is as it
was, or it was changed and this was written into the journal.  Only a box whose options cannot be asked
for anything stands on the board without an entry in the journal.

## Results

* `Playing.clear_cases`, `Playing.display_cases`, `Playing.showText_cases` — all that can become of a
  host that clears its board, shows a line or shows a text.
* `Playing.carryOut_ownBox` — only a request that shows a text is answered with a box.
-/

set_option autoImplicit false

namespace Dialogue

namespace Host

/-- The host after something was put into a box, before anyone is told. -/
def boxed (intent : Intent) (options : Value) (h : Host .board) : Host .board :=
  (h.onSession (Session.shown intent options)).note
    (.rendered (h.session.surface.next intent options).handle intent options)

/-- The host after a box with these options was refused, but is on the board. -/
def refused (intent : Intent) (options : Value) (h : Host .board) : Host .board :=
  h.onSession fun s => { s with surface := s.surface.add (s.surface.next intent options) }

end Host

/-- The box that a request was answered with. -/
def Reply.ownBox? : Reply .board → Option Nat
  | .handle handle? => handle?
  | _ => none

/-- Does this request show a text in a box of its own? -/
def Request.isShowing : Request .board → Bool
  | .showText .. => true
  | .attempt r => r.isShowing
  | _ => false

namespace Board

theorem render_of_hasOptions {b : Board} {intent : Intent} {options : Value}
    (asked : (b.next intent options).hasOptions = true) :
    b.render intent options =
      (.ok (b.next intent options).handle, b.add (b.next intent options)) := by
  unfold render
  exact if_pos asked

theorem render_of_not_hasOptions {b : Board} {intent : Intent} {options : Value}
    (unasked : (b.next intent options).hasOptions = false) :
    b.render intent options = (.error (.ofDoing options "get"), b.add (b.next intent options)) := by
  unfold render
  exact if_neg fun asked => Bool.false_ne_true (unasked.symm.trans asked)

/-- A board is not cleared while a box on it cannot be asked for its options. -/
theorem clear_of_not_hasOptions {b : Board} {box : Box} (visible : box ∈ b.visible)
    (unasked : box.hasOptions = false) : ∃ f, b.clear = (.error f, b) := by
  unfold clear
  cases hfind : b.visible.find? fun box => !box.hasOptions with
  | none =>
    have hnot := List.find?_eq_none.mp hfind box visible
    simp [unasked] at hnot
  | some first => exact ⟨.ofDoing first.options "get", rfl⟩

end Board

/-- What is done to the board of a host is done to its session. -/
theorem Act.onSurface_eq {α : Type} {f : Board → Except Fault α × Board} {h : Host .board}
    {result : Except Fault α} {board : Board} (done : f h.session.surface = (result, board)) :
    Act.onPart (K := .board) Session.surface (fun surface s => { s with surface }) f h =
      (result, h.onSession fun s => { s with surface := board }) := by
  rw [onPart_apply, done]

namespace Playing

variable {p : Playing .board}

/-! ## What becomes of a board -/

theorem clear_of_hasOptions (p : Playing .board) {h : Host .board}
    (boxes : ∀ box ∈ h.session.surface.visible, box.hasOptions = true) :
    p.clear h = p.publish .cleared h.wiped := by
  unfold clear
  rw [Step.bind_eq_of_ok (Act.onSurface_eq (Board.clear_of_hasOptions boxes))]
  rfl

theorem clear_of_not_hasOptions (p : Playing .board) {h : Host .board} {box : Box}
    (visible : box ∈ h.session.surface.visible) (unasked : box.hasOptions = false) :
    ∃ f, p.clear h = (.error f, h) := by
  obtain ⟨f, hclear⟩ := Board.clear_of_not_hasOptions visible unasked
  exact ⟨f, Step.bind_eq_of_error (Act.onSurface_eq hclear)⟩

/-- A board is cleared and this is told, unless a box on it cannot be asked for its options. -/
theorem clear_cases (p : Playing .board) (h : Host .board) :
    p.clear h = p.publish .cleared h.wiped ∨
      (∃ box ∈ h.session.surface.visible, box.hasOptions = false) ∧
        ∃ f, p.clear h = (.error f, h) := by
  by_cases boxes : ∀ box ∈ h.session.surface.visible, box.hasOptions = true
  · exact .inl (clear_of_hasOptions p boxes)
  · obtain ⟨box, visible, unasked⟩ : ∃ box ∈ h.session.surface.visible, box.hasOptions = false := by
      simpa using boxes
    exact .inr ⟨⟨box, visible, unasked⟩, clear_of_not_hasOptions p visible unasked⟩

/-- Something is put into a box, which is refused if it cannot be asked for its options. -/
theorem render_cases (intent : Intent) (options : Value) (h : Host .board) :
    render intent options h =
        (.ok (h.session.surface.next intent options).handle, h.boxed intent options) ∨
      (h.session.surface.next intent options).hasOptions = false ∧
        ∃ f, render intent options h = (.error f, h.refused intent options) := by
  cases asked : (h.session.surface.next intent options).hasOptions with
  | true =>
    refine .inl ?_
    unfold render
    rw [Step.bind_eq_of_ok (Act.onSurface_eq (Board.render_of_hasOptions asked))]
    rfl
  | false =>
    have hrender := Act.onSurface_eq (h := h) (Board.render_of_not_hasOptions asked)
    exact .inr ⟨rfl, _, Step.bind_eq_of_error hrender⟩

/-- A line is put into a box and this is told, unless there is nothing to show or no options can be had
for the box. -/
theorem display_cases (p : Playing .board) (line : Line) (h : Host .board) :
    (p.display line h).2 = h ∨ ∃ options, options.kind = .tree ∧
      p.display line h =
        p.publish (.displayed line (h.session.surface.next line.intent options).handle)
          (h.boxed line.intent options) := by
  unfold display
  split
  · have hbox : boxOptions (K := .board) (Value.optionalText line.who)
        (Value.optionalText line.sideImage) .null h =
          (h.session.optionsOf (Value.optionalText line.who) (Value.optionalText line.sideImage) .null,
            h) := rfl
    cases hoptions : h.session.optionsOf (Value.optionalText line.who)
        (Value.optionalText line.sideImage) .null with
    | error f =>
      rw [hoptions] at hbox
      rw [Step.bind_eq_of_error hbox]
      exact .inl rfl
    | ok options =>
      rw [hoptions] at hbox
      have hkind := Session.optionsOf_kind hoptions
      rw [Step.bind_eq_of_ok hbox]
      refine .inr ⟨options, hkind, ?_⟩
      rcases render_cases line.intent options h with hrender | ⟨hnone, -⟩
      · rw [Step.bind_eq_of_ok hrender]
      · rw [Box.hasOptions_of_kind hkind] at hnone
        cases hnone
  · exact .inl rfl

/-- A text is put into a box of its own, if there is any; the box is the answer, unless it cannot be
asked for its options. -/
theorem showText_cases (kind : DialogKind) (text options : Value) (h : Host .board) :
    showText kind text options h = (.ok none, h) ∨
      let resolved := h.session.settings.resolve kind none .null options
      showText kind text options h =
          (.ok (some (h.session.surface.next (.ofText text) resolved).handle),
            h.boxed (.ofText text) resolved) ∨
        (h.session.surface.next (.ofText text) resolved).hasOptions = false ∧
          ∃ f, showText kind text options h = (.error f, h.refused (.ofText text) resolved) := by
  unfold showText
  split
  · refine .inr ?_
    intro resolved
    rw [Step.bind_eq_of_ok (Step.get_apply h)]
    rcases render_cases (.ofText text) resolved h with hrender | ⟨hoptions, f, hrender⟩
    · rw [Step.bind_eq_of_ok hrender]
      exact .inl rfl
    · rw [Step.bind_eq_of_error hrender]
      exact .inr ⟨hoptions, f, rfl⟩
  · exact .inl rfl

/-- What is asked of a board leaves the host as it is. -/
theorem carryOut_ask (p : Playing .board) (r : Board.Request) (h : Host .board) :
    (p.carryOut (.ask r) h).2 = h := by
  show { h with journal := h.journal ++ [] } = h
  rw [List.append_nil]

/-! ## Answers with a box -/

/-- **Only a request that shows a text is answered with a box.** -/
theorem carryOut_ownBox {r : Request .board} (other : r.isShowing = false) :
    Step.Answers (fun reply => reply.ownBox? = none) (p.carryOut r) := by
  induction r with
  | showText => cases other
  | attempt r ih => exact Step.answers_tryCatch (ih other) fun _ => Step.answers_pure rfl
  | raise fault => exact Step.answers_throw _ fault
  | configure | registerCharacters | nameCommand | registerCommand | defineLabels | loadSequence
  | takeScript | startLabel | advance | parse | say | clear | boxOptions | settings | names | reset
  | subscribe | unsubscribe | consume => exact Step.answers_bind fun _ => Step.answers_pure rfl
  | look | item | findCharacter | findLabel | install =>
    exact Step.answers_bind fun _ => Step.answers_bind fun _ => Step.answers_pure rfl
  | ask r =>
    refine Step.answers_bind fun h => Step.answers_bind fun _ => ?_
    exact Step.answers_bind fun _ => Step.answers_bind fun _ => Step.answers_pure rfl
  | putFiles | loadLibrary =>
    refine Step.answers_bind fun h => Step.answers_bind fun _ => ?_
    exact Step.answers_bind fun _ => Step.answers_pure rfl

end Playing

end Dialogue
