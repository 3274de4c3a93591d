import Mathlib.Data.List.DropRight
import Dialogue.Proofs.Session.Sound

/-!
# What is on a board

What a board shows is determined by the calls that it got.  Every box that was rendered stands in its
history once, numbered from one; of these the board shows the ones that persist and the ones that were
rendered since it was last cleared.

## Results

* `Board.Tells.step` — one more call keeps a board telling the calls that it got.
* `Board.Tells.run` — so do any number of calls, and none of them fails.
* `Board.run_determined` — history, visible boxes, current box and number of clears of any run, and
  what becomes of a single box.
-/

set_option autoImplicit false

namespace Dialogue

namespace Board

/-- What is done to a board. -/
inductive Call where
  | render (intent : Intent) (options : Value)
  | clear
deriving DecidableEq, Repr

namespace Call

/-- Are the options of this call a mapping, if it has any? -/
def Mapped : Call → Prop
  | .render _ options => options.kind = .tree
  | .clear => True

instance (call : Call) : Decidable call.Mapped :=
  match call with
  | .render _ options => inferInstanceAs (Decidable (options.kind = .tree))
  | .clear => .isTrue trivial

/-- Do this to a board.  Only a box that is rendered has a handle to answer with. -/
def perform (call : Call) (b : Board) : Except Fault (Option Nat) × Board :=
  match call with
  | .render intent options => ((b.render intent options).1.map some, (b.render intent options).2)
  | .clear => (b.clear.1.map fun _ => none, b.clear.2)

end Call

/-- Do all of this to a board, one after the other. -/
def run : List Call → Board → List (Except Fault (Option Nat)) × Board
  | [], b => ([], b)
  | call :: calls, b =>
    ((call.perform b).1 :: (run calls (call.perform b).2).1, (run calls (call.perform b).2).2)

/-! ## What calls tell -/

/-- The boxes that these calls render when `n` boxes were rendered before. -/
def boxesFrom (n : Nat) : List Call → List Box
  | [] => []
  | .render intent options :: calls =>
    { handle := n + 1, intent, options } :: boxesFrom (n + 1) calls
  | .clear :: calls => boxesFrom n calls

/-- The boxes that these calls render on a new board. -/
def boxes (calls : List Call) : List Box :=
  boxesFrom 0 calls

/-- The handles that these calls are answered with when `n` boxes were rendered before. -/
def handlesFrom (n : Nat) : List Call → List (Option Nat)
  | [] => []
  | .render _ _ :: calls => some (n + 1) :: handlesFrom (n + 1) calls
  | .clear :: calls => none :: handlesFrom n calls

/-- These calls up to the last one that clears. -/
def uptoClear (calls : List Call) : List Call :=
  calls.rdropWhile fun call => call != .clear

/-- Is a box still there after these calls: does it persist, or was it rendered after the last call
that clears? -/
def lasts (calls : List Call) (box : Box) : Bool :=
  box.persistent || decide ((boxes (uptoClear calls)).length < box.handle)

theorem boxesFrom_append (n : Nat) (calls more : List Call) :
    boxesFrom n (calls ++ more) =
      boxesFrom n calls ++ boxesFrom (n + (boxesFrom n calls).length) more := by
  induction calls generalizing n with
  | nil => rfl
  | cons call calls ih =>
    cases call with
    | clear => exact ih n
    | render intent options =>
      have hlength : n + 1 + (boxesFrom (n + 1) calls).length =
          n + (boxesFrom n (.render intent options :: calls)).length := by
        simp only [boxesFrom, List.length_cons]
        omega
      simp only [List.cons_append, boxesFrom, ih (n + 1)]
      rw [hlength, boxesFrom]

theorem map_handle_boxesFrom (n : Nat) (calls : List Call) :
    (boxesFrom n calls).map Box.handle = List.range' (n + 1) (boxesFrom n calls).length := by
  induction calls generalizing n with
  | nil => rfl
  | cons call calls ih =>
    cases call with
    | clear => exact ih n
    | render intent options =>
      simp only [boxesFrom, List.map_cons, List.length_cons, List.range'_succ, ih (n + 1)]

theorem boxes_append (calls more : List Call) :
    boxes (calls ++ more) = boxes calls ++ boxesFrom (boxes calls).length more := by
  simpa [boxes] using boxesFrom_append 0 calls more

theorem map_handle_boxes (calls : List Call) :
    (boxes calls).map Box.handle = List.range' 1 (boxes calls).length :=
  map_handle_boxesFrom 0 calls

theorem handle_le_of_mem_boxes {calls : List Call} {box : Box} (rendered : box ∈ boxes calls) :
    box.handle ≤ (boxes calls).length := by
  have hmem : box.handle ∈ (boxes calls).map Box.handle := List.mem_map_of_mem rendered
  rw [map_handle_boxes, List.mem_range'_1] at hmem
  omega

theorem length_boxes_uptoClear_le (calls : List Call) :
    (boxes (uptoClear calls)).length ≤ (boxes calls).length := by
  have hsplit : calls = uptoClear calls ++ calls.rtakeWhile fun call => call != .clear :=
    (List.rdropWhile_append_rtakeWhile ..).symm
  conv => rhs; rw [hsplit, boxes_append, List.length_append]
  exact Nat.le_add_right ..

theorem uptoClear_concat_clear (calls : List Call) :
    uptoClear (calls ++ [.clear]) = calls ++ [.clear] :=
  List.rdropWhile_concat_neg _ _ _ (by decide)

theorem lasts_concat_render (calls : List Call) (intent : Intent) (options : Value) :
    lasts (calls ++ [.render intent options]) = lasts calls := by
  have hupto : uptoClear (calls ++ [.render intent options]) = uptoClear calls :=
    List.rdropWhile_concat_pos _ _ _ rfl
  unfold lasts
  rw [hupto]

/-- Clearing leaves those of the rendered boxes that persist. -/
theorem lasts_concat_clear {calls : List Call} {box : Box} (rendered : box ∈ boxes calls) :
    lasts (calls ++ [.clear]) box = box.persistent := by
  have hboxes : boxes (calls ++ [.clear]) = boxes calls := by
    rw [boxes_append]
    exact List.append_nil _
  have hold : ¬ (boxes calls).length < box.handle := Nat.not_lt.mpr (handle_le_of_mem_boxes rendered)
  unfold lasts
  rw [uptoClear_concat_clear, hboxes, decide_eq_false hold, Bool.or_false]

/-! ## Boards that tell their calls -/

/-- The board is what these calls make of a new one. -/
structure Tells (calls : List Call) (b : Board) : Prop where
  history : b.history = boxes calls
  visible : b.visible = (boxes calls).filter (lasts calls)
  clears : b.clears = calls.count .clear
  asked : ∀ box ∈ b.visible, box.hasOptions = true

theorem Tells.nil : Tells [] {} :=
  ⟨rfl, rfl, rfl, fun _ hnone => nomatch hnone⟩

theorem Tells.render {calls : List Call} {b : Board} (tells : Tells calls b) (intent : Intent)
    {options : Value} (mapped : options.kind = .tree) :
    Tells (calls ++ [.render intent options]) (b.add (b.next intent options)) := by
  have hnext : b.next intent options =
      { handle := (boxes calls).length + 1, intent, options } := by
    rw [← tells.history]
    rfl
  have hboxes : boxes (calls ++ [.render intent options]) = boxes calls ++ [b.next intent options] := by
    rw [boxes_append, hnext]
    rfl
  have hlasts : lasts calls (b.next intent options) = true := by
    have hle := length_boxes_uptoClear_le calls
    rw [hnext]
    exact Bool.or_eq_true_iff.mpr (.inr (decide_eq_true (Nat.lt_succ_of_le hle)))
  refine ⟨?_, ?_, ?_, hasOptions_add tells.asked mapped intent⟩
  · rw [hboxes, ← tells.history]
    rfl
  · rw [hboxes, lasts_concat_render, List.filter_append, ← tells.visible,
      List.filter_singleton, hlasts]
    rfl
  · rw [List.count_append, ← tells.clears]
    rfl

theorem Tells.clear {calls : List Call} {b : Board} (tells : Tells calls b) :
    Tells (calls ++ [.clear]) b.wiped := by
  have hboxes : boxes (calls ++ [.clear]) = boxes calls := by
    rw [boxes_append]
    exact List.append_nil _
  refine ⟨?_, ?_, ?_, fun box visible => tells.asked box (List.mem_of_mem_filter visible)⟩
  · rw [hboxes, ← tells.history]
    rfl
  · rw [hboxes]
    calc b.visible.filter Box.persistent
      _ = (boxes calls).filter fun box => box.persistent && lasts calls box := by
        rw [tells.visible, List.filter_filter]
      _ = (boxes calls).filter (lasts (calls ++ [.clear])) := by
        refine List.filter_congr fun box rendered => ?_
        rw [lasts_concat_clear rendered, lasts]
        cases box.persistent <;> rfl
  · rw [List.count_append, ← tells.clears]
    rfl

/-- One more call keeps a board telling the calls that it got; its answer is the handle of the box, if
it renders one. -/
theorem Tells.step {calls : List Call} {b : Board} (tells : Tells calls b) {call : Call}
    (mapped : call.Mapped) :
    [(call.perform b).1] = (handlesFrom (boxes calls).length [call]).map .ok ∧
      Tells (calls ++ [call]) (call.perform b).2 := by
  cases call with
  | render intent options =>
    simp only [Call.perform, render_of_kind mapped intent b]
    rw [← tells.history]
    exact ⟨rfl, tells.render intent mapped⟩
  | clear =>
    simp only [Call.perform, clear_of_hasOptions tells.asked]
    exact ⟨rfl, tells.clear⟩

theorem handlesFrom_cons (calls : List Call) (call : Call) (more : List Call) :
    handlesFrom (boxes calls).length (call :: more) =
      handlesFrom (boxes calls).length [call] ++
        handlesFrom (boxes (calls ++ [call])).length more := by
  rw [boxes_append]
  cases call with
  | render intent options => simp [handlesFrom, boxesFrom]
  | clear => simp [handlesFrom, boxesFrom]

/-- Any number of calls keep a board telling the calls that it got, and none of them fails. -/
theorem Tells.run {calls : List Call} {b : Board} (tells : Tells calls b) {more : List Call}
    (mapped : ∀ call ∈ more, call.Mapped) :
    (Board.run more b).1 = (handlesFrom (boxes calls).length more).map .ok ∧
      Tells (calls ++ more) (Board.run more b).2 := by
  induction more generalizing calls b with
  | nil =>
    rw [List.append_nil]
    exact ⟨rfl, tells⟩
  | cons call more ih =>
    obtain ⟨hfirst, hnext⟩ := tells.step (mapped call List.mem_cons_self)
    obtain ⟨hrest, hlast⟩ := ih hnext fun other hm => mapped other (List.mem_cons_of_mem _ hm)
    constructor
    · rw [handlesFrom_cons, List.map_append, ← hfirst, ← hrest]
      rfl
    · rw [List.append_assoc] at hlast
      exact hlast

/-! ## What becomes of a box -/

theorem mem_boxes_append {calls : List Call} {box : Box} (rendered : box ∈ boxes calls)
    (more : List Call) : box ∈ boxes (calls ++ more) := by
  rw [boxes_append]
  exact List.mem_append_left _ rendered

theorem length_boxes_append_le (calls more : List Call) :
    (boxes calls).length ≤ (boxes (calls ++ more)).length := by
  rw [boxes_append, List.length_append]
  exact Nat.le_add_right ..

/-- The calls up to the last one that clears reach at least as far as any call that clears. -/
theorem length_boxes_le_uptoClear (calls more : List Call) :
    (boxes calls).length ≤ (boxes (uptoClear (calls ++ .clear :: more))).length := by
  induction more using List.reverseRecOn with
  | nil =>
    rw [uptoClear_concat_clear]
    exact length_boxes_append_le calls [.clear]
  | append_singleton more call ih =>
    rw [← List.cons_append, ← List.append_assoc]
    cases call with
    | clear =>
      rw [uptoClear_concat_clear, List.append_assoc]
      exact length_boxes_append_le ..
    | render intent options =>
      have hupto : uptoClear (calls ++ .clear :: more ++ [.render intent options]) =
          uptoClear (calls ++ .clear :: more) := List.rdropWhile_concat_pos _ _ _ rfl
      rw [hupto]
      exact ih

theorem lasts_of_persistent {box : Box} (persistent : box.persistent = true) (calls : List Call) :
    lasts calls box = true :=
  Bool.or_eq_true_iff.mpr (.inl persistent)

theorem lasts_eq_false {calls : List Call} {box : Box} (rendered : box ∈ boxes calls)
    (fleeting : box.persistent = false) (more : List Call) :
    lasts (calls ++ .clear :: more) box = false := by
  have hle := handle_le_of_mem_boxes rendered
  have hcleared := length_boxes_le_uptoClear calls more
  unfold lasts
  rw [fleeting, Bool.false_or]
  exact decide_eq_false (by omega)

/-- **What is on a board is determined by the calls that it got.**  No call fails, and a call that
renders is answered with the number of its box.  The history holds every box once, in order and numbered
from one; the visible boxes are those of them that persist or were rendered after the last clear; the
last of these is the current box; and every clear is counted.  So a persistent box is visible ever
after, and any other box is gone with the first clear for good. -/
theorem run_determined (calls : List Call) (mapped : ∀ call ∈ calls, call.Mapped) :
    (run calls {}).1 = (handlesFrom 0 calls).map .ok ∧
    (run calls {}).2.history = boxes calls ∧
    (boxes calls).map Box.handle = List.range' 1 (boxes calls).length ∧
    (run calls {}).2.visible = (boxes calls).filter (lasts calls) ∧
    (run calls {}).2.current? = ((boxes calls).filter (lasts calls)).getLast? ∧
    (run calls {}).2.clears = calls.count .clear ∧
    (∀ before after, calls = before ++ after → ∀ box ∈ (run before {}).2.history,
      box.persistent = true → box ∈ (run calls {}).2.visible) ∧
    (∀ before after, calls = before ++ .clear :: after → ∀ box ∈ (run before {}).2.history,
      box.persistent = false → box ∉ (run calls {}).2.visible) := by
  obtain ⟨hanswers, htells⟩ := Tells.nil.run mapped
  rw [List.nil_append] at htells
  have hhistory : ∀ before after, calls = before ++ after →
      (run before {}).2.history = boxes before := by
    intro before after hsplit
    have hmapped : ∀ call ∈ before, call.Mapped := fun call hm =>
      mapped call (hsplit ▸ List.mem_append_left _ hm)
    exact (Tells.nil.run hmapped).2.history
  refine ⟨hanswers, htells.history, map_handle_boxes calls, htells.visible, ?_, htells.clears,
    ?_, ?_⟩
  · unfold current?
    rw [htells.visible]
  · intro before after hsplit box hbox hpersistent
    rw [hhistory before after hsplit] at hbox
    rw [htells.visible, List.mem_filter]
    exact ⟨hsplit ▸ mem_boxes_append hbox after, lasts_of_persistent hpersistent calls⟩
  · intro before after hsplit box hbox hfleeting hvisible
    rw [hhistory before _ hsplit] at hbox
    rw [htells.visible, List.mem_filter, hsplit, lasts_eq_false hbox hfleeting after] at hvisible
    exact Bool.false_ne_true hvisible.2

/-- A note that persists outlives two clears; of the other lines only the one after them is left. -/
theorem run_determined_note :
    let note : Call := .render (.ofText (.text "Note")) (.ofTable [("persistent", .flag true)])
    let line (text : String) : Call := .render (.ofText (.text text)) (.ofTable [])
    let calls := [line "One", note, .clear, line "Two", .clear, line "Three"]
    (∀ call ∈ calls, call.Mapped) ∧ (run calls {}).2.visible.map Box.handle = [2, 4] ∧
      (run calls {}).2.clears = 2 ∧ (run calls {}).2.history = boxes calls ∧
      (run calls {}).2.visible = (boxes calls).filter (lasts calls) := by
  intro note line calls
  have mapped : ∀ call ∈ calls, call.Mapped := by decide
  obtain ⟨-, hhistory, -, hvisible, -, hclears, -⟩ := run_determined calls mapped
  refine ⟨mapped, ?_, hclears, hhistory, hvisible⟩
  rw [hvisible]
  decide

end Board

end Dialogue
