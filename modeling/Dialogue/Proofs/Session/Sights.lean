import Dialogue.Proofs.Session.Boxes

/-!
# What a journal tells of a board

A journal tells of each time that a board was cleared and of each box that was put on it, with all that
was handed in to be shown there, and of the notices that an observer saw.  A box that was the answer to a request was shown for a text of its own;
all others were shown for the line of a statement.

## Results

* `sights_snoc`, `sights_own`, `sights_silent` — what a journal tells of the board when something is
  added to it.
-/

set_option autoImplicit false

namespace Dialogue

/-- What is seen of a board as a dialogue goes on: it is cleared, or something is put into a box on
it. -/
inductive Sight where
  | cleared
  | boxed (handle : Nat) (intent : Intent)
deriving DecidableEq, Repr

namespace Occurrence

/-- The box that this entry says was the answer to a request. -/
def ownBox? : Occurrence .board → Option Nat
  | .replied reply => reply.ownBox?
  | _ => none

/-- The box that this entry tells of. -/
def box? : Occurrence .board → Option Nat
  | .rendered handle _ _ => some handle
  | o => o.ownBox?

/-- What this entry tells of the board, if these boxes were shown for texts of their own. -/
def sight? (own : List Nat) : Occurrence .board → Option Sight
  | .cleared _ => some .cleared
  | .rendered handle intent _ => if handle ∈ own then none else some (.boxed handle intent)
  | _ => none

/-- The notice of the board that an observer saw. -/
def tiding? : Occurrence .board → Option (Notice Nat)
  | .observed notice => if notice.tellsSurface then some notice else none
  | _ => none

/-- This entry tells nothing of the board, and of no box on it. -/
structure Silent (o : Occurrence .board) : Prop where
  box : o.box? = none
  sight : ∀ own, o.sight? own = none
  tiding : o.tiding? = none

theorem silent_reported (report : Report) : (Occurrence.reported report).Silent :=
  ⟨rfl, fun _ => rfl, rfl⟩

theorem silent_replied {reply : Reply .board} (other : reply.ownBox? = none) :
    (Occurrence.replied reply).Silent :=
  ⟨other, fun _ => rfl, rfl⟩

theorem silent_occurrenceOf (title? : Option Value) (occasion : Occasion .board) :
    (Playing.occurrenceOf title? occasion).Silent := by
  cases occasion <;> exact ⟨rfl, fun _ => rfl, rfl⟩

theorem box?_of_ownBox? {o : Occurrence .board} {n : Nat} (h : o.ownBox? = some n) :
    o.box? = some n := by
  cases o with
  | replied reply => exact h
  | _ => cases h

theorem sight?_congr {o : Occurrence .board} {own other : List Nat}
    (h : ∀ n, o.box? = some n → (n ∈ own ↔ n ∈ other)) : o.sight? own = o.sight? other := by
  cases o with
  | rendered handle intent options =>
    unfold sight?
    simp only [h handle rfl]
  | _ => rfl

end Occurrence

open Occurrence

/-! ## The whole journal -/

/-- The boxes that were shown for texts of their own. -/
def ownBoxes (journal : List (Occurrence .board)) : List Nat :=
  journal.filterMap ownBox?

/-- What a journal tells of a board for the sake of the dialogue: each time that it was cleared, and
each box that the line of a statement was put into. -/
def sights (journal : List (Occurrence .board)) : List Sight :=
  journal.filterMap (sight? (ownBoxes journal))

/-- The notices of the board that an observer saw. -/
def tidings (journal : List (Occurrence .board)) : List (Notice Nat) :=
  journal.filterMap tiding?

variable {journal more : List (Occurrence .board)}

theorem ownBoxes_append (journal more : List (Occurrence .board)) :
    ownBoxes (journal ++ more) = ownBoxes journal ++ ownBoxes more :=
  List.filterMap_append

theorem tidings_append (journal more : List (Occurrence .board)) :
    tidings (journal ++ more) = tidings journal ++ tidings more :=
  List.filterMap_append

/-- What was told before stays told, if boxes that are answered with now were not told of before. -/
theorem sights_append (fresh : ∀ n ∈ ownBoxes more, ∀ o ∈ journal, o.box? ≠ some n) :
    sights (journal ++ more) =
      sights journal ++ more.filterMap (sight? (ownBoxes journal ++ ownBoxes more)) := by
  unfold sights
  rw [ownBoxes_append, List.filterMap_append]
  congr 1
  refine List.filterMap_congr fun o ho => sight?_congr fun n hn => ?_
  constructor
  · intro hm
    rcases List.mem_append.mp hm with hm | hm
    · exact hm
    · exact absurd hn (fresh n hm o ho)
  · exact fun hm => List.mem_append_left _ hm

/-- An entry that is no answer with a box adds what it tells. -/
theorem sights_snoc {o : Occurrence .board} (other : o.ownBox? = none)
    (journal : List (Occurrence .board)) :
    sights (journal ++ [o]) = sights journal ++ (o.sight? (ownBoxes journal)).toList := by
  have hown : ownBoxes [o] = [] := by
    unfold ownBoxes
    rw [List.filterMap_cons_none other, List.filterMap_nil]
  have hone : [o].filterMap (sight? (ownBoxes journal)) = (o.sight? (ownBoxes journal)).toList := by
    cases h : o.sight? (ownBoxes journal) <;> simp [h]
  rw [sights_append (by rw [hown]; intro n hn; cases hn), hown, List.append_nil, hone]

/-- A box that is shown for a text of its own tells nothing of the dialogue. -/
theorem sights_own {n : Nat} (intent : Intent) (options : Value)
    (fresh : ∀ o ∈ journal, o.box? ≠ some n) :
    sights (journal ++ [.rendered n intent options, .replied (.handle (some n))]) =
      sights journal := by
  have hown : ownBoxes [.rendered n intent options, .replied (.handle (some n))] = [n] := rfl
  rw [sights_append (by rw [hown]; intro k hk; exact List.mem_singleton.mp hk ▸ fresh), hown]
  have hnone : sight? (ownBoxes journal ++ [n]) (.rendered n intent options) = none := by
    unfold sight?
    exact if_pos (List.mem_append_right _ (List.mem_singleton_self n))
  rw [List.filterMap_cons_none hnone]
  exact List.append_nil _

/-- Entries that tell nothing of the board add nothing. -/
theorem sights_silent (silent : ∀ o ∈ more, o.Silent) (journal : List (Occurrence .board)) :
    sights (journal ++ more) = sights journal := by
  have hown : ownBoxes more = [] := by
    refine List.filterMap_eq_nil_iff.mpr fun o ho => ?_
    cases h : o.ownBox? with
    | none => rfl
    | some n =>
      have hbox := (silent o ho).box
      rw [box?_of_ownBox? h] at hbox
      cases hbox
  rw [sights_append (by rw [hown]; intro n hn; cases hn)]
  have hnone : more.filterMap (sight? (ownBoxes journal ++ ownBoxes more)) = [] :=
    List.filterMap_eq_nil_iff.mpr fun o ho => (silent o ho).sight _
  rw [hnone, List.append_nil]

theorem tidings_silent (silent : ∀ o ∈ more, o.Silent) (journal : List (Occurrence .board)) :
    tidings (journal ++ more) = tidings journal := by
  have hnone : tidings more = [] :=
    List.filterMap_eq_nil_iff.mpr fun o ho => (silent o ho).tiding
  rw [tidings_append, hnone, List.append_nil]

end Dialogue
