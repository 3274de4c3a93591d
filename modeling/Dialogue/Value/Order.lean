import Dialogue.Value.Arithmetic

/-!
# Comparing values

Numbers are compared exactly, a whole number with a fraction too, and truth values count as zero and
one.  Texts are compared character by character.  Of two lists the first items that differ decide;
where all of them are equal, the longer list is the greater one.  Nothing else can be compared.

## Results

* `Number.compare?_int` — whole numbers are compared as such.
* `Value.exceeds_int` — a whole number exceeds another one just when it is greater.
-/

set_option autoImplicit false

namespace Dialogue

namespace Number

/-- The mantissa and the exponent of a number that is finite. -/
def parts? : Number → Option (Int × Int)
  | .int n => some (n, 0)
  | .double (.finite s m e) => some (Double.signed s m, e)
  | .double _ => none

/-- The side of all finite numbers on which a number lies. -/
def side : Number → Int
  | .double (.infinite negative) => if negative then -1 else 1
  | _ => 0

/-- Compare two numbers.  What is no number at all is neither less nor equal nor greater. -/
def compare? (a b : Number) : Option Ordering :=
  match a.parts?, b.parts? with
  | some (m, e), some (n, f) =>
    let g := min e f
    some (compare (m * (Double.power 2 (e - g).toNat : Nat))
      (n * (Double.power 2 (f - g).toNat : Nat)))
  | _, _ =>
    if a = .double .undefined ∨ b = .double .undefined then none
    else some (compare a.side b.side)

theorem compare?_int (m n : Int) : compare? (.int m) (.int n) = some (compare m n) := by
  simp [compare?, parts?, Double.power]

end Number

namespace Value

mutual

/-- Are two values equal?  Numbers are equal by what they amount to. -/
def equals : Value → Value → Bool
  | .null, .null => true
  | .text s, .text t => s == t
  | .list f as, .list g bs => decide (f = g) && equalsItems as bs
  | .tree _ as, .tree _ bs => equalsEntries as bs
  | .choice s as, .choice t bs => s == t && equalsEntries as bs
  | a, b =>
    match a.number?, b.number? with
    | some m, some n => m.compare? n == some .eq
    | _, _ => false
termination_by structural v => v

/-- Are two lists of values equal, one by one? -/
def equalsItems : List Value → List Value → Bool
  | [], [] => true
  | a :: as, b :: bs => equals a b && equalsItems as bs
  | _, _ => false
termination_by structural vs => vs

/-- Are two lists of entries equal, one by one? -/
def equalsEntries : List (String × Value) → List (String × Value) → Bool
  | [], [] => true
  | (k, a) :: as, (l, b) :: bs => k == l && equals a b && equalsEntries as bs
  | _, _ => false
termination_by structural es => es

end

mutual

/-- Is the first value greater than the second one? -/
def exceeds : Value → Value → Except Fault Bool
  | .text s, .text t => .ok (decide (t < s))
  | .list .own as, .list .own bs => exceedsItems as bs
  | .list .foreign as, .list .foreign bs => exceedsItems as bs
  | a, b =>
    match a.number?, b.number? with
    | some m, some n => .ok (m.compare? n == some .gt)
    | _, _ => .error (.notComparable a.typeName b.typeName)
termination_by structural v => v

/-- Is the first list of values greater than the second one? -/
def exceedsItems : List Value → List Value → Except Fault Bool
  | [], _ => .ok false
  | _ :: _, [] => .ok true
  | a :: as, b :: bs => if equals a b then exceedsItems as bs else exceeds a b
termination_by structural vs => vs

end

theorem exceeds_int (m n : Int) : exceeds (.int m) (.int n) = .ok (decide (n < m)) := by
  have h : (compare m n == Ordering.gt) = decide (n < m) := by
    rw [Bool.eq_iff_iff]
    simp [Int.compare_eq_gt]
  simp [exceeds, number?, Number.compare?_int, h]

end Value

end Dialogue
