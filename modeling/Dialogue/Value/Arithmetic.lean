import Dialogue.Fault

/-!
# Calculating with values

Options are values, and boxes are placed by calculating with options.  Whole numbers are calculated
with exactly; as soon as a number with a fraction takes part, both are rounded to double precision.
Truth values count as zero and one.  Texts and lists can be added too, which appends them; nothing
else can be calculated with.

## Results

* `Value.plus_int`, `Value.minus_int`, `Value.twice_int`, `Value.halfDown_int` — on whole numbers these
  are the sum, the difference, the double and the quotient by two.
-/

set_option autoImplicit false

namespace Dialogue

/-- A number that can be calculated with. -/
inductive Number where
  | int (n : Int)
  | double (d : Double)
deriving DecidableEq, Repr

namespace Number

/-- The number as a value. -/
def toValue : Number → Value
  | .int n => .int n
  | .double d => .double d

/-- The number in double precision.  A whole number can be too large for it. -/
def toDouble : Number → Except Fault Double
  | .double d => .ok d
  | .int n =>
    match Double.ofInt n with
    | .infinite _ => .error .tooLarge
    | d => .ok d

/-- Combine two numbers: exactly when both are whole, in double precision otherwise. -/
def combine (onInt : Int → Int → Int) (onDouble : Double → Double → Double) :
    Number → Number → Except Fault Number
  | .int m, .int n => .ok (.int (onInt m n))
  | a, b => do return .double (onDouble (← a.toDouble) (← b.toDouble))

end Number

namespace Value

/-- The number that a value is. -/
def number? : Value → Option Number
  | .int n => some (.int n)
  | .flag b => some (.int (if b then 1 else 0))
  | .double d => some (.double d)
  | _ => none

/-- The sum of two values: of numbers, or one text or list after another one of its form. -/
def plus (a b : Value) : Except Fault Value :=
  match a.number?, b.number? with
  | some m, some n => (Number.combine (· + ·) Double.add m n).map Number.toValue
  | _, _ =>
    match a, b with
    | .text s, .text t => .ok (.text (s ++ t))
    | .list .own vs, .list .own ws => .ok (.list .own (vs ++ ws))
    | .list .foreign vs, .list .foreign ws => .ok (.list .foreign (vs ++ ws))
    | .text _, b | .list _ _, b => .error (.cannotAppend a.typeName b.typeName)
    | a, b => .error (.badOperands "+" a.typeName b.typeName)

/-- The difference of two values, which must be numbers. -/
def minus (a b : Value) : Except Fault Value :=
  match a.number?, b.number? with
  | some m, some n => (Number.combine (· - ·) Double.sub m n).map Number.toValue
  | _, _ => .error (.badOperands "-" a.typeName b.typeName)

/-- Twice a value: of a number, or a text or list after itself. -/
def doubled? (v : Value) : Option Value :=
  match v.number?, v with
  | some (.int n), _ => some (.int (2 * n))
  | some (.double d), _ => some (.double (d.add d))
  | none, .text s => some (.text (s ++ s))
  | none, .list f vs => some (.list f (vs ++ vs))
  | none, _ => none

/-- The product of two and a value. -/
def twice (v : Value) : Except Fault Value :=
  match v.doubled? with
  | some w => .ok w
  | none => .error (.badOperands "*" "int" v.typeName)

/-- The product of a value and two. -/
def byTwo (v : Value) : Except Fault Value :=
  match v.doubled? with
  | some w => .ok w
  | none => .error (.badOperands "*" v.typeName "int")

/-- Half of a value, rounded down, which must be a number. -/
def halfDown (v : Value) : Except Fault Value :=
  match v.number? with
  | some (.int n) => .ok (.int (n / 2))
  | some (.double d) => .ok (.double d.halfDown)
  | none => .error (.badOperands "//" v.typeName "int")

/-! ## Whole numbers -/

theorem plus_int (m n : Int) : plus (.int m) (.int n) = .ok (.int (m + n)) := rfl

theorem minus_int (m n : Int) : minus (.int m) (.int n) = .ok (.int (m - n)) := rfl

theorem twice_int (n : Int) : twice (.int n) = .ok (.int (2 * n)) := rfl

theorem byTwo_int (n : Int) : byTwo (.int n) = .ok (.int (2 * n)) := rfl

theorem halfDown_int (n : Int) : halfDown (.int n) = .ok (.int (n / 2)) := rfl

end Value

end Dialogue
