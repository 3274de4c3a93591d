import Dialogue.Number.Double

/-!
# Shortest decimals

A double-precision number stands for every real number that rounds to it.  Its decimal is the one
with the fewest digits among those real numbers; of two decimals with equally many digits the
nearer one, and of two that are equally near the one with the even last digit.

All comparisons are made between whole numbers: a number and the ends of what it stands for are
counted in units so small that each of them is a whole number of units.
-/

set_option autoImplicit false

namespace Dialogue.Double

/-- A unit is `10 ^ (-places)`. -/
def places : Nat := 1076

/-- The number of units in a quarter of the smallest positive number. -/
def quarter : Nat := power 5 places

/-- The number of units in `n / 4 * 2 ^ exponent`. -/
def units (n : Nat) (exponent : Int) : Nat :=
  n * power 2 (exponent - leastExponent).toNat * quarter

/-- The reals that round to a number, from the one end to the other in units.  The ends belong to
them when the mantissa is even. -/
structure Span where
  low : Nat
  high : Nat
  closed : Bool
deriving DecidableEq, Repr

/-- The reals that round to a positive number.  Below a power of two they reach only half as far,
except at the smallest exponent. -/
def span (m : Nat) (exponent : Int) : Span where
  low := units (if m = power 2 52 ∧ leastExponent < exponent then 4 * m - 1 else 4 * m - 2) exponent
  high := units (4 * m + 2) exponent
  closed := m % 2 = 0

/-- Does this number of units lie in the span? -/
def Span.has (s : Span) (n : Nat) : Bool :=
  if s.closed then s.low ≤ n && n ≤ s.high else s.low < n && n < s.high

/-- Which of the two multiples of a step around a number of units lies in the span: the lower
one, the upper one, or of both the nearer one. -/
def Span.multiple? (s : Span) (value step : Nat) : Option Nat :=
  let d := value / step
  match s.has (d * step), s.has ((d + 1) * step) with
  | true, true =>
    if 2 * value < (2 * d + 1) * step then some d
    else if (2 * d + 1) * step < 2 * value then some (d + 1)
    else if d % 2 = 0 then some d else some (d + 1)
  | true, false => some d
  | false, true => some (d + 1)
  | false, false => none

/-- The digits of the shortest decimal of a positive number, and the power of ten that they
count.  Seventeen digits are always enough. -/
def shortest (m : Nat) (exponent : Int) : Nat × Int :=
  let value := units (4 * m) exponent
  let size := (toString value).length
  let found := (List.range 17).findSome? fun n =>
    ((span m exponent).multiple? value (power 10 (size - 1 - n))).map fun d =>
      (d, (size - 1 - n : Nat) - (places : Int))
  found.getD (value, -places)

end Dialogue.Double
