/-!
# Double-precision numbers

A number with a fraction has at most 53 binary digits and an exponent within bounds.  An operation
takes the exact result and rounds it to the nearest such number; of two that are equally near the
one with the even mantissa is taken.  What is too large becomes infinite.
-/

set_option autoImplicit false

namespace Dialogue

/-- A number with a fraction: `mantissa * 2 ^ exponent` with a sign, an infinity, or no number at
all. -/
inductive Double where
  | finite (negative : Bool) (mantissa : Nat) (exponent : Int)
  | infinite (negative : Bool)
  | undefined
deriving DecidableEq, Repr

namespace Double

/-! ## Rounding -/

/-- A power of a whole number. -/
def power (base exponent : Nat) : Nat :=
  Nat.pow base exponent

/-- The smallest exponent that a mantissa can have. -/
def leastExponent : Int := -1074

/-- The largest exponent that a mantissa can have. -/
def greatestExponent : Int := 971

/-- Zero, with a sign. -/
def zero (negative : Bool) : Double :=
  .finite negative 0 leastExponent

/-- The whole number that is nearest to a quotient; of two that are equally near the even one. -/
def nearest (num den : Nat) : Nat :=
  let q := num / den
  let r := num % den
  if 2 * r < den then q
  else if den < 2 * r then q + 1
  else if q % 2 = 0 then q else q + 1

/-- The exponent of the leading binary digit of a quotient of positive numbers. -/
def leading (num den : Nat) : Int :=
  let e : Int := (num.log2 : Int) - den.log2
  if den * power 2 e.toNat ≤ num * power 2 (-e).toNat then e else e - 1

/-- The number that is nearest to a quotient. -/
def ofQuotient (negative : Bool) (num den : Nat) : Double :=
  if num = 0 then zero negative
  else
    let e := max (leading num den - 52) leastExponent
    let m := nearest (num * power 2 (-e).toNat) (den * power 2 e.toNat)
    let (m, e) := if m = power 2 53 then (power 2 52, e + 1) else (m, e)
    if greatestExponent < e then .infinite negative else .finite negative m e

/-- The number that is nearest to a whole number. -/
def ofInt (n : Int) : Double :=
  ofQuotient (n < 0) n.natAbs 1

/-- The number that is nearest to `digits * 10 ^ exponent`.  What lies far beyond all numbers is
told by the place of its first digit. -/
def ofDecimal (negative : Bool) (digits : Nat) (exponent : Int) : Double :=
  let place : Int := (toString digits).length + exponent
  if digits = 0 || place < -330 then zero negative
  else if 310 < place then .infinite negative
  else ofQuotient negative (digits * power 10 exponent.toNat) (power 10 (-exponent).toNat)

/-! ## Arithmetic -/

/-- Is this a number that differs from zero? -/
def nonzero : Double → Bool
  | .finite _ m _ => m != 0
  | _ => true

/-- A mantissa with its sign. -/
def signed (negative : Bool) (m : Nat) : Int :=
  if negative then -(m : Int) else m

/-- The number with the other sign. -/
def neg : Double → Double
  | .finite s m e => .finite (!s) m e
  | .infinite s => .infinite (!s)
  | .undefined => .undefined

/-- The sum of two numbers.  A sum of nothing is negative only when both numbers are. -/
def add : Double → Double → Double
  | .finite s m e, .finite t n f =>
    let g := min e f
    let total := signed s (m * power 2 (e - g).toNat) + signed t (n * power 2 (f - g).toNat)
    if total = 0 then zero (s && t)
    else ofQuotient (total < 0) (total.natAbs * power 2 g.toNat) (power 2 (-g).toNat)
  | .infinite s, .infinite t => if s = t then .infinite s else .undefined
  | .undefined, _ | _, .undefined => .undefined
  | .infinite s, .finite .. => .infinite s
  | .finite .., .infinite t => .infinite t

/-- The difference of two numbers. -/
def sub (x y : Double) : Double :=
  add x (neg y)

/-- Half of a number, rounded down to a whole number. -/
def halfDown : Double → Double
  | .finite s m e =>
    let n := signed s (m * power 2 e.toNat) / (2 * power 2 (-e).toNat : Nat)
    if n = 0 then zero s else ofInt n
  | _ => .undefined

/-- The whole part of a number. -/
def truncated (negative : Bool) (m : Nat) (e : Int) : Int :=
  signed negative (m * power 2 e.toNat / power 2 (-e).toNat)

end Double

end Dialogue
