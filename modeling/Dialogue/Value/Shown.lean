import Dialogue.Number.Shortest
import Dialogue.Text.Quoted
import Dialogue.Value.Basic

/-!
# Values in messages

How a value is shown when a message names it.
-/

set_option autoImplicit false

namespace Dialogue

/-! ## Numbers with a fraction -/

/-- The digits of a number without the zeros at their end, and how many of these were dropped. -/
def dropZeros (ds : List Char) : List Char × Nat :=
  let kept := (ds.reverse.dropWhile (· = '0')).reverse
  (kept, ds.length - kept.length)

/-- The digits of a number with the decimal point after the first `point` of them. -/
def placePoint (ds : List Char) (point : Int) : List Char :=
  if point ≤ 0 then
    '0' :: '.' :: (List.replicate (-point).toNat '0' ++ ds)
  else if point < ds.length then
    ds.take point.toNat ++ '.' :: ds.drop point.toNat
  else
    ds ++ List.replicate (point.toNat - ds.length) '0' ++ ['.', '0']

/-- The digits of a number with one digit before the point and the exponent after them, in two
digits at least. -/
def placeExponent (ds : List Char) (exponent : Int) : List Char :=
  let size := (toString exponent.natAbs).toList
  ds.take 1 ++ (if ds.length ≤ 1 then [] else '.' :: ds.drop 1) ++
    'e' :: (if exponent < 0 then '-' else '+') ::
      (if size.length < 2 then '0' :: size else size)

/-- A number in messages: by the digits of its shortest decimal, with a point from a ten-thousandth
up to sixteen digits and with an exponent otherwise. -/
def Double.shown : Double → String
  | .undefined => "nan"
  | .infinite negative => if negative then "-inf" else "inf"
  | .finite negative m e =>
    let (digits, exponent) := if m = 0 then (0, 0) else Double.shortest m e
    let (ds, dropped) := dropZeros (toString digits).toList
    let body :=
      if ds.isEmpty then ['0', '.', '0']
      else
        let point : Int := ds.length + dropped + exponent
        if -4 < point ∧ point ≤ 16 then placePoint ds point else placeExponent ds (point - 1)
    String.ofList (if negative then '-' :: body else body)

/-! ## Values -/

namespace Value

mutual

/-- A value in messages. -/
def shown : Value → String
  | .null => "None"
  | .flag b => if b then "True" else "False"
  | .int n => toString n
  | .double d => d.shown
  | .text s => Text.quoted s
  | .list .own items => "[" ++ ", ".intercalate (shownItems items) ++ "]"
  | .list .foreign [item] => "(" ++ shown item ++ ",)"
  | .list .foreign items => "(" ++ ", ".intercalate (shownItems items) ++ ")"
  | .tree _ entries => "\x7b" ++ ", ".intercalate (shownEntries entries) ++ "\x7d"
  | .choice statement extra =>
    "ChoiceStatement(" ++
      ", ".intercalate (("statement=" ++ Text.quoted statement) :: shownFields extra) ++ ")"

/-- The items of a list, shown one by one. -/
def shownItems : List Value → List String
  | [] => []
  | v :: rest => shown v :: shownItems rest

/-- The entries of a mapping, shown one by one. -/
def shownEntries : List (String × Value) → List String
  | [] => []
  | (k, v) :: rest => (Text.quoted k ++ ": " ++ shown v) :: shownEntries rest

/-- The fields of a structured statement, shown one by one. -/
def shownFields : List (String × Value) → List String
  | [] => []
  | (k, v) :: rest => (k ++ "=" ++ shown v) :: shownFields rest

end

/-- A value as plain text: a text says what it is, all else is shown. -/
def plain : Value → String
  | .text s => s
  | v => v.shown

end Value

end Dialogue
