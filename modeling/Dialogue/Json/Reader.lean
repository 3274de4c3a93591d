import Dialogue.Fault
import Dialogue.Json.Escape

/-!
# Reading JSON

A JSON document becomes a value: objects keep the order in which their keys first come, and of
several entries under one key the last counts.  Whole numbers are kept exactly, other numbers become
the nearest double-precision number.  Beyond the standard, `NaN`, `Infinity` and `-Infinity` are
numbers.

A document is read from its start to its end, and the first thing that is wrong with it counts:
whole numbers with too many digits and lists within lists that are too deep are told apart from
what is no JSON.
-/

set_option autoImplicit false

namespace Dialogue.Json

/-! ## Numbers -/

/-- The characters that may stand between the parts of a document. -/
def isSpace (c : Char) : Bool :=
  c = ' ' || c = '\t' || c = '\n' || c = '\r'

/-- What follows the space at the front. -/
def skipSpace (cs : List Char) : List Char :=
  cs.dropWhile isSpace

/-- A decimal digit. -/
def isDigit (c : Char) : Bool :=
  '0' ≤ c && c ≤ '9'

/-- The number that a row of digits stands for. -/
def ofDigits (ds : List Char) : Nat :=
  ds.foldl (fun n c => n * 10 + (c.toNat - 48)) 0

/-- The digits after a point, when a point and a digit come next. -/
def fraction? : List Char → Option (List Char × List Char)
  | '.' :: rest =>
    if (rest.takeWhile isDigit).isEmpty then none
    else some (rest.takeWhile isDigit, rest.dropWhile isDigit)
  | _ => none

/-- The exponent, when a mark and a digit come next. -/
def exponent? : List Char → Option (Int × List Char)
  | m :: rest =>
    if m = 'e' || m = 'E' then
      match rest with
      | '-' :: ds => digits ds (fun n => -(n : Int))
      | '+' :: ds => digits ds (fun n => (n : Int))
      | ds => digits ds (fun n => (n : Int))
    else none
  | [] => none
where
  /-- The exponent that a row of digits gives. -/
  digits (ds : List Char) (sign : Nat → Int) : Option (Int × List Char) :=
    if (ds.takeWhile isDigit).isEmpty then none
    else some (sign (ofDigits (ds.takeWhile isDigit)), ds.dropWhile isDigit)

/-- The most digits that a whole number may have. -/
def mostDigits : Nat := 4300

/-- A whole number from its digits. -/
def whole (negative : Bool) (ds : List Char) : Except Fault Value :=
  if mostDigits < ds.length then .error (.tooManyDigits ds.length)
  else
    let n : Int := ofDigits ds
    .ok (.int (if negative then -n else n))

/-- A number without its sign: digits without a leading zero, then perhaps a fraction, then
perhaps an exponent. -/
def magnitude (negative : Bool) (cs : List Char) : Except Fault (Value × List Char) :=
  match cs with
  | [] => .error .notJson
  | c :: rest =>
    if isDigit c then
      let ds := if c = '0' then ['0'] else c :: rest.takeWhile isDigit
      let rest := if c = '0' then rest else rest.dropWhile isDigit
      match fraction? rest, exponent? ((fraction? rest).elim rest Prod.snd) with
      | none, none => (whole negative ds).map fun v => (v, rest)
      | none, some (e, rest) => .ok (.double (.ofDecimal negative (ofDigits ds) e), rest)
      | some (fs, rest), none =>
        .ok (.double (.ofDecimal negative (ofDigits (ds ++ fs)) (-fs.length)), rest)
      | some (fs, _), some (e, rest) =>
        .ok (.double (.ofDecimal negative (ofDigits (ds ++ fs)) (e - fs.length)), rest)
    else .error .notJson

/-! ## Documents -/

/-- What follows a fixed word, when it comes next. -/
def word? (w : String) (cs : List Char) : Option (List Char) :=
  if w.toList.isPrefixOf cs then some (cs.drop w.length) else none

/-- The constants of the format. -/
def constants : List (String × Value) :=
  [("null", .null), ("true", .flag true), ("false", .flag false),
   ("NaN", .double .undefined), ("Infinity", .double (.infinite false)),
   ("-Infinity", .double (.infinite true))]

/-- A constant or a number. -/
def scalar (cs : List Char) : Except Fault (Value × List Char) :=
  match constants.findSome? (fun e => (word? e.1 cs).map fun rest => (e.2, rest)) with
  | some found => .ok found
  | none =>
    match cs with
    | '-' :: rest => magnitude true rest
    | _ => magnitude false cs

/-- A text, after its opening quote. -/
def quotedText (cs : List Char) : Except Fault (String × List Char) :=
  match unquote? cs with
  | some found => .ok found
  | none => .error .notJson

/-- How many lists and objects may be open at once.  This is no constant of the program: a reader that
calls itself for each of them gives up where its stack ends, and so many fit on a stack of the usual
size. -/
def mostLevels : Nat := 987

mutual

/-- Read one value.  The first argument bounds the number of parts, the second one is the number
of lists and objects that may still be opened. -/
def readValue : Nat → Nat → List Char → Except Fault (Value × List Char)
  | 0, _, _ => .error .notJson
  | _ + 1, _, '"' :: rest => (quotedText rest).map fun p => (.text p.1, p.2)
  | _ + 1, 0, '[' :: _ => .error (.tooDeep "array")
  | n + 1, levels + 1, '[' :: rest =>
    match skipSpace rest with
    | ']' :: rest => .ok (.ofList [], rest)
    | cs => (readItems n levels cs).map fun p => (.ofList p.1, p.2)
  | _ + 1, 0, '\x7b' :: _ => .error (.tooDeep "object")
  | n + 1, levels + 1, '\x7b' :: rest =>
    match skipSpace rest with
    | '\x7d' :: rest => .ok (.ofTable [], rest)
    | cs => (readEntries n levels cs).map fun p => (.ofTable (Table.ofEntries p.1), p.2)
  | _ + 1, _, cs => scalar cs

/-- Read the items of a list, at least one, and the bracket that closes it. -/
def readItems : Nat → Nat → List Char → Except Fault (List Value × List Char)
  | 0, _, _ => .error .notJson
  | n + 1, levels, cs => do
    let (v, rest) ← readValue n levels cs
    match skipSpace rest with
    | ']' :: rest => return ([v], rest)
    | ',' :: rest =>
      let (vs, rest) ← readItems n levels (skipSpace rest)
      return (v :: vs, rest)
    | _ => throw .notJson

/-- Read the entries of an object, at least one, and the brace that closes it. -/
def readEntries : Nat → Nat → List Char → Except Fault (List (String × Value) × List Char)
  | n + 1, levels, '"' :: rest => do
    let (key, rest) ← quotedText rest
    match skipSpace rest with
    | ':' :: rest =>
      let (v, rest) ← readValue n levels (skipSpace rest)
      match skipSpace rest with
      | '\x7d' :: rest => return ([(key, v)], rest)
      | ',' :: rest =>
        let (es, rest) ← readEntries n levels (skipSpace rest)
        return ((key, v) :: es, rest)
      | _ => throw .notJson
    | _ => throw .notJson
  | _, _, _ => .error .notJson

end

/-- The value that a document holds. -/
def read (s : String) : Except Fault Value := do
  let (v, rest) ← readValue (2 * s.length + 2) mostLevels (skipSpace s.toList)
  if (skipSpace rest).isEmpty then return v else throw .notJson

end Dialogue.Json
