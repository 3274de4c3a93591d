import Dialogue.Text.Hex

/-!
# Quoted text in JSON

How a text stands between quotes in a JSON document.  Written text keeps to printable ASCII:
every other character is written by the number of its code unit, or by two units when it lies
beyond the first 65536 characters.  Reading takes either spelling.
-/

set_option autoImplicit false

namespace Dialogue.Json

open Text (hexUnit hexUnit?)

/-! ## Writing -/

/-- A code unit, written by its number. -/
def escapeUnit (n : Nat) : List Char :=
  '\\' :: 'u' :: hexUnit n

/-- One character between quotes. -/
def escapeChar (c : Char) : List Char :=
  if c = '"' then ['\\', '"']
  else if c = '\\' then ['\\', '\\']
  else if c = '\n' then ['\\', 'n']
  else if c = '\r' then ['\\', 'r']
  else if c = '\t' then ['\\', 't']
  else if c = '\x08' then ['\\', 'b']
  else if c = '\x0c' then ['\\', 'f']
  else if 0x20 ≤ c.toNat ∧ c.toNat ≤ 0x7e then [c]
  else if c.toNat < 0x10000 then escapeUnit c.toNat
  else
    escapeUnit (0xd800 + (c.toNat - 0x10000) / 0x400) ++
      escapeUnit (0xdc00 + (c.toNat - 0x10000) % 0x400)

/-- A text between quotes. -/
def quote (s : String) : String :=
  String.ofList ('"' :: s.toList.flatMap escapeChar ++ ['"'])

/-! ## Reading -/

/-- The characters that a backslash and one letter stand for. -/
def shortEscape? : Char → Option Char
  | '"' => some '"'
  | '\\' => some '\\'
  | '/' => some '/'
  | 'b' => some '\x08'
  | 'f' => some '\x0c'
  | 'n' => some '\n'
  | 'r' => some '\r'
  | 't' => some '\t'
  | _ => none

/-- Is this code unit the first half of a pair? -/
def isHighHalf (n : Nat) : Bool :=
  0xd800 ≤ n && n < 0xdc00

/-- Is this code unit the second half of a pair? -/
def isLowHalf (n : Nat) : Bool :=
  0xdc00 ≤ n && n < 0xe000

/-- The character of a code unit that stands alone.  A lone half of a pair is no character, and
the replacement character stands in for it. -/
def loneUnit (n : Nat) : Char :=
  if isHighHalf n || isLowHalf n then '\ufffd' else Char.ofNat n

/-- The characters that a row of code units and whole characters makes: two halves that follow
one another make one character. -/
def joinHalves : List Nat → List Char
  | [] => []
  | [n] => [loneUnit n]
  | n :: m :: rest =>
    if isHighHalf n && isLowHalf m then
      Char.ofNat (0x10000 + (n - 0xd800) * 0x400 + (m - 0xdc00)) :: joinHalves rest
    else loneUnit n :: joinHalves (m :: rest)

/-- Read up to the closing quote: the numbers of the characters and code units that stand there,
and what follows.  Control characters must not stand in the text as they are. -/
def unquoteUnits? : List Char → Option (List Nat × List Char)
  | [] => none
  | '"' :: rest => some ([], rest)
  | '\\' :: 'u' :: a :: b :: c :: d :: rest =>
    match hexUnit? a b c d, unquoteUnits? rest with
    | some n, some (units, rest) => some (n :: units, rest)
    | _, _ => none
  | '\\' :: c :: rest =>
    match shortEscape? c, unquoteUnits? rest with
    | some e, some (units, rest) => some (e.toNat :: units, rest)
    | _, _ => none
  | c :: rest =>
    if c.toNat < 0x20 || c = '\\' then none
    else (unquoteUnits? rest).map fun p => (c.toNat :: p.1, p.2)

/-- Read up to the closing quote: the text meant, and what follows. -/
def unquote? (cs : List Char) : Option (String × List Char) :=
  (unquoteUnits? cs).map fun p => (String.ofList (joinHalves p.1), p.2)

end Dialogue.Json
