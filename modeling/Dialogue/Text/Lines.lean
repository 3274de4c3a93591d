/-!
# Lines

Where a text breaks into lines, and the one line break that files are read with.
-/

set_option autoImplicit false

namespace Dialogue.Text

/-- The code points that end a line. -/
def breaks : List Nat :=
  [0x0a, 0x0b, 0x0c, 0x0d, 0x1c, 0x1d, 0x1e, 0x85, 0x2028, 0x2029]

/-- Does this character end a line? -/
def isBreak (c : Char) : Bool :=
  breaks.contains c.toNat

/-- The lines of a text.  A carriage return and the line feed after it end one line; a break at
the very end starts no further line. -/
def lines : List Char → List (List Char)
  | [] => []
  | '\r' :: '\n' :: rest => [] :: lines rest
  | c :: rest =>
    if isBreak c then [] :: lines rest
    else
      match lines rest with
      | [] => [[c]]
      | l :: ls => (c :: l) :: ls

/-- A text as files are read: a carriage return, with the line feed after it if there is one,
counts as a line feed. -/
def feedBreaks : List Char → List Char
  | [] => []
  | '\r' :: '\n' :: rest => '\n' :: feedBreaks rest
  | c :: rest => (if c = '\r' then '\n' else c) :: feedBreaks rest

end Dialogue.Text
