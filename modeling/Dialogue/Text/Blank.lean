/-!
# Blank characters

The characters that separate words, and what is left of a text when they are taken off its ends.
-/

set_option autoImplicit false

namespace Dialogue.Text

/-- The code points of the blank characters. -/
def blanks : List Nat :=
  [0x09, 0x0a, 0x0b, 0x0c, 0x0d, 0x1c, 0x1d, 0x1e, 0x1f, 0x20, 0x85, 0xa0, 0x1680, 0x2000, 0x2001,
   0x2002, 0x2003, 0x2004, 0x2005, 0x2006, 0x2007, 0x2008, 0x2009, 0x200a, 0x2028, 0x2029, 0x202f,
   0x205f, 0x3000]

/-- Is this a blank character? -/
def isBlank (c : Char) : Bool :=
  blanks.contains c.toNat

/-- Is this a character of a word between blanks? -/
def isSolid (c : Char) : Bool :=
  !isBlank c

/-- A text without the blanks at its end. -/
def trimEnd (cs : List Char) : List Char :=
  (cs.reverse.dropWhile isBlank).reverse

/-- A text without the blanks at its ends. -/
def trim (cs : List Char) : List Char :=
  trimEnd (cs.dropWhile isBlank)

end Dialogue.Text
