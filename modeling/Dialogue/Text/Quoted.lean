import Dialogue.Text.Printable
import Dialogue.Text.Hex

/-!
# Quoted text in messages

Messages show a name between quotes: single ones, unless the name holds a single quote and no
double one.  What is not printable is shown by its number.
-/

set_option autoImplicit false

namespace Dialogue.Text

/-- The quote put around a text. -/
def quoteFor (cs : List Char) : Char :=
  if cs.contains '\'' && !cs.contains '"' then '"' else '\''

/-- A code point in as many hexadecimal digits as the mark before it announces. -/
def numbered (n : Nat) : List Char :=
  if n < 0x100 then
    ['\\', 'x', hexDigit (n / 16), hexDigit (n % 16)]
  else if n < 0x10000 then
    '\\' :: 'u' :: hexUnit n
  else
    '\\' :: 'U' :: (hexUnit (n / 0x10000) ++ hexUnit n)

/-- One character between quotes. -/
def quotedChar (quote c : Char) : List Char :=
  if c = quote || c = '\\' then ['\\', c]
  else if c = '\n' then ['\\', 'n']
  else if c = '\r' then ['\\', 'r']
  else if c = '\t' then ['\\', 't']
  else if isPrintable c then [c]
  else numbered c.toNat

/-- A text between quotes. -/
def quoted (s : String) : String :=
  let quote := quoteFor s.toList
  String.ofList (quote :: s.toList.flatMap (quotedChar quote) ++ [quote])

end Dialogue.Text
