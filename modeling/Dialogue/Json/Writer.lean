import Dialogue.Json.Escape
import Dialogue.Value.Shown

/-!
# Writing JSON

A value becomes a JSON document that is laid out for people: every item and every entry stands on a
line of its own, two more blanks to the right than what holds it.
-/

set_option autoImplicit false

namespace Dialogue.Json

/-- The text of a number with a fraction. -/
def doubleText : Double → String
  | .undefined => "NaN"
  | .infinite negative => if negative then "-Infinity" else "Infinity"
  | d => d.shown

/-- A line break and what stands before the line at this depth. -/
def newLine (depth : Nat) : String :=
  String.ofList ('\n' :: List.replicate (2 * depth) ' ')

/-- Parts between brackets, each on a line of its own. -/
def block (first last : String) (depth : Nat) (parts : List String) : String :=
  match parts with
  | [] => first ++ last
  | parts =>
    first ++ newLine (depth + 1) ++ ("," ++ newLine (depth + 1)).intercalate parts ++
      newLine depth ++ last

mutual

/-- The text of a value that stands at this depth. -/
def writeAt (depth : Nat) : Value → String
  | .null => "null"
  | .flag b => if b then "true" else "false"
  | .int n => toString n
  | .double d => doubleText d
  | .text s => quote s
  | .list _ items => block "[" "]" depth (writeItems (depth + 1) items)
  | .tree _ entries => block "\x7b" "\x7d" depth (writeEntries (depth + 1) entries)
  | .choice statement extra =>
    block "\x7b" "\x7d" depth
      ((quote "statement" ++ ": " ++ quote statement) :: writeEntries (depth + 1) extra)

/-- The texts of items that stand at this depth. -/
def writeItems (depth : Nat) : List Value → List String
  | [] => []
  | v :: rest => writeAt depth v :: writeItems depth rest

/-- The texts of entries that stand at this depth. -/
def writeEntries (depth : Nat) : List (String × Value) → List String
  | [] => []
  | (k, v) :: rest => (quote k ++ ": " ++ writeAt depth v) :: writeEntries depth rest

end

/-- The document of a value. -/
def write (v : Value) : String :=
  writeAt 0 v

end Dialogue.Json
