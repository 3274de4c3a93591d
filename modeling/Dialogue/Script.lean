import Dialogue.Fault
import Dialogue.Text.Blank
import Dialogue.Text.Lines
import Dialogue.Text.Word

/-!
# Text scripts

A text script holds one statement a line, grouped under labels:

```
// a remark
# begin
r Hello, I am Bean.

# finish
r That's all folks!
```

Blanks around a line do not count, empty lines and remarks are passed over.  Statements before the
first header belong to no label.  A header that comes again goes on with its label.

Reference model of `ScriptFileParser` and `ParsedScript` (`Script`): `Script.read` is `parse_string`, and
`Script.toValue` is `to_json`.
-/

set_option autoImplicit false

namespace Dialogue

/-- The labels of a text script in the order of their first headers, and the statements that
belong to none. -/
structure Script where
  labels : Table (List String) := []
  loose : List String := []
deriving DecidableEq, Repr

namespace Script

/-- What a line of a text script is. -/
inductive Row where
  | passed
  | header (label : String)
  | statement (text : String)
deriving DecidableEq, Repr

/-- The label of a header: a number sign, perhaps blanks, and word characters. -/
def header? (line : List Char) : Option (List Char) :=
  match line with
  | '#' :: rest =>
    let name := rest.dropWhile Text.isBlank
    if name ≠ [] ∧ name.all Text.isWord then some name else none
  | _ => none

/-- Is a trimmed line passed over? -/
def isPassed (line : List Char) : Bool :=
  line.isEmpty || ['/', '/'].isPrefixOf line

/-- What a trimmed line is. -/
def Row.ofTrimmed (line : List Char) : Row :=
  if isPassed line then .passed
  else
    match header? line with
    | some label => .header (String.ofList label)
    | none => .statement (String.ofList line)

/-- The rows of a text. -/
def rows (text : String) : List Row :=
  (Text.lines text.toList).map fun line => Row.ofTrimmed (Text.trim line)

/-- Add a statement under a label, or to those that belong to none. -/
def add (s : Script) (label? : Option String) (text : String) : Script :=
  match label? with
  | none => { s with loose := s.loose ++ [text] }
  | some label =>
    { s with labels := Table.put s.labels label ((Table.get? s.labels label).getD [] ++ [text]) }

/-- Begin or go on with a label. -/
def enter (s : Script) (label : String) : Script :=
  if Table.has s.labels label then s else { s with labels := Table.put s.labels label [] }

/-- Read rows, given the label that the statements go to. -/
def ofRows : List Row → Option String → Script → Script
  | [], _, s => s
  | .passed :: rest, label?, s => ofRows rest label? s
  | .header label :: rest, _, s => ofRows rest (some label) (s.enter label)
  | .statement text :: rest, label?, s => ofRows rest label? (s.add label? text)

/-- The script that a text holds. -/
def read (text : String) : Script :=
  ofRows (rows text) none {}

/-- The script that a value holds, which must be a text. -/
def ofValue (v : Value) : Except Fault Script :=
  match v with
  | .text s => .ok (read s)
  | v => .error (.ofDoing v "splitlines")

/-! ## As values -/

/-- Statements as a value. -/
def statements (texts : List String) : Value :=
  .ofList (texts.map .text)

/-- A script with its name, in the form that data files have. -/
def toValue (s : Script) (id : String) : Value :=
  .ofTable
    [("id", .text id),
     ("labels", .ofTable (s.labels.map fun e => (e.1, statements e.2))),
     ("sequence", statements s.loose)]

end Script

end Dialogue
