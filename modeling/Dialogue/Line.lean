import Dialogue.Cast
import Dialogue.Commands
import Dialogue.Intent
import Dialogue.Text.Word
import Dialogue.Value.Arithmetic

/-!
# Lines

A statement of a script becomes a line: commands to run, a speaker with an expression, and the
text that is said.  A statement is written

```
(<command> )* (<key>:<expression> | <key> )? <text>
```

Words at the front are taken as commands as long as they are known ones.  Then a key with an
expression names the speaker, else a registered key does, else the narrator speaks.

Of several alternatives one is drawn.  The draws are given in advance as a list of numbers, of
which each takes the next; when they are used up, the first alternative is taken.  What a host gives
in place of a number is used up too, and nothing can be drawn by it.

Reference model of `StatementParser` and of the `DialogIntent` that it makes (`Line`):
`Statement.parse` and `Statement.select` are its `parse` and `select`, `Statement.takeCommands` and
`Statement.speaker` its `_extract_commands` and `_extract_speaker`.
-/

set_option autoImplicit false

namespace Dialogue

/-- What a statement says.  A statement of commands alone has no speaker and no text, and is
never displayed. -/
structure Line where
  /-- The statement itself. -/
  source : Value := .null
  /-- The key of the speaker. -/
  who : Option String := none
  expression : Option String := none
  /-- The image beside the line. -/
  sideImage : Option String := none
  text : String := ""
  commands : List String := []
deriving DecidableEq, Repr

namespace Line

/-- Is there anything to display? -/
def displayable (l : Line) : Bool :=
  l.text != ""

/-- What a surface is handed to show this line. -/
def intent (l : Line) : Intent where
  source := l.source
  who := l.who
  expression := l.expression
  sideImage := l.sideImage
  text := .text l.text
  commands := l.commands

/-- A line is told by what a surface is handed for it. -/
theorem eq_of_intent {l m : Line} (h : l.intent = m.intent) : l = m := by
  obtain ⟨source, who, expression, sideImage, text, commands⟩ := l
  simp only [intent, Intent.mk.injEq, Value.text.injEq] at h
  obtain ⟨rfl, rfl, rfl, rfl, rfl, rfl⟩ := h
  rfl

end Line

namespace Statement

/-! ## Choosing the text -/

/-- The alternative that a draw stands for: numbers are counted around the alternatives. -/
def drawn (form : Form) (first : Value) (rest : List Value) (draw : Value) : Except Fault Value :=
  match draw.number? with
  | some (.int n) => .ok ((first :: rest).getD (n % (rest.length + 1)).toNat first)
  | some (.double _) => .error (.notIndexable (.list form (first :: rest)) draw.typeName)
  | none =>
    match draw with
    | .text _ => .error .noGap
    | draw => .error (.badOperands "%" draw.typeName "int")

/-- One of the alternatives, and the draws that are left. -/
def draw (form : Form) (first : Value) (rest : List Value) :
    List Value → Except Fault Value × List Value
  | [] => (.ok first, [])
  | draw :: draws => (drawn form first rest draw, draws)

/-- The text to read out of a statement, and the draws that are left. -/
def select (statement : Value) (draws : List Value) : Except Fault String × List Value :=
  match statement with
  | .text s => (.ok s, draws)
  | .choice s _ => (.ok s, draws)
  | .tree _ entries =>
    match Table.get? entries "statement" with
    | some (.text s) => (.ok s, draws)
    | _ => (.error (.malformed statement .noStatementField), draws)
  | .list _ [] => (.error (.malformed statement .noAlternatives), draws)
  | .list form (first :: rest) =>
    match draw form first rest draws with
    | (.ok (.text s), draws) => (.ok s, draws)
    | (.ok _, draws) => (.error (.malformed statement .alternativeNotText), draws)
    | (.error f, draws) => (.error f, draws)
  | v => (.error (.malformed v (.unsupported v.typeName)), draws)

/-! ## Reading the text -/

/-- The first word, when a text begins with one. -/
def firstWord (text : List Char) : List Char :=
  text.takeWhile Text.isSolid

/-- What follows the first word and the blanks after it. -/
def afterWord (text : List Char) : List Char :=
  (text.dropWhile Text.isSolid).dropWhile Text.isBlank

theorem afterWord_sublist (text : List Char) : (afterWord text).Sublist text :=
  (List.dropWhile_sublist _).trans (List.dropWhile_sublist _)

theorem afterWord_shorter {text : List Char} (h : firstWord text ≠ []) :
    (afterWord text).length < text.length := by
  cases text with
  | nil => exact absurd rfl h
  | cons c rest =>
    by_cases hc : Text.isSolid c = true
    · simp only [afterWord, List.dropWhile_cons_of_pos hc, List.length_cons]
      exact Nat.lt_succ_of_le (afterWord_sublist rest).length_le
    · exact absurd (by simp [firstWord, hc]) h

/-- The commands at the front of a text, and what follows them. -/
def takeCommands (isCommand : String → Bool) (text : List Char) : List String × List Char :=
  if _h : firstWord text ≠ [] ∧ isCommand (String.ofList (firstWord text)) = true then
    let (commands, rest) := takeCommands isCommand (afterWord text)
    (String.ofList (firstWord text) :: commands, rest)
  else ([], text)
termination_by text.length
decreasing_by exact afterWord_shorter _h.1

/-- A key, a colon and an expression at the front of a text, with what follows the blanks after
them.  There must be a blank. -/
def colonForm? (text : List Char) : Option (String × String × List Char) :=
  match text.takeWhile Text.isWord, text.dropWhile Text.isWord with
  | [], _ => none
  | key, ':' :: rest =>
    if firstWord rest = [] || (rest.dropWhile Text.isSolid).isEmpty then none
    else some (String.ofList key, String.ofList (firstWord rest), afterWord rest)
  | _, _ => none

/-- Who speaks, with which expression, and the text that is said. -/
def speaker (cast : Cast) (text : List Char) :
    Except Fault (String × Option String × List Char) :=
  match colonForm? text with
  | some (key, expression, rest) =>
    (cast.character (.text key)).map fun _ => (key, some expression, rest)
  | none =>
    match cast.speaker? text with
    | some key =>
      (cast.character (.text key)).map fun record =>
        (key, record.defaultExpression, text.drop (key.length + 1))
    | none => .ok (narratorKey, none, text)

/-- The line that a statement makes when this text was chosen from it. -/
def readText (cast : Cast) (isCommand : String → Bool) (source : Value) (text : String) :
    Except Fault Line :=
  let (commands, rest) := takeCommands isCommand text.toList
  if rest = [] then .ok { source, commands }
  else
    match speaker cast rest with
    | .error f => .error f
    | .ok (who, expression, said) =>
      match cast.image (.text who) (Value.optionalText expression) with
      | .error f => .error f
      | .ok sideImage =>
        .ok { source, who := some who, expression, sideImage, text := String.ofList said, commands }

/-- The line that a statement makes, and the draws that are left. -/
def parse (cast : Cast) (isCommand : String → Bool) (statement : Value) (draws : List Value) :
    Except Fault Line × List Value :=
  match select statement draws with
  | (.error f, draws) => (.error f, draws)
  | (.ok text, draws) => (readText cast isCommand statement text, draws)

end Statement

end Dialogue
