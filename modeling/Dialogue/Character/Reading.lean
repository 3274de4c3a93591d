import Dialogue.Character.Basic
import Dialogue.Fault

/-!
# Reading character records

A record is read from a mapping.  Three of its fields have a second spelling; when both are
given, the second spelling counts and the first is an unknown field.  All flaws of a record are
reported together, each at its field as the mapping spells it.

Reference model of how `Character` is validated under the settings of `Model`: extra fields are
refused, and a field with an alias takes either spelling.
-/

set_option autoImplicit false

namespace Dialogue.Character

/-- A part of a record, or what is wrong with it. -/
abbrev Checked (α : Type) :=
  Except (List Issue) α

/-- What is wrong with a part. -/
def issues {α : Type} : Checked α → List Issue
  | .ok _ => []
  | .error found => found

/-! ## Parts of a record -/

/-- A text. -/
def textAt (place : List String) : Value → Checked String
  | .text s => .ok s
  | _ => .error [⟨place, .notText⟩]

/-- Nothing, or a part of its own. -/
def optionalAt {α : Type} (read : Value → Checked α) : Value → Checked (Option α)
  | .null => .ok none
  | v => (read v).map some

/-- A mapping with values of any form. -/
def mappingAt (place : List String) : Value → Checked (Table Value)
  | .tree _ entries => .ok entries
  | _ => .error [⟨place, .notMapping⟩]

/-- The entries of a mapping from names to texts.  Every value that is no text is reported. -/
def textEntriesAt (place : List String) : Table Value → Checked (Table String)
  | [] => .ok []
  | (k, v) :: rest =>
    match textAt (place ++ [k]) v, textEntriesAt place rest with
    | .ok s, .ok entries => .ok ((k, s) :: entries)
    | head, tail => .error (issues head ++ issues tail)

/-- A mapping from names to texts. -/
def textsAt (place : List String) (v : Value) : Checked (Table String) :=
  match mappingAt place v with
  | .ok entries => textEntriesAt place entries
  | .error found => .error found

/-- A layout family. -/
def kindAt (place : List String) (v : Value) : Checked DialogKind :=
  match DialogKind.ofValue? v with
  | some k => .ok k
  | none => .error [⟨place, .notDialogKind⟩]

/-! ## Fields -/

/-- A field of a record: its name and the second spelling it may have. -/
structure Field where
  name : String
  alias? : Option String := none
deriving DecidableEq, Repr

namespace Field

def key : Field := { name := "key" }
def shownName : Field := { name := "name" }
def expressions : Field := { name := "expressions" }
def defaultExpression : Field :=
  { name := "default_expression", alias? := some "defaultExpression" }
def kind : Field := { name := "dialog_type", alias? := some "dialogType" }
def position : Field := { name := "position" }
def options : Field := { name := "dialog_options", alias? := some "dialogOptions" }

/-- The fields of a character. -/
def all : List Field :=
  [key, shownName, expressions, defaultExpression, kind, position, options]

/-- The spelling under which a mapping gives this field: the second one first. -/
def spelling? (f : Field) (entries : Table Value) : Option String :=
  match f.alias? with
  | some other =>
    if Table.has entries other then some other
    else if Table.has entries f.name then some f.name
    else none
  | none => if Table.has entries f.name then some f.name else none

/-- Read this field of a mapping; a field that is not given takes its default. -/
def readFrom {α : Type} (f : Field) (entries : Table Value) (default : α)
    (read : List String → Value → Checked α) : Checked α :=
  match f.spelling? entries with
  | none => .ok default
  | some spelling =>
    match Table.get? entries spelling with
    | none => .ok default
    | some v => read [spelling] v

end Field

/-- The entries that no field takes. -/
def unknownFields (entries : Table Value) : List Issue :=
  ((Table.keys entries).filter fun k =>
    !Field.all.any fun f => f.spelling? entries = some k).map fun k => ⟨[k], .unknownField⟩

/-! ## Records -/

/-- The record that a mapping gives, or everything that is wrong with it. -/
def ofEntries (entries : Table Value) : Checked Character :=
  let key := Field.key.readFrom entries "" textAt
  let name := Field.shownName.readFrom entries none fun p => optionalAt (textAt p)
  let expressions := Field.expressions.readFrom entries [] textsAt
  let defaultExpression :=
    Field.defaultExpression.readFrom entries none fun p => optionalAt (textAt p)
  let kind := Field.kind.readFrom entries .pop kindAt
  let position := Field.position.readFrom entries none fun p => optionalAt (textAt p)
  let options := Field.options.readFrom entries none fun p => optionalAt (mappingAt p)
  match key, name, expressions, defaultExpression, kind, position, options,
      unknownFields entries with
  | .ok key, .ok name, .ok expressions, .ok defaultExpression, .ok kind, .ok position,
      .ok options, [] =>
    .ok { key, name, expressions, defaultExpression, kind, position, options }
  | key, name, expressions, defaultExpression, kind, position, options, unknown =>
    .error (issues key ++ issues name ++ issues expressions ++ issues defaultExpression ++
      issues kind ++ issues position ++ issues options ++ unknown)

/-- A rejected part as a fault. -/
def accept {α : Type} : Checked α → Except Fault α
  | .ok a => .ok a
  | .error found => .error (.invalidRecord found)

/-- The record that a value gives. -/
def read (v : Value) : Except Fault Character :=
  match v.entries? with
  | some entries => accept (ofEntries entries)
  | none => .error (.invalidRecord [⟨[], .notRecord⟩])

/-- The record that a value gives under a key.  The key counts, whatever the value says. -/
def readAs (key : String) (v : Value) : Except Fault Character :=
  match v.entries? with
  | some entries => accept (ofEntries (Table.put entries "key" (.text key)))
  | none => .error (.notMapping v.typeName)

end Dialogue.Character
