import Dialogue.Character.Basic

/-!
# The form of data files

Which values a data file may hold.  A character file maps keys to records, a script file holds
labels with their statements and perhaps statements that belong to no label.

Reference model of the schemas that `ScriptDatabase._load_json` checks files against,
`CHARACTERS_FILE_SCHEMA` (`isCharacterFile`) and `SCRIPT_FILE_SCHEMA` (`isScriptFile`).
-/

set_option autoImplicit false

namespace Dialogue.Library

/-- A text. -/
def isText : Value → Bool
  | .text _ => true
  | _ => false

/-- A mapping whose values all have a certain form. -/
def isMappingOf (form : Value → Bool) (v : Value) : Bool :=
  v.entries?.any fun entries => entries.all fun e => form e.2

/-- A list whose items all have a certain form. -/
def isListOf (form : Value → Bool) : Value → Bool
  | .list _ items => items.all form
  | _ => false

/-- A list with at least one item. -/
def isNonempty : Value → Bool
  | .list _ items => !items.isEmpty
  | _ => false

/-- What an entry must be like if it is there. -/
def optional (form : Value → Bool) (v : Value) (key : String) : Bool :=
  (v.get? key).all form

/-- What an entry must be like, and it must be there. -/
def required (form : Value → Bool) (v : Value) (key : String) : Bool :=
  (v.get? key).any form

/-- A statement: a text, alternatives, or a mapping with a text under `statement`. -/
def isStatement (v : Value) : Bool :=
  isText v || (isNonempty v && isListOf isText v) || required isText v "statement"

/-- The name of a layout family. -/
def isKindName (v : Value) : Bool :=
  (DialogKind.ofValue? v).isSome

/-- A mapping with any values. -/
def isMapping (v : Value) : Bool :=
  v.entries?.isSome

/-- The fields that a record may have, and their forms. -/
def recordFields : List (String × (Value → Bool)) :=
  [("name", isText),
   ("expressions", isMappingOf isText),
   ("default_expression", isText),
   ("defaultExpression", isText),
   ("dialog_type", isKindName),
   ("dialogType", isKindName),
   ("position", isText),
   ("dialog_options", isMapping),
   ("dialogOptions", isMapping)]

/-- A character's record: every field is a known one and has its form. -/
def isRecord (v : Value) : Bool :=
  v.entries?.any fun entries =>
    entries.all fun e => (Table.get? recordFields e.1).any fun form => form e.2

/-- A character file: a mapping from keys to records. -/
def isCharacterFile (v : Value) : Bool :=
  isMappingOf isRecord v

/-- A script file: labels with lists of statements, perhaps a name, perhaps statements that
belong to no label. -/
def isScriptFile (v : Value) : Bool :=
  required (isMappingOf (isListOf isStatement)) v "labels" && optional isText v "id" &&
    optional (isListOf isStatement) v "sequence"

end Dialogue.Library
