import Dialogue.Value.Basic

/-!
# Characters

A character is a speaker that lines refer to by its key.  Its expressions name the images that
may be shown beside its lines, its layout family says in which kind of box it speaks.

Reference model of `Character`, with `DialogType` as `DialogKind`, and of the narrator's record that
`CharacterRegistry` starts with.
-/

set_option autoImplicit false

namespace Dialogue

/-- The layout family of a box: a pop-up that can be placed anywhere, or a full-width box at the
bottom of the screen. -/
inductive DialogKind where
  | pop
  | vn
deriving DecidableEq, Repr

namespace DialogKind

/-- The name of a layout family in option trees and records. -/
def name : DialogKind → String
  | .pop => "pop"
  | .vn => "vn"

/-- The layout family of a name. -/
def ofName? (s : String) : Option DialogKind :=
  if s = "pop" then some .pop else if s = "vn" then some .vn else none

/-- The layout family that a value names. -/
def ofValue? (v : Value) : Option DialogKind :=
  v.text?.bind ofName?

end DialogKind

/-- A speaker. -/
structure Character where
  /-- The key that lines refer to. -/
  key : String := ""
  /-- The name shown in the box. -/
  name : Option String := none
  /-- The image of each expression. -/
  expressions : Table String := []
  /-- The expression of a line that names none. -/
  defaultExpression : Option String := none
  /-- The layout family of this character's lines. -/
  kind : DialogKind := .pop
  /-- Where this character's pop-ups stand. -/
  position : Option String := none
  /-- Options of this character's own. -/
  options : Option (Table Value) := none
deriving DecidableEq, Repr

/-- The key of the character that lines without a speaker belong to. -/
def narratorKey : String :=
  "narrator"

namespace Character

/-- The narrator, as it is until another record takes its key. -/
def narrator : Character :=
  { key := narratorKey, kind := .vn }

end Character

end Dialogue
