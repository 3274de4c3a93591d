import Dialogue.Line
import Dialogue.Signal

/-!
# Notices

What the events of a session say.  A host may also ask a notice for its parts by name.

Reference model of the data of the events that `DialogSession` publishes.
-/

set_option autoImplicit false

namespace Dialogue

/-- What an event of a session says.  `H` is what the surface names boxes by. -/
inductive Notice (H : Type) where
  /-- A loose list of so many statements was loaded. -/
  | loaded (length : Nat)
  /-- A label was started, and was it found? -/
  | started (label : Value) (found : Bool)
  /-- A line was put into a box. -/
  | displayed (line : Line) (handle : H)
  /-- The commands of a line were run. -/
  | executed (commands : List String)
  /-- There was no further statement under the label, or in the loose list. -/
  | exhausted (label : Option Value)
  /-- The surface was cleared. -/
  | cleared
deriving DecidableEq, Repr

/-- A part of a notice. -/
inductive Datum (H : Type) where
  | value (v : Value)
  | line (l : Line)
  | handle (h : H)
deriving DecidableEq, Repr

namespace Notice

variable {H : Type}

/-- The signal of a notice. -/
def signal : Notice H → Signal
  | .loaded _ => .sequenceLoaded
  | .started .. => .labelStarted
  | .displayed .. => .statementDisplayed
  | .executed _ => .commandsExecuted
  | .exhausted _ => .sequenceExhausted
  | .cleared => .dialogCleared

/-- The parts of a notice by name. -/
def parts : Notice H → Table (Datum H)
  | .loaded length => [("length", .value (.int length))]
  | .started label found =>
    [("label", .value label), ("found", .value (.flag found))]
  | .displayed line handle => [("intent", .line line), ("handle", .handle handle)]
  | .executed commands => [("commands", .value (.ofList (commands.map .text)))]
  | .exhausted label => [("label", .value (label.getD .null))]
  | .cleared => []

end Notice

end Dialogue
