import Dialogue.Signal
import Dialogue.Value.Shown

/-!
# Reports

What the library tells an operator while it works, without failing.

Reference model of what the modelled functions log, above the level of debugging.
-/

set_option autoImplicit false

namespace Dialogue

/-- How grave a report is. -/
inductive Gravity where
  | info
  | warning
  | error
deriving DecidableEq, Repr

/-- What is reported. -/
inductive Report where
  | labelNotFound (label : Value)
  | commandPassedOver (name : Value)
  | handlerFailed (signal : Signal)
  | folderNotFound (path : String)
  | fileNotLoaded (path : String)
  | fileNotValid (path : String)
  | loaded (characters labels statements : Nat)
  | compiled (input output : String)
  /-- A remark of the host's own. -/
  | remark (text : String)
deriving DecidableEq, Repr

namespace Report

/-- How grave a report is. -/
def gravity : Report → Gravity
  | .labelNotFound _ | .commandPassedOver _ | .folderNotFound _ => .warning
  | .handlerFailed _ | .fileNotLoaded _ | .fileNotValid _ => .error
  | .loaded .. | .compiled .. | .remark _ => .info

/-- What a report says. -/
def text : Report → String
  | .labelNotFound label => "Dialog label not found: " ++ label.shown
  | .commandPassedOver name => "Skipping unregistered command " ++ name.shown
  | .handlerFailed signal => "Error in event handler for DialogEvent." ++ signal.name
  | .folderNotFound path => "Data directory not found: " ++ path
  | .fileNotLoaded path => "Failed to load " ++ path
  | .fileNotValid path => "Validation error in " ++ path
  | .loaded characters labels statements =>
    "Loaded " ++ toString characters ++ " characters, " ++ toString labels ++ " labels, " ++
      toString statements ++ " unnamed statements."
  | .compiled input output => "Compiled " ++ input ++ " -> " ++ output
  | .remark text => text

end Report

namespace Gravity

/-- The name of a gravity. -/
def name : Gravity → String
  | .info => "INFO"
  | .warning => "WARNING"
  | .error => "ERROR"

end Gravity

end Dialogue
