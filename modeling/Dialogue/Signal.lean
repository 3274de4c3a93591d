/-!
# Signals

The kinds of events that tell a host how a dialogue goes on.

Reference model of `DialogEvent`.
-/

set_option autoImplicit false

namespace Dialogue

/-- The kinds of events. -/
inductive Signal where
  /-- A loose list of statements was loaded. -/
  | sequenceLoaded
  /-- A label was started, known or not. -/
  | labelStarted
  /-- A line was put on the surface. -/
  | statementDisplayed
  /-- The commands of a line were run. -/
  | commandsExecuted
  /-- The dialogue went past its last statement. -/
  | sequenceExhausted
  /-- The surface was cleared. -/
  | dialogCleared
deriving DecidableEq, Repr

namespace Signal

/-- The name of a signal. -/
def name : Signal → String
  | .sequenceLoaded => "SEQUENCE_LOADED"
  | .labelStarted => "LABEL_STARTED"
  | .statementDisplayed => "STATEMENT_DISPLAYED"
  | .commandsExecuted => "COMMANDS_EXECUTED"
  | .sequenceExhausted => "SEQUENCE_EXHAUSTED"
  | .dialogCleared => "DIALOG_CLEARED"

/-- All signals. -/
def all : List Signal :=
  [.sequenceLoaded, .labelStarted, .statementDisplayed, .commandsExecuted, .sequenceExhausted,
   .dialogCleared]

end Signal

end Dialogue
