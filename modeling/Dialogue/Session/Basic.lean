import Dialogue.Bus.Settling
import Dialogue.Options.Settings
import Dialogue.Playhead
import Dialogue.Session.Notice
import Dialogue.Surface

/-!
# Sessions

A session owns everything that a running dialogue needs: the cast, the commands, the labels and
the place in them, the settings, a surface to show boxes on, and a bus to tell a host what happens.
Handlers belong to the host and are known to the session by number.

Reference model of the state of `DialogSession`; `Session.optionsOf` is its `effective_config`.
-/

set_option autoImplicit false

namespace Dialogue

/-- The host's number for one of its handlers. -/
abbrev HandlerId := Nat

namespace Commands

/-- The built-in commands: they announce that more is to come, or stop announcing it. -/
def prompting : Commands HandlerId Bool :=
  .ofBuiltins [(.text "enableNextPrompt", true), (.text "disableNextPrompt", false)]

end Commands

/-- The state of a session on a surface. -/
structure Session (K : Surface) where
  surface : K.State
  settings : Settings := {}
  cast : Cast := {}
  commands : Commands HandlerId Bool := .prompting
  playhead : Playhead := {}
  bus : Bus HandlerId (Notice K.Handle) := {}
  /-- The box that this session showed last. -/
  handle? : Option K.Handle := none
  /-- The numbers that alternatives are drawn by; a host may give any values. -/
  draws : List Value := []

namespace Session

variable {K : Surface}

/-- The line that a statement makes now, and the session after the draws that this takes. -/
def parse (s : Session K) (statement : Value) : Except Fault Line × Session K :=
  let (line, draws) := Statement.parse s.cast s.commands.has statement s.draws
  (line, { s with draws })

/-- The options of the box of a line. -/
def optionsOf (s : Session K) (who sideImage options : Value) : Except Fault Value :=
  (s.cast.character who).map fun speaker =>
    s.settings.resolve speaker.kind (some speaker) sideImage options

end Session

end Dialogue
