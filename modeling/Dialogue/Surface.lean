import Dialogue.Fault
import Dialogue.Intent

/-!
# Surfaces

A surface is where boxes are shown: a screen, a terminal, a list in memory.  Sessions hand it what
is to be shown, with the options of its box, and get a handle back; how a box looks is the surface's
own affair.  A surface may answer further requests of the host, and may leave marks while it does.

Reference model of `PresentationSurface`: `Surface.render` is its `render`, and `Surface.clear` its
`clear_all`.  `Surface.isPersistent` is `RenderedDialog.persistent`.
-/

set_option autoImplicit false

namespace Dialogue

/-- A kind of surface. -/
structure Surface where
  /-- What the surface holds. -/
  State : Type
  /-- What names a box to the host. -/
  Handle : Type
  /-- What else the host may ask of the surface. -/
  Request : Type
  /-- The answers to such requests. -/
  Answer : Type
  /-- What can be seen of a surface being drawn. -/
  Mark : Type
  /-- Show something in a box with these options. -/
  render : (intent : Intent) → (options : Value) → State → Except Fault Handle × State
  /-- Take away every box that is not meant to persist. -/
  clear : State → Except Fault Unit × State
  /-- The handles of the boxes on the surface. -/
  visible : State → List Handle
  /-- Answer a further request. -/
  answer : Request → State → (Except Fault Answer × State) × List Mark

namespace Surface

/-- Is a box with these options meant to persist? -/
def isPersistent (options : Value) : Bool :=
  ((options.get? "persistent").getD (.flag false)).truthy

end Surface

end Dialogue
