import Dialogue.Surface

/-!
# Boards

A board is the surface that only remembers: the boxes on it, every box it ever showed, and how
often it was cleared.  Its handles count the boxes from one.

Reference model of `MemorySurface` and of `RenderedDialog` (`Box`), which keeps the whole intent that
it was rendered with: `Board.render` and `Board.clear` are `render` and `clear_all`, `Board.texts`
and `Board.current?` the properties `texts` and `current`.
-/

set_option autoImplicit false

namespace Dialogue

/-- A box on a board. -/
structure Box where
  handle : Nat
  intent : Intent
  options : Value
deriving DecidableEq, Repr

namespace Box

/-- The words in this box. -/
def text (b : Box) : Value :=
  b.intent.text

/-- Is this box meant to persist? -/
def persistent (b : Box) : Bool :=
  Surface.isPersistent b.options

/-- Can this box be asked for its options? -/
def hasOptions (b : Box) : Bool :=
  b.options.entries?.isSome

/-- Is this box meant to persist?  A box that cannot be asked for its options has no answer. -/
def persistent? (b : Box) : Except Fault Bool :=
  if b.hasOptions then .ok b.persistent else .error (.ofDoing b.options "get")

end Box

/-- The boxes that are shown, all boxes ever shown, and the number of times the board was
cleared. -/
structure Board where
  visible : List Box := []
  history : List Box := []
  clears : Nat := 0
deriving DecidableEq, Repr

namespace Board

/-- Show something.  Options that are no mapping cannot be asked what they say, and are refused
after the box was put on the board. -/
def render (intent : Intent) (options : Value) (b : Board) : Except Fault Nat × Board :=
  let box : Box := { handle := b.history.length + 1, intent, options }
  let shown := { b with visible := b.visible ++ [box], history := b.history ++ [box] }
  if box.hasOptions then (.ok box.handle, shown)
  else (.error (.ofDoing options "get"), shown)

/-- Take away the boxes that are not meant to persist. -/
def clear (b : Board) : Except Fault Unit × Board :=
  match b.visible.find? fun box => !box.hasOptions with
  | some box => (.error (.ofDoing box.options "get"), b)
  | none =>
    (.ok (), { b with visible := b.visible.filter Box.persistent, clears := b.clears + 1 })

/-- The texts of all boxes ever shown. -/
def texts (b : Board) : List Value :=
  b.history.map Box.text

/-- The boxes that are shown: the handle, the text, and whether the box is meant to persist. -/
def listing (b : Board) : Except Fault (List (Nat × Value × Bool)) :=
  b.visible.mapM fun box => do return (box.handle, box.text, ← box.persistent?)

/-- The box that was shown last and is still there. -/
def current? (b : Board) : Option Box :=
  b.visible.getLast?

/-- What a host may ask of a board. -/
inductive Request where
  | texts
deriving DecidableEq, Repr

end Board

/-- Boards as surfaces. -/
abbrev Surface.board : Surface where
  State := Board
  Handle := Nat
  Request := Board.Request
  Answer := List Value
  Mark := Empty
  render := Board.render
  clear := Board.clear
  visible := fun b => b.visible.map Box.handle
  answer := fun _ b => ((.ok b.texts, b), [])

end Dialogue
