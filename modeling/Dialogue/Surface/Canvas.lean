import Dialogue.Character.Basic
import Dialogue.Surface
import Dialogue.Surface.Placement

/-!
# Canvases

A canvas is a screen that boxes are drawn on as plain rectangles, with a placeholder for the image
beside a line.  A box is placed when it is rendered and painted when the canvas is drawn.  Both
read its options key by key; a key that is missing ends the work there.

Reference model of `PygameSurface`: `Canvas.place` and `Canvas.render` are its `render`,
`Canvas.popRect` its `_pop_rect`, `Canvas.clear` its `clear_all` and `Canvas.draw` its `draw`.  The
screen is its size, and the font the height of its lines; what is painted is a list of marks.
-/

set_option autoImplicit false

namespace Dialogue

/-- A color by its parts of red, green and blue. -/
structure Color where
  red : Nat
  green : Nat
  blue : Nat
deriving DecidableEq, Repr

/-- A point.  Its coordinates are numbers, which may have a fraction. -/
structure Point where
  x : Value
  y : Value
deriving DecidableEq, Repr

namespace Canvas

/-- Where a text is put. -/
inductive Spot where
  | point (p : Point)
  | rect (r : Rect)
deriving DecidableEq, Repr

/-- What is painted. -/
inductive Mark where
  | rect (color : Color) (r : Rect) (radius? : Option Value)
  | text (v : Value) (color : Color) (at_ : Spot)
  | triangle (color : Color) (a b c : Point)
deriving DecidableEq, Repr

/-- A box with its place. -/
structure Placed where
  rect : Rect
  intent : Intent
  options : Value
deriving DecidableEq, Repr

end Canvas

/-- A screen of a certain size, the height of a line of text, and the boxes on it.  The sizes are
values, so a line may be a fraction of a point high. -/
structure Canvas where
  width : Value
  height : Value
  lineHeight : Value
  boxes : List Canvas.Placed := []
deriving DecidableEq, Repr

namespace Canvas

/-! ## Reading options -/

/-- What an option tree holds under a key, which must be there. -/
def entry (v : Value) (key : String) : Except Fault Value :=
  match v with
  | .tree _ entries =>
    match Table.get? entries key with
    | some found => .ok found
    | none => .error (.missingKey (.text key))
  | .list .. | .text _ => .error (.notIndexable v "str")
  | v => .error (.noEntries v.typeName)

/-- What an option tree holds under a key, or nothing. -/
def lookup (v : Value) (key : String) : Except Fault Value :=
  match v with
  | .tree _ entries => .ok ((Table.get? entries key).getD .null)
  | v => .error (.ofDoing v "get")

/-- The position that an option gives.  What does not count as true gives the usual one. -/
def positionOf (v : Value) : Except Fault String :=
  if v.truthy then
    match v with
    | .text s => .ok s
    | v => .error (.ofDoing v "endswith")
  else .ok Placement.usualPosition

/-! ## Placing -/

/-- The rectangle of a pop-up at a position, or at the usual one. -/
def popRect (c : Canvas) (position boxWidth boxHeight margin : Value) : Except Fault Rect := do
  Placement.popRect c.width c.height (← positionOf position) boxWidth boxHeight margin

/-- The height of a box for two lines of text between its paddings. -/
def boxHeight (c : Canvas) (padding : Value) : Except Fault Value := do
  let twoLines ← c.lineHeight.byTwo
  let lines ← twoLines.plus (← entry padding "top")
  lines.plus (← entry padding "bottom")

/-- The room that a full-width box leaves for the image beside its line. -/
def imageRoom (options margin : Value) : Except Fault Value := do
  if (← lookup (← entry options "side_image") "name").truthy then
    (← entry (← entry (← entry options "side_image") "options") "width").plus margin
  else return .int 0

/-- The rectangle of a box with these options. -/
def place (c : Canvas) (options : Value) : Except Fault Rect := do
  let box ← entry options "text_box"
  let margin ← entry box "margin"
  let padding ← entry box "padding"
  let boxHeight ← c.boxHeight padding
  if (← entry options "dialog_type") = .text DialogKind.vn.name then
    let room ← imageRoom options margin
    Placement.vnRect c.width c.height room boxHeight margin
  else
    let position ← lookup options "position"
    let boxWidth ← entry box "width"
    c.popRect position boxWidth boxHeight margin

/-- Show something in a box with these options. -/
def render (intent : Intent) (options : Value) (c : Canvas) : Except Fault Rect × Canvas :=
  match c.place options with
  | .error f => (.error f, c)
  | .ok rect => (.ok rect, { c with boxes := c.boxes ++ [{ rect, intent, options }] })

/-- Take away the boxes that are not meant to persist. -/
def clear (c : Canvas) : Canvas :=
  { c with boxes := c.boxes.filter fun b => Surface.isPersistent b.options }

/-! ## Painting -/

/-- The color of boxes. -/
def paper : Color := ⟨240, 240, 240⟩

/-- The color of the placeholder for an image. -/
def imageColor : Color := ⟨120, 160, 220⟩

/-- The color of a speaker's name. -/
def nameColor : Color := ⟨160, 40, 40⟩

/-- The color of text. -/
def ink : Color := ⟨0, 0, 0⟩

/-- Painting: it may fail, and what was painted before stays. -/
abbrev Painting (α : Type) :=
  Step (List Mark) α

/-- Paint something. -/
def paint (m : Mark) : Painting Unit :=
  modify (· ++ [m])

/-- Paint the placeholder for the image beside a box, if it has one. -/
def paintImage (b : Placed) : Painting Unit := do
  let side ← Step.of (entry b.options "side_image")
  let name ← Step.of (lookup side "name")
  if name.truthy then
    let rect ← Step.of (do
      Placement.imageRect b.rect (← entry (← entry side "options") "width"))
    paint (.rect imageColor rect none)
    paint (.text name ink (.rect (rect.moved 4 4)))

/-- Paint the text of a box, under the speaker's name if it has one. -/
def paintText (lineHeight : Value) (b : Placed) (padding : Value) : Painting Unit := do
  let left : Except Fault Value := do (Value.int b.rect.x).plus (← entry padding "left")
  let y ← Step.of (do (Value.int b.rect.y).plus (← entry padding "top"))
  let name ← Step.of (lookup b.options "name")
  if name.truthy then
    paint (.text name nameColor (.point ⟨← Step.of left, y⟩))
    let y ← Step.of (y.plus lineHeight)
    paint (.text b.intent.text ink (.point ⟨← Step.of left, y⟩))
  else
    paint (.text b.intent.text ink (.point ⟨← Step.of left, y⟩))

/-- Paint the sign that more is to come, if it is wanted. -/
def paintPrompt (b : Placed) (padding : Value) : Painting Unit := do
  if (← Step.of (lookup b.options "show_next_prompt")).truthy then
    let x ← Step.of (do (Value.int b.rect.right).minus (← entry padding "right"))
    let y ← Step.of (do (Value.int b.rect.bottom).minus (← entry padding "bottom"))
    let back ← Step.of (x.minus (.int 12))
    let up ← Step.of (y.minus (.int 12))
    paint (.triangle ink ⟨back, up⟩ ⟨back, y⟩ ⟨x, y⟩)

/-- Paint a box. -/
def paintBox (lineHeight : Value) (b : Placed) : Painting Unit := do
  let box ← Step.of (entry b.options "text_box")
  let padding ← Step.of (entry box "padding")
  let radius ← Step.of (do entry (← entry box "options") "radius")
  paint (.rect paper b.rect (some radius))
  paintImage b
  paintText lineHeight b padding
  paintPrompt b padding

/-- Paint boxes, one after the other. -/
def paintBoxes (lineHeight : Value) : List Placed → Painting Unit
  | [] => pure ()
  | b :: rest => do
    paintBox lineHeight b
    paintBoxes lineHeight rest

/-- What can be seen when the canvas is drawn. -/
def draw (c : Canvas) : Except Fault Unit × List Mark :=
  (paintBoxes c.lineHeight c.boxes).run.run []

/-! ## As a surface -/

/-- What a host may ask of a canvas. -/
inductive Request where
  | render (intent : Intent) (options : Value)
  | popRect (position boxWidth boxHeight margin : Value)
  | clear
  | draw
deriving DecidableEq, Repr

/-- The answers of a canvas. -/
inductive Answer where
  | done
  | rect (r : Rect)
deriving DecidableEq, Repr

/-- Answer a host's request. -/
def answer (r : Request) (c : Canvas) : (Except Fault Answer × Canvas) × List Mark :=
  match r with
  | .render intent options =>
    let (rect, c) := c.render intent options
    ((rect.map .rect, c), [])
  | .popRect position boxWidth boxHeight margin =>
    (((c.popRect position boxWidth boxHeight margin).map .rect, c), [])
  | .clear => ((.ok .done, c.clear), [])
  | .draw =>
    let (result, marks) := c.draw
    ((result.map fun _ => .done, c), marks)

end Canvas

/-- Canvases as surfaces.  A box is named by its rectangle. -/
abbrev Surface.canvas : Surface where
  State := Canvas
  Handle := Rect
  Request := Canvas.Request
  Answer := Canvas.Answer
  Mark := Canvas.Mark
  render := Canvas.render
  clear := fun c => (.ok (), c.clear)
  visible := fun c => c.boxes.map Canvas.Placed.rect
  answer := Canvas.answer

end Dialogue
