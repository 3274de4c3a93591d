import Dialogue.Surface.Rect

/-!
# Placing boxes

Where a box stands on a screen.  A pop-up stands at one of nine positions, which are told by how
their names begin and end.  A full-width box stands at the bottom and leaves room for an image on
its left.  A margin is kept free on all sides.

Sizes and margins may be any value; what cannot be calculated with ends the placing there.

Reference model of the sums in `PygameSurface.render` and `PygameSurface._pop_rect`.
-/

set_option autoImplicit false

namespace Dialogue.Placement

/-- The position of pop-ups that name none. -/
def usualPosition : String :=
  "topleft"

/-- Does a name end in this? -/
def endsIn (name ending : String) : Bool :=
  ending.toList.isSuffixOf name.toList

/-- Does a name begin with this? -/
def beginsWith (name beginning : String) : Bool :=
  beginning.toList.isPrefixOf name.toList

/-- The left end of a pop-up. -/
def popLeft (width : Value) (position : String) (boxWidth margin : Value) :
    Except Fault Value := do
  if endsIn position "left" then return margin
  else if endsIn position "right" then (← width.minus boxWidth).minus margin
  else (← width.minus boxWidth).halfDown

/-- The upper end of a pop-up. -/
def popTop (height : Value) (position : String) (boxHeight margin : Value) :
    Except Fault Value := do
  if beginsWith position "top" then return margin
  else if beginsWith position "bot" then (← height.minus margin).minus boxHeight
  else (← height.minus boxHeight).halfDown

/-- The rectangle of a pop-up. -/
def popRect (width height : Value) (position : String) (boxWidth boxHeight margin : Value) :
    Except Fault Rect := do
  let x ← popLeft width position boxWidth margin
  let y ← popTop height position boxHeight margin
  Rect.ofValues x y boxWidth boxHeight

/-- The rectangle of a full-width box with room for an image of this width, margin included, on
its left. -/
def vnRect (width height room boxHeight margin : Value) : Except Fault Rect := do
  let x ← margin.plus room
  let y ← (← height.minus margin).minus boxHeight
  let boxWidth ← (← width.minus (← margin.twice)).minus room
  Rect.ofValues x y boxWidth boxHeight

/-- The rectangle of an image of this size beside a box, at its lower left. -/
def imageRect (box : Rect) (size : Value) : Except Fault Rect := do
  let x ← (← (Value.int box.x).minus size).minus (.int 10)
  let y ← (Value.int box.bottom).minus size
  Rect.ofValues x y size size

end Dialogue.Placement
