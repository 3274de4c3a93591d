import Dialogue.Value.Arithmetic

/-!
# Rectangles

Rectangles on a grid of points, by a corner and their size, as a `pygame.Rect` has them.  The grid has
32 binary digits in each direction, signed; what goes beyond its end comes back at its other end.

## Results

* `Rect.onGrid_eq` — numbers on the grid stay what they are.
-/

set_option autoImplicit false

namespace Dialogue

/-- A rectangle. -/
structure Rect where
  x : Int
  y : Int
  width : Int
  height : Int
deriving DecidableEq, Repr

namespace Rect

/-! ## The grid -/

/-- How many places the grid has in each direction. -/
def gridSize : Nat := 4294967296

/-- The first place of the grid. -/
def gridStart : Int := -2147483648

/-- The place after the last one of the grid. -/
def gridEnd : Int := 2147483648

/-- The place on the grid of a whole number. -/
def onGrid (n : Int) : Int :=
  n.bmod gridSize

/-- Numbers on the grid stay what they are. -/
theorem onGrid_eq {n : Int} (low : gridStart ≤ n) (high : n < gridEnd) : onGrid n = n := by
  simp only [gridStart, gridEnd] at low high
  simp only [onGrid, gridSize, Int.bmod_def]
  omega

/-- The whole numbers that places can be taken from: those of at most 64 binary digits. -/
def isWord (n : Int) : Bool :=
  -9223372036854775808 ≤ n && n < 9223372036854775808

/-- The place on the grid that a number gives.  Whole numbers of more than 64 binary digits give
none.  Fractions are cut off, and what lies beyond the grid then is put at its lower end. -/
def place? : Number → Option Int
  | .int n => if isWord n then some (onGrid n) else none
  | .double (.finite s m e) =>
    let n := Double.truncated s m e
    some (if gridStart ≤ n ∧ n < gridEnd then n else gridStart)
  | .double _ => some gridStart

/-- The rectangle that values give. -/
def ofValues (x y width height : Value) : Except Fault Rect :=
  match x.number?.bind place?, y.number?.bind place?, width.number?.bind place?,
      height.number?.bind place? with
  | some x, some y, some width, some height => .ok { x, y, width, height }
  | _, _, _, _ => .error .notRectangle

/-! ## Edges -/

/-- The edge on the right. -/
def right (r : Rect) : Int :=
  onGrid (r.x + r.width)

/-- The edge at the bottom. -/
def bottom (r : Rect) : Int :=
  onGrid (r.y + r.height)

/-- The rectangle, moved. -/
def moved (r : Rect) (dx dy : Int) : Rect :=
  { r with x := onGrid (r.x + dx), y := onGrid (r.y + dy) }

/-! ## What a rectangle covers

From its corner, a rectangle of negative width reaches to the left, and one of negative height
upwards. -/

/-- Where a rectangle begins on the left. -/
def leftEnd (r : Rect) : Int :=
  min r.x r.right

/-- Where a rectangle ends on the right. -/
def rightEnd (r : Rect) : Int :=
  max r.x r.right

/-- Where a rectangle begins at the top. -/
def topEnd (r : Rect) : Int :=
  min r.y r.bottom

/-- Where a rectangle ends at the bottom. -/
def bottomEnd (r : Rect) : Int :=
  max r.y r.bottom

/-- Does the second rectangle contain the first one? -/
def Inside (r outer : Rect) : Prop :=
  outer.leftEnd ≤ r.leftEnd ∧ outer.topEnd ≤ r.topEnd ∧ r.rightEnd ≤ outer.rightEnd ∧
    r.bottomEnd ≤ outer.bottomEnd

/-- Have two rectangles no area in common? -/
def Apart (r s : Rect) : Prop :=
  r.rightEnd ≤ s.leftEnd ∨ s.rightEnd ≤ r.leftEnd ∨ r.bottomEnd ≤ s.topEnd ∨
    s.bottomEnd ≤ r.topEnd

end Rect

end Dialogue
