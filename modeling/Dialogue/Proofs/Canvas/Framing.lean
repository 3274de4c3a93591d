import Dialogue.Proofs.Canvas.Placing

/-!
# Boxes within their frame

The margin frames a screen.  A box stays within this frame if there is enough for it between the margins,
wherever it is meant to stand: a pop-up at a position of any name, or of none, and a full-width box at the
bottom, with an image beside it or without.  So much is said of whole numbers.  A canvas shows the box there
just when the grid has places for it, as it has on every screen that ends before the grid does.  On a larger
one, a box may come back at the other end of the grid.

## Results

* `Rect.ofValues_eq_ok_iff` — numbers make the rectangle that they tell just when it has a place.
* `Canvas.Fits.framed` — a box that fits is within the frame, in whole numbers.
* `Canvas.render_framed` — a box that fits is shown there.
* `Canvas.render_strays` — boxes that are shown elsewhere.
-/

set_option autoImplicit false

namespace Dialogue

/-! ## Frames -/

namespace Rect

/-- The grid has places for a rectangle. -/
structure HasPlace (r : Rect) : Prop where
  x : OnGrid r.x
  y : OnGrid r.y
  width : OnGrid r.width
  height : OnGrid r.height

/-- A number gives itself as a place only if it is on the grid. -/
theorem onGrid_of_place? {n : Int} (h : place? (.int n) = some n) : OnGrid n := by
  simp only [place?] at h
  split at h
  · have hplace : onGrid n = n := Option.some.inj h
    rw [← hplace]
    exact onGrid_onGrid n
  · cases h

/-- **Numbers make the rectangle that they tell just when the grid has places for it.** -/
theorem ofValues_eq_ok_iff (r : Rect) :
    ofValues (.int r.x) (.int r.y) (.int r.width) (.int r.height) = .ok r ↔ r.HasPlace := by
  constructor
  · intro h
    unfold ofValues at h
    simp only [Value.number?, Option.bind_some] at h
    split at h
    · rename_i x y width height hx hy hwidth hheight
      cases h
      exact ⟨onGrid_of_place? hx, onGrid_of_place? hy, onGrid_of_place? hwidth,
        onGrid_of_place? hheight⟩
    · cases h
  · intro h
    exact ofValues_int h.x h.y h.width h.height

/-- The rectangle leaves a margin free on all four sides of a screen of this size.  From its corner, a
rectangle of negative width reaches to the left, and one of negative height upwards. -/
structure Framed (r : Rect) (width height margin : Int) : Prop where
  left : margin ≤ min r.x (r.x + r.width)
  right : max r.x (r.x + r.width) ≤ width - margin
  top : margin ≤ min r.y (r.y + r.height)
  bottom : max r.y (r.y + r.height) ≤ height - margin

/-- The grid has places for whatever is within the frame of a screen that ends before the grid does. -/
theorem Framed.hasPlace {r : Rect} {width height margin : Int} (framed : r.Framed width height margin)
    (positive : 0 ≤ margin) (wide : width < gridEnd) (high : height < gridEnd) : r.HasPlace := by
  obtain ⟨hleft, hright, htop, hbottom⟩ := framed
  unfold gridEnd at wide high
  constructor
  all_goals
    simp only [OnGrid, gridStart, gridEnd]
    omega

end Rect

namespace Placement

/-- A pop-up that fits with its margins keeps them free above and below. -/
theorem popY_free {height boxHeight margin : Int} (fits : boxHeight + 2 * margin ≤ height)
    (position : String) :
    margin ≤ popY height position boxHeight margin ∧
      popY height position boxHeight margin + boxHeight ≤ height - margin := by
  unfold popY
  split
  · omega
  · split <;> omega

/-- The position that a name tells.  Without a name, or with an empty one, it is the usual one. -/
def ofName (name? : Option String) : String :=
  (name?.filter fun name => name != "").getD usualPosition

end Placement

namespace Canvas

theorem positionOf_optionalText (name? : Option String) :
    positionOf (.optionalText name?) = .ok (Placement.ofName name?) := by
  cases name? with
  | none => rfl
  | some name =>
    unfold positionOf
    cases hname : name != "" <;>
      simp [Value.optionalText, Value.truthy, Placement.ofName, Option.filter, hname]

/-! ## Boxes that fit -/

/-- What a box takes of the width of a screen: a pop-up its own width, a full-width box the room beside
it. -/
def Measures.span (m : Measures) (imaged : Bool) : DialogKind → Int
  | .pop => m.boxWidth
  | .vn => m.room imaged

/-- Between the margins of a screen there is enough for a box. -/
structure Fits (kind : DialogKind) (m : Measures) (imaged : Bool) (width height line : Int) : Prop where
  screen : 0 ≤ width ∧ 0 ≤ height
  margin : 0 ≤ m.margin
  padded : 0 ≤ m.top ∧ 0 ≤ m.bottom
  lined : 0 ≤ line
  wide : m.span imaged kind + 2 * m.margin ≤ width
  high : m.boxHeight line + 2 * m.margin ≤ height

section

variable {c : Canvas} {width height line : Int} {kind : DialogKind} {options : Value} {m : Measures}

theorem Fits.boxHeight_nonneg {imaged : Bool} (fits : Fits kind m imaged width height line) :
    0 ≤ m.boxHeight line := by
  have hpadded := fits.padded
  have hlined := fits.lined
  unfold Measures.boxHeight
  omega

/-- **A box that fits is within the frame**, wherever it stands. -/
theorem Fits.framed {imaged : Bool} (fits : Fits kind m imaged width height line)
    (positive : 0 ≤ m.span imaged kind) (position : String) :
    (m.rect width height line position imaged kind).Framed width height m.margin := by
  have hheight := fits.boxHeight_nonneg
  have hwide := fits.wide
  have hhigh := fits.high
  cases kind with
  | pop =>
    simp only [Measures.span] at positive hwide
    have hx := Placement.popX_bounds hwide position
    have hy := Placement.popY_free hhigh position
    constructor
    all_goals
      simp only [Measures.rect]
      omega
  | vn =>
    simp only [Measures.span] at positive hwide
    constructor
    all_goals
      simp only [Measures.rect]
      omega

/-- Something is shown just where its box is placed. -/
theorem render_eq_iff (c : Canvas) (intent : Intent) (options : Value) (box : Rect) :
    c.render intent options =
        (.ok box, { c with boxes := c.boxes ++ [{ rect := box, intent, options }] }) ↔
      c.place options = .ok box := by
  unfold render
  cases c.place options with
  | error f =>
    constructor
    · intro h
      cases congrArg Prod.fst h
    · intro h
      cases h
  | ok rect =>
    constructor
    · intro h
      exact congrArg Prod.fst h
    · intro h
      cases h
      rfl

/-- **A box that fits is shown within the frame.**  In whole numbers it leaves the margin free on all four
sides, wherever it is meant to stand; a pop-up is as wide as its options say, and a full-width box reaches
up to the margin on the right.  It is shown there just when the grid has places for it, as it has on every
screen that ends before the grid does. -/
theorem render_framed (sized : c.Sized width height line) (outlined : Outlined kind options m)
    {name? : Option String}
    (standing : kind = .pop → found options ["position"] = .optionalText name?)
    (fits : Fits kind m (isImaged options) width height line)
    (positive : 0 ≤ m.span (isImaged options) kind) (intent : Intent) :
    let box := m.rect width height line (Placement.ofName name?) (isImaged options) kind
    let shown := (.ok box, { c with boxes := c.boxes ++ [{ rect := box, intent, options }] })
    box.Framed width height m.margin ∧
      (kind = .pop → box.width = m.boxWidth) ∧
      (kind = .vn → box.x + box.width = width - m.margin) ∧
      (c.render intent options = shown ↔ box.HasPlace) ∧
      (width < Rect.gridEnd → height < Rect.gridEnd → c.render intent options = shown) := by
  intro box shown
  have hposition : kind = .pop →
      positionOf (found options ["position"]) = .ok (Placement.ofName name?) := by
    intro hkind
    rw [standing hkind]
    exact positionOf_optionalText name?
  have hplace := place_outlined sized outlined hposition
  have hframed : box.Framed width height m.margin := fits.framed positive _
  have hshown : c.render intent options = shown ↔ box.HasPlace := by
    rw [← Rect.ofValues_eq_ok_iff, ← hplace]
    exact render_eq_iff c intent options box
  refine ⟨hframed, ?_, ?_, hshown, ?_⟩
  · intro hkind
    subst hkind
    rfl
  · intro hkind
    subst hkind
    simp only [box, Measures.rect]
    omega
  · intro hwide hhigh
    exact hshown.mpr (hframed.hasPlace fits.margin hwide hhigh)

end

/-- The general theorem for a pop-up in the lower right corner of a window, and for a full-width box with
an image beside it. -/
theorem render_framed_corner :
    let s := Settings.ofGiven (.flag true) (.ofTable [("position", .text "botright")])
    let popup := s.resolve .pop (some bean) (.text "bean") .null
    let broad := s.resolve .vn (some bean) (.text "bean") .null
    let pictured : Measures := { usual with imageWidth := 120 }
    window.Sized 960 540 18 ∧
      (Outlined .pop popup usual ∧ found popup ["position"] = .optionalText (some "botright") ∧
        Fits .pop usual (isImaged popup) 960 540 18 ∧ 0 ≤ usual.span (isImaged popup) .pop ∧
        (window.render (.ofText (.text "Hello")) popup).1 = .ok ⟨490, 454, 450, 66⟩ ∧
        Rect.Framed ⟨490, 454, 450, 66⟩ 960 540 20) ∧
      (Outlined .vn broad pictured ∧ Fits .vn pictured (isImaged broad) 960 540 18 ∧
        0 ≤ pictured.span (isImaged broad) .vn ∧
        (window.render (.ofText (.text "Hello")) broad).1 = .ok ⟨160, 454, 780, 66⟩ ∧
        Rect.Framed ⟨160, 454, 780, 66⟩ 960 540 20) := by
  intro s popup broad pictured
  have sized : window.Sized 960 540 18 := ⟨rfl, rfl, rfl⟩
  have hpop : Outlined .pop popup usual :=
    ⟨⟨_, rfl, by decide⟩, rfl, rfl, rfl, fun _ => rfl, nofun, nofun⟩
  have hvn : Outlined .vn broad pictured :=
    ⟨⟨_, rfl, by decide⟩, rfl, rfl, rfl, nofun, fun _ => rfl, fun _ _ => rfl⟩
  have hpopfits : Fits .pop usual (isImaged popup) 960 540 18 := by
    constructor <;> decide
  have hvnfits : Fits .vn pictured (isImaged broad) 960 540 18 := by
    constructor <;> decide
  have hposition : found popup ["position"] = .optionalText (some "botright") := rfl
  have hnone : found broad ["position"] = .optionalText none := rfl
  have hgrid : (960 : Int) < Rect.gridEnd ∧ (540 : Int) < Rect.gridEnd := by decide
  obtain ⟨hcorner, -, -, -, hshown⟩ :=
    render_framed sized hpop (fun _ => hposition) hpopfits (by decide) (.ofText (.text "Hello"))
  obtain ⟨hbottom, -, -, -, hspread⟩ :=
    render_framed sized hvn (fun _ => hnone) hvnfits (by decide) (.ofText (.text "Hello"))
  refine ⟨sized, ⟨hpop, hposition, hpopfits, by decide, ?_, hcorner⟩,
    ⟨hvn, hvnfits, by decide, ?_, hbottom⟩⟩
  · rw [hshown hgrid.1 hgrid.2]
    exact congrArg Except.ok (by decide)
  · rw [hspread hgrid.1 hgrid.2]
    exact congrArg Except.ok (by decide)

/-! ## Boxes out of their frame -/

/-- Options that say where a box stands, and nothing else.  A pop-up stands at the usual position. -/
def bareOptions (kind : DialogKind) (m : Measures) (image : Value) : Value :=
  .ofTable
    [("dialog_type", .text kind.name),
     ("text_box", .ofTable
       [("width", .int m.boxWidth), ("margin", .int m.margin),
        ("padding", .ofTable [("top", .int m.top), ("bottom", .int m.bottom)])]),
     ("side_image", .ofTable
       [("name", image), ("options", .ofTable [("width", .int m.imageWidth)])])]

theorem outlined_bareOptions (kind : DialogKind) (m : Measures) (image : Value) :
    Outlined kind (bareOptions kind m image) m := by
  refine ⟨⟨.text kind.name, rfl, ?_⟩, rfl, rfl, rfl, fun _ => rfl, fun _ => rfl, fun _ _ => rfl⟩
  cases kind <;> decide

/-- By its numbers there is enough for a box between the margins, and yet it is not shown there. -/
structure Strays (kind : DialogKind) (m : Measures) (c : Canvas) (options : Value)
    (width height line : Int) (box : Rect) : Prop where
  sized : c.Sized width height line
  outlined : Outlined kind options m
  standing : found options ["position"] = .optionalText none
  fits : Fits kind m (isImaged options) width height line
  shown : (c.render (.ofText (.text "Hello")) options).1 = .ok box
  strays : ¬box.Framed width height m.margin

/-- A box can stray on a screen that goes on where the grid ends, and so can a pop-up of negative width, and
a full-width box with negative room beside it. -/
theorem render_strays :
    let huge : Measures := { usual with margin := 0, top := 0, bottom := 0, boxWidth := 2147483648 }
    let wall : Canvas :=
      { width := .int 2147483648, height := .int 2147483648, lineHeight := .int 1073741824 }
    let shrunk : Measures := { usual with boxWidth := -10 }
    let inverse : Measures := { usual with imageWidth := -60 }
    Strays .pop huge wall (bareOptions .pop huge .null) 2147483648 2147483648 1073741824
        ⟨0, 0, -2147483648, -2147483648⟩ ∧
      Strays .pop shrunk window (bareOptions .pop shrunk .null) 960 540 18 ⟨20, 20, -10, 66⟩ ∧
      Strays .vn inverse window (bareOptions .vn inverse (.text "bean")) 960 540 18
        ⟨-20, 454, 960, 66⟩ := by
  intro huge wall shrunk inverse
  refine ⟨⟨⟨rfl, rfl, rfl⟩, outlined_bareOptions _ _ _, rfl, ?_, rfl, ?_⟩,
    ⟨⟨rfl, rfl, rfl⟩, outlined_bareOptions _ _ _, rfl, ?_, rfl, ?_⟩,
    ⟨⟨rfl, rfl, rfl⟩, outlined_bareOptions _ _ _, rfl, ?_, rfl, ?_⟩⟩
  · constructor <;> decide
  · intro framed
    exact absurd framed.left (by decide)
  · constructor <;> decide
  · intro framed
    exact absurd framed.left (by decide)
  · constructor <;> decide
  · intro framed
    exact absurd framed.left (by decide)

end Canvas

end Dialogue
