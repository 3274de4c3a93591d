import Dialogue.Proofs.Canvas.Layout

/-!
# Boxes in whole numbers

On a screen of whole numbers, with options that give whole numbers, a box stands where simple sums say
and is painted in full.  A full-width box leaves room for the image beside it.  A pop-up leaves none: its
image is off the screen unless the box happens to stand far enough from the left, and is high enough or
stands low enough.

## Results

* `Canvas.place_outlined` — where a box stands.
* `Canvas.paints_sketch` — a box is painted in full, and its image is where `Placement.imageRect` says.
* `Canvas.image_inside_iff` — when the image beside a box is on the screen.
-/

set_option autoImplicit false

namespace Dialogue

/-! ## Rectangles in whole numbers -/

namespace Rect

/-- A number on the grid. -/
def OnGrid (n : Int) : Prop :=
  gridStart ≤ n ∧ n < gridEnd

instance (n : Int) : Decidable (OnGrid n) :=
  inferInstanceAs (Decidable (_ ∧ _))

theorem onGrid_onGrid (n : Int) : OnGrid (onGrid n) := by
  have hsize : 0 < gridSize := by decide
  have hlow := Int.le_bmod (x := n) hsize
  have hhigh := Int.bmod_lt (x := n) hsize
  simp only [OnGrid, onGrid, gridSize, gridStart, gridEnd] at hlow hhigh ⊢
  omega

/-- Places can be taken from numbers of at most 64 binary digits. -/
theorem ofValues_words {x y width height : Int} (hx : isWord x = true) (hy : isWord y = true)
    (hwidth : isWord width = true) (hheight : isWord height = true) :
    ofValues (.int x) (.int y) (.int width) (.int height) =
      .ok ⟨onGrid x, onGrid y, onGrid width, onGrid height⟩ := by
  simp only [ofValues, Value.number?, Option.bind_some, place?, hx, hy, hwidth, hheight, if_true]

/-- Numbers up to ten thousand million have at most 64 binary digits. -/
theorem isWord_of_bounds {n : Int} (low : -10000000000 ≤ n) (high : n ≤ 10000000000) :
    isWord n = true := by
  simp only [isWord, Bool.and_eq_true, decide_eq_true_eq]
  omega

theorem isWord_of_onGrid {n : Int} (h : OnGrid n) : isWord n = true := by
  obtain ⟨hlow, hhigh⟩ := h
  simp only [gridStart, gridEnd] at hlow hhigh
  exact isWord_of_bounds (by omega) (by omega)

/-- Numbers on the grid make a rectangle as they are. -/
theorem ofValues_int {x y width height : Int} (hx : OnGrid x) (hy : OnGrid y) (hwidth : OnGrid width)
    (hheight : OnGrid height) :
    ofValues (.int x) (.int y) (.int width) (.int height) = .ok ⟨x, y, width, height⟩ := by
  rw [ofValues_words (isWord_of_onGrid hx) (isWord_of_onGrid hy) (isWord_of_onGrid hwidth)
    (isWord_of_onGrid hheight), onGrid_eq hx.1 hx.2, onGrid_eq hy.1 hy.2,
    onGrid_eq hwidth.1 hwidth.2, onGrid_eq hheight.1 hheight.2]

end Rect

namespace Placement

/-- The left end of a pop-up. -/
def popX (width : Int) (position : String) (boxWidth margin : Int) : Int :=
  if endsIn position "left" then margin
  else if endsIn position "right" then width - boxWidth - margin
  else (width - boxWidth) / 2

/-- The upper end of a pop-up. -/
def popY (height : Int) (position : String) (boxHeight margin : Int) : Int :=
  if beginsWith position "top" then margin
  else if beginsWith position "bot" then height - margin - boxHeight
  else (height - boxHeight) / 2

/-- A pop-up that fits with its margins keeps them free. -/
theorem popX_bounds {width boxWidth margin : Int} (fits : boxWidth + 2 * margin ≤ width)
    (position : String) :
    margin ≤ popX width position boxWidth margin ∧
      popX width position boxWidth margin + boxWidth ≤ width - margin := by
  unfold popX
  split
  · omega
  · split <;> omega

/-- A pop-up that fits goes beyond the screen by its margin at most. -/
theorem popY_bounds {height boxHeight margin : Int} (positive : 0 ≤ margin)
    (fits : boxHeight ≤ height) (position : String) :
    -margin ≤ popY height position boxHeight margin ∧
      popY height position boxHeight margin + boxHeight ≤ height + margin := by
  unfold popY
  split
  · omega
  · split <;> omega

theorem popRect_int (width height : Int) (position : String) (boxWidth boxHeight margin : Int) :
    popRect (.int width) (.int height) position (.int boxWidth) (.int boxHeight) (.int margin) =
      Rect.ofValues (.int (popX width position boxWidth margin))
        (.int (popY height position boxHeight margin)) (.int boxWidth) (.int boxHeight) := by
  have hx : popLeft (.int width) position (.int boxWidth) (.int margin) =
      .ok (.int (popX width position boxWidth margin)) := by
    unfold popLeft popX
    split
    · rfl
    · split <;> rfl
  have hy : popTop (.int height) position (.int boxHeight) (.int margin) =
      .ok (.int (popY height position boxHeight margin)) := by
    unfold popTop popY
    split
    · rfl
    · split <;> rfl
  simp only [popRect, hx, hy, Step.ok_bind]

theorem vnRect_int (width height room boxHeight margin : Int) :
    vnRect (.int width) (.int height) (.int room) (.int boxHeight) (.int margin) =
      Rect.ofValues (.int (margin + room)) (.int (height - margin - boxHeight))
        (.int (width - 2 * margin - room)) (.int boxHeight) :=
  rfl

theorem imageRect_int (box : Rect) (size : Int) :
    imageRect box (.int size) =
      Rect.ofValues (.int (box.x - size - 10)) (.int (box.bottom - size)) (.int size) (.int size) :=
  rfl

/-- Beside a box on the grid there is a place for an image of any size on the grid. -/
theorem exists_imageRect {box : Rect} {size : Int} (hx : Rect.OnGrid box.x)
    (hsize : Rect.OnGrid size) : ∃ image, imageRect box (.int size) = .ok image := by
  have hbottom : Rect.OnGrid box.bottom := Rect.onGrid_onGrid _
  have hwide : Rect.isWord size = true := Rect.isWord_of_onGrid hsize
  simp only [Rect.OnGrid, Rect.gridStart, Rect.gridEnd] at hx hbottom hsize
  have hleft : Rect.isWord (box.x - size - 10) = true :=
    Rect.isWord_of_bounds (by omega) (by omega)
  have htop : Rect.isWord (box.bottom - size) = true :=
    Rect.isWord_of_bounds (by omega) (by omega)
  rw [imageRect_int]
  exact ⟨_, Rect.ofValues_words hleft htop hwide hwide⟩

end Placement

namespace Canvas

/-! ## Measures -/

/-- What options say of a box, in whole numbers. -/
structure Measures where
  margin : Int
  top : Int
  right : Int
  bottom : Int
  left : Int
  /-- The width of a pop-up. -/
  boxWidth : Int
  imageWidth : Int

/-- The height of a box with two lines of text. -/
def Measures.boxHeight (m : Measures) (line : Int) : Int :=
  2 * line + m.top + m.bottom

/-- The room beside a full-width box, with an image or without. -/
def Measures.room (m : Measures) (imaged : Bool) : Int :=
  if imaged then m.imageWidth + m.margin else 0

/-- Where a box stands on a screen of this size. -/
def Measures.rect (m : Measures) (width height line : Int) (position : String) (imaged : Bool) :
    DialogKind → Rect
  | .pop =>
    { x := Placement.popX width position m.boxWidth m.margin
      y := Placement.popY height position (m.boxHeight line) m.margin
      width := m.boxWidth
      height := m.boxHeight line }
  | .vn =>
    { x := m.margin + m.room imaged
      y := height - m.margin - m.boxHeight line
      width := width - 2 * m.margin - m.room imaged
      height := m.boxHeight line }

/-- Furnished options that give these whole numbers. -/
structure Measured (kind : DialogKind) (options : Value) (m : Measures) : Prop
    extends Furnished kind options where
  margin : options.at? ["text_box", "margin"] = some (.int m.margin)
  top : options.at? ["text_box", "padding", "top"] = some (.int m.top)
  right : options.at? ["text_box", "padding", "right"] = some (.int m.right)
  bottom : options.at? ["text_box", "padding", "bottom"] = some (.int m.bottom)
  left : options.at? ["text_box", "padding", "left"] = some (.int m.left)
  boxWidth : kind = .pop → options.at? ["text_box", "width"] = some (.int m.boxWidth)
  imageWidth : options.at? ["side_image", "options", "width"] = some (.int m.imageWidth)

/-- A screen of this size, with lines of this height. -/
structure Sized (c : Canvas) (width height line : Int) : Prop where
  width : c.width = .int width
  height : c.height = .int height
  line : c.lineHeight = .int line

/-- Is there an image beside a box with these options? -/
def isImaged (options : Value) : Bool :=
  (found options ["side_image", "name"]).truthy

section

variable {c : Canvas} {width height line : Int} {kind : DialogKind} {options : Value} {m : Measures}

/-! ## Placing -/

/-- What stands under a key is what the mapping has as its entry. -/
theorem entry_of_at? {path : List String} {key : String} {v : Value}
    (h : options.at? (path ++ [key]) = some v) : entry (found options path) key = .ok v := by
  rw [entry_found (Option.isSome_of_eq_some h), found_of_at? h]

/-- What leads to something is there to be looked up. -/
theorem entry_of_leads (path : List String) {key : String} {rest : List String} {v : Value}
    (leads : options.at? (path ++ key :: rest) = some v) :
    entry (found options path) key = .ok (found options (path ++ [key])) := by
  rw [List.append_cons] at leads
  apply entry_found
  apply Value.isSome_at?_of_append
  exact Option.isSome_of_eq_some leads

/-- Options that give these whole numbers as far as they are read when a box is placed.  What else a box
needs to be painted may be missing. -/
structure Outlined (kind : DialogKind) (options : Value) (m : Measures) : Prop where
  family : ∃ v, options.get? kindName = some v ∧ (v = .text DialogKind.vn.name ↔ kind = .vn)
  margin : options.at? ["text_box", "margin"] = some (.int m.margin)
  top : options.at? ["text_box", "padding", "top"] = some (.int m.top)
  bottom : options.at? ["text_box", "padding", "bottom"] = some (.int m.bottom)
  boxWidth : kind = .pop → options.at? ["text_box", "width"] = some (.int m.boxWidth)
  side : kind = .vn → (found options ["side_image"]).kind = .tree
  imageWidth : kind = .vn → isImaged options = true →
    options.at? ["side_image", "options", "width"] = some (.int m.imageWidth)

theorem Measured.outlined (measured : Measured kind options m) : Outlined kind options m where
  family := by
    refine ⟨.text kind.name, measured.family, ?_⟩
    cases kind <;> decide
  margin := measured.margin
  top := measured.top
  bottom := measured.bottom
  boxWidth := measured.boxWidth
  side _ := measured.mapping (.inr (by decide))
  imageWidth _ _ := measured.imageWidth

/-- A box is high enough for two lines and its paddings. -/
theorem Outlined.boxHeight_eq (outlined : Outlined kind options m)
    (sized : c.Sized width height line) :
    c.boxHeight (found options ["text_box", "padding"]) = .ok (.int (m.boxHeight line)) := by
  have htop : entry (found options ["text_box", "padding"]) "top" = .ok (.int m.top) :=
    entry_of_at? outlined.top
  have hbottom : entry (found options ["text_box", "padding"]) "bottom" = .ok (.int m.bottom) :=
    entry_of_at? outlined.bottom
  unfold boxHeight
  rw [sized.line, htop, hbottom]
  rfl

/-- Beside a full-width box there is room for an image and a margin, if there is an image. -/
theorem Outlined.imageRoom_eq (outlined : Outlined .vn options m) :
    imageRoom options (.int m.margin) = .ok (.int (m.room (isImaged options))) := by
  have hside : entry options "side_image" = .ok (found options ["side_image"]) := by
    apply @entry_found options []
    cases hat : options.at? ["side_image"] with
    | none =>
      have htree := outlined.side rfl
      rw [found, hat] at htree
      cases htree
    | some side => exact congrArg Option.isSome hat
  have hname : lookup (found options ["side_image"]) "name" =
      .ok (found options ["side_image", "name"]) :=
    lookup_found (outlined.side rfl) "name"
  unfold imageRoom
  simp only [hside, hname, Step.ok_bind]
  -- the width of an image is only looked up when there is one
  split
  · rename_i himaged
    have hwidth := outlined.imageWidth rfl himaged
    have hoptions : entry (found options ["side_image"]) "options" =
        .ok (found options ["side_image", "options"]) :=
      entry_of_leads ["side_image"] hwidth
    have hentry : entry (found options ["side_image", "options"]) "width" = .ok (.int m.imageWidth) :=
      entry_of_at? hwidth
    rw [hoptions, Step.ok_bind, hentry, Step.ok_bind, isImaged, Measures.room, if_pos himaged]
    rfl
  · rename_i himaged
    rw [isImaged, Measures.room, if_neg himaged]
    rfl

/-- **Where a box stands.** -/
theorem place_outlined (sized : c.Sized width height line) (outlined : Outlined kind options m)
    {position : String}
    (standing : kind = .pop → positionOf (found options ["position"]) = .ok position) :
    let r := m.rect width height line position (isImaged options) kind
    c.place options = Rect.ofValues (.int r.x) (.int r.y) (.int r.width) (.int r.height) := by
  intro r
  obtain ⟨v, hv, hfamily⟩ := outlined.family
  have hkind : entry options "dialog_type" = .ok v := by
    apply @entry_of_at? options []
    rw [List.nil_append, ← kindName, Value.at?, hv]
    rfl
  have hbox : entry options "text_box" = .ok (found options ["text_box"]) :=
    entry_of_leads [] outlined.margin
  have hmargin : entry (found options ["text_box"]) "margin" = .ok (.int m.margin) :=
    entry_of_at? outlined.margin
  have hpadding : entry (found options ["text_box"]) "padding" =
      .ok (found options ["text_box", "padding"]) :=
    entry_of_leads ["text_box"] outlined.top
  simp only [place, hbox, hmargin, hpadding, hkind, outlined.boxHeight_eq sized, Step.ok_bind]
  cases kind with
  | pop =>
    have hpop : ¬v = .text DialogKind.vn.name := by
      intro h
      cases hfamily.mp h
    obtain ⟨form, es, rfl⟩ := Value.exists_tree_of_get? hv
    have hposition : lookup (.tree form es) "position" = .ok (found (.tree form es) ["position"]) :=
      @lookup_found (.tree form es) [] rfl "position"
    have hwidth : entry (found (.tree form es) ["text_box"]) "width" = .ok (.int m.boxWidth) :=
      entry_of_at? (outlined.boxWidth rfl)
    simp only [if_neg hpop, hposition, hwidth, Step.ok_bind, popRect, standing rfl, sized.width,
      sized.height]
    exact Placement.popRect_int _ _ _ _ _ _
  | vn =>
    simp only [if_pos (hfamily.mpr rfl), outlined.imageRoom_eq, Step.ok_bind, sized.width,
      sized.height]
    exact Placement.vnRect_int _ _ _ _ _

/-! ## Painting -/

/-- Painting that leaves exactly these marks. -/
def Paints (x : Painting Unit) (marks : List Mark) : Prop :=
  ∀ before, x before = (.ok (), before ++ marks)

theorem paints_pure : Paints (pure ()) [] := by
  intro before
  rw [List.append_nil]
  rfl

theorem paints_paint (mark : Mark) : Paints (paint mark) [mark] :=
  fun _ => rfl

theorem Paints.bind {x y : Painting Unit} {marks more : List Mark} (hx : Paints x marks)
    (hy : Paints y more) : Paints (x >>= fun _ => y) (marks ++ more) := by
  intro before
  rw [Step.bind_eq_of_ok (hx before), hy, List.append_assoc]

/-- The place of the placeholder for an image, if this is one. -/
def Mark.image? : Mark → Option Rect
  | .rect color r none => if color = imageColor then some r else none
  | _ => none

/-- The placeholders for images among some marks. -/
def images (marks : List Mark) : List Rect :=
  marks.filterMap Mark.image?

variable {b : Placed}

theorem paints_sketchImage (measured : Measured kind b.options m) {image : Rect}
    (placed : Placement.imageRect b.rect (.int m.imageWidth) = .ok image) :
    ∃ marks, Paints (sketchImage b) marks ∧
      images marks = if isImaged b.options then [image] else [] := by
  unfold sketchImage isImaged
  rw [found_of_at? measured.imageWidth, placed, Step.of_ok_bind]
  split
  · exact ⟨_, (paints_paint _).bind (paints_paint _), rfl⟩
  · exact ⟨_, paints_pure, rfl⟩

theorem paints_sketchText (measured : Measured kind b.options m) (line : Int) :
    ∃ marks, Paints (sketchText (.int line) b) marks ∧ images marks = [] := by
  unfold sketchText
  simp only [found_of_at? measured.left, found_of_at? measured.top, Value.plus_int, Step.of_ok_bind]
  split
  · exact ⟨_, (paints_paint _).bind (paints_paint _), rfl⟩
  · exact ⟨_, paints_paint _, rfl⟩

theorem paints_sketchPrompt (measured : Measured kind b.options m) :
    ∃ marks, Paints (sketchPrompt b) marks ∧ images marks = [] := by
  unfold sketchPrompt
  simp only [found_of_at? measured.right, found_of_at? measured.bottom, Value.minus_int,
    Step.of_ok_bind]
  split
  · exact ⟨_, paints_paint _, rfl⟩
  · exact ⟨_, paints_pure, rfl⟩

/-- **A box is painted in full**, with one placeholder for the image beside it, if it has one. -/
theorem paints_sketch (measured : Measured kind b.options m) (line : Int) {image : Rect}
    (placed : Placement.imageRect b.rect (.int m.imageWidth) = .ok image) :
    ∃ marks, Paints (paintBox (.int line) b) marks ∧
      images marks = if isImaged b.options then [image] else [] := by
  obtain ⟨pictured, himage, hpictured⟩ := paints_sketchImage measured placed
  obtain ⟨written, htext, hwritten⟩ := paints_sketchText measured line
  obtain ⟨signed, hprompt, hsigned⟩ := paints_sketchPrompt measured
  rw [paintBox_eq measured.toFurnished]
  refine ⟨_, (paints_paint _).bind (himage.bind (htext.bind hprompt)), ?_⟩
  have happend (front back : List Mark) : images (front ++ back) = images front ++ images back :=
    List.filterMap_append
  have hpaper (radius : Value) : images [.rect paper b.rect (some radius)] = [] := rfl
  simp only [happend, hpaper, hpictured, hwritten, hsigned, List.nil_append, List.append_nil]

theorem paintBoxes_append (lineHeight : Value) (boxes more : List Placed) :
    paintBoxes lineHeight (boxes ++ more) =
      (paintBoxes lineHeight boxes >>= fun _ => paintBoxes lineHeight more) := by
  induction boxes with
  | nil => rfl
  | cons b rest ih =>
    rw [List.cons_append, paintBoxes, paintBoxes, ih, bind_assoc]

/-- A box that is put on a canvas is painted after those that are there. -/
theorem draw_add {c : Canvas} {before marks : List Mark} (drawn : c.draw = (.ok (), before))
    (painted : Paints (paintBox c.lineHeight b) marks) :
    ({ c with boxes := c.boxes ++ [b] } : Canvas).draw = (.ok (), before ++ marks) := by
  have hbox : Paints (paintBoxes c.lineHeight [b]) (marks ++ []) := painted.bind paints_pure
  rw [List.append_nil] at hbox
  have hdrawn : paintBoxes c.lineHeight c.boxes [] = (.ok (), before) := drawn
  show paintBoxes c.lineHeight (c.boxes ++ [b]) [] = _
  rw [paintBoxes_append, Step.bind_eq_of_ok hdrawn, hbox]

end

/-! ## Images -/

/-- The screen has room for the box with an image of some width beside it, and for the margins, and is not
too large for the grid. -/
structure Roomy (kind : DialogKind) (m : Measures) (width height line : Int) : Prop where
  imaged : 0 < m.imageWidth
  margin : 10 ≤ m.margin
  padded : 0 ≤ m.top ∧ 0 ≤ m.bottom
  lined : 0 ≤ line
  boxed : kind = .pop → 0 ≤ m.boxWidth
  wide : kind = .pop → m.boxWidth + m.imageWidth + 10 + 2 * m.margin ≤ width
  high : m.boxHeight line ≤ height ∧ m.imageWidth + 2 * m.margin ≤ height
  grid : 0 ≤ width ∧ width + 2 * height < Rect.gridEnd

/-- The rectangle of a screen. -/
def screenRect (width height : Int) : Rect :=
  { x := 0, y := 0, width, height }

/-- Where the image beside a box is, in whole numbers. -/
def imageBeside (box : Rect) (size : Int) : Rect :=
  { x := box.x - size - 10, y := box.y + box.height - size, width := size, height := size }

section

variable {c : Canvas} {width height line : Int} {kind : DialogKind} {options : Value} {m : Measures}

/-- The numbers of a box with room are on the grid, and so is what is calculated with them. -/
theorem Roomy.onGrid (roomy : Roomy kind m width height line) (position : String) :
    let r := m.rect width height line position true kind
    (Rect.OnGrid r.x ∧ Rect.OnGrid r.y ∧ Rect.OnGrid r.width ∧ Rect.OnGrid r.height) ∧
      Rect.OnGrid (r.y + r.height) ∧ Rect.OnGrid (r.x - m.imageWidth - 10) ∧
        Rect.OnGrid (r.y + r.height - m.imageWidth) ∧ Rect.OnGrid m.imageWidth ∧
          Rect.OnGrid (r.x - 10) ∧ Rect.OnGrid (r.x + r.width) := by
  obtain ⟨himage, hmargin, ⟨htop, hbottom⟩, hline, hboxed, hwide, ⟨hbh, hih⟩, hw, hgrid⟩ := roomy
  have hheight : 0 ≤ m.boxHeight line := by
    unfold Measures.boxHeight
    omega
  cases kind with
  | pop =>
    have hwide := hwide rfl
    have hboxed := hboxed rfl
    have hfits : m.boxWidth + 2 * m.margin ≤ width := by omega
    have hpositive : 0 ≤ m.margin := by omega
    have hx := Placement.popX_bounds hfits position
    have hy := Placement.popY_bounds hpositive hbh position
    simp only [Measures.rect, Rect.OnGrid, Rect.gridStart, Rect.gridEnd] at hgrid ⊢
    omega
  | vn =>
    simp only [Measures.rect, Measures.room, Rect.OnGrid, Rect.gridStart, Rect.gridEnd, if_true]
      at hgrid ⊢
    omega

theorem Roomy.screenRect_edges (roomy : Roomy kind m width height line) :
    (screenRect width height).right = width ∧ (screenRect width height).bottom = height := by
  have hgrid := roomy.grid
  have himaged := roomy.imaged
  have hmargin := roomy.margin
  have hhigh := roomy.high
  unfold screenRect Rect.right Rect.bottom
  simp only [Int.zero_add]
  constructor <;>
  · refine Rect.onGrid_eq ?_ ?_ <;>
    · simp only [Rect.gridStart, Rect.gridEnd] at hgrid ⊢
      omega

/-- A box ends where its measures say. -/
theorem Roomy.box_edges (roomy : Roomy kind m width height line) {position : String} {box : Rect}
    (hbox : box = m.rect width height line position true kind) :
    box.right = box.x + box.width ∧ box.bottom = box.y + box.height := by
  obtain ⟨-, hbottom, -, -, -, -, hright⟩ := roomy.onGrid position
  rw [← hbox] at hbottom hright
  exact ⟨Rect.onGrid_eq hright.1 hright.2, Rect.onGrid_eq hbottom.1 hbottom.2⟩

/-- An image ends where the gap before its box begins, and at the bottom with the box. -/
theorem Roomy.image_edges (roomy : Roomy kind m width height line) {position : String} {box : Rect}
    (hbox : box = m.rect width height line position true kind) :
    (imageBeside box m.imageWidth).right = box.x - 10 ∧
      (imageBeside box m.imageWidth).bottom = box.y + box.height := by
  generalize himage : imageBeside box m.imageWidth = image
  obtain ⟨-, hbottom, -, -, -, hright, -⟩ := roomy.onGrid position
  rw [← hbox] at hbottom hright
  have hwide : image.x + image.width = box.x - 10 := by
    rw [← himage]
    show box.x - m.imageWidth - 10 + m.imageWidth = box.x - 10
    omega
  have hhigh : image.y + image.height = box.y + box.height := by
    rw [← himage]
    show box.y + box.height - m.imageWidth + m.imageWidth = box.y + box.height
    omega
  constructor
  · rw [Rect.right, hwide]
    exact Rect.onGrid_eq hright.1 hright.2
  · rw [Rect.bottom, hhigh]
    exact Rect.onGrid_eq hbottom.1 hbottom.2

/-- An image covers what its measures say. -/
theorem Roomy.image_ends (roomy : Roomy kind m width height line) {position : String} {box : Rect}
    (hbox : box = m.rect width height line position true kind) :
    let image := imageBeside box m.imageWidth
    image.leftEnd = box.x - m.imageWidth - 10 ∧ image.rightEnd = box.x - 10 ∧
      image.topEnd = box.y + box.height - m.imageWidth ∧ image.bottomEnd = box.y + box.height := by
  intro image
  have himaged := roomy.imaged
  obtain ⟨hright, hbottom⟩ := roomy.image_edges hbox
  have hx : image.x = box.x - m.imageWidth - 10 := rfl
  have hy : image.y = box.y + box.height - m.imageWidth := rfl
  unfold Rect.leftEnd Rect.rightEnd Rect.topEnd Rect.bottomEnd
  rw [hright, hbottom, hx, hy]
  omega

/-- An image is on the screen when its four sides are. -/
theorem Roomy.inside_iff (roomy : Roomy kind m width height line) {position : String} {box : Rect}
    (hbox : box = m.rect width height line position true kind) :
    (imageBeside box m.imageWidth).Inside (screenRect width height) ↔
      m.imageWidth + 10 ≤ box.x ∧ m.imageWidth ≤ box.y + box.height ∧ box.x - 10 ≤ width ∧
        box.y + box.height ≤ height := by
  have himaged := roomy.imaged
  have hmargin := roomy.margin
  have hhigh := roomy.high
  have hgrid := roomy.grid
  obtain ⟨hleft, hright, htop, hbottom⟩ := roomy.image_ends hbox
  obtain ⟨hscreenright, hscreenbottom⟩ := roomy.screenRect_edges
  have hscreen : (screenRect width height).x = 0 ∧ (screenRect width height).y = 0 := ⟨rfl, rfl⟩
  unfold Rect.Inside
  rw [hleft, hright, htop, hbottom]
  unfold Rect.leftEnd Rect.rightEnd Rect.topEnd Rect.bottomEnd
  rw [hscreenright, hscreenbottom, hscreen.1, hscreen.2]
  omega

/-- An image and its box keep apart, as long as the box does not reach back over the gap between them or
has no height. -/
theorem Roomy.apart_iff (roomy : Roomy kind m width height line) {position : String} {box : Rect}
    (hbox : box = m.rect width height line position true kind) :
    (imageBeside box m.imageWidth).Apart box ↔ -10 ≤ box.width ∨ box.height = 0 := by
  have himaged := roomy.imaged
  have hheight : 0 ≤ box.height := by
    have hbh : box.height = m.boxHeight line := by
      rw [hbox]
      cases kind <;> rfl
    have hpadded := roomy.padded
    have hlined := roomy.lined
    rw [hbh, Measures.boxHeight]
    omega
  obtain ⟨hleft, hright, htop, hbottom⟩ := roomy.image_ends hbox
  obtain ⟨hboxright, hboxbottom⟩ := roomy.box_edges hbox
  unfold Rect.Apart
  rw [hleft, hright, htop, hbottom]
  unfold Rect.leftEnd Rect.rightEnd Rect.topEnd Rect.bottomEnd
  rw [hboxright, hboxbottom]
  omega

/-- A box with room stands where its measures say, and its image beside it. -/
theorem Roomy.placed (roomy : Roomy kind m width height line) (sized : c.Sized width height line)
    (measured : Measured kind options m) (imaged : isImaged options = true) {position : String}
    (standing : kind = .pop → positionOf (found options ["position"]) = .ok position) :
    let box := m.rect width height line position true kind
    c.place options = .ok box ∧
      Placement.imageRect box (.int m.imageWidth) = .ok (imageBeside box m.imageWidth) := by
  intro box
  obtain ⟨⟨hx, hy, hw, hh⟩, -, himagex, himagey, hsize, -, -⟩ := roomy.onGrid position
  constructor
  · rw [place_outlined sized measured.outlined standing, imaged]
    exact Rect.ofValues_int hx hy hw hh
  · rw [Placement.imageRect_int, (roomy.box_edges rfl).2]
    exact Rect.ofValues_int himagex himagey hsize hsize

/-- **When the image beside a box is on the screen.**  A box with room is shown where its measures say,
and when the canvas is drawn, one image is painted with it.  Beside a full-width box the image is on the
screen, unless the screen is too narrow for the box to have any width; on a narrow screen such a box
reaches back over its image, if it has any height.  A pop-up does not overlap its image, but leaves no
room for it: the image is on the screen just when the box stands far enough from the left, ends low
enough, and does not end below the screen itself. -/
theorem image_inside_iff (sized : c.Sized width height line) (measured : Measured kind options m)
    (imaged : isImaged options = true) {position : String}
    (standing : kind = .pop → positionOf (found options ["position"]) = .ok position)
    (roomy : Roomy kind m width height line) (intent : Intent) :
    let box := m.rect width height line position true kind
    let image := imageBeside box m.imageWidth
    c.render intent options =
        (.ok box, { c with boxes := c.boxes ++ [{ rect := box, intent, options }] }) ∧
      (∀ before, c.draw = (.ok (), before) → ∃ marks,
        (c.render intent options).2.draw = (.ok (), before ++ marks) ∧ images marks = [image]) ∧
      (kind = .vn →
        (image.Apart box ↔ m.imageWidth + 3 * m.margin ≤ width + 10 ∨ m.boxHeight line = 0) ∧
        (image.Inside (screenRect width height) ↔ m.imageWidth + 2 * m.margin ≤ width + 10)) ∧
      (kind = .pop → image.Apart box ∧
        (image.Inside (screenRect width height) ↔
          m.imageWidth + 10 ≤ box.x ∧ m.imageWidth ≤ box.y + box.height ∧
            box.y + box.height ≤ height)) := by
  intro box image
  obtain ⟨hplace, hplaced⟩ := roomy.placed sized measured imaged standing
  have hrender : c.render intent options =
      (.ok box, { c with boxes := c.boxes ++ [{ rect := box, intent, options }] }) := by
    unfold render
    rw [hplace]
  refine ⟨hrender, fun before drawn => ?_, fun hkind => ?_, fun hkind => ?_⟩
  · obtain ⟨marks, hpainted, himages⟩ :=
      paints_sketch (b := { rect := box, intent, options }) measured line hplaced
    rw [imaged] at himages
    rw [hrender]
    exact ⟨marks, draw_add drawn (sized.line ▸ hpainted), himages⟩
  · have hmargin := roomy.margin
    have hhigh := roomy.high
    rw [roomy.apart_iff rfl, roomy.inside_iff rfl]
    subst hkind
    simp only [Measures.rect, Measures.room, if_true]
    omega
  · have hmargin := roomy.margin
    have himaged := roomy.imaged
    rw [roomy.apart_iff rfl, roomy.inside_iff rfl]
    subst hkind
    have hwide := roomy.wide rfl
    have hboxed := roomy.boxed rfl
    have hfits : m.boxWidth + 2 * m.margin ≤ width := by omega
    have hbounds := Placement.popX_bounds hfits position
    simp only [box, Measures.rect]
    omega

end

/-- A speaker whose lines stand in pop-ups. -/
def bean : Character :=
  { key := "r", name := some "Robot", expressions := [("happy", "bean")] }

/-- A window. -/
def window : Canvas :=
  { width := .int 960, height := .int 540, lineHeight := .int 18 }

/-- What the default options say of a pop-up. -/
def usual : Measures :=
  { margin := 20, top := 15, right := 20, bottom := 15, left := 20, boxWidth := 450, imageWidth := 60 }

theorem roomy_usual : Roomy .pop usual 960 540 18 := by
  refine ⟨?_, ?_, ?_, ?_, fun _ => ?_, fun _ => ?_, ?_, ?_⟩ <;> decide

/-- The general theorem for a pop-up in the middle of a window, with its image on the screen. -/
theorem image_inside_iff_middle :
    let options := (Settings.ofGiven (.flag true) (.ofTable [("position", .text "center")])).resolve
      .pop (some bean) (.text "bean") .null
    window.Sized 960 540 18 ∧ Measured .pop options usual ∧ isImaged options = true ∧
      positionOf (found options ["position"]) = .ok "center" ∧ Roomy .pop usual 960 540 18 ∧
      (window.render (.ofText (.text "Hello")) options).1 = .ok ⟨255, 237, 450, 66⟩ ∧
      Rect.Inside ⟨185, 243, 60, 60⟩ (screenRect 960 540) := by
  intro options
  have sized : window.Sized 960 540 18 := ⟨rfl, rfl, rfl⟩
  have measured : Measured .pop options usual :=
    ⟨⟨by decide, by decide⟩, rfl, rfl, rfl, rfl, rfl, fun _ => rfl, rfl⟩
  have standing : positionOf (found options ["position"]) = .ok "center" := rfl
  obtain ⟨hrender, -, -, hpopup⟩ :=
    image_inside_iff sized measured rfl (fun _ => standing) roomy_usual (.ofText (.text "Hello"))
  refine ⟨sized, measured, rfl, standing, roomy_usual, ?_, (hpopup rfl).2.mpr ?_⟩
  · rw [hrender]
    exact congrArg Except.ok (by decide)
  · decide

/-- Where a pop-up stands by default, the image beside it is mostly off the screen. -/
theorem image_outside :
    let options := ({} : Settings).resolve .pop (some bean) (.text "bean") .null
    window.Sized 960 540 18 ∧ Measured .pop options usual ∧ isImaged options = true ∧
      positionOf (found options ["position"]) = .ok "topleft" ∧ Roomy .pop usual 960 540 18 ∧
      (∃ marks, (window.render (.ofText (.text "Hello")) options).2.draw = (.ok (), marks) ∧
        images marks = [⟨-50, 26, 60, 60⟩]) ∧
      ¬Rect.Inside ⟨-50, 26, 60, 60⟩ (screenRect 960 540) := by
  intro options
  have measured : Measured .pop options usual :=
    ⟨⟨by decide, by decide⟩, rfl, rfl, rfl, rfl, rfl, fun _ => rfl, rfl⟩
  refine ⟨⟨rfl, rfl, rfl⟩, measured, rfl, rfl, roomy_usual, ⟨_, rfl, by decide +kernel⟩, ?_⟩
  rintro ⟨hx, -⟩
  exact absurd hx (by decide)

end Canvas

end Dialogue
