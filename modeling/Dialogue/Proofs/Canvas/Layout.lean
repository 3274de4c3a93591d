import Dialogue.Proofs.Canvas.Furnished
import Dialogue.Proofs.Step

/-!
# What canvases make of furnished boxes

If the options of a box have all that it needs, a canvas finds whatever it looks up.  What it does then
is told here once more, from what stands in the options and without any looking up: how a box is placed
(`Canvas.layout`) and how it is painted (`Canvas.sketch`).  All that can go wrong is that what was found
cannot be calculated with.

## Results

* `Canvas.place_eq` — a furnished box is placed as laid out.
* `Canvas.paintBox_eq` — a furnished box is painted as sketched.
* `Canvas.place_unfit`, `Canvas.draw_unfit` — nothing else can go wrong with furnished boxes than that
  values cannot be calculated with.
-/

set_option autoImplicit false

namespace Dialogue

/-! ## Values that are not fit for calculating -/

/-- These go wrong when values that were found cannot be calculated with, or are no position. -/
inductive Fault.Unfit : Fault → Prop
  | badOperands (operator left right : String) : Unfit (.badOperands operator left right)
  | cannotAppend (left right : String) : Unfit (.cannotAppend left right)
  | tooLarge : Unfit .tooLarge
  | notRectangle : Unfit .notRectangle
  | noPosition (v : Value) : Unfit (.ofDoing v "endswith")

/-- Something is not unfit when it is missing. -/
theorem Fault.Unfit.ne_missingKey {f : Fault} (unfit : f.Unfit) (key : Value) : f ≠ .missingKey key := by
  cases unfit with
  | noPosition v =>
    unfold ofDoing
    split
    · split <;> nofun
    · nofun
  | _ => nofun

open Step (FaultsIn)

theorem Number.combine_unfit (onInt : Int → Int → Int) (onDouble : Double → Double → Double)
    (m n : Number) : FaultsIn Fault.Unfit (combine onInt onDouble m n) := by
  have hdouble (n : Number) : FaultsIn Fault.Unfit n.toDouble := by
    unfold toDouble
    split
    · exact Step.faultsIn_ok _
    · split
      · exact Step.faultsIn_error .tooLarge
      · exact Step.faultsIn_ok _
  unfold combine
  split
  · exact Step.faultsIn_ok _
  · exact (hdouble m).bind fun _ => (hdouble n).bind fun _ => Step.faultsIn_ok _

namespace Value

theorem plus_unfit (a b : Value) : FaultsIn Fault.Unfit (a.plus b) := by
  unfold plus
  split
  · exact (Number.combine_unfit _ _ _ _).map _
  · split
    · exact Step.faultsIn_ok _
    · exact Step.faultsIn_ok _
    · exact Step.faultsIn_ok _
    · exact Step.faultsIn_error (.cannotAppend _ _)
    · exact Step.faultsIn_error (.cannotAppend _ _)
    · exact Step.faultsIn_error (.badOperands _ _ _)

theorem minus_unfit (a b : Value) : FaultsIn Fault.Unfit (a.minus b) := by
  unfold minus
  split
  · exact (Number.combine_unfit _ _ _ _).map _
  · exact Step.faultsIn_error (.badOperands _ _ _)

theorem twice_unfit (v : Value) : FaultsIn Fault.Unfit v.twice := by
  unfold twice
  split
  · exact Step.faultsIn_ok _
  · exact Step.faultsIn_error (.badOperands _ _ _)

theorem byTwo_unfit (v : Value) : FaultsIn Fault.Unfit v.byTwo := by
  unfold byTwo
  split
  · exact Step.faultsIn_ok _
  · exact Step.faultsIn_error (.badOperands _ _ _)

theorem halfDown_unfit (v : Value) : FaultsIn Fault.Unfit v.halfDown := by
  unfold halfDown
  split
  · exact Step.faultsIn_ok _
  · exact Step.faultsIn_ok _
  · exact Step.faultsIn_error (.badOperands _ _ _)

end Value

theorem Rect.ofValues_unfit (x y width height : Value) :
    FaultsIn Fault.Unfit (ofValues x y width height) := by
  unfold ofValues
  split
  · exact Step.faultsIn_ok _
  · exact Step.faultsIn_error .notRectangle

namespace Placement

theorem popRect_unfit (width height : Value) (position : String) (boxWidth boxHeight margin : Value) :
    FaultsIn Fault.Unfit (popRect width height position boxWidth boxHeight margin) := by
  have hleft : FaultsIn Fault.Unfit (popLeft width position boxWidth margin) := by
    unfold popLeft
    split
    · exact Step.faultsIn_ok _
    · split
      · exact (Value.minus_unfit _ _).bind fun _ => Value.minus_unfit _ _
      · exact (Value.minus_unfit _ _).bind fun _ => Value.halfDown_unfit _
  have htop : FaultsIn Fault.Unfit (popTop height position boxHeight margin) := by
    unfold popTop
    split
    · exact Step.faultsIn_ok _
    · split
      · exact (Value.minus_unfit _ _).bind fun _ => Value.minus_unfit _ _
      · exact (Value.minus_unfit _ _).bind fun _ => Value.halfDown_unfit _
  exact hleft.bind fun _ => htop.bind fun _ => Rect.ofValues_unfit _ _ _ _

theorem vnRect_unfit (width height room boxHeight margin : Value) :
    FaultsIn Fault.Unfit (vnRect width height room boxHeight margin) := by
  refine (Value.plus_unfit _ _).bind fun _ => ?_
  refine (Value.minus_unfit _ _).bind fun _ => (Value.minus_unfit _ _).bind fun _ => ?_
  refine (Value.twice_unfit _).bind fun _ => (Value.minus_unfit _ _).bind fun _ => ?_
  exact (Value.minus_unfit _ _).bind fun _ => Rect.ofValues_unfit _ _ _ _

theorem imageRect_unfit (box : Rect) (size : Value) :
    FaultsIn Fault.Unfit (imageRect box size) := by
  refine (Value.minus_unfit _ _).bind fun _ => (Value.minus_unfit _ _).bind fun _ => ?_
  exact (Value.minus_unfit _ _).bind fun _ => Rect.ofValues_unfit _ _ _ _

end Placement

namespace Canvas

theorem positionOf_unfit (v : Value) : FaultsIn Fault.Unfit (positionOf v) := by
  unfold positionOf
  split
  · split
    · exact Step.faultsIn_ok _
    · exact Step.faultsIn_error (.noPosition _)
  · exact Step.faultsIn_ok _

theorem popRect_unfit (c : Canvas) (position boxWidth boxHeight margin : Value) :
    FaultsIn Fault.Unfit (c.popRect position boxWidth boxHeight margin) :=
  (positionOf_unfit position).bind fun _ => Placement.popRect_unfit _ _ _ _ _ _

/-! ## Finding -/

/-- What stands at a path in options; null where nothing does. -/
def found (options : Value) (path : List String) : Value :=
  (options.at? path).getD .null

theorem found_of_at? {options v : Value} {path : List String} (h : options.at? path = some v) :
    found options path = v := by
  rw [found, h]
  rfl

/-- What stands on the way to something is a mapping. -/
theorem found_kind {options : Value} {path : List String} {key : String}
    (has : (options.at? (path ++ [key])).isSome = true) : (found options path).kind = .tree := by
  obtain ⟨u, hu⟩ := Option.isSome_iff_exists.mp has
  rw [Value.at?_concat] at hu
  obtain ⟨v, hv, hkey⟩ := Option.bind_eq_some_iff.mp hu
  obtain ⟨form, es, rfl⟩ := Value.exists_tree_of_get? hkey
  rw [found_of_at? hv]
  rfl

/-- What stands below a mapping is what the mapping holds. -/
theorem get?_found {options : Value} {path : List String}
    (mapping : (found options path).kind = .tree) (key : String) :
    options.at? (path ++ [key]) = (found options path).get? key := by
  unfold found at mapping ⊢
  rw [Value.at?_concat]
  cases hat : options.at? path with
  | none =>
    rw [hat] at mapping
    cases mapping
  | some v => rfl

theorem entry_found {options : Value} {path : List String} {key : String}
    (has : (options.at? (path ++ [key])).isSome = true) :
    entry (found options path) key = .ok (found options (path ++ [key])) := by
  obtain ⟨u, hu⟩ := Option.isSome_iff_exists.mp has
  have hget := (get?_found (found_kind has) key).symm.trans hu
  obtain ⟨form, es, htree⟩ := Value.exists_tree_of_get? hget
  rw [htree] at hget ⊢
  have hentry : Table.get? es key = some u := hget
  rw [found_of_at? hu, entry, hentry]

/-- In a mapping, what is missing is found as null. -/
theorem lookup_found {options : Value} {path : List String}
    (mapping : (found options path).kind = .tree) (key : String) :
    lookup (found options path) key = .ok (found options (path ++ [key])) := by
  have hfound : found options (path ++ [key]) = ((found options path).get? key).getD .null := by
    rw [← get?_found mapping]
    rfl
  obtain ⟨form, es, htree⟩ := Value.exists_tree_of_kind mapping
  rw [hfound, htree]
  rfl

/-! ## Placing -/

/-- The height of a furnished box. -/
def heightOf (c : Canvas) (options : Value) : Except Fault Value := do
  let twoLines ← c.lineHeight.byTwo
  let lines ← twoLines.plus (found options ["text_box", "padding", "top"])
  lines.plus (found options ["text_box", "padding", "bottom"])

/-- The room that a furnished full-width box leaves for the image beside its line. -/
def roomOf (options : Value) : Except Fault Value :=
  if (found options ["side_image", "name"]).truthy then
    (found options ["side_image", "options", "width"]).plus (found options ["text_box", "margin"])
  else .ok (.int 0)

/-- The rectangle of a furnished box. -/
def layout (c : Canvas) (options : Value) : DialogKind → Except Fault Rect
  | .pop => do
    let boxHeight ← c.heightOf options
    c.popRect (found options ["position"]) (found options ["text_box", "width"]) boxHeight
      (found options ["text_box", "margin"])
  | .vn => do
    let boxHeight ← c.heightOf options
    let room ← roomOf options
    Placement.vnRect c.width c.height room boxHeight (found options ["text_box", "margin"])

section

variable {kind : DialogKind} {options : Value}

/-- Every room leads to something that a box needs. -/
theorem exists_need_of_room (kind : DialogKind) :
    ∀ room ∈ rooms, ∃ key path, room ++ key :: path ∈ needs kind := by
  cases kind <;>
  · intro room hroom
    simp only [rooms, List.mem_cons, List.not_mem_nil, or_false] at hroom
    rcases hroom with rfl | rfl | rfl | rfl | rfl
    · exact ⟨"margin", [], by decide⟩
    · exact ⟨"top", [], by decide⟩
    · exact ⟨"radius", [], by decide⟩
    · exact ⟨"options", ["width"], by decide⟩
    · exact ⟨"width", [], by decide⟩

/-- The options of a furnished box, and all its rooms, are mappings. -/
theorem Furnished.mapping (furnished : Furnished kind options) {path : List String}
    (h : path = [] ∨ path ∈ rooms) : (found options path).kind = .tree := by
  rcases h with rfl | hroom
  · obtain ⟨form, es, rfl⟩ := Value.exists_tree_of_get? furnished.family
    rfl
  · obtain ⟨key, rest, hneed⟩ := exists_need_of_room kind path hroom
    have hhas := furnished.has _ hneed
    rw [List.append_cons] at hhas
    exact found_kind (Value.isSome_at?_of_append hhas)

/-- In furnished options, rooms and what is needed are there to be looked up. -/
theorem Furnished.entry (furnished : Furnished kind options) (path : List String) (key : String)
    (h : path ++ [key] ∈ rooms ++ needs kind) :
    entry (found options path) key = .ok (found options (path ++ [key])) := by
  refine entry_found ?_
  rcases List.mem_append.mp h with hroom | hneed
  · obtain ⟨next, rest, hneed⟩ := exists_need_of_room kind _ hroom
    exact Value.isSome_at?_of_append (furnished.has _ hneed)
  · exact furnished.has _ hneed

theorem Furnished.entry_dialog_type (furnished : Furnished kind options) :
    Canvas.entry options "dialog_type" = .ok (.text kind.name) := by
  obtain ⟨form, es, rfl⟩ := Value.exists_tree_of_get? furnished.family
  have hfamily : Table.get? es "dialog_type" = some (.text kind.name) := furnished.family
  rw [Canvas.entry, hfamily]

theorem Furnished.text_box (furnished : Furnished kind options) :
    Canvas.entry options "text_box" = .ok (found options ["text_box"]) ∧
      Canvas.entry (found options ["text_box"]) "padding" =
        .ok (found options ["text_box", "padding"]) :=
  ⟨furnished.entry [] "text_box" (by cases kind <;> decide),
    furnished.entry ["text_box"] "padding" (by cases kind <;> decide)⟩

theorem Furnished.entry_padding (furnished : Furnished kind options) (key : String)
    (h : key ∈ ["top", "right", "bottom", "left"]) :
    Canvas.entry (found options ["text_box", "padding"]) key =
      .ok (found options ["text_box", "padding", key]) := by
  refine furnished.entry ["text_box", "padding"] key ?_
  simp only [List.mem_cons, List.not_mem_nil, or_false] at h
  rcases h with rfl | rfl | rfl | rfl <;> cases kind <;> decide

theorem Furnished.side_image (furnished : Furnished kind options) :
    Canvas.entry options "side_image" = .ok (found options ["side_image"]) ∧
      lookup (found options ["side_image"]) "name" = .ok (found options ["side_image", "name"]) ∧
      Canvas.entry (found options ["side_image"]) "options" =
        .ok (found options ["side_image", "options"]) ∧
      Canvas.entry (found options ["side_image", "options"]) "width" =
        .ok (found options ["side_image", "options", "width"]) :=
  ⟨furnished.entry [] "side_image" (by cases kind <;> decide),
    lookup_found (furnished.mapping (.inr (by decide))) "name",
    furnished.entry ["side_image"] "options" (by cases kind <;> decide),
    furnished.entry ["side_image", "options"] "width" (by cases kind <;> decide)⟩

/-- The height of a furnished box is found as laid out. -/
theorem boxHeight_eq (c : Canvas) (furnished : Furnished kind options) :
    c.boxHeight (found options ["text_box", "padding"]) = c.heightOf options := by
  have htop := furnished.entry_padding "top" (by decide)
  have hbottom := furnished.entry_padding "bottom" (by decide)
  simp only [boxHeight, htop, hbottom, Step.ok_bind, heightOf]

/-- The room beside a furnished box is found as laid out. -/
theorem imageRoom_eq (furnished : Furnished kind options) :
    imageRoom options (found options ["text_box", "margin"]) = roomOf options := by
  obtain ⟨hside, hname, hoptions, hwidth⟩ := furnished.side_image
  simp only [imageRoom, hside, hname, hoptions, hwidth, Step.ok_bind, roomOf]
  rfl

/-- **A furnished box is placed as laid out.** -/
theorem place_eq (c : Canvas) (furnished : Furnished kind options) :
    c.place options = c.layout options kind := by
  obtain ⟨hbox, hpadding⟩ := furnished.text_box
  have hmargin : entry (found options ["text_box"]) "margin" =
      .ok (found options ["text_box", "margin"]) :=
    furnished.entry ["text_box"] "margin" (by cases kind <;> decide)
  simp only [place, hbox, hmargin, hpadding, Step.ok_bind, boxHeight_eq c furnished,
    furnished.entry_dialog_type, imageRoom_eq furnished]
  cases kind with
  | pop =>
    have hwidth : entry (found options ["text_box"]) "width" =
        .ok (found options ["text_box", "width"]) :=
      furnished.entry ["text_box"] "width" (by decide)
    have hposition : lookup options "position" = .ok (found options ["position"]) :=
      lookup_found (furnished.mapping (.inl rfl)) "position"
    have hfamily : ¬Value.text DialogKind.pop.name = .text DialogKind.vn.name := by decide
    simp only [if_neg hfamily, hposition, hwidth, Step.ok_bind, layout]
  | vn => simp only [reduceIte, layout]

/-- **Nothing else can go wrong when a furnished box is placed** than that values cannot be calculated
with. -/
theorem place_unfit (c : Canvas) (furnished : Furnished kind options) :
    FaultsIn Fault.Unfit (c.place options) := by
  have hheight : FaultsIn Fault.Unfit (c.heightOf options) :=
    (Value.byTwo_unfit _).bind fun _ => (Value.plus_unfit _ _).bind fun _ => Value.plus_unfit _ _
  rw [place_eq c furnished]
  cases kind with
  | pop => exact hheight.bind fun _ => popRect_unfit _ _ _ _ _
  | vn =>
    have hroom : FaultsIn Fault.Unfit (roomOf options) := by
      unfold roomOf
      split
      · exact Value.plus_unfit _ _
      · exact Step.faultsIn_ok _
    exact hheight.bind fun _ => hroom.bind fun _ => Placement.vnRect_unfit _ _ _ _ _

end

/-! ## Painting -/

/-- How the placeholder for the image beside a furnished box is painted, if it has one. -/
def sketchImage (b : Placed) : Painting Unit :=
  if (found b.options ["side_image", "name"]).truthy then do
    let rect ← Step.of
      (Placement.imageRect b.rect (found b.options ["side_image", "options", "width"]))
    paint (.rect imageColor rect none)
    paint (.text (found b.options ["side_image", "name"]) ink (.rect (rect.moved 4 4)))
  else pure ()

/-- How the text of a furnished box is painted, under the speaker's name if it has one. -/
def sketchText (lineHeight : Value) (b : Placed) : Painting Unit := do
  let left := (Value.int b.rect.x).plus (found b.options ["text_box", "padding", "left"])
  let y ← Step.of ((Value.int b.rect.y).plus (found b.options ["text_box", "padding", "top"]))
  if (found b.options ["name"]).truthy then
    paint (.text (found b.options ["name"]) nameColor (.point ⟨← Step.of left, y⟩))
    let y ← Step.of (y.plus lineHeight)
    paint (.text b.intent.text ink (.point ⟨← Step.of left, y⟩))
  else
    paint (.text b.intent.text ink (.point ⟨← Step.of left, y⟩))

/-- How the sign is painted that more is to come, if it is wanted of a furnished box. -/
def sketchPrompt (b : Placed) : Painting Unit :=
  if (found b.options ["show_next_prompt"]).truthy then do
    let x ← Step.of
      ((Value.int b.rect.right).minus (found b.options ["text_box", "padding", "right"]))
    let y ← Step.of
      ((Value.int b.rect.bottom).minus (found b.options ["text_box", "padding", "bottom"]))
    let back ← Step.of (x.minus (.int 12))
    let up ← Step.of (y.minus (.int 12))
    paint (.triangle ink ⟨back, up⟩ ⟨back, y⟩ ⟨x, y⟩)
  else pure ()

/-- How a furnished box is painted. -/
def sketch (lineHeight : Value) (b : Placed) : Painting Unit := do
  paint (.rect paper b.rect (some (found b.options ["text_box", "options", "radius"])))
  sketchImage b
  sketchText lineHeight b
  sketchPrompt b

section

variable {kind : DialogKind} {b : Placed} (furnished : Furnished kind b.options)

include furnished

theorem paintImage_eq : paintImage b = sketchImage b := by
  obtain ⟨hside, hname, hoptions, hwidth⟩ := furnished.side_image
  simp only [paintImage, hside, hname, hoptions, hwidth, Step.of_ok_bind, Step.ok_bind, sketchImage]

theorem paintText_eq (lineHeight : Value) :
    paintText lineHeight b (found b.options ["text_box", "padding"]) = sketchText lineHeight b := by
  have hleft := furnished.entry_padding "left" (by decide)
  have htop := furnished.entry_padding "top" (by decide)
  have hname : lookup b.options "name" = .ok (found b.options ["name"]) :=
    lookup_found (furnished.mapping (.inl rfl)) "name"
  simp only [paintText, hleft, htop, hname, Step.of_ok_bind, Step.ok_bind, sketchText]

theorem paintPrompt_eq :
    paintPrompt b (found b.options ["text_box", "padding"]) = sketchPrompt b := by
  have hright := furnished.entry_padding "right" (by decide)
  have hbottom := furnished.entry_padding "bottom" (by decide)
  have hprompt : lookup b.options "show_next_prompt" = .ok (found b.options ["show_next_prompt"]) :=
    lookup_found (furnished.mapping (.inl rfl)) "show_next_prompt"
  simp only [paintPrompt, hright, hbottom, hprompt, Step.of_ok_bind, Step.ok_bind, sketchPrompt]

/-- **A furnished box is painted as sketched.** -/
theorem paintBox_eq (lineHeight : Value) : paintBox lineHeight b = sketch lineHeight b := by
  obtain ⟨hbox, hpadding⟩ := furnished.text_box
  have hoptions : entry (found b.options ["text_box"]) "options" =
      .ok (found b.options ["text_box", "options"]) :=
    furnished.entry ["text_box"] "options" (by cases kind <;> decide)
  have hradius : entry (found b.options ["text_box", "options"]) "radius" =
      .ok (found b.options ["text_box", "options", "radius"]) :=
    furnished.entry ["text_box", "options"] "radius" (by cases kind <;> decide)
  simp only [paintBox, hbox, hpadding, hoptions, hradius, Step.of_ok_bind, Step.ok_bind,
    paintImage_eq furnished, paintText_eq furnished, paintPrompt_eq furnished, sketch]

omit furnished in
theorem sketch_unfit (lineHeight : Value) : Step.Fails Fault.Unfit (sketch lineHeight b) := by
  have hof {v : Except Fault Value} (h : FaultsIn Fault.Unfit v) :
      Step.Fails Fault.Unfit (Step.of v : Painting Value) := Step.fails_of h
  have hpaint (m : Mark) : Step.Fails Fault.Unfit (paint m) := Step.fails_modify _
  have himage : Step.Fails Fault.Unfit (sketchImage b) := by
    unfold sketchImage
    split
    · refine (Step.fails_of (Placement.imageRect_unfit _ _)).bind fun _ => ?_
      exact (hpaint _).bind fun _ => hpaint _
    · exact Step.fails_pure _
  have htext : Step.Fails Fault.Unfit (sketchText lineHeight b) := by
    refine (hof (Value.plus_unfit _ _)).bind fun y => ?_
    split
    · refine (hof (Value.plus_unfit _ _)).bind fun _ => (hpaint _).bind fun _ => ?_
      refine (hof (Value.plus_unfit _ _)).bind fun _ => ?_
      exact (hof (Value.plus_unfit _ _)).bind fun _ => hpaint _
    · exact (hof (Value.plus_unfit _ _)).bind fun _ => hpaint _
  have hprompt : Step.Fails Fault.Unfit (sketchPrompt b) := by
    unfold sketchPrompt
    split
    · refine (hof (Value.minus_unfit _ _)).bind fun _ => (hof (Value.minus_unfit _ _)).bind fun _ => ?_
      refine (hof (Value.minus_unfit _ _)).bind fun _ => (hof (Value.minus_unfit _ _)).bind fun _ => ?_
      exact hpaint _
    · exact Step.fails_pure _
  exact (hpaint _).bind fun _ => himage.bind fun _ => htext.bind fun _ => hprompt

end

/-- **Nothing else can go wrong when furnished boxes are drawn** than that values cannot be calculated
with. -/
theorem draw_unfit {c : Canvas} (furnished : ∀ b ∈ c.boxes, ∃ kind, Furnished kind b.options) :
    FaultsIn Fault.Unfit c.draw.1 := by
  have hboxes : ∀ boxes : List Placed, (∀ b ∈ boxes, ∃ kind, Furnished kind b.options) →
      Step.Fails Fault.Unfit (paintBoxes c.lineHeight boxes) := by
    intro boxes hall
    induction boxes with
    | nil => exact Step.fails_pure _
    | cons b rest ih =>
      obtain ⟨kind, hb⟩ := hall b List.mem_cons_self
      unfold paintBoxes
      rw [paintBox_eq hb]
      exact (sketch_unfit c.lineHeight).bind fun _ =>
        ih fun other hm => hall other (List.mem_cons_of_mem _ hm)
  exact hboxes c.boxes furnished []

end Canvas

end Dialogue
