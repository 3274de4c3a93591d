import Dialogue.Value.Basic

/-!
# Default options

The option trees that a session starts from: one for pop-up boxes, which can be placed anywhere,
and one for the full-width boxes at the bottom of the screen.

Reference model of `DEFAULT_POP_OPTIONS` and `DEFAULT_VN_OPTIONS`.
-/

set_option autoImplicit false

namespace Dialogue.Defaults

/-- The image shown beside a box, of a given width. -/
def sideImage (width : Int) : Value :=
  .ofTable [("options", .ofTable [("width", .int width)])]

/-- The room between the edge of a box and its text. -/
def padding : Value :=
  .ofTable [("top", .int 15), ("right", .int 20), ("bottom", .int 15), ("left", .int 20)]

/-- How the corners of a box are drawn. -/
def corners : Value :=
  .ofTable [("radius", .int 15)]

/-- The sign that more is to come. -/
def nextPrompt : Value :=
  .ofTable [("name", .text "right-arrow"), ("options", .ofTable [("width", .int 20)])]

/-- The options of pop-up boxes. -/
def pop : Table Value :=
  [("position", .text "topleft"),
   ("side_image", sideImage 60),
   ("text_box", .ofTable
     [("width", .int 450), ("margin", .int 20), ("padding", padding), ("options", corners)]),
   ("dialog_text", .ofTable
     [("offset_x", .int 1),
      ("options", .ofTable
        [("size", .int 20), ("letter_spacing", .int 10), ("line_spacing", .int 10),
         ("width", .int 350)])]),
   ("next_prompt", nextPrompt),
   ("do_tween", .flag true)]

/-- The options of full-width boxes.  Their text has no width of its own: the box spans the
screen. -/
def vn : Table Value :=
  [("side_image", sideImage 120),
   ("text_box", .ofTable [("margin", .int 20), ("padding", padding), ("options", corners)]),
   ("dialog_text", .ofTable
     [("offset_x", .int 1),
      ("options", .ofTable
        [("size", .int 20), ("letter_spacing", .int 0), ("line_spacing", .int 10)])]),
   ("next_prompt", nextPrompt),
   ("do_tween", .flag true)]

end Dialogue.Defaults
