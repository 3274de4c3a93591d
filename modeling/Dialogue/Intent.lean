import Dialogue.Value.Basic

/-!
# Intents

What a surface is handed to show in a box: the words, who says them with which expression and
image, the statement that they come from and its commands.

Reference model of `DialogIntent`, as `PresentationSurface.render` takes it and `RenderedDialog`
keeps it.  What comes out of reading a statement is a `Line`, whose words are a text; a host that
shows something by itself (`DialogSession.pop`, `DialogSession.vn`) may hand over any value in
place of the words.
-/

set_option autoImplicit false

namespace Dialogue

/-- What is to be shown in a box. -/
structure Intent where
  /-- What it comes from: a statement, or what the host hands in. -/
  source : Value := .null
  /-- The key of the speaker. -/
  who : Option String := none
  expression : Option String := none
  /-- The image beside the words. -/
  sideImage : Option String := none
  /-- The words, or what stands in place of them. -/
  text : Value := .text ""
  commands : List String := []
deriving DecidableEq, Repr

/-- What a host shows without any statement. -/
def Intent.ofText (text : Value) : Intent where
  source := text
  text := text

end Dialogue
