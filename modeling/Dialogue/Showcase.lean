import Dialogue.Host.Performing
import Dialogue.Surface.Canvas

/-!
# The showcase

A scripted conversation in a window.  The space bar goes on while more is announced to come, the
key Z jumps to the end of the script, escape leaves.  Each frame takes the inputs that came since
the last one, then paints the window anew; after the frame in which the user leaves the window is
closed.

Reference model of the demo, its `main` (`Showcase.run`) and its `CHARACTERS` and `SCRIPT`
(`Showcase.cast`, `Showcase.script`).
-/

set_option autoImplicit false

namespace Dialogue.Showcase

/-! ## What is shown -/

/-- The characters of the conversation. -/
def cast : Table Entry :=
  [("r", .fields (.ofTable
    [("name", .text "Robot"), ("expressions", .ofTable [("happy", .text "bean")]),
     ("default_expression", .text "happy")])),
   ("t", .fields (.ofTable
    [("name", .text "Tom"), ("expressions", .ofTable [("happy", .text "skuller")]),
     ("default_expression", .text "happy"), ("dialog_type", .text "vn"),
     ("dialog_options", .ofTable
       [("dialog_text", .ofTable [("options", .ofTable [("letter_spacing", .int 10)])])])]))]

/-- The conversation. -/
def script : Keyed Value :=
  [(.text "begin", .ofList
    [.text "r Hello, I am Bean.", .text "t Hi, I am Skuller.",
     .text "disableNextPrompt sayHi r I can say hi from the console too!"]),
   (.text "finish", .ofList [.text "enableNextPrompt r Parley is awesome!"])]

/-- What the command of the conversation says. -/
def greeting : String :=
  "Hi! Press Z to finish the script"

/-- The size of the window. -/
def windowWidth : Nat := 960
def windowHeight : Nat := 540

/-- The title of the window. -/
def title : String :=
  "Parley Dialog Demo"

/-- The color behind the boxes. -/
def background : Color := ⟨30, 30, 40⟩

/-- How many frames are shown in a second. -/
def frameRate : Nat := 60

/-- The change to the settings that comes with the end of the script. -/
def finale : Keyed Value :=
  [(.text "pop", .ofTable [("position", .text "center")])]

/-! ## What comes in and what is seen -/

/-- The keys that matter, and all others. -/
inductive Key where
  | escape
  | space
  | z
  | other
deriving DecidableEq, Repr

/-- What a user does. -/
inductive Input where
  | quit
  | pressed (key : Key)
  | other
deriving DecidableEq, Repr

/-- What can be seen of the showcase. -/
inductive Sight where
  | started
  | window (width height : Nat)
  | titled (title : String)
  | polled
  | filled (color : Color)
  | painted (mark : Canvas.Mark)
  | flipped
  | waited (rate : Nat)
  | closed
  | reported (report : Report)

/-- What a part of a run shows. -/
def Sight.ofOccurrence? : Occurrence .canvas → Option Sight
  | .reported r => some (.reported r)
  | .marked m => some (.painted m)
  | _ => none

/-- The host of the showcase, and what was seen so far. -/
structure Stage where
  host : Host .canvas
  sights : List Sight := []

/-- A step of the showcase. -/
abbrev Show (α : Type) :=
  Step Stage α

/-- Let something be seen. -/
def see (s : Sight) : Show Unit :=
  modify fun stage => { stage with sights := stage.sights ++ [s] }

/-- Let the host do something, and see what can be seen of it. -/
def act {α : Type} (a : Act .canvas α) : Show Unit := do
  let stage ← get
  let (result, host) := a.run.run stage.host
  set ({ host := { host with journal := [] },
         sights := stage.sights ++ host.journal.filterMap Sight.ofOccurrence? } : Stage)
  match result with
  | .ok _ => return ()
  | .error f => throw f

/-- Let the host perform a request. -/
def perform (r : Request .canvas) : Show Unit :=
  act (Host.perform r)

/-! ## Running -/

/-- The host before anything happened, on a window with text lines of this height. -/
def hostOf (lineHeight : Value) : Host .canvas where
  session := { surface := { width := .int windowWidth, height := .int windowHeight, lineHeight } }

/-- Open the window and begin the conversation. -/
def opening : Show Unit := do
  see .started
  see (.window windowWidth windowHeight)
  see (.titled title)
  perform (.registerCharacters cast)
  act (Playing.registerCommand (.text "sayHi") (some (.remark greeting)))
  perform (.defineLabels script)
  perform (.startLabel (.text "begin") true)

/-- Is more announced to come? -/
def prompts (stage : Stage) : Bool :=
  stage.host.session.settings.prompt.truthy

/-- Follow an input.  Tells whether the user stays. -/
def follow (i : Input) : Show Bool := do
  match i with
  | .quit | .pressed .escape => return false
  | .pressed .space =>
    if prompts (← get) then perform .advance
    return true
  | .pressed .z =>
    perform (.configure finale)
    perform (.startLabel (.text "finish") true)
    return true
  | .pressed .other | .other => return true

/-- Follow all inputs of a frame.  Tells whether the user stays. -/
def followAll : List Input → Show Bool
  | [] => return true
  | i :: rest => do
    let stays ← follow i
    let stay ← followAll rest
    return stays && stay

/-- One frame.  Tells whether there is another one. -/
def frame (inputs : List Input) : Show Bool := do
  see .polled
  let stays ← followAll inputs
  see (.filled background)
  perform (.ask .draw)
  see .flipped
  see (.waited frameRate)
  return stays

/-- Frame after frame, until the user leaves; at the end of all inputs the user quits. -/
def frames : List (List Input) → Show Unit
  | [] => do
    let _ ← frame [.quit]
  | inputs :: rest => do
    if ← frame inputs then frames rest

/-- The showcase from start to end. -/
def run (inputs : List (List Input)) : Show Unit := do
  opening
  frames inputs
  see .closed

/-- What can be seen of the showcase with text lines of this height, unless something goes wrong on
the way: lines can be too high for any box. -/
def sights (lineHeight : Value) (inputs : List (List Input)) : Except Fault (List Sight) :=
  let (result, stage) := (run inputs).run.run { host := hostOf lineHeight }
  result.map fun _ => stage.sights

end Dialogue.Showcase
