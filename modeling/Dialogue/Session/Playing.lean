import Dialogue.Host.Basic

/-!
# Playing a session

Each advance clears the surface, takes the statement at the playhead, moves the playhead past it,
reads the statement, runs its commands and shows its line.  The playhead moves before anything can
fail, so a statement that fails is used up.

Handlers may ask the session for anything while it is played.  The operations here take what
handlers do as given (`Playing.react`).

Reference model of `DialogSession`: `Playing.advance`, `Playing.say`, `Playing.clear` and the others are
its methods, with `_execute`, `_display` and `_show` as `execute`, `display` and `showText`.
`Playing.install` is `ScriptDatabase.install`.
-/

set_option autoImplicit false

namespace Dialogue

variable {K : Surface}

namespace Act

/-- Report something. -/
def report (r : Report) : Act K Unit :=
  modify (Host.note (.reported r))

/-- Replace a part of the session by an operation on it that may fail. -/
def onPart {α β : Type} (part : Session K → β) (put : β → Session K → Session K)
    (f : β → Except Fault α × β) : Act K α := do
  let (result, new) := f (part (← get).session)
  modify (Host.onSession (put new))
  Step.of result

end Act

namespace Playing

variable (p : Playing K)

/-! ## Telling the host -/

/-- Tell a handler of an event.  A handler that fails is reported, and the delivery goes on. -/
def tell (id : HandlerId) (event : Event (Notice K.Handle)) : StateM (Host K) Unit := do
  match ← (p.react id (.event event.data)).run with
  | .ok () => pure ()
  | .error _ => modify (Host.note (.reported (.handlerFailed event.signal)))

/-- Publish what happened. -/
def publish (notice : Notice K.Handle) : Act K Unit := do
  let _ ← ExceptT.lift (Host.site.publish p.tell p.rounds notice.signal notice)

/-! ## The surface -/

/-- Take away the boxes that are not meant to persist. -/
def clear : Act K Unit := do
  Act.onPart Session.surface (fun surface s => { s with surface }) K.clear
  modify fun h => h.note (.cleared (K.visible h.session.surface))
  p.publish .cleared

/-- Show something in a box. -/
def render (intent : Intent) (options : Value) : Act K K.Handle := do
  let handle ← Act.onPart Session.surface (fun surface s => { s with surface })
    (K.render intent options)
  modify (Host.onSession fun s => { s with handle? := some handle })
  modify (Host.note (.rendered handle intent options))
  return handle

/-- Show a text in a box of its own.  There is no box for what does not count as true. -/
def showText (kind : DialogKind) (text options : Value) : Act K (Option K.Handle) := do
  if text.truthy then
    let settings := (← get).session.settings
    let handle ← render (.ofText text) (settings.resolve kind none .null options)
    return some handle
  else return none

/-! ## Statements -/

/-- Read a statement. -/
def parse (statement : Value) : Act K Line :=
  Act.onPart id (fun new _ => new) fun s => s.parse statement

/-- How commands are run in a session: the host is told of a handler's turn, and a built-in command
sets whether more is announced to come. -/
def stage : Commands.Stage (Host K) HandlerId Bool where
  table := fun h => h.session.commands
  unknown := fun name => Act.report (.commandPassedOver name)
  handle := fun name id => p.react id (.command name)
  effect := fun b =>
    modify (Host.onSession fun s => { s with settings := { s.settings with prompt := .flag b } })

/-- Run the commands of a line. -/
def execute (line : Line) : Act K Unit := do
  if line.commands ≠ [] then
    Commands.run p.stage (line.commands.map .text)
    p.publish (.executed line.commands)

/-- The options of a box for this speaker and image. -/
def boxOptions (who sideImage options : Value) : Act K Value := do
  Act.onPart id (fun new _ => new) fun s => (s.optionsOf who sideImage options, s)

/-- Show a line, if there is anything to show. -/
def display (line : Line) : Act K Unit := do
  if line.displayable then
    let options ← boxOptions (Value.optionalText line.who) (Value.optionalText line.sideImage) .null
    let handle ← render line.intent options
    p.publish (.displayed line handle)

/-- Do what a statement says, outside of any script. -/
def say (statement : Value) : Act K Line := do
  let line ← parse statement
  p.execute line
  p.display line
  return line

/-! ## The script -/

/-- Go on with the next statement.  Tells whether there was one. -/
def advance : Act K Bool := do
  match (← get).session.playhead.standing with
  | .idle => return false
  | .exhausted =>
    p.clear
    p.publish (.exhausted (← get).session.playhead.label?)
    return false
  | .active =>
    p.clear
    let statement ← Act.onPart Session.playhead (fun playhead s => { s with playhead })
      Playhead.take
    let _ ← p.say statement
    return true

/-- Go on, if that is wanted. -/
def advanceIf (wanted : Bool) : Act K Unit := do
  if wanted then
    let _ ← p.advance

/-- Add or replace labels. -/
def defineLabels (labels : Keyed Value) : Act K Unit :=
  Act.onPart Session.playhead (fun playhead s => { s with playhead }) (Playhead.defineAll labels)

/-- Play a loose list of statements from its start. -/
def loadSequence (statements : Value) (advance : Bool) : Act K Unit := do
  Act.onPart Session.playhead (fun playhead s => { s with playhead })
    (Playhead.loadMembers statements)
  match statements.length? with
  | none => throw (.noLength statements.typeName)
  | some length =>
    p.publish (.loaded length)
    p.advanceIf advance

/-- Define the labels of a mapping, or play a list. -/
def takeScript (script : Value) (advance : Bool) : Act K Unit :=
  match script with
  | .tree _ labels => defineLabels (Table.keyed labels)
  | .list .. => p.loadSequence script advance
  | v => throw (.notScript v.typeName)

/-- Play a label from its start. -/
def startLabel (label : Value) (advance : Bool) : Act K Unit := do
  let found ← Act.onPart Session.playhead (fun playhead s => { s with playhead })
    (Playhead.start label)
  (Playhead.reportsOfStart label found).forM Act.report
  p.publish (.started label found)
  p.advanceIf advance

/-! ## Registration -/

/-- Change settings. -/
def configure (options : Keyed Value) : Act K Unit :=
  Act.onPart Session.settings (fun settings s => { s with settings }) (Settings.update options)

/-- Add or replace characters. -/
def registerCharacters (entries : Table Entry) : Act K Unit :=
  Act.onPart Session.cast (fun cast s => { s with cast }) (Cast.register entries)

/-- Hand a library over to the session. -/
def install (library : Library) (advance : Bool) : Act K Unit := do
  registerCharacters (library.characters.map fun e => (e.1, .fields e.2))
  defineLabels (Table.keyed (library.labels.map fun e => (e.1, .ofList e.2)))
  if library.loose ≠ [] then p.loadSequence (.ofList library.loose) advance

end Playing

end Dialogue
