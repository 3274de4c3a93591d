import Dialogue.Files.Walking
import Dialogue.Library.Loading
import Dialogue.Report
import Dialogue.Session.Basic

/-!
# Hosts

A host runs one session.  It has a data folder and a library loaded from it, handlers for commands
and events, and a journal of all that can be seen of the run.

Handlers are given in advance.  Each holds lists of requests, and every call uses up the next list,
so a host is plain data and every run of it comes to an end.

Reference model of the programs that use `DialogSession` and `ScriptDatabase`: a `Request` is a call
of one of their methods, of one of `EventBus` on the bus of the session, or of the surface, and
`Request.attempt` is such a call inside a `try` that catches what goes wrong.
-/

set_option autoImplicit false

namespace Dialogue

/-- What a host, or one of its handlers, can ask for. -/
inductive Request (K : Surface) where
  | configure (options : Keyed Value)
  | registerCharacters (entries : Table Entry)
  /-- Make a word a command that does nothing by itself. -/
  | nameCommand (name : Value)
  /-- Make a word a command with a handler. -/
  | registerCommand (name : Value) (calls : List (List (Request K)))
  | defineLabels (labels : Keyed Value)
  | loadSequence (statements : Value) (advance : Bool)
  /-- Define the labels of a mapping, or load a list. -/
  | takeScript (script : Value) (advance : Bool)
  | startLabel (label : Value) (advance : Bool)
  | advance
  /-- Read a statement without doing anything that it says. -/
  | parse (statement : Value)
  /-- Do what a statement says, outside of any script. -/
  | say (statement : Value)
  | clear
  /-- Show a text in a box of its own. -/
  | showText (kind : DialogKind) (text options : Value)
  /-- The options of a box for this speaker and image. -/
  | boxOptions (who sideImage options : Value)
  | settings
  | names
  | reset
  | subscribe (signal : Signal) (title : Value) (calls : List (List (Request K)))
      (priority : Value) (oneShot : Bool)
  /-- Stop the latest handler of this title waiting for a signal. -/
  | unsubscribe (signal : Signal) (title : Value)
  /-- Consume the event that is being delivered. -/
  | consume
  /-- Look something up in the event that is being delivered. -/
  | look (key default : Value)
  /-- Look something up that must be there. -/
  | item (key : Value)
  /-- Give up. -/
  | raise (fault : Fault)
  /-- Try something, and go on also when it fails. -/
  | attempt (r : Request K)
  /-- Ask something of the surface. -/
  | ask (r : K.Request)
  /-- Put files into the data folder. -/
  | putFiles (files : List (Files.Path × Files.Node))
  | loadLibrary
  | findCharacter (key : Value)
  | findLabel (label : Value)
  /-- Hand the library over to the session. -/
  | install (advance : Bool)

instance {K : Surface} : Inhabited (Request K) :=
  ⟨.advance⟩

/-- Induction over what a request tries.  The requests that a handler holds are none of the request's
own. -/
@[elab_as_elim, induction_eliminator]
theorem Request.induction {K : Surface} {motive : Request K → Prop}
    (configure : ∀ options, motive (.configure options))
    (registerCharacters : ∀ entries, motive (.registerCharacters entries))
    (nameCommand : ∀ name, motive (.nameCommand name))
    (registerCommand : ∀ name calls, motive (.registerCommand name calls))
    (defineLabels : ∀ labels, motive (.defineLabels labels))
    (loadSequence : ∀ statements advance, motive (.loadSequence statements advance))
    (takeScript : ∀ script advance, motive (.takeScript script advance))
    (startLabel : ∀ label advance, motive (.startLabel label advance))
    (advance : motive .advance)
    (parse : ∀ statement, motive (.parse statement))
    (say : ∀ statement, motive (.say statement))
    (clear : motive .clear)
    (showText : ∀ kind text options, motive (.showText kind text options))
    (boxOptions : ∀ who sideImage options, motive (.boxOptions who sideImage options))
    (settings : motive .settings)
    (names : motive .names)
    (reset : motive .reset)
    (subscribe : ∀ signal title calls priority oneShot,
      motive (.subscribe signal title calls priority oneShot))
    (unsubscribe : ∀ signal title, motive (.unsubscribe signal title))
    (consume : motive .consume)
    (look : ∀ key default, motive (.look key default))
    (item : ∀ key, motive (.item key))
    (raise : ∀ fault, motive (.raise fault))
    (attempt : ∀ r, motive r → motive (.attempt r))
    (ask : ∀ r, motive (.ask r))
    (putFiles : ∀ files, motive (.putFiles files))
    (loadLibrary : motive .loadLibrary)
    (findCharacter : ∀ key, motive (.findCharacter key))
    (findLabel : ∀ label, motive (.findLabel label))
    (install : ∀ advance, motive (.install advance)) (r : Request K) : motive r :=
  @Request.rec K motive (fun _ => True) (fun _ => True) configure registerCharacters nameCommand
    (fun name calls _ => registerCommand name calls) defineLabels loadSequence takeScript startLabel
    advance parse say clear showText boxOptions settings names reset
    (fun signal title calls priority oneShot _ => subscribe signal title calls priority oneShot)
    unsubscribe consume look item raise attempt ask putFiles loadLibrary findCharacter findLabel
    install trivial (fun _ _ _ _ => trivial) trivial (fun _ _ _ _ => trivial) r

/-- The answer to a request. -/
inductive Reply (K : Surface) where
  | done
  | truth (b : Bool)
  | value (v : Value)
  | line (l : Line)
  | handle (h? : Option K.Handle)
  | datum (d : Datum K.Handle)
  | names (characters commands labels : List Value)
  | answer (a : K.Answer)
  | library (l : Library)
  /-- What was tried failed. -/
  | failed (fault : Fault)

/-- What can be seen of a run. -/
inductive Occurrence (K : Surface) where
  | reported (report : Report)
  /-- The surface was cleared, and these boxes are left. -/
  | cleared (visible : List K.Handle)
  | rendered (handle : K.Handle) (intent : Intent) (options : Value)
  /-- An observer saw an event. -/
  | observed (notice : Notice K.Handle)
  /-- An event handler was called. -/
  | called (title : Value) (notice : Notice K.Handle)
  /-- A command's handler was called. -/
  | commanded (name : Value)
  /-- A request of a handler was answered. -/
  | replied (reply : Reply K)
  /-- Something was drawn. -/
  | marked (mark : K.Mark)

/-- A handler of a host. -/
inductive Handler (K : Surface) where
  /-- Writes every event that it sees into the journal. -/
  | observer
  /-- Makes a remark. -/
  | remark (text : String)
  /-- Carries out the lists of requests that it holds, one at each call.  The handler of a command
  has no title. -/
  | held (title? : Option Value) (calls : List (List (Request K)))

/-- A host with its session. -/
structure Host (K : Surface) where
  session : Session K
  handlers : List (Handler K) := []
  journal : List (Occurrence K) := []
  /-- The folders and files around the host; the working folder is its data folder. -/
  disk : Files.Node := .bare
  library : Library := {}

/-- A step of a host. -/
abbrev Act (K : Surface) (α : Type) :=
  Step (Host K) α

/-- Why a handler is called. -/
inductive Occasion (K : Surface) where
  | command (name : Value)
  | event (notice : Notice K.Handle)

/-- How a session is played: what handlers do when they are called, and how many rounds of
deliveries there can be. -/
structure Playing (K : Surface) where
  react : HandlerId → Occasion K → Act K Unit
  rounds : Nat

namespace Host

variable {K : Surface}

/-- Write something into the journal. -/
def note (o : Occurrence K) (h : Host K) : Host K :=
  { h with journal := h.journal ++ [o] }

/-- Change the session. -/
def onSession (f : Session K → Session K) (h : Host K) : Host K :=
  { h with session := f h.session }

/-- Where a host keeps its bus. -/
def site : Bus.Site (Host K) HandlerId (Notice K.Handle) where
  bus := fun h => h.session.bus
  withBus := fun bus h => { h with session := { h.session with bus } }

/-- Add a handler.  Its number is the number of handlers before it. -/
def addHandler (handler : Handler K) (h : Host K) : Host K :=
  { h with handlers := h.handlers ++ [handler] }

/-- A host that sees every event of its session before any other handler does. -/
def observing (session : Session K) : Host K where
  session := { session with
    bus := Signal.all.foldl (fun bus signal => bus.subscribeFirst signal 0 (.int 1000000))
      session.bus }
  handlers := [.observer]

end Host

end Dialogue
