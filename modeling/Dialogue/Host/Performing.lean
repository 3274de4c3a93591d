import Dialogue.Session.Playing

/-!
# Performing requests

What a host does with a request, and what its handlers do when they are called.

A handler's list is taken away before its requests are carried out, so a handler that is called
again meanwhile goes on with the list after it.  A request that fails ends its list, and the
failure goes on to whoever called the handler.  A request that only tries another one does not fail
when the other does; the failure is its answer.

Every call with something to do uses up a list, so the number of lists that are left
(`Host.depth`) bounds how deep calls are nested and how many rounds of deliveries there can be.

Reference model of what handlers do that are functions of such a program: the function of a command
(`CommandDispatcher.register`) or of an event (`EventBus.subscribe`).
-/

set_option autoImplicit false

namespace Dialogue

variable {K : Surface}

/-! ## Counting lists -/

mutual

/-- How many lists a request brings with it. -/
def Request.lists : Request K → Nat
  | .registerCommand _ calls => listsIn calls
  | .subscribe _ _ calls _ _ => listsIn calls
  | .attempt r => r.lists
  | _ => 0

/-- How many lists there are, with those that their requests bring. -/
def listsIn : List (List (Request K)) → Nat
  | [] => 0
  | call :: rest => 1 + listsInCall call + listsIn rest

/-- How many lists the requests of one list bring. -/
def listsInCall : List (Request K) → Nat
  | [] => 0
  | r :: rest => r.lists + listsInCall rest

end

/-- How many lists a handler holds. -/
def Handler.lists : Handler K → Nat
  | .held _ calls => listsIn calls
  | _ => 0

/-- How many lists several handlers hold together. -/
def heldLists : List (Handler K) → Nat
  | [] => 0
  | handler :: rest => handler.lists + heldLists rest

namespace Host

/-- One more than the number of lists that all handlers hold and a request brings. -/
def depth (h : Host K) (r : Request K) : Nat :=
  heldLists h.handlers + r.lists + 1

/-- Take the next list of a handler away. -/
def takeCall (id : HandlerId) (h : Host K) : List (Request K) × Host K :=
  match h.handlers[id]? with
  | some (.held title? (next :: rest)) =>
    (next, { h with handlers := h.handlers.set id (.held title? rest) })
  | _ => ([], h)

/-- The number of the latest event handler of a title. -/
def latest? (h : Host K) (title : Value) : Option HandlerId :=
  (List.range h.handlers.length).reverse.find? fun id =>
    match h.handlers[id]? with
    | some (.held (some t) _) => decide (t.asKey = title.asKey)
    | _ => false

end Host

/-! ## Requests -/

namespace Playing

/-- The parts of the event that is being delivered. -/
def currentParts : Act K (Table (Datum K.Handle)) := do
  return (← get).session.bus.current?.elim [] fun e => e.data.parts

/-- Register a command with the handler that is added next. -/
def registerCommand (name : Value) (handler? : Option (Handler K)) : Act K Unit := do
  let h ← get
  match h.session.commands.register name (handler?.map fun _ => h.handlers.length) with
  | .error f => throw f
  | .ok commands =>
    modify (Host.onSession fun s => { s with commands })
    if let some handler := handler? then modify (Host.addHandler handler)

/-- Subscribe a new handler.  Its title must be a key; the handler is known by it from then on, also
when its priority is refused. -/
def subscribe (signal : Signal) (title : Value) (calls : List (List (Request K)))
    (priority : Value) (oneShot : Bool) : Act K Unit := do
  if let some f := title.keyFault? then throw f
  let id := (← get).handlers.length
  modify (Host.addHandler (.held (some title) calls))
  let bus ← Step.of ((← get).session.bus.subscribe signal id priority oneShot false)
  modify (Host.onSession fun s => { s with bus })

/-- Stop the latest handler of a title waiting for a signal. -/
def unsubscribe (signal : Signal) (title : Value) : Act K Unit := do
  if let some f := title.keyFault? then throw f
  match (← get).latest? title with
  | none => throw (.missingKey title)
  | some id => modify (Host.onSession fun s => { s with bus := s.bus.unsubscribe signal id })

/-- Carry out a request. -/
def carryOut (p : Playing K) : Request K → Act K (Reply K)
  | .configure options => do configure options; return .done
  | .registerCharacters entries => do registerCharacters entries; return .done
  | .nameCommand name => do registerCommand name none; return .done
  | .registerCommand name calls => do registerCommand name (some (.held none calls)); return .done
  | .defineLabels labels => do defineLabels labels; return .done
  | .loadSequence statements advance => do p.loadSequence statements advance; return .done
  | .takeScript script advance => do p.takeScript script advance; return .done
  | .startLabel label advance => do p.startLabel label advance; return .done
  | .advance => return .truth (← p.advance)
  | .parse statement => return .line (← parse statement)
  | .say statement => return .line (← p.say statement)
  | .clear => do p.clear; return .done
  | .showText kind text options => return .handle (← showText kind text options)
  | .boxOptions who sideImage options => return .value (← boxOptions who sideImage options)
  | .settings => return .value (← get).session.settings.toValue
  | .names => do
    let s := (← get).session
    return .names (s.cast.keys.map .text) s.commands.names (Keyed.keys s.playhead.labels)
  | .reset => do
    modify (Host.onSession fun s => { s with playhead := s.playhead.reset })
    return .done
  | .subscribe signal title calls priority oneShot => do
    subscribe signal title calls priority oneShot
    return .done
  | .unsubscribe signal title => do unsubscribe signal title; return .done
  | .consume => do
    modify (Host.onSession fun s => { s with bus := s.bus.consumeCurrent })
    return .done
  | .look key default => do
    let found ← Step.of (Table.find (← currentParts) key)
    return .datum (found.getD (.value default))
  | .item key => do
    return .datum (← Step.of (Table.fetch (← currentParts) key))
  | .raise fault => throw fault
  | .attempt r => try carryOut p r catch fault => pure (.failed fault)
  | .ask r => do
    let ((result, surface), marks) := K.answer r (← get).session.surface
    modify (Host.onSession fun s => { s with surface })
    modify fun h => { h with journal := h.journal ++ marks.map Occurrence.marked }
    return .answer (← Step.of result)
  | .putFiles files => do
    let h ← get
    let (result, disk) := (Files.Node.addAll files).run.run h.disk
    set ({ h with disk } : Host K)
    Step.of result
    return .done
  | .loadLibrary => do
    let h ← get
    let ((result, library), reports) := Library.load h.disk.working h.library
    set ({ h with library, journal := h.journal ++ reports.map Occurrence.reported } : Host K)
    Step.of result
    return .library library
  | .findCharacter key => do
    let found ← Step.of (Table.find (← get).library.characters key)
    return .value (found.getD .null)
  | .findLabel label => do
    let found ← Step.of (Table.find (← get).library.labels label)
    return .value (found.elim .null .ofList)
  | .install advance => do
    p.install (← get).library advance
    return .done

/-! ## Handlers -/

/-- Does the answer to this request belong into the journal when a handler makes it? -/
def isAnswered : Request K → Bool
  | .consume => false
  | .attempt r => isAnswered r
  | _ => true

/-- Carry out the requests of a handler, one after the other. -/
def carryOutAll (p : Playing K) : List (Request K) → Act K Unit
  | [] => pure ()
  | r :: rest => do
    let reply ← p.carryOut r
    if isAnswered r then modify (Host.note (.replied reply))
    carryOutAll p rest

/-- What is seen of a handler being called. -/
def occurrenceOf (title? : Option Value) : Occasion K → Occurrence K
  | .command name => .commanded name
  | .event notice => .called (title?.getD .null) notice

/-- What a handler does when it is called.  The first argument bounds the depth of nested
calls. -/
def reactWithin : Nat → HandlerId → Occasion K → Act K Unit
  | 0, _, _ => pure ()
  | n + 1, id, occasion => do
    match (← get).handlers[id]?, occasion with
    | none, _ | some .observer, .command _ => pure ()
    | some .observer, .event notice => modify (Host.note (.observed notice))
    | some (.remark text), _ => Act.report (.remark text)
    | some (.held title? _), occasion =>
      modify (Host.note (occurrenceOf title? occasion))
      let requests ← modifyGet (Host.takeCall id)
      carryOutAll { react := reactWithin n, rounds := n + 1 } requests

/-- A way to play whose depth and rounds are bounded. -/
def within (depth : Nat) : Playing K where
  react := reactWithin depth
  rounds := depth

end Playing

namespace Host

/-- Perform a request of the host. -/
def perform (r : Request K) : Act K (Reply K) := do
  (Playing.within ((← get).depth r)).carryOut r

end Host

end Dialogue
