import Dialogue.Bus.Settling
import Dialogue.Report
import Dialogue.Value.Keyed

/-!
# A host of a bus

A host whose handlers are given in advance, each under a key.  A handler holds lists of requests,
and every call of it uses up the next list.  A list is taken away before its requests are carried
out, so a handler that is called again meanwhile goes on with the list after it.  A request that
fails ends its list; the failure is reported and the delivery goes on.  A request that only tries
another one does not fail when the other does; the failure is its answer.

The host keeps what it published, and may consume an event before it is delivered.

As the lists are finite, every run comes to an end: `Host.depth` bounds both how deep calls can be
nested and how many rounds of deliveries there can be.

Reference model of the programs that use `EventBus`: those that subscribe handlers, publish, look into
the `Event` that they are called with (`Event.get`, `Event.__getitem__`, `Event.consume`), and catch
what goes wrong (`Request.attempt`).
-/

set_option autoImplicit false

namespace Dialogue.Bus

/-- The data of an event on a bare bus. -/
abbrev Payload :=
  Table Value

/-- What a host or one of its handlers can ask for. -/
inductive Request where
  | subscribe (signal : Signal) (handler priority : Value) (oneShot weak : Bool)
  | unsubscribe (signal : Signal) (handler : Value)
  | publish (signal : Signal) (data : Value)
  | clear (signal? : Option Signal)
  | forget (handler : Value)
  /-- Consume the event that is being delivered. -/
  | consume
  /-- Consume an event that was published, by its place among all that were. -/
  | withdraw (place : Nat)
  /-- Look something up in the event that is being delivered. -/
  | look (key default : Value)
  /-- Look something up that must be there. -/
  | item (key : Value)
  /-- Give up. -/
  | raise (fault : Fault)
  /-- Try something, and go on also when it fails. -/
  | attempt (r : Request)
deriving Repr

/-- The answer to a request. -/
inductive Reply where
  | done
  | value (v : Value)
  | event (signal : Signal) (data : Payload) (consumed : Bool)
  /-- What was tried failed. -/
  | failed (fault : Fault)
deriving Repr

/-- What can be seen of a run. -/
inductive Occurrence where
  | called (handler : Value) (signal : Signal) (data : Payload)
  | replied (reply : Reply)
  | reported (report : Report)
deriving Repr

/-- A bus, the requests that its handlers still hold, the events that publishing gave back, and what
was seen so far. -/
structure Host where
  bus : Bus Value Payload := {}
  held : Keyed (List (List Request)) := []
  published : List (Event Payload) := []
  journal : List Occurrence := []
deriving Repr

namespace Host

/-- Where a host keeps its bus. -/
def site : Site Host Value Payload where
  bus := Host.bus
  withBus := fun b h => { h with bus := b }

/-- Write something into the journal. -/
def note (o : Occurrence) (h : Host) : Host :=
  { h with journal := h.journal ++ [o] }

/-- Keep an event that publishing gave back. -/
def keep (e : Event Payload) (h : Host) : Host :=
  { h with published := h.published ++ [e] }

/-- How many lists the handlers of a table hold together. -/
def heldLists : Keyed (List (List Request)) → Nat
  | [] => 0
  | (_, calls) :: rest => calls.length + heldLists rest

/-- How many lists the handlers still hold, and one more. -/
def depth (h : Host) : Nat :=
  heldLists h.held + 1

/-- Take the next list of a handler away. -/
def takeHeld (handler : Value) (h : Host) : List Request × Host :=
  match Keyed.get? h.held handler with
  | some (next :: rest) => (next, { h with held := Keyed.put h.held handler rest })
  | _ => ([], h)

/-- Change the bus. -/
def onBus (f : Bus Value Payload → Bus Value Payload) : Step Host Reply := do
  modify fun h => { h with bus := f h.bus }
  return .done

/-- The names that data cannot have, because publishing takes something else under them. -/
def reservedNames : List String :=
  ["self", "event_type"]

/-- The data that a value gives by name.  What does not count as true gives none. -/
def payloadOf (v : Value) : Except Fault Payload :=
  match v.entries? with
  | some data =>
    match (Table.keys data).find? fun name => name ∈ reservedNames with
    | some name => .error (.doubledArgument "EventBus.publish" name)
    | none => .ok data
  | none =>
    if v.truthy then .error (.notArguments "parley.core.events.EventBus.publish" v.typeName)
    else .ok []

/-- Carry out one request, given how handlers react and a bound on the rounds of deliveries. -/
def carryOut (react : Value → Event Payload → StateM Host Unit) (rounds : Nat) :
    Request → Step Host Reply
  | .subscribe signal handler priority oneShot weak => do
    let bus ← Step.of ((← get).bus.subscribe signal handler priority oneShot weak)
    onBus fun _ => bus
  | .unsubscribe signal handler => onBus fun b => b.unsubscribe signal handler
  | .publish signal data => do
    let data ← Step.of (payloadOf data)
    let event ← ExceptT.lift (site.publish react rounds signal data)
    modify (keep event)
    return .event signal data ((← get).bus.isConsumed event)
  | .clear none => onBus Bus.clearAll
  | .clear (some signal) => onBus fun b => b.clear signal
  | .forget handler => onBus fun b => b.forget handler
  | .consume => onBus Bus.consumeCurrent
  | .withdraw place => do
    let event? := (← get).published[place]?
    onBus fun b => event?.elim b b.consume
  | .look key default => do
    let data := (← get).bus.current?.elim [] Event.data
    return .value ((← Step.of (Table.find data key)).getD default)
  | .item key => do
    let data := (← get).bus.current?.elim [] Event.data
    return .value (← Step.of (Table.fetch data key))
  | .raise fault => throw fault
  | .attempt r => try carryOut react rounds r catch fault => pure (.failed fault)

/-- Does the answer to this request belong into the journal when a handler makes it? -/
def isAnswered : Request → Bool
  | .consume | .withdraw _ => false
  | .attempt r => isAnswered r
  | _ => true

/-- Carry out the requests of a handler, one after the other. -/
def carryOutAll (perform : Request → Step Host Reply) : List Request → Step Host Unit
  | [] => pure ()
  | r :: rest => do
    let reply ← perform r
    if isAnswered r then modify (note (.replied reply))
    carryOutAll perform rest

/-- What a handler does when it is called: the next list of requests it holds.  The first argument
bounds the depth of nested calls. -/
def react : Nat → Value → Event Payload → StateM Host Unit
  | 0, _, _ => pure ()
  | n + 1, handler, event => do
    modify (note (.called handler event.signal event.data))
    let requests ← modifyGet (takeHeld handler)
    match ← (carryOutAll (carryOut (react n) (n + 1)) requests).run with
    | .ok () => pure ()
    | .error _ => modify (note (.reported (.handlerFailed event.signal)))

/-- Carry out a request of the host. -/
def perform (r : Request) : Step Host Reply := do
  let depth := (← get).depth
  carryOut (react depth) depth r

end Host

end Dialogue.Bus
