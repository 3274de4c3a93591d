import Dialogue.Signal
import Dialogue.Value.Order

/-!
# The bus

Handlers subscribe to signals; events are delivered to the subscriptions of their signal, those of
higher priority first and those of equal priority in the order of subscription.  A priority may be
any value that can be compared with those of the subscriptions before it.  Events wait in a queue
and are delivered one at a time.

The bus is a machine of small steps, so that a handler that is being called may use it freely:
subscribe, unsubscribe, clear, publish.  A delivery works on the roster as it was when the delivery
began (`Delivery.pending`).  Subscriptions that are spent (called once, or their handler gone) are
struck off when the delivery ends, and only off the roster it began with: a roster that was
replaced in between bears another edition number and is left alone.

A weak subscription does not keep its handler.  A handler that the host gave up stays as long as a
strong subscription holds it: one on a roster, or one on a roster that was given up only after a
delivery had begun with it, until all events are settled.  A delivery itself holds the handler that
it called last, until it has come to the next subscription.

An event can be consumed by whoever has it, those who published it while it waits among them.  A
delivery asks whether its event is consumed only after each call.

Reference model of `EventBus`, `Event` and `_Subscription`: `Bus.subscribe`, `Bus.unsubscribe`,
`Bus.clear` and `Bus.clearAll` are its methods of these names, `Bus.publish` puts an event where
`publish` does, and `Bus.start`, `Bus.callNext` and `Bus.finish` are the beginning of `_dispatch`,
one turn of the loop of `_call_handlers`, and what follows the loop.  `Bus.isLive` is
`_Subscription.resolve`.
-/

set_option autoImplicit false

namespace Dialogue

/-- Something that happened, told to the subscribers of its signal. -/
structure Event (α : Type) where
  number : Nat
  signal : Signal
  data : α
deriving Repr

/-- A handler that waits for a signal. -/
structure Subscription (η : Type) where
  /-- What tells this subscription from all others. -/
  ticket : Nat
  /-- Higher ones are called first. -/
  priority : Value
  handler : η
  /-- Is it called once at most? -/
  oneShot : Bool
  /-- Does it leave its handler to the host to keep? -/
  weak : Bool
deriving DecidableEq, Repr

/-- The subscriptions of one signal.  The edition changes when the list is replaced as a whole. -/
structure Roster (η : Type) where
  edition : Nat
  entries : List (Subscription η)
deriving DecidableEq, Repr

/-- An event that is being delivered. -/
structure Delivery (η α : Type) where
  event : Event α
  /-- The edition of the roster that the delivery began with. -/
  edition : Nat
  /-- The subscriptions that were not come to yet. -/
  pending : List (Subscription η)
  /-- The handler that was called last. -/
  last? : Option η := none
  /-- The tickets to strike off in the end. -/
  spent : List Nat := []
deriving Repr

/-- The state of a bus. -/
structure Bus (η α : Type) where
  rosters : List (Signal × Roster η) := []
  /-- Events that wait, the oldest first. -/
  queue : List (Event α) := []
  running? : Option (Delivery η α) := none
  /-- Handlers that the host gave up. -/
  forgotten : List η := []
  /-- The editions that deliveries began with since the bus was last at rest. -/
  begun : List Nat := []
  /-- Rosters of these editions that were given up since. -/
  retired : List (Roster η) := []
  /-- The events that a handler consumed, by number. -/
  consumed : List Nat := []
  /-- How many numbers were given out. -/
  issued : Nat := 0
deriving Repr

namespace Bus

variable {η α : Type}

/-! ## Rosters -/

/-- The roster in a list of rosters. -/
def rosterIn? (signal : Signal) : List (Signal × Roster η) → Option (Roster η)
  | [] => none
  | (s, r) :: rest => if s = signal then some r else rosterIn? signal rest

/-- Put a roster in place of the one of its signal, or at the end. -/
def putRoster (signal : Signal) (r : Roster η) :
    List (Signal × Roster η) → List (Signal × Roster η)
  | [] => [(signal, r)]
  | (s, old) :: rest => if s = signal then (s, r) :: rest else (s, old) :: putRoster signal r rest

/-- The roster of a signal. -/
def roster? (b : Bus η α) (signal : Signal) : Option (Roster η) :=
  rosterIn? signal b.rosters

/-- The subscriptions of a signal, in the order in which they are called. -/
def subscriptions (b : Bus η α) (signal : Signal) : List (Subscription η) :=
  (b.roster? signal).elim [] Roster.entries

/-- Is an event being delivered, or waiting? -/
def isBusy (b : Bus η α) : Bool :=
  b.running?.isSome || !b.queue.isEmpty

/-- The retired rosters after these are given up: those that a delivery began with are kept. -/
def retire (b : Bus η α) (gone : List (Roster η)) : List (Roster η) :=
  if b.isBusy then gone.filter (fun r => b.begun.contains r.edition) ++ b.retired else b.retired

/-- Insert a subscription before the first one of lower priority. -/
def insertByPriority (s : Subscription η) :
    List (Subscription η) → Except Fault (List (Subscription η))
  | [] => .ok [s]
  | t :: rest =>
    match s.priority.exceeds t.priority with
    | .error f => .error f
    | .ok true => .ok (s :: t :: rest)
    | .ok false => (insertByPriority s rest).map (t :: ·)

/-! ## What a host can do at any time -/

/-- The bus with these subscriptions for a signal, of which one is new. -/
def enroll (b : Bus η α) (signal : Signal) (entries : List (Subscription η)) : Bus η α :=
  let edition := (b.roster? signal).elim (b.issued + 1) Roster.edition
  { b with rosters := putRoster signal { edition, entries } b.rosters, issued := b.issued + 2 }

/-- Wait for a signal.  A priority that cannot be compared is refused. -/
def subscribe (b : Bus η α) (signal : Signal) (handler : η) (priority : Value)
    (oneShot weak : Bool) : Except Fault (Bus η α) :=
  let s : Subscription η := { ticket := b.issued, priority, handler, oneShot, weak }
  (insertByPriority s (b.subscriptions signal)).map (b.enroll signal)

/-- Wait for a signal before all others that wait for it now. -/
def subscribeFirst (b : Bus η α) (signal : Signal) (handler : η) (priority : Value) : Bus η α :=
  let s : Subscription η :=
    { ticket := b.issued, priority, handler, oneShot := false, weak := false }
  b.enroll signal (s :: b.subscriptions signal)

/-- Stop waiting for a signal.  The other subscriptions go on in a new edition of the roster. -/
def unsubscribe [DecidableEq η] (b : Bus η α) (signal : Signal) (handler : η) : Bus η α :=
  match b.roster? signal with
  | none => b
  | some r =>
    if r.entries.isEmpty then b
    else
      let kept := r.entries.filter fun s => s.handler ≠ handler
      { b with
        rosters := putRoster signal { edition := b.issued, entries := kept } b.rosters
        retired := b.retire [r]
        issued := b.issued + 1 }

/-- Drop the subscriptions of one signal. -/
def clear (b : Bus η α) (signal : Signal) : Bus η α :=
  { b with
    rosters := b.rosters.filter fun e => e.1 ≠ signal
    retired := b.retire (b.roster? signal).toList }

/-- Drop all subscriptions. -/
def clearAll (b : Bus η α) : Bus η α :=
  { b with
    rosters := []
    retired := b.retire (b.rosters.map Prod.snd) }

/-- Give a handler up. -/
def forget (b : Bus η α) (handler : η) : Bus η α :=
  { b with forgotten := b.forgotten ++ [handler] }

/-- Let an event wait for its delivery. -/
def publish (b : Bus η α) (signal : Signal) (data : α) : Event α × Bus η α :=
  let e : Event α := { number := b.issued, signal, data }
  (e,
    { b with
      queue := b.queue ++ [e]
      begun := if b.isBusy then b.begun else []
      retired := if b.isBusy then b.retired else []
      issued := b.issued + 1 })

/-- Keep an event from the subscriptions that are still to come after the next call for it. -/
def consume (b : Bus η α) (e : Event α) : Bus η α :=
  { b with consumed := e.number :: b.consumed }

/-- Was this event consumed? -/
def isConsumed (b : Bus η α) (e : Event α) : Bool :=
  b.consumed.contains e.number

/-- The event that is being delivered. -/
def current? (b : Bus η α) : Option (Event α) :=
  b.running?.map Delivery.event

/-- Consume the event that is being delivered. -/
def consumeCurrent (b : Bus η α) : Bus η α :=
  b.current?.elim b b.consume

/-! ## Delivery -/

/-- Does a strong subscription hold this handler? -/
def holds [DecidableEq η] (b : Bus η α) (handler : η) : Bool :=
  (b.rosters.map Prod.snd ++ if b.isBusy then b.retired else []).any fun r =>
    r.entries.any fun s => !s.weak && s.handler = handler

/-- Is the handler of this subscription kept, by the subscription itself, by the host or by another
subscription? -/
def isKept [DecidableEq η] (b : Bus η α) (s : Subscription η) : Bool :=
  !s.weak || !b.forgotten.contains s.handler || b.holds s.handler

/-- Is the handler of this subscription still there, when a delivery holds the handler that it called
last? -/
def isLive [DecidableEq η] (b : Bus η α) (last? : Option η) (s : Subscription η) : Bool :=
  b.isKept s || last? = some s.handler

/-- Begin to deliver the event that waits longest.  An event that nobody waits for is passed
over. -/
def start (b : Bus η α) : Bus η α :=
  match b.running?, b.queue with
  | none, e :: rest =>
    match b.roster? e.signal with
    | none => { b with queue := rest }
    | some r =>
      if r.entries.isEmpty then { b with queue := rest }
      else
        { b with
          queue := rest
          begun := r.edition :: b.begun
          running? := some { event := e, edition := r.edition, pending := r.entries } }
  | _, _ => b

/-- The first live subscription, the handler that is held then, the subscriptions after it, and the
tickets that are spent: of the dead ones before it and of the one itself when it is called once.  With
a dead one the handler that was called last is let go. -/
def pickLive (live : Option η → Subscription η → Bool) :
    Option η → List (Subscription η) → List Nat →
      Option (Subscription η) × Option η × List (Subscription η) × List Nat
  | last?, [], spent => (none, last?, [], spent)
  | last?, s :: rest, spent =>
    if live last? s then
      (some s, some s.handler, rest, if s.oneShot then s.ticket :: spent else spent)
    else pickLive live none rest (s.ticket :: spent)

/-- The next subscription to call for the event that is being delivered.  When somebody was called for
an event that is consumed, nobody else is. -/
def callNext [DecidableEq η] (b : Bus η α) : Option (Subscription η) × Bus η α :=
  match b.running? with
  | none => (none, b)
  | some d =>
    if d.last?.isSome && b.isConsumed d.event then (none, b)
    else
      let (next, last?, pending, spent) := pickLive b.isLive d.last? d.pending d.spent
      (next, { b with running? := some { d with pending, last?, spent } })

/-- A roster without the subscriptions that a delivery spent, if it began with this roster. -/
def strike (d : Delivery η α) (r : Roster η) : Roster η :=
  if r.edition = d.edition then
    { r with entries := r.entries.filter fun s => !d.spent.contains s.ticket }
  else r

/-- End a delivery: strike what is spent off the roster it began with. -/
def finish (b : Bus η α) : Bus η α :=
  match b.running? with
  | none => b
  | some d =>
    { b with
      rosters := b.rosters.map fun e => (e.1, strike d e.2)
      retired := b.retired.map (strike d)
      running? := none }

end Bus

end Dialogue
