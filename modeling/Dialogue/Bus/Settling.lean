import Dialogue.Bus.Basic

/-!
# Settling

A host keeps a bus somewhere in its state.  When nothing is being delivered and events wait, the
host settles: it delivers one event after the other, calling each handler in turn, until none is
left.  Handlers may publish more while they are called; those events wait for the next round.

Rounds are bounded by a number that the host gives; a host whose handlers do only finitely much has
such a bound.

Reference model of the loops of `EventBus`: `Site.publish` is `EventBus.publish`, `Site.deliver` is
`EventBus._dispatch`, and `Site.serve` the loop of `EventBus._call_handlers`.
-/

set_option autoImplicit false

namespace Dialogue.Bus

variable {σ η α : Type}

/-- Where a state keeps its bus. -/
structure Site (σ η α : Type) where
  bus : σ → Bus η α
  withBus : Bus η α → σ → σ

namespace Site

variable (site : Site σ η α)

/-- Change the bus. -/
def update (f : Bus η α → Bus η α) : StateM σ Unit :=
  modify fun s => site.withBus (f (site.bus s)) s

variable [DecidableEq η]

/-- The next subscription to call. -/
def callNext : StateM σ (Option (Subscription η)) := fun s =>
  let (next, b) := (site.bus s).callNext
  (next, site.withBus b s)

/-- Call the subscriptions that are still to come, at most so many. -/
def serve (react : η → Event α → StateM σ Unit) (event : Event α) : Nat → StateM σ Unit
  | 0 => pure ()
  | n + 1 => do
    match ← site.callNext with
    | none => pure ()
    | some s =>
      react s.handler event
      serve react event n

/-- Deliver the event that waits longest. -/
def deliver (react : η → Event α → StateM σ Unit) : StateM σ Unit := do
  site.update Bus.start
  match (site.bus (← get)).running? with
  | none => pure ()
  | some d =>
    site.serve react d.event d.pending.length
    site.update Bus.finish

/-- Deliver so many events. -/
def deliverMany (react : η → Event α → StateM σ Unit) : Nat → StateM σ Unit
  | 0 => pure ()
  | n + 1 => do
    site.deliver react
    deliverMany react n

/-- Deliver the events that wait, then those that were published meanwhile, and so on for at most
so many rounds. -/
def settle (react : η → Event α → StateM σ Unit) : Nat → StateM σ Unit
  | 0 => pure ()
  | n + 1 => do
    match (site.bus (← get)).queue with
    | [] => pure ()
    | waiting =>
      site.deliverMany react waiting.length
      settle react n

/-- Publish an event.  When none is being delivered, everything that waits is delivered before
this returns. -/
def publish (react : η → Event α → StateM σ Unit) (rounds : Nat) (signal : Signal) (data : α) :
    StateM σ (Event α) := do
  let idle := (site.bus (← get)).running?.isNone
  let (event, b) := (site.bus (← get)).publish signal data
  modify (site.withBus b)
  if idle then site.settle react rounds
  return event

end Site

end Dialogue.Bus
