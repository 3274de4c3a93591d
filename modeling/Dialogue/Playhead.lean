import Dialogue.Report
import Dialogue.Value.Keyed

/-!
# The playhead

A script maps labels to lists of statements; whatever can be a key can be a label.  The playhead
stands in one list at a time: that of a label, or a loose list that belongs to none.  A label is
looked up on every step, so replacing its list takes effect at the place where the playhead stands,
also when the label is written in another way then.

Reference model of `ScriptSequencer` and `SequenceState` (`Standing`): `Playhead.defineAll`,
`Playhead.loadMembers`, `Playhead.start`, `Playhead.take` and `Playhead.reset` are its `define_labels`,
`load_sequence`, `start_label`, `take` and `reset`.
-/

set_option autoImplicit false

namespace Dialogue

/-- Where a playhead stands: nowhere, at a statement, or past the last one. -/
inductive Standing where
  | idle
  | active
  | exhausted
deriving DecidableEq, Repr

/-- The labels of a script, the list that is played and the place in it. -/
structure Playhead where
  labels : Keyed (List Value) := []
  /-- The label that is played, as it was written when it was started. -/
  label? : Option Value := none
  /-- The loose list that is played. -/
  loose? : Option (List Value) := none
  cursor : Nat := 0
deriving DecidableEq, Repr

namespace Playhead

/-- The list that is played. -/
def statements? (p : Playhead) : Option (List Value) :=
  match p.label? with
  | some label => Keyed.get? p.labels label
  | none => p.loose?

/-- Where the playhead stands. -/
def standing (p : Playhead) : Standing :=
  match p.statements? with
  | none => .idle
  | some statements => if p.cursor < statements.length then .active else .exhausted

/-- Is there such a label? -/
def hasLabel (p : Playhead) (label : Value) : Bool :=
  Keyed.has p.labels label

/-- Add or replace one label. -/
def define (p : Playhead) (label : Value) (statements : List Value) : Playhead :=
  { p with labels := Keyed.put p.labels label statements }

/-- Add or replace labels, one after the other.  A label takes the members of its value; a value
without members, or with members but no length, ends the definitions. -/
def defineAll : Keyed Value → Playhead → Except Fault Unit × Playhead
  | [], p => (.ok (), p)
  | (label, v) :: rest, p =>
    match v.members? with
    | none => (.error (.notIterable v.typeName), p)
    | some statements =>
      match v.length? with
      | none => (.error (.noLength v.typeName), p.define label statements)
      | some _ => defineAll rest (p.define label statements)

/-- Play a loose list from its start. -/
def load (p : Playhead) (statements : List Value) : Playhead :=
  { p with loose? := some statements, label? := none, cursor := 0 }

/-- Play the members of a value as a loose list. -/
def loadMembers (v : Value) (p : Playhead) : Except Fault Unit × Playhead :=
  match v.members? with
  | none => (.error (.notIterable v.typeName), p)
  | some members => (.ok (), p.load members)

/-- Play a label from its start.  Tells whether there is such a label: an unknown one leaves the
playhead idle, also when the label is defined later.  What cannot be a key is not looked for, and
the label that was played begins anew. -/
def start (label : Value) (p : Playhead) : Except Fault Bool × Playhead :=
  match label.keyFault? with
  | some f => (.error f, { p with loose? := none, cursor := 0 })
  | none =>
    (.ok (p.hasLabel label),
      { p with
        loose? := none
        label? := if p.hasLabel label then label.given? else none
        cursor := 0 })

/-- What is reported when a label was started, and was found or not. -/
def reportsOfStart (label : Value) (found : Bool) : List Report :=
  if found then [] else [.labelNotFound label]

/-- Take the statement at the playhead and move past it. -/
def take (p : Playhead) : Except Fault Value × Playhead :=
  match p.statements? with
  | none => (.error .noStatement, p)
  | some statements =>
    match statements[p.cursor]? with
    | none => (.error .noStatement, p)
    | some statement => (.ok statement, { p with cursor := p.cursor + 1 })

/-- Play nothing.  The labels are kept. -/
def reset (p : Playhead) : Playhead :=
  { p with label? := none, loose? := none, cursor := 0 }

end Playhead

end Dialogue
