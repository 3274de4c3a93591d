import Dialogue.Character.Part

/-!
# Records under edit

An editor works on one record at a time.  Fields are assigned under the rules for records, but an
expression can also be written in by hand, unchecked, and then any value may stand there, under
whatever can be a key.  A clone is edited from then on, and the record it was made from keeps what
it had.

Names that begin with an underscore are not checked.  Most of them take remarks, which change
nothing.  Some are reserved (`Reserved`): a record keeps things beside its fields, which can be
reached by such names, and what it does goes by such names too, so that a remark in the place of a
deed keeps the record from doing it.

Reference model of a `Character` that is edited in place: `Desk.assign` is an assignment to an
attribute, checked as `Model` has it, `Desk.write` an assignment into `Character.expressions`, and
`Desk.clone` is `Model.clone`.

## Results

* `Draft.fields_ofRecord` — the draft of a checked record has all of its fields.
* `Draft.part_assign_of_ne` — an assignment leaves the other names alone, unless there are extra
  parts to take in.
-/

set_option autoImplicit false

namespace Dialogue.Character

/-! ## Reserved names -/

namespace Reserved

/-- What a record is. -/
def make : String := "__class__"
/-- All parts of a record. -/
def parts : String := "__dict__"
/-- The names of the fields that were given. -/
def given : String := "__pydantic_fields_set__"
/-- Parts that are taken in with the next assignment. -/
def extra : String := "__pydantic_extra__"
/-- What belongs to a record alone. -/
def own : String := "__pydantic_private__"
/-- The references that do not keep a record. -/
def references : String := "__weakref__"

/-- The names under which a record tells about itself. -/
def properties : List String :=
  ["model_extra", "model_fields_set", "__fields__", "__fields_set__"]

/-- Looking up how a name was assigned before. -/
def recalling : String := "__pydantic_setattr_handlers__"
/-- Choosing how a name is assigned. -/
def choosing : String := "_setattr_handler"
/-- Checking a value for a field. -/
def checking : String := "__pydantic_validator__"
/-- Making a clone, step by step. -/
def cloning : List String := ["clone", "model_copy", "__deepcopy__"]

end Reserved

/-! ## Drafts -/

/-- A record taken apart, with its remarks and what it keeps beside its fields. -/
structure Draft where
  parts : Table Part
  /-- What was put in the place of the names of the fields that were given. -/
  given? : Option Value := none
  /-- Parts that are taken in with the next assignment. -/
  extra : Value := .null
  /-- What belongs to the record alone. -/
  own : Value := .null
deriving DecidableEq, Repr

namespace Draft

/-- A checked record as a draft. -/
def ofRecord (record : Character) : Draft :=
  { parts := record.parts }

/-- What stands under a name: a part, or else an extra one. -/
def part (d : Draft) (name : String) : Except Fault Part :=
  match Table.get? d.parts name with
  | some p => .ok p
  | none =>
    if d.extra.truthy then
      match d.extra with
      | .tree _ entries =>
        match Table.get? entries name with
        | some v => .ok (.value v)
        | none => .error (.noAttribute "Character" name)
      | .list .. | .text _ => .error (.notIndexable d.extra "str")
      | extra => .error (.noEntries extra.typeName)
    else .error (.noAttribute "Character" name)

/-- What stands under a field.  In the place of the layout family there must be one. -/
def field (d : Draft) (f : Field) : Except Fault Part :=
  match d.part f.name with
  | .error e => .error e
  | .ok (.kind k) => .ok (.kind k)
  | .ok p => if f = Field.kind then .error (.noAttribute p.typeName "value") else .ok p

/-- All fields of a draft, if they are there. -/
def fields (d : Draft) : Except Fault (Table Part) :=
  Field.all.mapM fun f => (d.field f).map fun p => (f.name, p)

theorem fields_ofRecord (c : Character) : (ofRecord c).fields = .ok c.parts := by
  cases c
  rfl

/-! ## Assigning -/

/-- What goes wrong with a deed when a remark stands in its place. -/
def hindrance? (d : Draft) (deed : String) : Option Fault :=
  (Table.get? d.parts deed).map fun p => .notCallable p.typeName

/-- What goes wrong with looking up how a name was assigned before. -/
def recallFault? (name : String) : Part → Option Fault
  | .value (.tree _ entries) =>
    ((Table.get? entries name).bind Value.given?).map fun v => .notCallable v.typeName
  | .value v => some (.ofDoing v "get")
  | p => some (.noAttribute p.typeName "get")

/-- What keeps a name from being assigned at all.  How to assign a name must only be chosen when it
was not assigned before. -/
def assignFault? (d : Draft) (before : Bool) (name : String) : Option Fault :=
  match Table.get? d.parts Reserved.recalling with
  | some p => (recallFault? name p).or (d.hindrance? Reserved.choosing)
  | none => if before then none else d.hindrance? Reserved.choosing

/-- Put a value under a name that begins with an underscore. -/
def attach (d : Draft) (name : String) (v : Value) : Except Fault Draft :=
  if name = Reserved.make then .error (.notClass v.typeName)
  else if name = Reserved.references then .error (.notWritable name)
  else if name ∈ Reserved.properties then .error (.readOnly name)
  else if name = Reserved.parts then
    match v with
    | .tree _ entries => .ok { d with parts := entries.map fun e => (e.1, .value e.2) }
    | v => .error (.notFields v.typeName)
  else if name = Reserved.given then .ok { d with given? := some v }
  else if name = Reserved.extra then .ok { d with extra := v }
  else if name = Reserved.own then .ok { d with own := v }
  else .ok { d with parts := Table.put d.parts name (.value v) }

/-- The parts with the extra ones taken in. -/
def merged (d : Draft) : Except Fault (Table Part) :=
  match d.extra with
  | .null => .ok d.parts
  | .tree _ entries => .ok (Table.putAll d.parts (entries.map fun e => (e.1, .value e.2)))
  | v => .error (.notOfType v.typeName "dict")

/-- Assign a field under the rules for records. -/
def set (d : Draft) (name : String) (v : Value) : Except Fault Draft :=
  match Table.get? d.parts Reserved.checking, d.merged, accept (Part.read name v), d.given? with
  | some p, _, _, _ => .error (.noAttribute p.typeName "validate_assignment")
  | none, .error f, _, _ | none, .ok _, .error f, _ => .error f
  | none, .ok _, .ok _, some given => .error (.notOfType given.typeName "set")
  | none, .ok parts, .ok p, none => .ok { d with parts := Table.put parts name p, extra := .null }

/-- Does this name begin with an underscore? -/
def isRemark (name : String) : Bool :=
  name.toList.head? = some '_'

/-- Assign a name, which may have been assigned before.  A rejected value changes nothing. -/
def assign (d : Draft) (before : Bool) (name : String) (v : Value) : Except Fault Draft :=
  match d.assignFault? before name with
  | some f => .error f
  | none =>
    if isRemark name then d.attach name v
    else if name ∈ Reserved.properties then .error (.readOnly name)
    else d.set name v

/-- Write an expression in by hand. -/
def write (d : Draft) (expression v : Value) : Except Fault Draft := do
  let images ← match ← d.part Field.expressions.name with
    | .images t => pure t
    | .value (.tree _ entries) => pure (Table.keyed entries)
    | .value (.list form items) => throw (.notIndexable (.list form items) expression.typeName)
    | p => throw (.noItems p.typeName)
  if let some f := expression.keyFault? then throw f
  let images := Keyed.put images expression v
  return { d with parts := Table.put d.parts Field.expressions.name (.images images) }

/-- What keeps a draft from being cloned. -/
def cloneFault? (d : Draft) : Option Fault :=
  (Reserved.cloning.findSome? d.hindrance?).or
    (if d.own = .null ∨ d.own.kind = .tree then none
    else some (.ofDoing d.own "items"))

theorem part_assign_of_ne {d d' : Draft} {before : Bool} {name other : String} {v : Value}
    (hx : d.extra = .null) (hn : isRemark name = false) (ho : other ≠ name)
    (h : d.assign before name v = .ok d') : d'.part other = d.part other := by
  have hm : d.merged = .ok d.parts := by simp [merged, hx]
  simp only [assign, hn] at h
  split at h
  · cases h
  · split at h
    · contradiction
    · split at h
      · cases h
      · simp only [set, hm] at h
        split at h <;> cases h
        simp_all [part, Table.get?_put_of_ne]

end Draft

/-! ## Desks -/

/-- A draft, the draft it was cloned from, and the fields that were assigned so far. -/
structure Desk where
  current : Draft
  source? : Option Draft := none
  assigned : List String := []
deriving DecidableEq, Repr

namespace Desk

/-- Put a new record on the desk. -/
def open? (v : Value) : Except Fault Desk :=
  (Character.read v).map fun c => { current := .ofRecord c }

/-- Assign a name of the current record; it must be a text. -/
def assign (d : Desk) (name v : Value) : Except Fault Desk :=
  match name with
  | .text name => do
    let current ← d.current.assign (name ∈ d.assigned) name v
    let assigned := if Draft.isRemark name then d.assigned else name :: d.assigned
    return { d with current, assigned }
  | name => .error (.notFieldName name.typeName)

/-- Write an expression into the current record by hand. -/
def write (d : Desk) (expression v : Value) : Except Fault Desk :=
  (d.current.write expression v).map fun current => { d with current }

/-- Go on with a clone of the current record. -/
def clone (d : Desk) : Except Fault Desk :=
  match d.current.cloneFault? with
  | some f => .error f
  | none => .ok { d with source? := some d.current }

end Desk

end Dialogue.Character
