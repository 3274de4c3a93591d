import Dialogue.Character.Basic
import Dialogue.Options.Defaults
import Dialogue.Options.Merge
import Dialogue.Value.Keyed

/-!
# Settings

The settings of a session: whether more is announced to come, and an option tree for each layout
family.  The options of one box are merged from layers of rising precedence: the flags of the
settings, the tree of the layout family, what the speaker's record says, the speaker's own
options, the options of the call.

Reference model of `DialogConfig`: `Settings.update`, `Settings.tree`, `Settings.resolve` and
`Settings.toValue` are its `update`, `type_defaults`, `resolve` and `to_dict`.
-/

set_option autoImplicit false

namespace Dialogue

/-- The settings of a session.  Any value can be configured, so any value can stand here. -/
structure Settings where
  /-- Is more announced to come? -/
  prompt : Value := .flag true
  /-- The options of pop-up boxes. -/
  pop : Value := .ofTable Defaults.pop
  /-- The options of full-width boxes. -/
  vn : Value := .ofTable Defaults.vn
deriving DecidableEq, Repr

namespace Settings

/-- The settings that differ from the defaults as given.  What does not count as true adds
nothing to an option tree. -/
def ofGiven (prompt : Value := .flag true) (pop vn : Value := .null) : Settings where
  prompt := prompt
  pop := Value.merge [.ofTable Defaults.pop, if pop.truthy then pop else .ofTable []]
  vn := Value.merge [.ofTable Defaults.vn, if vn.truthy then vn else .ofTable []]

/-- The names of the settings. -/
def names : List String :=
  ["show_next_prompt", "pop", "vn"]

/-- What is wrong with a name that settings are given under, if anything is. -/
def nameFault? (name : String) : Option Fault :=
  if name = "self" then some (.doubledArgument "DialogConfig.__init__" name)
  else if name ∈ names then none
  else some (.unknownArgument "DialogConfig.__init__" name)

/-- The settings that are given by name.  The first name that none of them has is refused. -/
def ofTable (given : Table Value) : Except Fault Settings :=
  match given.findSome? fun e => nameFault? e.1 with
  | some f => .error f
  | none =>
    .ok (ofGiven ((Table.get? given "show_next_prompt").getD (.flag true))
      ((Table.get? given "pop").getD .null) ((Table.get? given "vn").getD .null))

/-- The settings that a value gives by name.  What does not count as true gives none. -/
def ofValue (given : Value) : Except Fault Settings :=
  match given.entries? with
  | some entries => ofTable entries
  | none =>
    if given.truthy then .error (.notArguments "parley.core.config.DialogConfig" given.typeName)
    else ofTable []

/-- The option tree of a layout family. -/
def tree (s : Settings) : DialogKind → Value
  | .pop => s.pop
  | .vn => s.vn

/-- Change one option. -/
def set (s : Settings) (name v : Value) : Except Fault Settings :=
  if name = .text "show_next_prompt" then .ok { s with prompt := .flag v.truthy }
  else if name = .text "pop" then .ok { s with pop := Value.merge [s.pop, v] }
  else if name = .text "vn" then .ok { s with vn := Value.merge [s.vn, v] }
  else .error (.unknownOption name)

/-- Change options one after the other.  The first unknown one ends the update; the changes made
before it stay. -/
def update : Keyed Value → Settings → Except Fault Unit × Settings
  | [], s => (.ok (), s)
  | (name, v) :: rest, s =>
    match s.set name v with
    | .ok s => update rest s
    | .error f => (.error f, s)

/-- The settings as an option tree. -/
def toValue (s : Settings) : Value :=
  .ofTable [("show_next_prompt", s.prompt), ("pop", s.pop), ("vn", s.vn)]

/-! ## The options of one box -/

/-- The lowest layer: the flags of the settings. -/
def flags (s : Settings) (kind : DialogKind) : Value :=
  .ofTable [("show_next_prompt", s.prompt), ("dialog_type", .text kind.name)]

/-- What a speaker's record says: its name, the image beside its line, and its position when it
has one. -/
def speakerLayer (c : Character) (sideImage : Value) : Value :=
  let position :=
    match c.position with
    | none | some "" => []
    | some p => [("position", .text p)]
  .ofTable
    ([("name", Value.optionalText c.name),
      ("side_image", .ofTable [("name", sideImage)])] ++ position)

/-- The layers that a speaker adds.  Empty options of its own add none. -/
def speakerLayers (speaker : Option Character) (sideImage : Value) : List Value :=
  match speaker with
  | none => []
  | some c =>
    match c.options with
    | none | some [] => [speakerLayer c sideImage]
    | some options => [speakerLayer c sideImage, .ofTable options]

/-- The layer of a call.  Options that do not count as true add none. -/
def callLayers (options : Value) : List Value :=
  if options.truthy then [options] else []

/-- The options of one box. -/
def resolve (s : Settings) (kind : DialogKind) (speaker : Option Character)
    (sideImage options : Value) : Value :=
  Value.merge
    ([s.flags kind, s.tree kind] ++ speakerLayers speaker sideImage ++ callLayers options)

/-- The layout family that a value names, or what is wrong with it. -/
def kindOf (v : Value) : Except Fault DialogKind :=
  match DialogKind.ofValue? v with
  | some kind => .ok kind
  | none => .error (.notDialogKind v)

end Settings

end Dialogue
