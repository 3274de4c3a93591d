import Dialogue.Character.Reading
import Dialogue.Value.Keyed

/-!
# The cast

The registered characters, by key.  The narrator always belongs to the cast, so that lines without
a speaker have someone to belong to; another record may take its key.

Beside the records the cast keeps its keys with the longest first, for finding the speaker at the
front of a line.  This index is made anew at the end of each registration that succeeds.

Reference model of `CharacterRegistry`: `Cast.register`, `Cast.character`, `Cast.image` and
`Cast.speakerOf` are its `register`, `resolve_character`, `resolve_expression` and `match_prefix`.
Its keys are texts; it may be asked with any value.
-/

set_option autoImplicit false

namespace Dialogue

/-- The registered characters and their keys, the longest first. -/
structure Cast where
  records : Table Character := [(narratorKey, Character.narrator)]
  byLength : List String := [narratorKey]
deriving DecidableEq, Repr

/-- What is registered under a key: the fields of a record, or a finished record. -/
inductive Entry where
  | fields (v : Value)
  | record (c : Character)
deriving Repr

namespace Cast

/-! ## Registration -/

/-- Insert a key before the first one that is not longer. -/
def insertLongest (key : String) : List String → List String
  | [] => [key]
  | k :: rest => if k.length ≤ key.length then key :: k :: rest else k :: insertLongest key rest

/-- Keys with the longest first; keys of one length keep their order. -/
def longestFirst (keys : List String) : List String :=
  keys.foldr insertLongest []

/-- The record that an entry makes for a key. -/
def recordOf (key : String) : Entry → Except Fault Character
  | .fields v => Character.readAs key v
  | .record c => .ok { c with key }

/-- Add or replace records, one after the other.  A rejected record ends the registration: the
records before it stay, and the index is left as it was. -/
def register : Table Entry → Cast → Except Fault Unit × Cast
  | [], c => (.ok (), { c with byLength := longestFirst (Table.keys c.records) })
  | (key, entry) :: rest, c =>
    match recordOf key entry with
    | .ok record => register rest { c with records := Table.put c.records key record }
    | .error f => (.error f, c)

/-! ## Looking characters up

A host may ask with any value where a key, an expression or a line is due. -/

/-- The record under a key. -/
def find (c : Cast) (key : Value) : Except Fault (Option Character) :=
  Table.find c.records key

/-- The keys, in the order of registration. -/
def keys (c : Cast) : List String :=
  Table.keys c.records

/-- The record under the narrator's key. -/
def narrator (c : Cast) : Character :=
  (Table.get? c.records narratorKey).getD Character.narrator

/-- The character of a key.  What does not count as true means the narrator. -/
def character (c : Cast) (key : Value) : Except Fault Character :=
  if key.truthy then
    match c.find key with
    | .error f => .error f
    | .ok none => .error (.unknownCharacter key.plain)
    | .ok (some record) => .ok record
  else .ok c.narrator

theorem character_empty (c : Cast) : c.character (.text "") = .ok c.narrator := rfl

/-- The image of a character's expression.  Null is no expression and has no image. -/
def image (c : Cast) (key expression : Value) : Except Fault (Option String) :=
  match expression with
  | .null => .ok none
  | expression =>
    match c.character key with
    | .error f => .error f
    | .ok record =>
      match Table.find record.expressions expression with
      | .error f => .error f
      | .ok (some image) => .ok (some image)
      | .ok none => .error (.unknownExpression record.key expression.plain)

/-- Does a line begin with this key and a space? -/
def startsLine (text : List Char) (key : String) : Bool :=
  key != "" && (key.toList ++ [' ']).isPrefixOf text

/-- The key at the front of a line: of several the longest. -/
def speaker? (c : Cast) (text : List Char) : Option String :=
  c.byLength.find? (startsLine text)

/-- The key at the front of what should be a line. -/
def speakerOf (c : Cast) (line : Value) : Except Fault (Option String) :=
  match line with
  | .text s => .ok (c.speaker? s.toList)
  | v => .error (.ofDoing v "startswith")

end Cast

end Dialogue
