import Dialogue.Value.Shown

/-!
# Faults

Everything that can go wrong, by cause.  `Fault.message` words each cause for a reader; where a
cause is told by its details instead (a rejected record, an unusable file) the message is empty.

A step that fails keeps the changes it made before it failed: `Step` is a state transition whose
answer may be a fault.

Reference model of `ParleyError` and its subclasses `UnknownCharacter`, `UnknownExpression` and
`MalformedStatement`, and of the built-in exceptions that leave the modelled functions.
-/

set_option autoImplicit false

namespace Dialogue

/-- Why no text can be taken from a statement. -/
inductive Malformation where
  | noAlternatives
  | alternativeNotText
  | noStatementField
  | unsupported (typeName : String)
deriving DecidableEq, Repr

/-- What is wrong at one place of a record. -/
inductive Flaw where
  | notText
  | notMapping
  | notDialogKind
  | notRecord
  | missing
  | unknownField
  | noSuchAttribute
deriving DecidableEq, Repr

/-- A flaw and the path to the place where it is. -/
structure Issue where
  place : List String
  flaw : Flaw
deriving DecidableEq, Repr

/-- The causes of failure. -/
inductive Fault where
  /-- A speaker is not registered. -/
  | unknownCharacter (key : String)
  /-- A speaker has no such expression. -/
  | unknownExpression (character expression : String)
  /-- No text can be taken from a statement. -/
  | malformed (statement : Value) (reason : Malformation)
  /-- A record was rejected. -/
  | invalidRecord (issues : List Issue)
  /-- The settings have no such option. -/
  | unknownOption (name : Value)
  /-- A value names no layout family. -/
  | notDialogKind (v : Value)
  /-- A command's name is not one word. -/
  | badCommandName (name : Value)
  /-- There is no statement to take. -/
  | noStatement
  /-- A script is neither a mapping nor a list. -/
  | notScript (typeName : String)
  /-- A value has no members to go through. -/
  | notIterable (typeName : String)
  /-- A value has no length. -/
  | noLength (typeName : String)
  /-- A value cannot be spread into a record. -/
  | notMapping (typeName : String)
  /-- There is nothing under a key that must be there. -/
  | missingKey (key : Value)
  /-- What may change cannot be a key. -/
  | notKey (typeName : String)
  /-- A value has no entries at all. -/
  | noEntries (typeName : String)
  /-- Nothing can be put into a value. -/
  | noItems (typeName : String)
  /-- A value is not of the type that is needed. -/
  | notOfType (typeName needed : String)
  /-- A list or a text was asked for something else than a place in it. -/
  | notIndexable (v : Value) (index : String)
  /-- A value has no such capability. -/
  | noAttribute (typeName name : String)
  /-- What a value offers under a name is nothing that can be done. -/
  | notCallable (typeName : String)
  /-- Two values cannot be combined. -/
  | badOperands (operator left right : String)
  /-- A text has no gap for what is to be filled in. -/
  | noGap
  /-- Of two values none is the greater one. -/
  | notComparable (left right : String)
  /-- A text or a list can only be followed by another one. -/
  | cannotAppend (left right : String)
  /-- A whole number is too large to be calculated with beside a fraction. -/
  | tooLarge
  /-- A rectangle cannot be made from something other than numbers. -/
  | notRectangle
  /-- A function takes no such argument. -/
  | unknownArgument (function name : String)
  /-- A function was given an argument twice. -/
  | doubledArgument (function name : String)
  /-- Arguments by name can only be taken from a mapping. -/
  | notArguments (function typeName : String)
  /-- What a record tells about itself can be read but not assigned. -/
  | readOnly (property : String)
  /-- The name of a field must be a text. -/
  | notFieldName (typeName : String)
  /-- A part of all records cannot be assigned. -/
  | notWritable (part : String)
  /-- The make of a record can only be replaced by another make. -/
  | notClass (typeName : String)
  /-- The fields of a record can only be replaced by a mapping. -/
  | notFields (typeName : String)
  /-- A handler of the host gave up. -/
  | raised (message : String)
  /-- A file does not exist. -/
  | fileNotFound
  /-- A folder stands where a file is needed. -/
  | isFolder
  /-- A file stands where a folder is needed. -/
  | notFolder
  /-- A file stands where a folder is to be made. -/
  | fileInTheWay (path : String)
  /-- A file does not hold text. -/
  | notText
  /-- A path holds a character that no path can hold. -/
  | badPath
  /-- A path, or a name on it, is longer than any can be. -/
  | nameTooLong (path : String)
  /-- A document is no JSON. -/
  | notJson
  /-- A whole number has too many digits to be read. -/
  | tooManyDigits (digits : Nat)
  /-- Lists or objects are nested too deeply to be read. -/
  | tooDeep (what : String)
deriving Repr

/-- A state transition that may fail.  What was changed before the failure stays changed. -/
abbrev Step (σ α : Type) :=
  ExceptT Fault (StateM σ) α

/-- The step that changes nothing and hands a result on. -/
def Step.of {σ α : Type} (result : Except Fault α) : Step σ α :=
  ExceptT.mk (pure result)

/-- The reason given for a malformed statement. -/
def Malformation.message : Malformation → String
  | .noAlternatives => "no alternatives to choose from"
  | .alternativeNotText => "alternatives must be strings"
  | .noStatementField => "missing string field \"statement\""
  | .unsupported typeName => "unsupported type " ++ typeName

namespace Fault

/-- What a fault says to a reader. -/
def message : Fault → String
  | .unknownCharacter key => "Character \"" ++ key ++ "\" is not registered"
  | .unknownExpression character expression =>
    "Expression \"" ++ expression ++ "\" not found for character \"" ++ character ++ "\""
  | .malformed statement reason =>
    "Malformed statement " ++ statement.shown ++ ": " ++ reason.message
  | .invalidRecord _ => ""
  | .unknownOption name => "Unknown dialog option: " ++ name.shown
  | .notDialogKind v => v.shown ++ " is not a valid DialogType"
  | .badCommandName name => "Command name must be a single word: " ++ name.shown
  | .noStatement => "No statement at cursor"
  | .notScript typeName => "Script must be a mapping or a list, not " ++ typeName
  | .notIterable typeName => "'" ++ typeName ++ "' object is not iterable"
  | .noLength typeName => "object of type '" ++ typeName ++ "' has no len()"
  | .notMapping typeName => "'" ++ typeName ++ "' object is not a mapping"
  | .missingKey key => key.shown
  | .notKey typeName => "unhashable type: '" ++ typeName ++ "'"
  | .noEntries typeName => "'" ++ typeName ++ "' object is not subscriptable"
  | .noItems typeName => "'" ++ typeName ++ "' object does not support item assignment"
  | .notOfType typeName needed =>
    "'" ++ typeName ++ "' object is not an instance of '" ++ needed ++ "'"
  | .notIndexable v index =>
    match v with
    | .text _ => "string indices must be integers, not '" ++ index ++ "'"
    | v => v.typeName ++ " indices must be integers or slices, not " ++ index
  | .noAttribute typeName name =>
    "'" ++ typeName ++ "' object has no attribute " ++ Text.quoted name
  | .notCallable typeName => "'" ++ typeName ++ "' object is not callable"
  | .cannotAppend left right =>
    "can only concatenate " ++ left ++ " (not \"" ++ right ++ "\") to " ++ left
  | .tooLarge => "int too large to convert to float"
  | .notRectangle => "Argument must be rect style object"
  | .unknownArgument function name =>
    function ++ "() got an unexpected keyword argument " ++ "'" ++ name ++ "'"
  | .doubledArgument function name =>
    function ++ "() got multiple values for argument " ++ "'" ++ name ++ "'"
  | .notArguments function typeName =>
    function ++ "() argument after ** must be a mapping, not " ++ typeName
  | .readOnly property =>
    "property " ++ Text.quoted property ++ " of 'Character' object has no setter"
  | .notWritable part => "attribute '" ++ part ++ "' of 'Model' objects is not writable"
  | .notClass typeName => "__class__ must be set to a class, not '" ++ typeName ++ "' object"
  | .notFields typeName => "__dict__ must be set to a dictionary, not a '" ++ typeName ++ "'"
  | .badOperands operator left right =>
    "unsupported operand type(s) for " ++ operator ++ ": '" ++ left ++ "' and '" ++ right ++ "'"
  | .noGap => "not all arguments converted during string formatting"
  | .notComparable left right =>
    "'>' not supported between instances of '" ++ left ++ "' and '" ++ right ++ "'"
  | .notFieldName typeName => "attribute name must be string, not '" ++ typeName ++ "'"
  | .raised message => message
  | .badPath => "embedded null byte"
  | .fileInTheWay path => "[Errno 17] File exists: " ++ Text.quoted path
  | .nameTooLong path => "[Errno 36] File name too long: " ++ Text.quoted path
  | .tooManyDigits digits =>
    "Exceeds the limit (4300 digits) for integer string conversion: value has " ++
      toString digits ++ " digits; use sys.set_int_max_str_digits() to increase the limit"
  | .tooDeep what =>
    "maximum recursion depth exceeded while decoding a JSON " ++ what ++ " from a unicode string"
  | .fileNotFound | .isFolder | .notFolder | .notText | .notJson => ""

/-- What goes wrong when a value is asked to do something that it does not offer.  The further
fields of a structured statement can be asked for, but they are nothing that can be done. -/
def ofDoing (v : Value) (name : String) : Fault :=
  match v with
  | .choice _ extra =>
    match Table.get? extra name with
    | some field => .notCallable field.typeName
    | none => .noAttribute v.typeName name
  | v => .noAttribute v.typeName name

end Fault

end Dialogue
