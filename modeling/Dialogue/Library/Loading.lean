import Dialogue.Files.Folder
import Dialogue.Json.Reader
import Dialogue.Library.Schema
import Dialogue.Report
import Dialogue.Script

/-!
# Loading a library

A library is what a data folder holds: characters in `characters`, scripts in `script`, either as
JSON or as text.  Files are taken in the order of their names, and what a later file says about a
key or a label replaces what an earlier one said.  Of the files with statements that belong to no
label the last one counts.  Files that cannot be used are reported and passed over.

Reference model of `ScriptDatabase`: `Library.load` is its `load_all`, with `_load_json`,
`_load_characters` and `_load_scripts` as `loadJson`, `loadCharacters` and `loadScripts`.
-/

set_option autoImplicit false

namespace Dialogue

open Files

/-- What a data folder holds. -/
structure Library where
  characters : Table Value := []
  labels : Table (List Value) := []
  /-- The statements that belong to no label. -/
  loose : List Value := []
deriving DecidableEq, Repr

namespace Library

/-- A step of loading: it may fail, and it reports as it goes. -/
abbrev Loading (α : Type) :=
  Step (List Report) α

/-- Report something. -/
def report (r : Report) : Loading Unit :=
  modify (· ++ [r])

/-- The name of the folder that holds characters. -/
def charactersName : String := "characters"

/-- The name of the folder that holds scripts. -/
def scriptsName : String := "script"

/-- The value of a JSON file of a certain form; none when the file cannot be used.  A file that
holds no text at all ends the loading, and so does one that cannot be read for its size. -/
def loadJson (form : Value → Bool) (path : Path) (n : Node) : Loading (Option Value) := do
  match n.readText with
  | .error .notText => throw .notText
  | .error _ => report (.fileNotLoaded path.text); return none
  | .ok s =>
    match Json.read s with
    | .error .notJson => report (.fileNotLoaded path.text); return none
    | .error f => throw f
    | .ok v =>
      if form v then return some v
      else report (.fileNotValid path.text); return none

/-! ## Characters -/

/-- Take over the records of character files, one after the other. -/
def loadCharacterFiles : Table Node → Table Value → Loading (Table Value)
  | [], store => return store
  | (name, n) :: rest, store => do
    let found ← loadJson isCharacterFile [charactersName, name] n
    loadCharacterFiles rest (Table.putAll store ((found.bind Value.entries?).getD []))

/-- The characters of a data folder. -/
def loadCharacters (folder : Node) : Loading (Table Value) := do
  match folder.entry? charactersName with
  | none => report (.folderNotFound charactersName); return []
  | some n =>
    let files := (n.entries?.getD []).filter fun e => Path.endsIn e.1 ".json"
    loadCharacterFiles (Node.byName files) []

/-! ## Scripts -/

/-- The labels and loose statements of one file. -/
structure Pages where
  labels : Table (List Value) := []
  loose : List Value := []
deriving DecidableEq, Repr

/-- The pages that a script file in JSON holds. -/
def Pages.ofValue (v : Value) : Pages where
  labels := (((v.get? "labels").bind Value.entries?).getD []).map fun e =>
    (e.1, e.2.members?.getD [])
  loose := ((v.get? "sequence").bind Value.members?).getD []

/-- The pages that a text script holds. -/
def Pages.ofScript (s : Script) : Pages where
  labels := s.labels.map fun e => (e.1, e.2.map .text)
  loose := s.loose.map .text

/-- The pages of a file; none when it holds no script or cannot be used. -/
def loadPages (path : Path) (n : Node) : Loading (Option Pages) := do
  if path.suffix = ".json" then
    return (← loadJson isScriptFile path n).map Pages.ofValue
  else if path.suffix = ".script" then
    match n.readText with
    | .ok s => return some (.ofScript (Script.read s))
    | .error _ => report (.fileNotLoaded path.text); return none
  else return none

/-- Pages with those of a further file. -/
def Pages.turn (store next : Pages) : Pages where
  labels := Table.putAll store.labels next.labels
  loose := if next.loose.isEmpty then store.loose else next.loose

/-- Take over the pages of script files, one after the other. -/
def loadScriptFiles : Table Node → Pages → Loading Pages
  | [], store => return store
  | (name, n) :: rest, store => do
    match ← loadPages [scriptsName, name] n with
    | none => loadScriptFiles rest store
    | some pages => loadScriptFiles rest (store.turn pages)

/-- The scripts of a data folder. -/
def loadScripts (folder : Node) : Loading Pages := do
  match folder.entry? scriptsName with
  | none => report (.folderNotFound scriptsName); return {}
  | some (.file _) => throw .notFolder
  | some (.folder entries) => loadScriptFiles (Node.byName entries) {}

/-! ## Everything -/

/-- Load a data folder.  When loading the scripts fails, the characters are loaded nevertheless. -/
def load (folder : Node) (old : Library) : (Except Fault Unit × Library) × List Report :=
  match (loadCharacters folder).run.run [] with
  | (.error f, reports) => ((.error f, old), reports)
  | (.ok characters, reports) =>
    match (loadScripts folder).run.run reports with
    | (.error f, reports) => ((.error f, { old with characters }), reports)
    | (.ok pages, reports) =>
      let new : Library := { characters, labels := pages.labels, loose := pages.loose }
      ((.ok (), new),
        reports ++ [.loaded characters.length pages.labels.length pages.loose.length])

end Library

end Dialogue
