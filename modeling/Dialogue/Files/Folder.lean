import Dialogue.Fault
import Dialogue.Files.Path
import Dialogue.Table
import Dialogue.Text.Lines

/-!
# Folders

A tree of folders and files, as far as reading and writing text files needs it.  A place in the
tree is told by the way to it from the top.

## Results

* `Node.at?_put_self` — what was put at a place lies there.
-/

set_option autoImplicit false

namespace Dialogue.Files

/-- A file with its bytes, or a folder with what lies in it. -/
inductive Node where
  | file (bytes : ByteArray)
  | folder (entries : List (String × Node))
deriving Inhabited

/-- The way to a place: the names of the folders on it from the top, then its own name. -/
abbrev Way := List String

namespace Node

/-- The entries of a folder. -/
def entries? : Node → Option (Table Node)
  | .folder entries => some entries
  | .file _ => none

/-- The entry of a folder under a name. -/
def entry? (n : Node) (name : String) : Option Node :=
  n.entries?.bind fun entries => Table.get? entries name

/-- Insert an entry before the first one whose name is not smaller. -/
def insertByName (e : String × Node) : Table Node → Table Node
  | [] => [e]
  | f :: rest => if e.1 ≤ f.1 then e :: f :: rest else f :: insertByName e rest

/-- Entries by name, in the order of their code points. -/
def byName (entries : Table Node) : Table Node :=
  entries.foldr insertByName []

/-! ## Places -/

/-- What lies at the end of a way. -/
def at? : Way → Node → Option Node
  | [], here => some here
  | name :: rest, here => (here.entry? name).bind (at? rest)

/-- Put something at the end of a way, in place of what is there.  Folders that are missing on the
way are made. -/
def put (new : Node) : Way → Node → Node
  | [], _ => new
  | name :: rest, here =>
    .folder (Table.put (here.entries?.getD []) name
      (put new rest ((here.entry? name).getD (.folder []))))

theorem at?_put_self (new : Node) (way : Way) (here : Node) :
    at? way (put new way here) = some new := by
  induction way generalizing here with
  | nil => rfl
  | cons name rest ih =>
    simp [put, at?, entry?, entries?, Table.get?_put_self, ih]

/-! ## Reading -/

/-- The text that bytes hold, with every line break as a line feed. -/
def decode (bytes : ByteArray) : Except Fault String :=
  match String.fromUTF8? bytes with
  | none => .error .notText
  | some s => .ok (String.ofList (Text.feedBreaks s.toList))

/-- The text of a file. -/
def readText : Node → Except Fault String
  | .folder _ => .error .isFolder
  | .file bytes => decode bytes

end Node

end Dialogue.Files
