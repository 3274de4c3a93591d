import Dialogue.Files.Walking
import Dialogue.Json.Writer
import Dialogue.Report
import Dialogue.Script

/-!
# Compiling text scripts

A text script is compiled to a JSON file that data folders can hold in its place.  The script is
named after its file.

Reference model of `ScriptFileParser.parse_file`, `ScriptFileParser.save_json` and
`compile_script_file`.
-/

set_option autoImplicit false

namespace Dialogue.Script

open Files

/-- The script in a text file. -/
def ofFile (top : Node) (p : Path) : Except Fault Script := do
  let n ← top.find p
  let s ← n.readText
  return Script.read s

/-- The JSON document of a script. -/
def document (s : Script) (id : String) : String :=
  Json.write (s.toValue id)

/-- Where a script is compiled to: beside it, unless it is said where. -/
def outputPath (input : Path) (output? : Option Path) : Path :=
  output?.getD (input.withSuffix ".json")

/-- Compile a text script. -/
def compile (top : Node) (input : Path) (output? : Option Path) :
    Except Fault (Path × Node × Report) := do
  let output := outputPath input output?
  let s ← ofFile top input
  let top ← top.write output (s.document input.stem).toUTF8
  return (output, top, .compiled input.text output.text)

end Dialogue.Script
