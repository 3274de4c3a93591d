import Dialogue.Fault

/-!
# Structured statements

A structured statement carries its text under `statement`, beside further fields that scripts may
use as they like.

Reference model of `ChoiceStatement`.
-/

set_option autoImplicit false

namespace Dialogue.Choice

/-- The structured statement that these fields make. -/
def ofEntries (entries : Table Value) : Except Fault Value :=
  match Table.get? entries "statement" with
  | none => .error (.invalidRecord [⟨["statement"], .missing⟩])
  | some (.text s) => .ok (.choice s (entries.filter fun e => e.1 ≠ "statement"))
  | some _ => .error (.invalidRecord [⟨["statement"], .notText⟩])

/-- The structured statement that a value gives. -/
def read (v : Value) : Except Fault Value :=
  match v.entries? with
  | some entries => ofEntries entries
  | none => .error (.invalidRecord [⟨[], .notRecord⟩])

end Dialogue.Choice
