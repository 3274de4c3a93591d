import Dialogue.Number.Double
import Dialogue.Table

/-!
# Values

The data that scripts, option trees and records are made of: scalars, lists and mappings of any
depth.  A list or mapping is of its *own* form (one that this library builds and extends) or of a
*foreign* form (a fixed tuple, a mapping of another make).  Both forms are read alike; only
merging and printing tell them apart.

## Results

* `Value.same_iff` — `Value.same` decides equality, so values have decidable equality.
-/

set_option autoImplicit false

namespace Dialogue

/-- Whether a list or mapping is of this library's own make, or was handed in in another form. -/
inductive Form where
  | own
  | foreign
deriving DecidableEq, Repr

/-- A value of a script, an option tree or a record.  `choice` is a structured statement that was
already checked: its text and the further fields it carries. -/
inductive Value where
  | null
  | flag (b : Bool)
  | int (n : Int)
  | double (d : Double)
  | text (s : String)
  | list (form : Form) (items : List Value)
  | tree (form : Form) (entries : List (String × Value))
  | choice (statement : String) (extra : List (String × Value))
deriving Repr, Inhabited

/-- What merging makes of a value: a mapping, a list, or anything else. -/
inductive Kind where
  | tree
  | list
  | scalar
deriving DecidableEq, Repr

namespace Value

/-- A list of this library's own make. -/
abbrev ofList (items : List Value) : Value :=
  .list .own items

/-- A mapping of this library's own make. -/
abbrev ofTable (entries : Table Value) : Value :=
  .tree .own entries

/-- The kind of a value. -/
def kind : Value → Kind
  | .tree _ _ => .tree
  | .list _ _ => .list
  | _ => .scalar

/-- The entries of a mapping. -/
def entries? : Value → Option (Table Value)
  | .tree _ es => some es
  | _ => none

/-- The text of a text. -/
def text? : Value → Option String
  | .text s => some s
  | _ => none

/-- An optional text as a value. -/
def optionalText : Option String → Value
  | none => .null
  | some s => .text s

/-- The entry of a mapping under a key. -/
def get? (v : Value) (key : String) : Option Value :=
  v.entries?.bind fun es => Table.get? es key

theorem exists_tree_of_kind {v : Value} (h : v.kind = .tree) : ∃ form es, v = .tree form es := by
  cases v with
  | tree form es => exact ⟨form, es, rfl⟩
  | null | flag | int | double | text | list | choice => cases h

theorem exists_list_of_kind {v : Value} (h : v.kind = .list) : ∃ form items, v = .list form items := by
  cases v with
  | list form items => exact ⟨form, items, rfl⟩
  | null | flag | int | double | text | tree | choice => cases h

/-- Nothing but a mapping has entries. -/
theorem exists_tree_of_get? {v u : Value} {key : String} (h : v.get? key = some u) :
    ∃ form es, v = .tree form es := by
  cases v with
  | tree form es => exact ⟨form, es, rfl⟩
  | null | flag | int | double | text | list | choice => cases h

/-- The name of a value's type in messages. -/
def typeName : Value → String
  | .null => "NoneType"
  | .flag _ => "bool"
  | .int _ => "int"
  | .double _ => "float"
  | .text _ => "str"
  | .list .own _ => "list"
  | .list .foreign _ => "tuple"
  | .tree .own _ => "dict"
  | .tree .foreign _ => "UserDict"
  | .choice _ _ => "ChoiceStatement"

/-- Does a value count as true?  Nothing, zero and whatever is empty do not. -/
def truthy : Value → Bool
  | .null => false
  | .flag b => b
  | .int n => n != 0
  | .double d => d.nonzero
  | .text s => s != ""
  | .list _ items => !items.isEmpty
  | .tree _ entries => !entries.isEmpty
  | .choice _ _ => true

/-- The members that come out when a value is gone through one by one: a text gives its
characters, a mapping its keys, a structured statement its fields as pairs.  Other scalars
have none to give. -/
def members? : Value → Option (List Value)
  | .text s => some (s.toList.map fun c => .text (String.singleton c))
  | .list _ items => some items
  | .tree _ entries => some (entries.map fun e => .text e.1)
  | .choice statement extra =>
      some ((("statement", .text statement) :: extra).map fun e =>
        .list .foreign [.text e.1, e.2])
  | _ => none

/-- The number of members of a value that has a length. -/
def length? : Value → Option Nat
  | .text s => some s.length
  | .list _ items => some items.length
  | .tree _ entries => some entries.length
  | _ => none

/-! ## Equality -/

mutual

/-- Are two values the same? -/
def same : Value → Value → Bool
  | .null, .null => true
  | .flag a, .flag b => a == b
  | .int a, .int b => a == b
  | .double a, .double b => decide (a = b)
  | .text a, .text b => a == b
  | .list f a, .list g b => decide (f = g) && sameItems a b
  | .tree f a, .tree g b => decide (f = g) && sameEntries a b
  | .choice s a, .choice t b => s == t && sameEntries a b
  | _, _ => false
termination_by structural v => v

/-- Are two lists of values the same, one by one? -/
def sameItems : List Value → List Value → Bool
  | [], [] => true
  | a :: as, b :: bs => same a b && sameItems as bs
  | _, _ => false
termination_by structural vs => vs

/-- Are two lists of entries the same, one by one? -/
def sameEntries : List (String × Value) → List (String × Value) → Bool
  | [], [] => true
  | (k, a) :: as, (l, b) :: bs => k == l && same a b && sameEntries as bs
  | _, _ => false
termination_by structural es => es

end

mutual

theorem same_iff (a b : Value) : same a b = true ↔ a = b := by
  cases a <;> cases b <;> simp [same, sameItems_iff, sameEntries_iff]

theorem sameItems_iff (as bs : List Value) : sameItems as bs = true ↔ as = bs := by
  match as, bs with
  | [], [] => simp [sameItems]
  | [], _ :: _ => simp [sameItems]
  | _ :: _, [] => simp [sameItems]
  | a :: as, b :: bs => simp [sameItems, same_iff a b, sameItems_iff as bs]

theorem sameEntries_iff (as bs : List (String × Value)) :
    sameEntries as bs = true ↔ as = bs := by
  match as, bs with
  | [], [] => simp [sameEntries]
  | [], _ :: _ => simp [sameEntries]
  | _ :: _, [] => simp [sameEntries]
  | (k, a) :: as, (l, b) :: bs =>
    simp [sameEntries, same_iff a b, sameEntries_iff as bs, and_assoc]

end

instance : DecidableEq Value := fun a b =>
  decidable_of_iff (same a b = true) (same_iff a b)

end Value

end Dialogue
