import Dialogue.Fault

/-!
# Values as keys

A host may ask for things with any value.  Texts and other scalars can be keys.  A list or a mapping
may change, so it can be no key, and to ask with one is a fault; a fixed tuple is as good as its
items.

One key can be written in several ways: a truth value is the key zero or one, and a number without a
fraction is the same key as the whole number.  `Value.asKey` picks the form that all ways of writing
a key share.

## Results

* `Value.asKey_eq_text_iff` — only a text is the same key as a text.
-/

set_option autoImplicit false

namespace Dialogue

/-- The whole number that a number amounts to, if it has no fraction. -/
def Double.whole? : Double → Option Int
  | .finite s m e =>
    if m % power 2 (-e).toNat = 0 then some (truncated s m e) else none
  | _ => none

namespace Value

/-! ## What can be a key -/

mutual

/-- The type of the part that keeps a value from being a key. -/
def changing? : Value → Option String
  | .list .foreign items => changingIn? items
  | v@(.list .own _) | v@(.tree _ _) | v@(.choice _ _) => some v.typeName
  | _ => none

/-- The type of the first part of several values that keeps them from being keys. -/
def changingIn? : List Value → Option String
  | [] => none
  | v :: rest => (changing? v).or (changingIn? rest)

end

/-- What goes wrong when a value is used as a key, if anything does. -/
def keyFault? (v : Value) : Option Fault :=
  v.changing?.map .notKey

/-! ## Which key a value is -/

mutual

/-- The form that all ways of writing one key share. -/
def asKey : Value → Value
  | .flag b => .int (if b then 1 else 0)
  | .double d => d.whole?.elim (.double d) .int
  | .list .foreign items => .list .foreign (asKeys items)
  | v => v

/-- The forms of several keys. -/
def asKeys : List Value → List Value
  | [] => []
  | v :: rest => asKey v :: asKeys rest

end

theorem asKey_eq_text_iff (v : Value) (s : String) : v.asKey = .text s ↔ v = .text s := by
  cases v with
  | double d => cases h : d.whole? <;> simp [asKey, h]
  | list form items => cases form <;> simp [asKey]
  | _ => simp [asKey]

/-- The value, unless it is null. -/
def given? : Value → Option Value
  | .null => none
  | v => some v

end Value

end Dialogue
