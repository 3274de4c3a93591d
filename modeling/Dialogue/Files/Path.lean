/-!
# Paths

A path names a file or a folder by the folders on the way to it.  Parts that stay where they are
do not count.  A path that starts at the top of all folders, and not where one is, has the slash
that it begins with as its first part.  The last part has a suffix when a dot stands inside it,
neither first nor last.
-/

set_option autoImplicit false

namespace Dialogue.Files

/-- The names on the way, the last one being that of the thing itself. -/
abbrev Path := List String

namespace Path

/-- The parts of a text between slashes. -/
def parts : List Char → List (List Char)
  | [] => [[]]
  | c :: rest =>
    if c = '/' then [] :: parts rest
    else
      match parts rest with
      | [] => [[c]]
      | part :: more => (c :: part) :: more

/-- Does this part lead to the top of all folders? -/
def isTop (part : String) : Bool :=
  part = "/" || part = "//"

/-- The part that leads to the top, when a text begins with so many slashes.  Two of them are kept,
any other number counts as one. -/
def topOf : Nat → Path
  | 0 => []
  | 2 => ["//"]
  | _ => ["/"]

/-- The path that a text gives. -/
def ofText (s : String) : Path :=
  topOf (s.toList.takeWhile (· = '/')).length ++
    ((parts s.toList).filter fun part => part ≠ [] ∧ part ≠ ['.']).map String.ofList

/-- A path as a text. -/
def text : Path → String
  | [] => "."
  | part :: rest =>
    if isTop part then part ++ "/".intercalate rest else "/".intercalate (part :: rest)

/-- The last name.  The top has none. -/
def name (p : Path) : String :=
  match p.getLast? with
  | none => ""
  | some part => if isTop part then "" else part

/-- A name divided into its stem and its suffix; the suffix begins with its dot. -/
def divide (name : String) : String × String :=
  let backwards := name.toList.reverse
  let suffix := (backwards.takeWhile (· ≠ '.')).reverse
  match backwards.dropWhile (· ≠ '.') with
  | [] => (name, "")
  | _ :: stem =>
    if stem.isEmpty || suffix.isEmpty then (name, "")
    else (String.ofList stem.reverse, String.ofList ('.' :: suffix))

/-- The name without its suffix. -/
def stem (p : Path) : String :=
  (divide p.name).1

/-- The suffix of the name. -/
def suffix (p : Path) : String :=
  (divide p.name).2

/-- The same path with another suffix. -/
def withSuffix (p : Path) (suffix : String) : Path :=
  p.dropLast ++ [p.stem ++ suffix]

/-- Does a name end in this? -/
def endsIn (name ending : String) : Bool :=
  ending.toList.isSuffixOf name.toList

end Path

end Dialogue.Files
