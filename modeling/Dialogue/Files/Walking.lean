import Dialogue.Files.Folder

/-!
# Walking paths

A path is walked part by part from the working folder, and each part is taken in a folder that is
there: a path that goes into a folder and back needs that folder.  The working folder lies in
another one, so paths may also lead out of it.
-/

set_option autoImplicit false

namespace Dialogue.Files.Node

/-! ## The working folder -/

/-- The way to the working folder.  Its name is empty, so no path leads back to it by name. -/
def home : Way := [""]

/-- A tree with nothing in its working folder. -/
def bare : Node :=
  .folder [("", .folder [])]

/-- The working folder. -/
def working (top : Node) : Node :=
  (top.at? home).getD (.folder [])

/-! ## Walking -/

/-- The longest name that an entry can have, in bytes. -/
def longestName : Nat := 255

/-- The longest path that can be walked, in bytes. -/
def longestPath : Nat := 4095

/-- What is wrong with a path wherever it leads.  No path holds the null character. -/
def pathFault? (p : Path) : Option Fault :=
  if p.any fun part => part.toList.contains '\x00' then some .badPath
  else if longestPath < p.text.utf8ByteSize then some (.nameTooLong p.text)
  else none

/-- Take one part of a path, from what lies at the end of a way.  A step upwards from the top stays
there. -/
def step (top : Node) (p : Path) (way : Way) (part : String) : Except Fault Way :=
  if Path.isTop part then .ok []
  else
    match at? way top with
    | some (.folder entries) =>
      if part = ".." then .ok way.dropLast
      else if longestName < part.utf8ByteSize then .error (.nameTooLong p.text)
      else if Table.has entries part then .ok (way ++ [part])
      else .error .fileNotFound
    | _ => .error .notFolder

/-- The way to where a path leads. -/
def walk (top : Node) (p : Path) : Except Fault Way :=
  match pathFault? p with
  | some f => .error f
  | none => p.foldlM (step top p) home

/-- What lies where a path leads. -/
def find (top : Node) (p : Path) : Except Fault Node := do
  match at? (← walk top p) top with
  | some n => return n
  | none => throw .fileNotFound

/-! ## Writing -/

/-- Write a file.  The folder that it lies in must be there. -/
def write (top : Node) (p : Path) (bytes : ByteArray) : Except Fault Node := do
  if let some f := pathFault? p then throw f
  match p.getLast? with
  | none => throw .isFolder
  | some part =>
    let way ← p.dropLast.foldlM (step top p) home
    match step top p way part with
    | .error .fileNotFound => return put (.file bytes) (way ++ [part]) top
    | .error f => throw f
    | .ok place =>
      match at? place top with
      | some (.folder _) => throw .isFolder
      | _ => return put (.file bytes) place top

/-- Take one part of a path; when nothing is there, make a folder. -/
def stepMaking (p : Path) (way : Way) (part : String) : Step Node Way := do
  let top ← get
  match step top p way part with
  | .ok next => return next
  | .error .fileNotFound =>
    set (put (.folder []) (way ++ [part]) top)
    return way ++ [part]
  | .error f => throw f

/-- Make the folder that a path leads to, and those on the way, unless they are there. -/
def makeFolders (p : Path) : Step Node Unit := do
  if let some f := pathFault? p then throw f
  let way ← p.foldlM (stepMaking p) home
  match at? way (← get) with
  | some (.folder _) => return ()
  | _ => throw (.fileInTheWay p.text)

/-- Put a file or an empty folder where a path leads, making the folders on the way. -/
def add (p : Path) : Node → Step Node Unit
  | .folder _ => makeFolders p
  | .file bytes => do
    makeFolders p.dropLast
    match write (← get) p bytes with
    | .ok top => set top
    | .error f => throw f

/-- Put several things into a tree, one after the other. -/
def addAll (files : List (Path × Node)) : Step Node Unit :=
  files.forM fun f => add f.1 f.2

end Dialogue.Files.Node
