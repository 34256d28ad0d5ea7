import ProofDesk.Host.Basic
import ProofDesk.Host.Path

/-!
# File trees

Files and directories in memory, with the rules by which paths find them.

* `Tree.walk` — where a path leads.
* `Tree.read`, `Tree.write`, `Tree.makeDirectory` — the operations of a host on files.
-/

namespace ProofDesk
namespace Rehearsal

/-- What lies at a place of a tree. -/
inductive Entry
  | directory
  /-- A file; one whose content is not valid UTF-8 has no text. -/
  | file (text : Option Text)
  /-- A program that can be run. -/
  | program
  deriving DecidableEq, Repr

/-- Files and directories by the names on the way from the root. -/
structure Tree where
  entries : List (List Text × Entry)
  /-- The names on the way to the directory in which paths begin that are not absolute. -/
  workplace : List Text

namespace Tree

/-- What lies at a place; the root is a directory. -/
def entry? (tree : Tree) (place : List Text) : Option Entry :=
  if place = [] then some .directory
  else (tree.entries.find? fun entry => entry.1 = place).map Prod.snd

/-- The tree with an entry at a place, in the stead of another one. -/
def put (tree : Tree) (place : List Text) (entry : Entry) : Tree :=
  { tree with entries := (place, entry) :: tree.entries.filter fun other => other.1 ≠ place }

/-- The tree without an entry. -/
def remove (tree : Tree) (place : List Text) : Tree :=
  { tree with entries := tree.entries.filter fun other => other.1 ≠ place }

/-- Follows names from a place, each of which has to lie in a directory. -/
def follow (tree : Tree) (place : List Text) : List Text → Except FileError (List Text)
  | [] => .ok place
  | name :: rest =>
    match tree.entry? place with
    | some .directory =>
      if name = [] ∨ name = ['.'] then tree.follow place rest
      else if name = ['.', '.'] then tree.follow place.dropLast rest
      else match tree.entry? (place ++ [name]) with
        | some _ => tree.follow (place ++ [name]) rest
        | none => .error .notFound
    | _ => .error .notDirectory

/-- The place where a path begins. -/
def origin (tree : Tree) (path : Text) : List Text :=
  if Path.isAbsolute path then [] else tree.workplace

/-- The place to which a path leads. -/
def walk (tree : Tree) (path : Text) : Except FileError (List Text) :=
  if path = [] then .error .notFound else tree.follow (tree.origin path) (Text.splitOn '/' path)

/-- The path of a place. -/
def pathOf (place : List Text) : Text :=
  if place = [] then ['/'] else place.flatMap fun name => '/' :: name

/-- The content of the file at a path. -/
def read (tree : Tree) (path : Text) : Except FileError Text := do
  match tree.entry? (← tree.walk path) with
  | some (.file (some text)) => return text
  | some .directory => throw .isDirectory
  | _ => throw .notText

/-- The place of a new entry at a path, whose directory has to be there. -/
def newPlace (tree : Tree) (path : Text) : Except FileError (List Text) := do
  let names := Text.splitOn '/' path
  let directory ← tree.follow (tree.origin path) names.dropLast
  match tree.entry? directory, names.getLast?.getD [] with
  | some .directory, [] => throw .isDirectory
  | some .directory, name => return directory ++ [name]
  | _, _ => throw .notDirectory

/-- The tree after the file at a path has got a content, which may be no text. -/
def fill (tree : Tree) (path : Text) (content : Option Text) : Except FileError Tree :=
  if path = [] then .error .notFound
  else match tree.walk path with
    | .ok place =>
      if tree.entry? place = some .directory then .error .isDirectory
      else .ok (tree.put place (.file content))
    | .error .notFound => do return tree.put (← tree.newPlace path) (.file content)
    | .error error => .error error

/-- The tree after a text has been written to the file at a path. -/
def write (tree : Tree) (path content : Text) : Except FileError Tree := tree.fill path (some content)

/-- The tree with a new directory. -/
def makeDirectory (tree : Tree) (path : Text) : Except FileError Tree :=
  match tree.walk path with
  | .ok _ => .error .alreadyExists
  | .error .notFound => do return tree.put (← tree.newPlace path) .directory
  | .error error => .error error

/-- A directory lies at a path. -/
def isDirectory (tree : Tree) (path : Text) : Bool :=
  match tree.walk path with
  | .ok place => tree.entry? place = some .directory
  | .error _ => false

/-- The tree with an entry, and directories on the way to it. -/
def plant (tree : Tree) (place : List Text) (entry : Entry) : Tree :=
  let ways := (List.range place.length).map fun n => place.take n
  let tree := ways.foldl (fun tree way =>
    if (tree.entry? way).isSome then tree else tree.put way .directory) tree
  tree.put place entry

/-- The number of entries that lie in a directory. -/
def count (tree : Tree) (place : List Text) : Nat :=
  (tree.entries.filter fun entry => entry.1 ≠ [] ∧ entry.1.dropLast = place).length

end Tree
end Rehearsal
end ProofDesk
