import DocLint.Fault
import DocLint.Value

/-!
# Looking for the configuration

The configuration is in the nearest directory that has a readable project file:
the start directory itself, or one above it. A file that cannot be opened
counts as missing; a file that can be opened and is not well formed ends the
search with a fault.

Directories are named by their path from the top of a tree. A path is followed
by its words alone: `..` leads up, also from a directory that does not exist.
-/
namespace DocLint

/-- What a directory has to offer as a project file. -/
inductive ProjectFile
  | missing
  /-- There is something of that name, but it cannot be opened. -/
  | unopenable
  /-- It can be opened, and reading it fails for the given reason. -/
  | malformed (reason : String)
  | undecodable (reason : String)
  | table (top : Table)
  deriving Repr

namespace ProjectFile

def sectionName : String := "conventions-linter"

/-- The configuration in the top table of a project file. An empty section and
one that is no table count as an empty table. -/
def configuration (top : Table) : Except Fault Table :=
  let tool := (Assoc.lookup "tool" top).getD .null
  if !tool.isTruthy then .ok []
  else
    match tool with
    | .table fields => .ok (((Assoc.lookup sectionName fields).bind Value.fields?).getD [])
    | other => .error (.lacksMember other.typeName "get")

/-- The configuration for a chain of directories, the nearest first. -/
def search : List ProjectFile → Except Fault Table
  | [] => .ok []
  | missing :: above => search above
  | unopenable :: above => search above
  | malformed reason :: _ => .error (.malformedFile reason)
  | undecodable reason :: _ => .error (.undecodableFile reason)
  | table top :: _ => configuration top

end ProjectFile

/-- The project files of a tree of directories, by the path of the directory. A
directory that is not listed has none. -/
structure ProjectTree where
  files : List (List String × ProjectFile)
  deriving Repr

namespace ProjectTree

/-- A place in a tree: a number of steps up from its top, and the path from
there, with the last part first. -/
structure Place where
  up : Nat := 0
  path : List String := []
  deriving DecidableEq, Repr

/-- The place that a part of a path leads to. -/
def Place.step (place : Place) (part : String) : Place :=
  if part = "" ∨ part = "." then place
  else if part = ".." then
    match place.path with
    | [] => { place with up := place.up + 1 }
    | _ :: parent => { place with path := parent }
  else { place with path := part :: place.path }

def Place.ofString (text : String) : Place := (text.splitOn "/").foldl Place.step {}

/-- The project file of the directory with the given path, last part first. -/
def fileAt (tree : ProjectTree) (path : List String) : ProjectFile :=
  match tree.files.find? fun file => file.1 == path with
  | some file => file.2
  | none => .missing

/-- The project files of a directory and of all directories above it. -/
def chain (tree : ProjectTree) : List String → List ProjectFile
  | [] => [tree.fileAt []]
  | part :: parent => tree.fileAt (part :: parent) :: tree.chain parent

/-- The configuration for the directory with a written path. Outside the tree
there are no project files. -/
def configurationFor (tree : ProjectTree) (start : String) : Except Fault Table :=
  let place := Place.ofString start
  if place.up = 0 ∧ !start.startsWith "/" then ProjectFile.search (tree.chain place.path)
  else .ok []

/-- The tree with the given project files under written directories. -/
def ofFiles (files : List (String × ProjectFile)) : ProjectTree :=
  ⟨files.reverse.map fun file => ((Place.ofString file.1).path, file.2)⟩

end ProjectTree

end DocLint
