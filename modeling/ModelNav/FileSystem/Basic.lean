import ModelNav.Path
import ModelNav.Text.Utf8

/-!
# File systems

A file system is a value: a working directory and the entries at their locations.  A location lists
the names from the innermost directory outwards, so the tail of a location is its parent, and the
root is the empty location.  A path is followed part by part; it is refused where a part is missing,
is no directory although more parts follow, or has a name that is too long.
-/

namespace ModelNav

/-- A text that can name an entry: not empty, not one or two dots, without slash and NUL. -/
def isEntryName (text : Text) : Bool :=
  text != [] && text != ['.'] && text != ['.', '.'] && !text.contains '/' && !text.contains '\x00'

/-- The name of an entry of a directory. -/
structure EntryName where
  text : Text
  valid : isEntryName text = true
deriving DecidableEq

/-- The entry name with the given text, when it can name an entry. -/
def EntryName.ofText? (text : Text) : Option EntryName :=
  if valid : isEntryName text = true then some ⟨text, valid⟩ else none

/-- The names that lead to an entry, the innermost first. -/
abbrev Location := List EntryName

/-- What stands at a location. -/
inductive Entry where
  | file (content : Bytes)
  | directory
deriving DecidableEq

/-- A working directory and the entries at their locations; the first entry of a location counts. -/
structure FileSystem where
  workingDirectory : Location
  entries : List (Location × Entry)

/-- Why the file system refuses a path. -/
inductive Refusal where
  | notFound
  | alreadyExists
  | notADirectory
  | isADirectory
  | nameTooLong
deriving DecidableEq, Repr

/-- Why a path cannot be used: it holds a NUL, or the file system refuses it. -/
inductive AccessFault where
  | nulInPath
  | refused (refusal : Refusal) (path : Path)
deriving DecidableEq, Repr

namespace FileSystem

/-- The most bytes that the name of an entry may have. -/
def nameLimit : Nat := 255

/-- The number of bytes from which on a path is too long. -/
def pathLimit : Nat := 4096

/-- What stands at a location; the root is a directory. -/
def entryAt? (files : FileSystem) : Location → Option Entry
  | [] => some .directory
  | location => files.entries.lookup location

/-- Follows parts from a location. -/
def walk (files : FileSystem) : Location → List Text → Except Refusal Location
  | here, [] => .ok here
  | here, part :: rest =>
    match files.entryAt? here with
    | none => .error .notFound
    | some (.file _) => .error .notADirectory
    | some .directory =>
      if part = ['.', '.'] then walk files here.tail rest
      else if nameLimit < Utf8.byteLength part then .error .nameTooLong
      else
        match EntryName.ofText? part with
        | none => .error .notFound
        | some name =>
          if (files.entryAt? (name :: here)).isSome then walk files (name :: here) rest
          else .error .notFound

/-- The location where a path starts. -/
def start (files : FileSystem) (path : Path) : Location :=
  match path.anchor with
  | .relative => files.workingDirectory
  | _ => []

/-- The path of the working directory. -/
def workingPath (files : FileSystem) : Path :=
  ⟨.root, files.workingDirectory.reverse.map (·.text)⟩

/-- The absolute path that a written path names, with two dots resolved by name alone. -/
def absolute (files : FileSystem) (text : Text) : Path :=
  { (files.workingPath.join text).normalize with anchor := .root }

/-- The location and the entry that a path leads to. -/
def lookup (files : FileSystem) (path : Path) : Except AccessFault (Location × Entry) :=
  let written := path.toText
  if written.contains '\x00' then .error .nulInPath
  else if pathLimit ≤ Utf8.byteLength written then .error (.refused .nameTooLong path)
  else
    match files.walk (files.start path) path.parts with
    | .error refusal => .error (.refused refusal path)
    | .ok location =>
      match files.entryAt? location with
      | none => .error (.refused .notFound path)
      | some entry => .ok (location, entry)

/-- Tests the entry of a path.  A path with a NUL and a path that leads nowhere fail the test; only
a name that is too long leaves the question open. -/
def test (files : FileSystem) (holds : Entry → Bool) (path : Path) : Except AccessFault Bool :=
  match files.lookup path with
  | .ok (_, entry) => .ok (holds entry)
  | .error (.refused .nameTooLong _) => .error (.refused .nameTooLong path)
  | .error _ => .ok false

/-- The path leads to an entry. -/
def exists? (files : FileSystem) (path : Path) : Except AccessFault Bool :=
  files.test (fun _ => true) path

/-- The path leads to a directory. -/
def isDirectory? (files : FileSystem) (path : Path) : Except AccessFault Bool :=
  files.test (fun entry => entry matches .directory) path

/-- The path leads to a file. -/
def isFile? (files : FileSystem) (path : Path) : Except AccessFault Bool :=
  files.test (fun entry => entry matches .file _) path

/-- The names of the entries right below a location, each once. -/
def namesBelow (files : FileSystem) (location : Location) : List EntryName :=
  (files.entries.filterMap fun entry =>
    match entry.1 with
    | [] => none
    | name :: parent => if parent = location then some name else none).eraseDups

/-- The names in the directory that a path leads to. -/
def list (files : FileSystem) (path : Path) : Except AccessFault (List Text) := do
  match ← files.lookup path with
  | (location, .directory) => return (files.namesBelow location).map (·.text)
  | (_, .file _) => throw (.refused .notADirectory path)

/-- The content of the file that a path leads to. -/
def read (files : FileSystem) (path : Path) : Except AccessFault Bytes := do
  match ← files.lookup path with
  | (_, .file content) => return content
  | (_, .directory) => throw (.refused .isADirectory path)

end FileSystem
end ModelNav
