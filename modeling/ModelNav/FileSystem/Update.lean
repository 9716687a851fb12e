import ModelNav.FileSystem.Basic

/-!
# Changing a file system

Directories are made together with the ones above them, a file is written over what it held before,
and removing an entry removes everything below it.
-/

namespace ModelNav
namespace FileSystem

/-- The file system with an entry put at a location. -/
def insert (files : FileSystem) (location : Location) (entry : Entry) : FileSystem :=
  { files with entries := files.entries.filter (·.1 ≠ location) ++ [(location, entry)] }

/-- Follows parts from a location and makes the directories that are missing. -/
def makeWay (files : FileSystem) :
    Location → List Text → Except Refusal (FileSystem × Location)
  | here, [] =>
    match files.entryAt? here with
    | some (.file _) => .error .alreadyExists
    | _ => .ok (files, here)
  | here, part :: rest =>
    match files.entryAt? here with
    | none => .error .notFound
    | some (.file _) => .error .notADirectory
    | some .directory =>
      if part = ['.', '.'] then makeWay files here.tail rest
      else if nameLimit < Utf8.byteLength part then .error .nameTooLong
      else
        match EntryName.ofText? part with
        | none => .error .notFound
        | some name =>
          if (files.entryAt? (name :: here)).isSome then makeWay files (name :: here) rest
          else makeWay (files.insert (name :: here) .directory) (name :: here) rest

/-- Makes the directory that a path names and the ones above it. -/
def makeDirectories
    (files : FileSystem)
    (path : Path) :
    Except AccessFault (FileSystem × Location) :=
  if path.toText.contains '\x00' then .error .nulInPath
  else (files.makeWay (files.start path) path.parts).mapError (.refused · path)

/-- Writes a file, after making the directories above it. -/
def write (files : FileSystem) (path : Path) (content : Bytes) : Except AccessFault FileSystem := do
  let (files, parent) ← files.makeDirectories { path with parts := path.parts.dropLast }
  match path.parts.getLast?.bind EntryName.ofText? with
  | none => throw (.refused .isADirectory path)
  | some name =>
    if nameLimit < Utf8.byteLength name.text then throw (.refused .nameTooLong path)
    match files.entryAt? (name :: parent) with
    | some .directory => throw (.refused .isADirectory path)
    | _ => return files.insert (name :: parent) (.file content)

/-- Removes what a path leads to and all that is below it; a path that leads nowhere is fine. -/
def remove (files : FileSystem) (path : Path) : Except AccessFault FileSystem :=
  match files.lookup path with
  | .ok (location, _) =>
    .ok { files with entries := files.entries.filter fun entry => !location.isSuffixOf entry.1 }
  | .error .nulInPath => .error .nulInPath
  | .error _ => .ok files

/-- The directories that lead to a location, from the outermost to the location itself. -/
def directoriesTo : Location → List (Location × Entry)
  | [] => []
  | name :: above => directoriesTo above ++ [(name :: above, .directory)]

/-- The file system that holds nothing but its working directory. -/
def ofWorkingDirectory (location : Location) : FileSystem :=
  ⟨location, directoriesTo location⟩

end FileSystem
end ModelNav
