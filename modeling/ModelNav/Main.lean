import ModelNav.CommandLine.Execute
import ModelNav.FileSystem.Update

/-!
# The program

Takes a snapshot of the working directory and of the variables that hold settings, runs the command
line on it, and writes what it printed.
-/

namespace ModelNav
namespace Program

/-- The entry names of a written absolute path, from the root inwards. -/
def namesOf (written : String) : List EntryName :=
  (Path.ofText written.toList).parts.filterMap EntryName.ofText?

/-- The entries below a directory at a location; a directory is searched down to a given depth. -/
def snapshot : (depth : Nat) → Location → IO.FS.DirEntry → IO (List (Location × Entry))
  | 0, _, _ => return []
  | depth + 1, above, entry => do
    match EntryName.ofText? entry.fileName.toList with
    | none => return []
    | some name =>
      if ← entry.path.isDir then
        let below ← (← entry.path.readDir).toList.mapM (snapshot depth (name :: above))
        return (name :: above, .directory) :: below.flatten
      else
        let content ← IO.FS.readBinFile entry.path
        return [(name :: above, .file content.toList)]

/-- The depth down to which directories are searched. -/
def searchDepth : Nat := 64

/-- The variables of the environment that hold settings. -/
def settingVariables : IO Environment := do
  let found ← Settings.Field.all.mapM fun field => do
    let name := field.variableName.map Char.toUpper
    return (← IO.getEnv (String.ofList name)).map fun value => (name, value.toList)
  return found.filterMap id

/-- What the program finds around it. -/
def host : IO Host := do
  let directory ← IO.currentDir
  let location := (namesOf directory.toString).reverse
  let empty := FileSystem.ofWorkingDirectory location
  let entries ← (← directory.readDir).toList.mapM (snapshot searchDepth location)
  return {
    files := { empty with entries := empty.entries ++ entries.flatten }
    environment := ← settingVariables
  }

end Program
end ModelNav

open ModelNav in
/-- Runs the command line and gives its exit code. -/
def main (arguments : List String) : IO UInt32 := do
  let report := CommandLine.run (← Program.host) false (arguments.map String.toList)
  IO.print (String.ofList report.output)
  IO.eprint (String.ofList report.errors)
  if let some failure := report.failure then
    IO.eprintln (String.ofList failure.message)
  return report.exitCode.toUInt32
