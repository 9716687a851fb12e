import ModelNav.CommandLine.Arguments
import ModelNav.Failure

/-!
# Commands

What a command line asks for.  Paths of files and workspaces are made absolute while they are read;
a file that is a directory, a workspace that is a file and a path that holds a NUL are refused.
Lines and columns are counted from one.
-/

namespace ModelNav
namespace CommandLine

/-- Why a command line asks for no command. -/
inductive Stop where
  | help
  | usage
deriving DecidableEq, Repr

/-- The names of the commands. -/
inductive CommandName where
  | definition
  | hover
  | loads
  | roots
  | locate
  | serve
deriving DecidableEq, Repr

namespace CommandName

/-- The name as it is written. -/
def text : CommandName → String
  | .definition => "definition"
  | .hover => "hover"
  | .loads => "loads"
  | .roots => "roots"
  | .locate => "locate"
  | .serve => "serve"

/-- The commands. -/
def all : List CommandName :=
  [.definition, .hover, .loads, .roots, .locate, .serve]

/-- The command with a given name. -/
def ofText? (text : Text) : Option CommandName :=
  all.find? fun name => name.text.toList == text

/-- The options of a command. -/
def options : CommandName → List OptionName
  | .definition | .roots | .locate => [.help, .workspace]
  | .hover => [.help, .workspace, .raw]
  | .loads => [.help]
  | .serve => [.help, .host, .port, .reload]

end CommandName

/-- A command line without the arguments of its command read. -/
structure Invocation where
  verbose : Bool
  name : CommandName
  arguments : List Text
deriving DecidableEq, Repr

/-- The options that stand before the name of the command. -/
def generalOptions : List OptionName :=
  [.help, .verbose]

/-- Reads the general options and the name of the command. -/
def Invocation.read (arguments : List Text) : Except Stop Invocation :=
  match scan? generalOptions false arguments with
  | none => .error .usage
  | some general =>
    if general.has .help then .error .help
    else
      match general.positional with
      | [] => .error .usage
      | name :: rest =>
        match CommandName.ofText? name with
        | some command => .ok ⟨general.has .verbose, command, rest⟩
        | none =>
          -- What stands in the place of a command is read once more as an option.
          if (scan? generalOptions false (name :: rest)).any (·.has .help) then .error .help
          else .error .usage

/-- Where a server listens. -/
structure Server where
  host : Text
  port : Int
  reload : Bool
deriving DecidableEq, Repr

/-- A place in a file, counted from one, and the workspace to look in. -/
structure Place where
  file : Path
  line : Nat
  column : Nat
  workspace : Option Path
deriving DecidableEq, Repr

/-- What a command line asks for. -/
inductive Command where
  | definition (place : Place)
  | hover (place : Place) (raw : Bool)
  | loads (file : Path)
  | roots (workspace : Option Path)
  | locate (modelPath : Text) (workspace : Option Path)
  | serve (server : Server)
deriving DecidableEq, Repr

/-- Reads a path that must not lead to an entry of a certain kind. -/
def readPath
    (files : FileSystem)
    (refused : FileSystem → Path → Except AccessFault Bool)
    (text : Text) :
    Except Stop Path :=
  let path := files.absolute text
  if text.contains '\x00' then .error .usage
  else
    match refused files path with
    | .ok true => .error .usage
    | _ => .ok path

/-- Reads the path of a file. -/
def readFile (files : FileSystem) (text : Text) : Except Stop Path :=
  readPath files FileSystem.isDirectory? text

/-- Reads the path of a workspace. -/
def readWorkspace (files : FileSystem) (text : Option Text) : Except Stop (Option Path) :=
  match text with
  | none => .ok none
  | some text => (readPath files FileSystem.isFile? text).map some

/-- Reads a whole number. -/
def readNumber (text : Text) : Except Stop Int :=
  (Numeral.read text).mapError fun _ => .usage

/-- Reads a line or a column. -/
def readCount (text : Text) : Except Stop Nat := do
  let value ← readNumber text
  if 1 ≤ value then return value.toNat else throw .usage

/-- The first argument and those after it. -/
def takeArgument : List Text → Except Stop (Text × List Text)
  | [] => .error .usage
  | first :: rest => .ok (first, rest)

/-- Refuses arguments that are left over. -/
def finishArguments : List Text → Except Stop Unit
  | [] => .ok ()
  | _ :: _ => .error .usage

/-- Reads a place; the workspace is read first. -/
def readPlace (files : FileSystem) (scan : Scan) : Except Stop Place := do
  let workspace ← readWorkspace files (scan.value? .workspace)
  let (fileText, rest) ← takeArgument scan.positional
  let file ← readFile files fileText
  let (lineText, rest) ← takeArgument rest
  let line ← readCount lineText
  let (columnText, rest) ← takeArgument rest
  let column ← readCount columnText
  finishArguments rest
  return ⟨file, line, column, workspace⟩

/-- The host that a server binds when none is given. -/
def defaultHost : Text := "127.0.0.1".toList

/-- The port that a server binds when none is given. -/
def defaultPort : Int := 8000

/-- Reads where a server listens. -/
def readServer (scan : Scan) : Except Stop Server := do
  let port ←
    match scan.value? .port with
    | none => pure defaultPort
    | some text => readNumber text
  finishArguments scan.positional
  return ⟨(scan.value? .host).getD defaultHost, port, scan.has .reload⟩

/-- Reads the arguments of a command. -/
def Command.read
    (files : FileSystem)
    (name : CommandName)
    (arguments : List Text) :
    Except Stop Command :=
  match scan? name.options true arguments with
  | none => .error .usage
  | some scan =>
    if scan.has .help then .error .help
    else
      match name with
      | .definition => return .definition (← readPlace files scan)
      | .hover => return .hover (← readPlace files scan) (scan.has .raw)
      | .loads => do
        let (text, rest) ← takeArgument scan.positional
        let file ← readFile files text
        finishArguments rest
        return .loads file
      | .roots => do
        let workspace ← readWorkspace files (scan.value? .workspace)
        finishArguments scan.positional
        return .roots workspace
      | .locate => do
        let workspace ← readWorkspace files (scan.value? .workspace)
        let (modelPath, rest) ← takeArgument scan.positional
        finishArguments rest
        return .locate modelPath workspace
      | .serve => return .serve (← readServer scan)

end CommandLine
end ModelNav
