import ModelNav.Client
import ModelNav.CommandLine.Console
import ModelNav.CommandLine.HoverLines
import ModelNav.Host
import ModelNav.Listing

/-!
# Running commands

A command line is read, the settings are loaded unless it is verbose, and the command is run with a
client for its workspace.  Exit code 0 means an answer or a help text, 1 that there is no answer or
that something failed, 2 that the command line was not understood.
-/

namespace ModelNav
namespace CommandLine

/-- The text of a jump target, counted from one. -/
def targetText (target : Target) : Text :=
  target.path.toText ++ ':' :: Numeral.ofNat (target.line + 1) ++
    ':' :: Numeral.ofNat (target.character + 1)

/-- The position of a place, which is counted from one. -/
def Place.position (place : Place) : Position :=
  ⟨place.line - 1, place.column - 1⟩

/-- Opens a document; one that cannot be read is complained about. -/
def openDocument (files : FileSystem) (path : Path) : Console Document :=
  let document := Document.load files path
  match document.outcome with
  | .error (.unreadableDocument path fault) => do
    Console.ofTraced (⟨document.notes, .ok ()⟩ : Traced Unit)
    Console.complain
      ("[red]Error:[/red] ".toList ++ (Failure.unreadableDocument path fault).message)
    Console.exit 1
  | _ => Console.ofTraced document

/-- Complains that there is nothing at a position. -/
def nothingFound : Console α := do
  Console.complain "[yellow]No model method found at this position[/yellow]".toList
  Console.exit 1

/-- Prints where the method called at a place is defined. -/
def printDefinition (files : FileSystem) (client : Client) (place : Place) : Console Unit := do
  let document ← openDocument files place.file
  match ← Console.ofTraced (client.definition files document place.position) with
  | none => nothingFound
  | some target => Console.print (targetText target)

/-- Prints what is shown about the method called at a place. -/
def printHover
    (files : FileSystem)
    (client : Client)
    (place : Place)
    (raw : Bool) :
    Console Unit := do
  let document ← openDocument files place.file
  match ← Console.ofTraced (client.hover files document place.position) with
  | none => nothingFound
  | some hover =>
    if raw then
      let lines := Terminal.expandLines ⟨Terminal.shownWords hover.markdown, []⟩
      Console.act (.printed (Text.join ['\n'] (lines.map (·.text))))
    else Console.printLines (hoverLines hover)

/-- Prints a table. -/
def printTable (table : Table) : Console Unit := do
  Console.printLines (← Console.ofExcept table.draw)

/-- Prints the load statements of a file. -/
def printLoads (files : FileSystem) (file : Path) : Console Unit := do
  let document ← openDocument files file
  match Load.parse document.text with
  | [] => Console.print "[yellow]No model loads found[/yellow]".toList
  | loads => printTable (Table.ofLoads loads)

/-- Prints the project root and the application directories of a workspace. -/
def printRoots (files : FileSystem) (settings : Settings) (workspace : Path) : Console Unit := do
  let discovery ← Console.ofTraced (Project.discover files settings workspace)
  Console.print
    ("Project root: [cyan]".toList ++ discovery.projectRoot.toText ++ "[/cyan]".toList)
  printTable (← Console.ofExcept (Table.ofDiscovery files discovery))

/-- Prints the file of a model. -/
def printModelFile (files : FileSystem) (client : Client) (modelPath : Text) : Console Unit := do
  match ← Console.ofTraced (client.modelFile files modelPath) with
  | none => do
    Console.complain ("[yellow]No model file found for[/yellow] ".toList ++ modelPath)
    Console.exit 1
  | some path => Console.print path.toText

/-- Starts a server, if one is installed. -/
def startServer (installed : Bool) (server : Server) : Console Unit :=
  if installed then Console.act (.served server)
  else do
    Console.complain
      ("[red]Error:[/red] HTTP API dependencies are not installed.\n" ++
        "[yellow]Hint:[/yellow] Install with: pip install 'smartci[api]'").toList
    Console.exit 1

/-- Goes on with a client for a workspace, which is the working directory if none is given. -/
def withClient
    (host : Host)
    (workspace : Option Path)
    (next : Client → Console Unit) :
    Console Unit := do
  let (_, settings) ← Console.ofExcept host.settings.2
  next ⟨[workspace.getD host.files.workingPath], settings⟩

/-- Runs a command. -/
def execute (host : Host) (installed : Bool) (command : Command) : Console Unit :=
  match command with
  | .definition place =>
    withClient host place.workspace fun client => printDefinition host.files client place
  | .hover place raw =>
    withClient host place.workspace fun client => printHover host.files client place raw
  | .loads file => withClient host none fun _ => printLoads host.files file
  | .roots workspace =>
    withClient host workspace fun client =>
      printRoots host.files client.settings (workspace.getD host.files.workingPath)
  | .locate modelPath workspace =>
    withClient host workspace fun client => printModelFile host.files client modelPath
  | .serve server => startServer installed server

/-- The ending of a command line that asks for no command. -/
def Stop.ending : Stop → Ending
  | .help => .exit 0
  | .usage => .exit 2

/-- The command line as far as it was read, or how it ended. -/
def ofReading (reading : Except Stop α) : Console α :=
  ⟨[], reading.mapError Stop.ending⟩

/-- Runs a command line. -/
def runConsole (host : Host) (installed : Bool) (arguments : List Text) : Console Unit := do
  let invocation ← ofReading (Invocation.read arguments)
  if !invocation.verbose then
    let _ ← Console.ofExcept host.settings.2
  let command ← ofReading (Command.read host.files invocation.name invocation.arguments)
  execute host installed command

/-- What is left when a command line has run. -/
structure Report where
  exitCode : Nat
  failure : Option Failure
  events : List Event
deriving DecidableEq, Repr

namespace Report

/-- What was printed. -/
def output (report : Report) : Text :=
  report.events.flatMap fun
    | .printed text => text
    | _ => []

/-- What was complained about. -/
def errors (report : Report) : Text :=
  report.events.flatMap fun
    | .complained text => text
    | _ => []

/-- The notes that lookups left. -/
def notes (report : Report) : List Note :=
  report.events.filterMap fun
    | .noted note => some note
    | _ => none

/-- The servers that were started. -/
def servers (report : Report) : List Server :=
  report.events.filterMap fun
    | .served server => some server
    | _ => none

end Report

/-- The exit code of a run, and the failure that ended it. -/
def endingOf : Except Ending Unit → Nat × Option Failure
  | .ok () => (0, none)
  | .error (.exit code) => (code, none)
  | .error (.failed failure) => (1, some failure)

/-- Runs a command line and reports what it did. -/
def run (host : Host) (installed : Bool) (arguments : List Text) : Report :=
  let console := runConsole host installed arguments
  ⟨(endingOf console.outcome).1, (endingOf console.outcome).2, console.events⟩

end CommandLine
end ModelNav
