import ModelNav.Client
import ModelNav.FileSystem.Update
import ModelNav.Host
import ModelNav.Record

/-!
# Sessions

A session holds a client, the document that is open, and the host, and answers one operation after
the other.  Every operation gives the session that follows it.  An operation that fails leaves the
client and the document as they were.
-/

namespace ModelNav

/-- A client at work. -/
structure Session where
  host : Host
  chosen : Option Settings
  client : Client
  document : Document := ⟨[], none⟩
  shown : Option Nat := none

namespace Session

/-- The settings that the members of a JSON object choose over those of the environment. -/
def choose (host : Host) (given : Option Json) : Except Failure (Option Settings) :=
  match given with
  | none => .ok none
  | some record =>
    (Settings.load host.files host.environment (Settings.givenBy record) false).map some

/-- Starts a session with a client for the given folders. -/
def start (host : Host) (folders : List Path) (given : Option Json) : Except Failure Session := do
  let chosen ← choose host given
  let (host, settings) := host.settingsOr chosen
  return { host := host, chosen := chosen, client := ⟨folders, ← settings⟩ }

/-- The session without a change, and how an operation ended. -/
def answering (session : Session) (answer : Traced α) : Session × Traced α :=
  (session, answer)

/-- Looks something up under the settings that were chosen, or else those of the host. -/
def withSettings (session : Session) (lookup : Settings → Traced α) : Session × Traced α :=
  let (host, settings) := session.host.settingsOr session.chosen
  ({ session with host := host }, Traced.ofExcept settings >>= lookup)

/-- Looks something up at a position, which is checked first. -/
def atPosition
    (session : Session)
    (place : Json)
    (lookup : Position → Session × Traced α) :
    Session × Traced α :=
  match (Position.ofJson place).toExcept with
  | .ok position => lookup position
  | .error failure => (session, Traced.fail failure)

/-- Replaces the client.  Settings that were chosen stay chosen even if the host's fail to load. -/
def connect
    (session : Session)
    (folders : List Path)
    (given : Option Json) :
    Session × Traced Client :=
  match choose session.host given with
  | .error failure => (session, Traced.fail failure)
  | .ok chosen =>
    let (host, settings) := session.host.settingsOr chosen
    let session := { session with host := host, chosen := chosen }
    match settings with
    | .error failure => (session, Traced.fail failure)
    | .ok settings =>
      let client : Client := ⟨folders, settings⟩
      ({ session with client := client }, pure client)

/-- Replaces the files, unless changing them failed. -/
def changeFiles (session : Session) (changed : Except AccessFault FileSystem) :
    Session × Traced Unit :=
  match changed with
  | .ok files => ({ session with host.files := files }, pure ())
  | .error fault => (session, Traced.fail (.access fault))

/-- Writes a file. -/
def write (session : Session) (path : Path) (content : Bytes) : Session × Traced Unit :=
  session.changeFiles (session.host.files.write path content)

/-- Makes a directory. -/
def makeDirectory (session : Session) (path : Path) : Session × Traced Unit :=
  session.changeFiles ((session.host.files.makeDirectories path).map (·.1))

/-- Removes a file or a directory. -/
def remove (session : Session) (path : Path) : Session × Traced Unit :=
  session.changeFiles (session.host.files.remove path)

/-- Opens the document of a file. -/
def openFile (session : Session) (path : Path) : Session × Traced Document :=
  let document := Document.load session.host.files path
  match document.outcome with
  | .ok opened => ({ session with document := opened }, document)
  | .error _ => (session, document)

/-- Opens a document that is given as text. -/
def openText (session : Session) (text : Text) : Session × Traced Document :=
  let document : Document := ⟨text, none⟩
  ({ session with document := document }, pure document)

/-- Resolves the call at a position of the document. -/
def resolve (session : Session) (place : Json) : Session × Traced (Option Resolution) :=
  session.atPosition place fun position =>
    session.answering (session.client.resolve session.host.files session.document position)

/-- The definition of the method called at a position of the document. -/
def definition (session : Session) (place : Json) : Session × Traced (Option Target) :=
  session.atPosition place fun position =>
    session.answering (session.client.definition session.host.files session.document position)

/-- What is shown about the method called at a position of the document. -/
def hover (session : Session) (place : Json) : Session × Traced (Option Hover) :=
  session.atPosition place fun position =>
    session.answering (session.client.hover session.host.files session.document position)

/-- The three lookups at a position of the document, for other folders than the client's.  The
settings are asked for before the position is checked. -/
def lookAll
    (session : Session)
    (place : Json)
    (folders : List Path) :
    Session × Traced (Option Resolution × Option Target × Option Hover) :=
  session.withSettings fun settings => do
    let position ← Traced.ofExcept (Position.ofJson place).toExcept
    let files := session.host.files
    let client : Client := ⟨folders, settings⟩
    let resolution ← client.resolve files session.document position
    let target ← client.definition files session.document position
    let hover ← client.hover files session.document position
    return (resolution, target, hover)

/-- The load statements of the document. -/
def loads (session : Session) : Session × Traced (List Load) :=
  session.answering (pure (Load.parse session.document.text))

/-- The project root and the application directories of the client's workspace. -/
def discover (session : Session) : Session × Traced (Option Discovery) :=
  session.answering (session.client.discover session.host.files)

/-- The file of a model in the client's workspace. -/
def modelFile (session : Session) (modelPath : Text) : Session × Traced (Option Path) :=
  session.answering (session.client.modelFile session.host.files modelPath)

/-- The first definition of a method in a file. -/
def findMethod
    (session : Session)
    (path : Path)
    (name : Text) :
    Session × Traced (Option Method) :=
  session.withSettings fun settings => Method.findInFile session.host.files settings path name

/-- The path leads somewhere. -/
def reachable (session : Session) (path : Path) : Session × Traced Bool :=
  session.answering (Project.reachable session.host.files path)

/-- The project root of a workspace. -/
def projectRoot (session : Session) (workspace : Path) : Session × Traced Path :=
  session.withSettings fun settings => Project.root session.host.files settings workspace

/-- The application directories below a project root, sorted by the code points of their names. -/
def appDirs (session : Session) (projectRoot : Path) : Session × Traced (List Text) :=
  session.withSettings fun settings =>
    match Project.appDirsBelow session.host.files settings projectRoot with
    | .ok names => pure (names.mergeSort Text.inOrder)
    | .error fault => Traced.fail (.access fault)

/-- The project root and the application directories of a workspace. -/
def discoverIn (session : Session) (workspace : Path) : Session × Traced Discovery :=
  session.withSettings fun settings => Project.discover session.host.files settings workspace

/-- Sets a variable of the process environment. -/
def setVariable (session : Session) (name value : Text) : Session × Traced Unit :=
  ({ session with host.environment := Dictionary.put session.host.environment name value }, pure ())

/-- Removes a variable of the process environment. -/
def unsetVariable (session : Session) (name : Text) : Session × Traced Unit :=
  ({ session with host.environment := Dictionary.erase session.host.environment name }, pure ())

/-- Shows settings that the host gave, and tells whether they are of the load shown before. -/
def present
    (session : Session)
    (given : Host × Except Failure (Nat × Settings)) :
    Session × Traced (Settings × Bool) :=
  let session := { session with host := given.1 }
  match given.2 with
  | .error failure => (session, Traced.fail failure)
  | .ok (serial, settings) =>
    ({ session with shown := some serial }, pure (settings, session.shown == some serial))

/-- Shows the settings of the host. -/
def hostSettings (session : Session) : Session × Traced (Settings × Bool) :=
  session.present session.host.settings

/-- Shows the settings of the host after loading them anew. -/
def reloadSettings (session : Session) : Session × Traced (Settings × Bool) :=
  session.present session.host.reloadSettings

/-- The settings of the client. -/
def clientSettings (session : Session) : Session × Traced Settings :=
  session.answering (pure session.client.settings)

end Session
end ModelNav
