import ModelNav.Failure
import ModelNav.Json.Reader
import ModelNav.Settings.Basic
import ModelNav.Settings.EnvFile

/-!
# Where settings come from

A setting is taken from the first source that has it: the values given by the caller, the process
environment, the environment file, the default.  In the textual sources the names of settings carry
a common beginning and are compared without regard to case; the list setting is written in JSON,
where `null` means that the source does not set it.
-/

namespace ModelNav
namespace Settings

/-- The raw values that each source has. -/
structure Sources where
  given : Field → Option Json
  environment : Field → Option Text
  envFile : Field → Option Text

/-- What the names of settings begin with in the textual sources. -/
def variableStem : String := "smartci_"

/-- The variable of a setting, in lower case. -/
def Field.variableName (field : Field) : Text :=
  variableStem.toList ++ field.name.toList

/-- The value of the last variable whose name is the setting's up to the case of its letters.  The
names of settings are ASCII, so only ASCII letters need a lower case. -/
def lastValue? (dictionary : Dictionary Text α) (field : Field) : Option α :=
  (dictionary.reverse.find? fun (name, _) => name.map Char.toLower == field.variableName).map (·.2)

/-- How deep the list setting may be nested. -/
def listDepth : Nat := 980

/-- The raw value of the list setting from a textual source. -/
def readList (source : SettingsSource) : Option Text → Except Failure (Option Json)
  | none => .ok none
  | some text =>
    match Json.readWithin listDepth text with
    | .ok .null => .ok none
    | .ok json => .ok (some json)
    | .error (.tooDeep container) => .error (.nestedTooDeep container)
    | .error _ => .error (.unreadableSetting Field.defaultAppDirs.name source)

/-- The raw value of a setting from the first source that has it, once the list setting of both
textual sources is read. -/
def Sources.raw
    (sources : Sources)
    (environmentList envFileList : Option Json)
    (field : Field) :
    Option Json :=
  let textual (values : Field → Option Text) (list : Option Json) : Option Json :=
    if field = .defaultAppDirs then list else (values field).map .str
  (sources.given field).or
    ((textual sources.environment environmentList).or (textual sources.envFile envFileList))

/-- The settings that the sources give.  A list setting that is no JSON is a failure even when a
source of higher rank sets it. -/
def Sources.build (sources : Sources) : Except Failure Settings := do
  let environmentList ← readList .environment (sources.environment .defaultAppDirs)
  let envFileList ← readList .envFile (sources.envFile .defaultAppDirs)
  (ofRaw (sources.raw environmentList envFileList)).toExcept

/-- The file that holds further variables. -/
def envFilePath : Path := Path.ofText ".env".toList

/-- The variables of the environment file; there are none unless it is a file. -/
def envFileVariables
    (files : FileSystem)
    (environment : Environment) :
    Except Failure (Dictionary Text (Option Text)) := do
  match files.isFile? envFilePath with
  | .ok true =>
    let text ← (files.readText envFilePath).mapError .ofRead
    return EnvFile.resolve environment (EnvFile.read text)
  | _ => return []

/-- The settings from given values and the environment, and from the environment file if asked. -/
def load
    (files : FileSystem)
    (environment : Environment)
    (given : Field → Option Json)
    (useEnvFile : Bool) :
    Except Failure Settings := do
  let fromFile ← if useEnvFile then envFileVariables files environment else pure []
  Sources.build {
    given := given
    environment := lastValue? environment
    envFile := fun field => (lastValue? fromFile field).join
  }

/-- The settings when the caller gives none. -/
def current (files : FileSystem) (environment : Environment) : Except Failure Settings :=
  load files environment (fun _ => none) true

/-- The raw values that the members of a JSON object give.  The names of members are compared
without regard to case, and the first member of a name counts. -/
def givenBy (record : Json) (field : Field) : Option Json :=
  match record with
  | .obj members =>
    (members.find? fun (name, _) => name.map Char.toLower == field.name.toList).map (·.2)
  | _ => none

end Settings
end ModelNav
