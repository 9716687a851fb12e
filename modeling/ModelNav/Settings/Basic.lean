import ModelNav.Validation

/-!
# Settings

Nine settings say how a project is laid out, how a method is looked up and how the answer is shown.
Settings are admissible when the rest of the program can work with them: names that are needed are
not empty, there is at least one default directory, and the line limit lies between 1 and 100.
-/

namespace ModelNav

/-- How much the command line logs. -/
inductive LogLevel where
  | debug
  | info
  | warning
  | error
  | critical
deriving DecidableEq, Repr

namespace LogLevel

/-- The name of a level. -/
def name : LogLevel → String
  | .debug => "DEBUG"
  | .info => "INFO"
  | .warning => "WARNING"
  | .error => "ERROR"
  | .critical => "CRITICAL"

/-- The levels, from the most to the least talkative. -/
def all : List LogLevel :=
  [.debug, .info, .warning, .error, .critical]

/-- The level with a given name. -/
def ofText? (text : Text) : Option LogLevel :=
  all.find? fun level => level.name.toList == text

/-- The pattern that the name of a level matches. -/
def pattern : String := "^(DEBUG|INFO|WARNING|ERROR|CRITICAL)$"

end LogLevel

/-- The settings of the program. -/
structure Settings where
  subprojectDir : Text
  appPrefix : Text
  commonAppDir : Text
  defaultAppDirs : List Text
  modelsDir : Text
  fileExtension : Text
  declarationLineLimit : Nat
  hoverHeader : Text
  logLevel : LogLevel
deriving DecidableEq

namespace Settings

/-- The settings that hold when no source says otherwise. -/
def initial : Settings where
  subprojectDir := "CI3".toList
  appPrefix := "app".toList
  commonAppDir := "app_common".toList
  defaultAppDirs := ["app_common".toList, "app".toList]
  modelsDir := "models".toList
  fileExtension := ".php".toList
  declarationLineLimit := 10
  hoverHeader := "Smart CI".toList
  logLevel := .warning

/-- The settings that the rest of the program can work with. -/
structure Admissible (settings : Settings) : Prop where
  subprojectDir_ne_nil : settings.subprojectDir ≠ []
  modelsDir_ne_nil : settings.modelsDir ≠ []
  defaultAppDirs_ne_nil : settings.defaultAppDirs ≠ []
  one_le_limit : 1 ≤ settings.declarationLineLimit
  limit_le_hundred : settings.declarationLineLimit ≤ 100

/-- The settings that hold when no source says otherwise are admissible. -/
theorem admissible_initial : initial.Admissible := by
  constructor <;> decide

/-- The names of the settings. -/
inductive Field where
  | subprojectDir
  | appPrefix
  | commonAppDir
  | defaultAppDirs
  | modelsDir
  | fileExtension
  | declarationLineLimit
  | hoverHeader
  | logLevel
deriving DecidableEq, Repr

namespace Field

/-- The name under which sources hold a setting. -/
def name : Field → String
  | .subprojectDir => "subproject_dir"
  | .appPrefix => "app_prefix"
  | .commonAppDir => "common_app_dir"
  | .defaultAppDirs => "default_app_dirs"
  | .modelsDir => "models_dir"
  | .fileExtension => "file_extension"
  | .declarationLineLimit => "declaration_line_limit"
  | .hoverHeader => "hover_header"
  | .logLevel => "log_level"

/-- The settings in the order in which their faults are reported. -/
def all : List Field :=
  [.subprojectDir, .appPrefix, .commonAppDir, .defaultAppDirs, .modelsDir, .fileExtension,
    .declarationLineLimit, .hoverHeader, .logLevel]

end Field

/-- The value of a level name. -/
def checkLogLevel (json : Json) : Validated LogLevel :=
  (Validation.string json).andThen fun text =>
    match LogLevel.ofText? text with
    | some level => .valid level
    | none => Validated.fault (.patternMismatch LogLevel.pattern)

/-- The value of a setting: the default when no source sets it, else the checked raw value. -/
def checkField
    (raw : Field → Option Json)
    (field : Field)
    (default : α)
    (check : Json → Validated α) :
    Validated α :=
  match raw field with
  | none => .valid default
  | some json => (check json).under (.field field.name)

/-- Checks the raw values of all settings. -/
def ofRaw (raw : Field → Option Json) : Validated Settings :=
  Settings.mk
    <$> checkField raw .subprojectDir initial.subprojectDir Validation.nonemptyString
    <*> checkField raw .appPrefix initial.appPrefix Validation.string
    <*> checkField raw .commonAppDir initial.commonAppDir Validation.string
    <*> checkField raw .defaultAppDirs initial.defaultAppDirs
      (Validation.nonemptyList Validation.string)
    <*> checkField raw .modelsDir initial.modelsDir Validation.nonemptyString
    <*> checkField raw .fileExtension initial.fileExtension Validation.string
    <*> checkField raw .declarationLineLimit initial.declarationLineLimit
      (fun json => (Validation.integerBetween 1 100 json).map Int.toNat)
    <*> checkField raw .hoverHeader initial.hoverHeader Validation.string
    <*> checkField raw .logLevel initial.logLevel checkLogLevel

end Settings
end ModelNav
