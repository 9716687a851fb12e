import ModelNav.FileSystem.ReadText
import ModelNav.Http.Address
import ModelNav.Json.Reader
import ModelNav.Terminal.Literal.Fault
import ModelNav.Validation

/-!
# Failures

The ways in which a request ends without an answer, by cause.
-/

namespace ModelNav

/-- A source of settings that is written as text. -/
inductive SettingsSource where
  | environment
  | envFile
deriving DecidableEq, Repr

/-- The name of a source in messages. -/
def SettingsSource.name : SettingsSource → String
  | .environment => "EnvSettingsSource"
  | .envFile => "DotEnvSettingsSource"

/-- Why a request has no answer. -/
inductive Failure where
  | access (fault : AccessFault)
  | undecodable (fault : Utf8.Fault)
  | nulInName
  | lineOutOfRange
  | lineTooFar
  | noWorkspace
  | unreadableDocument (path : Path) (fault : ReadFault)
  | invalid (faults : List Validation.Fault)
  | unreadableSetting (field : String) (source : SettingsSource)
  | nestedTooDeep (container : Json.Container)
  | unwritableNumber
  | notJson (line column offset : Nat)
  | unusableAddress (fault : Http.AddressFault)
  | unmatchedTag (tag : Text) (position : Nat)
  | nothingToClose (position : Nat)
  | unreadableArguments (literal written : Text) (fault : Terminal.Literal.Fault)
  | refusedArguments (written : Text) (refusal : Terminal.Literal.Refusal)
  | missingNumber
deriving DecidableEq, Repr

/-- The word for a container of JSON. -/
def Json.Container.word : Json.Container → String
  | .array => "array"
  | .object => "object"

namespace Failure

/-- What is said about a failure. -/
def message : Failure → Text
  | .access fault => fault.message
  | .undecodable fault => fault.message
  | .nulInName => "embedded null character".toList
  | .lineOutOfRange => "list index out of range".toList
  | .lineTooFar => "cannot fit 'int' into an index-sized integer".toList
  | .noWorkspace => "'NoneType' object has no attribute 'used_defaults'".toList
  | .unreadableDocument path fault =>
    "Cannot read document ".toList ++ path.toText ++ ": ".toList ++ fault.message
  | .invalid faults => s!"{faults.length} validation errors".toList
  | .unreadableSetting field source =>
    s!"error parsing value for field \"{field}\" from source \"{source.name}\"".toList
  | .nestedTooDeep container =>
    ("maximum recursion depth exceeded while decoding a JSON " ++ container.word ++
      " from a unicode string").toList
  | .unwritableNumber => "Out of range float values are not JSON compliant".toList
  | .notJson line column offset =>
    s!"Expecting value: line {line} column {column} (char {offset})".toList
  | .unusableAddress fault => fault.message
  | .unmatchedTag tag position =>
    "closing tag '".toList ++ tag ++ s!"' at position {position} doesn't match any open tag".toList
  | .nothingToClose position =>
    s!"closing tag '[/]' at position {position} has nothing to close".toList
  | .unreadableArguments literal written fault =>
    "error parsing ".toList ++ Text.quoted literal ++ " in ".toList ++ Text.quoted written ++
      "; ".toList ++ fault.message.toList
  | .refusedArguments written refusal =>
    "error parsing ".toList ++ Text.quoted written ++ "; ".toList ++ refusal.message.toList
  | .missingNumber => "invalid literal for int() with base 10: ''".toList

/-- The failure of an index that names no line.  An index has to fit into 64 bits. -/
def ofIndex (index : Int) : Failure :=
  if -9223372036854775808 ≤ index ∧ index < 9223372036854775808 then .lineOutOfRange
  else .lineTooFar

/-- The failure of a file that cannot be read. -/
def ofRead : ReadFault → Failure
  | .access fault => .access fault
  | .undecodable fault => .undecodable fault

end Failure

/-- The checked value, or the failure that lists its faults. -/
def Validated.toExcept : Validated α → Except Failure α
  | .valid value => .ok value
  | .invalid faults => .error (.invalid faults)

end ModelNav
