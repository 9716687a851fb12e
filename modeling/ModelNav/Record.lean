import ModelNav.Hover
import ModelNav.Validation

/-!
# Records as JSON

The values that lookups take and give are records of named fields.  A record is read with the checks
of its fields and written with all fields in their order.  A record that was read is a snapshot: it
refuses an assignment to any of its attributes, private ones apart.
-/

namespace ModelNav

open Validation (required defaulted natural string list boolean)

/-- The JSON number of a natural number. -/
def Json.ofNat (value : Nat) : Json :=
  .int value

/-- The JSON string of a path. -/
def Json.ofPath (path : Path) : Json :=
  .str path.toText

/-- The JSON array of texts. -/
def Json.ofTexts (texts : List Text) : Json :=
  .arr (texts.map .str)

/-- The JSON object with the given members. -/
def Json.record (members : List (String × Json)) : Json :=
  .obj (members.map fun (name, value) => (name.toList, value))

/-- Assigns to an attribute of a record.  The name of a private attribute begins with an
underscore; all other attributes are frozen. -/
def assign (attributeName : String) : Except Failure Unit :=
  if attributeName.toList.head? = some '_' then .ok ()
  else .error (.invalid [⟨[.field attributeName], .frozen⟩])

namespace Position

/-- Reads a position. -/
def ofJson (record : Json) : Validated Position :=
  Position.mk
    <$> required record "line" natural
    <*> required record "character" natural

/-- Writes a position. -/
def toJson (position : Position) : Json :=
  .record [("line", .ofNat position.line), ("character", .ofNat position.character)]

end Position

namespace Load

/-- Reads a load statement. -/
def ofJson (record : Json) : Validated Load :=
  Load.mk
    <$> required record "raw_path" string
    <*> required record "convention_path" string
    <*> required record "model_name" string

/-- Writes a load statement. -/
def toJson (load : Load) : Json :=
  .record [
    ("raw_path", .str load.rawPath),
    ("convention_path", .str load.conventionPath),
    ("model_name", .str load.modelName)]

end Load

namespace Method

/-- The name of the record in messages. -/
def recordName : String := "MethodInfo"

/-- Reads a method; every field has a default. -/
def ofJson (record : Json) : Validated Method :=
  match record with
  | .obj _ =>
    Method.mk
      <$> defaulted record "line" empty.line natural
      <*> defaulted record "character" empty.character natural
      <*> defaulted record "comment" empty.comment string
      <*> defaulted record "declaration" empty.declaration string
  | _ => Validated.fault (.notARecord recordName)

/-- Writes a method. -/
def toJson (method : Method) : Json :=
  .record [
    ("line", .ofNat method.line),
    ("character", .ofNat method.character),
    ("comment", .str method.comment),
    ("declaration", .str method.declaration)]

end Method

namespace Resolution

/-- Reads a resolution. -/
def ofJson (record : Json) : Validated Resolution :=
  Resolution.mk
    <$> required record "model_file_path" Validation.path
    <*> required record "method_info" Method.ofJson
    <*> required record "method_name" string

/-- Writes a resolution. -/
def toJson (resolution : Resolution) : Json :=
  .record [
    ("model_file_path", .ofPath resolution.modelFile),
    ("method_info", resolution.method.toJson),
    ("method_name", .str resolution.methodName)]

end Resolution

namespace Discovery

/-- Reads a discovery; no directories are listed unless they are given. -/
def ofJson (record : Json) : Validated Discovery :=
  Discovery.mk
    <$> required record "project_root" Validation.path
    <*> defaulted record "app_dirs" [] (list string)
    <*> defaulted record "used_defaults" false boolean

/-- Writes a discovery. -/
def toJson (discovery : Discovery) : Json :=
  .record [
    ("project_root", .ofPath discovery.projectRoot),
    ("app_dirs", .ofTexts discovery.appDirs),
    ("used_defaults", .bool discovery.usedDefaults)]

end Discovery

namespace Target

/-- Reads a jump target. -/
def ofJson (record : Json) : Validated Target :=
  Target.mk
    <$> required record "path" Validation.path
    <*> required record "line" natural
    <*> required record "character" natural

/-- Writes a jump target. -/
def toJson (target : Target) : Json :=
  .record [
    ("path", .ofPath target.path),
    ("line", .ofNat target.line),
    ("character", .ofNat target.character)]

end Target

namespace Hover

/-- Reads hover content; only the header is needed. -/
def ofJson (record : Json) : Validated Hover :=
  Hover.mk
    <$> required record "header" string
    <*> defaulted record "declaration" [] string
    <*> defaulted record "comment" [] string

/-- Writes hover content. -/
def toJson (hover : Hover) : Json :=
  .record [
    ("header", .str hover.header),
    ("declaration", .str hover.declaration),
    ("comment", .str hover.comment)]

end Hover

namespace Settings

/-- The JSON value of a setting. -/
def fieldJson (settings : Settings) : Field → Json
  | .subprojectDir => .str settings.subprojectDir
  | .appPrefix => .str settings.appPrefix
  | .commonAppDir => .str settings.commonAppDir
  | .defaultAppDirs => .ofTexts settings.defaultAppDirs
  | .modelsDir => .str settings.modelsDir
  | .fileExtension => .str settings.fileExtension
  | .declarationLineLimit => .ofNat settings.declarationLineLimit
  | .hoverHeader => .str settings.hoverHeader
  | .logLevel => .str settings.logLevel.name.toList

/-- Writes all settings. -/
def toJson (settings : Settings) : Json :=
  .record (Field.all.map fun field => (field.name, settings.fieldJson field))

end Settings
end ModelNav
