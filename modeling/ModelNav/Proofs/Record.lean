import ModelNav.Record

/-!
# Records pass their own checks

A lookup builds its answers without checking them.  Here every record that it answers with is seen
to pass the checks that a record from outside has to pass: written out and read again, none of its
fields is refused.
-/

namespace ModelNav
namespace Validation

variable {α : Type} {record json : Json} {name : String} {check : Json → Validated α} {value : α}

/-- A natural number passes its check. -/
theorem natural_ofNat (value : Nat) : natural (.ofNat value) = .valid value := by
  simp [natural, integerFrom, integer, Json.ofNat, Validated.andThen, require, Validated.map]

theorem string_str (text : Text) : string (.str text) = .valid text := rfl

theorem path_ofPath (path : Path) :
    Validation.path (.ofPath path) = .valid (Path.ofText path.toText) := rfl

/-- A field that is there and passes its check is read. -/
theorem required_eq_valid
    (present : record.member? name = some json)
    (passes : check json = .valid value) :
    required record name check = .valid value := by
  simp [required, present, passes, Validated.under]

/-- A field that is there and passes its check is read in place of the default. -/
theorem defaulted_eq_valid
    (present : record.member? name = some json)
    (passes : check json = .valid value)
    (default : α) :
    defaulted record name default check = .valid value := by
  simp [defaulted, present, passes, Validated.under]

end Validation

open Validation

/-- A method that is written is read as it was. -/
theorem Method.ofJson_toJson (method : Method) : ofJson method.toJson = .valid method := by
  have line : defaulted method.toJson "line" empty.line natural = .valid method.line :=
    defaulted_eq_valid rfl (natural_ofNat method.line) _
  have character :
      defaulted method.toJson "character" empty.character natural = .valid method.character :=
    defaulted_eq_valid rfl (natural_ofNat method.character) _
  have comment : defaulted method.toJson "comment" empty.comment string = .valid method.comment :=
    defaulted_eq_valid rfl (string_str method.comment) _
  have declaration :
      defaulted method.toJson "declaration" empty.declaration string =
        .valid method.declaration :=
    defaulted_eq_valid rfl (string_str method.declaration) _
  change Method.mk <$> _ <*> _ <*> _ <*> _ = _
  rw [line, character, comment, declaration]
  rfl

/-- A resolution that is written is read, with the same method and the same name. -/
theorem Resolution.ofJson_toJson (resolution : Resolution) :
    ofJson resolution.toJson =
      .valid { resolution with modelFile := Path.ofText resolution.modelFile.toText } := by
  have modelFile :
      required resolution.toJson "model_file_path" Validation.path =
        .valid (Path.ofText resolution.modelFile.toText) :=
    required_eq_valid rfl (path_ofPath resolution.modelFile)
  have method :
      required resolution.toJson "method_info" Method.ofJson = .valid resolution.method :=
    required_eq_valid rfl resolution.method.ofJson_toJson
  have methodName :
      required resolution.toJson "method_name" string = .valid resolution.methodName :=
    required_eq_valid rfl (string_str resolution.methodName)
  rw [ofJson, modelFile, method, methodName]
  rfl

/-- A jump target that is written is read, with the same line and column. -/
theorem Target.ofJson_toJson (target : Target) :
    ofJson target.toJson = .valid { target with path := Path.ofText target.path.toText } := by
  have path :
      required target.toJson "path" Validation.path = .valid (Path.ofText target.path.toText) :=
    required_eq_valid rfl (path_ofPath target.path)
  have line : required target.toJson "line" natural = .valid target.line :=
    required_eq_valid rfl (natural_ofNat target.line)
  have character : required target.toJson "character" natural = .valid target.character :=
    required_eq_valid rfl (natural_ofNat target.character)
  rw [ofJson, path, line, character]
  rfl

/-- Hover content that is written is read as it was. -/
theorem Hover.ofJson_toJson (hover : Hover) : ofJson hover.toJson = .valid hover := by
  have header : required hover.toJson "header" string = .valid hover.header :=
    required_eq_valid rfl (string_str hover.header)
  have declaration :
      defaulted hover.toJson "declaration" [] string = .valid hover.declaration :=
    defaulted_eq_valid rfl (string_str hover.declaration) _
  have comment : defaulted hover.toJson "comment" [] string = .valid hover.comment :=
    defaulted_eq_valid rfl (string_str hover.comment) _
  rw [ofJson, header, declaration, comment]
  rfl

end ModelNav
