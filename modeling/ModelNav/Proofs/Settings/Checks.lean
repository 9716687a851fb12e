import Mathlib.Data.List.Basic
import ModelNav.Proofs.Validation
import ModelNav.Record
import ModelNav.Settings.Sources

/-!
# Settings that pass their checks

The checks of the settings are told field by field: a value is the default or what a raw value
converts to, and all values together are ones that the rest of the program can work with.
-/

namespace ModelNav

namespace LogLevel

theorem ofText?_eq_some_iff
    {text : Text}
    {level : LogLevel} :
    ofText? text = some level ↔ text = level.name.toList := by
  constructor
  · intro found
    have same := List.find?_some found
    exact (beq_iff_eq.mp same).symm
  · rintro rfl
    cases level <;> decide

end LogLevel

namespace Settings

open Validation

/-- The setting has its default when there is no raw value, and else the value that the raw one
converts to: the line limit is read as a number, every other setting is taken as it is. -/
def Holds (settings : Settings) (field : Field) : Option Json → Prop
  | none => settings.fieldJson field = initial.fieldJson field
  | some json =>
    if field = .declarationLineLimit then
      integer json = .valid (settings.declarationLineLimit : Int)
    else settings.fieldJson field = json

/-- A raw value converts to one value. -/
theorem Holds.fieldJson_eq
    {first second : Settings}
    {field : Field}
    {value : Option Json}
    (holds : first.Holds field value)
    (holdsToo : second.Holds field value) :
    first.fieldJson field = second.fieldJson field := by
  cases value with
  | none => exact holds.trans holdsToo.symm
  | some json =>
      by_cases isLimit : field = .declarationLineLimit
      · rw [Holds, if_pos isLimit] at holds holdsToo
        have same := Validated.valid.inj (holds.symm.trans holdsToo)
        rw [isLimit, fieldJson, fieldJson, Json.ofNat, Json.ofNat, same]
      · rw [Holds, if_neg isLimit] at holds holdsToo
        exact holds.trans holdsToo.symm

variable {α : Type} {raw : Field → Option Json} {settings : Settings} {field : Field}

theorem checkLogLevel_eq_valid_iff
    {json : Json}
    {level : LogLevel} :
    checkLogLevel json = .valid level ↔ json = .str level.name.toList := by
  simp only [checkLogLevel, Validated.andThen_eq_valid_iff, string_eq_valid_iff]
  constructor
  · rintro ⟨text, rfl, known⟩
    cases found : LogLevel.ofText? text with
    | none => simp [found, Validated.fault] at known
    | some other =>
        obtain rfl : other = level := by simpa [found] using known
        rw [LogLevel.ofText?_eq_some_iff.mp found]
  · rintro rfl
    exact ⟨_, rfl, by rw [LogLevel.ofText?_eq_some_iff.mpr rfl]⟩

/-- One setting: what is shown of its default and of its check is shown of its value. -/
theorem checkField_eq_valid_iff
    {default value : α}
    {check : Json → Validated α}
    {usable : Prop}
    (usable_of_default : value = default → usable)
    (default_iff : value = default ↔ settings.fieldJson field = initial.fieldJson field)
    (check_iff : ∀ json, check json = .valid value ↔ settings.Holds field (some json) ∧ usable) :
    checkField raw field default check = .valid value ↔
      settings.Holds field (raw field) ∧ usable := by
  unfold checkField
  cases raw field with
  | none =>
      rw [Holds, ← default_iff, Validated.valid.injEq, eq_comm]
      constructor
      · intro same
        exact ⟨same, usable_of_default same⟩
      · exact And.left
  | some json => rw [Validated.under_eq_valid_iff, check_iff]

section Text

variable {default value : Text}

/-- A text that need not have characters is taken as it is. -/
theorem checkField_string_eq_valid_iff
    (isText : field ≠ .declarationLineLimit)
    (default_json : initial.fieldJson field = .str default)
    (value_json : settings.fieldJson field = .str value) :
    checkField raw field default string = .valid value ↔ settings.Holds field (raw field) := by
  have taken (json : Json) :
      string json = .valid value ↔ settings.Holds field (some json) ∧ True := by
    rw [string_eq_valid_iff, Holds, if_neg isText, value_json, and_true, eq_comm]
  have unchanged : value = default ↔ settings.fieldJson field = initial.fieldJson field := by
    rw [default_json, value_json, Json.str.injEq]
  simpa using checkField_eq_valid_iff (fun _ => trivial) unchanged taken

/-- A text that must have characters is taken as it is, and it has some. -/
theorem checkField_nonemptyString_eq_valid_iff
    (isText : field ≠ .declarationLineLimit)
    (default_json : initial.fieldJson field = .str default)
    (value_json : settings.fieldJson field = .str value)
    (present : default ≠ []) :
    checkField raw field default nonemptyString = .valid value ↔
      settings.Holds field (raw field) ∧ value ≠ [] := by
  apply checkField_eq_valid_iff (fun same => same ▸ present)
  · rw [default_json, value_json, Json.str.injEq]
  · intro json
    rw [nonemptyString_eq_valid_iff, Holds, if_neg isText, value_json, @eq_comm _ json]

end Text

theorem checkField_defaultAppDirs_eq_valid_iff :
    checkField raw .defaultAppDirs initial.defaultAppDirs (nonemptyList string) =
        .valid settings.defaultAppDirs ↔
      settings.Holds .defaultAppDirs (raw .defaultAppDirs) ∧ settings.defaultAppDirs ≠ [] := by
  apply checkField_eq_valid_iff
  · intro same
    rw [same]
    exact admissible_initial.defaultAppDirs_ne_nil
  · have str_injective : Function.Injective Json.str := fun _ _ => Json.str.inj
    rw [fieldJson, fieldJson, Json.ofTexts, Json.ofTexts, Json.arr.injEq,
      (List.map_injective_iff.mpr str_injective).eq_iff]
  · intro json
    rw [nonemptyList_string_eq_valid_iff, Holds, if_neg (by decide), fieldJson, Json.ofTexts,
      @eq_comm _ json]

theorem checkField_declarationLineLimit_eq_valid_iff :
    checkField raw .declarationLineLimit initial.declarationLineLimit
          (fun json => (integerBetween 1 100 json).map Int.toNat) =
        .valid settings.declarationLineLimit ↔
      settings.Holds .declarationLineLimit (raw .declarationLineLimit) ∧
        1 ≤ settings.declarationLineLimit ∧ settings.declarationLineLimit ≤ 100 := by
  apply checkField_eq_valid_iff
  · intro same
    rw [same]
    exact ⟨admissible_initial.one_le_limit, admissible_initial.limit_le_hundred⟩
  · rw [fieldJson, fieldJson, Json.ofNat, Json.ofNat, Json.int.injEq, Int.natCast_inj]
  · intro json
    have between : (integerBetween 1 100 json).map Int.toNat =
        Int.toNat <$> integerBetween 1 100 json := rfl
    simp only [between, Validated.map_eq_valid_iff, integerBetween_eq_valid_iff, Holds, if_true]
    constructor
    · rintro ⟨number, ⟨isWhole, atLeast, atMost⟩, same⟩
      have nonnegative : (settings.declarationLineLimit : Int) = number := by omega
      rw [nonnegative]
      exact ⟨isWhole, by omega, by omega⟩
    · rintro ⟨isWhole, atLeast, atMost⟩
      exact ⟨_, ⟨isWhole, by omega, by omega⟩, Int.toNat_natCast _⟩

theorem checkField_logLevel_eq_valid_iff :
    checkField raw .logLevel initial.logLevel checkLogLevel = .valid settings.logLevel ↔
      settings.Holds .logLevel (raw .logLevel) := by
  have taken (json : Json) : checkLogLevel json = .valid settings.logLevel ↔
      settings.Holds .logLevel (some json) ∧ True := by
    rw [checkLogLevel_eq_valid_iff, Holds, if_neg (by decide), fieldJson, and_true, eq_comm]
  have unchanged : settings.logLevel = initial.logLevel ↔
      settings.fieldJson .logLevel = initial.fieldJson .logLevel := by
    rw [fieldJson, fieldJson, Json.str.injEq]
    cases settings.logLevel <;> decide
  simpa using checkField_eq_valid_iff (fun _ => trivial) unchanged taken

/-- The settings are valid exactly when each of them is. -/
theorem ofRaw_eq_valid_iff_checkField :
    ofRaw raw = .valid settings ↔
      checkField raw .subprojectDir initial.subprojectDir nonemptyString =
          .valid settings.subprojectDir ∧
        checkField raw .appPrefix initial.appPrefix string = .valid settings.appPrefix ∧
        checkField raw .commonAppDir initial.commonAppDir string = .valid settings.commonAppDir ∧
        checkField raw .defaultAppDirs initial.defaultAppDirs (nonemptyList string) =
          .valid settings.defaultAppDirs ∧
        checkField raw .modelsDir initial.modelsDir nonemptyString = .valid settings.modelsDir ∧
        checkField raw .fileExtension initial.fileExtension string =
          .valid settings.fileExtension ∧
        checkField raw .declarationLineLimit initial.declarationLineLimit
            (fun json => (integerBetween 1 100 json).map Int.toNat) =
          .valid settings.declarationLineLimit ∧
        checkField raw .hoverHeader initial.hoverHeader string = .valid settings.hoverHeader ∧
        checkField raw .logLevel initial.logLevel checkLogLevel = .valid settings.logLevel := by
  constructor
  · simp only [ofRaw, Validated.seq_eq_valid_iff, Validated.map_eq_valid_iff]
    rintro ⟨_, _, ⟨_, _, ⟨_, _, ⟨_, _, ⟨_, _, ⟨_, _, ⟨_, _, ⟨_, _, ⟨_, subprojectDir, rfl⟩,
      appPrefix, rfl⟩, commonAppDir, rfl⟩, defaultAppDirs, rfl⟩, modelsDir, rfl⟩,
      fileExtension, rfl⟩, declarationLineLimit, rfl⟩, hoverHeader, rfl⟩, logLevel, rfl⟩
    exact ⟨subprojectDir, appPrefix, commonAppDir, defaultAppDirs, modelsDir, fileExtension,
      declarationLineLimit, hoverHeader, logLevel⟩
  · rintro ⟨subprojectDir, appPrefix, commonAppDir, defaultAppDirs, modelsDir, fileExtension,
      declarationLineLimit, hoverHeader, logLevel⟩
    rw [ofRaw, subprojectDir, appPrefix, commonAppDir, defaultAppDirs, modelsDir, fileExtension,
      declarationLineLimit, hoverHeader, logLevel]
    rfl

/-- Settings are valid for raw values exactly when they are admissible and each of them holds what
its raw value converts to. -/
theorem ofRaw_eq_valid_iff :
    ofRaw raw = .valid settings ↔
      settings.Admissible ∧ ∀ field, settings.Holds field (raw field) := by
  rw [ofRaw_eq_valid_iff_checkField, checkField_defaultAppDirs_eq_valid_iff,
    checkField_declarationLineLimit_eq_valid_iff, checkField_logLevel_eq_valid_iff]
  constructor
  · rintro ⟨subprojectDir, appPrefix, commonAppDir, ⟨defaultAppDirs, someDir⟩, modelsDir,
      fileExtension, ⟨limit, atLeast, atMost⟩, hoverHeader, logLevel⟩
    rw [checkField_nonemptyString_eq_valid_iff (by decide) rfl rfl (by decide)]
      at subprojectDir modelsDir
    rw [checkField_string_eq_valid_iff (by decide) rfl rfl]
      at appPrefix commonAppDir fileExtension hoverHeader
    refine ⟨⟨subprojectDir.2, modelsDir.2, someDir, atLeast, atMost⟩, ?_⟩
    intro field
    cases field with
    | subprojectDir => exact subprojectDir.1
    | appPrefix => exact appPrefix
    | commonAppDir => exact commonAppDir
    | defaultAppDirs => exact defaultAppDirs
    | modelsDir => exact modelsDir.1
    | fileExtension => exact fileExtension
    | declarationLineLimit => exact limit
    | hoverHeader => exact hoverHeader
    | logLevel => exact logLevel
  · rintro ⟨admissible, holds⟩
    refine ⟨?_, ?_, ?_, ⟨holds .defaultAppDirs, admissible.defaultAppDirs_ne_nil⟩, ?_, ?_,
      ⟨holds .declarationLineLimit, admissible.one_le_limit, admissible.limit_le_hundred⟩, ?_,
      holds .logLevel⟩
    · exact (checkField_nonemptyString_eq_valid_iff (by decide) rfl rfl (by decide)).mpr
        ⟨holds .subprojectDir, admissible.subprojectDir_ne_nil⟩
    · exact (checkField_string_eq_valid_iff (by decide) rfl rfl).mpr (holds .appPrefix)
    · exact (checkField_string_eq_valid_iff (by decide) rfl rfl).mpr (holds .commonAppDir)
    · exact (checkField_nonemptyString_eq_valid_iff (by decide) rfl rfl (by decide)).mpr
        ⟨holds .modelsDir, admissible.modelsDir_ne_nil⟩
    · exact (checkField_string_eq_valid_iff (by decide) rfl rfl).mpr (holds .fileExtension)
    · exact (checkField_string_eq_valid_iff (by decide) rfl rfl).mpr (holds .hoverHeader)

end Settings
end ModelNav
