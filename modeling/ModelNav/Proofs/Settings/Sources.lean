import ModelNav.Proofs.Settings.Checks

/-!
# What the sources choose

A setting has its raw value from the first source that sets it.  Settings are built when the list
setting can be read wherever it is written and the chosen values pass their checks; each setting
then holds what its chosen value converts to.
-/

namespace ModelNav
namespace Settings

/-! ## What a source sets -/

/-- A text stands for a raw value.  The list setting is written in JSON, where `null` stands for no
value; every other setting is written as it is. -/
def Field.Writes (field : Field) (text : Text) (json : Json) : Prop :=
  if field = .defaultAppDirs then Json.readWithin listDepth text = .ok json ∧ json ≠ .null
  else json = .str text

/-- A textual source sets a setting to a raw value. -/
def Field.SetTo (field : Field) (values : Field → Option Text) (json : Json) : Prop :=
  ∃ text, values field = some text ∧ field.Writes text json

namespace Sources

variable {sources other : Sources} {field : Field} {value : Option Json}
  {environmentList envFileList : Option Json}

/-- The list setting is written in JSON in both textual sources, as far as they have it. -/
structure Readable (sources : Sources) : Prop where
  environment : ∀ text, sources.environment .defaultAppDirs = some text →
    ∃ json, Json.readWithin listDepth text = .ok json
  envFile : ∀ text, sources.envFile .defaultAppDirs = some text →
    ∃ json, Json.readWithin listDepth text = .ok json

/-- The raw value of a setting comes from the first source that sets it: the caller, the process
environment, the environment file.  There is none when no source sets the setting. -/
inductive Chooses (sources : Sources) (field : Field) : Option Json → Prop
  | given {json : Json}
      (isGiven : sources.given field = some json) :
      Chooses sources field (some json)
  | environment {json : Json}
      (notGiven : sources.given field = none)
      (set : field.SetTo sources.environment json) :
      Chooses sources field (some json)
  | envFile {json : Json}
      (notGiven : sources.given field = none)
      (unset : ∀ other, ¬field.SetTo sources.environment other)
      (set : field.SetTo sources.envFile json) :
      Chooses sources field (some json)
  | default
      (notGiven : sources.given field = none)
      (unset : ∀ other, ¬field.SetTo sources.environment other)
      (unsetToo : ∀ other, ¬field.SetTo sources.envFile other) :
      Chooses sources field none

/-- What is kept of a text in JSON: every value but `null`. -/
theorem exists_readList_of_readWithin
    {text : Text}
    {found : Json}
    (read : Json.readWithin listDepth text = .ok found)
    (source : SettingsSource) :
    ∃ kept, readList source (some text) = .ok kept ∧
      ∀ json, kept = some json ↔ found = json ∧ json ≠ .null := by
  by_cases null : found = .null
  · subst null
    exact ⟨none, by simp [readList, read], by simp [eq_comm]⟩
  · have kept : readList source (some text) = .ok (some found) := by
      cases found <;> first | exact absurd rfl null | simp [readList, read]
    refine ⟨some found, kept, ?_⟩
    intro json
    rw [Option.some.injEq]
    exact ⟨fun same => ⟨same, same ▸ null⟩, And.left⟩

/-- Reading the list setting of a source gives what the source sets it to. -/
theorem readList_eq_ok_iff
    {source : SettingsSource}
    {values : Field → Option Text}
    {list : Option Json} :
    readList source (values .defaultAppDirs) = .ok list ↔
      (∀ text, values .defaultAppDirs = some text →
        ∃ json, Json.readWithin listDepth text = .ok json) ∧
        ∀ json, list = some json ↔ Field.defaultAppDirs.SetTo values json := by
  simp only [Field.SetTo, Field.Writes, if_true]
  cases values .defaultAppDirs with
  | none => cases list <;> simp [readList]
  | some text =>
      cases read : Json.readWithin listDepth text with
      | error fault => cases fault <;> simp [readList, read]
      | ok found =>
          obtain ⟨kept, isKept, kept_iff⟩ := exists_readList_of_readWithin read source
          rw [isKept, Except.ok.injEq]
          constructor
          · rintro rfl
            simp [read, kept_iff]
          · rintro ⟨-, list_iff⟩
            apply Option.ext
            simp [read, kept_iff, list_iff]

/-- The list setting of a source can be read, or is not there. -/
theorem exists_readList_eq_ok
    {values : Field → Option Text}
    (readable : ∀ text, values .defaultAppDirs = some text →
      ∃ json, Json.readWithin listDepth text = .ok json)
    (source : SettingsSource) :
    ∃ list, readList source (values .defaultAppDirs) = .ok list := by
  cases isText : values .defaultAppDirs with
  | none => exact ⟨none, rfl⟩
  | some text =>
      obtain ⟨found, read⟩ := readable text isText
      obtain ⟨kept, isKept, -⟩ := exists_readList_of_readWithin read source
      exact ⟨kept, isKept⟩

/-- What a textual source sets a setting to, once the list setting is read. -/
theorem textual_eq_some_iff
    {values : Field → Option Text}
    {list : Option Json}
    (list_iff : ∀ json, list = some json ↔ Field.defaultAppDirs.SetTo values json)
    {json : Json} :
    (if field = .defaultAppDirs then list else (values field).map .str) = some json ↔
      field.SetTo values json := by
  by_cases isList : field = .defaultAppDirs
  · rw [if_pos isList, isList, list_iff]
  · simp only [Field.SetTo, Field.Writes, if_neg isList, Option.map_eq_some_iff, @eq_comm _ json]

/-- The first of the three sources that has a value is the one that is chosen. -/
theorem or_eq_iff_chooses
    {fromEnvironment fromFile : Option Json}
    (environment_iff : ∀ json,
      fromEnvironment = some json ↔ field.SetTo sources.environment json)
    (envFile_iff : ∀ json, fromFile = some json ↔ field.SetTo sources.envFile json) :
    (sources.given field).or (fromEnvironment.or fromFile) = value ↔
      sources.Chooses field value := by
  constructor
  · rintro rfl
    cases isGiven : sources.given field with
    | some json => exact .given isGiven
    | none =>
        cases fromEnvironment with
        | some json => exact .environment isGiven ((environment_iff json).mp rfl)
        | none =>
            have unset (other : Json) : ¬field.SetTo sources.environment other := by
              simp [← environment_iff]
            cases fromFile with
            | some json => exact .envFile isGiven unset ((envFile_iff json).mp rfl)
            | none => exact .default isGiven unset (by simp [← envFile_iff])
  · have without {values : Field → Option Text} {read : Option Json}
        (read_iff : ∀ json, read = some json ↔ field.SetTo values json)
        (unset : ∀ other, ¬field.SetTo values other) : read = none :=
      Option.eq_none_iff_forall_ne_some.mpr fun json found => unset json ((read_iff json).mp found)
    rintro (isGiven | ⟨notGiven, set⟩ | ⟨notGiven, unset, set⟩ | ⟨notGiven, unset, unsetToo⟩)
    · rw [isGiven, Option.some_or]
    · rw [notGiven, (environment_iff _).mpr set, Option.none_or, Option.some_or]
    · rw [notGiven, without environment_iff unset, (envFile_iff _).mpr set, Option.none_or,
        Option.none_or]
    · rw [notGiven, without environment_iff unset, without envFile_iff unsetToo, Option.none_or,
        Option.none_or]

/-- The chosen value is the one that is checked. -/
theorem raw_eq_iff_chooses
    (environmentList_iff : ∀ json, environmentList = some json ↔
      Field.defaultAppDirs.SetTo sources.environment json)
    (envFileList_iff : ∀ json, envFileList = some json ↔
      Field.defaultAppDirs.SetTo sources.envFile json) :
    sources.raw environmentList envFileList field = value ↔ sources.Chooses field value :=
  or_eq_iff_chooses (fun _ => textual_eq_some_iff environmentList_iff)
    fun _ => textual_eq_some_iff envFileList_iff

/-- Readable sources have list settings, with which the chosen values are the ones that are
checked. -/
theorem Readable.exists_raw_eq_iff_chooses
    (readable : sources.Readable) :
    ∃ environmentList envFileList,
      readList .environment (sources.environment .defaultAppDirs) = .ok environmentList ∧
        readList .envFile (sources.envFile .defaultAppDirs) = .ok envFileList ∧
        ∀ field value,
          sources.raw environmentList envFileList field = value ↔ sources.Chooses field value := by
  obtain ⟨environmentList, environmentRead⟩ :=
    exists_readList_eq_ok readable.environment .environment
  obtain ⟨envFileList, envFileRead⟩ := exists_readList_eq_ok readable.envFile .envFile
  refine ⟨environmentList, envFileList, environmentRead, envFileRead, fun field value => ?_⟩
  exact raw_eq_iff_chooses (readList_eq_ok_iff.mp environmentRead).2
    (readList_eq_ok_iff.mp envFileRead).2

theorem toExcept_eq_ok_iff
    {α : Type}
    {checked : Validated α}
    {valid : α} :
    checked.toExcept = .ok valid ↔ checked = .valid valid := by
  cases checked <;> simp [Validated.toExcept]

/-- Building reads the list setting of both textual sources and then checks the chosen values. -/
theorem build_eq_ok_iff_raw
    {settings : Settings} :
    sources.build = .ok settings ↔
      ∃ environmentList envFileList,
        readList .environment (sources.environment .defaultAppDirs) = .ok environmentList ∧
          readList .envFile (sources.envFile .defaultAppDirs) = .ok envFileList ∧
          ofRaw (sources.raw environmentList envFileList) = .valid settings := by
  unfold build
  cases readList .environment (sources.environment .defaultAppDirs) with
  | error failure => simp [Bind.bind, Except.bind]
  | ok environmentList =>
      cases readList .envFile (sources.envFile .defaultAppDirs) with
      | error failure => simp [Bind.bind, Except.bind]
      | ok envFileList => simp [Bind.bind, Except.bind, toExcept_eq_ok_iff]

/-- Building gives admissible settings that hold what the sources choose, and nothing else. -/
theorem build_eq_ok_iff
    {settings : Settings} :
    sources.build = .ok settings ↔
      sources.Readable ∧ settings.Admissible ∧
        ∀ field, ∃ value, sources.Chooses field value ∧ settings.Holds field value := by
  rw [build_eq_ok_iff_raw]
  constructor
  · rintro ⟨environmentList, envFileList, environmentRead, envFileRead, passes⟩
    obtain ⟨environment, environmentList_iff⟩ := readList_eq_ok_iff.mp environmentRead
    obtain ⟨envFile, envFileList_iff⟩ := readList_eq_ok_iff.mp envFileRead
    obtain ⟨admissible, holds⟩ := ofRaw_eq_valid_iff.mp passes
    refine ⟨⟨environment, envFile⟩, admissible, fun field => ⟨_, ?_, holds field⟩⟩
    exact (raw_eq_iff_chooses environmentList_iff envFileList_iff).mp rfl
  · rintro ⟨readable, admissible, chosen⟩
    obtain ⟨environmentList, envFileList, environmentRead, envFileRead, raw_iff⟩ :=
      readable.exists_raw_eq_iff_chooses
    refine ⟨environmentList, envFileList, environmentRead, envFileRead,
      ofRaw_eq_valid_iff.mpr ⟨admissible, ?_⟩⟩
    intro field
    obtain ⟨value, chooses, holds⟩ := chosen field
    rwa [(raw_iff field value).mpr chooses]

/-! ## Sources that say the same of one setting -/

/-- Sources that say the same of a setting choose the same value for it. -/
theorem Chooses.congr
    (chooses : sources.Chooses field value)
    (given : other.given field = sources.given field)
    (environment : other.environment field = sources.environment field)
    (envFile : other.envFile field = sources.envFile field) :
    other.Chooses field value := by
  have environment_iff (json : Json) :
      field.SetTo other.environment json ↔ field.SetTo sources.environment json := by
    rw [Field.SetTo, Field.SetTo, environment]
  have envFile_iff (json : Json) :
      field.SetTo other.envFile json ↔ field.SetTo sources.envFile json := by
    rw [Field.SetTo, Field.SetTo, envFile]
  cases chooses with
  | given isGiven => exact .given (given.trans isGiven)
  | environment notGiven set =>
      exact .environment (given.trans notGiven) ((environment_iff _).mpr set)
  | envFile notGiven unset set =>
      exact .envFile (given.trans notGiven) (by simpa only [environment_iff] using unset)
        ((envFile_iff _).mpr set)
  | default notGiven unset unsetToo =>
      exact .default (given.trans notGiven) (by simpa only [environment_iff] using unset)
        (by simpa only [envFile_iff] using unsetToo)

/-- Readable sources choose one value. -/
theorem Chooses.unique
    {otherValue : Option Json}
    (readable : sources.Readable)
    (chooses : sources.Chooses field value)
    (choosesOther : sources.Chooses field otherValue) :
    value = otherValue := by
  obtain ⟨environmentList, envFileList, -, -, raw_iff⟩ := readable.exists_raw_eq_iff_chooses
  rw [← (raw_iff field value).mpr chooses, (raw_iff field otherValue).mpr choosesOther]

/-- Settings that are built from sources which say the same of a setting agree on it. -/
theorem fieldJson_eq_of_build
    {first second : Settings}
    (built : sources.build = .ok first)
    (builtOther : other.build = .ok second)
    (given : other.given field = sources.given field)
    (environment : other.environment field = sources.environment field)
    (envFile : other.envFile field = sources.envFile field) :
    second.fieldJson field = first.fieldJson field := by
  obtain ⟨-, -, chosen⟩ := build_eq_ok_iff.mp built
  obtain ⟨readable, -, chosenOther⟩ := build_eq_ok_iff.mp builtOther
  obtain ⟨value, chooses, holds⟩ := chosen field
  obtain ⟨otherValue, choosesOther, holdsOther⟩ := chosenOther field
  obtain rfl : otherValue = value :=
    choosesOther.unique readable (chooses.congr given environment envFile)
  exact holdsOther.fieldJson_eq holds

end Sources

end Settings
end ModelNav
