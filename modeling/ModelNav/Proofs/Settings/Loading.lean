import ModelNav.Proofs.Settings.References
import ModelNav.Proofs.Settings.Sources

/-!
# What the settings are after loading

Loading reads the environment file and builds the settings from all sources.  Each setting holds
what the highest source that sets it says, and no other setting has a part in it, unless a value of
the environment file refers to a variable of that other setting.
-/

namespace ModelNav
namespace Settings

/-- What the settings are read from: the values that the caller gives, the variables of the process
and the bindings of the environment file. -/
structure Inputs where
  given : Field → Option Json
  environment : Environment
  bindings : List EnvFile.Binding

namespace Inputs

/-- What each source says of the settings.  The references of the environment file are replaced; a
name that stands alone says nothing. -/
def sources (inputs : Inputs) : Sources where
  given := inputs.given
  environment := lastValue? inputs.environment
  envFile := fun field =>
    (lastValue? (EnvFile.resolve inputs.environment inputs.bindings) field).join

/-- The inputs differ in what they say of one setting at most. -/
structure AgreeExcept (changed : Field) (first second : Inputs) : Prop where
  given : ∀ field, field ≠ changed → second.given field = first.given field
  environment : changed.others second.environment = changed.others first.environment
  bindings : changed.others second.bindings = changed.others first.bindings

/-- No value of the environment file refers to a variable of the setting, apart from values of the
setting itself. -/
def Unreferred (field : Field) (inputs : Inputs) : Prop :=
  ∀ name text, (name, some text) ∈ field.others inputs.bindings →
    ∀ reference, EnvFile.Refers reference text → ¬field.NamedBy reference

variable {changed other : Field} {first second : Inputs}

theorem AgreeExcept.unreferred
    (agree : AgreeExcept changed first second)
    (unreferred : first.Unreferred changed) :
    second.Unreferred changed := by
  rw [Unreferred, agree.bindings]
  exact unreferred

/-- The entries of a setting that nothing refers to can be left out for the others. -/
theorem Unreferred.envFile_eq
    {inputs : Inputs}
    (unreferred : inputs.Unreferred changed)
    (distinct : other ≠ changed) :
    inputs.sources.envFile other =
      (lastValue? (EnvFile.resolve (changed.others inputs.environment)
        (changed.others inputs.bindings)) other).join := by
  rw [sources, ← EnvFile.others_resolve unreferred, lastValue?_others distinct]

/-- Where nothing refers to the setting that is changed, the other settings stay as they are. -/
theorem AgreeExcept.fieldJson_eq
    {firstSettings secondSettings : Settings}
    (agree : AgreeExcept changed first second)
    (unreferred : first.Unreferred changed)
    (distinct : other ≠ changed)
    (built : first.sources.build = .ok firstSettings)
    (builtToo : second.sources.build = .ok secondSettings) :
    secondSettings.fieldJson other = firstSettings.fieldJson other := by
  apply Sources.fieldJson_eq_of_build built builtToo (agree.given other distinct)
  · change lastValue? second.environment other = lastValue? first.environment other
    rw [← lastValue?_others distinct second.environment, agree.environment,
      lastValue?_others distinct]
  · rw [(agree.unreferred unreferred).envFile_eq distinct, unreferred.envFile_eq distinct,
      agree.environment, agree.bindings]

end Inputs

/-- The bindings of the environment file as they are written: none unless the file is asked for and
is there. -/
def envFileBindings
    (files : FileSystem)
    (useEnvFile : Bool) :
    Except Failure (List EnvFile.Binding) :=
  if useEnvFile then
    match files.isFile? envFilePath with
    | .ok true => ((files.readText envFilePath).mapError .ofRead).map EnvFile.read
    | _ => .ok []
  else .ok []

/-- The variables of the environment file are its bindings with their references replaced. -/
theorem envFileVariables_eq_map
    (files : FileSystem)
    (environment : Environment) :
    envFileVariables files environment =
      (envFileBindings files true).map (EnvFile.resolve environment) := by
  rw [envFileVariables, envFileBindings, if_pos rfl]
  cases files.isFile? envFilePath with
  | error fault => rfl
  | ok isFile =>
      cases isFile with
      | false => rfl
      | true => cases files.readText envFilePath <;> rfl

/-- Loading reads the environment file and then builds the settings. -/
theorem load_eq_ok_iff_build
    {files : FileSystem}
    {environment : Environment}
    {given : Field → Option Json}
    {useEnvFile : Bool}
    {settings : Settings} :
    load files environment given useEnvFile = .ok settings ↔
      ∃ bindings, envFileBindings files useEnvFile = .ok bindings ∧
        (Inputs.mk given environment bindings).sources.build = .ok settings := by
  cases useEnvFile with
  | false =>
      have unasked : load files environment given false =
          (Inputs.mk given environment []).sources.build := rfl
      simp [unasked, envFileBindings]
  | true =>
      have asked : load files environment given true =
          (envFileVariables files environment).bind fun fromFile =>
            Sources.build ⟨given, lastValue? environment, fun field =>
              (lastValue? fromFile field).join⟩ := rfl
      rw [asked, envFileVariables_eq_map]
      cases envFileBindings files true <;> simp [Except.map, Except.bind, Inputs.sources]

/-- Settings are loaded from the inputs, wherever the environment file has its bindings from. -/
def Inputs.LoadAs (inputs : Inputs) (settings : Settings) : Prop :=
  ∃ files useEnvFile, envFileBindings files useEnvFile = .ok inputs.bindings ∧
    load files inputs.environment inputs.given useEnvFile = .ok settings

theorem Inputs.LoadAs.build_eq
    {inputs : Inputs}
    {settings : Settings}
    (loaded : inputs.LoadAs settings) :
    inputs.sources.build = .ok settings := by
  obtain ⟨files, useEnvFile, bound, loaded⟩ := loaded
  obtain ⟨bindings, boundToo, built⟩ := load_eq_ok_iff_build.mp loaded
  obtain rfl : inputs.bindings = bindings := Except.ok.inj (bound.symm.trans boundToo)
  exact built

theorem name_mem_of_logLevel (level : LogLevel) :
    level.name ∈ ["DEBUG", "INFO", "WARNING", "ERROR", "CRITICAL"] := by
  cases level <;> decide

/-- Loading gives settings exactly when the environment file and the list setting can be read and
the chosen values are admissible; every setting then holds what the first source that sets it says.
Inputs that differ in one setting, to which no value of another setting refers, give the same values
for all other settings. -/
theorem load_eq_ok_iff :
    (∀ (files : FileSystem) (environment : Environment) (given : Field → Option Json)
        (useEnvFile : Bool) (settings : Settings),
        load files environment given useEnvFile = .ok settings ↔
          ∃ bindings, envFileBindings files useEnvFile = .ok bindings ∧
            (Inputs.mk given environment bindings).sources.Readable ∧
            settings.Admissible ∧
            settings.logLevel.name ∈ ["DEBUG", "INFO", "WARNING", "ERROR", "CRITICAL"] ∧
            ∀ field, ∃ value,
              (Inputs.mk given environment bindings).sources.Chooses field value ∧
                settings.Holds field value) ∧
      ∀ (changed other : Field) (first second : Inputs) (firstSettings secondSettings : Settings),
        other ≠ changed →
          first.AgreeExcept changed second →
            first.Unreferred changed →
              first.LoadAs firstSettings →
                second.LoadAs secondSettings →
                  secondSettings.fieldJson other = firstSettings.fieldJson other := by
  constructor
  · intro files environment given useEnvFile settings
    simp only [load_eq_ok_iff_build, Sources.build_eq_ok_iff, name_mem_of_logLevel, true_and]
  · intro changed other first second firstSettings secondSettings distinct agree unreferred loaded
      loadedToo
    exact agree.fieldJson_eq unreferred distinct loaded.build_eq loadedToo.build_eq

namespace Sample

/-- A directory with an environment file. -/
def files (text : String) : FileSystem where
  workingDirectory := []
  entries := [([⟨".env".toList, by decide⟩], .file (Utf8.encode text.toList))]

/-- A process in which the prefix of application directories is set. -/
def environment (appPrefix : String) : Environment :=
  [("USER".toList, "me".toList), ("SMARTCI_APP_PREFIX".toList, appPrefix.toList)]

/-- Inputs in which the header refers to the user, with further bindings. -/
def inputs (appPrefix : String) (further : List EnvFile.Binding) : Inputs where
  given := fun _ => none
  environment := environment appPrefix
  bindings := ("SMARTCI_HOVER_HEADER".toList, some "$\x7bUSER\x7d".toList) :: further

/-- A binding of the prefix of application directories. -/
def prefixBinding : EnvFile.Binding :=
  ("smartci_app_prefix".toList, some "x".toList)

theorem unreferred_inputs : (inputs "one" []).Unreferred .appPrefix := by
  intro name text present reference refers
  have only : Field.appPrefix.others (inputs "one" []).bindings =
      [("SMARTCI_HOVER_HEADER".toList, some "$\x7bUSER\x7d".toList)] := by
    decide
  rw [only, List.mem_singleton, Prod.mk.injEq, Option.some.injEq] at present
  obtain ⟨-, rfl⟩ := present
  have whole : EnvFile.reference? "\x7bUSER\x7d".toList = some ("USER".toList, [], []) := by decide
  cases refers with
  | here read =>
      obtain ⟨rfl, -⟩ := Prod.mk.inj (Option.some.inj (whole.symm.trans read))
      decide
  | behind read later =>
      obtain ⟨-, rest⟩ := Prod.mk.inj (Option.some.inj (whole.symm.trans read))
      obtain ⟨-, rfl⟩ := Prod.mk.inj rest
      cases later
  | beyondMark unread later => exact absurd (whole.symm.trans unread) (by simp)
  | beyond noMark later => exact absurd rfl noMark

end Sample

/-- The prefix is changed in the process and in the environment file; the header, which refers to
another variable, stays. -/
theorem load_eq_ok_iff_sample :
    Field.hoverHeader ≠ .appPrefix ∧
      Inputs.AgreeExcept .appPrefix (Sample.inputs "one" [])
        (Sample.inputs "two" [Sample.prefixBinding]) ∧
      (Sample.inputs "one" []).Unreferred .appPrefix ∧
      ∃ first second : Settings,
        (Sample.inputs "one" []).LoadAs first ∧
          (Sample.inputs "two" [Sample.prefixBinding]).LoadAs second ∧
          second.fieldJson .hoverHeader = first.fieldJson .hoverHeader := by
  have distinct : Field.hoverHeader ≠ .appPrefix := by decide
  have agree : Inputs.AgreeExcept .appPrefix (Sample.inputs "one" [])
      (Sample.inputs "two" [Sample.prefixBinding]) :=
    ⟨fun _ _ => rfl, by decide, by decide⟩
  have loaded : (Sample.inputs "one" []).LoadAs
      { initial with appPrefix := "one".toList, hoverHeader := "me".toList } := by
    refine ⟨Sample.files "SMARTCI_HOVER_HEADER=$\x7bUSER\x7d", true, ?_, ?_⟩ <;> decide +kernel
  have loadedToo : (Sample.inputs "two" [Sample.prefixBinding]).LoadAs
      { initial with appPrefix := "two".toList, hoverHeader := "me".toList } := by
    refine ⟨Sample.files "SMARTCI_HOVER_HEADER=$\x7bUSER\x7d\nsmartci_app_prefix=x", true, ?_, ?_⟩
      <;> decide +kernel
  have same := load_eq_ok_iff.2 .appPrefix .hoverHeader _ _ _ _ distinct agree
    Sample.unreferred_inputs loaded loadedToo
  exact ⟨distinct, agree, Sample.unreferred_inputs, _, _, loaded, loadedToo, same⟩

/-- A value of the environment file that refers to the variable of another setting changes with
it. -/
theorem exists_load_hoverHeader_ne :
    ∃ first second : Settings,
      load (Sample.files "SMARTCI_HOVER_HEADER=$\x7bSMARTCI_APP_PREFIX\x7d")
          (Sample.environment "one") (fun _ => none) true = .ok first ∧
        load (Sample.files "SMARTCI_HOVER_HEADER=$\x7bSMARTCI_APP_PREFIX\x7d")
          (Sample.environment "two") (fun _ => none) true = .ok second ∧
        Field.appPrefix.others (Sample.environment "one") =
          Field.appPrefix.others (Sample.environment "two") ∧
        first.hoverHeader ≠ second.hoverHeader := by
  refine ⟨{ initial with appPrefix := "one".toList, hoverHeader := "one".toList },
    { initial with appPrefix := "two".toList, hoverHeader := "two".toList }, ?_, ?_, ?_, ?_⟩
  · decide +kernel
  · decide +kernel
  · decide +kernel
  · decide +kernel

end Settings
end ModelNav
