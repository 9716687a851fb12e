import Mathlib.Data.List.Find
import ModelNav.Proofs.Project.AppDirs
import ModelNav.Project.Candidates

/-!
# Finding the file of a model

Whether a path leads somewhere can always be answered, so the search among the candidates always
ends with the first one that exists.  Discovery fails exactly when the project root has a NUL
character, and otherwise searches what it found below the project root, or the default directories.
-/

namespace ModelNav

/-- The item is the first one of a list that has a property. -/
def FirstOf {α : Type} (holds : α → Prop) (items : List α) (item : α) : Prop :=
  holds item ∧ ∃ earlier later, items = earlier ++ item :: later ∧ ∀ other ∈ earlier, ¬holds other

theorem find?_eq_some_iff_firstOf
    {α : Type}
    {holds : α → Prop}
    [DecidablePred holds]
    {items : List α}
    {item : α} :
    items.find? (fun other => decide (holds other)) = some item ↔ FirstOf holds items item := by
  simp [List.find?_eq_some_iff_append, FirstOf]

theorem FirstOf.mem
    {α : Type}
    {holds : α → Prop}
    {items : List α}
    {item : α}
    (first : FirstOf holds items item) :
    item ∈ items := by
  obtain ⟨-, earlier, later, rfl, -⟩ := first
  simp

namespace Project

variable {files : FileSystem} {settings : Settings}

/-- A check of a path ends with the answer whether the path leads somewhere. -/
theorem outcome_reachable
    (files : FileSystem)
    (path : Path) :
    (reachable files path).outcome = .ok (decide (files.Has path)) := by
  cases found : files.lookup path with
  | ok place =>
      have has : files.Has path := ⟨place, found⟩
      simp [reachable, FileSystem.exists?, FileSystem.test, found, has]
  | error fault =>
      have hasNot : ¬files.Has path := by
        rintro ⟨place, impossible⟩
        rw [found] at impossible
        contradiction
      cases fault with
      | nulInPath => simp [reachable, FileSystem.exists?, FileSystem.test, found, hasNot]
      | refused refusal refused =>
          cases refusal <;>
            simp [reachable, FileSystem.exists?, FileSystem.test, found, hasNot]

/-- The search ends with the first path that leads somewhere. -/
theorem outcome_firstExisting
    (files : FileSystem)
    (paths : List Path) :
    (firstExisting files paths).outcome =
      .ok (paths.find? fun path => decide (files.Has path)) := by
  induction paths with
  | nil => rfl
  | cons path others inductionHypothesis =>
      rw [firstExisting, Traced.outcome_bind_of_ok (outcome_reachable files path)]
      by_cases has : files.Has path
      · simp [has]
      · simp [has, inductionHypothesis]

/-- The subproject directory when it exists, else the workspace. -/
def rootOf (files : FileSystem) (settings : Settings) (workspace : Path) : Path :=
  if files.Has (workspace.join settings.subprojectDir) then workspace.join settings.subprojectDir
  else workspace

theorem outcome_root
    (files : FileSystem)
    (settings : Settings)
    (workspace : Path) :
    (root files settings workspace).outcome = .ok (rootOf files settings workspace) := by
  rw [root, Traced.outcome_bind_of_ok (outcome_reachable files _)]
  simp [rootOf]

/-- The project root of a workspace without a NUL has none: the subproject is taken only when it
leads somewhere. -/
theorem nulFree_rootOf
    {workspace : Path}
    (nulFree : workspace.NulFree) :
    (rootOf files settings workspace).NulFree := by
  unfold rootOf
  split
  · rename_i has
    exact has.nulFree
  · exact nulFree

/-! ## Discovery -/

theorem filterAuxM_ne_error
    {ε α : Type}
    {fault : ε}
    {test : α → Except ε Bool}
    (never : ∀ item, test item ≠ .error fault)
    (items kept : List α) :
    items.filterAuxM test kept ≠ .error fault := by
  induction items generalizing kept with
  | nil =>
      intro impossible
      cases impossible
  | cons item items inductionHypothesis =>
      intro failed
      rcases bind_eq_error_iff.mp failed with untested | ⟨holds, -, failedLater⟩
      · exact never item untested
      · exact inductionHypothesis _ failedLater

/-- Filtering with a test that can fail does not end with a fault that no test ends with. -/
theorem filterM_ne_error
    {ε α : Type}
    {fault : ε}
    {test : α → Except ε Bool}
    (never : ∀ item, test item ≠ .error fault)
    (items : List α) :
    items.filterM test ≠ .error fault := by
  intro failed
  rcases bind_eq_error_iff.mp failed with unfiltered | ⟨kept, -, impossible⟩
  · exact filterAuxM_ne_error never items [] unfiltered
  · cases impossible

/-- Below a root without a NUL the listing fails for other reasons only. -/
theorem appDirsBelow_ne_nulInPath
    {projectRoot : Path}
    (nulFree : projectRoot.NulFree) :
    appDirsBelow files settings projectRoot ≠ .error .nulInPath := by
  intro failed
  rcases bind_eq_error_iff.mp failed with unlisted | ⟨names, -, unfiltered⟩
  · exact FileSystem.list_ne_nulInPath nulFree unlisted
  · refine filterM_ne_error ?_ names unfiltered
    intro name unchecked
    rcases bind_eq_error_iff.mp unchecked with untested | ⟨isDirectory, -, impossible⟩
    · exact FileSystem.test_ne_nulInPath _ untested
    · cases impossible

/-- The names of the application directories that are found below a project root. -/
def foundAppDirs (files : FileSystem) (settings : Settings) (projectRoot : Path) : List Text :=
  match appDirsBelow files settings projectRoot with
  | .ok names => names
  | .error _ => []

/-- Below a root without a NUL, discovery ends with the found directories in order, or with the
default ones when none are found. -/
theorem outcome_discoverBelow
    {projectRoot : Path}
    (nulFree : projectRoot.NulFree) :
    (discoverBelow files settings projectRoot).outcome =
      .ok (if (foundAppDirs files settings projectRoot).isEmpty then
          ⟨projectRoot, settings.defaultAppDirs, true⟩
        else ⟨projectRoot, AppDirs.sort settings.commonAppDir
          (foundAppDirs files settings projectRoot), false⟩) := by
  unfold discoverBelow foundAppDirs
  cases listed : appDirsBelow files settings projectRoot with
  | ok names =>
      have ordered : AppDirs.collate settings.commonAppDir names =
          .ok (AppDirs.sort settings.commonAppDir names) :=
        AppDirs.collate_of_nulFree (nulFree_of_appDirsBelow listed)
      rw [Traced.outcome_bind_of_ok (Traced.outcome_pure names)]
      by_cases empty : names.isEmpty = true
      · simp [empty]
      · simp only [empty, Bool.false_eq_true, if_false, ordered]
        rfl
  | error fault =>
      cases fault with
      | nulInPath => exact absurd listed (appDirsBelow_ne_nulInPath nulFree)
      | refused refusal path => rfl

/-- Discovery below a root with a NUL fails. -/
theorem outcome_discoverBelow_of_not_nulFree
    {projectRoot : Path}
    (nul : ¬projectRoot.NulFree) :
    (discoverBelow files settings projectRoot).outcome = .error (.access .nulInPath) := by
  have unlisted : files.list projectRoot = .error .nulInPath :=
    bind_eq_error_iff.mpr (Or.inl (FileSystem.lookup_eq_nulInPath_iff.mpr nul))
  have failed : appDirsBelow files settings projectRoot = .error .nulInPath :=
    bind_eq_error_iff.mpr (Or.inl unlisted)
  rw [discoverBelow, failed]
  rfl

/-- Discovery in a workspace without a NUL ends with a value. -/
theorem exists_outcome_discover
    {workspace : Path}
    (nulFree : workspace.NulFree) :
    ∃ discovery, (discover files settings workspace).outcome = .ok discovery := by
  rw [discover, Traced.outcome_bind_of_ok (outcome_root files settings workspace),
    outcome_discoverBelow (nulFree_rootOf nulFree)]
  exact ⟨_, rfl⟩

/-- Discovery searches below the workspace or below its subproject directory. -/
theorem projectRoot_of_discover
    {workspace : Path}
    {discovery : Discovery}
    (discovered : (discover files settings workspace).outcome = .ok discovery) :
    discovery.projectRoot = rootOf files settings workspace := by
  rw [discover, Traced.outcome_bind_of_ok (outcome_root files settings workspace)] at discovered
  by_cases nulFree : (rootOf files settings workspace).NulFree
  · rw [outcome_discoverBelow nulFree, Except.ok.injEq] at discovered
    rw [← discovered]
    split <;> rfl
  · rw [outcome_discoverBelow_of_not_nulFree nulFree] at discovered
    contradiction

/-- The file of a model is the first candidate that leads somewhere. -/
theorem outcome_modelFile
    {workspace : Path}
    {discovery : Discovery}
    (discovered : (discover files settings workspace).outcome = .ok discovery)
    (modelPath : Text) :
    (modelFile files settings workspace modelPath).outcome =
      .ok ((candidates settings discovery.projectRoot discovery.appDirs modelPath).find?
        fun path => decide (files.Has path)) := by
  rw [modelFile, Traced.outcome_bind_of_ok discovered, outcome_firstExisting]

/-- A file that is found is the first existing candidate of what was discovered. -/
theorem exists_firstOf_of_modelFile
    {workspace path : Path}
    {modelPath : Text}
    (found : (modelFile files settings workspace modelPath).outcome = .ok (some path)) :
    ∃ discovery, (discover files settings workspace).outcome = .ok discovery ∧
      FirstOf files.Has
        (candidates settings discovery.projectRoot discovery.appDirs modelPath) path := by
  cases discovered : (discover files settings workspace).outcome with
  | ok discovery =>
      rw [outcome_modelFile discovered, Except.ok.injEq] at found
      exact ⟨discovery, rfl, find?_eq_some_iff_firstOf.mp found⟩
  | error failure =>
      rw [modelFile, Traced.outcome_bind_of_error discovered] at found
      contradiction

end Project
end ModelNav
