import ModelNav.Proofs.Project.ModelFile

/-!
# What discovery finds

Discovery finds the directories right below the project root whose names begin in the configured
way, each once and in order.  Where there are none, or where the root or one of its entries cannot
be looked at, it answers with the default directories, so there is always a directory to search.
-/

namespace ModelNav

section Filtering

variable {ε α : Type} {test : α → Except ε Bool}

theorem filterAuxM_eq_ok
    {holds : α → Bool}
    {items : List α}
    (tested : ∀ item ∈ items, test item = .ok (holds item))
    (kept : List α) :
    items.filterAuxM test kept = .ok ((items.filter holds).reverse ++ kept) := by
  induction items generalizing kept with
  | nil => rfl
  | cons item items inductionHypothesis =>
      rw [List.forall_mem_cons] at tested
      rw [List.filterAuxM, tested.1]
      refine (inductionHypothesis tested.2 _).trans ?_
      cases held : holds item <;> simp [held]

/-- A filter whose test never fails keeps the items that pass it. -/
theorem filterM_eq_ok
    {holds : α → Bool}
    {items : List α}
    (tested : ∀ item ∈ items, test item = .ok (holds item)) :
    items.filterM test = .ok (items.filter holds) := by
  rw [List.filterM, filterAuxM_eq_ok tested]
  simp [pure, Except.pure, Bind.bind, Except.bind]

theorem exists_test_of_filterAuxM
    {items kept chosen : List α}
    (filtered : items.filterAuxM test kept = .ok chosen) :
    ∀ item ∈ items, ∃ holds, test item = .ok holds := by
  induction items generalizing kept with
  | nil => simp
  | cons item items inductionHypothesis =>
      obtain ⟨holds, tested, filteredLater⟩ := bind_eq_ok_iff.mp filtered
      exact List.forall_mem_cons.mpr ⟨⟨holds, tested⟩, inductionHypothesis filteredLater⟩

/-- A filter ends with a value only if its test fails for no item. -/
theorem exists_test_of_filterM
    {items chosen : List α}
    (filtered : items.filterM test = .ok chosen) :
    ∀ item ∈ items, ∃ holds, test item = .ok holds := by
  obtain ⟨reversed, filteredAux, -⟩ := bind_eq_ok_iff.mp filtered
  exact exists_test_of_filterAuxM filteredAux

end Filtering

namespace Project

variable {files : FileSystem} {settings : Settings} {projectRoot : Path} {names : List Text}

/-- A directory with the given name stands right below the project root, and the name begins like
those of application directories. -/
def IsAppDir
    (files : FileSystem)
    (settings : Settings)
    (projectRoot : Path)
    (name : Text) : Prop :=
  settings.appPrefix <+: name ∧
    ∃ entryName : EntryName, entryName.text = name ∧
      files.HasChild projectRoot entryName .directory

/-- Something stands right below the project root that cannot be looked at, since its path is too
long. -/
def HidesChild (files : FileSystem) (projectRoot : Path) : Prop :=
  ∃ name entry, files.HasChild projectRoot name entry ∧ (projectRoot.child name.text).Overlong

/-- An entry whose path is not too long is an application directory by its kind and its name. -/
theorem isAppDir_text_iff
    {name : EntryName}
    {entry : Entry}
    (hasChild : files.HasChild projectRoot name entry) :
    IsAppDir files settings projectRoot name.text ↔
      entry = .directory ∧ settings.appPrefix <+: name.text := by
  constructor
  · rintro ⟨begins, other, sameText, location, found, stands⟩
    obtain rfl := EntryName.text_injective sameText
    obtain ⟨place, foundAlso, standsAlso⟩ := hasChild
    obtain rfl : location = place := by
      rw [found] at foundAlso
      simpa using foundAlso
    rw [stands, Option.some.injEq] at standsAlso
    exact ⟨standsAlso.symm, begins⟩
  · rintro ⟨rfl, begins⟩
    exact ⟨begins, name, rfl, hasChild⟩

/-- Where the root can be listed and no path in it is too long, its application directories are
found. -/
theorem exists_appDirsBelow_of_lookup
    {location : Location}
    (found : files.lookup projectRoot = .ok (location, .directory))
    (shown : ¬HidesChild files projectRoot) :
    ∃ names, appDirsBelow files settings projectRoot = .ok names ∧
      ∀ name, name ∈ names ↔ IsAppDir files settings projectRoot name := by
  classical
  have listed : files.list projectRoot = .ok ((files.namesBelow location).map (·.text)) :=
    FileSystem.list_eq_ok_iff.mpr ⟨location, found, rfl⟩
  refine ⟨((files.namesBelow location).map (·.text)).filter fun name =>
    decide (IsAppDir files settings projectRoot name), ?_, ?_⟩
  · rw [appDirsBelow, listed]
    apply filterM_eq_ok
    intro text present
    obtain ⟨name, below, rfl⟩ := List.mem_map.mp present
    obtain ⟨entry, stands⟩ := FileSystem.mem_namesBelow_iff.mp below
    have hasChild : files.HasChild projectRoot name entry := ⟨location, found, stands⟩
    have short : ¬(projectRoot.child name.text).Overlong := fun overlong =>
      shown ⟨name, entry, hasChild, overlong⟩
    rw [hasChild.isDirectory?_child, if_neg short]
    change Except.ok (decide (entry = .directory) && name.text.startsWith settings.appPrefix) = _
    rw [Except.ok.injEq, Bool.eq_iff_iff, Bool.and_eq_true, decide_eq_true_iff,
      decide_eq_true_iff, isAppDir_text_iff hasChild]
    exact and_congr_right fun _ => List.isPrefixOf_iff_prefix
  · intro name
    rw [List.mem_filter, decide_eq_true_iff, and_iff_right_iff_imp]
    rintro ⟨-, entryName, rfl, hasChild⟩
    exact List.mem_map_of_mem (hasChild.mem_namesBelow found)

/-- The application directories can be told exactly when the root can be listed and nothing in it
has a path that is too long. -/
theorem exists_appDirsBelow_iff :
    (∃ names, appDirsBelow files settings projectRoot = .ok names) ↔
      (∃ names, files.list projectRoot = .ok names) ∧ ¬HidesChild files projectRoot := by
  constructor
  · rintro ⟨names, ended⟩
    obtain ⟨listing, listed, filtered⟩ := bind_eq_ok_iff.mp ended
    refine ⟨⟨listing, listed⟩, ?_⟩
    rintro ⟨name, entry, hasChild, overlong⟩
    obtain ⟨location, found, rfl⟩ := FileSystem.list_eq_ok_iff.mp listed
    obtain ⟨holds, tested⟩ := exists_test_of_filterM filtered name.text
      (List.mem_map_of_mem (hasChild.mem_namesBelow found))
    rw [hasChild.isDirectory?_child, if_pos overlong] at tested
    cases tested
  · rintro ⟨⟨listing, listed⟩, shown⟩
    obtain ⟨location, found, -⟩ := FileSystem.list_eq_ok_iff.mp listed
    obtain ⟨names, ended, -⟩ := exists_appDirsBelow_of_lookup found shown
    exact ⟨names, ended⟩

/-- The names that are found are those of the application directories. -/
theorem mem_of_appDirsBelow
    (ended : appDirsBelow files settings projectRoot = .ok names)
    (name : Text) :
    name ∈ names ↔ IsAppDir files settings projectRoot name := by
  obtain ⟨⟨listing, listed⟩, shown⟩ := exists_appDirsBelow_iff.mp ⟨names, ended⟩
  obtain ⟨location, found, -⟩ := FileSystem.list_eq_ok_iff.mp listed
  obtain ⟨others, endedAlso, mem_iff⟩ := exists_appDirsBelow_of_lookup found shown
  obtain rfl : names = others := Except.ok.inj (ended.symm.trans endedAlso)
  exact mem_iff name

/-- Nothing is found where the root cannot be listed, hides an entry, or holds no application
directory. -/
theorem foundAppDirs_eq_nil_iff :
    foundAppDirs files settings projectRoot = [] ↔
      (∃ fault, files.list projectRoot = .error fault) ∨ HidesChild files projectRoot ∨
        ∀ name, ¬IsAppDir files settings projectRoot name := by
  unfold foundAppDirs
  cases ended : appDirsBelow files settings projectRoot with
  | ok names =>
      obtain ⟨⟨listing, listed⟩, shown⟩ := exists_appDirsBelow_iff.mp ⟨names, ended⟩
      simp [listed, shown, List.eq_nil_iff_forall_not_mem, mem_of_appDirsBelow ended]
  | error fault =>
      simp only [true_iff]
      cases listed : files.list projectRoot with
      | error fault => exact Or.inl ⟨fault, rfl⟩
      | ok listing =>
          refine Or.inr (Or.inl ?_)
          by_contra shown
          obtain ⟨names, endedAlso⟩ :=
            exists_appDirsBelow_iff.mpr ⟨⟨listing, listed⟩, shown⟩
          rw [ended] at endedAlso
          contradiction

end Project

/-- The directories of a discovery are those of the project root, in the order of the search: each
application directory once, the common one first and the others by their code points. -/
structure Discovery.Exact
    (files : FileSystem)
    (settings : Settings)
    (discovery : Discovery) : Prop where
  nodup : discovery.appDirs.Nodup
  mem_iff : ∀ name,
    name ∈ discovery.appDirs ↔ Project.IsAppDir files settings discovery.projectRoot name
  common_first : settings.commonAppDir ∈ discovery.appDirs →
    discovery.appDirs.head? = some settings.commonAppDir
  ordered :
    (discovery.appDirs.filter fun name => name ≠ settings.commonAppDir).Pairwise Text.Before

namespace Project

variable {files : FileSystem} {settings : Settings} {projectRoot : Path}

/-- The names that are found, put in order, are exactly the application directories. -/
theorem exact_sort_foundAppDirs
    (found : foundAppDirs files settings projectRoot ≠ []) :
    Discovery.Exact files settings
      ⟨projectRoot, AppDirs.sort settings.commonAppDir
        (foundAppDirs files settings projectRoot), false⟩ := by
  unfold foundAppDirs at found ⊢
  cases ended : appDirsBelow files settings projectRoot with
  | error fault =>
      rw [ended] at found
      contradiction
  | ok names =>
      have perm : (AppDirs.sort settings.commonAppDir names).Perm names := AppDirs.perm_sort names
      have nodup : names.Nodup := nodup_of_appDirsBelow ended
      refine ⟨perm.nodup_iff.mpr nodup, ?_, ?_, AppDirs.pairwise_before_sort nodup⟩
      · intro name
        rw [perm.mem_iff, mem_of_appDirsBelow ended]
      · intro present
        exact AppDirs.head?_sort (perm.mem_iff.mp present)

/-- A discovery that did not fall back to the default directories is exact. -/
theorem exact_of_discover
    {workspace : Path}
    {discovery : Discovery}
    (discovered : (discover files settings workspace).outcome = .ok discovery)
    (notDefaults : discovery.usedDefaults = false) :
    discovery.Exact files settings := by
  rw [discover, Traced.outcome_bind_of_ok (outcome_root files settings workspace)] at discovered
  by_cases nulFree : (rootOf files settings workspace).NulFree
  · rw [outcome_discoverBelow nulFree, Except.ok.injEq] at discovered
    obtain rfl := discovered
    split at notDefaults
    · contradiction
    · rename_i found
      rw [if_neg found]
      exact exact_sort_foundAppDirs (by simpa using found)
  · rw [outcome_discoverBelow_of_not_nulFree nulFree] at discovered
    contradiction

namespace Sample

theorem isEntryName_workspace : isEntryName "w".toList = true := by
  decide

theorem isEntryName_app : isEntryName "app".toList = true := by
  decide

/-- The name of a workspace. -/
def workspaceName : EntryName := ⟨"w".toList, isEntryName_workspace⟩

/-- The name of an application directory. -/
def appName : EntryName := ⟨"app".toList, isEntryName_app⟩

/-- The path of the workspace. -/
def workspace : Path := Path.ofText "w".toList

end Sample

end Project
end ModelNav
