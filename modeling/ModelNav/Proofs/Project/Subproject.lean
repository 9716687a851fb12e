import ModelNav.Proofs.Project.Discovery

/-!
# What redirects discovery

Discovery goes on below the subproject directory of a workspace when anything stands at its path,
and a listing needs a directory.  So the two agree unless an entry of another kind stands there:
then the project root is that entry, nothing can be listed below it, and the application directories
of the workspace are not found.  Where nothing stands at the path, the workspace is the project root
and its application directories are found, unless it hides an entry behind a path that is too long.
-/

namespace ModelNav

namespace FileSystem

variable {files : FileSystem} {path : Path}

/-- What leads somewhere, but to no directory, cannot be listed. -/
theorem exists_list_eq_error
    (noDirectory : files.isDirectory? path ≠ .ok true) :
    ∃ fault, files.list path = .error fault := by
  cases listed : files.list path with
  | error fault => exact ⟨fault, rfl⟩
  | ok names =>
      obtain ⟨location, found, -⟩ := list_eq_ok_iff.mp listed
      exact absurd (by simp [isDirectory?, test, found]) noDirectory

end FileSystem

namespace Project

variable {files : FileSystem} {settings : Settings} {workspace : Path} {discovery : Discovery}

/-- Below a root with an application directory, none is found exactly when the root hides an
entry. -/
theorem IsAppDir.foundAppDirs_eq_nil_iff
    {projectRoot : Path}
    {name : Text}
    (isAppDir : IsAppDir files settings projectRoot name) :
    foundAppDirs files settings projectRoot = [] ↔ HidesChild files projectRoot := by
  obtain ⟨-, -, -, location, found, -⟩ := id isAppDir
  have listed := FileSystem.list_eq_ok_iff.mpr ⟨location, found, rfl⟩
  rw [Project.foundAppDirs_eq_nil_iff, listed]
  constructor
  · rintro (⟨fault, unlisted⟩ | hides | none)
    · cases unlisted
    · exact hides
    · exact absurd isAppDir (none name)
  · exact fun hides => Or.inr (Or.inl hides)

/-- Without a NUL in the workspace, discovery takes the default directories exactly when it finds
none below its project root. -/
theorem usedDefaults_iff_of_discover
    (nulFree : workspace.NulFree)
    (discovered : (discover files settings workspace).outcome = .ok discovery) :
    discovery.usedDefaults = true ↔ foundAppDirs files settings discovery.projectRoot = [] := by
  rw [discover, Traced.outcome_bind_of_ok (outcome_root files settings workspace),
    outcome_discoverBelow (nulFree_rootOf nulFree), Except.ok.injEq] at discovered
  subst discovered
  split
  · rename_i empty
    simpa using empty
  · rename_i found
    simpa using found

theorem appDirs_of_usedDefaults
    (nulFree : workspace.NulFree)
    (discovered : (discover files settings workspace).outcome = .ok discovery)
    (usedDefaults : discovery.usedDefaults = true) :
    discovery.appDirs = settings.defaultAppDirs := by
  rw [discover, Traced.outcome_bind_of_ok (outcome_root files settings workspace),
    outcome_discoverBelow (nulFree_rootOf nulFree), Except.ok.injEq] at discovered
  subst discovered
  split at usedDefaults
  · rename_i empty
    rw [if_pos empty]
  · contradiction

/-- The path of an entry below a directory is not the path of that directory. -/
theorem child_ne_self (path : Path) (name : Text) : path.child name ≠ path := by
  intro same
  have lengths := congrArg (fun path : Path => path.parts.length) same
  simp [Path.child] at lengths

/-- In a workspace without a NUL, whose subproject path has one part and leads to no directory, the
workspace is the project root exactly when nothing stands at that path.  When the workspace has
application directories, discovery gives exactly these, and not the default ones, if and only if
nothing stands there and the workspace hides no entry behind a path that is too long.  An entry that
stands there is taken for the project root, and the default directories are searched below it. -/
theorem exists_discover_workspace_iff
    (files : FileSystem)
    (settings : Settings)
    (workspace : Path)
    (part : Text)
    (nulFree : workspace.NulFree)
    (single : Path.ofText settings.subprojectDir = ⟨.relative, [part]⟩)
    (noDirectory : files.isDirectory? (workspace.child part) ≠ .ok true) :
    ∃ discovery,
      (discover files settings workspace).outcome = .ok discovery ∧
        (discovery.projectRoot = workspace ↔ ¬files.Has (workspace.child part)) ∧
        ((∃ name, IsAppDir files settings workspace name) →
          (discovery.projectRoot = workspace ∧ discovery.usedDefaults = false ∧
              discovery.Exact files settings ↔
            ¬files.Has (workspace.child part) ∧ ¬HidesChild files workspace)) ∧
        (files.Has (workspace.child part) →
          discovery = ⟨workspace.child part, settings.defaultAppDirs, true⟩) := by
  obtain ⟨discovery, discovered⟩ : ∃ discovery,
      (discover files settings workspace).outcome = .ok discovery :=
    exists_outcome_discover nulFree
  have joined : workspace.join settings.subprojectDir = workspace.child part := by
    rw [Path.join, single, Path.append_of_relative rfl]
    rfl
  have rooted : discovery.projectRoot =
      if files.Has (workspace.child part) then workspace.child part else workspace := by
    rw [projectRoot_of_discover discovered, rootOf, joined]
  have usedDefaults_iff := usedDefaults_iff_of_discover nulFree discovered
  have root_iff : discovery.projectRoot = workspace ↔ ¬files.Has (workspace.child part) := by
    rw [rooted]
    split
    · rename_i occupied
      simp [occupied, child_ne_self]
    · rename_i free
      simp [free]
  refine ⟨discovery, discovered, root_iff, ?_, ?_⟩
  · rintro ⟨name, isAppDir⟩
    have usedDefaults_iff_of_root (isRoot : discovery.projectRoot = workspace) :
        discovery.usedDefaults = true ↔ HidesChild files workspace := by
      rw [usedDefaults_iff, isRoot, isAppDir.foundAppDirs_eq_nil_iff]
    constructor
    · rintro ⟨isRoot, notDefaults, -⟩
      refine ⟨root_iff.mp isRoot, fun hides => ?_⟩
      rw [(usedDefaults_iff_of_root isRoot).mpr hides] at notDefaults
      contradiction
    · rintro ⟨free, shown⟩
      have isRoot := root_iff.mpr free
      have notDefaults : discovery.usedDefaults = false := by
        rwa [Bool.eq_false_iff, ne_eq, usedDefaults_iff_of_root isRoot]
      exact ⟨isRoot, notDefaults, exact_of_discover discovered notDefaults⟩
  · intro occupied
    rw [if_pos occupied] at rooted
    have usedDefaults : discovery.usedDefaults = true := by
      rw [usedDefaults_iff, rooted, foundAppDirs_eq_nil_iff]
      exact Or.inl (FileSystem.exists_list_eq_error noDirectory)
    have appDirs := appDirs_of_usedDefaults nulFree discovered usedDefaults
    rw [← rooted, ← appDirs, ← usedDefaults]

namespace Sample

/-- The name of the subproject directory. -/
def subprojectName : EntryName := ⟨"CI3".toList, by decide⟩

/-- A workspace with an application directory and nothing else. -/
def plainFiles : FileSystem where
  workingDirectory := []
  entries := [
    ([workspaceName], .directory),
    ([appName, workspaceName], .directory)]

/-- A workspace with an application directory, and with a file in the place of the subproject
directory. -/
def occupiedFiles : FileSystem where
  workingDirectory := []
  entries := [
    ([workspaceName], .directory),
    ([appName, workspaceName], .directory),
    ([subprojectName, workspaceName], .file [])]

end Sample

/-- Without a subproject directory the application directory of the workspace is found. -/
theorem exists_discover_workspace_iff_sample :
    Sample.workspace.NulFree ∧
      Path.ofText Settings.initial.subprojectDir = ⟨.relative, [Sample.subprojectName.text]⟩ ∧
      Sample.plainFiles.isDirectory? (Sample.workspace.child Sample.subprojectName.text) ≠
        .ok true ∧
      ∃ discovery,
        (discover Sample.plainFiles Settings.initial Sample.workspace).outcome = .ok discovery ∧
          discovery.projectRoot = Sample.workspace ∧
          Sample.appName.text ∈ discovery.appDirs := by
  have nulFree : Sample.workspace.NulFree := by decide
  have single :
      Path.ofText Settings.initial.subprojectDir = ⟨.relative, [Sample.subprojectName.text]⟩ := by
    decide
  have noDirectory :
      Sample.plainFiles.isDirectory? (Sample.workspace.child Sample.subprojectName.text) ≠
        .ok true := by
    decide +kernel
  have found : Sample.plainFiles.lookup Sample.workspace =
      .ok ([Sample.workspaceName], .directory) := by
    decide +kernel
  have isAppDir :
      IsAppDir Sample.plainFiles Settings.initial Sample.workspace Sample.appName.text :=
    ⟨by decide, Sample.appName, rfl, _, found, by decide +kernel⟩
  have free : ¬Sample.plainFiles.Has (Sample.workspace.child Sample.subprojectName.text) := by
    decide +kernel
  have shown : ¬HidesChild Sample.plainFiles Sample.workspace := by
    rintro ⟨name, entry, hasChild, overlong⟩
    have only : Sample.plainFiles.namesBelow [Sample.workspaceName] = [Sample.appName] := by
      decide +kernel
    have below := hasChild.mem_namesBelow found
    rw [only, List.mem_singleton] at below
    subst below
    revert overlong
    decide +kernel
  obtain ⟨discovery, discovered, -, exact_iff, -⟩ :=
    exists_discover_workspace_iff Sample.plainFiles Settings.initial Sample.workspace
      Sample.subprojectName.text nulFree single noDirectory
  obtain ⟨isRoot, -, isExact⟩ := (exact_iff ⟨_, isAppDir⟩).mpr ⟨free, shown⟩
  refine ⟨nulFree, single, noDirectory, discovery, discovered, isRoot, ?_⟩
  rwa [isExact.mem_iff, isRoot]

/-- A file in the place of the subproject directory keeps discovery from finding the application
directory of the workspace. -/
theorem outcome_discover_of_subproject_file :
    Sample.workspace.NulFree ∧
      Path.ofText Settings.initial.subprojectDir = ⟨.relative, [Sample.subprojectName.text]⟩ ∧
      Sample.occupiedFiles.isDirectory? (Sample.workspace.child Sample.subprojectName.text) ≠
        .ok true ∧
      IsAppDir Sample.occupiedFiles Settings.initial Sample.workspace Sample.appName.text ∧
      ∃ discovery,
        (discover Sample.occupiedFiles Settings.initial Sample.workspace).outcome =
            .ok discovery ∧
          discovery.projectRoot ≠ Sample.workspace ∧ discovery.usedDefaults = true := by
  refine ⟨by decide, by decide, by decide +kernel,
    ⟨by decide, Sample.appName, rfl, [Sample.workspaceName], by decide +kernel, by decide +kernel⟩,
    ⟨Sample.workspace.child Sample.subprojectName.text, Settings.initial.defaultAppDirs, true⟩,
    by decide +kernel, by decide, rfl⟩

end Project
end ModelNav
