import ModelNav.Proofs.Method.Lookup
import ModelNav.Proofs.Project.ModelFile

/-!
# File systems that answer alike

The search for a model's file asks a file system a few questions: does the subproject exist, which
application directories are there, which candidates exist, and what does the first of them hold.
Two file systems that answer these alike lead the search to the same end, whatever else they hold
and in whatever order they list it.
-/

namespace ModelNav

/-- Two listings name the same set of application directories, or both fail. -/
def SameNames : Except AccessFault (List Text) → Except AccessFault (List Text) → Prop
  | .ok names, .ok others => ∀ name, name ∈ names ↔ name ∈ others
  | .error _, .error _ => True
  | _, _ => False

/-- Looking up a method in a file ends alike where the file holds the same text, or none that can be
read. -/
theorem Method.outcome_findInFile_congr
    {files other : FileSystem}
    {path : Path}
    (nulFree : path.NulFree)
    (readText_iff : ∀ text, files.readText path = .ok text ↔ other.readText path = .ok text)
    (settings : Settings)
    (name : Text) :
    (findInFile files settings path name).outcome =
      (findInFile other settings path name).outcome := by
  rcases FileSystem.exists_readText_or_unreadable files nulFree with ⟨text, read⟩ | unreadable
  · rw [outcome_findInFile_of_read read, outcome_findInFile_of_read ((readText_iff text).mp read)]
  · rcases FileSystem.exists_readText_or_unreadable other nulFree with
      ⟨text, read⟩ | unreadableOther
    · obtain ⟨fault, unread, -⟩ := unreadable
      rw [(readText_iff text).mpr read] at unread
      contradiction
    · rw [outcome_findInFile_of_unreadable unreadable,
        outcome_findInFile_of_unreadable unreadableOther]

namespace Project

variable {settings : Settings} {workspace projectRoot path : Path} {modelPath : Text}
  {files other : FileSystem}

/-- Two file systems with the same set of application directories, or none that can be listed, find
the same names, perhaps in another order. -/
theorem perm_foundAppDirs
    (sameNames : SameNames (appDirsBelow files settings projectRoot)
      (appDirsBelow other settings projectRoot)) :
    (foundAppDirs files settings projectRoot).Perm (foundAppDirs other settings projectRoot) := by
  unfold foundAppDirs
  cases found : appDirsBelow files settings projectRoot with
  | ok names =>
      cases foundOther : appDirsBelow other settings projectRoot with
      | ok others =>
          rw [found, foundOther] at sameNames
          exact (List.perm_ext_iff_of_nodup (nodup_of_appDirsBelow found)
            (nodup_of_appDirsBelow foundOther)).mpr sameNames
      | error fault =>
          rw [found, foundOther] at sameNames
          contradiction
  | error fault =>
      cases foundOther : appDirsBelow other settings projectRoot with
      | ok others =>
          rw [found, foundOther] at sameNames
          contradiction
      | error otherFault => exact List.Perm.refl []

/-- Below the same root, the same set of names is discovered in the same order. -/
theorem outcome_discoverBelow_congr
    (sameNames : SameNames (appDirsBelow files settings projectRoot)
      (appDirsBelow other settings projectRoot)) :
    (discoverBelow files settings projectRoot).outcome =
      (discoverBelow other settings projectRoot).outcome := by
  by_cases nulFree : projectRoot.NulFree
  · have perm := perm_foundAppDirs sameNames
    rw [outcome_discoverBelow nulFree, outcome_discoverBelow nulFree, perm.isEmpty_eq,
      AppDirs.sort_eq_of_perm perm]
  · rw [outcome_discoverBelow_of_not_nulFree nulFree, outcome_discoverBelow_of_not_nulFree nulFree]

/-- Two file systems answer alike what the search for a model in a workspace asks them. -/
structure Agree
    (settings : Settings)
    (workspace : Path)
    (modelPath : Text)
    (files other : FileSystem) : Prop where
  subproject_iff :
    files.Has (workspace.join settings.subprojectDir) ↔
      other.Has (workspace.join settings.subprojectDir)
  sameNames :
    SameNames (appDirsBelow files settings (rootOf files settings workspace))
      (appDirsBelow other settings (rootOf other settings workspace))
  candidate_iff : ∀ discovery, (discover files settings workspace).outcome = .ok discovery →
    ∀ path ∈ candidates settings discovery.projectRoot discovery.appDirs modelPath,
      (files.Has path ↔ other.Has path)
  readText_iff : ∀ discovery, (discover files settings workspace).outcome = .ok discovery →
    ∀ path, FirstOf files.Has
        (candidates settings discovery.projectRoot discovery.appDirs modelPath) path →
      ∀ text, files.readText path = .ok text ↔ other.readText path = .ok text

namespace Agree

variable (agree : Agree settings workspace modelPath files other)

include agree

theorem rootOf_eq : rootOf files settings workspace = rootOf other settings workspace := by
  simp only [rootOf, agree.subproject_iff]

theorem outcome_discover_eq :
    (discover files settings workspace).outcome = (discover other settings workspace).outcome := by
  have sameNames := agree.sameNames
  rw [← agree.rootOf_eq] at sameNames
  rw [discover, discover, Traced.outcome_bind_of_ok (outcome_root files settings workspace),
    Traced.outcome_bind_of_ok (outcome_root other settings workspace), ← agree.rootOf_eq]
  exact outcome_discoverBelow_congr sameNames

/-- The search ends with the same file. -/
theorem outcome_modelFile_eq :
    (modelFile files settings workspace modelPath).outcome =
      (modelFile other settings workspace modelPath).outcome := by
  unfold modelFile
  apply Traced.outcome_bind_congr agree.outcome_discover_eq
  intro discovery discovered
  rw [outcome_firstExisting, outcome_firstExisting, Except.ok.injEq]
  apply List.find?_congr
  intro path candidate
  exact decide_eq_decide.mpr (agree.candidate_iff discovery discovered path candidate)

/-- The file that the search ends with says the same about a method. -/
theorem outcome_findInFile_eq
    (found : (modelFile files settings workspace modelPath).outcome = .ok (some path))
    (name : Text) :
    (Method.findInFile files settings path name).outcome =
      (Method.findInFile other settings path name).outcome := by
  obtain ⟨discovery, discovered, firstOf_path⟩ := exists_firstOf_of_modelFile found
  exact Method.outcome_findInFile_congr firstOf_path.1.nulFree
    (agree.readText_iff discovery discovered path firstOf_path) settings name

end Agree
end Project
end ModelNav
