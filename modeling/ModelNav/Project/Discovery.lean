import ModelNav.Project.AppDirs
import ModelNav.Traced

/-!
# Project roots

A workspace is the project itself or holds it in a subproject directory.  The application
directories are the directories right below the project root whose names begin in a certain way;
when there are none, the default ones are searched.
-/

namespace ModelNav

/-- The project root and the directories below it, in the order in which they are searched. -/
structure Discovery where
  projectRoot : Path
  appDirs : List Text
  usedDefaults : Bool
deriving DecidableEq, Repr

namespace Project

/-- The path leads somewhere; a path that cannot be checked is noted and counts as missing. -/
def reachable (files : FileSystem) (path : Path) : Traced Bool :=
  match files.exists? path with
  | .ok found => pure found
  | .error fault => do
    Traced.tell (.uncheckedPath path fault)
    return false

/-- The subproject directory of a workspace when there is one, else the workspace. -/
def root (files : FileSystem) (settings : Settings) (workspace : Path) : Traced Path := do
  let subproject := workspace.join settings.subprojectDir
  return if ← reachable files subproject then subproject else workspace

/-- The names of the application directories below a project root, in the order of the listing. -/
def appDirsBelow
    (files : FileSystem)
    (settings : Settings)
    (projectRoot : Path) :
    Except AccessFault (List Text) := do
  let names ← files.list projectRoot
  names.filterM fun name => do
    let isDirectory ← files.isDirectory? (projectRoot.child name)
    return isDirectory && name.startsWith settings.appPrefix

/-- The application directories of a project root, or the default ones when none are found. -/
def discoverBelow (files : FileSystem) (settings : Settings) (projectRoot : Path) :
    Traced Discovery := do
  let names ←
    match appDirsBelow files settings projectRoot with
    | .ok names => pure names
    | .error .nulInPath => Traced.fail (.access .nulInPath)
    | .error fault => do
      Traced.tell (.unlistedRoot projectRoot fault)
      pure []
  if names.isEmpty then
    Traced.tell (.noAppDirs projectRoot)
    return ⟨projectRoot, settings.defaultAppDirs, true⟩
  else
    let appDirs ← Traced.ofExcept (AppDirs.collate settings.commonAppDir names)
    return ⟨projectRoot, appDirs, false⟩

/-- The project root of a workspace and its application directories. -/
def discover (files : FileSystem) (settings : Settings) (workspace : Path) : Traced Discovery := do
  discoverBelow files settings (← root files settings workspace)

end Project
end ModelNav
