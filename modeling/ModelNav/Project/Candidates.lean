import ModelNav.Load
import ModelNav.Project.Discovery

/-!
# Model files

The file of a model is looked for in every application directory in turn: at the path as it is
written, then under the conventional file name in the directory of that path, then under the
conventional file name right in the models directory.
-/

namespace ModelNav
namespace Project

/-- The directory that holds the models of an application directory. -/
def modelsRoot (settings : Settings) (projectRoot : Path) (appDir : Text) : Path :=
  (projectRoot.join appDir).join settings.modelsDir

/-- The conventional file name of the model that a logical path names. -/
def conventionFile (settings : Settings) (modelPath : Text) : Text :=
  Convention.fileName (Load.splitPath modelPath).2 settings.fileExtension

/-- The files that may hold a model in one models directory, the best first. -/
def variants (settings : Settings) (models : Path) (modelPath : Text) : List Path :=
  let directory := (Load.splitPath modelPath).1
  let file := conventionFile settings modelPath
  let verbatim := models.join (modelPath ++ settings.fileExtension)
  let bare := models.join file
  if directory = [] then [verbatim, bare]
  else [verbatim, (models.join directory).join file, bare]

/-- The files that may hold a model, the best first. -/
def candidates
    (settings : Settings)
    (projectRoot : Path)
    (appDirs : List Text)
    (modelPath : Text) :
    List Path :=
  appDirs.flatMap fun appDir => variants settings (modelsRoot settings projectRoot appDir) modelPath

/-- The first path that leads somewhere. -/
def firstExisting (files : FileSystem) : List Path → Traced (Option Path)
  | [] => pure none
  | path :: others => do
    if ← reachable files path then return some path else firstExisting files others

/-- The file of a model. -/
def modelFile
    (files : FileSystem)
    (settings : Settings)
    (workspace : Path)
    (modelPath : Text) :
    Traced (Option Path) := do
  let discovery ← discover files settings workspace
  firstExisting files (candidates settings discovery.projectRoot discovery.appDirs modelPath)

end Project
end ModelNav
