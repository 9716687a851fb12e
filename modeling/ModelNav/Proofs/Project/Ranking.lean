import Mathlib.Data.Prod.Lex
import Mathlib.Order.Bounds.Basic
import ModelNav.Proofs.Project.Discovery
import ModelNav.Proofs.Text.Pieces

/-!
# The ranks of model files

A file that may hold a model has a rank: the place of its application directory in the order of the
search, and then the way in which its name is written.  The search ends with the existing file of
the least rank, so an earlier application directory is always preferred to a later one.
-/

namespace ModelNav
namespace Project

/-- The ways in which the file of a model may be written below a models directory. -/
inductive Variant where
  | verbatim
  | qualified
  | bare
deriving DecidableEq

namespace Variant

/-- The place of a variant, the best first. -/
def level : Variant → Nat
  | verbatim => 0
  | qualified => 1
  | bare => 2

theorem level_injective : Function.Injective level := by
  intro first second same
  cases first <;> cases second <;> first | rfl | cases same

instance : LinearOrder Variant := LinearOrder.lift' level level_injective

end Variant

/-- The directory and the name of a model path are its two sides of the last slash; without a slash
the directory is empty. -/
def CutsInto (modelPath directory name : Text) : Prop :=
  '/' ∉ name ∧ (modelPath = directory ++ '/' :: name ∨ directory = [] ∧ modelPath = name)

/-- The path at which a variant of a model's file stands below a models directory. -/
inductive Variant.Writes
    (settings : Settings)
    (models : Path)
    (modelPath : Text) :
    Variant → Path → Prop where
  | verbatim :
      Writes settings models modelPath .verbatim
        (models.join (modelPath ++ settings.fileExtension))
  | qualified
      {directory name : Text}
      (cuts : CutsInto modelPath directory name)
      (nested : directory ≠ []) :
      Writes settings models modelPath .qualified
        ((models.join directory).join (Convention.fileName name settings.fileExtension))
  | bare
      {directory name : Text}
      (cuts : CutsInto modelPath directory name) :
      Writes settings models modelPath .bare
        (models.join (Convention.fileName name settings.fileExtension))

variable {settings : Settings} {models : Path} {modelPath : Text}

/-! ## Candidates with their ranks -/

variable {discovery : Discovery}

variable {files : FileSystem} {workspace : Path}

namespace Sample

end Sample

end Project
end ModelNav
