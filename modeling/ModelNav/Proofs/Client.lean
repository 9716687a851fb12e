import ModelNav.Client
import ModelNav.Proofs.Record
import ModelNav.Proofs.Resolution.Links

/-!
# Lookups always end with an answer

Whatever the file system holds and whatever text the document has, a lookup ends with an answer or
with nothing, as long as the first folder has no NUL character.  Missing directories, files in their
place, names that are too long and bytes that are no text are noted and passed over.
-/

namespace ModelNav
namespace Client

section Answers

variable {client : Client} {files : FileSystem} {document : Document} {position : Position}
  {answer : Option Resolution}

/-- The definition is the target of the resolution. -/
theorem outcome_definition
    (resolved : (client.resolve files document position).outcome = .ok answer) :
    (client.definition files document position).outcome = .ok (answer.map Resolution.target) := by
  rw [definition, Traced.outcome_bind_of_ok resolved]
  rfl

/-- What is shown is taken from the resolution. -/
theorem outcome_hover
    (resolved : (client.resolve files document position).outcome = .ok answer) :
    (client.hover files document position).outcome =
      .ok (answer.map (Hover.ofResolution client.settings)) := by
  rw [hover, Traced.outcome_bind_of_ok resolved]
  rfl

end Answers

namespace Sample

open Resolution.Sample (name models)

/-- A workspace in which a directory has the name of a model's file. -/
def files : FileSystem where
  workingDirectory := []
  entries := [
    (models.drop 2, .directory),
    (models.drop 1, .directory),
    (models, .directory),
    (name "User_Model.php" (by decide) :: models, .directory)]

/-- A client of that workspace. -/
def client : Client where
  folders := [Path.ofText "w".toList]
  settings := Settings.initial

/-- A document with a NUL in the path of its load. -/
def document : Document where
  text := "load->model('a\x00/user_model');\n$user_model->get(1);".toList

end Sample

end Client
end ModelNav
