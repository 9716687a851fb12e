import ModelNav.Text.Upper

/-!
# File names by convention

The file of a model is named after the model, with the first letter of every part between
underscores in upper case.
-/

namespace ModelNav
namespace Convention

/-- The text with its first character in upper case and the rest as it is. -/
def capitalize : Text → Text
  | [] => []
  | first :: rest => Text.upper first ++ rest

/-- The identifier with every part between underscores capitalized. -/
def stem (identifier : Text) : Text :=
  Text.join ['_'] ((Text.splitOn '_' identifier).map capitalize)

/-- The conventional file name of a model. -/
def fileName (identifier extension : Text) : Text :=
  stem identifier ++ extension

@[simp]
theorem capitalize_nil : capitalize [] = [] := rfl

@[simp]
theorem capitalize_cons (first : Char) (rest : Text) :
    capitalize (first :: rest) = Text.upper first ++ rest := rfl

end Convention
end ModelNav
