import ModelNav.Convention
import ModelNav.Text.Space

/-!
# Load statements

A controller loads a model with a statement such as `$this->load->model('common/user_model')`.  The
statements of a text are found from left to right; they do not overlap.
-/

namespace ModelNav

/-- A load statement: the path as written, the path with the model's name capitalized, and the name,
by which calls refer to the model. -/
structure Load where
  rawPath : Text
  conventionPath : Text
  modelName : Text
deriving DecidableEq, Repr

namespace Load

/-- The words that a load statement begins with. -/
def keyword : Text := "load->model".toList

/-- A quote that may open or close the path of a load statement. -/
def isQuote (character : Char) : Bool :=
  character == '\'' || character == '"'

/-- The directory and the name of a logical path; without a slash the directory is empty. -/
def splitPath (path : Text) : Text × Text :=
  (path.splitAtLast? '/').getD ([], path)

/-- The logical path with the first letter of its last part in upper case. -/
def conventionOf (path : Text) : Text :=
  match path.splitAtLast? '/' with
  | some (directory, name) => directory ++ '/' :: Convention.capitalize name
  | none => Convention.capitalize path

/-- The load of a logical path. -/
def ofPath (path : Text) : Load where
  rawPath := path
  conventionPath := conventionOf path
  modelName := (splitPath path).2

/-- Reads the load statement at the head of a text: its path and its length. -/
def statement? (text : Text) : Option (Text × Nat) := do
  let named ← Text.after? keyword text
  let opened ← Text.after? ['('] (named.dropWhile Text.isSpace)
  match opened.dropWhile Text.isSpace with
  | [] => none
  | mark :: body =>
    let path := body.takeWhile (!isQuote ·)
    let closed := (body.drop path.length).drop 1
    let rest ← Text.after? [')'] (closed.dropWhile Text.isSpace)
    if isQuote mark && path != [] && path.length < body.length then
      some (path, text.length - rest.length)
    else none

/-- The paths of the load statements of a text, after `skip` characters of a statement that was read
already. -/
def pathsFrom : (skip : Nat) → Text → List Text
  | _, [] => []
  | skip + 1, _ :: rest => pathsFrom skip rest
  | 0, first :: rest =>
    match statement? (first :: rest) with
    | some (path, length) => path :: pathsFrom (length - 1) rest
    | none => pathsFrom 0 rest

/-- The load statements of a text, in their order. -/
def parse (text : Text) : List Load :=
  (pathsFrom 0 text).map ofPath

/-- The first load of a model. -/
def find? (loads : List Load) (modelName : Text) : Option Load :=
  List.find? (·.modelName == modelName) loads

@[simp]
theorem pathsFrom_nil (skip : Nat) : pathsFrom skip [] = [] := by
  cases skip <;> rfl

@[simp]
theorem rawPath_ofPath (path : Text) : (ofPath path).rawPath = path := rfl

end Load
end ModelNav
