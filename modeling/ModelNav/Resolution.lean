import ModelNav.Call
import ModelNav.Document
import ModelNav.Method.Search
import ModelNav.Project.Candidates

/-!
# Resolution

A position in a document is resolved to the definition of the model method that is called on its
line: the call names a variable, the document loads the model of that variable, the first workspace
folder holds the model's file, and the file defines the method.  When a link is missing there is no
answer.
-/

namespace ModelNav

/-- The file and the place where the called method is defined. -/
structure Resolution where
  modelFile : Path
  method : Method
  methodName : Text
deriving DecidableEq, Repr

/-- The place to jump to. -/
structure Target where
  path : Path
  line : Nat
  character : Nat
deriving DecidableEq, Repr

namespace Resolution

/-- Resolves a call on a model that is loaded, in a workspace. -/
def ofLoad
    (files : FileSystem)
    (settings : Settings)
    (workspace : Path)
    (load : Load)
    (methodName : Text) :
    Traced (Option Resolution) := do
  match ← Project.modelFile files settings workspace load.conventionPath with
  | none =>
    Traced.tell (.noModelFile load.rawPath)
    return none
  | some modelFile =>
    match ← Method.findInFile files settings modelFile methodName with
    | none => return none
    | some method => return if method.isEmpty then none else some ⟨modelFile, method, methodName⟩

/-- Resolves the model call on the line of a position.  Only the first workspace folder counts. -/
def resolve
    (files : FileSystem)
    (settings : Settings)
    (document : Document)
    (position : Position)
    (folders : List Path) :
    Traced (Option Resolution) :=
  if (document.wordAt? position).isNone then pure none
  else
    match folders with
    | [] => do
      Traced.tell .noFolder
      return none
    | workspace :: _ =>
      match Call.find? (document.lineAt position.line) with
      | none => pure none
      | some call =>
        match Load.find? (Load.parse document.text) call.variableName with
        | none => do
          Traced.tell (.noLoad call.variableName)
          return none
        | some load => ofLoad files settings workspace load call.methodName

/-- The place that a resolution jumps to. -/
def target (resolution : Resolution) : Target where
  path := resolution.modelFile
  line := resolution.method.line
  character := resolution.method.character

end Resolution
end ModelNav
