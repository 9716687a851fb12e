import ModelNav.Text.Word

/-!
# Model calls

A model call is a variable whose name ends in `_model` or `_vo`, an arrow and a method name, each
name a whole run of word characters.
-/

namespace ModelNav

/-- A call of a method on a model variable. -/
structure Call where
  variableName : Text
  methodName : Text
deriving DecidableEq, Repr

namespace Call

/-- The endings of the names of model variables. -/
def variableEndings : List Text :=
  ["_model".toList, "_vo".toList]

/-- A name that ends as a model variable does and has something before that ending. -/
def isVariable (name : Text) : Bool :=
  variableEndings.any fun ending => name.endsWith ending && ending.length < name.length

/-- The method name after an arrow at the head of a text. -/
def method? (text : Text) : Option Text :=
  match text with
  | '-' :: '>' :: rest =>
    let name := rest.takeWhile Text.isWord
    if name = [] then none else some name
  | _ => none

/-- The first call of a text that the given word characters, the last one first, stand before. -/
def findFrom? : (run : Text) → Text → Option Call
  | _, [] => none
  | run, first :: rest =>
    if Text.isWord first then findFrom? (first :: run) rest
    else if isVariable run.reverse then
      match method? (first :: rest) with
      | some name => some ⟨run.reverse, name⟩
      | none => findFrom? [] rest
    else findFrom? [] rest

/-- The first call on a line. -/
def find? (line : Text) : Option Call :=
  findFrom? [] line

end Call
end ModelNav
