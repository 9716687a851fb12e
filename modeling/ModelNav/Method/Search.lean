import ModelNav.Method.Comment
import ModelNav.Method.Declaration
import ModelNav.Text.CaseFold
import ModelNav.Traced

/-!
# Looking up a method

A line defines a method when it has the word `function`, blanks, the name of the method and an
opening parenthesis, letters compared regardless of case.  The first line that does is the place of
the method.
-/

namespace ModelNav

/-- A method: where it is defined, its comment and its declaration. -/
structure Method where
  line : Nat := 0
  character : Nat := 0
  comment : Text := []
  declaration : Text := []
deriving DecidableEq, Repr

namespace Method

/-- What is reported of a file that cannot be read. -/
def empty : Method := {}

/-- Nothing is known of the method. -/
def isEmpty (method : Method) : Bool :=
  method.line == 0 && method.character == 0 && method.comment == [] && method.declaration == []

/-- The word that a definition begins with. -/
def keyword : Text := "function".toList

/-- The text begins with a name and an opening parenthesis, blanks between them allowed. -/
def opensParameters (name text : Text) : Bool :=
  match Text.afterFolded? name text with
  | some rest => (rest.dropWhile Text.isSpace).head? == some '('
  | none => false

/-- The text begins with at least one blank, and with the opening of the parameters after some of
its blanks. -/
def namedAfterBlanks (name : Text) : Text → Bool
  | [] => false
  | first :: rest => Text.isSpace first && (opensParameters name rest || namedAfterBlanks name rest)

/-- The text begins with the definition of a method. -/
def definitionAtHead (name text : Text) : Bool :=
  match Text.afterFolded? keyword text with
  | some rest => namedAfterBlanks name rest
  | none => false

/-- The line defines a method. -/
def isDefinition (name : Text) : Text → Bool
  | [] => definitionAtHead name []
  | first :: rest => definitionAtHead name (first :: rest) || isDefinition name rest

/-- The method that a line of the list defines. -/
def definedAt (lines : List Text) (name : Text) (extra : Int) (index : Nat) (line : Text) :
    Method where
  line := index
  character := (Text.indexOf? name line).getD 0
  comment := Comment.above lines index
  declaration := Declaration.startingAt lines index extra

/-- The first definition of a method. -/
def findIn? (lines : List Text) (name : Text) (extra : Int) : Option Method := do
  let index ← lines.findIdx? (isDefinition name)
  let line ← lines[index]?
  return definedAt lines name extra index line

/-- The first definition of a method in a file.  Of a file that cannot be read nothing is known. -/
def findInFile
    (files : FileSystem)
    (settings : Settings)
    (path : Path)
    (name : Text) :
    Traced (Option Method) :=
  match files.readText path with
  | .ok text => pure (findIn? text.lines name settings.declarationLineLimit)
  | .error (.access .nulInPath) => Traced.fail (.access .nulInPath)
  | .error fault => do
    Traced.tell (.unreadModelFile path fault)
    return some Method.empty

end Method
end ModelNav
