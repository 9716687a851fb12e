import ModelNav.Text.Lines
import ModelNav.Traced

/-!
# Documents

A document is a text with the path it was read from, if any.  A position is a line and a column,
both counted from zero.
-/

namespace ModelNav

/-- A place in a document, counted from zero. -/
structure Position where
  line : Nat
  character : Nat
deriving DecidableEq, Repr

/-- A text with the path it belongs to. -/
structure Document where
  text : Text
  path : Option Path := none

namespace Document

/-- The lines of a document. -/
def lines (document : Document) : List Text :=
  document.text.lines

/-- The text of a line; a line outside the document is empty. -/
def lineAt (document : Document) : Int → Text
  | .ofNat line => document.lines.getD line []
  | .negSucc _ => []

/-- A character of the words that a cursor can be on. -/
def isIdentifier (character : Char) : Bool :=
  character.isAlphanum || character == '_' || character == '$'

/-- The first and last column of the word that touches a column of a line.  A cursor right after the
last character of a word is on that word. -/
def wordRange? (line : Text) (column : Nat) : Option (Nat × Nat) :=
  let before := (line.take column).reverse.takeWhile isIdentifier
  let after := (line.drop column).takeWhile isIdentifier
  if line.length < column ∨ (before = [] ∧ after = []) then none
  else some (column - before.length, column + after.length)

/-- The columns of the word that touches a position. -/
def wordAt? (document : Document) (position : Position) : Option (Nat × Nat) :=
  wordRange? (document.lineAt position.line) position.character

/-- A short description of a document: its path and the number of its lines. -/
def describe (document : Document) : Text :=
  let place :=
    match document.path with
    | none => "None".toList
    | some path => "PosixPath(".toList ++ path.toText.quoted ++ [')']
  "SourceDocument(path=".toList ++ place ++ s!", lines={document.lines.length})".toList

/-- Reads a document from a file. -/
def load (files : FileSystem) (path : Path) : Traced Document :=
  match files.readText path with
  | .ok text => pure ⟨text, some path⟩
  | .error (.access .nulInPath) => Traced.fail (.access .nulInPath)
  | .error fault => do
    Traced.tell (.unreadDocument path fault)
    Traced.fail (.unreadableDocument path fault)

end Document
end ModelNav
