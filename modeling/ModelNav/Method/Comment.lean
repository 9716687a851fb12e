import ModelNav.Failure
import ModelNav.Text.Space

/-!
# Documentation comments

The comment of a method stands right above it; blank lines in between do not count.  It is a block
comment, which reaches up to the nearest line that opens one, or a run of line comments that begin
with the same mark.
-/

namespace ModelNav
namespace Comment

/-- What opens a block comment. -/
def blockOpening : Text := ['/', '*']

/-- What closes a block comment. -/
def blockClosing : Text := ['*', '/']

/-- The marks that line comments begin with. -/
def lineMarks : List Text := [['/', '/'], ['#']]

/-- The line opens a block comment. -/
def opensBlock (line : Text) : Bool :=
  line.startsWith blockOpening

/-- The line closes a block comment. -/
def closesBlock (line : Text) : Bool :=
  line.endsWith blockClosing

/-- The line without the mark that opens a block, with or without a second star. -/
def dropOpening : Text → Text
  | '/' :: '*' :: '*' :: rest => rest
  | '/' :: '*' :: rest => rest
  | line => line

/-- The line without the mark that closes a block at its end; a line feed may follow the mark. -/
def dropClosing : Text → Text
  | [] => []
  | ['*', '/'] => []
  | ['*', '/', '\n'] => ['\n']
  | first :: rest => first :: dropClosing rest

/-- The line without the star that decorates it, together with the blanks before that star. -/
def dropDecoration (line : Text) : Text :=
  match line.dropWhile Text.isSpace with
  | '*' :: rest => rest
  | _ => line

/-- The words of a line of a block comment. -/
def cleanLine (line : Text) : Text :=
  (dropDecoration (dropClosing (dropOpening line))).trim

/-- The lines up to and including the first one that satisfies a condition. -/
def upTo (holds : Text → Bool) : List Text → List Text
  | [] => []
  | line :: rest => if holds line then [line] else line :: upTo holds rest

/-- The words of the block comment that ends with the first of the given lines, which are trimmed
and listed upwards. -/
def blockWords (upwards : List Text) : List Text :=
  ((upTo opensBlock upwards).reverse.map cleanLine).filter (· != [])

/-- The words of the line comments with the given mark that end with the first of the given lines,
which are trimmed and listed upwards. -/
def lineWords (mark : Text) (upwards : List Text) : List Text :=
  (upwards.takeWhile fun line => Text.startsWith line mark).reverse.map fun line =>
    Text.trim (line.drop mark.length)

/-- The lines of the comment above a method; the lines above the method are listed upwards. -/
def wordsAbove (upwards : List Text) : List Text :=
  match (upwards.map Text.trim).dropWhile (· == []) with
  | [] => []
  | nearest :: further =>
    if closesBlock nearest then blockWords (nearest :: further)
    else
      match lineMarks.find? fun mark => Text.startsWith nearest mark with
      | some mark => lineWords mark (nearest :: further)
      | none => []

/-- The comment above a method on a line that the list has or that follows it directly. -/
def above (lines : List Text) (methodLine : Nat) : Text :=
  Text.join ['\n'] (wordsAbove (lines.take methodLine).reverse)

/-- The comment above a line of any number; a line beyond the end has nothing above it to read. -/
def extract (lines : List Text) (methodLine : Int) : Except Failure Text :=
  if (lines.length : Int) < methodLine then .error (.ofIndex (methodLine - 1))
  else .ok (above lines methodLine.toNat)

end Comment
end ModelNav
