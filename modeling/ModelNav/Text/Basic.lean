/-!
# Text as code points

Every text the program reads or writes is a list of Unicode code points, so a column, a length and
an offset all count elements of a list.  This module holds the few operations on such lists that
the standard library does not name: cutting at a separator, joining, and finding a piece.
-/

namespace ModelNav

/-- Text is a list of Unicode code points. -/
abbrev Text := List Char

namespace Text

/-- The text begins with the given piece. -/
def startsWith (text piece : Text) : Bool :=
  piece.isPrefixOf text

/-- The text ends with the given piece. -/
def endsWith (text piece : Text) : Bool :=
  piece.isSuffixOf text

/-- What follows the given piece at the head of a text, when the text begins with it. -/
def after? : (piece text : Text) → Option Text
  | [], text => some text
  | _ :: _, [] => none
  | expected :: piece, found :: text => if expected = found then after? piece text else none

/-- The offset of the first occurrence of a piece in a text. -/
def indexOf? (piece : Text) : Text → Option Nat
  | [] => if piece = [] then some 0 else none
  | first :: rest =>
    if startsWith (first :: rest) piece then some 0
    else (indexOf? piece rest).map (· + 1)

/-- The pieces of a text between the occurrences of a separator, empty pieces kept. -/
def splitOn (separator : Char) : Text → List Text
  | [] => [[]]
  | first :: rest =>
    if first = separator then [] :: splitOn separator rest
    else
      match splitOn separator rest with
      | [] => [[first]]
      | piece :: pieces => (first :: piece) :: pieces

/-- The two sides of the last occurrence of a separator, when there is one. -/
def splitAtLast? (separator : Char) : Text → Option (Text × Text)
  | [] => none
  | first :: rest =>
    match splitAtLast? separator rest with
    | some (before, after) => some (first :: before, after)
    | none => if first = separator then some ([], rest) else none

/-- The first text comes no later than the second by the code points of their characters. -/
def inOrder : Text → Text → Bool
  | [], _ => true
  | _ :: _, [] => false
  | first :: rest, second :: others =>
    first.toNat < second.toNat || (first == second && inOrder rest others)

/-- The pieces one after the other, with a separator between neighbours. -/
def join (separator : Text) (pieces : List Text) : Text :=
  separator.intercalate pieces

@[simp]
theorem splitOn_nil (separator : Char) : splitOn separator [] = [[]] := rfl

@[simp]
theorem splitAtLast?_nil (separator : Char) : splitAtLast? separator [] = none := rfl

@[simp]
theorem join_nil (separator : Text) : join separator [] = [] := rfl

@[simp]
theorem join_singleton (separator piece : Text) : join separator [piece] = piece := by
  simp [join, List.intercalate]

end Text
end ModelNav
