import ModelNav.Text.Basic

/-!
# Lines

A text given as such is cut at every line feed, together with one carriage return right before it.
A text read from a file first has its line ends unified: a carriage return, alone or with the line
feed that follows it, becomes a line feed.
-/

namespace ModelNav
namespace Text

/-- The lines of a text: pieces between line ends, a line end being a line feed with an optional
carriage return before it. -/
def lines : Text → List Text
  | [] => [[]]
  | '\n' :: rest => [] :: lines rest
  | '\r' :: '\n' :: rest => [] :: lines rest
  | first :: rest =>
    match lines rest with
    | [] => [[first]]
    | line :: others => (first :: line) :: others

/-- The text with every line end written as a line feed. -/
def unifyLineEnds : Text → Text
  | [] => []
  | '\r' :: '\n' :: rest => '\n' :: unifyLineEnds rest
  | '\r' :: rest => '\n' :: unifyLineEnds rest
  | first :: rest => first :: unifyLineEnds rest

@[simp]
theorem lines_nil : lines [] = [[]] := rfl

@[simp]
theorem unifyLineEnds_nil : unifyLineEnds [] = [] := rfl

/-- A text has at least one line. -/
theorem lines_ne_nil (text : Text) : lines text ≠ [] := by
  fun_cases lines text <;> simp

end Text
end ModelNav
