import ModelNav.Failure
import ModelNav.Text.Space

/-!
# Declarations

The declaration of a method is its header up to the opening brace, put on one line.  Only a limited
number of lines is read; what was gathered by then is the declaration.
-/

namespace ModelNav
namespace Declaration

/-- The line, once trimmed, begins with an opening brace. -/
def opensBody (line : Text) : Bool :=
  line.trim.startsWith ['{']

/-- The trimmed lines of a header from its first line on, at most `count` of them.  The header ends
with the line that has a closing parenthesis and an opening brace; the brace may also begin the next
line, and is then added alone. -/
def gather : (count : Nat) → List Text → List Text
  | 0, _ => []
  | _, [] => []
  | count + 1, line :: rest =>
    let shown := line.trim
    if !shown.contains ')' then shown :: gather count rest
    else if shown.contains '{' then [shown]
    else if rest.head?.any opensBody then [shown, ['{']]
    else shown :: gather count rest

/-- The lines from an index on.  An index below zero counts from the end, and the lines from the
beginning follow the last one. -/
def linesFrom (lines : List Text) (start : Int) : List Text :=
  match start with
  | .ofNat start => lines.drop start
  | .negSucc start => lines.drop (lines.length - (start + 1)) ++ lines

/-- The declaration that starts at a line, read over at most `extra` further lines. -/
def startingAt (lines : List Text) (start : Int) (extra : Int) : Text :=
  Text.join [' '] (gather (extra + 1).toNat (linesFrom lines start))

/-- The declaration that starts at a line of any number; an index too far below zero names no
line. -/
def extract (lines : List Text) (start extra : Int) : Except Failure Text :=
  if 0 ≤ extra ∧ start < -(lines.length : Int) then .error (.ofIndex start)
  else .ok (startingAt lines start extra)

/-- The number of further lines that are read when no limit is given. -/
def defaultExtra : Int := 10

end Declaration
end ModelNav
