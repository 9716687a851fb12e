import ModelNav.Terminal.Literal.Token
import ModelNav.Text.Lines

/-!
# Tokens and their places

A text is cut into tokens from left to right.  Line ends and indentation count outside brackets
only, a backslash joins a line to the next, and brackets have to match.  Where no further token can
be found the cause is kept beside the tokens, because it matters only to a reader who comes that
far, unless it prevails over whatever else is wrong.
-/

namespace ModelNav
namespace Terminal
namespace Literal

/-- A token with the line it begins on, and whether a bracket is open after it. -/
structure Placed where
  token : Token
  line : Nat
  inside : Bool
deriving DecidableEq, Repr

/-- The tokens of a text, and the fault that ends them, if one does.  A bracket that is still open
is kept with its line, and so is whether the end of the text was seen with the last token. -/
structure Tokens where
  placed : Array Placed
  endSeen : Bool
  fault? : Option Fault
  prevails : Bool
  openBracket? : Option (Char × Nat)
deriving Repr

/-- The bracket that closes another. -/
def closingOf : Char → Char
  | '(' => ')'
  | '\x7b' => '\x7d'
  | _ => ']'

/-- The most brackets that may be open. -/
def bracketLimit : Nat := 200

/-- The brackets that are open after a token on a line, the last one first. -/
def openAfter (brackets : List (Char × Nat)) (line : Nat) :
    Token → Except Fault (List (Char × Nat))
  | .mark [bracket] =>
    if bracket = '(' ∨ bracket = '[' ∨ bracket = '\x7b' then
      if brackets.length < bracketLimit then .ok ((bracket, line) :: brackets)
      else .error .tooNested
    else if bracket = ')' ∨ bracket = ']' ∨ bracket = '\x7d' then
      match brackets with
      | [] => .error (.unmatched bracket)
      | (opening, opened) :: others =>
        if closingOf opening = bracket then .ok others
        else
          .error (.mismatched bracket opening (if opened = line then none else some opened))
    else .ok brackets
  | _ => .ok brackets

/-- The width of an indentation, with tab stops at every eighth column and at every column. -/
structure Indentation where
  wide : Nat
  narrow : Nat
deriving DecidableEq, Repr

/-- The indentation at the head of a text, the lines that backslashes join in it, and what follows.
The first backslash after blanks settles the indentation. -/
def indentationOf : (settled : Nat) → Indentation → (joined : Nat) → Text →
    Option (Indentation × Nat × Text)
  | settled, so, joined, '\\' :: '\n' :: rest =>
    indentationOf (if settled = 0 then so.wide else settled) so (joined + 1) rest
  | _, _, _, '\\' :: _ => none
  | settled, so, joined, ' ' :: rest =>
    indentationOf settled ⟨so.wide + 1, so.narrow + 1⟩ joined rest
  | settled, so, joined, '\t' :: rest =>
    indentationOf settled ⟨(so.wide / 8 + 1) * 8, so.narrow + 1⟩ joined rest
  | settled, _, joined, '\x0c' :: rest => indentationOf settled ⟨0, 0⟩ joined rest
  | settled, so, joined, rest =>
    some (if settled = 0 then so else ⟨settled, settled⟩, joined, rest)

/-- The end of a token is known only with the character after it.  A string ends with its quote, and
a mark of three characters goes no further. -/
def Token.needsNext : Token → Bool
  | .string .. => false
  | .mark text => text.length < 3
  | _ => true

/-- How far tokens were found: the line, whether it begins here, the indentations and brackets that
are open, the tokens, the last one first, and whether the end was seen with the last. -/
structure Scan where
  line : Nat := 1
  atStart : Bool := true
  indents : List Indentation := []
  brackets : List (Char × Nat) := []
  found : List Placed := []
  endSeen : Bool := false

namespace Scan

/-- The tokens, which end here. -/
def finish (scan : Scan) (fault? : Option Fault) (prevails : Bool) : Tokens where
  placed := scan.found.reverse.toArray
  endSeen := scan.endSeen
  fault? := fault?
  prevails := prevails
  openBracket? := scan.brackets.head?

/-- The tokens of a text that ends here.  An open bracket stays open. -/
def atEnd (scan : Scan) : Tokens :=
  scan.finish (scan.brackets.head?.map fun bracket => .neverClosed bracket.1) false

/-- One more token. -/
def push (scan : Scan) (token : Token) : Scan :=
  { scan with found := ⟨token, scan.line, scan.brackets != []⟩ :: scan.found }

/-- The indentations that are open at a line with the given one, which has to be one of them or a
further one. -/
def indent? (scan : Scan) (indentation : Indentation) : Option Scan :=
  let current := scan.indents.head?.getD ⟨0, 0⟩
  if current.wide < indentation.wide then
    if current.narrow < indentation.narrow then
      some { scan.push .indent with indents := indentation :: scan.indents }
    else none
  else
    let kept := scan.indents.dropWhile fun indent => indentation.wide < indent.wide
    if kept.head?.getD ⟨0, 0⟩ = indentation then some { scan with indents := kept } else none

end Scan

/-- The tokens of a text.  A step takes at least one character, or begins a line. -/
def scanFrom : (fuel : Nat) → Scan → Text → Tokens
  | 0, scan, _ => scan.atEnd
  | fuel + 1, scan, text =>
    if scan.atStart then
      match indentationOf 0 ⟨0, 0⟩ 0 text with
      | none => scan.finish (some .strayBackslash) false
      | some (indentation, joined, rest) =>
        let scan := { scan with line := scan.line + joined }
        match rest with
        | '#' :: _ | '\n' :: _ =>
          match rest.dropWhile (· != '\n') with
          | [] => scan.atEnd
          | _ :: rest => scanFrom fuel { scan with line := scan.line + 1 } rest
        | _ =>
          let scan := { scan with atStart := false }
          if scan.brackets = [] then
            match scan.indent? indentation with
            | none => scan.finish (some .outdented) false
            | some scan => scanFrom fuel scan rest
          else scanFrom fuel scan rest
    else
      match text with
      | [] => scan.atEnd
      | '\n' :: rest =>
        let ended := if scan.brackets = [] then scan.push .lineEnd else scan
        scanFrom fuel { ended with line := scan.line + 1, atStart := true } rest
      | '\\' :: '\n' :: rest => scanFrom fuel { scan with line := scan.line + 1 } rest
      | '\\' :: _ => scan.finish (some .strayBackslash) false
      | first :: rest =>
        if first = ' ' ∨ first = '\t' ∨ first = '\x0c' then scanFrom fuel scan rest
        else if first = '#' then scanFrom fuel scan (rest.dropWhile (· != '\n'))
        else
          match readToken scan.line text with
          | .error fault => scan.finish (some fault) true
          | .ok (token, after) =>
            match openAfter scan.brackets scan.line token with
            | .error fault => scan.finish (some fault) true
            | .ok brackets =>
              let passed := text.take (text.length - after.length)
              let endSeen := after = [] && token.needsNext
              let scan := { scan with brackets := brackets, endSeen := endSeen }.push token
              scanFrom fuel { scan with line := scan.line + passed.count '\n' } after

/-- The tokens of a text. -/
def tokensOf (text : Text) : Tokens :=
  let text := Text.unifyLineEnds text
  scanFrom (2 * text.length + 2) {} text

end Literal
end Terminal
end ModelNav
