import ModelNav.Text.Digit
import ModelNav.Text.Space

/-!
# Whole numbers

Writing a number in decimal, and reading one leniently.  A plain numeral is a run of ASCII digits
without a leading zero, which a minus sign may precede.  A text that is no plain numeral is cleaned
and read once more: white space around it, a plus sign, leading zeros, a fraction of zeros and
single underscores between other characters are taken away.
-/

namespace ModelNav
namespace Numeral

/-- The most digits that a number may be written with. -/
def digitLimit : Nat := 4300

/-- Why a text is not read as a whole number. -/
inductive Fault where
  | malformed
  | tooLong
deriving DecidableEq, Repr

/-- The number with the given decimal digits, the most significant first. -/
def ofDigits (digits : List Nat) : Nat :=
  digits.foldl (fun value digit => value * 10 + digit) 0

/-- The sign at the head of a text, `true` for minus, and what follows it. -/
def sign : Text → Bool × Text
  | '-' :: rest => (true, rest)
  | '+' :: rest => (false, rest)
  | text => (false, text)

/-- Reads a plain numeral.  A run of digits that is too long is refused whatever follows it. -/
def readPlain (text : Text) : Except Fault Int :=
  let (negative, body) := if text.head? = some '-' then (true, text.drop 1) else (false, text)
  let digits := if body.head? = some '0' then ['0'] else body.takeWhile Char.isDigit
  if digitLimit < digits.length then .error .tooLong
  else if digits = [] ∨ digits.length < body.length then .error .malformed
  else
    let value : Int := ofDigits (digits.filterMap Text.asciiDigit?)
    .ok (if negative then -value else value)

/-- The sign at the head of a text as it is written in a plain numeral, and what follows it.  A
minus sign after a plus sign is refused. -/
def splitSign? : Text → Option (Text × Text)
  | '+' :: '-' :: _ => none
  | '+' :: rest => some ([], rest)
  | '-' :: rest => some (['-'], rest)
  | text => some ([], text)

/-- A character with which the significant part of a numeral begins. -/
def beginsNumeral (character : Char) : Bool :=
  character.isDigit || character == '-'

/-- What is left of a numeral that began with a zero once further zeros and underscores are passed
over; `last` is the character read last, which is kept when no other digit follows. -/
def afterZeros? (last : Char) : Text → Option Text
  | [] => some [last]
  | first :: rest =>
    if first = '0' ∨ first = '_' then afterZeros? first rest
    else if first = '.' then some (last :: first :: rest)
    else if beginsNumeral first then some (first :: rest)
    else none

/-- The numeral without leading zeros; it has to begin with a digit or a minus sign. -/
def dropZeros? : Text → Option Text
  | '0' :: rest => afterZeros? '0' rest
  | first :: rest => if beginsNumeral first then some (first :: rest) else none
  | [] => none

/-- The numeral without a decimal point and the zeros after it. -/
def dropFraction (text : Text) : Text :=
  let fraction := (text.dropWhile (· != '.')).drop 1
  if fraction != [] && fraction.all (· == '0') then text.takeWhile (· != '.') else text

/-- The text has an underscore at an end, or two in a row. -/
def strayUnderscore (text : Text) : Bool :=
  text.head? == some '_' || text.getLast? == some '_' || (Text.indexOf? ['_', '_'] text).isSome

/-- The numeral without its underscores, none of which may be stray. -/
def dropUnderscores (text : Text) : Text :=
  if strayUnderscore text then text else text.filter (· != '_')

/-- The plain numeral that a text stands for once it is cleaned. -/
def clean? (text : Text) : Option Text := do
  let (sign, unsigned) ← splitSign? (Text.trimBy Text.isWhiteSpace text)
  let significant ← dropZeros? unsigned
  return sign ++ dropUnderscores (dropFraction significant)

/-- Reads a whole number.  Only a text that needs no cleaning is refused for its length. -/
def read (text : Text) : Except Fault Int :=
  match readPlain text with
  | .ok value => .ok value
  | .error .tooLong => .error .tooLong
  | .error .malformed =>
    match (clean? text).map readPlain with
    | some (.ok value) => .ok value
    | _ => .error .malformed

/-- A text that stands for a whole number in any script: digits with single underscores between
them, after a sign, with blanks around. -/
def isWhole (text : Text) : Bool :=
  let digits := (sign (Text.trim text)).2
  let isDigit (character : Char) : Bool := (Text.digit? character).isSome
  !strayUnderscore digits && digits.all (fun character => isDigit character || character == '_') &&
    digits.any isDigit && digits.countP isDigit ≤ digitLimit

/-- The decimal digits of a number. -/
def ofNat (value : Nat) : Text :=
  Nat.toDigits 10 value

/-- A whole number in decimal, with a minus sign when it is negative. -/
def ofInt : Int → Text
  | .ofNat value => ofNat value
  | .negSucc value => '-' :: ofNat (value + 1)

end Numeral
end ModelNav
