import ModelNav.Terminal.Literal.Escape
import ModelNav.Text.Digit
import ModelNav.Text.Name
import ModelNav.Text.Numeral

/-!
# Tokens of literals

The arguments of a handler are written as literals: numbers, strings, names and marks.  This module
reads the token at the head of a text, a token beginning at each character that is no blank.
-/

namespace ModelNav
namespace Terminal
namespace Literal

/-- A number as far as its value counts: a whole number may be too large for a fraction, or have
too many digits. -/
inductive Number where
  | whole (beyondFloat : Bool)
  | overlong (digits : Nat)
  | fraction
  | imaginary
deriving DecidableEq, Repr

/-- A token: a number, a string with the letters before it, a name, a mark, the end of a line, or
the indentation of the next one. -/
inductive Token where
  | number (value : Number)
  | string (letters content : Text)
  | name (word : Text)
  | mark (text : Text)
  | lineEnd
  | indent
deriving DecidableEq, Repr

/-- A character that a name may hold, as far as it is seen at once. -/
def inName (character : Char) : Bool :=
  character.isAlphanum || character == '_' || 0x80 ≤ character.toNat

/-- The words that may follow a number directly. -/
def wordsAfterNumber : List Text :=
  ["and", "else", "for", "or", "not"].map String.toList

/-- The beginnings of words that may follow a number directly. -/
def beginningsAfterNumber : List Text :=
  ["if", "in", "is"].map String.toList

/-- What follows a number has to be something else. -/
def endNumber (kind : String) (rest : Text) : Except Fault Text :=
  if wordsAfterNumber.contains (rest.takeWhile inName) ||
      beginningsAfterNumber.contains (rest.take 2) || !rest.head?.any inName then .ok rest
  else .error (.malformedNumber kind)

/-- What follows a run of digits, between which single underscores may stand. -/
def skipDigits (kind : String) (isDigit : Char → Bool) : Text → Except Fault Text
  | [] => .ok []
  | first :: rest =>
    if isDigit first then skipDigits kind isDigit rest
    else if first = '_' then
      if rest.head?.any isDigit then skipDigits kind isDigit rest
      else .error (.malformedNumber kind)
    else .ok (first :: rest)

/-- What follows the digits of a number that is not decimal. -/
def skipRadix (kind : String) (isDigit : Char → Bool) (text : Text) : Except Fault Text := do
  let digits := if text.head? = some '_' then text.drop 1 else text
  let check (rest : Text) : Except Fault Unit :=
    match rest with
    | digit :: _ => if digit.isDigit then .error (.strangeDigit digit kind) else .ok ()
    | [] => .ok ()
  if digits.head?.any isDigit then
    let rest ← skipDigits kind isDigit digits
    check rest
    endNumber kind rest
  else
    check digits
    throw (.malformedNumber kind)

/-- What follows an exponent, if there is one. -/
def skipExponent (text : Text) : Except Fault Text :=
  match text with
  | mark :: rest =>
    if mark = 'e' ∨ mark = 'E' then
      match rest with
      | sign :: digits =>
        if sign.isDigit then skipDigits "decimal" Char.isDigit rest
        else if sign = '+' ∨ sign = '-' then
          if digits.head?.any Char.isDigit then skipDigits "decimal" Char.isDigit digits
          else .error (.malformedNumber "decimal")
        else endNumber "decimal" text
      | [] => endNumber "decimal" text
    else .ok text
  | [] => .ok []

/-- The least whole number that rounds to no fraction. -/
def fractionLimit : Nat :=
  Nat.shiftLeft 1 1024 - Nat.shiftLeft 1 970

/-- The whole number that is written with digits in a radix; underscores do not count. -/
def wholeNumber (radix : Nat) (written : Text) : Number :=
  let digits := written.filter (· != '_')
  let isDecimal := radix = 10
  if isDecimal ∧ Numeral.digitLimit < digits.length ∧ digits.any (· != '0') then
    .overlong digits.length
  else
    let value := digits.foldl (fun value digit => value * radix + digitValue digit) 0
    .whole (fractionLimit ≤ value)

/-- Reads a decimal number. -/
def readDecimal (text : Text) : Except Fault (Token × Text) := do
  let afterWhole ← skipDigits "decimal" Char.isDigit text
  let whole := text.take (text.length - afterWhole.length)
  let afterFraction ←
    match afterWhole with
    | '.' :: rest =>
      if rest.head?.any Char.isDigit then skipDigits "decimal" Char.isDigit rest else .ok rest
    | _ => .ok afterWhole
  let afterExponent ← skipExponent afterFraction
  match afterExponent with
  | mark :: rest =>
    if mark = 'j' ∨ mark = 'J' then return (.number .imaginary, ← endNumber "imaginary" rest)
  | [] => pure ()
  let isWhole := afterExponent.length = afterWhole.length
  let hasLeadingZero :=
    whole.head? = some '0' && whole.any fun digit => digit != '0' && digit != '_'
  let mayHaveExponent := afterWhole.head?.any fun mark => mark == 'e' || mark == 'E'
  if isWhole ∧ hasLeadingZero ∧ !mayHaveExponent then
    throw .leadingZeros
  let rest ← endNumber "decimal" afterExponent
  let value := if isWhole ∧ !hasLeadingZero then wholeNumber 10 whole else .fraction
  return (.number value, rest)

/-- Reads a number. -/
def readNumber (text : Text) : Except Fault (Token × Text) :=
  let inRadix (kind : String) (radix : Nat) (isDigit : Char → Bool) (rest : Text) :=
    (skipRadix kind isDigit rest).map fun after =>
      (Token.number (wholeNumber radix (rest.take (rest.length - after.length))), after)
  match text with
  | '0' :: mark :: rest =>
    if mark = 'x' ∨ mark = 'X' then inRadix "hexadecimal" 16 isHexDigit rest
    else if mark = 'o' ∨ mark = 'O' then
      inRadix "octal" 8 (fun digit => '0' ≤ digit && digit ≤ '7') rest
    else if mark = 'b' ∨ mark = 'B' then
      inRadix "binary" 2 (fun digit => digit == '0' || digit == '1') rest
    else readDecimal text
  | _ => readDecimal text

/-- The content of a string and what follows it; a backslash takes the next character along.  Gives
the lines that were ended when the string is not closed. -/
def untilClosed (quotes : Text) : (skip ended : Nat) → Text → Except Nat (Text × Text)
  | _, ended, [] => .error ended
  | skip + 1, ended, first :: rest => do
    let (content, after) ← untilClosed quotes skip (ended + if first = '\n' then 1 else 0) rest
    return (first :: content, after)
  | 0, ended, first :: rest =>
    if Text.startsWith (first :: rest) quotes then .ok ([], (first :: rest).drop quotes.length)
    else if first = '\n' ∧ quotes.length = 1 then .error ended
    else do
      let skip := if first = '\\' then 1 else 0
      let (content, after) ← untilClosed quotes skip (ended + if first = '\n' then 1 else 0) rest
      return (first :: content, after)

/-- Reads a string after the letters before its quotes. -/
def readString (line : Nat) (letters text : Text) : Except Fault (Token × Text) :=
  let quote := text.head?.getD '"'
  let quotes := if text.startsWith [quote, quote, quote] then [quote, quote, quote] else [quote]
  match untilClosed quotes 0 0 (text.drop quotes.length) with
  | .error ended => .error (.unterminated (quotes.length = 3) (line + ended))
  | .ok (content, after) => .ok (.string letters content, after)

/-- The letters that may stand before a string. -/
def stringLetters : List Text :=
  ["", "r", "u", "b", "f", "br", "rb", "fr", "rf"].map String.toList

/-- The fault of a character that has no place. -/
def outOfPlace (character : Char) : Fault :=
  if Text.isPrintable character then .strangeCharacter character else .hiddenCharacter character

/-- The first character of a word that its place in a name does not allow. -/
def badInName? : Text → Option Char
  | [] => none
  | first :: rest =>
    if Text.isNameStart first then rest.find? (!Text.isNamePart ·) else some first

/-- The marks of more than one character, the longest first. -/
def longMarks : List Text :=
  ["...", "**=", "//=", ">>=", "<<=", "**", "//", ">>", "<<", "<=", ">=", "==", "!=", "->", ":=",
    "+=", "-=", "*=", "/=", "%=", "&=", "|=", "^=", "@=", "<>"].map String.toList

/-- The mark at the head of a text. -/
def markOf (text : Text) : Text :=
  (longMarks.find? fun mark => text.startsWith mark).getD (text.take 1)

/-- Reads a name, or a string that begins with letters. -/
def readName (line : Nat) (text : Text) : Except Fault (Token × Text) :=
  let word := text.takeWhile inName
  let rest := text.drop word.length
  let letters := word.map Char.toLower
  if rest.head?.any (fun next => next == '"' || next == '\'') && stringLetters.contains letters then
    readString line letters rest
  else
    match badInName? word with
    | some character => .error (outOfPlace character)
    | none => .ok (.name word, rest)

/-- Reads the token at the head of a text. -/
def readToken (line : Nat) (text : Text) : Except Fault (Token × Text) :=
  match text with
  | [] => .ok (.mark [], [])
  | first :: rest =>
    if first.isDigit || (first == '.' && rest.head?.any Char.isDigit) then readNumber text
    else if first = '"' ∨ first = '\'' then readString line [] text
    else if inName first then readName line text
    else if !Text.isPrintable first then .error (.hiddenCharacter first)
    else
      let mark := markOf text
      .ok (.mark mark, text.drop mark.length)

end Literal
end Terminal
end ModelNav
