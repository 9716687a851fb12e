import ModelNav.Dictionary
import ModelNav.Json.Basic
import ModelNav.Text.Numeral
import ModelNav.Text.Utf8

/-!
# Reading JSON

The reader accepts the JSON grammar and the three names for special numbers.  A text outside the
grammar is refused with the offset at which reading stopped: of the character that does not fit, or
of the opening quote when a string is not closed.  Arrays and objects may be nested down to a depth
that the caller chooses.
-/

namespace ModelNav
namespace Json

/-- A value that holds other values. -/
inductive Container where
  | array
  | object
deriving DecidableEq, Repr

/-- Why a text is not read: it leaves the grammar at an offset, writes a number with too many
digits, or nests a container too deeply. -/
inductive ReadFault where
  | syntaxAt (offset : Nat)
  | tooManyDigits
  | tooDeep (container : Container)
deriving DecidableEq, Repr

/-- A place in a text: how much was read, and what is left. -/
structure Cursor where
  offset : Nat
  rest : Text

namespace Cursor

/-- The place a number of characters further on. -/
def advance (cursor : Cursor) (count : Nat) : Cursor :=
  ⟨cursor.offset + count, cursor.rest.drop count⟩

/-- A character that may stand between tokens. -/
def isGap (character : Char) : Bool :=
  character == ' ' || character == '\t' || character == '\n' || character == '\r'

/-- The place after the gap that starts here. -/
def skipGap (cursor : Cursor) : Cursor :=
  cursor.advance (cursor.rest.takeWhile isGap).length

end Cursor

/-- The value of a hexadecimal digit. -/
def hexDigit? (character : Char) : Option Nat :=
  if character.isDigit then some (character.toNat - 0x30)
  else if 'a' ≤ character ∧ character ≤ 'f' then some (character.toNat - 0x57)
  else if 'A' ≤ character ∧ character ≤ 'F' then some (character.toNat - 0x37)
  else none

/-- The four hexadecimal digits at the head of a text, with at least one character after them. -/
def hexQuad? (text : Text) : Option Nat := do
  guard (4 < text.length)
  let digits ← (text.take 4).mapM hexDigit?
  return digits.foldl (fun value digit => value * 16 + digit) 0

/-- The character that a backslash and the given letter stand for. -/
def simpleEscape? : Char → Option Char
  | '"' => some '"'
  | '\\' => some '\\'
  | '/' => some '/'
  | 'b' => some '\x08'
  | 'f' => some '\x0c'
  | 'n' => some '\n'
  | 'r' => some '\r'
  | 't' => some '\t'
  | _ => none

/-- Reads the escape whose backslash stands at the cursor. -/
def readEscape (opening : Nat) (cursor : Cursor) : Except ReadFault (Char × Cursor) :=
  match cursor.rest with
  | _ :: 'u' :: rest =>
    match hexQuad? rest with
    | none => .error (.syntaxAt (cursor.offset + 1))
    | some code =>
      let single := .ok (Char.ofNat code, cursor.advance 6)
      if 0xD800 ≤ code ∧ code ≤ 0xDBFF ∧ 10 < rest.length then
        match rest.drop 4 with
        | '\\' :: 'u' :: low =>
          match hexQuad? low with
          | none => .error (.syntaxAt (cursor.offset + 7))
          | some second =>
            if 0xDC00 ≤ second ∧ second ≤ 0xDFFF then
              let joined := 0x10000 + (code - 0xD800) * 0x400 + (second - 0xDC00)
              .ok (Char.ofNat joined, cursor.advance 12)
            else single
        | _ => single
      else single
  | _ :: letter :: _ =>
    match simpleEscape? letter with
    | some character => .ok (character, cursor.advance 2)
    | none => .error (.syntaxAt cursor.offset)
  | _ => .error (.syntaxAt opening)

/-- Reads the rest of a string whose opening quote stands at an offset. -/
def readString (opening : Nat) : Nat → Cursor → Except ReadFault (Text × Cursor)
  | 0, _ => .error (.syntaxAt opening)
  | fuel + 1, cursor =>
    match cursor.rest with
    | [] => .error (.syntaxAt opening)
    | '"' :: _ => .ok ([], cursor.advance 1)
    | '\\' :: _ => do
      let (character, next) ← readEscape opening cursor
      let (text, last) ← readString opening fuel next
      return (character :: text, last)
    | character :: _ =>
      if character.toNat < 0x20 then .error (.syntaxAt cursor.offset)
      else do
        let (text, last) ← readString opening fuel (cursor.advance 1)
        return (character :: text, last)

/-- The digits at the head of a text. -/
def leadingDigits (text : Text) : Text :=
  text.takeWhile Char.isDigit

/-- The number that digits of ASCII write. -/
def digitsValue (digits : Text) : Nat :=
  Numeral.ofDigits (digits.filterMap Text.asciiDigit?)

/-- The digits after a decimal point at the head of a text; none when no digit follows the point. -/
def fractionDigits : Text → Text
  | '.' :: rest => leadingDigits rest
  | _ => []

/-- The exponent at the head of a text: how long it is written, its sign and its digits. -/
def exponentPart? (text : Text) : Option (Nat × Bool × Text) :=
  match text with
  | mark :: rest =>
    if mark = 'e' ∨ mark = 'E' then
      let (negative, body) := Numeral.sign rest
      let digits := leadingDigits body
      if digits = [] then none
      else some (1 + (rest.length - body.length) + digits.length, negative, digits)
    else none
  | [] => none

/-- Reads a number that starts at the cursor. -/
def readNumber (cursor : Cursor) : Except ReadFault (Json × Cursor) :=
  let negative := cursor.rest.head? == some '-'
  let body := if negative then cursor.rest.drop 1 else cursor.rest
  let whole := if body.head? == some '0' then ['0'] else leadingDigits body
  if whole = [] then .error (.syntaxAt cursor.offset)
  else
    let signLength := if negative then 1 else 0
    let fraction := fractionDigits (body.drop whole.length)
    let pointLength := if fraction = [] then 0 else fraction.length + 1
    let tail := body.drop (whole.length + pointLength)
    let length := signLength + whole.length + pointLength
    match exponentPart? tail with
    | none =>
      if fraction = [] then
        if Numeral.digitLimit < whole.length then .error .tooManyDigits
        else
          let value : Int := digitsValue whole
          .ok (.int (if negative then -value else value), cursor.advance length)
      else
        let value :=
          Binary64.ofDecimal negative (digitsValue (whole ++ fraction)) (-fraction.length)
        .ok (.real value, cursor.advance length)
    | some (exponentLength, down, digits) =>
      let power : Int := digitsValue digits
      let exponent := (if down then -power else power) - fraction.length
      let value := Binary64.ofDecimal negative (digitsValue (whole ++ fraction)) exponent
      .ok (.real value, cursor.advance (length + exponentLength))

/-- The names of values, with the values. -/
def namedValues : List (Text × Json) := [
  ("null".toList, .null), ("true".toList, .bool true), ("false".toList, .bool false),
  ("NaN".toList, .real .notANumber), ("Infinity".toList, .real (.infinite false)),
  ("-Infinity".toList, .real (.infinite true))
]

mutual

/-- Reads the value that starts at the cursor, with containers nested down to a depth. -/
def readValue : (fuel depth : Nat) → Cursor → Except ReadFault (Json × Cursor)
  | 0, _, cursor => .error (.syntaxAt cursor.offset)
  | fuel + 1, depth, cursor =>
    match cursor.rest with
    | '"' :: _ => do
      let (text, next) ← readString cursor.offset (cursor.rest.length) (cursor.advance 1)
      return (.str text, next)
    | '[' :: _ => do
      if depth = 0 then throw (.tooDeep .array)
      let inside := (cursor.advance 1).skipGap
      if inside.rest.head? = some ']' then return (.arr [], inside.advance 1)
      let (items, next) ← readItems fuel (depth - 1) inside
      return (.arr items, next)
    | '{' :: _ => do
      if depth = 0 then throw (.tooDeep .object)
      let inside := (cursor.advance 1).skipGap
      if inside.rest.head? = some '}' then return (.obj [], inside.advance 1)
      let (members, next) ← readMembers fuel (depth - 1) inside
      return (.obj (Dictionary.ofPairs members), next)
    | _ =>
      match namedValues.find? fun named => cursor.rest.startsWith named.1 with
      | some (name, value) => .ok (value, cursor.advance name.length)
      | none => readNumber cursor

/-- Reads the items of an array up to its closing bracket. -/
def readItems : (fuel depth : Nat) → Cursor → Except ReadFault (List Json × Cursor)
  | 0, _, cursor => .error (.syntaxAt cursor.offset)
  | fuel + 1, depth, cursor => do
    let (item, next) ← readValue fuel depth cursor
    let next := next.skipGap
    match next.rest with
    | ']' :: _ => return ([item], next.advance 1)
    | ',' :: _ =>
      let (items, last) ← readItems fuel depth (next.advance 1).skipGap
      return (item :: items, last)
    | _ => throw (.syntaxAt next.offset)

/-- Reads the members of an object up to its closing brace. -/
def readMembers : (fuel depth : Nat) → Cursor → Except ReadFault (List (Text × Json) × Cursor)
  | 0, _, cursor => .error (.syntaxAt cursor.offset)
  | fuel + 1, depth, cursor =>
    match cursor.rest with
    | '"' :: _ => do
      let (name, next) ← readString cursor.offset (cursor.rest.length) (cursor.advance 1)
      let next := next.skipGap
      if next.rest.head? ≠ some ':' then throw (.syntaxAt next.offset)
      let (value, next) ← readValue fuel depth (next.advance 1).skipGap
      let next := next.skipGap
      match next.rest with
      | '}' :: _ => return ([(name, value)], next.advance 1)
      | ',' :: _ =>
        let (members, last) ← readMembers fuel depth (next.advance 1).skipGap
        return ((name, value) :: members, last)
      | _ => throw (.syntaxAt next.offset)
    | _ => .error (.syntaxAt cursor.offset)

end

/-- Reads a text that is one JSON value, with containers nested down to a depth.  Every two nested
steps take at least one character, which bounds the number of steps. -/
def readWithin (depth : Nat) (text : Text) : Except ReadFault Json := do
  let (value, next) ← readValue (2 * text.length + 2) depth (Cursor.mk 0 text).skipGap
  let last := next.skipGap
  if last.rest = [] then return value else throw (.syntaxAt last.offset)

/-- Reads a text that is one JSON value, however deep. -/
def read (text : Text) : Except ReadFault Json :=
  readWithin text.length text

end Json
end ModelNav
