import ModelNav.Json.Basic
import ModelNav.Text.Numeral
import ModelNav.Text.Quoted

/-!
# Writing JSON

Values are written without blanks and in ASCII; all other characters, quotes and backslashes are
escaped.
-/

namespace ModelNav
namespace Json

/-- The escape of a sixteen-bit unit. -/
def escapedUnit (unit : Nat) : Text :=
  ['\\', 'u'] ++ Text.hexadecimal 4 unit

/-- A character inside a written string; one beyond the basic plane is written as two units. -/
def writtenChar (character : Char) : Text :=
  let code := character.toNat
  if character = '"' ∨ character = '\\' then ['\\', character]
  else if 0x20 ≤ code ∧ code < 0x7F then [character]
  else if code < 0x10000 then escapedUnit code
  else
    let rest := code - 0x10000
    escapedUnit (0xD800 + rest / 0x400) ++ escapedUnit (0xDC00 + rest % 0x400)

/-- A written string. -/
def writtenString (text : Text) : Text :=
  '"' :: text.flatMap writtenChar ++ ['"']

/-- A written number; a fraction is written out exactly, with a power of ten. -/
def writtenReal : Binary64 → Text
  | .notANumber => "NaN".toList
  | .infinite negative => (if negative then "-Infinity" else "Infinity").toList
  | .finite negative significand exponent =>
    let places := (-exponent).toNat
    let digits := Numeral.ofNat (significand * Nat.pow 5 places * Binary64.twoTo exponent.toNat)
    (if negative then ['-'] else []) ++ digits ++ ['e', '-'] ++ Numeral.ofNat places

mutual

/-- Writes a value. -/
def render : Json → Text
  | .null => "null".toList
  | .bool true => "true".toList
  | .bool false => "false".toList
  | .int value => Numeral.ofInt value
  | .real value => writtenReal value
  | .str text => writtenString text
  | .arr items => '[' :: Text.join [','] (renderItems items) ++ [']']
  | .obj members => '{' :: Text.join [','] (renderMembers members) ++ ['}']

/-- Writes each item of an array. -/
def renderItems : List Json → List Text
  | [] => []
  | item :: items => render item :: renderItems items

/-- Writes each member of an object. -/
def renderMembers : List (Text × Json) → List Text
  | [] => []
  | (name, value) :: members =>
    (writtenString name ++ [':'] ++ render value) :: renderMembers members

end

end Json
end ModelNav
