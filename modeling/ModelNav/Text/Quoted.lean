import ModelNav.Text.Printable

/-!
# Quoted text

How a path is shown inside a message: between single quotes, or between double quotes when the text
holds a single quote and no double one.  Backslashes, the surrounding quote and unprintable
characters are escaped.
-/

namespace ModelNav
namespace Text

/-- A number in hexadecimal, padded with zeros to a width. -/
def hexadecimal (width value : Nat) : Text :=
  let digits := Nat.toDigits 16 value
  List.replicate (width - digits.length) '0' ++ digits

/-- The quote that surrounds a text. -/
def quoteMark (text : Text) : Char :=
  if text.contains '\'' && !text.contains '"' then '"' else '\''

/-- A character by its code alone. -/
def escapedCode (character : Char) : Text :=
  let code := character.toNat
  if code < 0x100 then ['\\', 'x'] ++ hexadecimal 2 code
  else if code < 0x10000 then ['\\', 'u'] ++ hexadecimal 4 code
  else ['\\', 'U'] ++ hexadecimal 8 code

/-- A character as it is shown between the given quotes. -/
def escape (mark character : Char) : Text :=
  if character = mark ∨ character = '\\' then ['\\', character]
  else if character = '\n' then ['\\', 'n']
  else if character = '\r' then ['\\', 'r']
  else if character = '\t' then ['\\', 't']
  else if isPrintable character then [character]
  else escapedCode character

/-- The text between quotes. -/
def quoted (text : Text) : Text :=
  let mark := quoteMark text
  mark :: text.flatMap (escape mark) ++ [mark]

/-- What is said about characters beyond ASCII, at a position where only ASCII can be written.  One
character is shown, of several only the positions are. -/
def asciiFault (characters : Text) (position : Nat) : Text :=
  "'ascii' codec can't encode character".toList ++
    (match characters with
      | [character] => " '".toList ++ escapedCode character ++ s!"' in position {position}".toList
      | _ => s!"s in position {position}-{position + characters.length - 1}".toList) ++
    ": ordinal not in range(128)".toList

end Text
end ModelNav
