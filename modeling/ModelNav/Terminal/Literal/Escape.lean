import ModelNav.Terminal.Literal.Fault
import ModelNav.Text.CharacterName

/-!
# Escapes in strings

A backslash in a string begins an escape.  A character may be given by its number in hexadecimal or
by its name.  The places of faults count characters, and a character beyond ASCII counts as many as
the escape that stands for it.
-/

namespace ModelNav
namespace Terminal
namespace Literal

/-- A digit of a hexadecimal number. -/
def isHexDigit (digit : Char) : Bool :=
  digit.isDigit || ('a' ≤ digit && digit ≤ 'f') || ('A' ≤ digit && digit ≤ 'F')

/-- The value of a digit in a radix of at most sixteen. -/
def digitValue (digit : Char) : Nat :=
  if digit.isDigit then digit.toNat - '0'.toNat else digit.toLower.toNat - 'a'.toNat + 10

/-- The escape that stands for a character. -/
def escapeOf (character : Char) : Text :=
  '\\' :: 'U' :: Text.hexadecimal 8 character.toNat

/-- The escape that stands for a backslash. -/
def escapedBackslash : Text := "\\u005c".toList

/-- A text in which characters beyond ASCII are given by escapes.  A backslash before such a
character, or at the end, stands for itself. -/
def spellOut : Text → Text
  | [] => []
  | ['\\'] => escapedBackslash
  | '\\' :: next :: rest =>
    if next.toNat < 0x80 then '\\' :: next :: spellOut rest
    else escapedBackslash ++ escapeOf next ++ spellOut rest
  | first :: rest =>
    if first.toNat < 0x80 then first :: spellOut rest else escapeOf first ++ spellOut rest

/-- The digits that a letter after a backslash calls for. -/
def escapeDigits? : Char → Option Nat
  | 'x' => some 2
  | 'u' => some 4
  | 'U' => some 8
  | _ => none

/-- The largest code point. -/
def lastCode : Nat := 0x10FFFF

/-- The first fault among the escapes of a text from a position on.  Each step takes a character. -/
def escapeFault? : (fuel position : Nat) → Text → Option Fault
  | 0, _, _ => none
  | fuel + 1, position, '\\' :: letter :: rest =>
    match escapeDigits? letter with
    | some count =>
      let digits := (rest.take count).takeWhile isHexDigit
      let value := digits.foldl (fun value digit => value * 16 + digitValue digit) 0
      let last := position + 1 + digits.length
      if digits.length < count then some (.escape (.truncated letter) position last)
      else if lastCode < value then some (.escape .beyondLast position last)
      else escapeFault? fuel (last + 1) (rest.drop count)
    | none =>
      if letter = 'N' then
        match rest with
        | '\x7b' :: named =>
          let name := named.takeWhile (· != '\x7d')
          let last := position + 2 + name.length
          if name.length = named.length then some (.escape .malformedName position last)
          else if name = [] then some (.escape .malformedName position last)
          else if Text.isCharacterName name then
            escapeFault? fuel (last + 2) (named.drop (name.length + 1))
          else some (.escape .unknownName position (last + 1))
        | _ => some (.escape .malformedName position (position + 1))
      else escapeFault? fuel (position + 2) rest
  | fuel + 1, position, _ :: rest => escapeFault? fuel (position + 1) rest
  | _, _, [] => none

/-- Checks the escapes of a string. -/
def checkEscapes (content : Text) : Except Fault Unit :=
  let spelled := spellOut content
  match escapeFault? spelled.length 0 spelled with
  | some fault => .error fault
  | none => .ok ()

/-- Checks the escapes of a string of bytes from a position on.  Only characters of ASCII are
bytes. -/
def checkByteEscapes : (position : Nat) → Text → Except Fault Unit
  | _, [] => .ok ()
  | position, '\\' :: 'x' :: first :: second :: rest =>
    if isHexDigit first && isHexDigit second then checkByteEscapes (position + 4) rest
    else .error (.byteEscape position)
  | position, '\\' :: 'x' :: _ => .error (.byteEscape position)
  | position, '\\' :: _ :: rest => checkByteEscapes (position + 2) rest
  | position, _ :: rest => checkByteEscapes (position + 1) rest

end Literal
end Terminal
end ModelNav
