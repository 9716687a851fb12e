import ModelNav.Json.Reader
import ModelNav.Text.Basic

/-!
# Numeric hosts

A host may be given by its number: four decimal numbers with dots between them, or, in square
brackets, up to eight hexadecimal ones with colons between them.  Two colons in a row stand for the
zeros that are left out, and the last two hexadecimal numbers may be written as four decimal ones.
A zone may follow after a percent sign.
-/

namespace ModelNav
namespace Http
namespace Host

/-- How far a host looks like four numbers: the number that is read, and whether it has begun. -/
structure NumberPlace where
  index : Nat
  begun : Bool
deriving DecidableEq, Repr

/-- The places after a character.  Any character divides two numbers, a digit too. -/
def NumberPlace.next (character : Char) (place : NumberPlace) : List NumberPlace :=
  let isFollowed := place.begun && place.index < 3
  (if character.isDigit then [⟨place.index, true⟩] else []) ++
    (if isFollowed then [⟨place.index + 1, false⟩] else [])

/-- The host looks like four numbers with something between them. -/
def looksNumeric (host : Text) : Bool :=
  let step (places : List NumberPlace) (character : Char) : List NumberPlace :=
    (places.flatMap (NumberPlace.next character)).eraseDups
  (host.foldl step [⟨0, false⟩]).contains ⟨3, true⟩

/-- A decimal number below 256 without leading zeros. -/
def isDecimalPart (part : Text) : Bool :=
  let value := part.foldl (fun value digit => value * 10 + (digit.toNat - '0'.toNat)) 0
  part != [] && part.all Char.isDigit && part.length ≤ 3 && value < 256 &&
    (part == ['0'] || part.head? != some '0')

/-- Four decimal numbers with dots between them. -/
def isDecimal (host : Text) : Bool :=
  let parts := Text.splitOn '.' host
  parts.length == 4 && parts.all isDecimalPart

/-- A hexadecimal number of at most four digits. -/
def isHexadecimalPart (part : Text) : Bool :=
  part != [] && part.length ≤ 4 && part.all fun digit => (Json.hexDigit? digit).isSome

/-- The hexadecimal numbers, which may be left out once, are those of a host. -/
def areHexadecimal (parts : List Text) : Bool :=
  let inner := (parts.drop 1).dropLast
  match inner.findIdx? (· == []) with
  | none => parts.length == 8 && parts.all isHexadecimalPart
  | some index =>
    let before := parts.take (index + 1)
    let after := parts.drop (index + 2)
    let given (side : List Text) : List Text := if side = [[]] then [] else side
    !(after.dropLast.contains []) && (given before ++ given after).length < 8 &&
      (given before ++ given after).all isHexadecimalPart

/-- Hexadecimal numbers with colons between them, and a zone. -/
def isHexadecimal (host : Text) : Bool :=
  let number := host.takeWhile (· != '%')
  let zone := host.drop (number.length + 1)
  let isZone := number.length == host.length || (zone != [] && !zone.contains '%')
  let parts := Text.splitOn ':' number
  let last := parts.getLast?.getD []
  let spelled := if last.contains '.' then parts.dropLast ++ [['0'], ['0']] else parts
  isZone && 3 ≤ parts.length && (!last.contains '.' || isDecimal last) && spelled.length ≤ 9 &&
    areHexadecimal spelled

end Host
end Http
end ModelNav
