import ModelNav.Text.Utf8

/-!
# JSON as bytes

JSON that arrives as bytes is written in UTF-8, UTF-16 or UTF-32.  A JSON text begins with ASCII, so
the zeros among the first four bytes tell the width of the units and the order of their bytes.  A
byte order mark is known in UTF-8 only.
-/

namespace ModelNav
namespace Json

/-- The order of the bytes of a unit. -/
inductive ByteOrder where
  | bigEndian
  | littleEndian
deriving DecidableEq, Repr

/-- How a text is written as bytes. -/
inductive Encoding where
  | utf8
  | utf16 (order : ByteOrder)
  | utf32 (order : ByteOrder)
deriving DecidableEq, Repr

/-- The encoding that the zeros among the first bytes tell; fewer than four bytes are looked at only
when there are two. -/
def Encoding.ofBytes (bytes : Bytes) : Encoding :=
  match bytes.map (· == 0) with
  | [true, _] => .utf16 .bigEndian
  | [false, true] => .utf16 .littleEndian
  | true :: true :: _ :: _ :: _ => .utf32 .bigEndian
  | true :: false :: _ :: _ :: _ => .utf16 .bigEndian
  | false :: true :: true :: true :: _ => .utf32 .littleEndian
  | false :: true :: _ :: _ :: _ => .utf16 .littleEndian
  | _ => .utf8

/-- The number that the bytes of a unit write. -/
def ByteOrder.unit (order : ByteOrder) (bytes : Bytes) : Nat :=
  (if order = .bigEndian then bytes else bytes.reverse).foldl
    (fun value byte => value * 0x100 + byte.toNat) 0

/-- The units of two bytes each, unless a byte is left over. -/
def ByteOrder.units16? (order : ByteOrder) : Bytes → Option (List Nat)
  | [] => some []
  | first :: second :: rest => (order.units16? rest).map (order.unit [first, second] :: ·)
  | _ => none

/-- The units of four bytes each, unless bytes are left over. -/
def ByteOrder.units32? (order : ByteOrder) : Bytes → Option (List Nat)
  | [] => some []
  | first :: second :: third :: fourth :: rest =>
    (order.units32? rest).map (order.unit [first, second, third, fourth] :: ·)
  | _ => none

/-- The unit is the first half of a pair. -/
def isHighHalf (unit : Nat) : Bool :=
  0xD800 ≤ unit && unit ≤ 0xDBFF

/-- The unit is the second half of a pair. -/
def isLowHalf (unit : Nat) : Bool :=
  0xDC00 ≤ unit && unit ≤ 0xDFFF

/-- The character of a unit; half of a pair is shown as a replacement. -/
def unitChar (unit : Nat) : Char :=
  if isHighHalf unit || isLowHalf unit then '\uFFFD' else Char.ofNat unit

/-- The text of units of two bytes; two halves of a pair are one character. -/
def textOfUnits : List Nat → Text
  | [] => []
  | [last] => [unitChar last]
  | first :: second :: rest =>
    if isHighHalf first && isLowHalf second then
      Char.ofNat (0x10000 + (first - 0xD800) * 0x400 + (second - 0xDC00)) :: textOfUnits rest
    else unitChar first :: textOfUnits (second :: rest)

/-- The text that bytes write; there is none when they are cut short or write no code point. -/
def decodeBytes? (bytes : Bytes) : Option Text :=
  match Encoding.ofBytes bytes with
  | .utf8 =>
    (Utf8.decode bytes).toOption.map fun text => (Text.after? ['\uFEFF'] text).getD text
  | .utf16 order => (order.units16? bytes).map textOfUnits
  | .utf32 order => do
    let units ← order.units32? bytes
    guard (units.all (· ≤ 0x10FFFF))
    return units.map unitChar

end Json
end ModelNav
