import ModelNav.Text.Basic

/-!
# Labels in ASCII

A label with characters beyond ASCII is written in ASCII: its ASCII characters, a hyphen, and for
each other character, in the order of their code points, how far it is from the one before.  The
distances are numbers of variable length in base 36, whose digits have thresholds that adapt to the
distances seen so far.
-/

namespace ModelNav
namespace Http
namespace Host
namespace Punycode

/-- The character of a digit. -/
def digitOf (value : Nat) : Char :=
  if value < 26 then Char.ofNat ('a'.toNat + value) else Char.ofNat ('0'.toNat + (value - 26))

/-- The value of a digit in either case. -/
def valueOf? (digit : Char) : Option Nat :=
  if digit.isAlpha then some (digit.toLower.toNat - 'a'.toNat)
  else if digit.isDigit then some (digit.toNat - '0'.toNat + 26)
  else none

/-- The threshold of the digit at a place, the first place being 36. -/
def threshold (place bias : Nat) : Nat :=
  if place ≤ bias then 1 else if bias + 26 ≤ place then 26 else place - bias

theorem threshold_pos (place bias : Nat) : 1 ≤ threshold place bias := by
  unfold threshold
  split
  · omega
  · split <;> omega

/-- The part of a bias that a large distance brings: divisions by 35 until it is small. -/
def divide (distance shift : Nat) : Nat × Nat :=
  if 455 < distance then divide (distance / 35) (shift + 36) else (distance, shift)
termination_by distance
decreasing_by exact Nat.div_lt_self (by omega) (by omega)

/-- The bias after a distance, with the number of characters so far. -/
def adapt (distance count : Nat) (isFirst : Bool) : Nat :=
  let halved := if isFirst then distance / 700 else distance / 2
  let (small, shift) := divide (halved + halved / count) 0
  shift + 36 * small / (small + 38)

/-- The digits of a distance. -/
def digits (bias place distance : Nat) : Text :=
  let limit := threshold place bias
  if distance < limit then [digitOf distance]
  else
    digitOf (limit + (distance - limit) % (36 - limit)) ::
      digits bias (place + 36) ((distance - limit) / (36 - limit))
termination_by distance
decreasing_by
  have positive := threshold_pos place bias
  have smaller := Nat.div_le_self (distance - threshold place bias) (36 - threshold place bias)
  omega

/-- How far a label is written: the digits, the distance since the last character, the bias, and the
number of characters. -/
structure Writing where
  written : Text := []
  distance : Nat := 0
  bias : Nat := 72
  count : Nat

/-- Passes a character while the characters with a code point are written. -/
def Writing.pass (basic code : Nat) (state : Writing) (other : Nat) : Writing :=
  if other < code then { state with distance := state.distance + 1 }
  else if other = code then
    { written := state.written ++ digits state.bias 36 state.distance
      distance := 0
      bias := adapt state.distance (state.count + 1) (state.count = basic)
      count := state.count + 1 }
  else state

/-- Writes the characters with each of some code points, in ascending order, after another. -/
def writeFrom (label : List Nat) (basic : Nat) : (after : Nat) → (codes : List Nat) → Writing →
    Writing
  | _, [], state => state
  | after, code :: codes, state =>
    let reached := { state with distance := state.distance + (code - after) * (state.count + 1) }
    let state := label.foldl (Writing.pass basic code) reached
    writeFrom label basic (code + 1) codes { state with distance := state.distance + 1 }

/-- The code points of a label beyond ASCII, in ascending order. -/
def codesBeyond (label : List Nat) : List Nat :=
  ((label.filter (0x80 ≤ ·)).mergeSort fun first second => Nat.ble first second).eraseDups

/-- A label in ASCII. -/
def encode (label : List Nat) : Text :=
  let basic := label.filter (· < 0x80)
  let state := writeFrom label basic.length 0x80 (codesBeyond label) { count := basic.length }
  basic.map Char.ofNat ++ (if basic = [] then [] else ['-']) ++ state.written

/-- Reads a number of variable length, and gives what follows it. -/
def readDistance (bias : Nat) : (place weight sum : Nat) → Text → Option (Nat × Text)
  | _, _, _, [] => none
  | place, weight, sum, digit :: rest => do
    let value ← valueOf? digit
    let limit := threshold place bias
    if value < limit then return (sum + value * weight, rest)
    else readDistance bias (place + 36) (weight * (36 - limit)) (sum + value * weight) rest

/-- Puts characters into a label by their distances.  A place counts the places in the label, for
each code point anew. -/
def readFrom : (fuel : Nat) → (label : List Nat) → (code place bias : Nat) → (isFirst : Bool) →
    Text → Option (List Nat)
  | 0, _, _, _, _, _, _ => none
  | _, label, _, _, _, _, [] => some label
  | fuel + 1, label, code, place, bias, isFirst, text => do
    let (distance, rest) ← readDistance bias 36 1 0 text
    let count := label.length + 1
    let reached := place + distance
    let code := code + reached / count
    if 0x10FFFF < code then none
    else
      let index := reached % count
      let longer := label.take index ++ code :: label.drop index
      readFrom fuel longer code (index + 1) (adapt distance count isFirst) false rest

/-- The label that is written in ASCII. -/
def decode? (text : Text) : Option (List Nat) :=
  let (basic, extended) := (Text.splitAtLast? '-' text).getD ([], text)
  readFrom (extended.length + 1) (basic.map Char.toNat) 0x80 0 72 true extended

end Punycode
end Host
end Http
end ModelNav
