import ModelNav.Text.Basic

/-!
# Tables of code points

A property of characters is a list of spans of code points.  A case map is a list of runs: every
code point of a run, taken in steps of its stride, moves by the same shift.
-/

namespace ModelNav
namespace Text

/-- The code point lies in one of the spans, ends included. -/
def inSpans (spans : List (Nat × Nat)) (code : Nat) : Bool :=
  spans.any fun span => span.1 ≤ code && code ≤ span.2

/-- Code points from `first` to `last` in steps of `stride`, all moved by `shift`. -/
structure ShiftRun where
  first : Nat
  last : Nat
  stride : Nat
  shift : Int

/-- The code point belongs to the run. -/
def ShiftRun.covers (run : ShiftRun) (code : Nat) : Bool :=
  run.first ≤ code && code ≤ run.last && (code - run.first) % run.stride == 0

/-- The character that a list of runs maps a character to; a character of no run stays. -/
def shiftBy (runs : List ShiftRun) (character : Char) : Char :=
  match runs.find? fun run => run.covers character.toNat with
  | some run => Char.ofNat (character.toNat + run.shift).toNat
  | none => character

end Text
end ModelNav
