import ModelNav.Terminal.Cluster
import ModelNav.Text.Lines
import ModelNav.Text.Space

/-!
# Styled text

A text of which parts have styles of their own.  When it is shown, it is cut into pieces at the ends
of these parts, and every piece is measured for itself.  Cutting a text keeps the parts of it that
are not empty.
-/

namespace ModelNav
namespace Terminal

/-- A part of a text with a style; some styles cannot be applied. -/
structure Span where
  start : Nat
  stop : Nat
  applies : Bool := true
deriving DecidableEq, Repr

namespace Span

/-- The span as it lies between two offsets, counted from the first; nothing, if it is empty
there. -/
def within? (start stop : Nat) (span : Span) : Option Span :=
  let first := span.start - start
  let last := min span.stop stop - start
  if first < last then some { span with start := first, stop := last } else none

/-- The span further on in a longer text. -/
def shift (count : Nat) (span : Span) : Span :=
  { span with start := span.start + count, stop := span.stop + count }

/-- The span in a text that was cut to a length; nothing, if it begins beyond it. -/
def cut? (length : Nat) (span : Span) : Option Span :=
  if span.start < length then some { span with stop := min span.stop length } else none

end Span

/-- A text and the parts of it that have styles. -/
structure Styled where
  text : Text
  spans : List Span := []
deriving DecidableEq, Repr

namespace Styled

/-- The text between two offsets. -/
def slice (styled : Styled) (start stop : Nat) : Styled :=
  ⟨(styled.text.drop start).take (stop - start), styled.spans.filterMap (·.within? start stop)⟩

/-- The slices between offsets.  Without offsets nothing changes. -/
def divide (styled : Styled) (offsets : List Nat) : List Styled :=
  if offsets = [] then [styled]
  else
    ((0 :: offsets).zip (offsets ++ [styled.text.length])).map fun (start, stop) =>
      styled.slice start stop

/-- The offsets of a character, from an offset on. -/
def offsetsOf (character : Char) : (offset : Nat) → Text → List Nat
  | _, [] => []
  | offset, first :: rest =>
    if first = character then offset :: offsetsOf character (offset + 1) rest
    else offsetsOf character (offset + 1) rest

/-- The lines of a text. -/
def lines (styled : Styled) : List Styled :=
  match offsetsOf '\n' 0 styled.text with
  | [] => [styled]
  | ends =>
    ((0 :: ends.map (· + 1)).zip (ends ++ [styled.text.length])).map fun (start, stop) =>
      styled.slice start stop

/-- One text after the other. -/
def append (first second : Styled) : Styled :=
  ⟨first.text ++ second.text, first.spans ++ second.spans.map (·.shift first.text.length)⟩

instance : Append Styled where
  append := append

/-- The text with another one in its place, of which it may be a beginning. -/
def withText (styled : Styled) (text : Text) : Styled :=
  if text.length < styled.text.length then
    ⟨text, styled.spans.filterMap (·.cut? text.length)⟩
  else ⟨text, styled.spans⟩

/-- The text with blanks after it, which have the styles of its last character. -/
def extend (styled : Styled) (count : Nat) : Styled :=
  let reach (span : Span) : Span :=
    if styled.text.length ≤ span.stop then { span with stop := span.stop + count } else span
  ⟨styled.text ++ List.replicate count ' ', styled.spans.map reach⟩

/-- The text with blanks after it up to a number of cells. -/
def padEnd (styled : Styled) (cells : Nat) : Styled :=
  styled.withText (styled.text ++ List.replicate (cells - width styled.text) ' ')

/-- The text with blanks before it up to a number of cells. -/
def padStart (styled : Styled) (cells : Nat) : Styled :=
  let count := cells - width styled.text
  ⟨List.replicate count ' ' ++ styled.text, styled.spans.map (·.shift count)⟩

/-- All styles can be applied. -/
def applies (styled : Styled) : Bool :=
  styled.spans.all (·.applies)

/-- The pieces between the ends of spans. -/
def pieces (styled : Styled) : List Text :=
  let ends := styled.spans.flatMap fun span => [span.start, span.stop]
  let cuts := (ends.filter (· < styled.text.length)).mergeSort fun first second => first ≤ second
  ((styled.divide cuts).map (·.text)).filter (· != [])

@[simp]
theorem text_append (first second : Styled) : (first ++ second).text = first.text ++ second.text :=
  rfl

@[simp]
theorem divide_nil (styled : Styled) : styled.divide [] = [styled] := rfl

end Styled
end Terminal
end ModelNav
