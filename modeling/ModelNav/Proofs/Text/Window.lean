import Mathlib.Data.List.Intervals
import ModelNav.Text.Space

/-!
# Windows of trimmed lines

What is read around a line of a program is a window of its lines, each of them trimmed.  A line is
named by its index; beyond the end of the list every line is empty.
-/

namespace ModelNav
namespace Text

/-- The line at an index of a list, trimmed; beyond the end of the list it is empty. -/
def trimmedAt (lines : List Text) (index : Nat) : Text :=
  trim (lines.getD index [])

/-- The lines of a list from the first index up to the second, which is left out, trimmed. -/
def trimmedLines (lines : List Text) (first stop : Nat) : List Text :=
  (List.Ico first stop).map (trimmedAt lines)

variable {lines : List Text} {first middle stop index : Nat}

theorem trimmedAt_of_lt (inBounds : index < lines.length) :
    trimmedAt lines index = lines[index].trim := by
  simp [trimmedAt, List.getD_eq_getElem?_getD, inBounds]

theorem trimmedAt_of_length_le (beyond : lines.length ≤ index) :
    trimmedAt lines index = [] := by
  simp [trimmedAt, List.getD_eq_getElem?_getD, beyond]

theorem mem_trimmedLines {text : Text} :
    text ∈ trimmedLines lines first stop ↔
      ∃ index, first ≤ index ∧ index < stop ∧ trimmedAt lines index = text := by
  simp only [trimmedLines, List.mem_map, List.Ico.mem, and_assoc]

theorem trimmedLines_of_le (empty : stop ≤ first) : trimmedLines lines first stop = [] := by
  rw [trimmedLines, List.Ico.eq_nil_of_le empty, List.map_nil]

theorem trimmedLines_append
    (firstHalf : first ≤ middle)
    (secondHalf : middle ≤ stop) :
    trimmedLines lines first middle ++ trimmedLines lines middle stop =
      trimmedLines lines first stop := by
  simp only [trimmedLines]
  rw [← List.map_append, List.Ico.append_consecutive firstHalf secondHalf]

theorem trimmedLines_eq_cons (present : first < stop) :
    trimmedLines lines first stop =
      trimmedAt lines first :: trimmedLines lines (first + 1) stop := by
  simp only [trimmedLines]
  rw [List.Ico.eq_cons present, List.map_cons]

theorem trimmedLines_succ (ordered : first ≤ stop) :
    trimmedLines lines first (stop + 1) =
      trimmedLines lines first stop ++ [trimmedAt lines stop] := by
  simp only [trimmedLines]
  rw [List.Ico.succ_top ordered, List.map_append, List.map_singleton]

/-- A window from the beginning of the list holds its first lines. -/
theorem trimmedLines_zero (inBounds : stop ≤ lines.length) :
    trimmedLines lines 0 stop = (lines.take stop).map trim := by
  induction stop with
  | zero => rfl
  | succ stop inductionHypothesis =>
      rw [trimmedLines_succ (Nat.zero_le stop), inductionHypothesis (Nat.le_of_succ_le inBounds),
        trimmedAt_of_lt inBounds, List.take_succ_eq_append_getElem inBounds, List.map_append,
        List.map_singleton]

end Text
end ModelNav
