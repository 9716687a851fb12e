import Mathlib.Data.Nat.SuccPred
import Mathlib.Order.SuccPred.Archimedean
import ModelNav.Method.Declaration
import ModelNav.Proofs.Text.Separated
import ModelNav.Proofs.Text.Window

/-!
# The window of a declaration

A declaration is read from a window of lines.  It ends at the first line of the window that has a
closing parenthesis, and an opening brace or a brace that begins the next line; when the window has
no such line, all of it is the declaration.  One line beyond the window is looked at, for its brace,
and no other line matters.
-/

namespace ModelNav
namespace Declaration

open Text (trimmedAt trimmedLines)

variable {lines : List Text} {start last count limit : Nat}

/-- The header ends with this line: it has a closing parenthesis, and it has an opening brace or the
next line begins with one. -/
def EndsAt (lines : List Text) (index : Nat) : Prop :=
  ')' ∈ trimmedAt lines index ∧
    ('{' ∈ trimmedAt lines index ∨ Text.startsWith (trimmedAt lines (index + 1)) ['{'] = true)

/-- The brace that is put behind a last line that has none. -/
def missingBrace (line : Text) : List Text :=
  if '{' ∈ line then [] else [['{']]

theorem lt_length_of_endsAt (ends : EndsAt lines last) : last < lines.length := by
  by_contra beyond
  have empty := Text.trimmedAt_of_length_le (Nat.le_of_not_lt beyond)
  have parenthesis := ends.1
  rw [empty] at parenthesis
  contradiction

/-! ## One line -/

theorem any_opensBody_head?_drop (lines : List Text) (index : Nat) :
    (lines.drop index).head?.any opensBody = Text.startsWith (trimmedAt lines index) ['{'] := by
  rw [List.head?_drop]
  by_cases inBounds : index < lines.length
  · rw [List.getElem?_eq_getElem inBounds, Text.trimmedAt_of_lt inBounds]
    rfl
  · have beyond := Nat.le_of_not_lt inBounds
    rw [List.getElem?_eq_none beyond, Text.trimmedAt_of_length_le beyond]
    rfl

theorem gather_drop_of_endsAt (ends : EndsAt lines start) :
    gather (count + 1) (lines.drop start) =
      trimmedAt lines start :: missingBrace (trimmedAt lines start) := by
  have inBounds := lt_length_of_endsAt ends
  obtain ⟨parenthesis, brace⟩ := ends
  rw [List.drop_eq_getElem_cons inBounds, gather, any_opensBody_head?_drop,
    ← Text.trimmedAt_of_lt inBounds]
  by_cases own : '{' ∈ trimmedAt lines start
  · simp [missingBrace, parenthesis, own]
  · simp [missingBrace, parenthesis, own, brace.resolve_left own]

theorem gather_drop_of_not_endsAt
    (inBounds : start < lines.length)
    (goesOn : ¬EndsAt lines start) :
    gather (count + 1) (lines.drop start) =
      trimmedAt lines start :: gather count (lines.drop (start + 1)) := by
  rw [List.drop_eq_getElem_cons inBounds, gather, any_opensBody_head?_drop,
    ← Text.trimmedAt_of_lt inBounds]
  by_cases parenthesis : ')' ∈ trimmedAt lines start
  · have braceless : ¬('{' ∈ trimmedAt lines start ∨
        Text.startsWith (trimmedAt lines (start + 1)) ['{'] = true) :=
      fun brace => goesOn ⟨parenthesis, brace⟩
    rw [not_or, Bool.not_eq_true] at braceless
    simp [parenthesis, braceless.1, braceless.2]
  · simp [parenthesis]

/-! ## The lines of a window -/

theorem gather_drop_of_isLeast
    (ends : EndsAt lines last)
    (fromStart : start ≤ last)
    (within : last < start + count)
    (goesOn : ∀ index, start ≤ index → index < last → ¬EndsAt lines index) :
    gather count (lines.drop start) =
      trimmedLines lines start (last + 1) ++ missingBrace (trimmedAt lines last) := by
  -- The induction is on the number of lines that may still be read; the start moves on with it.
  induction count generalizing start with
  | zero => omega
  | succ count inductionHypothesis =>
      rw [Text.trimmedLines_eq_cons (Nat.lt_succ_of_le fromStart)]
      rcases Nat.eq_or_lt_of_le fromStart with rfl | later
      · rw [gather_drop_of_endsAt ends, Text.trimmedLines_of_le le_rfl]
        rfl
      · have inBounds : start < lines.length := later.trans (lt_length_of_endsAt ends)
        rw [gather_drop_of_not_endsAt inBounds (goesOn start le_rfl later),
          inductionHypothesis later (by omega)
            fun index behind => goesOn index (Nat.le_of_succ_le behind)]
        rfl

theorem gather_drop_of_forall_not
    (goesOn : ∀ index, start ≤ index → index < start + count → ¬EndsAt lines index) :
    gather count (lines.drop start) =
      trimmedLines lines start (min lines.length (start + count)) := by
  induction count generalizing start with
  | zero =>
      have empty : min lines.length (start + 0) ≤ start := Nat.min_le_right _ _
      rw [Text.trimmedLines_of_le empty]
      rfl
  | succ count inductionHypothesis =>
      by_cases inBounds : start < lines.length
      · have present : start < min lines.length (start + (count + 1)) := by omega
        have same : start + (count + 1) = start + 1 + count := by omega
        rw [gather_drop_of_not_endsAt inBounds (goesOn start le_rfl (by omega)),
          Text.trimmedLines_eq_cons present, inductionHypothesis, same]
        intro index behind before
        exact goesOn index (Nat.le_of_succ_le behind) (by omega)
      · have beyond := Nat.le_of_not_lt inBounds
        rw [List.drop_eq_nil_of_le beyond, Text.trimmedLines_of_le ((min_le_left _ _).trans beyond)]
        rfl

/-- No line beyond the one that follows the window matters. -/
theorem gather_congr
    {rest other : List Text}
    (agree : rest.take (count + 1) = other.take (count + 1)) :
    gather count rest = gather count other := by
  induction count generalizing rest other with
  | zero => rfl
  | succ count inductionHypothesis =>
      cases rest with
      | nil =>
          obtain rfl : other = [] := by simpa using agree.symm
          rfl
      | cons line rest =>
          cases other with
          | nil => simp at agree
          | cons otherLine other =>
              rw [List.take_succ_cons, List.take_succ_cons, List.cons.injEq] at agree
              obtain ⟨rfl, further⟩ := agree
              have next : rest.head? = other.head? := by
                have heads := congrArg List.head? further
                simpa [List.head?_take] using heads
              rw [gather, gather, next, inductionHypothesis further]

/-! ## The declaration -/

/-- The last line of the window that is read for a declaration. -/
def windowEnd (lines : List Text) (start limit : Nat) : Nat :=
  min (lines.length - 1) (start + limit)

/-- What the declaration is: the lines of the window up to the first one that ends the header, with
the brace that this line lacks, or all lines of the window. -/
inductive IsHeader (lines : List Text) (start limit : Nat) : Text → Prop
  | ended {last : Nat}
      (least : IsLeast {index | start ≤ index ∧ index ≤ windowEnd lines start limit ∧
        EndsAt lines index} last) :
      IsHeader lines start limit
        (Text.join [' '] (trimmedLines lines start (last + 1)) ++
          if '{' ∈ trimmedAt lines last then [] else [' ', '{'])
  | unended
      (goesOn : ∀ index, start ≤ index → index ≤ windowEnd lines start limit →
        ¬EndsAt lines index) :
      IsHeader lines start limit
        (Text.join [' '] (trimmedLines lines start (windowEnd lines start limit + 1)))

theorem extract_natCast (lines : List Text) (start limit : Nat) :
    extract lines start limit =
      .ok (Text.join [' '] (gather (limit + 1) (lines.drop start))) := by
  have named : ¬(0 ≤ (limit : Int) ∧ (start : Int) < -(lines.length : Int)) := by omega
  have count : ((limit : Int) + 1).toNat = limit + 1 := by omega
  rw [extract, if_neg named, startingAt, count]
  rfl

theorem join_append_missingBrace
    (present : start ≤ last) :
    Text.join [' '] (trimmedLines lines start (last + 1) ++ missingBrace (trimmedAt lines last)) =
      Text.join [' '] (trimmedLines lines start (last + 1)) ++
        if '{' ∈ trimmedAt lines last then [] else [' ', '{'] := by
  rw [missingBrace]
  split
  · rw [List.append_nil, List.append_nil]
  · have nonempty : trimmedLines lines start (last + 1) ≠ [] := by
      rw [Text.trimmedLines_eq_cons (Nat.lt_succ_of_le present)]
      exact List.cons_ne_nil _ _
    rw [Text.join_append_singleton nonempty, List.append_assoc]
    rfl

theorem windowEnd_add_one
    (inBounds : start < lines.length)
    (limit : Nat) :
    windowEnd lines start limit + 1 = min lines.length (start + (limit + 1)) := by
  rw [windowEnd]
  omega

/-- What is described is the declaration that is read. -/
theorem extract_of_isHeader
    {text : Text}
    (inBounds : start < lines.length)
    (header : IsHeader lines start limit text) :
    extract lines start limit = .ok text := by
  rw [extract_natCast]
  have window := windowEnd_add_one inBounds limit
  cases header with
  | ended least =>
      obtain ⟨⟨fromStart, within, ends⟩, first⟩ := least
      rw [gather_drop_of_isLeast ends fromStart (by omega), join_append_missingBrace fromStart]
      intro index behind before endsEarlier
      exact absurd (first ⟨behind, before.le.trans within, endsEarlier⟩) (Nat.not_le_of_lt before)
  | unended goesOn =>
      rw [gather_drop_of_forall_not, window]
      intro index behind before ends
      have inList := lt_length_of_endsAt ends
      exact goesOn index behind (by omega) ends

theorem exists_isHeader (lines : List Text) (start limit : Nat) :
    ∃ text, IsHeader lines start limit text := by
  by_cases ended : ∃ index, start ≤ index ∧ index ≤ windowEnd lines start limit ∧
      EndsAt lines index
  · obtain ⟨last, least⟩ := (OrderBot.bddBelow _).exists_isLeast_of_nonempty ended
    exact ⟨_, .ended least⟩
  · refine ⟨_, .unended ?_⟩
    intro index behind within ends
    exact ended ⟨index, behind, within, ends⟩

/-- A declaration is made of lines of its window, and of a brace behind them at most. -/
theorem IsHeader.exists_count
    {text : Text}
    (inBounds : start < lines.length)
    (header : IsHeader lines start limit text) :
    ∃ count ≤ limit + 1, start + count ≤ lines.length ∧ ∃ brace ∈ [[], [' ', '{']],
      text = Text.join [' '] (trimmedLines lines start (start + count)) ++ brace := by
  have window := windowEnd_add_one inBounds limit
  cases header with
  | @ended last least =>
      obtain ⟨⟨fromStart, within, -⟩, -⟩ := least
      have stop : start + (last + 1 - start) = last + 1 := by omega
      refine ⟨last + 1 - start, by omega, by omega, _, ?_, by rw [stop]⟩
      split <;> simp
  | unended goesOn =>
      have stop : start + (windowEnd lines start limit + 1 - start) =
          windowEnd lines start limit + 1 := by omega
      refine ⟨windowEnd lines start limit + 1 - start, by omega, by omega, [], ?_, ?_⟩
      · exact List.mem_cons_self
      · rw [stop, List.append_nil]

/-- Lists that agree on the window and on the line behind it have the same declaration. -/
theorem extract_congr
    {other : List Text}
    {otherStart : Nat}
    (agree : ∀ offset ≤ limit + 1, other[otherStart + offset]? = lines[start + offset]?) :
    extract other otherStart limit = extract lines start limit := by
  have sameWindow :
      (other.drop otherStart).take (limit + 1 + 1) = (lines.drop start).take (limit + 1 + 1) := by
    apply List.ext_getElem?
    intro offset
    rw [List.getElem?_take, List.getElem?_take]
    split
    · rw [List.getElem?_drop, List.getElem?_drop]
      exact agree offset (by omega)
    · rfl
  rw [extract_natCast, extract_natCast, gather_congr sameWindow]

/-- Reading a declaration gives exactly what is described of its window.  It has the text of no more
lines than the limit allows behind the first one, and does not depend on the lines before the first
one or beyond the one that follows the window. -/
theorem extract_eq_ok_iff_isHeader
    (inBounds : start < lines.length)
    (limit : Nat) :
    (∀ text, extract lines start limit = .ok text ↔ IsHeader lines start limit text) ∧
      (∃ count ≤ limit + 1, start + count ≤ lines.length ∧ ∃ brace ∈ [[], [' ', '{']],
        extract lines start limit =
          .ok (Text.join [' '] (trimmedLines lines start (start + count)) ++ brace)) ∧
      ∀ (other : List Text) (otherStart : Nat),
        (∀ offset ≤ limit + 1, other[otherStart + offset]? = lines[start + offset]?) →
          extract other otherStart limit = extract lines start limit := by
  obtain ⟨header, isHeader⟩ := exists_isHeader lines start limit
  have read := extract_of_isHeader inBounds isHeader
  refine ⟨?_, ?_, fun other otherStart agree => extract_congr agree⟩
  · intro text
    constructor
    · intro same
      obtain rfl : header = text := Except.ok.inj (read.symm.trans same)
      exact isHeader
    · exact extract_of_isHeader inBounds
  · obtain ⟨count, bounded, inList, brace, isBrace, rfl⟩ := isHeader.exists_count inBounds
    exact ⟨count, bounded, inList, brace, isBrace, read⟩

/-- The brace begins the line behind the window. -/
theorem extract_eq_ok_iff_isHeader_sample :
    1 < ["// (".toList, "function f(".toList, "  $a) ".toList, "\t\x7b // body".toList].length ∧
      IsHeader ["// (".toList, "function f(".toList, "  $a) ".toList, "\t\x7b // body".toList] 1 1
        "function f( $a) \x7b".toList := by
  have inBounds : 1 <
      ["// (".toList, "function f(".toList, "  $a) ".toList, "\t\x7b // body".toList].length := by
    decide
  obtain ⟨described, -⟩ := extract_eq_ok_iff_isHeader inBounds 1
  exact ⟨inBounds, (described _).mp (by decide +kernel)⟩

end Declaration
end ModelNav
