import ModelNav.Proofs.Method.Declaration
import ModelNav.Proofs.Text.Blanks

/-!
# Declarations and the brace that opens the body

A header ends at its opening brace: the first brace that has a closing parenthesis on its line or on
an earlier line of the header.  Reading a declaration finds this brace in two places only, on a line
that has a closing parenthesis itself, and at the beginning of the line right behind such a line.  A
brace in any other place is passed, and the declaration goes on with the lines of the body.
-/

namespace ModelNav
namespace Declaration

open Text (trimmedAt trimmedLines)

variable {lines : List Text} {start brace last limit : Nat} {character : Char}

/-- The line has an opening brace, and a line from the start up to it has a closing parenthesis. -/
def BraceStands (lines : List Text) (start index : Nat) : Prop :=
  '{' ∈ lines.getD index [] ∧
    ∃ earlier, start ≤ earlier ∧ earlier ≤ index ∧ ')' ∈ lines.getD earlier []

instance (lines : List Text) (start index : Nat) : Decidable (BraceStands lines start index) :=
  decidable_of_iff
    ('{' ∈ lines.getD index [] ∧
      ∃ earlier < index + 1, start ≤ earlier ∧ ')' ∈ lines.getD earlier [])
    (by simp only [BraceStands, Nat.lt_succ_iff, and_left_comm])

/-- The line has the brace that opens the body of the header. -/
def IsOpeningBrace (lines : List Text) (start brace : Nat) : Prop :=
  IsLeast {index | start ≤ index ∧ BraceStands lines start index} brace

theorem isOpeningBrace_iff_forall_lt :
    IsOpeningBrace lines start brace ↔
      (start ≤ brace ∧ BraceStands lines start brace) ∧
        ∀ index < brace, start ≤ index → ¬BraceStands lines start index := by
  refine and_congr_right fun _ => ⟨?_, ?_⟩
  · intro least index before fromStart stands
    exact Nat.not_le_of_lt before (least ⟨fromStart, stands⟩)
  · rintro first index ⟨fromStart, stands⟩
    exact Nat.le_of_not_lt fun before => first index before fromStart stands

instance (lines : List Text) (start brace : Nat) : Decidable (IsOpeningBrace lines start brace) :=
  decidable_of_iff _ isOpeningBrace_iff_forall_lt.symm

/-- The brace stands where it is looked for: behind or before a closing parenthesis on its own line,
or at the beginning of its line when the line right before has a closing parenthesis. -/
def IsSeen (lines : List Text) (start brace : Nat) : Prop :=
  ')' ∈ lines.getD brace [] ∨
    ∃ before, start ≤ before ∧ before + 1 = brace ∧ ')' ∈ lines.getD before [] ∧
      Text.startsWith (trimmedAt lines brace) ['{'] = true

/-- The declaration is made of the trimmed lines up to the given one, with at most a brace behind
them. -/
def ShowsUpTo (lines : List Text) (start limit last : Nat) : Prop :=
  ∃ ending ∈ [[], [' ', '{']],
    extract lines start limit =
      .ok (Text.join [' '] (trimmedLines lines start (last + 1)) ++ ending)

/-! ## Where a header can end -/

theorem mem_trimmedAt_iff
    (visible : Text.isSpace character = false)
    (index : Nat) :
    character ∈ trimmedAt lines index ↔ character ∈ lines.getD index [] :=
  ⟨Text.mem_of_mem_trim, fun present => Text.mem_trim_of_mem present visible⟩

theorem mem_of_startsWith_brace
    {text : Text}
    (begins : Text.startsWith text ['{'] = true) :
    '{' ∈ text :=
  (List.isPrefixOf_iff_prefix.mp begins).subset List.mem_cons_self

theorem IsOpeningBrace.lt_length
    (opening : IsOpeningBrace lines start brace) :
    brace < lines.length := by
  by_contra beyond
  have present := opening.1.2.1
  simp [List.getD_eq_getElem?_getD, Nat.le_of_not_lt beyond] at present

/-- A header that ends no later than the line of its opening brace ends because of this brace. -/
theorem IsOpeningBrace.isSeen_of_endsAt
    (opening : IsOpeningBrace lines start brace)
    (ends : EndsAt lines last)
    (fromStart : start ≤ last)
    (upToBrace : last ≤ brace) :
    IsSeen lines start brace := by
  obtain ⟨parenthesis, braced⟩ := ends
  rw [mem_trimmedAt_iff rfl] at parenthesis
  -- A brace on this line or at the beginning of the next one cannot come before the opening one.
  have isLeast {index : Nat} (behind : last ≤ index) (present : '{' ∈ lines.getD index []) :
      brace ≤ index :=
    opening.2 ⟨fromStart.trans behind, present, last, fromStart, behind, parenthesis⟩
  rcases braced with own | next
  · rw [mem_trimmedAt_iff rfl] at own
    obtain rfl : last = brace := Nat.le_antisymm upToBrace (isLeast le_rfl own)
    exact Or.inl parenthesis
  · have atMost := isLeast (Nat.le_succ last)
      ((mem_trimmedAt_iff rfl _).mp (mem_of_startsWith_brace next))
    rcases Nat.eq_or_lt_of_le upToBrace with rfl | earlier
    · exact Or.inl parenthesis
    · obtain rfl : last + 1 = brace := Nat.le_antisymm earlier atMost
      exact Or.inr ⟨last, fromStart, rfl, parenthesis, next⟩

/-- A brace that is seen ends the header on its own line or on the line before it. -/
theorem IsOpeningBrace.exists_endsAt_of_isSeen
    (opening : IsOpeningBrace lines start brace)
    (seen : IsSeen lines start brace) :
    ∃ index, start ≤ index ∧ index ≤ brace ∧ EndsAt lines index := by
  rcases seen with own | ⟨before, fromStart, rfl, parenthesis, begins⟩
  · refine ⟨brace, opening.1.1, le_rfl, ?_, Or.inl ?_⟩
    · exact (mem_trimmedAt_iff rfl _).mpr own
    · exact (mem_trimmedAt_iff rfl _).mpr opening.1.2.1
  · refine ⟨before, fromStart, Nat.le_succ before, ?_, Or.inr begins⟩
    exact (mem_trimmedAt_iff rfl _).mpr parenthesis

/-! ## The last line of a declaration -/

/-- When the opening brace of a header stands in the window, the declaration has no line behind that
of the brace exactly when the brace is seen or the window has no further line. -/
theorem exists_showsUpTo_le_iff
    (opening : IsOpeningBrace lines start brace)
    (within : brace ≤ start + limit) :
    ∃ last, start ≤ last ∧ last ≤ windowEnd lines start limit ∧
      ShowsUpTo lines start limit last ∧
        (last ≤ brace ↔ IsSeen lines start brace ∨ windowEnd lines start limit = brace) := by
  have braceInBounds := opening.lt_length
  have fromStart : start ≤ brace := opening.1.1
  have inBounds : start < lines.length := fromStart.trans_lt braceInBounds
  have braceInWindow : brace ≤ windowEnd lines start limit := by
    rw [windowEnd]
    omega
  obtain ⟨text, header⟩ := exists_isHeader lines start limit
  have read := extract_of_isHeader inBounds header
  cases header with
  | @ended last least =>
      obtain ⟨⟨behindStart, inWindow, ends⟩, first⟩ := least
      refine ⟨last, behindStart, inWindow, ⟨_, ?_, read⟩, ?_, ?_⟩
      · split <;> simp
      · intro upToBrace
        exact Or.inl (opening.isSeen_of_endsAt ends behindStart upToBrace)
      · rintro (seen | atEnd)
        · obtain ⟨index, behind, upToBrace, endsThere⟩ := opening.exists_endsAt_of_isSeen seen
          exact (first ⟨behind, upToBrace.trans braceInWindow, endsThere⟩).trans upToBrace
        · exact inWindow.trans atEnd.le
  | unended goesOn =>
      refine ⟨windowEnd lines start limit, fromStart.trans braceInWindow, le_rfl,
        ⟨[], List.mem_cons_self, by rw [List.append_nil]; exact read⟩, ?_, ?_⟩
      · intro upToBrace
        exact Or.inr (Nat.le_antisymm upToBrace braceInWindow)
      · rintro (seen | atEnd)
        · obtain ⟨index, behind, upToBrace, endsThere⟩ := opening.exists_endsAt_of_isSeen seen
          exact absurd endsThere (goesOn index behind (upToBrace.trans braceInWindow))
        · exact atEnd.le

/-- A header whose brace begins the line behind the closing parenthesis. -/
def headerAboveBrace : List Text :=
  ["function f(".toList, "  $a)".toList, "\x7b".toList, "return $a; \x7d".toList]

/-- This brace is seen, and nothing of the body is shown. -/
theorem exists_showsUpTo_le_iff_sample :
    IsOpeningBrace headerAboveBrace 0 2 ∧ 2 ≤ 0 + 10 ∧
      ∃ last ≤ 2, ShowsUpTo headerAboveBrace 0 10 last := by
  have opening : IsOpeningBrace headerAboveBrace 0 2 := by decide
  have within : 2 ≤ 0 + 10 := by decide
  refine ⟨opening, within, ?_⟩
  obtain ⟨last, -, -, shows, upToBrace⟩ := exists_showsUpTo_le_iff opening within
  have seen : IsSeen headerAboveBrace 0 2 :=
    Or.inr ⟨1, Nat.zero_le 1, rfl, by decide, by decide +kernel⟩
  exact ⟨last, upToBrace.mpr (Or.inl seen), shows⟩

/-- A header with its return type and its brace on the line behind the closing parenthesis. -/
def headerAboveReturnType : List Text :=
  ["public function get($id)".toList, "    : int \x7b".toList, "    return $id;".toList,
    "\x7d".toList]

/-- The brace behind the return type is passed, and the declaration takes in the body. -/
theorem not_showsUpTo_of_returnType :
    0 < headerAboveReturnType.length ∧ IsOpeningBrace headerAboveReturnType 0 1 ∧ 1 ≤ 0 + 10 ∧
      extract headerAboveReturnType 0 10 =
        .ok "public function get($id) : int \x7b return $id; \x7d".toList ∧
      ¬∃ last ≤ 1, ShowsUpTo headerAboveReturnType 0 10 last := by
  refine ⟨by decide, by decide, by decide, by decide +kernel, ?_⟩
  rintro ⟨last, upToBrace, ending, isEnding, shown⟩
  have differs : ∀ last ≤ 1, ∀ ending ∈ ([[], [' ', '{']] : List Text),
      extract headerAboveReturnType 0 10 ≠
        .ok (Text.join [' '] (trimmedLines headerAboveReturnType 0 (last + 1)) ++ ending) := by
    decide +kernel
  exact differs last upToBrace ending isEnding shown

end Declaration
end ModelNav
