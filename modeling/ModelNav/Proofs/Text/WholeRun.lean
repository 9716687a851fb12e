import Mathlib.Data.List.Basic
import ModelNav.Text.Basic

/-!
# Whole runs of characters

A whole run of characters of a class is described by the columns at which it begins and ends: all
characters in between belong to the class, and neither neighbour does.  It cuts its text in three.
-/

namespace ModelNav
namespace Text

/-- The characters from one column up to another one, which is left out. -/
def between (text : Text) (start stop : Nat) : Text :=
  (text.take stop).drop start

/-- From one column up to another one, which is left out, stand characters of a class, at least one,
and none right before or behind them. -/
structure IsWholeRun (holds : Char → Bool) (text : Text) (start stop : Nat) : Prop where
  ordered : start < stop
  inside : ∀ column, start ≤ column → column < stop →
    ∃ character ∈ text[column]?, holds character = true
  before : ∀ column, column + 1 = start → ∀ character ∈ text[column]?, holds character = false
  behind : ∀ character ∈ text[stop]?, holds character = false

variable {holds : Char → Bool} {text before run after : Text} {start stop : Nat}

@[simp]
theorem between_append (before run after : Text) :
    between (before ++ run ++ after) before.length (before.length + run.length) = run := by
  rw [between, ← List.length_append, List.take_left, List.drop_left]

theorem getElem?_before
    {column : Nat}
    (isLast : column + 1 = before.length) :
    (before ++ run ++ after)[column]? = before.getLast? := by
  have inBefore : column < before.length := Nat.lt_of_succ_le (Nat.le_of_eq isLast)
  rw [List.append_assoc, List.getElem?_append_left inBefore, List.getLast?_eq_getElem?, ← isLast,
    Nat.add_sub_cancel]

theorem getElem?_inside
    {offset : Nat}
    (inRun : offset < run.length) :
    (before ++ run ++ after)[before.length + offset]? = run[offset]? := by
  rw [List.append_assoc, List.getElem?_append_right (Nat.le_add_right _ _),
    Nat.add_sub_cancel_left, List.getElem?_append_left inRun]

theorem getElem?_behind
    (offset : Nat) :
    (before ++ run ++ after)[before.length + run.length + offset]? = after[offset]? := by
  rw [← List.length_append, List.getElem?_append_right (Nat.le_add_right _ _),
    Nat.add_sub_cancel_left]

/-- The part between two others is a whole run when it has characters of the class only and is
neither preceded nor followed by one. -/
theorem isWholeRun_append_iff :
    IsWholeRun holds (before ++ run ++ after) before.length (before.length + run.length) ↔
      run ≠ [] ∧ (∀ character ∈ run, holds character = true) ∧
        (∀ character ∈ before.getLast?, holds character = false) ∧
          ∀ character ∈ after.head?, holds character = false := by
  have behind_eq : (before ++ run ++ after)[before.length + run.length]? = after.head? := by
    rw [List.head?_eq_getElem?]
    exact getElem?_behind 0
  constructor
  · intro isRun
    refine ⟨?_, ?_, ?_, ?_⟩
    · rintro rfl
      exact Nat.lt_irrefl _ isRun.ordered
    · intro character present
      obtain ⟨offset, inRun, rfl⟩ := List.mem_iff_getElem.mp present
      obtain ⟨found, isFound, held⟩ :=
        isRun.inside (before.length + offset) (Nat.le_add_right _ _) (by omega)
      rw [getElem?_inside inRun, List.getElem?_eq_getElem inRun] at isFound
      rwa [Option.some.inj isFound]
    · intro character isLast
      cases column_eq : before.length with
      | zero => simp [List.eq_nil_of_length_eq_zero column_eq] at isLast
      | succ column =>
          apply isRun.before column column_eq.symm
          rwa [getElem?_before column_eq.symm]
    · rw [← behind_eq]
      exact isRun.behind
  · rintro ⟨present, held, last, first⟩
    refine ⟨?_, ?_, ?_, ?_⟩
    · have := List.length_pos_iff.mpr present
      omega
    · intro column behindStart beforeStop
      obtain ⟨offset, rfl⟩ := Nat.exists_eq_add_of_le behindStart
      have inRun : offset < run.length := by omega
      refine ⟨run[offset], ?_, held _ (List.getElem_mem inRun)⟩
      rw [getElem?_inside inRun, List.getElem?_eq_getElem inRun]
      rfl
    · intro column isLast
      rw [getElem?_before isLast]
      exact last
    · rw [behind_eq]
      exact first

/-- The characters of a class that end a text are all of them when none stands before. -/
theorem exists_run_behind
    (holds : Char → Bool)
    (text : Text) :
    ∃ before run : Text,
      text = before ++ run ∧ (∀ character ∈ run, holds character = true) ∧
        ∀ character ∈ before.getLast?, holds character = false := by
  refine ⟨(text.reverse.dropWhile holds).reverse, (text.reverse.takeWhile holds).reverse,
    ?_, ?_, ?_⟩
  · rw [← List.reverse_append, List.takeWhile_append_dropWhile, List.reverse_reverse]
  · intro character present
    exact List.all_eq_true.mp List.all_takeWhile character (List.mem_reverse.mp present)
  · intro character isLast
    rw [List.getLast?_reverse] at isLast
    simpa [Option.mem_def.mp isLast] using List.head?_dropWhile_not holds text.reverse

/-- A whole run ends no later than its text. -/
theorem IsWholeRun.stop_le
    (isRun : IsWholeRun holds text start stop) :
    stop ≤ text.length := by
  have ordered := isRun.ordered
  obtain ⟨character, isLast, -⟩ := isRun.inside (stop - 1) (by omega) (by omega)
  obtain ⟨inBounds, -⟩ := List.getElem?_eq_some_iff.mp isLast
  omega

/-- Whole runs that begin together end together. -/
theorem IsWholeRun.stop_unique
    {otherStop : Nat}
    (isRun : IsWholeRun holds text start stop)
    (isRunOther : IsWholeRun holds text start otherStop) :
    stop = otherStop := by
  have notShorter {first second : Nat}
      (isFirst : IsWholeRun holds text start first)
      (isSecond : IsWholeRun holds text start second) :
      second ≤ first := by
    by_contra shorter
    obtain ⟨character, present, held⟩ :=
      isSecond.inside first (Nat.le_of_lt isFirst.ordered) (Nat.lt_of_not_le shorter)
    rw [isFirst.behind character present] at held
    contradiction
  exact Nat.le_antisymm (notShorter isRunOther isRun) (notShorter isRun isRunOther)

/-- Two columns cut a text in three. -/
theorem exists_cut
    (ordered : start ≤ stop)
    (inBounds : stop ≤ text.length) :
    ∃ before run after : Text,
      text = before ++ run ++ after ∧
        before.length = start ∧ before.length + run.length = stop := by
  refine ⟨text.take start, between text start stop, text.drop stop, ?_, ?_, ?_⟩
  · have front : text.take start = (text.take stop).take start := by
      rw [List.take_take, Nat.min_eq_left ordered]
    rw [between, front, List.take_append_drop, List.take_append_drop]
  · exact List.length_take_of_le (Nat.le_trans ordered inBounds)
  · rw [between, List.length_drop, List.length_take_of_le inBounds,
      List.length_take_of_le (Nat.le_trans ordered inBounds)]
    omega

end Text
end ModelNav
