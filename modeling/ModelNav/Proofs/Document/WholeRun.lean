import Mathlib.Data.Set.Subsingleton
import ModelNav.Proofs.Document
import ModelNav.Proofs.Text.WholeRun

/-!
# The word under the cursor as a whole run

The word at a position is the whole run of identifier characters that the column touches: the column
lies inside the run or right behind it.  Whole runs do not touch each other, so there is at most one
such run, and there is none exactly when neither character beside the column is an identifier
character.
-/

namespace ModelNav
namespace Document

/-- The characters of words are the letters and digits of ASCII, the underscore and the dollar
sign. -/
theorem isIdentifier_iff
    {character : Char} :
    isIdentifier character = true ↔
      ('A' ≤ character ∧ character ≤ 'Z') ∨ ('a' ≤ character ∧ character ≤ 'z') ∨
        ('0' ≤ character ∧ character ≤ '9') ∨ character = '_' ∨ character = '$' := by
  have alphanumeric : character.isAlphanum =
      ((decide ('A' ≤ character ∧ character ≤ 'Z') ||
          decide ('a' ≤ character) && decide (character ≤ 'z')) ||
        decide ('0' ≤ character) && decide (character ≤ '9')) := rfl
  simp only [isIdentifier, alphanumeric, Bool.or_eq_true, Bool.and_eq_true, decide_eq_true_eq,
    beq_iff_eq, or_assoc]

/-- A whole run of identifier characters of the line reaches from one column to another one, and the
cursor is inside the run or at one of its ends. -/
structure IsWordAt
    (document : Document)
    (position : Position)
    (start stop : Nat) : Prop where
  isWholeRun : Text.IsWholeRun isIdentifier (document.lineAt position.line) start stop
  start_le : start ≤ position.character
  le_stop : position.character ≤ stop

variable {document : Document} {position : Position} {front left right back line : Text}
  {start stop column : Nat}

/-- At a column inside a run of identifier characters, or beside it, the word is the run. -/
theorem wordRange?_append
    (identifiers : ∀ character ∈ left ++ right, isIdentifier character = true)
    (stopsBefore : ∀ character ∈ front.getLast?, isIdentifier character = false)
    (stopsBehind : ∀ character ∈ back.head?, isIdentifier character = false) :
    wordRange? (front ++ (left ++ right) ++ back) (front.length + left.length) =
      if left ++ right = [] then none
      else some (front.length, front.length + (left ++ right).length) := by
  have split : front ++ (left ++ right) ++ back = front ++ left ++ (right ++ back) := by
    simp only [List.append_assoc]
  have before : (front ++ left).reverse.takeWhile isIdentifier = left.reverse := by
    have inLeft : ∀ character ∈ left.reverse, isIdentifier character = true := fun character here =>
      identifiers character (List.mem_append_left _ (List.mem_reverse.mp here))
    rw [List.reverse_append, List.takeWhile_append_of_pos inLeft, takeWhile_eq_nil_iff_head?.mpr,
      List.append_nil]
    rwa [List.head?_reverse]
  have after : (right ++ back).takeWhile isIdentifier = right := by
    have inRight : ∀ character ∈ right, isIdentifier character = true := fun character here =>
      identifiers character (List.mem_append_right _ here)
    rw [List.takeWhile_append_of_pos inRight, takeWhile_eq_nil_iff_head?.mpr stopsBehind,
      List.append_nil]
  rw [wordRange?, split, ← List.length_append, List.take_left, List.drop_left, before, after]
  by_cases empty : left ++ right = []
  · obtain ⟨rfl, rfl⟩ := List.append_eq_nil_iff.mp empty
    simp
  · have bounded : ¬(front ++ left ++ (right ++ back)).length < (front ++ left).length := by
      rw [List.length_append]
      omega
    have present : ¬(left.reverse = [] ∧ right = []) := by
      rwa [List.reverse_eq_nil_iff, ← List.append_eq_nil_iff]
    rw [if_neg (not_or.mpr ⟨bounded, present⟩), if_neg empty, List.length_reverse,
      List.length_append, List.length_append, Nat.add_sub_cancel, Nat.add_assoc]

/-- Around a column of a line the identifier characters form a run, which may be empty. -/
theorem exists_run_around
    (bounded : column ≤ line.length) :
    ∃ front left right back : Text,
      line = front ++ (left ++ right) ++ back ∧ front.length + left.length = column ∧
        (∀ character ∈ left ++ right, isIdentifier character = true) ∧
          (∀ character ∈ front.getLast?, isIdentifier character = false) ∧
            ∀ character ∈ back.head?, isIdentifier character = false := by
  obtain ⟨front, left, front_eq, inLeft, stopsBefore⟩ :=
    Text.exists_run_behind isIdentifier (line.take column)
  refine ⟨front, left, (line.drop column).takeWhile isIdentifier,
    (line.drop column).dropWhile isIdentifier, ?_, ?_, ?_, stopsBefore, ?_⟩
  · rw [List.append_assoc, List.append_assoc, List.takeWhile_append_dropWhile, ← List.append_assoc,
      ← front_eq, List.take_append_drop]
  · rw [← List.length_append, ← front_eq, List.length_take_of_le bounded]
  · intro character present
    rcases List.mem_append.mp present with before | after
    · exact inLeft character before
    · exact List.all_eq_true.mp List.all_takeWhile character after
  · intro character first
    simpa [Option.mem_def.mp first] using
      List.head?_dropWhile_not isIdentifier (line.drop column)

/-- The word at a column is the whole run that the column touches. -/
theorem wordRange?_eq_some_iff :
    wordRange? line column = some (start, stop) ↔
      Text.IsWholeRun isIdentifier line start stop ∧ start ≤ column ∧ column ≤ stop := by
  constructor
  · intro found
    have bounded : column ≤ line.length := by
      by_contra beyond
      rw [wordRange?, if_pos (Or.inl (Nat.lt_of_not_le beyond))] at found
      contradiction
    obtain ⟨front, left, right, back, rfl, rfl, identifiers, stopsBefore, stopsBehind⟩ :=
      exists_run_around bounded
    rw [wordRange?_append identifiers stopsBefore stopsBehind] at found
    split at found
    · contradiction
    · rename_i present
      obtain ⟨rfl, rfl⟩ := Prod.mk.inj (Option.some.inj found)
      refine ⟨Text.isWholeRun_append_iff.mpr ⟨present, identifiers, stopsBefore, stopsBehind⟩,
        Nat.le_add_right _ _, ?_⟩
      rw [List.length_append]
      omega
  · rintro ⟨isRun, start_le, le_stop⟩
    obtain ⟨front, run, back, rfl, rfl, rfl⟩ :=
      Text.exists_cut (Nat.le_of_lt isRun.ordered) isRun.stop_le
    obtain ⟨present, identifiers, stopsBefore, stopsBehind⟩ := Text.isWholeRun_append_iff.mp isRun
    -- The column cuts the run in two.
    obtain ⟨inRun, rfl⟩ := Nat.exists_eq_add_of_le start_le
    have left_length : (run.take inRun).length = inRun := List.length_take_of_le (by omega)
    have whole := @wordRange?_append front (run.take inRun) (run.drop inRun) back
    rw [List.take_append_drop, left_length] at whole
    rw [whole identifiers stopsBefore stopsBehind, if_neg present]

/-- The word at a position is exactly the whole run of ASCII letters, digits, underscores and dollar
signs that the cursor touches, there is at most one such run, and no word is found exactly when
neither the character at the cursor nor the one before it is such a character, as on a line outside
the document or at a column beyond the end of the line. -/
theorem wordAt?_eq_some_iff_isWordAt
    (document : Document)
    (position : Position) :
    (∀ start stop,
        document.wordAt? position = some (start, stop) ↔
          document.IsWordAt position start stop) ∧
      {range : Nat × Nat | document.IsWordAt position range.1 range.2}.Subsingleton ∧
        (document.wordAt? position = none ↔ ¬document.TouchesWord position) ∧
          (document.lines.length ≤ position.line ∨
              (document.lineAt position.line).length < position.character →
            document.wordAt? position = none) ∧
            ∀ character, isIdentifier character = true ↔
              ('A' ≤ character ∧ character ≤ 'Z') ∨ ('a' ≤ character ∧ character ≤ 'z') ∨
                ('0' ≤ character ∧ character ≤ '9') ∨ character = '_' ∨ character = '$' := by
  have found_iff (start stop : Nat) :
      document.wordAt? position = some (start, stop) ↔
        document.IsWordAt position start stop := by
    rw [wordAt?, wordRange?_eq_some_iff]
    constructor
    · rintro ⟨isRun, start_le, le_stop⟩
      exact ⟨isRun, start_le, le_stop⟩
    · intro isWord
      exact ⟨isWord.isWholeRun, isWord.start_le, isWord.le_stop⟩
  refine ⟨found_iff, ?_, ?_, ?_, fun character => isIdentifier_iff⟩
  · rintro ⟨start, stop⟩ isWord ⟨otherStart, otherStop⟩ isWordOther
    have found := (found_iff start stop).mpr isWord
    rw [(found_iff otherStart otherStop).mpr isWordOther] at found
    exact (Option.some.inj found).symm
  · rw [← Option.isNone_iff_eq_none, isNone_wordAt?_iff]
  · intro outside
    rw [← Option.isNone_iff_eq_none, isNone_wordAt?_iff]
    rintro ⟨column, character, standsAt, -, beside⟩
    obtain ⟨inBounds, -⟩ := List.getElem?_eq_some_iff.mp standsAt
    rcases outside with noLine | beyond
    · rw [lineAt_natCast, List.getD_eq_default _ _ noLine] at inBounds
      exact Nat.not_lt_zero _ inBounds
    · omega

/-- Two words, the first of which a letter beyond ASCII ends. -/
def Sample.words : Document where
  text := "x\n$caf_é -> b".toList

/-- Right behind a word the cursor is on it, and below the last line it is on none. -/
theorem wordAt?_eq_some_iff_isWordAt_sample :
    Sample.words.IsWordAt ⟨1, 5⟩ 0 5 ∧
      ((Sample.words.lines.length ≤ 2 ∨ (Sample.words.lineAt 2).length < 0) ∧
        Sample.words.wordAt? ⟨2, 0⟩ = none) := by
  have below : Sample.words.lines.length ≤ 2 ∨ (Sample.words.lineAt 2).length < 0 := by
    decide
  obtain ⟨found, -⟩ := wordAt?_eq_some_iff_isWordAt Sample.words ⟨1, 5⟩
  obtain ⟨-, -, -, outside, -⟩ := wordAt?_eq_some_iff_isWordAt Sample.words ⟨2, 0⟩
  exact ⟨(found 0 5).mp (by decide), below, outside below⟩

end Document
end ModelNav
