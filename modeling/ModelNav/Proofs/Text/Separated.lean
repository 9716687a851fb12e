import Mathlib.Data.List.Basic
import ModelNav.Proofs.Text.Pieces

/-!
# Pieces between separators

Cutting a text at every separator and joining the pieces with that separator undo each other.  What
stands in front of the first separator belongs to the first piece alone.
-/

namespace ModelNav
namespace Text

/-! ## Joining -/

theorem join_cons_cons (separator piece next : Text) (pieces : List Text) :
    join separator (piece :: next :: pieces) =
      piece ++ separator ++ join separator (next :: pieces) := by
  simp [join, List.intercalate]

/-- A piece that is joined at the end stands behind a separator. -/
theorem join_append_singleton
    {pieces : List Text}
    (present : pieces ≠ [])
    (separator last : Text) :
    join separator (pieces ++ [last]) = join separator pieces ++ separator ++ last := by
  induction pieces with
  | nil => contradiction
  | cons piece pieces inductionHypothesis =>
      cases pieces with
      | nil => simp [join_cons_cons]
      | cons next others =>
          rw [List.cons_append, List.cons_append, join_cons_cons, ← List.cons_append,
            inductionHypothesis (List.cons_ne_nil _ _), join_cons_cons]
          simp only [List.append_assoc]

/-- Pieces that are joined have the separator behind each of them but the last. -/
theorem join_append_singleton_eq_flatten
    (separator last : Text)
    (pieces : List Text) :
    join separator (pieces ++ [last]) = (pieces.map (· ++ separator)).flatten ++ last := by
  induction pieces with
  | nil => simp
  | cons piece pieces inductionHypothesis =>
      obtain ⟨next, others, split⟩ :=
        List.exists_cons_of_ne_nil (List.append_ne_nil_of_right_ne_nil pieces
          (List.cons_ne_nil last []))
      rw [List.cons_append, split, join_cons_cons, ← split, inductionHypothesis]
      simp

/-- A character that is in no separator comes from one of the pieces. -/
theorem mem_join_iff
    {separator : Text}
    {character : Char}
    (absent : character ∉ separator)
    (pieces : List Text) :
    character ∈ join separator pieces ↔ ∃ piece ∈ pieces, character ∈ piece := by
  induction pieces with
  | nil => simp
  | cons piece pieces inductionHypothesis =>
      cases pieces with
      | nil => simp
      | cons next others =>
          rw [join_cons_cons, List.mem_append, List.mem_append, inductionHypothesis]
          simp [absent]

/-! ## Cutting -/

variable {separator : Char}

/-- A text has one piece more than separators. -/
theorem length_splitOn
    (separator : Char)
    (text : Text) :
    (splitOn separator text).length = text.count separator + 1 := by
  induction text with
  | nil => rfl
  | cons first rest inductionHypothesis =>
      obtain ⟨piece, pieces, split⟩ := List.exists_cons_of_ne_nil (splitOn_ne_nil separator rest)
      rw [split] at inductionHypothesis
      rw [splitOn, split, List.count_cons]
      by_cases separates : first = separator
      · simpa [separates] using inductionHypothesis
      · simpa [separates] using inductionHypothesis

/-- The first of several pieces is empty only when the text begins with a separator. -/
theorem head?_of_splitOn_eq_nil_cons
    {text next : Text}
    {pieces : List Text}
    (split : splitOn separator text = [] :: next :: pieces) :
    text.head? = some separator := by
  cases text with
  | nil => simp at split
  | cons first rest =>
      by_cases separates : first = separator
      · rw [List.head?_cons, separates]
      · obtain ⟨piece, others, splitRest⟩ :=
          List.exists_cons_of_ne_nil (splitOn_ne_nil separator rest)
        simp [splitOn, separates, splitRest] at split

/-- What has no separator and stands in front of a text is put in front of its first piece. -/
theorem splitOn_append_of_notMem
    {front : Text}
    (absent : separator ∉ front)
    (rest : Text) :
    splitOn separator (front ++ rest) = (splitOn separator rest).modifyHead (front ++ ·) := by
  obtain ⟨piece, pieces, split⟩ := List.exists_cons_of_ne_nil (splitOn_ne_nil separator rest)
  induction front with
  | nil => simp [split]
  | cons first front inductionHypothesis =>
      rw [List.mem_cons, not_or] at absent
      rw [List.cons_append, splitOn, if_neg (Ne.symm absent.1), inductionHypothesis absent.2, split]
      rfl

theorem splitOn_of_notMem
    {piece : Text}
    (absent : separator ∉ piece) :
    splitOn separator piece = [piece] := by
  simpa using splitOn_append_of_notMem absent []

theorem splitOn_append_cons
    {piece : Text}
    (absent : separator ∉ piece)
    (rest : Text) :
    splitOn separator (piece ++ separator :: rest) = piece :: splitOn separator rest := by
  rw [splitOn_append_of_notMem absent, splitOn, if_pos rfl]
  simp

/-- Pieces that were joined are found again. -/
theorem splitOn_join
    {piece : Text}
    {pieces : List Text}
    (absent : ∀ other ∈ piece :: pieces, separator ∉ other) :
    splitOn separator (join [separator] (piece :: pieces)) = piece :: pieces := by
  induction pieces generalizing piece with
  | nil => rw [join_singleton, splitOn_of_notMem (absent piece List.mem_cons_self)]
  | cons next pieces inductionHypothesis =>
      rw [List.forall_mem_cons] at absent
      rw [join_cons_cons, List.append_assoc, List.singleton_append, splitOn_append_cons absent.1,
        inductionHypothesis absent.2]

/-- No piece holds the separator. -/
theorem notMem_of_mem_splitOn
    {text piece : Text}
    (present : piece ∈ splitOn separator text) :
    separator ∉ piece := by
  induction text generalizing piece with
  | nil =>
      obtain rfl : piece = [] := by simpa using present
      exact List.not_mem_nil
  | cons first rest inductionHypothesis =>
      obtain ⟨head, pieces, split⟩ := List.exists_cons_of_ne_nil (splitOn_ne_nil separator rest)
      simp only [split, List.forall_mem_cons] at inductionHypothesis
      rw [splitOn, split] at present
      by_cases separates : first = separator
      · rw [if_pos separates, List.mem_cons] at present
        rcases present with rfl | further
        · exact List.not_mem_nil
        · rcases List.mem_cons.mp further with rfl | inPieces
          · exact inductionHypothesis.1
          · exact inductionHypothesis.2 piece inPieces
      · rw [if_neg separates, List.mem_cons] at present
        rcases present with rfl | inPieces
        · rw [List.mem_cons, not_or]
          exact ⟨fun same => separates same.symm, inductionHypothesis.1⟩
        · exact inductionHypothesis.2 piece inPieces

/-- The pieces of a text, joined again, are the text. -/
theorem join_splitOn
    (separator : Char)
    (text : Text) :
    join [separator] (splitOn separator text) = text := by
  induction text with
  | nil => simp
  | cons first rest inductionHypothesis =>
      obtain ⟨piece, pieces, split⟩ := List.exists_cons_of_ne_nil (splitOn_ne_nil separator rest)
      rw [split] at inductionHypothesis
      rw [splitOn]
      split
      · rename_i same
        rw [split, join_cons_cons, inductionHypothesis, same]
        rfl
      · rw [split]
        dsimp only
        cases pieces with
        | nil =>
            rw [join_singleton] at inductionHypothesis
            rw [join_singleton, inductionHypothesis]
        | cons next pieces =>
            rw [join_cons_cons] at inductionHypothesis
            rw [join_cons_cons, ← inductionHypothesis]
            rfl

/-- The pieces hold no other characters than the text. -/
theorem subset_of_mem_splitOn
    {text piece : Text}
    (present : piece ∈ splitOn separator text) :
    piece ⊆ text := by
  intro character inPiece
  have other : character ∉ [separator] := by
    rw [List.mem_singleton]
    rintro rfl
    exact notMem_of_mem_splitOn present inPiece
  rw [← join_splitOn separator text, mem_join_iff other]
  exact ⟨piece, present, inPiece⟩

end Text
end ModelNav
