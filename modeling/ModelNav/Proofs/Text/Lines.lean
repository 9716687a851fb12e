import Mathlib.Data.List.Basic
import ModelNav.Proofs.Text.Separated
import ModelNav.Text.Lines

/-!
# Lines of texts

The lines of a text are described in two steps: the text is cut at every line feed, and then each
piece but the last loses one carriage return at its end.  A line that a line end closes does not
change when more text follows.
-/

namespace ModelNav
namespace Text

/-- A character that neither ends a line nor begins a line end belongs to the first line. -/
theorem lines_cons_of_inside
    {first : Char}
    {rest : Text}
    (noFeed : first ≠ '\n')
    (noPair : first = '\r' → rest.head? ≠ some '\n') :
    ∃ line others,
      lines rest = line :: others ∧ lines (first :: rest) = (first :: line) :: others := by
  obtain ⟨line, others, split⟩ := List.exists_cons_of_ne_nil (lines_ne_nil rest)
  refine ⟨line, others, split, ?_⟩
  rw [lines.eq_4]
  · rw [split]
  · exact noFeed
  · intro further carriage equal
    exact noPair carriage (by rw [equal, List.head?_cons])

/-! ## Pieces between line feeds -/

/-- The piece without one carriage return at its end. -/
def dropReturn (piece : Text) : Text :=
  if piece.getLast? = some '\r' then piece.dropLast else piece

/-- The line end behind a piece that a line feed follows: a carriage return at the end of the piece
belongs to it. -/
def lineEnd (piece : Text) : Text :=
  if piece.getLast? = some '\r' then ['\r', '\n'] else ['\n']

/-- Only a piece that is a carriage return loses its first character. -/
theorem dropReturn_cons
    {first : Char}
    {piece : Text}
    (further : first = '\r' → piece ≠ []) :
    dropReturn (first :: piece) = first :: dropReturn piece := by
  cases piece with
  | nil =>
      have noReturn : first ≠ '\r' := fun same => further same rfl
      simp [dropReturn, noReturn]
  | cons second rest =>
      rw [dropReturn, dropReturn, List.getLast?_cons_cons]
      split
      · rw [List.dropLast_cons_of_ne_nil (List.cons_ne_nil second rest)]
      · rfl

theorem dropReturn_eq_self
    {piece : Text}
    (returnFree : '\r' ∉ piece) :
    dropReturn piece = piece :=
  if_neg fun carriage => returnFree (List.mem_of_getLast? carriage)

theorem dropReturn_isPrefix (piece : Text) : dropReturn piece <+: piece := by
  rw [dropReturn]
  split
  · exact List.dropLast_prefix piece
  · exact List.prefix_rfl

/-- What is left of a piece and its line end make up the piece and the line feed behind it. -/
theorem dropReturn_append_lineEnd (piece : Text) :
    dropReturn piece ++ lineEnd piece = piece ++ ['\n'] := by
  rw [dropReturn, lineEnd]
  split
  · rename_i carriage
    obtain ⟨front, rfl⟩ := List.getLast?_eq_some_iff.mp carriage
    simp
  · rfl

/-- The lines are the pieces between line feeds, each but the last without one carriage return at
its end. -/
theorem exists_pieces_lines (text : Text) :
    ∃ pieces last,
      splitOn '\n' text = pieces ++ [last] ∧ lines text = pieces.map dropReturn ++ [last] := by
  fun_induction lines text with
  | case1 => exact ⟨[], [], rfl, rfl⟩
  | case2 rest inductionHypothesis =>
      obtain ⟨pieces, last, split, cut⟩ := inductionHypothesis
      refine ⟨[] :: pieces, last, ?_, ?_⟩
      · rw [splitOn, if_pos rfl, split, List.cons_append]
      · rw [cut]
        rfl
  | case3 rest inductionHypothesis =>
      obtain ⟨pieces, last, split, cut⟩ := inductionHypothesis
      refine ⟨['\r'] :: pieces, last, ?_, ?_⟩
      · rw [splitOn, if_neg (by decide), splitOn, if_pos rfl, split, List.cons_append]
      · rw [cut]
        rfl
  | case4 first rest noFeed noPair unsplit => exact absurd unsplit (lines_ne_nil rest)
  | case5 first rest noFeed noPair line others cut inductionHypothesis =>
      obtain ⟨pieces, last, split, cutRest⟩ := inductionHypothesis
      rw [cut] at cutRest
      cases pieces with
      | nil =>
          obtain ⟨rfl, rfl⟩ : line = last ∧ others = [] := by simpa using cutRest
          refine ⟨[], first :: line, ?_, rfl⟩
          rw [splitOn, if_neg noFeed, split]
          rfl
      | cons piece pieces =>
          obtain ⟨rfl, rfl⟩ : line = dropReturn piece ∧
              others = pieces.map dropReturn ++ [last] := by
            simpa using cutRest
          -- A carriage return with a line feed behind it would be a line end.
          have further : first = '\r' → piece ≠ [] := by
            rintro carriage rfl
            obtain ⟨next, more, nonempty⟩ :=
              List.exists_cons_of_ne_nil (List.append_ne_nil_of_right_ne_nil pieces
                (List.cons_ne_nil last []))
            rw [List.cons_append, nonempty] at split
            obtain ⟨after, feed⟩ :=
              List.head?_eq_some_iff.mp (head?_of_splitOn_eq_nil_cons split)
            exact noPair after carriage feed
          refine ⟨(first :: piece) :: pieces, last, ?_, ?_⟩
          · rw [splitOn, if_neg noFeed, split]
            rfl
          · rw [List.map_cons, dropReturn_cons further]
            rfl

/-! ## Texts that grow -/

/-- Text that is appended changes no line but the last one. -/
theorem getElem?_lines_append
    {text : Text}
    {index : Nat}
    (notLast : index + 1 < (lines text).length)
    (appended : Text) :
    (lines (text ++ appended))[index]? = (lines text)[index]? := by
  fun_induction lines text generalizing index with
  | case1 => simp at notLast
  | case2 rest inductionHypothesis =>
      rw [List.cons_append, lines.eq_2]
      cases index with
      | zero => rfl
      | succ index =>
          rw [List.getElem?_cons_succ, List.getElem?_cons_succ]
          exact inductionHypothesis (by simpa using notLast)
  | case3 rest inductionHypothesis =>
      rw [List.cons_append, List.cons_append, lines.eq_3]
      cases index with
      | zero => rfl
      | succ index =>
          rw [List.getElem?_cons_succ, List.getElem?_cons_succ]
          exact inductionHypothesis (by simpa using notLast)
  | case4 first rest noFeed noPair unsplit inductionHypothesis =>
      exact absurd unsplit (lines_ne_nil rest)
  | case5 first rest noFeed noPair line others split inductionHypothesis =>
      have longer : index + 1 < (lines rest).length := by
        rw [split]
        simpa using notLast
      have pairless : first = '\r' → (rest ++ appended).head? ≠ some '\n' := by
        intro carriage
        cases rest with
        | nil => simp at longer
        | cons next further =>
            intro feed
            rw [List.cons_append, List.head?_cons, Option.some.injEq] at feed
            exact noPair further carriage (by rw [feed])
      obtain ⟨grown, others', splitGrown, linesGrown⟩ := lines_cons_of_inside noFeed pairless
      have same := inductionHypothesis longer
      rw [List.cons_append, linesGrown]
      rw [splitGrown, split] at same
      cases index with
      | zero =>
          rw [List.getElem?_cons_zero, List.getElem?_cons_zero, Option.some.injEq] at same ⊢
          rw [same]
      | succ index => exact same

end Text
end ModelNav
