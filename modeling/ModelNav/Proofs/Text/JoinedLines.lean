import ModelNav.Proofs.Text.Lines
import ModelNav.Proofs.Text.Separated

/-!
# Texts made of lines

A text that is made of lines has them back when it is read from a file and cut: whatever marks stand
between the lines, line feeds with or without a carriage return in any mixture, or carriage returns
alone, reading leaves line feeds, and cutting finds the lines between them.
-/

namespace ModelNav
namespace Text

/-- The text has the given lines in their order, with one of the marks between neighbours. -/
inductive JoinedBy (marks : List Text) : List Text → Text → Prop
  | none : JoinedBy marks [] []
  | last (line : Text) : JoinedBy marks [line] line
  | next {line mark rest : Text} {others : List Text}
      (known : mark ∈ marks)
      (present : others ≠ [])
      (joined : JoinedBy marks others rest) :
      JoinedBy marks (line :: others) (line ++ mark ++ rest)

variable {line text : Text} {others : List Text}

/-! ## Reading -/

/-- Text without carriage returns is read as it is. -/
theorem unifyLineEnds_append
    (returnFree : '\r' ∉ line)
    (rest : Text) :
    unifyLineEnds (line ++ rest) = line ++ unifyLineEnds rest := by
  induction line with
  | nil => rfl
  | cons first line inductionHypothesis =>
      rw [List.mem_cons, not_or] at returnFree
      have noReturn : first ≠ '\r' := fun same => returnFree.1 same.symm
      rw [List.cons_append, unifyLineEnds.eq_4 _ _ (fun _ same => absurd same noReturn) noReturn,
        inductionHypothesis returnFree.2, List.cons_append]

theorem unifyLineEnds_eq_self (returnFree : '\r' ∉ line) : unifyLineEnds line = line := by
  simpa using unifyLineEnds_append returnFree []

/-- A carriage return without a line feed behind it is read as a line feed. -/
theorem unifyLineEnds_return
    (noFeed : text.head? ≠ some '\n') :
    unifyLineEnds ('\r' :: text) = '\n' :: unifyLineEnds text := by
  rw [unifyLineEnds.eq_3]
  rintro rest rfl
  exact noFeed rfl

/-- Line feeds with or without a carriage return are read as line feeds. -/
theorem unifyLineEnds_of_joinedBy
    (joined : JoinedBy [['\n'], ['\r', '\n']] others text)
    (returnFree : ∀ line ∈ others, '\r' ∉ line) :
    unifyLineEnds text = join ['\n'] others := by
  induction joined with
  | none => rfl
  | last line => rw [join_singleton, unifyLineEnds_eq_self (returnFree line List.mem_cons_self)]
  | @next line mark rest others known present joined inductionHypothesis =>
      rw [List.forall_mem_cons] at returnFree
      have unified : unifyLineEnds (mark ++ rest) = '\n' :: unifyLineEnds rest := by
        simp only [List.mem_cons, List.not_mem_nil, or_false] at known
        rcases known with rfl | rfl
        · exact unifyLineEnds_append (by decide) rest
        · exact unifyLineEnds.eq_2 rest
      obtain ⟨second, further, rfl⟩ := List.exists_cons_of_ne_nil present
      rw [List.append_assoc, unifyLineEnds_append returnFree.1, unified,
        inductionHypothesis returnFree.2, join_cons_cons, List.append_assoc]
      rfl

/-- Carriage returns alone are read as line feeds. -/
theorem unifyLineEnds_join_return
    (clean : ∀ line ∈ others, '\n' ∉ line ∧ '\r' ∉ line) :
    unifyLineEnds (join ['\r'] others) = join ['\n'] others := by
  induction others with
  | nil => rfl
  | cons line others inductionHypothesis =>
      cases others with
      | nil =>
          rw [join_singleton, join_singleton,
            unifyLineEnds_eq_self (clean line List.mem_cons_self).2]
      | cons second further =>
          have feedFree : '\n' ∉ join ['\r'] (second :: further) := by
            rw [mem_join_iff (by decide)]
            rintro ⟨piece, isPiece, inPiece⟩
            exact (clean piece (List.mem_cons_of_mem line isPiece)).1 inPiece
          have noFeed : (join ['\r'] (second :: further)).head? ≠ some '\n' :=
            fun first => feedFree (List.mem_of_head? first)
          rw [List.forall_mem_cons] at clean
          rw [join_cons_cons, List.append_assoc, unifyLineEnds_append clean.1.2,
            List.singleton_append, unifyLineEnds_return noFeed, inductionHypothesis clean.2,
            join_cons_cons, List.append_assoc, List.singleton_append]

/-- No carriage return is left when line ends are unified. -/
theorem return_notMem_unifyLineEnds (text : Text) : '\r' ∉ unifyLineEnds text := by
  fun_induction unifyLineEnds text with
  | case1 => exact List.not_mem_nil
  | case2 rest inductionHypothesis => simpa using inductionHypothesis
  | case3 rest alone inductionHypothesis => simpa using inductionHypothesis
  | case4 first rest unpaired noReturn inductionHypothesis =>
      rw [List.mem_cons, not_or]
      exact ⟨fun same => noReturn same.symm, inductionHypothesis⟩

/-! ## Cutting -/

/-- Without carriage returns the lines are the pieces between line feeds. -/
theorem lines_eq_splitOn
    (returnFree : '\r' ∉ text) :
    lines text = splitOn '\n' text := by
  obtain ⟨pieces, last, split, cut⟩ := exists_pieces_lines text
  have unchanged : ∀ piece ∈ pieces, dropReturn piece = piece := by
    intro piece isPiece
    have inText : piece ⊆ text := subset_of_mem_splitOn (by rw [split]; simp [isPiece])
    exact dropReturn_eq_self fun inPiece => returnFree (inText inPiece)
  rw [cut, split, List.map_congr_left unchanged, List.map_id']

/-- A line of a text without carriage returns holds no character that ends a line. -/
theorem clean_of_mem_lines
    (returnFree : '\r' ∉ text)
    (present : line ∈ lines text) :
    '\n' ∉ line ∧ '\r' ∉ line := by
  rw [lines_eq_splitOn returnFree] at present
  exact ⟨notMem_of_mem_splitOn present, fun inLine =>
    returnFree (subset_of_mem_splitOn present inLine)⟩

/-- Lines that were joined by line feeds are found again; a text of no lines has one empty line. -/
theorem lines_join
    (clean : ∀ line ∈ others, '\n' ∉ line ∧ '\r' ∉ line) :
    lines (join ['\n'] others) = if others = [] then [[]] else others := by
  cases others with
  | nil => rfl
  | cons line others =>
      have returnFree : '\r' ∉ join ['\n'] (line :: others) := by
        rw [mem_join_iff (by decide)]
        rintro ⟨piece, isPiece, inPiece⟩
        exact (clean piece isPiece).2 inPiece
      rw [lines_eq_splitOn returnFree, splitOn_join fun piece isPiece => (clean piece isPiece).1,
        if_neg (List.cons_ne_nil _ _)]

end Text
end ModelNav
