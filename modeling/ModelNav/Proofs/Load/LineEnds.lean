import ModelNav.Proofs.Load.Writing
import ModelNav.Proofs.Text.LineEnds
import ModelNav.Proofs.Text.Upper

/-!
# Load statements and line ends

A statement may have line ends among its blanks and in its path.  The parser finds the same
statements whether a line ends with a carriage return and a line feed or with a line feed alone:
only the line ends in the paths differ, and so do those in the names.
-/

namespace ModelNav

/-- The first character is put in upper case with or without the carriage returns. -/
theorem Convention.capitalize_dropReturns
    (name : Text) :
    capitalize (Text.dropReturns name) = Text.dropReturns (capitalize name) := by
  cases name using Text.dropReturns_induction with
  | nil => rfl
  | pair rest =>
      rw [Text.dropReturns_pair]
      exact (Text.dropReturns_pair rest).symm
  | cons first rest alone =>
      rw [Text.dropReturns_cons alone]
      by_cases carriage : first = '\r'
      · subst carriage
        exact (Text.dropReturns_cons alone).symm
      · have returnFree : '\r' ∉ Text.upper first := Text.notMem_upper carriage (by decide) rfl
        rw [capitalize_cons, capitalize_cons, Text.dropReturns_append_of_notMem returnFree]

namespace Load

/-- The load with the carriage returns before line feeds dropped in every field. -/
def dropReturns (load : Load) : Load where
  rawPath := load.rawPath.dropReturns
  conventionPath := load.conventionPath.dropReturns
  modelName := load.modelName.dropReturns

theorem ofPath_dropReturns
    (path : Text) :
    ofPath path.dropReturns = (ofPath path).dropReturns := by
  have cut : Text.splitAtLast? '/' path.dropReturns = _ :=
    Text.splitAtLast?_dropReturns (by decide) (by decide) path
  simp only [ofPath, dropReturns, splitPath, conventionOf, cut, mk.injEq, true_and]
  cases path.splitAtLast? '/' with
  | none => exact ⟨Convention.capitalize_dropReturns path, rfl⟩
  | some sides =>
      refine ⟨?_, rfl⟩
      dsimp only [Option.map_some]
      rw [Convention.capitalize_dropReturns, Text.dropReturns_append_mark (by decide) (by decide)]

/-! ## Statements -/

theorem isQuote_ne_lineEnd
    {character : Char}
    (quote : isQuote character = true) :
    character ≠ '\n' ∧ character ≠ '\r' := by
  constructor <;> rintro rfl <;> contradiction

theorem isBlank_dropReturns
    (blanks : Text) :
    Text.isBlank blanks.dropReturns = Text.isBlank blanks :=
  Text.all_dropReturns rfl blanks

theorem quoteFree_dropReturns_iff
    {path : Text} :
    (∀ character ∈ path.dropReturns, isQuote character = false) ↔
      ∀ character ∈ path, isQuote character = false := by
  have same : path.dropReturns.all (!isQuote ·) = path.all (!isQuote ·) :=
    Text.all_dropReturns rfl path
  rw [Bool.eq_iff_iff] at same
  simpa using same

/-- The statement with the carriage returns before line feeds dropped. -/
def Statement.dropReturns (statement : Statement) : Statement where
  afterKeyword := statement.afterKeyword.dropReturns
  afterOpening := statement.afterOpening.dropReturns
  openingQuote := statement.openingQuote
  path := statement.path.dropReturns
  closingQuote := statement.closingQuote
  beforeClosing := statement.beforeClosing.dropReturns
  afterKeyword_blank := (isBlank_dropReturns _).trans statement.afterKeyword_blank
  afterOpening_blank := (isBlank_dropReturns _).trans statement.afterOpening_blank
  beforeClosing_blank := (isBlank_dropReturns _).trans statement.beforeClosing_blank
  openingQuote_isQuote := statement.openingQuote_isQuote
  closingQuote_isQuote := statement.closingQuote_isQuote
  path_ne_nil := fun empty => statement.path_ne_nil (Text.dropReturns_eq_nil_iff.mp empty)
  path_quoteFree := quoteFree_dropReturns_iff.mpr statement.path_quoteFree

/-- A written statement becomes a written statement. -/
theorem dropReturns_written_append
    (statement : Statement)
    (rest : Text) :
    Text.dropReturns (statement.written ++ rest) =
      statement.dropReturns.written ++ rest.dropReturns := by
  obtain ⟨openingFeed, openingReturn⟩ := isQuote_ne_lineEnd statement.openingQuote_isQuote
  obtain ⟨closingFeed, closingReturn⟩ := isQuote_ne_lineEnd statement.closingQuote_isQuote
  rw [Statement.written_append, Statement.written_append,
    Text.dropReturns_append_of_notMem (by decide),
    Text.dropReturns_append_mark (by decide) (by decide),
    Text.dropReturns_append_mark openingFeed openingReturn,
    Text.dropReturns_append_mark closingFeed closingReturn,
    Text.dropReturns_append_mark (by decide) (by decide)]
  rfl

/-- A statement that is written behind dropped carriage returns was written before. -/
theorem exists_written_of_dropReturns
    {text rest : Text}
    {statement : Statement}
    (dropped : text.dropReturns = statement.written ++ rest) :
    ∃ (original : Statement) (after : Text), text = original.written ++ after := by
  have keywordFeedFree : '\n' ∉ keyword := by decide
  have openingNoFeed : '(' ≠ '\n' := by decide
  have closingNoFeed : ')' ≠ '\n' := by decide
  rw [Statement.written_append] at dropped
  obtain ⟨word, named, rfl, isWord, afterWord⟩ := Text.exists_split_of_dropReturns dropped
  obtain rfl : word = keyword := Text.eq_of_dropReturns_eq keywordFeedFree isWord
  obtain ⟨afterKeyword, opened, rfl, keywordBlanks, afterParenthesis⟩ :=
    Text.exists_append_mark_of_dropReturns openingNoFeed afterWord
  obtain ⟨afterOpening, body, rfl, openingBlanks, afterQuote⟩ :=
    Text.exists_append_mark_of_dropReturns
      (isQuote_ne_lineEnd statement.openingQuote_isQuote).1 afterParenthesis
  obtain ⟨path, closed, rfl, samePath, afterPath⟩ :=
    Text.exists_append_mark_of_dropReturns
      (isQuote_ne_lineEnd statement.closingQuote_isQuote).1 afterQuote
  obtain ⟨beforeClosing, after, rfl, closingBlanks, -⟩ :=
    Text.exists_append_mark_of_dropReturns closingNoFeed afterPath
  have pathPresent : path ≠ [] := by
    rintro rfl
    exact statement.path_ne_nil samePath.symm
  let original : Statement := {
    afterKeyword, afterOpening, path, beforeClosing
    openingQuote := statement.openingQuote
    closingQuote := statement.closingQuote
    afterKeyword_blank := by
      rw [← isBlank_dropReturns, keywordBlanks, statement.afterKeyword_blank]
    afterOpening_blank := by
      rw [← isBlank_dropReturns, openingBlanks, statement.afterOpening_blank]
    beforeClosing_blank := by
      rw [← isBlank_dropReturns, closingBlanks, statement.beforeClosing_blank]
    openingQuote_isQuote := statement.openingQuote_isQuote
    closingQuote_isQuote := statement.closingQuote_isQuote
    path_ne_nil := pathPresent
    path_quoteFree := quoteFree_dropReturns_iff.mp (samePath ▸ statement.path_quoteFree) }
  exact ⟨original, after, (original.written_append after).symm⟩

/-- Dropping carriage returns brings up no statement. -/
theorem statement?_dropReturns_eq_none
    {text : Text}
    (unread : statement? text = none) :
    statement? text.dropReturns = none := by
  cases read : statement? text.dropReturns with
  | none => rfl
  | some found =>
      obtain ⟨statement, rest, split, -, -⟩ := exists_written_of_statement? read
      obtain ⟨original, after, rfl⟩ := exists_written_of_dropReturns split
      rw [statement?_written_append] at unread
      contradiction

/-! ## Parsing -/

/-- The parser finds the same paths, up to line ends. -/
theorem pathsFrom_dropReturns
    (text : Text) :
    pathsFrom 0 text.dropReturns = (pathsFrom 0 text).map Text.dropReturns := by
  induction text using parsing_induction with
  | nil => rfl
  | written statement rest inductionHypothesis =>
      rw [dropReturns_written_append, pathsFrom_written_append, pathsFrom_written_append,
        inductionHypothesis, List.map_cons]
      rfl
  | unread first rest unread inductionHypothesis =>
      have stillUnread := statement?_dropReturns_eq_none unread
      rw [pathsFrom_cons_of_unread unread, ← inductionHypothesis]
      by_cases pair : first = '\r' ∧ rest.head? = some '\n'
      · -- The dropped carriage return takes the place of the character that the parser passes.
        obtain ⟨rfl, feed⟩ := pair
        obtain ⟨further, rfl⟩ := List.head?_eq_some_iff.mp feed
        rw [Text.dropReturns_pair, Text.dropReturns_cons (by simp)]
      · have alone : first = '\r' → rest.head? ≠ some '\n' := not_and.mp pair
        rw [Text.dropReturns_cons alone] at stillUnread ⊢
        exact pathsFrom_cons_of_unread stillUnread

/-- The loads of a text are the same up to line ends. -/
theorem parse_dropReturns
    (text : Text) :
    parse text.dropReturns = (parse text).map dropReturns := by
  rw [parse, parse, pathsFrom_dropReturns, List.map_map, List.map_map]
  apply List.map_congr_left
  intro path _
  exact ofPath_dropReturns path

/-- Where no path holds a line feed, the loads are the same. -/
theorem parse_dropReturns_of_feedFree
    {text : Text}
    (feedFree : ∀ load ∈ parse text, '\n' ∉ load.rawPath) :
    parse text.dropReturns = parse text := by
  simp only [parse, List.forall_mem_map, rawPath_ofPath] at feedFree
  rw [parse, parse, pathsFrom_dropReturns, List.map_map]
  apply List.map_congr_left
  intro path present
  rw [Function.comp_apply, Text.dropReturns_eq_self (feedFree path present)]

end Load
end ModelNav
