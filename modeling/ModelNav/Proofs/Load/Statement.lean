import Mathlib.Data.List.TakeWhile
import ModelNav.Load
import ModelNav.Proofs.Text.Blanks
import ModelNav.Proofs.Text.Pieces

/-!
# The grammar of load statements

A load statement is the keyword, an opening parenthesis, a path between two quotes and a closing
parenthesis, with blanks allowed around the parentheses and the quotes.  The reader accepts exactly
the texts that begin with a written statement, and gives back the path and the length of what was
written.  The last part shows that a written statement has no other statement inside.
-/

namespace ModelNav
namespace Load

/-- A load statement with every choice that its writer has: the blanks in three places, the two
quotes, which need not be the same, and the path. -/
structure Statement where
  afterKeyword : Text
  afterOpening : Text
  openingQuote : Char
  path : Text
  closingQuote : Char
  beforeClosing : Text
  afterKeyword_blank : Text.isBlank afterKeyword = true
  afterOpening_blank : Text.isBlank afterOpening = true
  beforeClosing_blank : Text.isBlank beforeClosing = true
  openingQuote_isQuote : isQuote openingQuote = true
  closingQuote_isQuote : isQuote closingQuote = true
  path_ne_nil : path ≠ []
  path_quoteFree : ∀ character ∈ path, isQuote character = false

namespace Statement

/-- The statement up to its opening quote. -/
def beginning (statement : Statement) : Text :=
  keyword ++ statement.afterKeyword ++ ['('] ++ statement.afterOpening

/-- The statement after its closing quote. -/
def ending (statement : Statement) : Text :=
  statement.beforeClosing ++ [')']

/-- The statement as it stands in a text. -/
def written (statement : Statement) : Text :=
  statement.beginning ++ [statement.openingQuote] ++ statement.path ++ [statement.closingQuote] ++
    statement.ending

theorem written_ne_nil (statement : Statement) : statement.written ≠ [] := by
  simp [written]

theorem written_length_pos (statement : Statement) : 0 < statement.written.length :=
  List.length_pos_iff.mpr statement.written_ne_nil

/-- The parts of a statement, one behind the other, in front of what follows it. -/
theorem written_append
    (statement : Statement)
    (rest : Text) :
    statement.written ++ rest =
      keyword ++ (statement.afterKeyword ++ '(' :: (statement.afterOpening ++
        statement.openingQuote :: (statement.path ++ statement.closingQuote ::
          (statement.beforeClosing ++ ')' :: rest)))) := by
  simp [written, beginning, ending]

end Statement

/-- No quote is a blank. -/
theorem isSpace_of_isQuote
    {character : Char}
    (quote : isQuote character = true) :
    Text.isSpace character = false := by
  simp only [isQuote, Bool.or_eq_true, beq_iff_eq] at quote
  rcases quote with rfl | rfl <;> rfl

/-- The run without quotes that the closing quote ends is the path. -/
theorem takeWhile_path
    (statement : Statement)
    (rest : Text) :
    (statement.path ++ statement.closingQuote :: rest).takeWhile (!isQuote ·) =
      statement.path := by
  have inside : ∀ character ∈ statement.path, (!isQuote character) = true := by
    intro character present
    simp [statement.path_quoteFree character present]
  rw [List.takeWhile_append_of_pos inside]
  simp [statement.closingQuote_isQuote]

/-- A statement at the head of a text is read, with its path and its length. -/
theorem statement?_written_append
    (statement : Statement)
    (rest : Text) :
    statement? (statement.written ++ rest) =
      some (statement.path, statement.written.length) := by
  have opening : Text.isSpace statement.openingQuote = false :=
    isSpace_of_isQuote statement.openingQuote_isQuote
  have parenthesis : Text.isSpace '(' = false := rfl
  have closing : Text.isSpace ')' = false := rfl
  have named := Text.after?_eq_some_iff.mpr (statement.written_append rest)
  simp only [statement?, named, Option.bind_eq_bind, Option.bind_some,
    Text.dropWhile_isSpace_append statement.afterKeyword_blank,
    Text.dropWhile_isSpace_append statement.afterOpening_blank, takeWhile_path,
    List.dropWhile_cons, parenthesis, opening, Bool.false_eq_true, if_false,
    Text.after?, if_true, List.drop_left, List.drop_one, List.tail_cons,
    Text.dropWhile_isSpace_append statement.beforeClosing_blank, closing]
  rw [if_pos]
  · simp
  · simp [statement.openingQuote_isQuote, statement.path_ne_nil]

/-- A run without quotes that ends before the text does is followed by a quote. -/
theorem exists_quote_after_takeWhile
    {body : Text}
    (shorter : (body.takeWhile (!isQuote ·)).length < body.length) :
    ∃ quote closed,
      isQuote quote = true ∧
        body.drop (body.takeWhile (!isQuote ·)).length = quote :: closed := by
  induction body with
  | nil => simp at shorter
  | cons first rest inductionHypothesis =>
      by_cases quote : isQuote first = true
      · exact ⟨first, rest, quote, by simp [quote]⟩
      · have shorterRest : (rest.takeWhile (!isQuote ·)).length < rest.length := by
          simpa [quote] using shorter
        obtain ⟨mark, closed, isMark, split⟩ := inductionHypothesis shorterRest
        refine ⟨mark, closed, isMark, ?_⟩
        simpa [quote] using split

/-- Whatever is read as a statement is one that stands at the head of the text. -/
theorem exists_written_of_statement?
    {text path : Text}
    {length : Nat}
    (read : statement? text = some (path, length)) :
    ∃ (statement : Statement) (rest : Text),
      text = statement.written ++ rest ∧
        statement.path = path ∧ statement.written.length = length := by
  simp only [statement?, Option.bind_eq_bind, Option.bind_eq_some_iff] at read
  obtain ⟨named, isNamed, opened, isOpened, read⟩ := read
  rw [Text.after?_eq_some_iff] at isNamed isOpened
  split at read
  · contradiction
  rename_i mark body isMarked
  simp only [Option.bind_eq_some_iff, Option.ite_none_right_eq_some, Bool.and_eq_true,
    bne_iff_ne, ne_eq, decide_eq_true_eq, Option.some.injEq, Prod.mk.injEq] at read
  obtain ⟨rest, isClosed, ⟨⟨markQuote, pathPresent⟩, shorter⟩, rfl, rfl⟩ := read
  rw [Text.after?_eq_some_iff] at isClosed
  obtain ⟨quote, closed, isMark, afterPath⟩ := exists_quote_after_takeWhile shorter
  rw [afterPath, List.drop_one, List.tail_cons] at isClosed
  obtain ⟨afterKeyword, keywordBlank, rfl⟩ := Text.exists_blanks_of_dropWhile isOpened
  obtain ⟨afterOpening, openingBlank, rfl⟩ := Text.exists_blanks_of_dropWhile isMarked
  obtain ⟨beforeClosing, closingBlank, rfl⟩ := Text.exists_blanks_of_dropWhile isClosed
  have quoteFree : ∀ character ∈ body.takeWhile (!isQuote ·), isQuote character = false := by
    intro character present
    simpa using List.all_eq_true.mp List.all_takeWhile character present
  let statement : Statement := {
    afterKeyword, afterOpening, beforeClosing
    openingQuote := mark
    path := body.takeWhile (!isQuote ·)
    closingQuote := quote
    afterKeyword_blank := keywordBlank
    afterOpening_blank := openingBlank
    beforeClosing_blank := closingBlank
    openingQuote_isQuote := markQuote
    closingQuote_isQuote := isMark
    path_ne_nil := pathPresent
    path_quoteFree := quoteFree }
  have bodySplit :
      body = statement.path ++ quote :: (beforeClosing ++ ([')'] ++ rest)) := by
    rw [← afterPath]
    exact (List.prefix_iff_eq_append.mp (List.takeWhile_prefix _)).symm
  have textSplit : text = statement.written ++ rest := by
    rw [isNamed, bodySplit]
    simp [statement, Statement.written, Statement.beginning, Statement.ending]
  refine ⟨statement, rest, textSplit, rfl, ?_⟩
  rw [textSplit, List.length_append, Nat.add_sub_cancel]

/-- The reader accepts exactly the texts that begin with a written statement. -/
theorem statement?_eq_some_iff
    {text path : Text}
    {length : Nat} :
    statement? text = some (path, length) ↔
      ∃ (statement : Statement) (rest : Text),
        text = statement.written ++ rest ∧
          statement.path = path ∧ statement.written.length = length := by
  constructor
  · exact exists_written_of_statement?
  · rintro ⟨statement, rest, rfl, rfl, rfl⟩
    exact statement?_written_append statement rest

/-! ## No statement inside another -/

theorem keyword_eq :
    keyword = ['l', 'o', 'a', 'd', '-', '>', 'm', 'o', 'd', 'e', 'l'] := by
  decide

/-- Blanks hold no quote. -/
theorem countP_isQuote_of_isBlank
    {blanks : Text}
    (blank : Text.isBlank blanks = true) :
    blanks.countP isQuote = 0 := by
  rw [List.countP_eq_zero]
  intro character present quote
  exact Text.notMem_of_isBlank blank (isSpace_of_isQuote quote) present

namespace Statement

/-- Up to the opening quote there is none. -/
theorem countP_isQuote_beginning (statement : Statement) :
    statement.beginning.countP isQuote = 0 := by
  simp [beginning, keyword_eq, countP_isQuote_of_isBlank statement.afterKeyword_blank,
    countP_isQuote_of_isBlank statement.afterOpening_blank, isQuote]

/-- The quotes of a statement are the two around its path. -/
theorem countP_isQuote_written (statement : Statement) :
    statement.written.countP isQuote = 2 := by
  have path : statement.path.countP isQuote = 0 := by
    rw [List.countP_eq_zero]
    intro character present
    simp [statement.path_quoteFree character present]
  have parenthesis : isQuote ')' = false := rfl
  simp [written, ending, statement.countP_isQuote_beginning, path, parenthesis,
    countP_isQuote_of_isBlank statement.beforeClosing_blank,
    statement.openingQuote_isQuote, statement.closingQuote_isQuote]

/-- The letter that the keyword begins with stands twice before the opening quote. -/
theorem count_beginning (statement : Statement) :
    statement.beginning.count 'l' = 2 := by
  have afterKeyword : 'l' ∉ statement.afterKeyword :=
    Text.notMem_of_isBlank statement.afterKeyword_blank rfl
  have afterOpening : 'l' ∉ statement.afterOpening :=
    Text.notMem_of_isBlank statement.afterOpening_blank rfl
  simp [beginning, keyword_eq, List.count_eq_zero_of_not_mem afterKeyword,
    List.count_eq_zero_of_not_mem afterOpening]

/-- What stands before the first quote of a text in which a statement follows a run without quotes
is that run and the beginning of the statement. -/
theorem takeWhile_append_written
    (statement : Statement)
    {before : Text}
    (quoteFree : before.countP isQuote = 0)
    (after : Text) :
    (before ++ statement.written ++ after).takeWhile (!isQuote ·) =
      before ++ statement.beginning := by
  have inside : ∀ character ∈ before ++ statement.beginning, (!isQuote character) = true := by
    intro character present
    have free : (before ++ statement.beginning).countP isQuote = 0 := by
      simp [quoteFree, statement.countP_isQuote_beginning]
    simpa using List.countP_eq_zero.mp free character present
  have split :
      before ++ statement.written ++ after =
        (before ++ statement.beginning) ++ statement.openingQuote ::
          (statement.path ++ [statement.closingQuote] ++ statement.ending ++ after) := by
    simp [written]
  rw [split, List.takeWhile_append_of_pos inside]
  simp [statement.openingQuote_isQuote]

/-- A statement that stands inside another one begins where that one begins. -/
theorem eq_nil_of_written_eq_append
    {outer inner : Statement}
    {before after : Text}
    (inside : outer.written = before ++ inner.written ++ after) :
    before = [] := by
  have quotes := congrArg (List.countP isQuote) inside
  simp only [List.countP_append, countP_isQuote_written] at quotes
  have quoteFree : before.countP isQuote = 0 := by omega
  have beginnings : outer.beginning = before ++ inner.beginning := by
    calc
      outer.beginning = outer.written.takeWhile (!isQuote ·) := by
        simpa using (takeWhile_append_written outer List.countP_nil []).symm
      _ = (before ++ inner.written ++ after).takeWhile (!isQuote ·) := by
        rw [inside]
      _ = before ++ inner.beginning := takeWhile_append_written inner quoteFree after
  have letters := congrArg (List.count 'l') beginnings
  simp only [List.count_append, count_beginning] at letters
  have absent : 'l' ∉ before := List.count_eq_zero.mp (by omega)
  cases before with
  | nil => rfl
  | cons first rest =>
      have first_eq : 'l' = first := by
        simpa [beginning, keyword_eq] using congrArg List.head? beginnings
      exact absurd (first_eq ▸ List.mem_cons_self) absent

end Statement

end Load
end ModelNav
