import ModelNav.Proofs.Method.Comment
import ModelNav.Proofs.Text.Blanks

/-!
# Block comments on one line

A block comment may open and close on the line above a method.  What is read of it is its body, less
a star at the beginning, which goes with the mark that opens the block, and less a decoration behind
that.  A body of any characters is read so unless it is empty: the marks then stand together, the
star of the one that closes is taken for the second star of the one that opens, and its slash is
left.
-/

namespace ModelNav
namespace Comment

/-- A block comment that opens and closes on one line. -/
def inlineBlock (body : Text) : Text :=
  blockOpening ++ body ++ blockClosing

/-- The text without the star that it begins with, if it does. -/
inductive DropsStar : Text → Text → Prop
  | starred (rest : Text) : DropsStar ('*' :: rest) rest
  | plain {text : Text} (unstarred : text.head? ≠ some '*') : DropsStar text text

/-- The text without the blanks and the star that it begins with, if it does. -/
inductive DropsDecoration : Text → Text → Prop
  | decorated {blanks : Text} (blank : Text.isBlank blanks = true) (rest : Text) :
      DropsDecoration (blanks ++ '*' :: rest) rest
  | plain {text : Text}
      (undecorated : ∀ blanks rest, Text.isBlank blanks = true → text ≠ blanks ++ '*' :: rest) :
      DropsDecoration text text

/-- The words of a body: what is left without a star and without a decoration, trimmed. -/
def HasWords (body words : Text) : Prop :=
  ∃ inner rest, DropsStar body inner ∧ DropsDecoration inner rest ∧ words = rest.trim

variable {body inner rest words : Text}

/-! ## The words of a body -/

theorem exists_dropsStar (body : Text) : ∃ inner, DropsStar body inner := by
  by_cases begins : body.head? = some '*'
  · obtain ⟨rest, rfl⟩ := List.head?_eq_some_iff.mp begins
    exact ⟨rest, .starred rest⟩
  · exact ⟨body, .plain begins⟩

theorem DropsStar.unique
    {other : Text}
    (drops : DropsStar body inner)
    (dropsOther : DropsStar body other) :
    inner = other := by
  cases drops with
  | starred rest =>
      cases dropsOther with
      | starred => rfl
      | plain unstarred => simp at unstarred
  | plain unstarred =>
      cases dropsOther with
      | starred rest => simp at unstarred
      | plain => rfl

theorem DropsStar.isSuffix (drops : DropsStar body inner) : inner <:+ body := by
  cases drops with
  | starred rest => exact List.suffix_cons '*' inner
  | plain => exact List.suffix_rfl

/-- Dropping the decoration is what is described. -/
theorem dropsDecoration_iff : DropsDecoration inner rest ↔ rest = dropDecoration inner := by
  constructor
  · intro drops
    cases drops with
    | decorated blank rest =>
        have star : ('*' :: rest).dropWhile Text.isSpace = '*' :: rest :=
          List.dropWhile_cons_of_neg (by decide)
        rw [dropDecoration, Text.dropWhile_isSpace_append blank, star]
        rfl
    | plain undecorated =>
        rw [dropDecoration]
        split
        · rename_i behind begins
          obtain ⟨blanks, blank, split⟩ := Text.exists_blanks_of_dropWhile begins
          exact absurd split (undecorated blanks behind blank)
        · rfl
  · rintro rfl
    rw [dropDecoration]
    split
    · rename_i behind begins
      obtain ⟨blanks, blank, rfl⟩ := Text.exists_blanks_of_dropWhile begins
      exact .decorated blank behind
    · rename_i undecorated
      refine .plain ?_
      rintro blanks behind blank rfl
      apply undecorated behind
      rw [Text.dropWhile_isSpace_append blank]
      exact List.dropWhile_cons_of_neg (by decide)

theorem DropsDecoration.isSuffix (drops : DropsDecoration inner rest) : rest <:+ inner := by
  cases drops with
  | @decorated blanks blank rest => exact ⟨blanks ++ ['*'], by simp⟩
  | plain => exact List.suffix_rfl

/-- Every body has words, and no more than one text is its words. -/
theorem exists_hasWords_iff (body : Text) :
    ∃ words, ∀ other, HasWords body other ↔ other = words := by
  obtain ⟨inner, drops⟩ := exists_dropsStar body
  refine ⟨(dropDecoration inner).trim, fun other => ?_⟩
  constructor
  · rintro ⟨otherInner, rest, dropsOther, dropsDecoration, rfl⟩
    obtain rfl := drops.unique dropsOther
    rw [dropsDecoration_iff.mp dropsDecoration]
  · rintro rfl
    exact ⟨inner, _, drops, dropsDecoration_iff.mpr rfl, rfl⟩

/-- The words of a body are a piece of it, so nothing of the marks around it is in them. -/
theorem HasWords.isInfix (hasWords : HasWords body words) : words <:+: body := by
  obtain ⟨inner, rest, dropsStar, dropsDecoration, rfl⟩ := hasWords
  have within : rest <:+ body := dropsDecoration.isSuffix.trans dropsStar.isSuffix
  exact (Text.trim_isInfix rest).trans within.isInfix

/-! ## What is read -/

/-- The mark that opens the block goes with the star of a body that is not empty. -/
theorem dropOpening_inlineBlock
    (present : body ≠ [])
    (drops : DropsStar body inner) :
    dropOpening (inlineBlock body) = inner ++ blockClosing := by
  cases drops with
  | starred => rfl
  | plain unstarred =>
      obtain ⟨first, rest, rfl⟩ := List.exists_cons_of_ne_nil present
      have different : first ≠ '*' := by simpa using unstarred
      exact dropOpening.eq_2 _ fun _ same => different (List.cons.inj same).1

/-- The mark that closes the block is dropped from the end and from nowhere else. -/
theorem dropClosing_append_blockClosing (text : Text) :
    dropClosing (text ++ blockClosing) = text := by
  induction text with
  | nil => rfl
  | cons first rest inductionHypothesis =>
      have noMark : first = '*' → rest ++ blockClosing = ['/'] → False := by
        intro _ same
        have lengths := congrArg List.length same
        simp [blockClosing] at lengths
      have noFeed : first = '*' → rest ++ blockClosing = ['/', '\n'] → False := by
        intro _ same
        have lasts := congrArg List.getLast? same
        simp [blockClosing] at lasts
      rw [List.cons_append, dropClosing.eq_4 _ _ noMark noFeed, inductionHypothesis]

/-- A body that is not empty leaves its words. -/
theorem cleanLine_inlineBlock
    (present : body ≠ [])
    (hasWords : HasWords body words) :
    cleanLine (inlineBlock body) = words := by
  obtain ⟨inner, rest, dropsStar, dropsDecoration, rfl⟩ := hasWords
  rw [cleanLine, dropOpening_inlineBlock present dropsStar, dropClosing_append_blockClosing,
    ← dropsDecoration_iff.mp dropsDecoration]

/-- Of a block without a body the slash of the mark that closes it is left. -/
theorem cleanLine_inlineBlock_nil : cleanLine (inlineBlock []) = ['/'] := by
  decide

theorem trim_inlineBlock (body : Text) : (inlineBlock body).trim = inlineBlock body := by
  apply Text.trim_eq_self
  · simp [inlineBlock, blockOpening, Text.isSpace, Text.isWhiteSpace]
  · simp [inlineBlock, blockClosing, Text.isSpace, Text.isWhiteSpace]

theorem join_filter_singleton (line : Text) :
    Text.join ['\n'] ([line].filter (· != [])) = line := by
  by_cases empty : line = []
  · subst empty
    rfl
  · simp [empty]

/-- The comment above a method is what cleaning leaves of a block on the line above it. -/
theorem extract_inlineBlock
    (before below : List Text)
    (body : Text) :
    extract (before ++ [inlineBlock body] ++ below) (before ++ [inlineBlock body]).length =
      .ok (cleanLine (inlineBlock body)) := by
  have opens : opensBlock (inlineBlock body) = true :=
    List.isPrefixOf_iff_prefix.mpr ⟨body ++ blockClosing, by simp [inlineBlock]⟩
  have closes : closesBlock (inlineBlock body) = true :=
    List.isSuffixOf_iff_suffix.mpr ⟨blockOpening ++ body, rfl⟩
  have split : (before ++ [inlineBlock body]).map Text.trim =
      before.map Text.trim ++ inlineBlock body :: [] := by
    simp [trim_inlineBlock]
  have inBounds : (before ++ [inlineBlock body]).length ≤
      (before ++ [inlineBlock body] ++ below).length := by
    simp
  rw [extract_of_le inBounds, above, List.take_left, wordsAbove_of_block split closes (by simp),
    blockWords_reverse_of_opening opens (by simp), List.map_singleton, join_filter_singleton]

/-- Whatever stands around it, the comment above a method on the line below a block with a body is
the words of the body, which are a piece of it, exactly when the body is not empty. -/
theorem exists_words_extract_inlineBlock_iff
    (before below : List Text)
    (body : Text) :
    ∃ words,
      (∀ other, HasWords body other ↔ other = words) ∧
        words <:+: body ∧
        (extract (before ++ [inlineBlock body] ++ below) (before ++ [inlineBlock body]).length =
            .ok words ↔
          body ≠ []) := by
  obtain ⟨words, areWords⟩ := exists_hasWords_iff body
  have hasWords : HasWords body words := (areWords words).mpr rfl
  refine ⟨words, areWords, hasWords.isInfix, ?_⟩
  rw [extract_inlineBlock, Except.ok.injEq]
  constructor
  · rintro left rfl
    rw [cleanLine_inlineBlock_nil] at left
    have empty : words = [] := List.infix_nil.mp hasWords.isInfix
    rw [← left] at empty
    contradiction
  · intro present
    exact cleanLine_inlineBlock present hasWords

/-- The words of an empty body are empty, but a slash is read. -/
theorem extract_inlineBlock_nil_sample :
    HasWords [] [] ∧
      extract ["/**/".toList, "function f() \x7b".toList] 1 = .ok ['/'] ∧
      extract ["/**/".toList, "function f() \x7b".toList] 1 ≠ .ok [] := by
  refine ⟨⟨[], [], .plain (by simp), .plain (by simp), rfl⟩, ?_, ?_⟩
  · decide
  · decide

/-- Stars that stand together go with the marks first, then with the decoration. -/
example : cleanLine (inlineBlock "*** a*".toList) = "* a*".toList := by decide

end Comment
end ModelNav
