import Mathlib.Data.List.Forall2
import Mathlib.Data.List.Infix
import ModelNav.Proofs.Load.Statement

/-!
# Parsing undoes writing

A text is written from statements and from fillers without the keyword, one before the first
statement and one behind each.  The parser finds exactly the statements again, whatever their paths
hold.  A filler may end with the beginning of the keyword, and a statement may finish it: the only
way is the letter that the keyword begins and ends with, and then no parenthesis follows.
-/

namespace ModelNav
namespace Load

/-! ## One step of the parser -/

/-- Skipped characters might as well not be there. -/
theorem pathsFrom_eq_drop
    (skip : Nat)
    (text : Text) :
    pathsFrom skip text = pathsFrom 0 (text.drop skip) := by
  induction skip generalizing text with
  | zero => rfl
  | succ skip inductionHypothesis =>
      cases text with
      | nil => simp
      | cons first rest => exact inductionHypothesis rest

/-- A statement at the head of a text is taken, and the parser goes on behind it. -/
theorem pathsFrom_written_append
    (statement : Statement)
    (rest : Text) :
    pathsFrom 0 (statement.written ++ rest) = statement.path :: pathsFrom 0 rest := by
  have read := statement?_written_append statement rest
  obtain ⟨first, others, split⟩ := List.exists_cons_of_ne_nil statement.written_ne_nil
  have length : statement.written.length - 1 = others.length := by simp [split]
  rw [split, List.cons_append] at read ⊢
  rw [pathsFrom, read]
  dsimp only
  rw [pathsFrom_eq_drop, ← split, length, List.drop_left]

/-- Where no statement begins, the parser goes on behind one character. -/
theorem pathsFrom_cons_of_unread
    {first : Char}
    {rest : Text}
    (unread : statement? (first :: rest) = none) :
    pathsFrom 0 (first :: rest) = pathsFrom 0 rest := by
  rw [pathsFrom, unread]

/-- A property of the empty text that holds of every text, as soon as it holds of what the parser
goes on with, holds of all texts. -/
@[elab_as_elim]
theorem parsing_induction
    {motive : Text → Prop}
    (nil : motive [])
    (written : ∀ (statement : Statement) (rest : Text),
      motive rest → motive (statement.written ++ rest))
    (unread : ∀ (first : Char) (rest : Text),
      statement? (first :: rest) = none → motive rest → motive (first :: rest))
    (text : Text) :
    motive text := by
  induction length : text.length using Nat.strong_induction_on generalizing text with
  | _ length inductionHypothesis =>
      subst length
      cases text with
      | nil => exact nil
      | cons first rest =>
          cases read : statement? (first :: rest) with
          | none => exact unread first rest read (inductionHypothesis _ (by simp) rest rfl)
          | some found =>
              obtain ⟨statement, after, split, -, -⟩ := exists_written_of_statement? read
              have shorter : after.length < (first :: rest).length := by
                rw [split, List.length_append]
                exact Nat.lt_add_of_pos_left statement.written_length_pos
              rw [split]
              exact written statement after (inductionHypothesis _ shorter after rfl)

/-! ## Fillers -/

/-- The keyword does not stand in the text. -/
def KeywordFree (text : Text) : Prop :=
  ¬keyword <:+: text

instance (text : Text) : Decidable (KeywordFree text) :=
  inferInstanceAs (Decidable ¬keyword <:+: text)

theorem KeywordFree.tail
    {first : Char}
    {rest : Text}
    (free : KeywordFree (first :: rest)) :
    KeywordFree rest :=
  fun present => free (present.trans (List.suffix_cons first rest).isInfix)

/-- A proper end of the keyword that begins like the keyword is its last letter. -/
theorem drop_keyword_eq
    {count : Nat}
    (positive : 0 < count)
    (head : (keyword.drop count).head? = some 'l') :
    keyword.drop count = ['l'] := by
  have ends : ∀ count < 11, 0 < count → (keyword.drop count).head? = some 'l' →
      keyword.drop count = ['l'] := by
    decide
  have bounded : count < 11 := by
    by_contra beyond
    rw [List.drop_eq_nil_of_le (Nat.le_of_not_lt beyond)] at head
    contradiction
  exact ends count bounded positive head

/-- When a keyword begins in a filler and ends behind it, where nothing or another keyword follows
the filler, the rest of that other keyword stands behind the first one. -/
theorem head?_behind_of_straddling
    {filler rest behind : Text}
    (nonempty : filler ≠ [])
    (free : KeywordFree filler)
    (next : rest = [] ∨ keyword <+: rest)
    (straddles : filler ++ rest = keyword ++ behind) :
    behind.head? = some 'o' := by
  have keywordPrefix : keyword <+: filler ++ rest := ⟨behind, straddles.symm⟩
  have fillerPrefix : filler <+: filler ++ rest := List.prefix_append filler rest
  rcases Nat.le_total keyword.length filler.length with inside | outside
  · have stands := List.prefix_of_prefix_length_le keywordPrefix fillerPrefix inside
    exact absurd stands.isInfix free
  · obtain ⟨ending, split⟩ := List.prefix_of_prefix_length_le fillerPrefix keywordPrefix outside
    have rest_eq : rest = ending ++ behind := by
      rw [← split, List.append_assoc] at straddles
      exact List.append_cancel_left straddles
    have ending_eq : keyword.drop filler.length = ending := by
      rw [← split, List.drop_left]
    have ending_ne_nil : ending ≠ [] := by
      rintro rfl
      rw [List.append_nil] at split
      exact free (split ▸ List.infix_rfl)
    rcases next with rfl | ⟨further, begins⟩
    · exact absurd (List.append_eq_nil_iff.mp rest_eq.symm).1 ending_ne_nil
    · rw [rest_eq] at begins
      have head : ending.head? = some 'l' := by
        have heads := congrArg List.head? begins
        rw [List.head?_append_of_ne_nil ending ending_ne_nil] at heads
        exact heads.symm
      have letter : ending = ['l'] := by
        rw [← ending_eq] at head ⊢
        exact drop_keyword_eq (List.length_pos_iff.mpr nonempty) head
      have second := congrArg (fun text => text.tail.head?) begins
      simpa [letter, keyword_eq] using second.symm

/-- What follows the keyword of a statement is a blank or a parenthesis. -/
theorem Statement.head?_behind_keyword
    {statement : Statement}
    {after behind : Text}
    (split : statement.written ++ after = keyword ++ behind) :
    behind.head? ≠ some 'o' := by
  simp only [written, beginning, List.append_assoc] at split
  rw [← List.append_cancel_left split]
  have letterFree : 'o' ∉ statement.afterKeyword :=
    Text.notMem_of_isBlank statement.afterKeyword_blank rfl
  cases blanks : statement.afterKeyword with
  | nil => simp
  | cons first others =>
      rw [blanks] at letterFree
      intro letter
      obtain rfl : first = 'o' := by simpa using letter
      exact letterFree List.mem_cons_self

/-- No statement begins in a filler. -/
theorem statement?_filler_append
    {filler rest : Text}
    (nonempty : filler ≠ [])
    (free : KeywordFree filler)
    (next : rest = [] ∨ keyword <+: rest) :
    statement? (filler ++ rest) = none := by
  cases read : statement? (filler ++ rest) with
  | none => rfl
  | some found =>
      obtain ⟨statement, after, split, -, -⟩ := exists_written_of_statement? read
      obtain ⟨behind, begins⟩ : keyword <+: filler ++ rest := by
        rw [split]
        simp [Statement.written, Statement.beginning]
      have head := head?_behind_of_straddling nonempty free next begins.symm
      exact absurd head (Statement.head?_behind_keyword (split.symm.trans begins.symm))

/-- The parser passes over a filler. -/
theorem pathsFrom_filler_append
    {filler rest : Text}
    (free : KeywordFree filler)
    (next : rest = [] ∨ keyword <+: rest) :
    pathsFrom 0 (filler ++ rest) = pathsFrom 0 rest := by
  induction filler with
  | nil => rfl
  | cons first filler inductionHypothesis =>
      have unread := statement?_filler_append (List.cons_ne_nil first filler) free next
      rw [List.cons_append] at unread ⊢
      rw [pathsFrom_cons_of_unread unread]
      exact inductionHypothesis free.tail

/-! ## Written texts -/

/-- A text that begins with a filler, in which every statement is followed by a filler. -/
def weave (lead : Text) (pieces : List (Statement × Text)) : Text :=
  lead ++ pieces.flatMap fun piece => piece.1.written ++ piece.2

/-- Behind a filler a written text ends, or the next statement begins with the keyword. -/
theorem flatMap_written_eq_nil_or_isPrefix
    (pieces : List (Statement × Text)) :
    (pieces.flatMap fun piece => piece.1.written ++ piece.2) = [] ∨
      keyword <+: pieces.flatMap fun piece => piece.1.written ++ piece.2 := by
  cases pieces with
  | nil => exact Or.inl rfl
  | cons piece pieces =>
      refine Or.inr ?_
      simp [Statement.written, Statement.beginning]

/-- The parser finds the paths of the statements that were written. -/
theorem pathsFrom_weave
    {lead : Text}
    {pieces : List (Statement × Text)}
    (leadFree : KeywordFree lead)
    (fillersFree : ∀ piece ∈ pieces, KeywordFree piece.2) :
    pathsFrom 0 (weave lead pieces) = pieces.map fun piece => piece.1.path := by
  rw [weave, pathsFrom_filler_append leadFree (flatMap_written_eq_nil_or_isPrefix pieces)]
  induction pieces with
  | nil => rfl
  | cons piece pieces inductionHypothesis =>
      rw [List.forall_mem_cons] at fillersFree
      rw [List.flatMap_cons, List.append_assoc, pathsFrom_written_append,
        pathsFrom_filler_append fillersFree.1 (flatMap_written_eq_nil_or_isPrefix pieces),
        inductionHypothesis fillersFree.2, List.map_cons]

/-- The load says of a path what there is to say: the path itself, its part behind the last slash,
which is all of a path without one, and the path with the first character of that part in upper
case. -/
structure Describes (load : Load) (path : Text) : Prop where
  rawPath_eq : load.rawPath = path
  slash_notMem_modelName : '/' ∉ load.modelName
  exists_directory : ∃ directory : Text,
    (directory = [] ∨ directory.getLast? = some '/') ∧
      path = directory ++ load.modelName ∧
      load.conventionPath = directory ++ Convention.capitalize load.modelName

theorem describes_ofPath (path : Text) : (ofPath path).Describes path := by
  cases cut : path.splitAtLast? '/' with
  | none =>
      have name : (ofPath path).modelName = path := by simp [ofPath, splitPath, cut]
      refine ⟨rfl, ?_, [], Or.inl rfl, ?_, ?_⟩
      · rw [name]
        exact Text.splitAtLast?_eq_none_iff.mp cut
      · rw [name, List.nil_append]
      · rw [name]
        simp [ofPath, conventionOf, cut]
  | some sides =>
      obtain ⟨directory, last⟩ := sides
      obtain ⟨split, absent⟩ := Text.splitAtLast?_eq_some_iff.mp cut
      have name : (ofPath path).modelName = last := by simp [ofPath, splitPath, cut]
      refine ⟨rfl, ?_, directory ++ ['/'], Or.inr (by simp), ?_, ?_⟩
      · rw [name]
        exact absent
      · rw [name, split, List.append_assoc, List.singleton_append]
      · rw [name]
        simp [ofPath, conventionOf, cut]

/-- Parsing a written text gives one load for each statement, in order, which describes its path. -/
theorem describes_parse_weave
    (lead : Text)
    (pieces : List (Statement × Text))
    (leadFree : KeywordFree lead)
    (fillersFree : ∀ piece ∈ pieces, KeywordFree piece.2) :
    List.Forall₂ (fun load piece => Describes load piece.1.path) (parse (weave lead pieces))
      pieces := by
  rw [parse, pathsFrom_weave leadFree fillersFree, List.map_map, List.forall₂_map_left_iff,
    List.forall₂_same]
  intro piece _
  exact describes_ofPath piece.1.path

namespace Sample

/-- A statement with blanks, two kinds of quotes and the beginning of a statement in its path. -/
def nested : Statement where
  afterKeyword := [' ']
  afterOpening := ['\n']
  openingQuote := '"'
  path := "load->model(/x".toList
  closingQuote := '\''
  beforeClosing := []
  afterKeyword_blank := rfl
  afterOpening_blank := rfl
  beforeClosing_blank := rfl
  openingQuote_isQuote := rfl
  closingQuote_isQuote := rfl
  path_ne_nil := by decide
  path_quoteFree := by simp [isQuote]

/-- That statement twice, the second time right behind the beginning of a keyword. -/
def pieces : List (Statement × Text) :=
  [(nested, "')load->mode".toList), (nested, [])]

end Sample

/-- The quotes of a filler, the beginning of a statement in a path and the beginning of a keyword in
front of a statement do not disturb the parser. -/
theorem describes_parse_weave_sample :
    KeywordFree "('load->mode".toList ∧
      (∀ piece ∈ Sample.pieces, KeywordFree piece.2) ∧
      List.Forall₂ (fun load piece => Describes load piece.1.path)
        (parse (weave "('load->mode".toList Sample.pieces)) Sample.pieces := by
  have leadFree : KeywordFree "('load->mode".toList := by decide
  have fillersFree : ∀ piece ∈ Sample.pieces, KeywordFree piece.2 := by decide
  exact ⟨leadFree, fillersFree, describes_parse_weave _ _ leadFree fillersFree⟩

end Load
end ModelNav
