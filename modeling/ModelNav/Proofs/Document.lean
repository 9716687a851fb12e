import Mathlib.Data.List.Basic
import Mathlib.Data.List.GetD
import ModelNav.Document
import ModelNav.Proofs.Text.Lines

/-!
# Lines of a document and the word under the cursor

The lines of a document are the pieces of its text between line feeds, less the carriage returns of
their line ends, and putting the line ends back gives the text again.  A cursor touches a word when
the character at its column or the one right before it belongs to a word.
-/

namespace ModelNav
namespace Document

@[simp] theorem lineAt_natCast
    (document : Document)
    (line : Nat) :
    document.lineAt line = document.lines.getD line [] := rfl

/-- A line that is not empty is a line of the document. -/
theorem lt_length_of_lineAt_ne_nil
    {document : Document}
    {line : Nat}
    (present : document.lineAt line ≠ []) :
    line < document.lines.length := by
  by_contra beyond
  apply present
  rw [lineAt_natCast, List.getD_eq_default _ _ (Nat.le_of_not_lt beyond)]

/-- The lines of a document are the pieces of its text between line feeds, with exactly one carriage
return taken from the end of each piece but the last that has one.  They are one more than the line
feeds, none of them holds a line feed, and putting back behind each of them but the last the line
end that was cut gives the text. -/
theorem exists_pieces_lines_eq (document : Document) :
    ∃ pieces last,
      Text.splitOn '\n' document.text = pieces ++ [last] ∧
        document.lines = pieces.map Text.dropReturn ++ [last] ∧
        document.lines.length = document.text.count '\n' + 1 ∧
        (∀ line ∈ document.lines, '\n' ∉ line) ∧
        (List.zipWith (· ++ ·) document.lines (pieces.map Text.lineEnd ++ [[]])).flatten =
          document.text := by
  obtain ⟨pieces, last, split, cut⟩ := Text.exists_pieces_lines document.text
  have lines_eq : document.lines = pieces.map Text.dropReturn ++ [last] := cut
  refine ⟨pieces, last, split, lines_eq, ?_, ?_, ?_⟩
  · rw [← Text.length_splitOn, split, lines_eq]
    simp
  · have feedFree : ∀ piece ∈ pieces ++ [last], '\n' ∉ piece := by
      rw [← split]
      exact fun piece isPiece => Text.notMem_of_mem_splitOn isPiece
    rw [lines_eq]
    simp only [List.mem_append, List.mem_map, List.mem_singleton]
    rintro line (⟨piece, isPiece, rfl⟩ | rfl) inLine
    · exact feedFree piece (by simp [isPiece]) ((Text.dropReturn_isPrefix piece).subset inLine)
    · exact feedFree line (by simp) inLine
  · calc
      (List.zipWith (· ++ ·) document.lines (pieces.map Text.lineEnd ++ [[]])).flatten
          = (pieces.map (· ++ ['\n'])).flatten ++ last := by
            rw [lines_eq, List.zipWith_append (by simp)]
            simp [List.zipWith_map, Text.dropReturn_append_lineEnd]
      _ = Text.join ['\n'] (Text.splitOn '\n' document.text) := by
            rw [split, Text.join_append_singleton_eq_flatten]
      _ = document.text := Text.join_splitOn '\n' document.text

/-- A carriage return stays unless a line feed follows it at once. -/
example : lines ⟨"a\rb\r\r\n\r".toList, none⟩ = ["a\rb\r".toList, "\r".toList] := by decide

/-- The cursor touches a word of its line: the character at its column or the one before it belongs
to a word. -/
def TouchesWord (document : Document) (position : Position) : Prop :=
  ∃ column character,
    (document.lineAt position.line)[column]? = some character ∧
      isIdentifier character = true ∧
      (column = position.character ∨ column + 1 = position.character)

theorem takeWhile_eq_nil_iff_head?
    {text : Text}
    {holds : Char → Bool} :
    text.takeWhile holds = [] ↔ ∀ character ∈ text.head?, holds character = false := by
  cases text with
  | nil => simp
  | cons first rest =>
      by_cases held : holds first = true
      · simp [held]
      · simp [held]

/-- No word ends at a column of a line exactly when the character before it belongs to none. -/
theorem takeWhile_reverse_take_eq_nil_iff
    {text : Text}
    {column : Nat}
    (bounded : column ≤ text.length) :
    (text.take column).reverse.takeWhile isIdentifier = [] ↔
      ∀ index, index + 1 = column →
        ∀ character, text[index]? = some character → isIdentifier character = false := by
  rw [takeWhile_eq_nil_iff_head?, List.head?_reverse, List.getLast?_take]
  cases column with
  | zero => simp
  | succ before =>
      have inside : before < text.length := bounded
      simp [inside]

/-- There is no word at a column exactly when neither of the characters beside it belongs to one. -/
theorem wordRange?_eq_none_iff
    {text : Text}
    {column : Nat} :
    wordRange? text column = none ↔
      ∀ index, index = column ∨ index + 1 = column →
        ∀ character, text[index]? = some character → isIdentifier character = false := by
  have ahead :
      (text.drop column).takeWhile isIdentifier = [] ↔
        ∀ character, text[column]? = some character → isIdentifier character = false := by
    rw [takeWhile_eq_nil_iff_head?, List.head?_drop]
    rfl
  simp only [wordRange?, ite_eq_left_iff, reduceCtorEq, imp_false, Classical.not_not, ahead]
  constructor
  · rintro (beyond | ⟨behind, here⟩) index beside character standsAt
    · obtain ⟨inside, -⟩ := List.getElem?_eq_some_iff.mp standsAt
      omega
    · rcases beside with rfl | before
      · exact here character standsAt
      · have bounded : column ≤ text.length := by
          obtain ⟨inside, -⟩ := List.getElem?_eq_some_iff.mp standsAt
          omega
        exact (takeWhile_reverse_take_eq_nil_iff bounded).mp behind index before character standsAt
  · intro free
    rcases Nat.lt_or_ge text.length column with beyond | bounded
    · exact Or.inl beyond
    · refine Or.inr ⟨?_, free column (Or.inl rfl)⟩
      rw [takeWhile_reverse_take_eq_nil_iff bounded]
      intro index before
      exact free index (Or.inr before)

/-- The document has a word at a position exactly when the cursor touches one. -/
theorem isNone_wordAt?_iff
    {document : Document}
    {position : Position} :
    (document.wordAt? position).isNone = true ↔ ¬document.TouchesWord position := by
  rw [Option.isNone_iff_eq_none, wordAt?, wordRange?_eq_none_iff]
  constructor
  · rintro free ⟨column, character, standsAt, identifier, beside⟩
    rw [free column beside character standsAt] at identifier
    contradiction
  · intro untouched index beside character standsAt
    by_contra identifier
    exact untouched ⟨index, character, standsAt, by simpa using identifier, beside⟩

/-! ## Documents from files -/

/-- A file that can be read as text is loaded as a document. -/
theorem load_of_readText
    {files : FileSystem}
    {path : Path}
    {text : Text}
    (read : files.readText path = .ok text) :
    load files path = pure ⟨text, some path⟩ := by
  rw [load, read]

/-- A file that cannot be read as text is told with the reason. -/
theorem outcome_load_of_unread
    {files : FileSystem}
    {path : Path}
    {fault : ReadFault}
    (unread : files.readText path = .error fault)
    (notNul : fault ≠ .access .nulInPath) :
    (load files path).outcome = .error (.unreadableDocument path fault) := by
  rw [load, unread]
  split
  · contradiction
  · rename_i failed
    exact absurd (Except.error.inj failed) notNul
  · rename_i failed
    obtain rfl := Except.error.inj failed
    rfl

end Document
end ModelNav
