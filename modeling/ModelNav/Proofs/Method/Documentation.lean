import ModelNav.Proofs.Method.Comment
import ModelNav.Proofs.Text.Blanks
import ModelNav.Proofs.Text.Pieces

/-!
# Documentation that is written above a method

Documentation is written as a block whose lines are decorated with stars, or as a run of line
comments.  However its lines are indented and whatever stands around it, the comment that is read
above the method is the documentation, line by line.
-/

namespace ModelNav
namespace Comment

/-- A line of documentation: its words and the blanks in front of it.  The words are not blank, have
no blanks around them and do not close a block. -/
structure DocLine where
  indent : Text
  words : Text
  indent_blank : Text.isBlank indent = true
  words_ne_nil : words ≠ []
  words_trimmed : words.trim = words
  words_opened : closesBlock words = false

/-- How documentation is written: as a block, whose first and last line have indentations of their
own, or as line comments with a mark. -/
inductive Layout
  | block (openingIndent closingIndent : Text)
  | marked (mark : Text)

namespace DocLine

/-- The line in a block, behind a star.  The blank that often stands in front of the star belongs to
the indentation. -/
def starred (doc : DocLine) : Text :=
  doc.indent ++ ['*'] ++ ' ' :: doc.words

/-- The line as a comment of its own, behind a mark. -/
def marked (mark : Text) (doc : DocLine) : Text :=
  doc.indent ++ mark ++ ' ' :: doc.words

end DocLine

namespace Layout

/-- The lines that are written. -/
def write : Layout → List DocLine → List Text
  | block openingIndent closingIndent, docs =>
    (openingIndent ++ ['/', '*', '*']) :: docs.map DocLine.starred ++
      [closingIndent ++ ['*', '/']]
  | marked mark, docs => docs.map (DocLine.marked mark)

/-- Documentation is told apart from the lines above it: a block is, and line comments are when the
line above them does not begin with their mark. -/
def FitsBelow : Layout → List Text → Prop
  | block openingIndent closingIndent, _ =>
    Text.isBlank openingIndent = true ∧ Text.isBlank closingIndent = true
  | marked mark, before =>
    mark ∈ lineMarks ∧ ∀ line ∈ before.getLast?, Text.startsWith line.trim mark = false

end Layout

/-! ## Lines of documentation -/

theorem closesBlock_append_space
    {words : Text}
    (opened : closesBlock words = false)
    (front : Text) :
    closesBlock (front ++ ' ' :: words) = false := by
  rw [Bool.eq_false_iff] at opened ⊢
  intro closes
  apply opened
  exact List.isSuffixOf_iff_suffix.mpr
    (Text.isSuffix_of_isSuffix_append_cons (by decide) (List.isSuffixOf_iff_suffix.mp closes))

/-- A line that does not close a block keeps all its characters. -/
theorem dropClosing_eq_self
    {line : Text}
    (opened : closesBlock line = false)
    (unbroken : line.getLast? ≠ some '\n') :
    dropClosing line = line := by
  fun_induction dropClosing line with
  | case1 => rfl
  | case2 => contradiction
  | case3 => simp at unbroken
  | case4 first rest notClosing notBroken inductionHypothesis =>
      rw [inductionHypothesis]
      · rw [Bool.eq_false_iff] at opened ⊢
        intro closes
        exact opened (List.isSuffixOf_iff_suffix.mpr
          ((List.isSuffixOf_iff_suffix.mp closes).trans (List.suffix_cons first rest)))
      · cases rest with
        | nil => simp
        | cons next rest => simpa using unbroken

/-- A mark begins with a character that is no blank. -/
theorem exists_cons_of_mem_lineMarks {mark : Text} (known : mark ∈ lineMarks) :
    ∃ first rest, mark = first :: rest ∧ Text.isSpace first = false := by
  simp only [lineMarks, List.mem_cons, List.not_mem_nil, or_false] at known
  rcases known with rfl | rfl
  · exact ⟨_, _, rfl, rfl⟩
  · exact ⟨_, _, rfl, rfl⟩

namespace DocLine

variable (doc : DocLine)

theorem getLast?_append_words (front : Text) :
    (front ++ ' ' :: doc.words).getLast? = doc.words.getLast? := by
  obtain ⟨first, rest, words_eq⟩ := List.exists_cons_of_ne_nil doc.words_ne_nil
  rw [List.getLast?_append_of_ne_nil _ (List.cons_ne_nil _ _), words_eq, List.getLast?_cons_cons]

theorem not_isSpace_getLast?_words : ∀ last ∈ doc.words.getLast?, Text.isSpace last = false :=
  Text.not_isSpace_getLast?_of_trim_eq_self doc.words_trimmed

/-- Trimming a line of documentation takes its indentation away and nothing else. -/
theorem trim_indented
    {indent front : Text}
    {first : Char}
    (blank : Text.isBlank indent = true)
    (visible : Text.isSpace first = false) :
    Text.trim (indent ++ (first :: front) ++ ' ' :: doc.words) =
      (first :: front) ++ ' ' :: doc.words := by
  rw [List.append_assoc, Text.trim_append_of_isBlank blank]
  apply Text.trim_eq_self
  · intro head isHead
    obtain rfl : first = head := Option.some.inj isHead
    exact visible
  · rw [doc.getLast?_append_words]
    exact doc.not_isSpace_getLast?_words

theorem trim_starred : doc.starred.trim = '*' :: ' ' :: doc.words :=
  doc.trim_indented doc.indent_blank rfl

theorem trim_marked
    {mark : Text}
    (known : mark ∈ lineMarks) :
    (doc.marked mark).trim = mark ++ ' ' :: doc.words := by
  obtain ⟨first, rest, rfl, visible⟩ := exists_cons_of_mem_lineMarks known
  exact doc.trim_indented doc.indent_blank visible

theorem trim_space_words : Text.trim (' ' :: doc.words) = doc.words := by
  have blank : Text.isBlank [' '] = true := by decide
  exact (Text.trim_append_of_isBlank blank doc.words).trans doc.words_trimmed

/-- What is left of a line in a block is its words: the first star is the decoration, and the words
may begin with another one. -/
theorem cleanLine_trim_starred : cleanLine doc.starred.trim = doc.words := by
  have closing : dropClosing ('*' :: ' ' :: doc.words) = '*' :: ' ' :: doc.words := by
    apply dropClosing_eq_self (closesBlock_append_space doc.words_opened ['*'])
    -- A line feed behind the mark would be a blank at the end of the words.
    intro broken
    have isLast := (doc.getLast?_append_words ['*']).symm.trans broken
    have visible := doc.not_isSpace_getLast?_words '\n' isLast
    contradiction
  rw [trim_starred, cleanLine]
  show Text.trim (dropDecoration (dropClosing ('*' :: ' ' :: doc.words))) = doc.words
  rw [closing]
  exact doc.trim_space_words

theorem opensBlock_trim_starred : opensBlock doc.starred.trim = false := by
  rw [trim_starred]
  rfl

section Marked

variable {mark : Text} (known : mark ∈ lineMarks)
include known

theorem startsWith_trim_marked : Text.startsWith (doc.marked mark).trim mark = true := by
  rw [doc.trim_marked known]
  exact List.isPrefixOf_iff_prefix.mpr (List.prefix_append _ _)

theorem closesBlock_trim_marked : closesBlock (doc.marked mark).trim = false := by
  rw [doc.trim_marked known]
  exact closesBlock_append_space doc.words_opened mark

theorem trim_drop_trim_marked :
    Text.trim ((doc.marked mark).trim.drop mark.length) = doc.words := by
  rw [doc.trim_marked known, List.drop_left, doc.trim_space_words]

end Marked

end DocLine

/-! ## What is read of them -/

variable {docs : List DocLine} {before gap : List Text}

theorem forall_trim_eq_nil
    (blank : ∀ line ∈ gap, Text.isBlank line = true) :
    ∀ line ∈ gap.map Text.trim, line = [] := by
  intro line inGap
  obtain ⟨written, present, rfl⟩ := List.mem_map.mp inGap
  exact Text.trim_of_isBlank (blank written present)

/-- Cleaning leaves the words of every line, and no line without words. -/
theorem filter_map_cleanLine_starred (docs : List DocLine) :
    ((docs.map (Text.trim ∘ DocLine.starred)).map cleanLine).filter (· != []) =
      docs.map DocLine.words := by
  have cleaned : (docs.map (Text.trim ∘ DocLine.starred)).map cleanLine =
      docs.map DocLine.words := by
    rw [List.map_map]
    exact List.map_congr_left fun doc _ => doc.cleanLine_trim_starred
  rw [cleaned, List.filter_eq_self]
  intro words inDocs
  obtain ⟨doc, -, rfl⟩ := List.mem_map.mp inDocs
  simpa using doc.words_ne_nil

theorem wordsAbove_write_block
    {openingIndent closingIndent : Text}
    (fits : (Layout.block openingIndent closingIndent).FitsBelow before)
    (blank : ∀ line ∈ gap, Text.isBlank line = true) :
    wordsAbove (before ++ (Layout.block openingIndent closingIndent).write docs ++ gap).reverse =
      docs.map DocLine.words := by
  have opening : Text.trim (openingIndent ++ ['/', '*', '*']) = ['/', '*', '*'] :=
    Text.trim_append_of_isBlank fits.1 _
  have closing : Text.trim (closingIndent ++ ['*', '/']) = ['*', '/'] :=
    Text.trim_append_of_isBlank fits.2 _
  have split : (before ++ (Layout.block openingIndent closingIndent).write docs ++ gap).map
      Text.trim =
        (before.map Text.trim ++ ['/', '*', '*'] :: docs.map (Text.trim ∘ DocLine.starred)) ++
          ['*', '/'] :: gap.map Text.trim := by
    simp [Layout.write, opening, closing]
  have inside : ∀ line ∈ docs.map (Text.trim ∘ DocLine.starred) ++ [['*', '/']],
      opensBlock line = false := by
    simp only [List.mem_append, List.mem_map, List.mem_singleton]
    rintro line (⟨doc, -, rfl⟩ | rfl)
    · exact doc.opensBlock_trim_starred
    · rfl
  have cleanOpening : cleanLine ['/', '*', '*'] = [] := rfl
  have cleanClosing : cleanLine ['*', '/'] = [] := rfl
  rw [wordsAbove_of_block split rfl (forall_trim_eq_nil blank), List.append_assoc,
    List.cons_append, blockWords_reverse_of_opening rfl inside, List.map_cons, List.map_append,
    cleanOpening, List.map_singleton, cleanClosing]
  simpa using filter_map_cleanLine_starred docs

theorem wordsAbove_write_marked
    {mark : Text}
    (documented : docs ≠ [])
    (fits : (Layout.marked mark).FitsBelow before)
    (blank : ∀ line ∈ gap, Text.isBlank line = true) :
    wordsAbove (before ++ (Layout.marked mark).write docs ++ gap).reverse =
      docs.map DocLine.words := by
  obtain ⟨known, stops⟩ := fits
  have stopsTrimmed : ∀ line ∈ (before.map Text.trim).getLast?,
      Text.startsWith line mark = false := by
    simpa [List.getLast?_map] using stops
  have marked : ∀ line ∈ docs.map (Text.trim ∘ DocLine.marked mark),
      Text.startsWith line mark = true := by
    intro line inDocs
    obtain ⟨doc, -, rfl⟩ := List.mem_map.mp inDocs
    exact doc.startsWith_trim_marked known
  obtain ⟨earlier, nearest, rfl⟩ := (List.eq_nil_or_concat docs).resolve_left documented
  have split : (before ++ (Layout.marked mark).write (earlier.concat nearest) ++ gap).map
      Text.trim =
        (before.map Text.trim ++ earlier.map (Text.trim ∘ DocLine.marked mark)) ++
          (nearest.marked mark).trim :: gap.map Text.trim := by
    simp [Layout.write]
  have run : (before.map Text.trim ++ earlier.map (Text.trim ∘ DocLine.marked mark)) ++
      [(nearest.marked mark).trim] =
        before.map Text.trim ++ (earlier.concat nearest).map (Text.trim ∘ DocLine.marked mark) := by
    simp
  rw [wordsAbove_of_mark split (nearest.closesBlock_trim_marked known) known
    (nearest.startsWith_trim_marked known) (forall_trim_eq_nil blank), run,
    lineWords_reverse marked stopsTrimmed, List.map_map]
  exact List.map_congr_left fun doc _ => doc.trim_drop_trim_marked known

/-- Documentation is read as it was written. -/
theorem extract_write
    {layout : Layout}
    (documented : docs ≠ [])
    (fits : layout.FitsBelow before)
    (blank : ∀ line ∈ gap, Text.isBlank line = true)
    (below : List Text) :
    extract (before ++ layout.write docs ++ gap ++ below)
        (before ++ layout.write docs ++ gap).length =
      .ok (Text.join ['\n'] (docs.map DocLine.words)) := by
  have inBounds : (before ++ layout.write docs ++ gap).length ≤
      (before ++ layout.write docs ++ gap ++ below).length := by
    simp
  rw [extract_of_le inBounds, above, List.take_left]
  cases layout with
  | block openingIndent closingIndent => rw [wordsAbove_write_block fits blank]
  | marked mark => rw [wordsAbove_write_marked documented fits blank]

/-- Documentation whose words look like the beginning of a block, a decoration and a mark. -/
def misleadingDocs : List DocLine :=
  [⟨" ".toList, "/* first */ part".toList, by decide, by decide, by decide, by decide⟩,
    ⟨[], "* second".toList, by decide, by decide, by decide, by decide⟩,
    ⟨"\t\u3000".toList, "// # third".toList, by decide, by decide, by decide, by decide⟩]

/-- The documentation stands below a comment of another kind, once as a block and once as a run of
line comments. -/
theorem extract_write_sample :
    misleadingDocs ≠ [] ∧
      (∀ line ∈ [[], " \t".toList], Text.isBlank line = true) ∧
      (Layout.block "  ".toList " ".toList).FitsBelow ["/* x".toList] ∧
      extract (["/* x".toList] ++ (Layout.block "  ".toList " ".toList).write misleadingDocs ++
          [[], " \t".toList] ++ ["function f()".toList]) 8 =
        .ok "/* first */ part\n* second\n// # third".toList ∧
      (Layout.marked ['#']).FitsBelow ["// x".toList] ∧
      extract (["// x".toList] ++ (Layout.marked ['#']).write misleadingDocs ++
          [[], " \t".toList] ++ ["function f()".toList]) 6 =
        .ok "/* first */ part\n* second\n// # third".toList := by
  have documented : misleadingDocs ≠ [] := List.cons_ne_nil _ _
  have blank : ∀ line ∈ [[], " \t".toList], Text.isBlank line = true := by decide
  have block : (Layout.block "  ".toList " ".toList).FitsBelow ["/* x".toList] :=
    ⟨by decide, by decide⟩
  have marked : (Layout.marked ['#']).FitsBelow ["// x".toList] := ⟨by decide, by decide⟩
  have joined : Text.join ['\n'] (misleadingDocs.map DocLine.words) =
      "/* first */ part\n* second\n// # third".toList := by
    decide +kernel
  have readBlock := extract_write documented block blank ["function f()".toList]
  have readMarked := extract_write documented marked blank ["function f()".toList]
  rw [joined] at readBlock readMarked
  exact ⟨documented, blank, block, readBlock, marked, readMarked⟩

end Comment
end ModelNav
