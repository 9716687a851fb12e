import Mathlib.Order.WellFounded
import ModelNav.Proofs.Method.Lookup

/-!
# The column of a method

The column of a method is the first one at which its line has the name.  When a definition on the
line spells the name as it is given, this is the column of the name in the definition, unless the
name also stands further to the left: in the word `function`, or in what stands before that word.
-/

namespace ModelNav
namespace Method

variable {name : Text}

/-- A definition of a name on a line: what stands before the word `function`, that word, the blanks
behind it, and what follows the blanks and begins with the name. -/
structure Definition (name : Text) where
  before : Text
  word : Text
  blanks : Text
  rest : Text
  letters : Text.SameLetters word keyword
  present : blanks ≠ []
  blank : Text.isBlank blanks = true
  opens : OpensParameters name rest

namespace Definition

/-- The line that holds the definition. -/
def line (definition : Definition name) : Text :=
  definition.before ++ definition.word ++ definition.blanks ++ definition.rest

/-- The column at which the name begins. -/
def nameColumn (definition : Definition name) : Nat :=
  (definition.before ++ definition.word ++ definition.blanks).length

/-- No definition of the name on the same line begins further to the left. -/
def IsLeftmost (definition : Definition name) : Prop :=
  ∀ other : Definition name,
    other.line = definition.line → definition.before.length ≤ other.before.length

theorem lt_nameColumn (definition : Definition name) :
    (definition.before ++ definition.word).length < definition.nameColumn := by
  have positive := List.length_pos_iff.mpr definition.present
  simp only [nameColumn, List.length_append]
  omega

theorem nameColumn_le (definition : Definition name) :
    definition.nameColumn ≤ definition.line.length := by
  simp [nameColumn, line]

theorem drop_nameColumn (definition : Definition name) :
    definition.line.drop definition.nameColumn = definition.rest := by
  rw [line, nameColumn, List.drop_left]

/-- The test for a definition succeeds where one begins. -/
theorem definitionAtHead_drop (definition : Definition name) :
    definitionAtHead name (definition.line.drop definition.before.length) = true := by
  have behind : definition.line.drop definition.before.length =
      definition.word ++ definition.blanks ++ definition.rest := by
    simp [line]
  exact definitionAtHead_iff.mpr
    ⟨definition.word, definition.blanks, definition.rest, definition.letters, definition.present,
      definition.blank, definition.opens, behind⟩

/-- A definition is the leftmost one when the test fails at every column before it. -/
theorem isLeftmost_of_forall_lt
    {definition : Definition name}
    (none : ∀ column < definition.before.length,
      definitionAtHead name (definition.line.drop column) = false) :
    definition.IsLeftmost := by
  intro other same
  by_contra further
  have fails := none other.before.length (Nat.lt_of_not_le further)
  rw [← same, definitionAtHead_drop] at fails
  contradiction

/-- What is made of word characters and stands left of the name of a definition ends before the
blanks, because it cannot reach over them. -/
theorem isInfix_of_lt_nameColumn
    {piece : Text}
    (worded : ∀ character ∈ piece, Text.isWord character = true)
    (definition : Definition name)
    {column : Nat}
    (left : column < definition.nameColumn)
    (stands : piece <+: definition.line.drop column) :
    piece <:+: definition.before ++ definition.word := by
  have unbroken : ∀ character ∈ definition.blanks, character ∉ piece := by
    intro character inBlanks inPiece
    have space := List.all_eq_true.mp definition.blank character inBlanks
    rw [Text.isSpace_of_isWord (worded character inPiece)] at space
    contradiction
  -- What is left from the column on still has one of the blanks.
  have inBlanks : column - (definition.before ++ definition.word).length <
      definition.blanks.length := by
    have positive := List.length_pos_iff.mpr definition.present
    simp only [nameColumn, List.length_append] at left ⊢
    omega
  obtain ⟨gap, gaps, remaining⟩ :=
    List.exists_cons_of_ne_nil (List.drop_eq_nil_iff.not.mpr (Nat.not_le_of_lt inBlanks))
  have gapInBlanks : gap ∈ definition.blanks := by
    apply List.mem_of_mem_drop
    rw [remaining]
    exact List.mem_cons_self
  rw [line, List.append_assoc, List.drop_append, List.drop_append_of_le_length inBlanks.le,
    remaining] at stands
  have inFront := Text.isPrefix_of_isPrefix_append_cons (unbroken gap gapInBlanks) stands
  exact inFront.isInfix.trans (List.drop_suffix _ _).isInfix

end Definition

/-- A line that defines a method has a leftmost definition of it. -/
theorem Defines.exists_isLeftmost
    {line : Text}
    (defines : Defines name line) :
    ∃ definition : Definition name, definition.line = line ∧ definition.IsLeftmost := by
  obtain ⟨before, word, blanks, rest, letters, present, blank, opens, split⟩ := defines
  let definitions : Set (Definition name) := {definition | definition.line = line}
  have nonempty : definitions.Nonempty :=
    ⟨⟨before, word, blanks, rest, letters, present, blank, opens⟩, split.symm⟩
  let columnOf : Definition name → Nat := fun definition => definition.before.length
  refine ⟨Function.argminOn columnOf definitions nonempty,
    Function.argminOn_mem columnOf definitions nonempty, ?_⟩
  intro other same
  exact Function.argminOn_le columnOf definitions
    (same.trans (Function.argminOn_mem columnOf definitions nonempty))

/-- The column of a method that was found is the first one at which its line has the name. -/
theorem exists_offset_of_findIn?
    {lines : List Text}
    {extra : Int}
    {method : Method}
    (found : findIn? lines name extra = some method) :
    ∃ line, lines[method.line]? = some line ∧ Defines name line ∧
      method.character = (Text.indexOf? name line).getD 0 := by
  obtain ⟨index, line, standsAt, defines, -, rfl⟩ := findIn?_eq_some_iff.mp found
  exact ⟨line, standsAt, defines, rfl⟩

/-- A piece that is found on the line of a definition and also stands left of its blanks is found
there. -/
theorem Definition.offset_add_length_le
    {piece : Text}
    {definition : Definition name}
    {offset : Nat}
    (first : Text.indexOf? piece definition.line = some offset)
    (inside : piece <:+: definition.before ++ definition.word) :
    offset + piece.length ≤ (definition.before ++ definition.word).length := by
  obtain ⟨front, behind, split⟩ := inside
  have line_eq : definition.line =
      front ++ (piece ++ (behind ++ (definition.blanks ++ definition.rest))) := by
    simp [Definition.line, ← split]
  have stands : piece <+: definition.line.drop front.length := by
    rw [line_eq, List.drop_left]
    exact List.prefix_append _ _
  obtain ⟨nearest, earlier, found⟩ := Text.exists_indexOf?_le (by simp [line_eq]) stands
  obtain rfl : nearest = offset := Option.some.inj (found.symm.trans first)
  have length_eq := congrArg List.length split
  simp only [List.length_append] at length_eq ⊢
  omega

/-- The line of a method that was found has a leftmost definition.  In every definition on the line
that spells the name as it is given, the name begins at the column of the method exactly when it
does not stand to the left of the blanks as well; otherwise the column is that of a place there. -/
theorem character_eq_nameColumn_iff
    {lines : List Text}
    {extra : Int}
    {method : Method}
    (worded : ∀ character ∈ name, Text.isWord character = true)
    (found : findIn? lines name extra = some method) :
    (∃ definition : Definition name,
        lines[method.line]? = some definition.line ∧ definition.IsLeftmost) ∧
      ∀ definition : Definition name,
        lines[method.line]? = some definition.line → name <+: definition.rest →
          (method.character = definition.nameColumn ↔
              ¬name <:+: definition.before ++ definition.word) ∧
            (name <:+: definition.before ++ definition.word →
              method.character + name.length ≤ (definition.before ++ definition.word).length) := by
  obtain ⟨line, standsAt, defines, character_eq⟩ := exists_offset_of_findIn? found
  constructor
  · obtain ⟨definition, rfl, leftmost⟩ := defines.exists_isLeftmost
    exact ⟨definition, standsAt, leftmost⟩
  · intro definition sameLine verbatim
    obtain rfl : line = definition.line := Option.some.inj (standsAt.symm.trans sameLine)
    have ownPlace : name <+: definition.line.drop definition.nameColumn := by
      rw [definition.drop_nameColumn]
      exact verbatim
    obtain ⟨offset, noLater, first⟩ := Text.exists_indexOf?_le definition.nameColumn_le ownPlace
    obtain ⟨-, stands⟩ := Text.isPrefix_drop_of_indexOf? first
    have character_offset : method.character = offset := by rw [character_eq, first]; rfl
    have inFront (inside : name <:+: definition.before ++ definition.word) :
        method.character + name.length ≤ (definition.before ++ definition.word).length := by
      rw [character_offset]
      exact definition.offset_add_length_le first inside
    refine ⟨⟨?_, ?_⟩, inFront⟩
    · intro same inside
      have ends := inFront inside
      have beyond := definition.lt_nameColumn
      omega
    · intro outside
      rw [character_offset]
      refine Nat.le_antisymm noLater (Nat.le_of_not_lt fun left => outside ?_)
      exact definition.isInfix_of_lt_nameColumn worded left stands

/-- A definition on a line that has modifiers in front of it. -/
def definitionBehindModifiers : Definition "get_user".toList where
  before := "    public final ".toList
  word := "Function".toList
  blanks := "  ".toList
  rest := "get_user ($id)".toList
  letters := by decide +kernel
  present := List.cons_ne_nil _ _
  blank := rfl
  opens := ⟨"get_user".toList, " ".toList, "$id)".toList, rfl, by decide, rfl⟩

/-- The name stands nowhere else on the line, so its column is reported. -/
theorem character_eq_nameColumn_sample :
    (∀ character ∈ "get_user".toList, Text.isWord character = true) ∧
      ∃ method,
        findIn? ["<?php".toList, definitionBehindModifiers.line] "get_user".toList 10 =
            some method ∧
          method.character = definitionBehindModifiers.nameColumn := by
  have worded : ∀ character ∈ "get_user".toList, Text.isWord character = true :=
    List.all_eq_true.mp (by decide +kernel)
  have found :
      findIn? ["<?php".toList, definitionBehindModifiers.line] "get_user".toList 10 =
        some (definedAt ["<?php".toList, definitionBehindModifiers.line] "get_user".toList 10 1
          definitionBehindModifiers.line) := by
    decide +kernel
  obtain ⟨-, columns⟩ := character_eq_nameColumn_iff worded found
  obtain ⟨same, -⟩ :=
    columns definitionBehindModifiers rfl ⟨" ($id)".toList, rfl⟩
  exact ⟨worded, _, found, same.mpr (by decide +kernel)⟩

/-- A definition of a name that is also the end of the word `function`. -/
def definitionOfOn : Definition "on".toList where
  before := "public ".toList
  word := "function".toList
  blanks := " ".toList
  rest := "on() \x7b".toList
  letters := rfl
  present := List.cons_ne_nil _ _
  blank := rfl
  opens := ⟨"on".toList, [], ") \x7b".toList, rfl, rfl, rfl⟩

/-- The column reported of a method named `on` lies in the word `function` that stands before it. -/
theorem character_left_of_nameColumn :
    (∀ character ∈ "on".toList, Text.isWord character = true) ∧
      definitionOfOn.line = "public function on() \x7b".toList ∧
      definitionOfOn.IsLeftmost ∧
      "on".toList <+: definitionOfOn.rest ∧
      definitionOfOn.nameColumn = 16 ∧
      ∃ method,
        findIn? ["public function on() \x7b".toList] "on".toList 10 = some method ∧
          method.line = 0 ∧ method.character = 13 := by
  refine ⟨List.all_eq_true.mp (by decide +kernel), rfl, ?_, ⟨"() \x7b".toList, rfl⟩, rfl, definedAt
    ["public function on() \x7b".toList] "on".toList 10 0
    "public function on() \x7b".toList, ?_, rfl, rfl⟩
  · exact Definition.isLeftmost_of_forall_lt (by decide +kernel)
  · decide +kernel

end Method
end ModelNav
