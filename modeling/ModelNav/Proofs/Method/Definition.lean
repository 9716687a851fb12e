import ModelNav.Method.Search
import ModelNav.Proofs.Text.Blanks
import ModelNav.Proofs.Text.Pieces

/-!
# Lines that define a method

A line defines a method when it can be cut into the word `function`, blanks, the name, blanks and an
opening parenthesis, with anything before and after.  The word and the name may be written in any
case.  The test that the search makes of each line decides exactly this.
-/

namespace ModelNav
namespace Method

/-- The text begins with the name, in any case, and the parenthesis that opens the parameters. -/
def OpensParameters (name text : Text) : Prop :=
  ∃ spelling gap after : Text,
    Text.SameLetters spelling name ∧ Text.isBlank gap = true ∧
      text = spelling ++ gap ++ '(' :: after

/-- The line holds the definition of a method: the word `function`, at least one blank, the name and
an opening parenthesis, letters in any case. -/
def Defines (name line : Text) : Prop :=
  ∃ before word blanks rest : Text,
    Text.SameLetters word keyword ∧ blanks ≠ [] ∧ Text.isBlank blanks = true ∧
      OpensParameters name rest ∧ line = before ++ word ++ blanks ++ rest

theorem opensParameters_iff
    {name text : Text} :
    opensParameters name text = true ↔ OpensParameters name text := by
  constructor
  · intro opens
    unfold opensParameters at opens
    split at opens
    · rename_i rest named
      obtain ⟨spelling, letters, rfl⟩ := Text.afterFolded?_eq_some_iff.mp named
      obtain ⟨after, dropped⟩ := List.head?_eq_some_iff.mp (beq_iff_eq.mp opens)
      obtain ⟨gap, blank, rfl⟩ := Text.exists_blanks_of_dropWhile dropped
      exact ⟨spelling, gap, after, letters, blank, by rw [List.append_assoc]⟩
    · contradiction
  · rintro ⟨spelling, gap, after, letters, blank, rfl⟩
    have named :
        Text.afterFolded? name (spelling ++ gap ++ '(' :: after) = some (gap ++ '(' :: after) :=
      Text.afterFolded?_eq_some_iff.mpr ⟨spelling, letters, by rw [List.append_assoc]⟩
    have visible : Text.isSpace '(' = false := rfl
    rw [opensParameters, named]
    simp [Text.dropWhile_isSpace_append blank, visible]

theorem namedAfterBlanks_iff
    {name text : Text} :
    namedAfterBlanks name text = true ↔
      ∃ blanks rest, blanks ≠ [] ∧ Text.isBlank blanks = true ∧
        OpensParameters name rest ∧ text = blanks ++ rest := by
  induction text with
  | nil =>
      constructor
      · intro impossible
        contradiction
      · rintro ⟨blanks, rest, present, -, -, split⟩
        exact absurd (List.append_eq_nil_iff.mp split.symm).1 present
  | cons first text inductionHypothesis =>
      rw [namedAfterBlanks, Bool.and_eq_true, Bool.or_eq_true, opensParameters_iff,
        inductionHypothesis]
      constructor
      · rintro ⟨space, opens | ⟨blanks, rest, -, blank, opens, rfl⟩⟩
        · exact ⟨[first], text, by simp, by simpa [Text.isBlank] using space, opens, rfl⟩
        · refine ⟨first :: blanks, rest, by simp, ?_, opens, rfl⟩
          simpa [Text.isBlank, space] using blank
      · rintro ⟨blanks, rest, present, blank, opens, split⟩
        cases blanks with
        | nil => contradiction
        | cons head blanks =>
            rw [List.cons_append, List.cons.injEq] at split
            obtain ⟨rfl, rfl⟩ := split
            rw [Text.isBlank, List.all_cons, Bool.and_eq_true] at blank
            refine ⟨blank.1, ?_⟩
            cases blanks with
            | nil => exact Or.inl opens
            | cons next blanks =>
                exact Or.inr ⟨next :: blanks, rest, by simp, blank.2, opens, rfl⟩

theorem definitionAtHead_iff
    {name text : Text} :
    definitionAtHead name text = true ↔
      ∃ word blanks rest,
        Text.SameLetters word keyword ∧ blanks ≠ [] ∧ Text.isBlank blanks = true ∧
          OpensParameters name rest ∧ text = word ++ blanks ++ rest := by
  constructor
  · intro defines
    unfold definitionAtHead at defines
    split at defines
    · rename_i following begins
      obtain ⟨word, letters, rfl⟩ := Text.afterFolded?_eq_some_iff.mp begins
      obtain ⟨blanks, rest, present, blank, opens, rfl⟩ := namedAfterBlanks_iff.mp defines
      exact ⟨word, blanks, rest, letters, present, blank, opens, by rw [List.append_assoc]⟩
    · contradiction
  · rintro ⟨word, blanks, rest, letters, present, blank, opens, rfl⟩
    have begins : Text.afterFolded? keyword (word ++ blanks ++ rest) = some (blanks ++ rest) :=
      Text.afterFolded?_eq_some_iff.mpr ⟨word, letters, by rw [List.append_assoc]⟩
    rw [definitionAtHead, begins]
    exact namedAfterBlanks_iff.mpr ⟨blanks, rest, present, blank, opens, rfl⟩

/-- A line passes the test exactly when a definition begins at one of its columns. -/
theorem isDefinition_iff_exists_definitionAtHead
    {name line : Text} :
    isDefinition name line = true ↔
      ∃ before rest, line = before ++ rest ∧ definitionAtHead name rest = true := by
  induction line with
  | nil =>
      rw [isDefinition]
      constructor
      · intro defines
        exact ⟨[], [], rfl, defines⟩
      · rintro ⟨before, rest, split, defines⟩
        obtain ⟨-, rfl⟩ := List.append_eq_nil_iff.mp split.symm
        exact defines
  | cons first line inductionHypothesis =>
      rw [isDefinition, Bool.or_eq_true, inductionHypothesis]
      constructor
      · rintro (defines | ⟨before, rest, rfl, defines⟩)
        · exact ⟨[], first :: line, rfl, defines⟩
        · exact ⟨first :: before, rest, rfl, defines⟩
      · rintro ⟨before, rest, split, defines⟩
        cases before with
        | nil => exact Or.inl (by rw [split]; exact defines)
        | cons head before =>
            rw [List.cons_append, List.cons.injEq] at split
            exact Or.inr ⟨before, rest, split.2, defines⟩

/-- The search tests a line for exactly the definitions that it holds. -/
theorem isDefinition_iff
    {name line : Text} :
    isDefinition name line = true ↔ Defines name line := by
  rw [isDefinition_iff_exists_definitionAtHead]
  constructor
  · rintro ⟨before, rest, rfl, defines⟩
    obtain ⟨word, blanks, following, letters, present, blank, opens, rfl⟩ :=
      definitionAtHead_iff.mp defines
    exact ⟨before, word, blanks, following, letters, present, blank, opens, by simp⟩
  · rintro ⟨before, word, blanks, following, letters, present, blank, opens, rfl⟩
    refine ⟨before, word ++ blanks ++ following, by simp, ?_⟩
    exact definitionAtHead_iff.mpr
      ⟨word, blanks, following, letters, present, blank, opens, rfl⟩

instance (name line : Text) : Decidable (Defines name line) :=
  decidable_of_iff (isDefinition name line = true) isDefinition_iff

/-- A line with a definition holds an opening parenthesis. -/
theorem Defines.mem_parenthesis
    {name line : Text}
    (defines : Defines name line) :
    '(' ∈ line := by
  obtain ⟨before, word, blanks, rest, -, -, -, opens, rfl⟩ := defines
  obtain ⟨spelling, gap, after, -, -, rfl⟩ := opens
  simp

end Method
end ModelNav
