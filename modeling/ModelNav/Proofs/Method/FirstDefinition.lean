import Mathlib.Order.Bounds.Basic
import ModelNav.Proofs.Method.Lookup

/-!
# The first definition of a method

The search for a method ends at the first line that defines it, whatever characters its name has,
and gives nothing when no line does.  Names that have the same letters are defined by the same
lines, so the line of a method, its comment and its declaration do not depend on the case in which
the name is given.
-/

namespace ModelNav

namespace Text

/-- Two texts differ at most in the case of letters of ASCII. -/
def SameAsciiLetters (first second : Text) : Prop :=
  first.map Char.toLower = second.map Char.toLower

instance (first second : Text) : Decidable (SameAsciiLetters first second) :=
  inferInstanceAs (Decidable (first.map Char.toLower = second.map Char.toLower))

theorem toLower_eq_self_of_beyond
    {character : Char}
    (beyond : ¬character.toNat < 0x80) :
    character.toLower = character := by
  refine dif_neg ?_
  rintro ⟨-, bounded⟩
  have bound : character.toNat ≤ 90 := bounded
  omega

/-- The fold of a letter of ASCII does not depend on its case. -/
theorem fold_toLower (character : Char) : fold character.toLower = fold character := by
  by_cases single : character.toNat < 0x80
  · have all : ∀ code < 0x80, fold (Char.ofNat code).toLower = fold (Char.ofNat code) := by
      decide +kernel
    simpa using all character.toNat single
  · rw [toLower_eq_self_of_beyond single]

theorem SameAsciiLetters.sameLetters
    {first second : Text}
    (same : SameAsciiLetters first second) :
    SameLetters first second := by
  have folds : ∀ text : Text, text.map fold = (text.map Char.toLower).map fold := by
    intro text
    simp [Function.comp_def, fold_toLower]
  calc
    first.map fold = (first.map Char.toLower).map fold := folds first
    _ = (second.map Char.toLower).map fold := by rw [same]
    _ = second.map fold := (folds second).symm

end Text

namespace Method

/-- What a search reports apart from the column: the line, the comment and the declaration. -/
def site (method : Method) : Nat × Text × Text :=
  (method.line, method.comment, method.declaration)

variable {name other : Text}

/-! ## Names with the same letters -/

theorem OpensParameters.of_sameLetters
    {text : Text}
    (same : Text.SameLetters name other)
    (opens : OpensParameters name text) :
    OpensParameters other text := by
  obtain ⟨spelling, gap, after, letters, blank, split⟩ := opens
  exact ⟨spelling, gap, after, letters.trans same, blank, split⟩

theorem Defines.of_sameLetters
    {line : Text}
    (same : Text.SameLetters name other)
    (defines : Defines name line) :
    Defines other line := by
  obtain ⟨before, word, blanks, rest, letters, present, blank, opens, split⟩ := defines
  exact ⟨before, word, blanks, rest, letters, present, blank, opens.of_sameLetters same, split⟩

/-- Names with the same letters are defined by the same lines. -/
theorem isDefinition_congr (same : Text.SameLetters name other) :
    isDefinition name = isDefinition other := by
  funext line
  rw [Bool.eq_iff_iff, isDefinition_iff, isDefinition_iff]
  constructor
  · exact Defines.of_sameLetters same
  · exact Defines.of_sameLetters same.symm

theorem site_definedAt
    (lines : List Text)
    (name other : Text)
    (extra : Int)
    (index : Nat)
    (line : Text) :
    (definedAt lines name extra index line).site = (definedAt lines other extra index line).site :=
  rfl

theorem map_site_findIn?_congr
    (same : Text.SameLetters name other)
    (lines : List Text)
    (extra : Int) :
    (findIn? lines name extra).map site = (findIn? lines other extra).map site := by
  simp only [findIn?, isDefinition_congr same, Option.bind_eq_bind, Option.pure_def,
    Option.map_bind, Function.comp_def, Option.map_some,
    site_definedAt lines name other]

theorem map_site_findInFile_congr
    (same : Text.SameLetters name other)
    (files : FileSystem)
    (settings : Settings)
    (path : Path) :
    (findInFile files settings path name).outcome.map (Option.map site) =
      (findInFile files settings path other).outcome.map (Option.map site) := by
  cases read : files.readText path with
  | ok text =>
      rw [outcome_findInFile_of_read read, outcome_findInFile_of_read read]
      exact congrArg Except.ok (map_site_findIn?_congr same text.lines _)
  | error fault =>
      rw [findInFile, findInFile, read]
      cases fault with
      | access fault => cases fault <;> rfl
      | undecodable fault => rfl

/-! ## The first line -/

theorem isLeast_line_of_findIn?
    {lines : List Text}
    {extra : Int}
    {method : Method}
    (found : findIn? lines name extra = some method) :
    IsLeast {index | ∃ line, lines[index]? = some line ∧ Defines name line} method.line := by
  obtain ⟨index, line, standsAt, defines, first, rfl⟩ := findIn?_eq_some_iff.mp found
  refine ⟨⟨line, standsAt, defines⟩, ?_⟩
  rintro earlier ⟨otherLine, isOther, definesOther⟩
  exact Nat.le_of_not_lt fun before => first earlier before otherLine isOther definesOther

/-- The search gives nothing exactly when no line defines the method, and the first line that does
otherwise.  A name in another case of its letters of ASCII has the same line, comment and
declaration, in every list of lines and in every file. -/
theorem findIn?_first_definition
    (lines : List Text)
    (name : Text)
    (extra : Int) :
    (findIn? lines name extra = none ↔ ∀ line ∈ lines, ¬Defines name line) ∧
      ((∃ line ∈ lines, Defines name line) →
        ∃ method, findIn? lines name extra = some method ∧
          IsLeast {index | ∃ line, lines[index]? = some line ∧ Defines name line} method.line) ∧
      ∀ other, Text.SameAsciiLetters name other →
        (findIn? lines name extra).map site = (findIn? lines other extra).map site ∧
          ∀ (files : FileSystem) (settings : Settings) (path : Path),
            (findInFile files settings path name).outcome.map (Option.map site) =
              (findInFile files settings path other).outcome.map (Option.map site) := by
  refine ⟨findIn?_eq_none_iff, ?_, ?_⟩
  · rintro ⟨line, present, defines⟩
    cases found : findIn? lines name extra with
    | none => exact absurd defines (findIn?_eq_none_iff.mp found line present)
    | some method => exact ⟨method, rfl, isLeast_line_of_findIn? found⟩
  · intro other same
    exact ⟨map_site_findIn?_congr same.sameLetters lines extra,
      map_site_findInFile_congr same.sameLetters⟩

/-- A name with a parenthesis, and a line that spells the word and the name with other letters of
the same fold: the dotless i and the sign for kelvin. -/
theorem findIn?_first_definition_sample :
    ¬Defines "k(".toList "function k(".toList ∧
      Defines "k(".toList "final FUNCT\u0131ON  \u212a( (".toList ∧
      ∃ method,
        findIn? ["function k(".toList, "final FUNCT\u0131ON  \u212a( (".toList] "k(".toList 10 =
            some method ∧
          IsLeast {index | ∃ line,
            ["function k(".toList, "final FUNCT\u0131ON  \u212a( (".toList][index]? = some line ∧
              Defines "k(".toList line} method.line := by
  have undefined : ¬Defines "k(".toList "function k(".toList := by decide
  have defined : Defines "k(".toList "final FUNCT\u0131ON  \u212a( (".toList := by decide +kernel
  obtain ⟨-, finds, -⟩ := findIn?_first_definition
    ["function k(".toList, "final FUNCT\u0131ON  \u212a( (".toList] "k(".toList 10
  exact ⟨undefined, defined, finds ⟨_, by simp, defined⟩⟩

end Method
end ModelNav
