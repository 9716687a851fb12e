import Mathlib.Data.Bool.AllAny
import Mathlib.Data.List.Basic
import ModelNav.Proofs.Text.Numeral
import ModelNav.Terminal.Layout
import ModelNav.Terminal.Markup

/-!
# Text that is shown as it is

Marked text is shown as it is written when nothing in it means something else: no bracket opens a
tag, no backslash stands before a bracket, no emoji is named between colons, and no character is
dropped or expanded.
-/

namespace ModelNav
namespace Terminal

/-- A character before the given rest is shown as it is. -/
structure ShownBefore (rest : Text) (first : Char) : Prop where
  printed : isDropped first = false
  notTab : first ≠ '\t'
  noTag : first = '[' → tagBody? rest = none
  noEscape : first = '\\' → rest.head? ≠ some '['
  noEmoji : first = ':' → ∀ named ∈ named? rest, emoji? (Text.lowercase named.1) = none

/-- Every character of the text is shown as it is. -/
def Plain (text : Text) : Prop :=
  ∀ first rest, first :: rest <:+ text → ShownBefore rest first

section Parts

variable {first : Char} {rest text : Text}

theorem plain_nil : Plain [] := by
  intro first rest suffix
  simp at suffix

theorem plain_cons_iff : Plain (first :: rest) ↔ ShownBefore rest first ∧ Plain rest := by
  constructor
  · intro plain
    exact ⟨plain first rest List.suffix_rfl, fun other later suffix =>
      plain other later (suffix.trans (List.suffix_cons first rest))⟩
  · rintro ⟨shown, plain⟩ other later suffix
    rcases List.suffix_cons_iff.mp suffix with same | inRest
    · obtain ⟨rfl, rfl⟩ := List.cons.inj same
      exact shown
    · exact plain other later inRest

theorem Plain.notMem_tab
    (plain : Plain text) :
    '\t' ∉ text := by
  intro present
  obtain ⟨before, after, rfl⟩ := List.append_of_mem present
  exact (plain '\t' after (List.suffix_append before _)).notTab rfl

/-! ## Markup and emoji -/

/-- A plain text is one piece. -/
theorem Plain.piecesFrom_eq
    (plain : Plain text)
    (position slashes : Nat)
    (run : Text) :
    piecesFrom 0 position run slashes text =
      wordsOf (run.reverse ++ List.replicate slashes '\\' ++ text) := by
  induction text generalizing position slashes run with
  | nil => simp [piecesFrom]
  | cons first rest inductionHypothesis =>
      obtain ⟨shown, restPlain⟩ := plain_cons_iff.mp plain
      rw [piecesFrom]
      by_cases slash : first = '\\'
      · rw [if_pos slash, inductionHypothesis restPlain, List.replicate_succ', slash]
        simp
      · have noTag : (if first = '[' then tagBody? rest else none) = none := by
          split
          · rename_i bracket
            exact shown.noTag bracket
          · rfl
        rw [if_neg slash, noTag]
        dsimp only
        rw [inductionHypothesis restPlain]
        simp

theorem Plain.unescapeBrackets_eq
    (plain : Plain text) :
    unescapeBrackets text = text := by
  induction text with
  | nil => rfl
  | cons first rest inductionHypothesis =>
      obtain ⟨shown, restPlain⟩ := plain_cons_iff.mp plain
      rw [unescapeBrackets, if_neg, inductionHypothesis restPlain]
      rintro ⟨slash, bracket⟩
      exact shown.noEscape slash bracket

/-- No emoji is put into a plain text. -/
theorem Plain.replaceFrom_eq
    (plain : Plain text)
    (skip : Nat) :
    replaceFrom skip text = text.drop skip := by
  induction text generalizing skip with
  | nil => cases skip <;> rfl
  | cons first rest inductionHypothesis =>
      obtain ⟨shown, restPlain⟩ := plain_cons_iff.mp plain
      cases skip with
      | succ skip => rw [replaceFrom, inductionHypothesis restPlain, List.drop_succ_cons]
      | zero =>
          rw [replaceFrom]
          split
          · rw [inductionHypothesis restPlain, List.drop_zero, List.drop_zero]
          · rename_i name mark length named
            split at named
            · rename_i colon
              have unnamed : emoji? (Text.lowercase name) = none := shown.noEmoji colon _ named
              rw [unnamed]
              dsimp only
              rw [inductionHypothesis restPlain, List.cons_append, List.take_append_drop,
                List.drop_zero]
            · contradiction

theorem Plain.shownWords_eq
    (plain : Plain text) :
    shownWords text = text := by
  have printed : ∀ character ∈ text, (!isDropped character) = true := by
    intro character present
    obtain ⟨before, after, rfl⟩ := List.append_of_mem present
    simp [(plain character after (List.suffix_append before _)).printed]
  rw [shownWords, replaceEmoji, plain.replaceFrom_eq, List.drop_zero, List.filter_eq_self.mpr printed]

/-- Plain text is shown as it is, without styles. -/
theorem Plain.showMarkup_eq
    (plain : Plain text) :
    showMarkup text = .ok ⟨text, []⟩ := by
  have onePiece : pieces text = wordsOf text := plain.piecesFrom_eq 0 0 []
  rw [showMarkup, onePiece, wordsOf]
  split
  · rename_i empty
    rw [empty]
    rfl
  · rw [showPieces, plain.unescapeBrackets_eq, plain.shownWords_eq]
    rfl

end Parts

/-! ## Lines -/

namespace Styled

/-- The slices between the line ends of a text hold all of it.  The text is cut into what was read
before, the beginning of a line, and what is left; the offsets are those of what is left. -/
theorem flatMap_slices
    (before start rest : Text)
    (spans : List Span) :
    ((before.length ::
          (offsetsOf '\n' (before.length + start.length) rest).map (· + 1)).zip
        (offsetsOf '\n' (before.length + start.length) rest ++
          [(before ++ start ++ rest).length])).flatMap
      (fun (first, last) =>
        (Styled.slice ⟨before ++ start ++ rest, spans⟩ first last).text ++ ['\n']) =
      start ++ rest ++ ['\n'] := by
  induction rest generalizing before start with
  | nil => simp [offsetsOf, slice]
  | cons first rest inductionHypothesis =>
      rw [offsetsOf]
      split
      · rename_i lineEnd
        subst lineEnd
        have later := inductionHypothesis (before ++ start ++ ['\n']) []
        simpa [slice, Nat.add_assoc] using later
      · have later := inductionHypothesis before (start ++ [first])
        simpa [Nat.add_assoc] using later

/-- The lines of a text, each with a line end, make up the text. -/
theorem flatMap_lines (text : Text) (spans : List Span) :
    (Styled.mk text spans).lines.flatMap (fun line => line.text ++ ['\n']) = text ++ ['\n'] := by
  have slices := flatMap_slices [] [] text spans
  unfold lines
  split
  · simp
  · simpa [List.flatMap_map] using slices

theorem text_subset_of_mem_lines
    {styled line : Styled}
    (present : line ∈ styled.lines) :
    line.text ⊆ styled.text := by
  unfold lines at present
  split at present
  · rw [List.mem_singleton.mp present]
    exact List.Subset.refl _
  · obtain ⟨⟨start, stop⟩, -, rfl⟩ := List.mem_map.mp present
    exact List.Subset.trans (List.take_subset _ _) (List.drop_subset _ _)

theorem spans_eq_nil_of_mem_lines
    {text : Text}
    {line : Styled}
    (present : line ∈ (Styled.mk text []).lines) :
    line.spans = [] := by
  unfold lines at present
  split at present
  · rw [List.mem_singleton.mp present]
  · obtain ⟨⟨start, stop⟩, -, rfl⟩ := List.mem_map.mp present
    rfl

theorem offsetsOf_eq_nil
    {character : Char}
    {text : Text}
    (absent : character ∉ text)
    (offset : Nat) :
    offsetsOf character offset text = [] := by
  induction text generalizing offset with
  | nil => rfl
  | cons first rest inductionHypothesis =>
      rw [List.mem_cons, not_or] at absent
      rw [offsetsOf, if_neg (Ne.symm absent.1), inductionHypothesis absent.2]

end Styled

/-- Lines without tabs stay as they are. -/
theorem expandLines_eq_lines
    {styled : Styled}
    (noTab : '\t' ∉ styled.text) :
    expandLines styled = styled.lines := by
  unfold expandLines
  conv_rhs => rw [← List.map_id styled.lines]
  refine List.map_congr_left ?_
  intro line present
  have noTabHere : '\t' ∉ line.text := fun tab =>
    noTab (Styled.text_subset_of_mem_lines present tab)
  rw [expandTabs, Styled.offsetsOf_eq_nil noTabHere]
  rfl

/-- Plain text has the lines that are printed for it. -/
theorem Plain.applyStyles_eq
    {text : Text}
    (plain : Plain text) :
    applyStyles (expandLines ⟨text, []⟩) = .ok (Styled.mk text []).lines := by
  rw [expandLines_eq_lines plain.notMem_tab, applyStyles, if_pos]
  rw [List.all_eq_true]
  intro line present
  rw [Styled.applies, Styled.spans_eq_nil_of_mem_lines present]
  rfl

/-! ## Places in files -/

/-- A character that means nothing else than itself, whatever follows it. -/
def Inert (character : Char) : Prop :=
  isDropped character = false ∧ character ≠ '\t' ∧ character ≠ '[' ∧ character ≠ ':'

instance (character : Char) : Decidable (Inert character) :=
  inferInstanceAs (Decidable (_ ∧ _))

theorem plain_append_of_inert
    {text rest : Text}
    (inert : ∀ character ∈ text, Inert character)
    (noBracket : rest.head? ≠ some '[')
    (plain : Plain rest) :
    Plain (text ++ rest) ∧ (text ++ rest).head? ≠ some '[' := by
  induction text with
  | nil => exact ⟨plain, noBracket⟩
  | cons first text inductionHypothesis =>
      rw [List.forall_mem_cons] at inert
      obtain ⟨⟨printed, notTab, notBracket, notColon⟩, textInert⟩ := inert
      obtain ⟨textPlain, textNoBracket⟩ := inductionHypothesis textInert
      refine ⟨plain_cons_iff.mpr ⟨⟨printed, notTab, fun bracket => absurd bracket notBracket,
        fun _ => textNoBracket, fun colon => absurd colon notColon⟩, textPlain⟩, ?_⟩
      simpa using notBracket

theorem inert_of_mem_ofNat
    {number : Nat}
    {character : Char}
    (present : character ∈ Numeral.ofNat number) :
    Inert character := by
  have inertDigits : ∀ digit ∈ digits, Inert digit := List.all_iff_forall_prop.mp (by decide)
  exact inertDigits character (mem_digits_of_isDigit (Numeral.isDigit_of_mem_ofNat present))

theorem named?_cons_digit
    {first : Char}
    (digit : first ∈ digits)
    (rest : Text) :
    named? (first :: rest) =
      (named? rest).map fun (name, mark, length) => (first :: name, mark, length + 1) := by
  have solid : ∀ digit ∈ digits, Text.isSpace digit = false ∧ digit ≠ ':' ∧ digit ≠ '-' :=
    List.all_iff_forall_prop.mp (by decide)
  obtain ⟨noSpace, notColon, notDash⟩ := solid first digit
  have noEnding : ending? (first :: rest) = none := by
    simp [ending?, variants, Text.startsWith, notColon, notDash.symm]
  rw [named?, noEnding]
  simp [noSpace]

theorem named?_digits
    {name : Text}
    (allDigits : ∀ character ∈ name, character ∈ digits) :
    named? name = none := by
  induction name with
  | nil => rfl
  | cons first rest inductionHypothesis =>
      rw [List.forall_mem_cons] at allDigits
      rw [named?_cons_digit allDigits.1, inductionHypothesis allDigits.2]
      rfl

theorem named?_digits_append
    {name : Text}
    (allDigits : ∀ character ∈ name, character ∈ digits)
    (rest : Text) :
    named? (name ++ ':' :: rest) = some (name, [], name.length + 1) := by
  induction name with
  | nil => rfl
  | cons first name inductionHypothesis =>
      rw [List.forall_mem_cons] at allDigits
      rw [List.cons_append, named?_cons_digit allDigits.1, inductionHypothesis allDigits.2]
      rfl

theorem lowercase_digits
    {name : Text}
    (allDigits : ∀ character ∈ name, character ∈ digits) :
    Text.lowercase name = name := by
  have lowerDigits : ∀ digit ∈ digits,
      (if digit = '\u0130' then ['i', '\u0307'] else [Text.lower digit]) = [digit] :=
    List.all_iff_forall_prop.mp (by decide)
  induction name with
  | nil => rfl
  | cons first rest inductionHypothesis =>
      rw [List.forall_mem_cons] at allDigits
      have restSame := inductionHypothesis allDigits.2
      rw [Text.lowercase] at restSame ⊢
      rw [List.flatMap_cons, restSame, lowerDigits first allDigits.1]
      rfl

/-- The lines of the table with names that begin with a digit. -/
def numberLines : List String :=
  ["100 💯 1234 🔢 1st_place_medal 🥇", "2nd_place_medal 🥈", "3rd_place_medal 🥉", "8ball 🎱"]

theorem lookup_emojiTable_digit
    {first : Char}
    (digit : first ∈ digits) :
    emojiTable.lookup first = none ∨
      ∃ line ∈ numberLines, emojiTable.lookup first = some [line] := by
  simp only [digits, List.mem_cons, List.not_mem_nil, or_false] at digit
  rcases digit with rfl | rfl | rfl | rfl | rfl | rfl | rfl | rfl | rfl | rfl
  · exact Or.inl rfl
  · exact Or.inr ⟨_, .head _, rfl⟩
  · exact Or.inr ⟨_, .tail _ (.head _), rfl⟩
  · exact Or.inr ⟨_, .tail _ (.tail _ (.head _)), rfl⟩
  · exact Or.inl rfl
  · exact Or.inl rfl
  · exact Or.inl rfl
  · exact Or.inl rfl
  · exact Or.inr ⟨_, .tail _ (.tail _ (.tail _ (.head _))), rfl⟩
  · exact Or.inl rfl

theorem pairedWith?_ofNat_of_letter
    {key : Text}
    (lettered : key.all Char.isDigit = false)
    (number : Nat)
    (value : Text)
    (rest : List Text) :
    pairedWith? (Numeral.ofNat number) (key :: value :: rest) =
      pairedWith? (Numeral.ofNat number) rest := by
  rw [pairedWith?, if_neg]
  rintro rfl
  have allDigits : (Numeral.ofNat number).all Char.isDigit = true :=
    List.all_eq_true.mpr fun _ => Numeral.isDigit_of_mem_ofNat
  rw [allDigits] at lettered
  contradiction

theorem pairedWith?_ofNat_of_ne
    {number other : Nat}
    (different : number ≠ other)
    (value : Text)
    (rest : List Text) :
    pairedWith? (Numeral.ofNat number) (Numeral.ofNat other :: value :: rest) =
      pairedWith? (Numeral.ofNat number) rest := by
  rw [pairedWith?, if_neg fun same => different (Numeral.ofNat_injective same).symm]

/-- Only two numbers are names of emoji. -/
theorem emoji?_ofNat
    {number : Nat}
    (notHundred : number ≠ 100)
    (notCounting : number ≠ 1234) :
    emoji? (Numeral.ofNat number) = none := by
  have unnamed : ∀ line ∈ numberLines,
      pairedWith? (Numeral.ofNat number) (Text.splitOn ' ' line.toList) = none := by
    have ones : Text.splitOn ' ' "100 💯 1234 🔢 1st_place_medal 🥇".toList =
        [Numeral.ofNat 100, ['💯'], Numeral.ofNat 1234, ['🔢'], "1st_place_medal".toList,
          ['🥇']] := by
      decide +kernel
    have twos : Text.splitOn ' ' "2nd_place_medal 🥈".toList =
        ["2nd_place_medal".toList, ['🥈']] := by
      decide +kernel
    have threes : Text.splitOn ' ' "3rd_place_medal 🥉".toList =
        ["3rd_place_medal".toList, ['🥉']] := by
      decide +kernel
    have eights : Text.splitOn ' ' "8ball 🎱".toList = ["8ball".toList, ['🎱']] := by
      decide +kernel
    simp only [numberLines, List.forall_mem_cons, List.not_mem_nil, false_implies, implies_true,
      and_true, ones, twos, threes, eights]
    refine ⟨?_, ?_, ?_, ?_⟩
    · rw [pairedWith?_ofNat_of_ne notHundred, pairedWith?_ofNat_of_ne notCounting,
        pairedWith?_ofNat_of_letter (by decide)]
      rfl
    all_goals
      rw [pairedWith?_ofNat_of_letter (by decide)]
      rfl
  obtain ⟨first, rest, written, digit⟩ := Numeral.exists_cons_ofNat number
  have head : (Numeral.ofNat number).head? = some first := by rw [written, List.head?_cons]
  unfold emoji?
  rw [head]
  rcases lookup_emojiTable_digit (mem_digits_of_isDigit digit) with absent | ⟨line, listed, found⟩
  · simp [absent]
  · simp [found, unnamed line listed]

theorem plain_colon_cons
    {rest : Text}
    (unnamed : ∀ named ∈ named? rest, emoji? (Text.lowercase named.1) = none)
    (plain : Plain rest) :
    Plain (':' :: rest) := by
  refine plain_cons_iff.mpr ⟨⟨rfl, by decide, ?_, ?_, fun _ => unnamed⟩, plain⟩
  · intro bracket
    contradiction
  · intro slash
    contradiction

/-- A place in a file is shown as it is when the path holds no bracket, no colon and no control
character, and the line is not one of the two whose numbers are names of emoji. -/
theorem plain_place
    {path : Text}
    {line : Nat}
    (inert : ∀ character ∈ path, Inert character)
    (notHundred : line ≠ 100)
    (notCounting : line ≠ 1234)
    (column : Nat) :
    Plain (path ++ ':' :: Numeral.ofNat line ++ ':' :: Numeral.ofNat column) := by
  have isDigits : ∀ number, ∀ character ∈ Numeral.ofNat number, character ∈ digits :=
    fun number character present =>
      mem_digits_of_isDigit (Numeral.isDigit_of_mem_ofNat present)
  have columnPlain : Plain (Numeral.ofNat column ++ []) :=
    (plain_append_of_inert (fun _ => inert_of_mem_ofNat) (by simp) plain_nil).1
  rw [List.append_nil] at columnPlain
  have colonColumn : Plain (':' :: Numeral.ofNat column) := by
    refine plain_colon_cons ?_ columnPlain
    intro named isNamed
    rw [named?_digits (isDigits column)] at isNamed
    contradiction
  have linePlain : Plain (Numeral.ofNat line ++ ':' :: Numeral.ofNat column) :=
    (plain_append_of_inert (fun _ => inert_of_mem_ofNat) (by simp) colonColumn).1
  have colonLine : Plain (':' :: (Numeral.ofNat line ++ ':' :: Numeral.ofNat column)) := by
    refine plain_colon_cons ?_ linePlain
    intro named isNamed
    rw [named?_digits_append (isDigits line), Option.mem_some_iff] at isNamed
    rw [← isNamed, lowercase_digits (isDigits line)]
    exact emoji?_ofNat notHundred notCounting
  rw [List.append_assoc, List.cons_append]
  exact (plain_append_of_inert inert (by simp) colonLine).1

end Terminal
end ModelNav
