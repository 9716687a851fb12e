import ModelNav.Text.Basic
import ModelNav.Text.CaseFold

/-!
# Pieces of a text

The readers of this program take a piece off the head of a text, find a piece inside a text or cut a
text at a separator.  Here each of them is described by the concatenation that it undoes.
-/

namespace ModelNav
namespace Text

/-- Taking off a piece undoes putting it in front. -/
theorem after?_eq_some_iff
    {piece text rest : Text} :
    after? piece text = some rest ↔ text = piece ++ rest := by
  induction piece generalizing text with
  | nil => simp [after?]
  | cons expected piece inductionHypothesis =>
      cases text with
      | nil => simp [after?]
      | cons found text =>
          by_cases same : expected = found
          · simp [after?, same, inductionHypothesis]
          · simp [after?, same, Ne.symm same]

/-- Two texts have the same letters when they differ in the case of letters only. -/
def SameLetters (first second : Text) : Prop :=
  first.map fold = second.map fold

instance (first second : Text) : Decidable (SameLetters first second) :=
  inferInstanceAs (Decidable (first.map fold = second.map fold))

/-- Taking off a piece regardless of case undoes putting some spelling of it in front. -/
theorem afterFolded?_eq_some_iff
    {piece text rest : Text} :
    afterFolded? piece text = some rest ↔
      ∃ spelling, SameLetters spelling piece ∧ text = spelling ++ rest := by
  induction piece generalizing text with
  | nil => simp [afterFolded?, SameLetters]
  | cons expected piece inductionHypothesis =>
      cases text with
      | nil =>
          constructor
          · intro impossible
            contradiction
          · rintro ⟨spelling, letters, equal⟩
            obtain ⟨rfl, rfl⟩ := List.append_eq_nil_iff.mp equal.symm
            simp [SameLetters] at letters
      | cons found text =>
          simp only [afterFolded?]
          split
          · rename_i same
            rw [inductionHypothesis]
            constructor
            · rintro ⟨spelling, letters, rfl⟩
              refine ⟨found :: spelling, ?_, rfl⟩
              simpa [SameLetters, same] using letters
            · rintro ⟨spelling, letters, equal⟩
              cases spelling with
              | nil => simp [SameLetters] at letters
              | cons first spelling =>
                  rw [List.cons_append, List.cons.injEq] at equal
                  refine ⟨spelling, ?_, equal.2⟩
                  simpa [SameLetters, equal.1.symm, same] using letters
          · rename_i different
            constructor
            · intro impossible
              contradiction
            · rintro ⟨spelling, letters, equal⟩
              cases spelling with
              | nil => simp [SameLetters] at letters
              | cons first spelling =>
                  rw [List.cons_append, List.cons.injEq] at equal
                  simp only [SameLetters, List.map_cons, List.cons.injEq] at letters
                  rw [equal.1, letters.1] at different
                  exact absurd rfl different

/-- The piece stands at the offset where it is found. -/
theorem isPrefix_drop_of_indexOf?
    {piece text : Text}
    {offset : Nat}
    (found : indexOf? piece text = some offset) :
    offset ≤ text.length ∧ piece <+: text.drop offset := by
  induction text generalizing offset with
  | nil =>
      simp only [indexOf?, Option.ite_none_right_eq_some, Option.some.injEq] at found
      obtain ⟨rfl, rfl⟩ := found
      simp
  | cons first rest inductionHypothesis =>
      simp only [indexOf?] at found
      split at found
      · rename_i starts
        obtain rfl := Option.some.inj found
        exact ⟨Nat.zero_le _, List.isPrefixOf_iff_prefix.mp starts⟩
      · obtain ⟨inRest, foundInRest, rfl⟩ := Option.map_eq_some_iff.mp found
        obtain ⟨bounded, stands⟩ := inductionHypothesis foundInRest
        exact ⟨Nat.succ_le_succ bounded, by simpa using stands⟩

/-- A piece that stands in a text is found, and no later than there. -/
theorem exists_indexOf?_le
    {piece text : Text}
    {offset : Nat}
    (bounded : offset ≤ text.length)
    (stands : piece <+: text.drop offset) :
    ∃ first ≤ offset, indexOf? piece text = some first := by
  induction text generalizing offset with
  | nil =>
      obtain rfl : piece = [] := by simpa using stands
      exact ⟨0, Nat.zero_le _, rfl⟩
  | cons head rest inductionHypothesis =>
      by_cases starts : startsWith (head :: rest) piece = true
      · exact ⟨0, Nat.zero_le _, by rw [indexOf?, if_pos starts]⟩
      · cases offset with
        | zero => exact absurd (List.isPrefixOf_iff_prefix.mpr stands) starts
        | succ offset =>
            obtain ⟨first, earlier, found⟩ :=
              inductionHypothesis (Nat.le_of_succ_le_succ bounded) stands
            refine ⟨first + 1, Nat.succ_le_succ earlier, ?_⟩
            rw [indexOf?, if_neg starts, found]
            rfl

/-- A piece without a character cannot reach over it. -/
theorem isPrefix_of_isPrefix_append_cons
    {piece front rest : Text}
    {mark : Char}
    (absent : mark ∉ piece)
    (stands : piece <+: front ++ mark :: rest) :
    piece <+: front := by
  have whole : front ++ [mark] <+: front ++ mark :: rest := ⟨rest, by simp⟩
  rcases List.prefix_or_prefix_of_prefix stands whole with within | beyond
  · rcases List.prefix_concat_iff.mp within with rfl | inside
    · simp at absent
    · exact inside
  · exact absurd (beyond.subset (by simp)) absent

theorem isSuffix_of_isSuffix_append_cons
    {piece front rest : Text}
    {mark : Char}
    (absent : mark ∉ piece)
    (stands : piece <:+ front ++ mark :: rest) :
    piece <:+ rest := by
  have upwards : piece.reverse <+: rest.reverse ++ mark :: front.reverse := by
    simpa using List.reverse_prefix.mpr stands
  exact List.reverse_prefix.mp
    (isPrefix_of_isPrefix_append_cons (by simpa using absent) upwards)

/-- There is no cut exactly where the separator does not occur. -/
theorem splitAtLast?_eq_none_iff
    {separator : Char}
    {text : Text} :
    splitAtLast? separator text = none ↔ separator ∉ text := by
  induction text with
  | nil => simp
  | cons first rest inductionHypothesis =>
      cases cut : splitAtLast? separator rest with
      | some sides =>
          simp only [cut, reduceCtorEq, false_iff, Classical.not_not] at inductionHypothesis
          simp [splitAtLast?, cut, inductionHypothesis]
      | none =>
          have absent : separator ∉ rest := inductionHypothesis.mp cut
          simp [splitAtLast?, cut, absent, eq_comm]

theorem splitAtLast?_append_cons
    {separator : Char}
    {after : Text}
    (absent : separator ∉ after)
    (before : Text) :
    splitAtLast? separator (before ++ separator :: after) = some (before, after) := by
  induction before with
  | nil => simp [splitAtLast?, splitAtLast?_eq_none_iff.mpr absent]
  | cons first before inductionHypothesis => simp [splitAtLast?, inductionHypothesis]

/-- A text is cut at a separator after which there is none. -/
theorem splitAtLast?_eq_some_iff
    {separator : Char}
    {text before after : Text} :
    splitAtLast? separator text = some (before, after) ↔
      text = before ++ separator :: after ∧ separator ∉ after := by
  constructor
  · intro cut
    induction text generalizing before with
    | nil => simp at cut
    | cons first rest inductionHypothesis =>
        simp only [splitAtLast?] at cut
        split at cut
        · rename_i earlier later cutRest
          obtain ⟨rfl, rfl⟩ : first :: earlier = before ∧ later = after := by simpa using cut
          obtain ⟨split, absent⟩ := inductionHypothesis cutRest
          exact ⟨by rw [split, List.cons_append], absent⟩
        · rename_i uncut
          obtain ⟨rfl, rfl, rfl⟩ : first = separator ∧ [] = before ∧ rest = after := by
            simpa using cut
          exact ⟨rfl, splitAtLast?_eq_none_iff.mp uncut⟩
  · rintro ⟨rfl, absent⟩
    exact splitAtLast?_append_cons absent before

theorem splitOn_ne_nil
    (separator : Char)
    (text : Text) :
    splitOn separator text ≠ [] := by
  fun_cases splitOn separator text <;> simp

/-- Cutting at every separator is cutting at the last one and then what stands before it. -/
theorem splitOn_eq_of_splitAtLast?
    (separator : Char)
    (text : Text) :
    splitOn separator text =
      match splitAtLast? separator text with
      | some (before, after) => splitOn separator before ++ [after]
      | none => [text] := by
  induction text with
  | nil => rfl
  | cons first rest inductionHypothesis =>
      cases cut : splitAtLast? separator rest with
      | some sides =>
          obtain ⟨before, after⟩ := sides
          obtain ⟨piece, pieces, split⟩ :=
            List.exists_cons_of_ne_nil (splitOn_ne_nil separator before)
          simp only [cut, split] at inductionHypothesis
          by_cases same : first = separator <;>
            simp [splitOn, splitAtLast?, cut, same, inductionHypothesis, split]
      | none =>
          simp only [cut] at inductionHypothesis
          by_cases same : first = separator <;>
            simp [splitOn, splitAtLast?, cut, same, inductionHypothesis]

/-- The last piece between separators is what follows the last separator. -/
theorem getLast?_splitOn
    (separator : Char)
    (text : Text) :
    (splitOn separator text).getLast? =
      some ((splitAtLast? separator text).getD ([], text)).2 := by
  rw [splitOn_eq_of_splitAtLast?]
  cases splitAtLast? separator text <;> simp

end Text
end ModelNav
