import Mathlib.Data.List.Basic
import ModelNav.Text.Upper

/-!
# What upper case can become

The only characters of ASCII that upper case brings up are capital letters.  In particular a line
end, a slash or an underscore is in the upper case of no character but itself.  The first character
of an upper case is its own upper case, because no code that the tables lead to is one that the
tables change.
-/

namespace ModelNav
namespace Text

variable {character result : Char}

theorem toNat_ofNat_of_isValidChar
    {code : Nat}
    (valid : code.isValidChar) :
    (Char.ofNat code).toNat = code := by
  rw [Char.ofNat, dif_pos valid]
  rfl

theorem toUpper_eq_self_or_isUpper
    (single : character.toNat < 0x80) :
    character.toUpper = character ∨ character.toUpper.isUpper = true := by
  have all : ∀ code < 0x80, (Char.ofNat code).toUpper = Char.ofNat code ∨
      (Char.ofNat code).toUpper.isUpper = true := by
    decide +kernel
  simpa using all character.toNat single

/-- The sequences of several characters hold capital letters of ASCII and characters beyond it. -/
theorem isUpper_or_beyond_of_mem_upperSequences :
    ∀ entry ∈ upperSequences, ∀ code ∈ entry.2,
      (Char.ofNat code).isUpper = true ∨ 0x80 ≤ (Char.ofNat code).toNat := by
  decide +kernel

/-- A run ends up beyond ASCII, before the surrogates or behind them, or it is a single character
that becomes a capital letter of ASCII. -/
theorem targets_of_mem_upperRuns :
    ∀ run ∈ upperRuns,
      (0x80 ≤ (run.first : Int) + run.shift ∧ (run.last : Int) + run.shift < 0xD800) ∨
        (0xDFFF < (run.first : Int) + run.shift ∧ (run.last : Int) + run.shift < 0x110000) ∨
        (run.first = run.last ∧
          (Char.ofNat ((run.first : Int) + run.shift).toNat).isUpper = true) := by
  decide +kernel

/-- A character of a run becomes a capital letter of ASCII or a character beyond it. -/
theorem isUpper_or_beyond_of_covers
    {run : ShiftRun}
    {code : Nat}
    (present : run ∈ upperRuns)
    (covers : run.covers code = true) :
    (Char.ofNat ((code : Int) + run.shift).toNat).isUpper = true ∨
      0x80 ≤ (Char.ofNat ((code : Int) + run.shift).toNat).toNat := by
  simp only [ShiftRun.covers, Bool.and_eq_true, decide_eq_true_eq] at covers
  have bounds := covers.1
  rcases targets_of_mem_upperRuns run present with low | high | ⟨single, capital⟩
  · right
    rw [toNat_ofNat_of_isValidChar (Or.inl (by omega))]
    omega
  · right
    rw [toNat_ofNat_of_isValidChar (Or.inr (by omega))]
    omega
  · left
    obtain rfl : code = run.first := by omega
    exact capital

/-- A character of the upper case of a character is that character itself, a capital letter of ASCII
or a character beyond ASCII. -/
theorem eq_or_isUpper_or_beyond_of_mem_upper
    (present : result ∈ upper character) :
    result = character ∨ result.isUpper = true ∨ 0x80 ≤ result.toNat := by
  unfold upper at present
  split at present
  · rename_i single
    obtain rfl : result = character.toUpper := by simpa using present
    rcases toUpper_eq_self_or_isUpper single with same | capital
    · exact Or.inl same
    · exact Or.inr (Or.inl capital)
  · split at present
    · rename_i codes found
      obtain ⟨code, inCodes, rfl⟩ := List.mem_map.mp present
      obtain ⟨earlier, later, split, -⟩ := List.lookup_eq_some_iff.mp found
      have inTable : (character.toNat, codes) ∈ upperSequences := by simp [split]
      exact Or.inr (isUpper_or_beyond_of_mem_upperSequences _ inTable code inCodes)
    · obtain rfl : result = shiftBy upperRuns character := by simpa using present
      unfold shiftBy
      split
      · rename_i run found
        exact Or.inr (isUpper_or_beyond_of_covers (List.mem_of_find?_eq_some found)
          (by simpa using List.find?_some found))
      · exact Or.inl rfl

/-- Another character of ASCII than a capital letter comes from itself only. -/
theorem notMem_upper
    (different : character ≠ result)
    (single : result.toNat < 0x80)
    (noCapital : result.isUpper = false) :
    result ∉ upper character := by
  intro present
  rcases eq_or_isUpper_or_beyond_of_mem_upper present with same | capital | beyond
  · exact different same.symm
  · rw [noCapital] at capital
    contradiction
  · omega

/-! ## The first character of an upper case -/

section Leading

variable {run : ShiftRun} {code : Nat}

/-- The codes of a run. -/
def ShiftRun.codes (run : ShiftRun) : List Nat :=
  (List.range ((run.last - run.first) / run.stride + 1)).map fun step =>
    run.first + run.stride * step

theorem mem_codes_of_covers
    (covers : run.covers code = true) :
    code ∈ run.codes := by
  simp only [ShiftRun.covers, Bool.and_eq_true, decide_eq_true_eq, beq_iff_eq] at covers
  obtain ⟨⟨notBefore, notBehind⟩, whole⟩ := covers
  have steps : run.stride * ((code - run.first) / run.stride) = code - run.first := by
    have division := Nat.div_add_mod (code - run.first) run.stride
    omega
  refine List.mem_map.mpr ⟨(code - run.first) / run.stride, ?_, by omega⟩
  rw [List.mem_range, Nat.lt_succ_iff]
  exact Nat.div_le_div_right (Nat.sub_le_sub_right notBehind _)

/-- The codes beyond ASCII that the tables change. -/
def changedCodes : List Nat :=
  upperRuns.flatMap ShiftRun.codes ++ upperSequences.map Prod.fst

/-- The codes that the tables put first in the place of a changed one. -/
def leadingCodes : List Nat :=
  (upperRuns.flatMap fun run => run.codes.map fun code : Nat => ((code : Int) + run.shift).toNat) ++
    upperSequences.filterMap fun entry => entry.2.head?

/-- The codes of a list as the bits of a number. -/
def bitsOf : List Nat → Nat
  | [] => 0
  | code :: codes => 1 <<< code ||| bitsOf codes

theorem testBit_bitsOf
    {codes : List Nat} :
    (bitsOf codes).testBit code = true ↔ code ∈ codes := by
  induction codes with
  | nil => simp [bitsOf]
  | cons first codes inductionHypothesis =>
      rw [bitsOf, Nat.testBit_or, Bool.or_eq_true, inductionHypothesis, Nat.one_shiftLeft,
        Nat.testBit_two_pow, decide_eq_true_eq, List.mem_cons, eq_comm]

/-- Lists of codes whose numbers have no bit in common have no code in common. -/
theorem notMem_of_bitsOf_and_eq_zero
    {codes others : List Nat}
    (disjoint : bitsOf codes &&& bitsOf others = 0)
    (present : code ∈ codes) :
    code ∉ others := by
  intro presentAlso
  have bit := congrArg (fun bits : Nat => bits.testBit code) disjoint
  simp [testBit_bitsOf.mpr present, testBit_bitsOf.mpr presentAlso] at bit

/-- No code is both a result of the tables and changed by them. -/
theorem bitsOf_leadingCodes_and_changedCodes :
    bitsOf leadingCodes &&& bitsOf changedCodes = 0 := by
  -- One bit operation on two numbers: comparing the tables entry by entry takes minutes.
  decide +kernel

/-- A character beyond ASCII that the tables do not change is its own upper case. -/
theorem upper_eq_of_notMem_changedCodes
    (beyond : 0x80 ≤ character.toNat)
    (unchanged : character.toNat ∉ changedCodes) :
    upper character = [character] := by
  have noSequence : upperSequences.lookup character.toNat = none := by
    rw [List.lookup_eq_none_iff]
    intro entry present
    rw [bne_iff_ne]
    intro same
    exact unchanged (List.mem_append_right _ (List.mem_map.mpr ⟨entry, present, same.symm⟩))
  have noRun : upperRuns.find? (fun run => run.covers character.toNat) = none := by
    rw [List.find?_eq_none]
    intro run present covers
    exact unchanged
      (List.mem_append_left _ (List.mem_flatMap.mpr ⟨run, present, mem_codes_of_covers covers⟩))
  rw [upper, if_neg (by omega), noSequence]
  simp [shiftBy, noRun]

theorem upper_eq_of_isUpper
    (capital : character.isUpper = true) :
    upper character = [character] := by
  have single : character.toNat < 0x80 := by
    have bound : character.toNat ≤ 90 := (of_decide_eq_true capital).2
    omega
  have all : ∀ code < 0x80, (Char.ofNat code).isUpper = true →
      upper (Char.ofNat code) = [Char.ofNat code] := by
    decide +kernel
  simpa using all character.toNat single (by simpa using capital)

theorem toNat_ofNat_of_beyond
    (beyond : 0x80 ≤ (Char.ofNat code).toNat) :
    (Char.ofNat code).toNat = code := by
  by_cases valid : code.isValidChar
  · exact toNat_ofNat_of_isValidChar valid
  · rw [Char.ofNat, dif_neg valid] at beyond
    contradiction

/-- What the tables put first stays as it is in upper case. -/
theorem upper_eq_of_mem_leadingCodes
    (leading : code ∈ leadingCodes)
    (target : (Char.ofNat code).isUpper = true ∨ 0x80 ≤ (Char.ofNat code).toNat) :
    upper (Char.ofNat code) = [Char.ofNat code] := by
  rcases target with capital | beyond
  · exact upper_eq_of_isUpper capital
  · apply upper_eq_of_notMem_changedCodes beyond
    rw [toNat_ofNat_of_beyond beyond]
    exact notMem_of_bitsOf_and_eq_zero bitsOf_leadingCodes_and_changedCodes leading

theorem upperSequences_ne_nil : ∀ entry ∈ upperSequences, entry.2 ≠ [] := by
  decide +kernel

theorem exists_upper_eq_cons_of_sequence
    {codes : List Nat}
    (beyond : ¬character.toNat < 0x80)
    (sequence : upperSequences.lookup character.toNat = some codes) :
    ∃ first rest, upper character = first :: rest ∧ upper first = [first] := by
  obtain ⟨earlier, later, split, -⟩ := List.lookup_eq_some_iff.mp sequence
  have inTable : (character.toNat, codes) ∈ upperSequences := by simp [split]
  obtain ⟨code, others, rfl⟩ := List.exists_cons_of_ne_nil (upperSequences_ne_nil _ inTable)
  have leading : code ∈ leadingCodes :=
    List.mem_append_right _ (List.mem_filterMap.mpr ⟨_, inTable, rfl⟩)
  refine ⟨Char.ofNat code, others.map Char.ofNat, ?_, ?_⟩
  · rw [upper, if_neg beyond, sequence]
    rfl
  · exact upper_eq_of_mem_leadingCodes leading
      (isUpper_or_beyond_of_mem_upperSequences _ inTable code List.mem_cons_self)

theorem upper_shiftBy_of_found
    (found : (upperRuns.find? fun run => run.covers character.toNat) = some run) :
    upper (shiftBy upperRuns character) = [shiftBy upperRuns character] := by
  have inTable : run ∈ upperRuns := List.mem_of_find?_eq_some found
  have covers : run.covers character.toNat = true := by simpa using List.find?_some found
  have leading : ((character.toNat : Int) + run.shift).toNat ∈ leadingCodes :=
    List.mem_append_left _ (List.mem_flatMap.mpr ⟨run, inTable,
      List.mem_map.mpr ⟨character.toNat, mem_codes_of_covers covers, rfl⟩⟩)
  rw [shiftBy, found]
  exact upper_eq_of_mem_leadingCodes leading (isUpper_or_beyond_of_covers inTable covers)

/-- The upper case of a character is not empty, and its first character is its own upper case. -/
theorem exists_upper_eq_cons (character : Char) :
    ∃ first rest, upper character = first :: rest ∧ upper first = [first] := by
  by_cases single : character.toNat < 0x80
  · have isSingle : upper character = [character.toUpper] := if_pos single
    rcases toUpper_eq_self_or_isUpper single with same | capital
    · exact ⟨character, [], by rw [isSingle, same], by rw [isSingle, same]⟩
    · exact ⟨character.toUpper, [], isSingle, upper_eq_of_isUpper capital⟩
  · cases sequence : upperSequences.lookup character.toNat with
    | some codes => exact exists_upper_eq_cons_of_sequence single sequence
    | none =>
        have isShifted : upper character = [shiftBy upperRuns character] := by
          rw [upper, if_neg single, sequence]
        cases found : upperRuns.find? fun run => run.covers character.toNat with
        | some run => exact ⟨_, [], isShifted, upper_shiftBy_of_found found⟩
        | none =>
            have same : shiftBy upperRuns character = character := by simp [shiftBy, found]
            exact ⟨character, [], by rw [isShifted, same], by rw [isShifted, same]⟩

end Leading

end Text
end ModelNav
