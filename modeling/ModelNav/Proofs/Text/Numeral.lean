import Mathlib.Data.List.Basic
import Mathlib.Data.List.TakeWhile
import Mathlib.Tactic.IntervalCases
import ModelNav.Text.Numeral

/-!
# Numerals of natural numbers

The numeral of a natural number is a run of digits without a leading zero.  It is read back as the
number, unless it has more digits than a numeral may have.
-/

namespace ModelNav

/-- The ten digits. -/
def digits : List Char :=
  ['0', '1', '2', '3', '4', '5', '6', '7', '8', '9']

theorem mem_digits_of_isDigit
    {character : Char}
    (digit : character.isDigit = true) :
    character ∈ digits := by
  have bounds : 48 ≤ character.toNat ∧ character.toNat ≤ 57 := by
    simpa [Char.isDigit, UInt32.le_iff_toNat_le] using digit
  obtain ⟨lower, upper⟩ := bounds
  rw [← Char.ofNat_toNat character]
  generalize character.toNat = code at lower upper
  interval_cases code <;> decide

namespace Numeral

variable {number : Nat}

theorem isDigit_of_mem_ofNat
    {character : Char}
    (present : character ∈ ofNat number) :
    character.isDigit = true :=
  Nat.isDigit_of_mem_toDigits (by decide) (by decide) present

theorem ofNat_ne_nil : ofNat number ≠ [] :=
  Nat.toDigits_ne_nil

/-- A number is written with a digit first. -/
theorem exists_cons_ofNat (number : Nat) :
    ∃ first rest, ofNat number = first :: rest ∧ first.isDigit = true := by
  obtain ⟨first, rest, written⟩ := List.exists_cons_of_ne_nil (ofNat_ne_nil : ofNat number ≠ [])
  have present : first ∈ ofNat number := by
    rw [written]
    exact List.mem_cons_self
  exact ⟨first, rest, written, isDigit_of_mem_ofNat present⟩

/-- A positive number is written without a leading zero. -/
theorem head?_ofNat_ne_zero
    (positive : 0 < number) :
    (ofNat number).head? ≠ some '0' := by
  unfold ofNat
  induction number using Nat.strongRecOn with
  | ind number inductionHypothesis =>
      rw [Nat.toDigits_eq_if (by decide)]
      split
      · rename_i small
        have notZero : ∀ digit < 10, 0 < digit → [Nat.digitChar digit].head? ≠ some '0' := by
          decide
        exact notZero number small positive
      · rename_i large
        rw [List.head?_append_of_ne_nil _ Nat.toDigits_ne_nil]
        exact inductionHypothesis (number / 10) (Nat.div_lt_self positive (by decide))
          (Nat.div_pos (Nat.le_of_not_lt large) (by decide))

/-- A number is written with too many digits exactly when it is large enough. -/
theorem digitLimit_lt_length_ofNat_iff :
    digitLimit < (ofNat number).length ↔ 10 ^ digitLimit ≤ number := by
  rw [ofNat, ← Nat.not_le, Nat.length_toDigits_le_iff (by decide) (by decide), Nat.not_lt]

theorem ofDigits_filterMap
    {digits : Text}
    (allDigits : ∀ digit ∈ digits, digit.isDigit = true)
    (start : Nat) :
    (digits.filterMap Text.asciiDigit?).foldl (fun value digit => value * 10 + digit) start =
      Nat.ofDigitChars 10 digits start := by
  induction digits generalizing start with
  | nil => rfl
  | cons first rest inductionHypothesis =>
      rw [List.forall_mem_cons] at allDigits
      have firstDigit : Text.asciiDigit? first = some (first.toNat - 0x30) := by
        rw [Text.asciiDigit?, if_pos allDigits.1]
      rw [List.filterMap_cons_some firstDigit, List.foldl_cons, inductionHypothesis allDigits.2,
        Nat.ofDigitChars_cons, Nat.mul_comm]
      rfl

/-- The digits of a number write it. -/
theorem ofDigits_ofNat (number : Nat) :
    ofDigits ((ofNat number).filterMap Text.asciiDigit?) = number := by
  rw [ofDigits, ofDigits_filterMap fun _ => isDigit_of_mem_ofNat]
  exact Nat.ofDigitChars_toDigits (by decide) (by decide)

/-- The digits that are read at the head of a numeral. -/
theorem leading_ofNat (number : Nat) :
    (if (ofNat number).head? = some '0' then ['0'] else (ofNat number).takeWhile Char.isDigit) =
      ofNat number := by
  rcases Nat.eq_zero_or_pos number with rfl | positive
  · rfl
  · rw [if_neg (head?_ofNat_ne_zero positive), List.takeWhile_eq_self_iff]
    exact fun _ => isDigit_of_mem_ofNat

theorem head?_ofNat_ne_minus : (ofNat number).head? ≠ some '-' := by
  intro isMinus
  have digit : '-'.isDigit = true := isDigit_of_mem_ofNat (List.mem_of_head? isMinus)
  simp at digit

theorem ofNat_injective : Function.Injective ofNat := by
  intro number other same
  rw [← ofDigits_ofNat number, same, ofDigits_ofNat]

/-- The numeral of a number is read as the number, unless it is too long. -/
theorem readPlain_ofNat (number : Nat) :
    readPlain (ofNat number) =
      if digitLimit < (ofNat number).length then .error .tooLong else .ok (number : Int) := by
  unfold readPlain
  rw [if_neg head?_ofNat_ne_minus]
  dsimp only
  rw [leading_ofNat]
  split
  · rfl
  · rw [if_neg (by simp [ofNat_ne_nil]), ofDigits_ofNat]
    rfl

/-- The numeral of a number is read as the number, unless it is too long. -/
theorem read_ofNat (number : Nat) :
    read (ofNat number) =
      if digitLimit < (ofNat number).length then .error .tooLong else .ok (number : Int) := by
  unfold read
  rw [readPlain_ofNat]
  by_cases tooLong : digitLimit < (ofNat number).length
  · rw [if_pos tooLong]
  · rw [if_neg tooLong]

end Numeral
end ModelNav
