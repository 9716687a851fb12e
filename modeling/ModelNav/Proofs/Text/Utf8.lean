import Mathlib.Data.List.Basic
import ModelNav.Text.Utf8

/-!
# Reading back what was written in UTF-8

Every character is written as one to four bytes, and the reader takes exactly these bytes off the
head and gives the character back.  So the bytes of a text can always be read, and they are read as
that text.
-/

namespace ModelNav
namespace Utf8

variable {first second third fourth : UInt8}

/-! ## Bytes by their numbers -/

theorem isContinuation_iff_toNat :
    isContinuation first = true ↔ 0x80 ≤ first.toNat ∧ first.toNat ≤ 0xBF := by
  simp [isContinuation, UInt8.le_iff_toNat_le]

theorem isSecond_iff_toNat :
    isSecond first second = true ↔
      (0x80 ≤ second.toNat ∧ second.toNat ≤ 0xBF) ∧
        (first.toNat ≠ 0xE0 ∨ 0xA0 ≤ second.toNat) ∧
        (first.toNat ≠ 0xED ∨ second.toNat ≤ 0x9F) ∧
        (first.toNat ≠ 0xF0 ∨ 0x90 ≤ second.toNat) ∧
        (first.toNat ≠ 0xF4 ∨ second.toNat ≤ 0x8F) := by
  simp [isSecond, isContinuation_iff_toNat, UInt8.le_iff_toNat_le, ← UInt8.toNat_inj, and_assoc]

/-! ## One step of the reader -/

theorem decodeFrom_one
    (single : first.toNat < 0x80)
    (position : Nat)
    (rest : Bytes) :
    decodeFrom position (first :: rest) =
      (decodeFrom (position + 1) rest).map (Char.ofNat first.toNat :: ·) := by
  have small : first < 0x80 := by simpa [UInt8.lt_iff_toNat_lt] using single
  rw [decodeFrom.eq_def]
  simp only [small, if_true]
  rfl

/-- The first byte of a longer sequence is neither a single one nor out of range. -/
theorem leads_of_toNat
    (bounds : 0xC2 ≤ first.toNat ∧ first.toNat < 0xF5) :
    ¬first < 0x80 ∧ ¬(first < 0xC2 || 0xF5 ≤ first) = true := by
  have large : ¬first.toNat < 0x80 := by omega
  simpa [UInt8.lt_iff_toNat_lt, UInt8.le_iff_toNat_le, large] using bounds

theorem decodeFrom_two
    (bounds : 0xC2 ≤ first.toNat ∧ first.toNat < 0xE0)
    (follows : isSecond first second = true)
    (position : Nat)
    (rest : Bytes) :
    decodeFrom position (first :: second :: rest) =
      (decodeFrom (position + 2) rest).map
        (Char.ofNat ((first.toNat - 0xC0) * 0x40 + (second.toNat - 0x80)) :: ·) := by
  obtain ⟨notSingle, inRange⟩ := leads_of_toNat (show 0xC2 ≤ first.toNat ∧ _ by omega)
  have two : first < 0xE0 := by simpa [UInt8.lt_iff_toNat_lt] using bounds.2
  rw [decodeFrom.eq_def]
  simp only [notSingle, inRange, two, follows, Bool.not_true, Bool.false_eq_true, if_true,
    if_false]
  rfl

theorem decodeFrom_three
    (bounds : 0xE0 ≤ first.toNat ∧ first.toNat < 0xF0)
    (follows : isSecond first second = true)
    (continues : isContinuation third = true)
    (position : Nat)
    (rest : Bytes) :
    decodeFrom position (first :: second :: third :: rest) =
      (decodeFrom (position + 3) rest).map
        (Char.ofNat ((first.toNat - 0xE0) * 0x1000 + (second.toNat - 0x80) * 0x40 +
          (third.toNat - 0x80)) :: ·) := by
  obtain ⟨notSingle, inRange⟩ := leads_of_toNat (show 0xC2 ≤ first.toNat ∧ _ by omega)
  have notTwo : ¬first < 0xE0 := by simpa [UInt8.lt_iff_toNat_lt] using bounds.1
  have three : first < 0xF0 := by simpa [UInt8.lt_iff_toNat_lt] using bounds.2
  rw [decodeFrom.eq_def]
  simp only [notSingle, inRange, notTwo, three, follows, continues, Bool.not_true,
    Bool.false_eq_true, if_true, if_false]
  rfl

theorem decodeFrom_four
    (bounds : 0xF0 ≤ first.toNat ∧ first.toNat < 0xF5)
    (follows : isSecond first second = true)
    (continues : isContinuation third = true ∧ isContinuation fourth = true)
    (position : Nat)
    (rest : Bytes) :
    decodeFrom position (first :: second :: third :: fourth :: rest) =
      (decodeFrom (position + 4) rest).map
        (Char.ofNat ((first.toNat - 0xF0) * 0x40000 + (second.toNat - 0x80) * 0x1000 +
          (third.toNat - 0x80) * 0x40 + (fourth.toNat - 0x80)) :: ·) := by
  obtain ⟨notSingle, inRange⟩ := leads_of_toNat (show 0xC2 ≤ first.toNat ∧ _ by omega)
  have notThree : ¬first < 0xF0 := by simpa [UInt8.lt_iff_toNat_lt] using bounds.1
  have notTwo : ¬first < 0xE0 := by
    have large : ¬first.toNat < 0xE0 := by omega
    simpa [UInt8.lt_iff_toNat_lt] using large
  rw [decodeFrom.eq_def]
  simp only [notSingle, inRange, notTwo, notThree, follows, continues.1, continues.2, Bool.not_true,
    Bool.false_eq_true, if_false]
  rfl

/-! ## Code points, characters and texts -/

theorem decodeFrom_code_one
    {code : Nat}
    (bound : code < 0x80)
    (position : Nat)
    (rest : Bytes) :
    decodeFrom position ([UInt8.ofNat code] ++ rest) =
      (decodeFrom (position + 1) rest).map (Char.ofNat code :: ·) := by
  have first := UInt8.toNat_ofNat_of_lt' (show code < 256 by omega)
  rw [List.singleton_append, decodeFrom_one (by omega), first]

theorem decodeFrom_code_two
    {code : Nat}
    (bounds : 0x80 ≤ code ∧ code < 0x800)
    (position : Nat)
    (rest : Bytes) :
    decodeFrom position
        ([UInt8.ofNat (0xC0 + code / 0x40), UInt8.ofNat (0x80 + code % 0x40)] ++ rest) =
      (decodeFrom (position + 2) rest).map (Char.ofNat code :: ·) := by
  have first := UInt8.toNat_ofNat_of_lt' (show 0xC0 + code / 0x40 < 256 by omega)
  have second := UInt8.toNat_ofNat_of_lt' (show 0x80 + code % 0x40 < 256 by omega)
  have joined : (0xC0 + code / 0x40 - 0xC0) * 0x40 + (0x80 + code % 0x40 - 0x80) = code := by omega
  rw [List.cons_append, List.singleton_append, decodeFrom_two, first, second, joined]
  · omega
  · rw [isSecond_iff_toNat]
    omega

theorem decodeFrom_code_three
    {code : Nat}
    (bounds : 0x800 ≤ code ∧ code < 0x10000)
    (noSurrogate : code < 0xD800 ∨ 0xDFFF < code)
    (position : Nat)
    (rest : Bytes) :
    decodeFrom position
        ([UInt8.ofNat (0xE0 + code / 0x1000), UInt8.ofNat (0x80 + code / 0x40 % 0x40),
          UInt8.ofNat (0x80 + code % 0x40)] ++ rest) =
      (decodeFrom (position + 3) rest).map (Char.ofNat code :: ·) := by
  have first := UInt8.toNat_ofNat_of_lt' (show 0xE0 + code / 0x1000 < 256 by omega)
  have second := UInt8.toNat_ofNat_of_lt' (show 0x80 + code / 0x40 % 0x40 < 256 by omega)
  have third := UInt8.toNat_ofNat_of_lt' (show 0x80 + code % 0x40 < 256 by omega)
  have joined : (0xE0 + code / 0x1000 - 0xE0) * 0x1000 +
      (0x80 + code / 0x40 % 0x40 - 0x80) * 0x40 + (0x80 + code % 0x40 - 0x80) = code := by
    omega
  rw [List.cons_append, List.cons_append, List.singleton_append, decodeFrom_three, first, second,
    third, joined]
  · omega
  · rw [isSecond_iff_toNat]
    omega
  · rw [isContinuation_iff_toNat]
    omega

theorem decodeFrom_code_four
    {code : Nat}
    (bounds : 0x10000 ≤ code ∧ code < 0x110000)
    (position : Nat)
    (rest : Bytes) :
    decodeFrom position
        ([UInt8.ofNat (0xF0 + code / 0x40000), UInt8.ofNat (0x80 + code / 0x1000 % 0x40),
          UInt8.ofNat (0x80 + code / 0x40 % 0x40), UInt8.ofNat (0x80 + code % 0x40)] ++ rest) =
      (decodeFrom (position + 4) rest).map (Char.ofNat code :: ·) := by
  have first := UInt8.toNat_ofNat_of_lt' (show 0xF0 + code / 0x40000 < 256 by omega)
  have second := UInt8.toNat_ofNat_of_lt' (show 0x80 + code / 0x1000 % 0x40 < 256 by omega)
  have third := UInt8.toNat_ofNat_of_lt' (show 0x80 + code / 0x40 % 0x40 < 256 by omega)
  have fourth := UInt8.toNat_ofNat_of_lt' (show 0x80 + code % 0x40 < 256 by omega)
  have joined : (0xF0 + code / 0x40000 - 0xF0) * 0x40000 +
      (0x80 + code / 0x1000 % 0x40 - 0x80) * 0x1000 +
      (0x80 + code / 0x40 % 0x40 - 0x80) * 0x40 + (0x80 + code % 0x40 - 0x80) = code := by
    omega
  rw [List.cons_append, List.cons_append, List.cons_append, List.singleton_append,
    decodeFrom_four, first, second, third, fourth, joined]
  · omega
  · rw [isSecond_iff_toNat]
    omega
  · rw [isContinuation_iff_toNat, isContinuation_iff_toNat]
    omega

/-- The reader takes the bytes of a character off and gives the character back. -/
theorem decodeFrom_encodeChar_append
    (character : Char)
    (position : Nat)
    (rest : Bytes) :
    decodeFrom position (encodeChar character ++ rest) =
      (decodeFrom (position + (encodeChar character).length) rest).map (character :: ·) := by
  have valid : character.toNat < 0xD800 ∨ 0xDFFF < character.toNat ∧ character.toNat < 0x110000 :=
    character.valid
  have whole := Char.ofNat_toNat character
  unfold encodeChar
  dsimp only
  split
  · rename_i one
    rw [decodeFrom_code_one one, whole]
    rfl
  · split
    · rename_i notOne two
      rw [decodeFrom_code_two (by omega), whole]
      rfl
    · split
      · rename_i notOne notTwo three
        rw [decodeFrom_code_three (by omega) (by omega), whole]
        rfl
      · rename_i notOne notTwo notThree
        rw [decodeFrom_code_four (by omega), whole]
        rfl

theorem decodeFrom_encode
    (position : Nat)
    (text : Text) :
    decodeFrom position (encode text) = .ok text := by
  induction text generalizing position with
  | nil => rfl
  | cons character text inductionHypothesis =>
      rw [encode_cons, decodeFrom_encodeChar_append, inductionHypothesis]
      rfl

/-- The bytes of a text are read as that text. -/
theorem decode_encode (text : Text) : decode (encode text) = .ok text :=
  decodeFrom_encode 0 text

end Utf8
end ModelNav
