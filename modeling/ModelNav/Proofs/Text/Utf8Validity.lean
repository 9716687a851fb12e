import ModelNav.Proofs.Text.Upper
import ModelNav.Proofs.Text.Utf8

/-!
# The bytes that can be read as UTF-8

Whatever the reader accepts are the bytes of the text that it gives, so every text has one written
form, and the bytes that can be read are exactly the valid ones: those that the standard library's
encoding of some characters has.
-/

namespace ModelNav
namespace Utf8

variable {first second third fourth : UInt8} {bytes : Bytes} {text : Text}

/-! ## The bytes of a character that was read -/

theorem ofNat_eq_of_toNat
    {number : Nat}
    (same : number = first.toNat) :
    UInt8.ofNat number = first := by
  rw [same, UInt8.ofNat_toNat]

theorem encodeChar_one
    (single : first.toNat < 0x80) :
    encodeChar (Char.ofNat first.toNat) = [first] := by
  have valid : first.toNat.isValidChar := by
    rw [Nat.isValidChar]
    omega
  rw [encodeChar, Text.toNat_ofNat_of_isValidChar valid, if_pos single, UInt8.ofNat_toNat]

theorem encodeChar_two
    (bounds : 0xC2 ≤ first.toNat ∧ first.toNat < 0xE0)
    (follows : isSecond first second = true) :
    encodeChar (Char.ofNat ((first.toNat - 0xC0) * 0x40 + (second.toNat - 0x80))) =
      [first, second] := by
  obtain ⟨continues, -⟩ := isSecond_iff_toNat.mp follows
  generalize code_eq : (first.toNat - 0xC0) * 0x40 + (second.toNat - 0x80) = code
  have valid : code.isValidChar := by
    rw [Nat.isValidChar]
    omega
  have notOne : ¬code < 0x80 := by omega
  have two : code < 0x800 := by omega
  have first_eq : 0xC0 + code / 0x40 = first.toNat := by omega
  have second_eq : 0x80 + code % 0x40 = second.toNat := by omega
  rw [encodeChar, Text.toNat_ofNat_of_isValidChar valid, if_neg notOne,
    if_pos two, ofNat_eq_of_toNat first_eq, ofNat_eq_of_toNat second_eq]

theorem encodeChar_three
    (bounds : 0xE0 ≤ first.toNat ∧ first.toNat < 0xF0)
    (follows : isSecond first second = true)
    (continues : isContinuation third = true) :
    encodeChar
        (Char.ofNat ((first.toNat - 0xE0) * 0x1000 + (second.toNat - 0x80) * 0x40 +
          (third.toNat - 0x80))) =
      [first, second, third] := by
  rw [isSecond_iff_toNat] at follows
  rw [isContinuation_iff_toNat] at continues
  generalize code_eq : (first.toNat - 0xE0) * 0x1000 + (second.toNat - 0x80) * 0x40 +
    (third.toNat - 0x80) = code
  have valid : code.isValidChar := by
    rw [Nat.isValidChar]
    omega
  have notOne : ¬code < 0x80 := by omega
  have notTwo : ¬code < 0x800 := by omega
  have three : code < 0x10000 := by omega
  have first_eq : 0xE0 + code / 0x1000 = first.toNat := by omega
  have second_eq : 0x80 + code / 0x40 % 0x40 = second.toNat := by omega
  have third_eq : 0x80 + code % 0x40 = third.toNat := by omega
  rw [encodeChar, Text.toNat_ofNat_of_isValidChar valid,
    if_neg notOne, if_neg notTwo, if_pos three, ofNat_eq_of_toNat first_eq,
    ofNat_eq_of_toNat second_eq, ofNat_eq_of_toNat third_eq]

theorem encodeChar_four
    (bounds : 0xF0 ≤ first.toNat ∧ first.toNat < 0xF5)
    (follows : isSecond first second = true)
    (continues : isContinuation third = true ∧ isContinuation fourth = true) :
    encodeChar
        (Char.ofNat ((first.toNat - 0xF0) * 0x40000 + (second.toNat - 0x80) * 0x1000 +
          (third.toNat - 0x80) * 0x40 + (fourth.toNat - 0x80))) =
      [first, second, third, fourth] := by
  rw [isSecond_iff_toNat] at follows
  rw [isContinuation_iff_toNat, isContinuation_iff_toNat] at continues
  generalize code_eq : (first.toNat - 0xF0) * 0x40000 + (second.toNat - 0x80) * 0x1000 +
    (third.toNat - 0x80) * 0x40 + (fourth.toNat - 0x80) = code
  have valid : code.isValidChar := by
    rw [Nat.isValidChar]
    omega
  have notOne : ¬code < 0x80 := by omega
  have notTwo : ¬code < 0x800 := by omega
  have notThree : ¬code < 0x10000 := by omega
  have first_eq : 0xF0 + code / 0x40000 = first.toNat := by omega
  have second_eq : 0x80 + code / 0x1000 % 0x40 = second.toNat := by omega
  have third_eq : 0x80 + code / 0x40 % 0x40 = third.toNat := by omega
  have fourth_eq : 0x80 + code % 0x40 = fourth.toNat := by omega
  rw [encodeChar, Text.toNat_ofNat_of_isValidChar valid,
    if_neg notOne, if_neg notTwo, if_neg notThree, ofNat_eq_of_toNat first_eq,
    ofNat_eq_of_toNat second_eq, ofNat_eq_of_toNat third_eq, ofNat_eq_of_toNat fourth_eq]

/-! ## The bytes of a text that was read -/

theorem leads_iff_toNat :
    ¬(first < 0xC2 || 0xF5 ≤ first) = true ↔ 0xC2 ≤ first.toNat ∧ first.toNat < 0xF5 := by
  simp [UInt8.lt_iff_toNat_lt, UInt8.le_iff_toNat_le]

/-- The sequence that a step takes off stands in front of the bytes of the text that follows. -/
theorem append_eq_encode_of_step
    {character : Char}
    {position : Nat}
    {rest sequence : Bytes}
    (sequence_eq : encodeChar character = sequence)
    (further : ∀ {tail : Text}, decodeFrom position rest = .ok tail → rest = encode tail)
    (read : (do
      let tail ← decodeFrom position rest
      return character :: tail) = .ok text) :
    sequence ++ rest = encode text := by
  cases readRest : decodeFrom position rest with
  | error fault =>
      rw [readRest] at read
      contradiction
  | ok tail =>
      rw [readRest] at read
      obtain rfl : character :: tail = text := Except.ok.inj read
      rw [encode_cons, sequence_eq, ← further readRest]

theorem eq_encode_of_decodeFrom
    {position : Nat}
    (read : decodeFrom position bytes = .ok text) :
    bytes = encode text := by
  fun_induction decodeFrom position bytes generalizing text with
  | case1 => rw [← Except.ok.inj read, encode_nil]
  | case2 position first rest single further =>
      exact append_eq_encode_of_step (encodeChar_one single) further read
  | case6 position first notSingle inRange second rest follows two further =>
      have bounds := (leads_iff_toNat.mp inRange).1
      rw [Bool.not_eq_true', Bool.not_eq_false] at follows
      exact append_eq_encode_of_step (encodeChar_two ⟨bounds, two⟩ follows) further read
  | case9 position first notSingle inRange second follows notTwo third rest continues three
      further =>
      rw [Bool.not_eq_true', Bool.not_eq_false] at follows continues
      exact append_eq_encode_of_step
        (encodeChar_three ⟨Nat.le_of_not_lt notTwo, three⟩ follows continues) further read
  | case12 position first notSingle inRange second follows notTwo third continues notThree fourth
      rest continuesFourth further =>
      have bounds := (leads_iff_toNat.mp inRange).2
      rw [Bool.not_eq_true', Bool.not_eq_false] at follows continues continuesFourth
      exact append_eq_encode_of_step
        (encodeChar_four ⟨Nat.le_of_not_lt notThree, bounds⟩ follows
          ⟨continues, continuesFourth⟩) further read
  | _ => contradiction

/-- Reading gives a text exactly for the bytes of this text. -/
theorem decode_eq_ok_iff : decode bytes = .ok text ↔ bytes = encode text := by
  constructor
  · exact eq_encode_of_decodeFrom
  · rintro rfl
    exact decode_encode text

/-! ## The standard library's encoding -/

theorem encodeChar_eq_utf8EncodeChar (character : Char) :
    encodeChar character = String.utf8EncodeChar character := by
  have valid : character.toNat < 0xD800 ∨ 0xDFFF < character.toNat ∧ character.toNat < 0x110000 :=
    character.valid
  have value_eq : character.val.toNat = character.toNat := rfl
  unfold encodeChar String.utf8EncodeChar
  dsimp only
  rw [value_eq]
  generalize character.toNat = code at valid
  split
  · rename_i one
    rw [if_pos (Nat.le_of_lt_succ one)]
  · rename_i notOne
    rw [if_neg fun atMost => notOne (Nat.lt_succ_of_le atMost)]
    split
    · rename_i two
      have first_eq : 0xC0 + code / 0x40 = code / 0x40 % 0x20 + 0xC0 := by omega
      rw [if_pos (Nat.le_of_lt_succ two), first_eq, Nat.add_comm 0x80]
    · rename_i notTwo
      rw [if_neg fun atMost => notTwo (Nat.lt_succ_of_le atMost)]
      split
      · rename_i three
        have first_eq : 0xE0 + code / 0x1000 = code / 0x1000 % 0x10 + 0xE0 := by omega
        rw [if_pos (Nat.le_of_lt_succ three), first_eq, Nat.add_comm 0x80, Nat.add_comm 0x80]
      · rename_i notThree
        have first_eq : 0xF0 + code / 0x40000 = code / 0x40000 % 0x8 + 0xF0 := by omega
        rw [if_neg fun atMost => notThree (Nat.lt_succ_of_le atMost), first_eq, Nat.add_comm 0x80,
          Nat.add_comm 0x80, Nat.add_comm 0x80]

theorem toByteArray_encode (text : Text) :
    (encode text).toByteArray = text.utf8Encode := by
  rw [List.utf8Encode, encode, funext encodeChar_eq_utf8EncodeChar]

/-- The bytes that can be read are the valid ones. -/
theorem exists_decode_eq_ok_iff :
    (∃ text, decode bytes = .ok text) ↔ bytes.toByteArray.IsValidUTF8 := by
  constructor
  · rintro ⟨text, read⟩
    rw [decode_eq_ok_iff.mp read]
    exact ⟨text, toByteArray_encode text⟩
  · rintro ⟨characters, same⟩
    refine ⟨characters, decode_eq_ok_iff.mpr ?_⟩
    rw [← toByteArray_encode] at same
    simpa using congrArg (fun array => array.data.toList) same

end Utf8
end ModelNav
