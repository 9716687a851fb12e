import ModelNav.Text.Space
import ModelNav.Text.Word

/-!
# Runs of blanks and trimmed texts

A run of blanks is dropped as a whole, and trimming a text loses nothing but blanks.  No word
character is a blank.
-/

namespace ModelNav
namespace Text

/-- A run of blanks in front of a text is dropped together with the blanks of the text. -/
theorem dropWhile_isSpace_append
    {blanks rest : Text}
    (blank : isBlank blanks = true) :
    (blanks ++ rest).dropWhile isSpace = rest.dropWhile isSpace :=
  List.dropWhile_append_of_pos (by simpa [isBlank] using blank)

/-- What dropping blanks leaves has a run of blanks in front. -/
theorem exists_blanks_of_dropWhile
    {text rest : Text}
    (dropped : text.dropWhile isSpace = rest) :
    ∃ blanks, isBlank blanks = true ∧ text = blanks ++ rest := by
  refine ⟨text.takeWhile isSpace, ?_, ?_⟩
  · simp [isBlank, List.all_takeWhile]
  · rw [← dropped, List.takeWhile_append_dropWhile]

theorem notMem_of_isBlank
    {blanks : Text}
    {character : Char}
    (blank : isBlank blanks = true)
    (visible : isSpace character = false) :
    character ∉ blanks := by
  intro present
  have space := List.all_eq_true.mp blank character present
  simp [visible] at space

/-! ## Blanks and word characters -/

/-- The code points of the blanks. -/
def spaceCodes : List Nat :=
  List.range' 0x9 5 ++ List.range' 0x1C 5 ++ List.range' 0x2000 11 ++
    [0x85, 0xA0, 0x1680, 0x2028, 0x2029, 0x202F, 0x205F, 0x3000]

theorem mem_spaceCodes_of_isSpace
    {character : Char}
    (space : isSpace character = true) :
    character.toNat ∈ spaceCodes := by
  simp only [isSpace, isWhiteSpace, Bool.or_eq_true, Bool.and_eq_true, decide_eq_true_eq,
    beq_iff_eq] at space
  simp only [spaceCodes, List.mem_append, List.mem_range'_1, List.mem_cons, List.not_mem_nil,
    or_false]
  omega

theorem isWord_ofNat_of_mem_spaceCodes : ∀ code ∈ spaceCodes, isWord (Char.ofNat code) = false := by
  decide +kernel

/-- A word character is no blank. -/
theorem isSpace_of_isWord
    {character : Char}
    (word : isWord character = true) :
    isSpace character = false := by
  rw [Bool.eq_false_iff]
  intro space
  have separates := isWord_ofNat_of_mem_spaceCodes _ (mem_spaceCodes_of_isSpace space)
  rw [Char.ofNat_toNat, word] at separates
  contradiction

/-! ## Trimming -/

theorem mem_dropWhile_of_mem
    {drop : Char → Bool}
    {text : Text}
    {character : Char}
    (present : character ∈ text)
    (kept : drop character = false) :
    character ∈ text.dropWhile drop := by
  rw [← List.takeWhile_append_dropWhile (p := drop) (l := text), List.mem_append] at present
  rcases present with dropped | remaining
  · have := List.all_eq_true.mp List.all_takeWhile character dropped
    simp [kept] at this
  · exact remaining

theorem mem_trimEndBy_of_mem
    {drop : Char → Bool}
    {text : Text}
    {character : Char}
    (present : character ∈ text)
    (kept : drop character = false) :
    character ∈ trimEndBy drop text := by
  induction text with
  | nil => simp at present
  | cons first rest inductionHypothesis =>
      rw [trimEndBy]
      rcases List.mem_cons.mp present with rfl | inRest
      · split
        · simp [kept]
        · exact List.mem_cons_self
      · have remaining := inductionHypothesis inRest
        split
        · rename_i empty
          simp [empty] at remaining
        · exact List.mem_cons_of_mem _ remaining

/-- Trimming keeps every character that is no blank. -/
theorem mem_trim_of_mem
    {text : Text}
    {character : Char}
    (present : character ∈ text)
    (visible : isSpace character = false) :
    character ∈ trim text :=
  mem_trimEndBy_of_mem (mem_dropWhile_of_mem present visible) visible

/-- Trimming at the end leaves a beginning of the text. -/
theorem trimEndBy_isPrefix
    (drop : Char → Bool)
    (text : Text) :
    trimEndBy drop text <+: text := by
  induction text with
  | nil => exact List.prefix_rfl
  | cons first rest inductionHypothesis =>
      rw [trimEndBy]
      split
      · split
        · exact List.nil_prefix
        · exact List.cons_prefix_cons.mpr ⟨rfl, List.nil_prefix⟩
      · exact List.cons_prefix_cons.mpr ⟨rfl, inductionHypothesis⟩

/-- Trimming adds no character. -/
theorem mem_of_mem_trim
    {text : Text}
    {character : Char}
    (present : character ∈ trim text) :
    character ∈ text :=
  List.dropWhile_subset isSpace ((trimEndBy_isPrefix _ _).subset present)

/-- Trimming leaves a piece of the text. -/
theorem trim_isInfix (text : Text) : trim text <:+: text :=
  (trimEndBy_isPrefix _ _).isInfix.trans (List.dropWhile_suffix isSpace).isInfix

/-! ## Texts that are trimmed -/

/-- Trimming takes an indentation away. -/
theorem trim_append_of_isBlank
    {indent : Text}
    (blank : isBlank indent = true)
    (text : Text) :
    trim (indent ++ text) = trim text := by
  rw [trim, trimBy, dropWhile_isSpace_append blank, trim, trimBy]

theorem trim_of_isBlank
    {text : Text}
    (blank : isBlank text = true) :
    trim text = [] := by
  simpa using trim_append_of_isBlank blank []

/-- Only the last part of a text that is not dropped as a whole is trimmed at the end. -/
theorem trimEndBy_append
    {drop : Char → Bool}
    {rest : Text}
    (present : trimEndBy drop rest ≠ [])
    (front : Text) :
    trimEndBy drop (front ++ rest) = front ++ trimEndBy drop rest := by
  induction front with
  | nil => rfl
  | cons first front inductionHypothesis =>
      rw [List.cons_append, trimEndBy, inductionHypothesis]
      split
      · rename_i empty
        exact absurd (List.append_eq_nil_iff.mp empty).2 present
      · rfl

/-- What is trimmed at the end does not end with a character to drop. -/
theorem not_drop_getLast?_trimEndBy
    (drop : Char → Bool)
    (text : Text) :
    ∀ last ∈ (trimEndBy drop text).getLast?, drop last = false := by
  fun_induction trimEndBy drop text with
  | case1 => simp
  | case2 first rest empty dropped inductionHypothesis => simp
  | case3 first rest empty kept inductionHypothesis => simpa using kept
  | case4 first rest present inductionHypothesis =>
      obtain ⟨head, others, split⟩ := List.exists_cons_of_ne_nil present
      rw [split, List.getLast?_cons_cons, ← split]
      exact inductionHypothesis

theorem trimEndBy_eq_self
    {drop : Char → Bool}
    {text : Text}
    (kept : ∀ last ∈ text.getLast?, drop last = false) :
    trimEndBy drop text = text := by
  rcases List.eq_nil_or_concat text with rfl | ⟨front, last, rfl⟩
  · rfl
  · have alone : trimEndBy drop [last] = [last] := by
      rw [trimEndBy, trimEndBy_nil, if_neg]
      simpa using kept
    rw [List.concat_eq_append, trimEndBy_append (by simp [alone]), alone]

theorem not_isSpace_getLast?_of_trim_eq_self
    {text : Text}
    (trimmed : trim text = text) :
    ∀ last ∈ text.getLast?, isSpace last = false := by
  rw [← trimmed, trim, trimBy]
  exact not_drop_getLast?_trimEndBy _ _

/-- A text that neither begins nor ends with a blank is trimmed. -/
theorem trim_eq_self
    {text : Text}
    (begins : ∀ first ∈ text.head?, isSpace first = false)
    (ends : ∀ last ∈ text.getLast?, isSpace last = false) :
    trim text = text := by
  have undropped : text.dropWhile isSpace = text := by
    cases text with
    | nil => rfl
    | cons first rest => simp [begins first rfl]
  rw [trim, trimBy, undropped, trimEndBy_eq_self ends]

/-- Trimming a second time changes nothing. -/
theorem trim_trim (text : Text) : trim (trim text) = trim text := by
  refine trim_eq_self ?_ (not_drop_getLast?_trimEndBy _ _)
  intro first isFirst
  obtain ⟨rest, begins⟩ := List.head?_eq_some_iff.mp isFirst
  obtain ⟨tail, undropped⟩ := trimEndBy_isPrefix isSpace (text.dropWhile isSpace)
  rw [show trimEndBy isSpace (text.dropWhile isSpace) = first :: rest from begins] at undropped
  simpa [← undropped] using List.head?_dropWhile_not isSpace text

/-- Dropped characters behind a text change nothing. -/
theorem trimEndBy_append_of_all
    {drop : Char → Bool}
    {tail : Text}
    (dropped : tail.all drop = true)
    (text : Text) :
    trimEndBy drop (text ++ tail) = trimEndBy drop text := by
  induction text with
  | nil =>
      induction tail with
      | nil => rfl
      | cons first rest inductionHypothesis =>
          rw [List.all_cons, Bool.and_eq_true] at dropped
          have nothing : trimEndBy drop rest = [] := inductionHypothesis dropped.2
          simp [trimEndBy, nothing, dropped.1]
  | cons first rest inductionHypothesis =>
      rw [List.cons_append, trimEndBy, inductionHypothesis, trimEndBy]

/-- Trimming takes the blanks behind a text away. -/
theorem trim_append_blanks
    {blanks : Text}
    (blank : isBlank blanks = true)
    (text : Text) :
    trim (text ++ blanks) = trim text := by
  rw [trim, trimBy, List.dropWhile_append, trim, trimBy]
  split
  · rename_i empty
    have nothing : blanks.dropWhile isSpace = [] := by
      simpa using @dropWhile_isSpace_append blanks [] blank
    rw [List.isEmpty_iff.mp empty, nothing]
  · exact trimEndBy_append_of_all blank _

end Text
end ModelNav
