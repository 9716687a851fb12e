import ModelNav.Text.Basic

/-!
# White space

Two sets of blank characters are in use.  Program text is trimmed and matched with the wide set,
which holds the four information separators; numbers written as text are trimmed with the set of
the Unicode property White_Space, which does not.
-/

namespace ModelNav
namespace Text

/-- A character with the Unicode property White_Space. -/
def isWhiteSpace (character : Char) : Bool :=
  let code := character.toNat
  (0x9 ≤ code && code ≤ 0xD) || code == 0x20 || code == 0x85 || code == 0xA0 || code == 0x1680 ||
    (0x2000 ≤ code && code ≤ 0x200A) || code == 0x2028 || code == 0x2029 || code == 0x202F ||
    code == 0x205F || code == 0x3000

/-- A blank character of program text: white space or one of the four information separators. -/
def isSpace (character : Char) : Bool :=
  isWhiteSpace character || (0x1C ≤ character.toNat && character.toNat ≤ 0x1F)

/-- The text without the trailing characters of a class. -/
def trimEndBy (drop : Char → Bool) : Text → Text
  | [] => []
  | first :: rest =>
    match trimEndBy drop rest with
    | [] => if drop first then [] else [first]
    | kept => first :: kept

/-- The text without the leading and trailing characters of a class. -/
def trimBy (drop : Char → Bool) (text : Text) : Text :=
  trimEndBy drop (text.dropWhile drop)

/-- The text without leading and trailing blanks. -/
def trim (text : Text) : Text :=
  trimBy isSpace text

/-- The text without trailing blanks. -/
def trimEnd (text : Text) : Text :=
  trimEndBy isSpace text

/-- The runs of other characters between blanks, after a run that is being read. -/
def fieldsAfter : (field : Text) → Text → List Text
  | field, [] => if field = [] then [] else [field]
  | field, first :: rest =>
    if !isSpace first then fieldsAfter (field ++ [first]) rest
    else if field = [] then fieldsAfter [] rest
    else field :: fieldsAfter [] rest

/-- The runs of other characters between blanks. -/
def fields (text : Text) : List Text :=
  fieldsAfter [] text

/-- The text holds nothing but blanks. -/
def isBlank (text : Text) : Bool :=
  text.all isSpace

/-- Every white space character is a blank. -/
theorem isSpace_of_isWhiteSpace
    {character : Char}
    (white : isWhiteSpace character = true) :
    isSpace character = true := by
  simp [isSpace, white]

@[simp]
theorem trimEndBy_nil (drop : Char → Bool) : trimEndBy drop [] = [] := rfl

@[simp]
theorem trim_nil : trim [] = [] := rfl

end Text
end ModelNav
