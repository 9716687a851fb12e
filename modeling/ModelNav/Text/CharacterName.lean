import ModelNav.Text.CodeTable
import ModelNav.Text.CharacterName.AToB
import ModelNav.Text.CharacterName.CToF
import ModelNav.Text.CharacterName.GToL
import ModelNav.Text.CharacterName.MToR
import ModelNav.Text.CharacterName.SToZ

/-!
# Names of characters

Nearly every character has a name, and some have several.  Names are listed so that those which
begin alike are written once up to where they part.  The name of a syllable is put together from
its sounds, and that of an ideograph ends with its number.
-/

namespace ModelNav
namespace Text
namespace CharacterName

/-- How far a name is followed through a list: whether it was found, what is left of it here, and
what was left of it where each open bracket stands. -/
structure Search where
  found : Bool
  here : Option Text
  outer : List (Option Text)

namespace Search

/-- The search for a name, before the list. -/
def start (name : Text) : Search :=
  ⟨false, some name, [some name]⟩

/-- The name was found, or nothing of it is left here. -/
def ends (search : Search) : Bool :=
  search.found || search.here == some []

/-- Takes a character of the list. -/
def step (search : Search) : Char → Search
  | '(' => { search with outer := search.here :: search.outer }
  | ',' => ⟨search.ends, search.outer.head?.join, search.outer⟩
  | ')' => ⟨search.ends, none, search.outer.tail⟩
  | character =>
    let here :=
      match search.here with
      | some (first :: rest) => if first = character then some rest else none
      | _ => none
    { search with here := here }

end Search

/-- A name stands in a list, which is given by its lines. -/
def isIn (lines : List String) (name : Text) : Bool :=
  let take (search : Search) (line : String) : Search := line.toList.foldl Search.step search
  (lines.foldl take (.start name)).ends

/-- The lists of names. -/
def lists : List (List String) :=
  [aToB, cToF, gToL, mToR, sToZ]

/-- The words before the sounds of a syllable. -/
def syllableStem : Text := "HANGUL SYLLABLE ".toList

/-- The sounds that a syllable begins with. -/
def initials : List String :=
  ["G", "GG", "N", "D", "DD", "R", "M", "B", "BB", "S", "SS", "", "J", "JJ", "C", "K", "T", "P",
    "H"]

/-- The vowels of syllables. -/
def vowels : List String :=
  ["A", "AE", "YA", "YAE", "EO", "E", "YEO", "YE", "O", "WA", "WAE", "OE", "YO", "U", "WEO", "WE",
    "WI", "YU", "EU", "YI", "I"]

/-- The sounds that a syllable ends with. -/
def finals : List String :=
  ["", "G", "GG", "GS", "N", "NJ", "NH", "D", "L", "LG", "LM", "LB", "LS", "LT", "LP", "LH", "M",
    "B", "BS", "S", "SS", "NG", "J", "C", "K", "T", "P", "H"]

/-- The sounds of a syllable: a vowel, with a sound before it and one after it. -/
def isSyllable (sounds : Text) : Bool :=
  initials.any fun initial => (after? initial.toList sounds).any fun rest =>
    vowels.any fun vowel => (after? vowel.toList rest).any fun rest =>
      finals.any fun final => final.toList == rest

/-- The words before the number of an ideograph. -/
def ideographStem : Text := "CJK UNIFIED IDEOGRAPH-".toList

/-- The spans of ideographs. -/
def ideographSpans : List (Nat × Nat) := [
  (0x3400, 0x4DBF), (0x4E00, 0x9FFF), (0x20000, 0x2A6DF), (0x2A700, 0x2B738), (0x2B740, 0x2B81D),
  (0x2B820, 0x2CEA1), (0x2CEB0, 0x2EBE0), (0x30000, 0x3134A)
]

/-- The words before the numbers of further characters, and the spans of these. -/
def numberedSpans : List (String × List (Nat × Nat)) := [
  ("CJK COMPATIBILITY IDEOGRAPH-", [(0xF900, 0xFA6D), (0xFA70, 0xFAD9), (0x2F800, 0x2FA1D)]),
  ("KHITAN SMALL SCRIPT CHARACTER-", [(0x18B00, 0x18CD5)]),
  ("NUSHU CHARACTER-", [(0x1B170, 0x1B2FB)])
]

/-- A digit of the number in a name. -/
def isNumberDigit (digit : Char) : Bool :=
  digit.isDigit || ('A' ≤ digit && digit ≤ 'F')

/-- The number that four or five digits give. -/
def number? (digits : Text) : Option Nat :=
  if (digits.length = 4 || digits.length = 5) && digits.all isNumberDigit then
    let valueOf (digit : Char) : Nat :=
      if digit.isDigit then digit.toNat - '0'.toNat else digit.toNat - 'A'.toNat + 10
    some (digits.foldl (fun value digit => value * 16 + valueOf digit) 0)
  else none

/-- A name ends with the number of one of several characters, without needless zeros. -/
def isNumbered (name : Text) : Bool :=
  numberedSpans.any fun (stem, spans) =>
    (after? stem.toList name).any fun digits =>
      (digits.length = 4 || digits.head? != some '0') && (number? digits).any (inSpans spans)

end CharacterName

open CharacterName in
/-- A text is the name of a character.  Small letters may be written for capital ones, but not in
the names of syllables and ideographs. -/
def isCharacterName (name : Text) : Bool :=
  match after? syllableStem name, after? ideographStem name with
  | some sounds, _ => isSyllable sounds
  | none, some digits => (number? digits).any (inSpans ideographSpans)
  | none, none =>
    let capitals := name.map Char.toUpper
    isNumbered capitals || lists.any fun lines => isIn lines capitals

end Text
end ModelNav
