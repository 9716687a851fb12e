import ModelNav.Http.Host.Characters
import ModelNav.Http.Host.Direction
import ModelNav.Http.Host.Joining
import ModelNav.Http.Host.Punycode
import ModelNav.Text.CaseFold
import ModelNav.Text.Composed
import ModelNav.Text.Quoted

/-!
# Labels of host names

A host name is a row of labels with dots between them.  A label is composed text of allowed
characters, with restrictions on hyphens, on marks at its beginning, on characters that depend on
their neighbours, and on directions of writing.  A label beyond ASCII is written in ASCII after a
mark of its own.
-/

namespace ModelNav
namespace Http
namespace Host

/-- What a fault of a host name is about. -/
inductive FaultFamily where
  | form
  | character
  | neighbours
  | direction
deriving DecidableEq, Repr

/-- Why a text is no host name.  A label is a list of code points. -/
inductive NameFault where
  | tooLong
  | empty
  | labelTooLong
  | labelEmpty
  | uncomposed
  | innerHyphens
  | outerHyphen
  | leadingMark
  | disallowed (code position : Nat) (label : List Nat)
  | badNeighbours (code position : Nat) (label : List Nat)
  | badJoiner (code position : Nat) (label : List Nat)
  | unknownDirection (position : Nat) (label : List Nat)
  | undirected (label : List Nat)
  | wrongDirection (isRight : Bool) (position : Nat)
  | mixedDigits
  | wrongEnd
  | nothingWritten
  | endsInHyphen
  | unwritten
deriving DecidableEq, Repr

namespace NameFault

/-- What the fault is about. -/
def family : NameFault → FaultFamily
  | .disallowed .. => .character
  | .badNeighbours .. => .neighbours
  | .unknownDirection .. | .undirected _ | .wrongDirection .. | .mixedDigits | .wrongEnd =>
    .direction
  | _ => .form

/-- A code point that is no character, being half of one. -/
def isSurrogate (code : Nat) : Bool :=
  0xD800 ≤ code && code ≤ 0xDFFF

/-- A label between quotes. -/
def quotedLabel (label : List Nat) : Text :=
  let mark := Text.quoteMark ((label.filter (!isSurrogate ·)).map Char.ofNat)
  let escape (code : Nat) : Text :=
    if isSurrogate code then '\\' :: 'u' :: Text.hexadecimal 4 code
    else Text.escape mark (Char.ofNat code)
  mark :: label.flatMap escape ++ [mark]

/-- A code point as it is named. -/
def codeName (code : Nat) : Text :=
  'U' :: '+' :: (Text.hexadecimal 4 code).map Char.toUpper

/-- What is said about a host name. -/
def message : NameFault → Text
  | .tooLong => "Domain too long".toList
  | .empty => "Empty domain".toList
  | .labelTooLong => "Label too long".toList
  | .labelEmpty => "Empty Label".toList
  | .uncomposed => "Label must be in Normalization Form C".toList
  | .innerHyphens => "Label has disallowed hyphens in 3rd and 4th position".toList
  | .outerHyphen => "Label must not start or end with a hyphen".toList
  | .leadingMark => "Label begins with an illegal combining character".toList
  | .disallowed code position label =>
    "Codepoint ".toList ++ codeName code ++ s!" at position {position} of ".toList ++
      quotedLabel label ++ " not allowed".toList
  | .badNeighbours code position label =>
    "Codepoint ".toList ++ codeName code ++ s!" not allowed at position {position} in ".toList ++
      quotedLabel label
  | .badJoiner code position label =>
    "Unknown codepoint adjacent to joiner ".toList ++ codeName code ++
      s!" at position {position} in ".toList ++ quotedLabel label
  | .unknownDirection position label =>
    "Unknown directionality in label ".toList ++ quotedLabel label ++
      s!" at position {position}".toList
  | .undirected label =>
    "First codepoint in label ".toList ++ quotedLabel label ++
      " must be directionality L, R or AL".toList
  | .wrongDirection isRight position =>
    let side := if isRight then "right-to-left" else "left-to-right"
    s!"Invalid direction for codepoint at position {position} in a {side} label".toList
  | .mixedDigits => "Can not mix numeral types in a right-to-left label".toList
  | .wrongEnd => "Label ends with illegal codepoint directionality".toList
  | .nothingWritten => "Malformed A-label, no Punycode eligible content found".toList
  | .endsInHyphen => "A-label must not end with a hyphen".toList
  | .unwritten => "Invalid A-label".toList

end NameFault

/-- A letter before the place in a label and one after it join, whatever stands between. -/
def joinsAcross (before after : List Nat) : Bool :=
  let nearest (codes : List Nat) := codes.find? (!isTransparent ·)
  (nearest before.reverse).any joinsNext && (nearest after).any joinsPrevious

/-- A joiner fits between what stands before it and after it: after a mark that takes away a vowel,
or, if it keeps letters apart, between letters that would join. -/
def joinerFits (code : Nat) (before after : List Nat) : Bool :=
  let followsVirama :=
    before.getLast?.any fun previous => Text.combiningClass previous = Text.viramaClass
  let isKnown := !before.getLast?.any isUnknown
  followsVirama || (code = 0x200C && isKnown && joinsAcross before after)

/-- The character fits to its neighbours. -/
def fitsNeighbours (code : Nat) (before after : List Nat) : Bool :=
  let isIn (codes : List Nat) (first last : Nat) := codes.any fun code => first ≤ code && code ≤ last
  let isL (code? : Option Nat) : Bool := code? == some 0x6C
  if code = 0xB7 then isL before.getLast? && isL after.head?
  else if code = 0x375 then after.head?.any (Text.inSpans greekSpans ·)
  else if code = 0x5F3 ∨ code = 0x5F4 then before.getLast?.any (Text.inSpans hebrewSpans ·)
  else if code = 0x30FB then
    (before ++ after).any fun other => other != 0x30FB && Text.inSpans japaneseSpans other
  else if code ≤ 0x669 then !isIn (before ++ after) 0x6F0 0x6F9
  else !isIn (before ++ after) 0x660 0x669

/-- Checks the characters of a label after those before. -/
def checkCharacters (before : List Nat) : (rest : List Nat) → Except NameFault Unit
  | [] => .ok ()
  | code :: rest => do
    let position := before.length + 1
    let label := before ++ code :: rest
    if isAllowed code then pure ()
    else if code = 0x200C ∨ code = 0x200D then
      if !joinerFits code before rest then throw (.badJoiner code position label)
    else if Text.inSpans contextSpans code then
      if !fitsNeighbours code before rest then throw (.badNeighbours code position label)
    else throw (.disallowed code position label)
    checkCharacters (before ++ [code]) rest

namespace Direction

/-- A character of the direction makes its label one with directions. -/
def isRightward : Direction → Bool
  | .right | .arabic | .arabicDigit => true
  | _ => false

/-- A label that is written from right to left, or else from left to right, holds the direction. -/
def isIn (isRight : Bool) : Direction → Bool
  | .left => !isRight
  | .right | .arabic | .arabicDigit => isRight
  | _ => true

/-- Such a label may end with the direction. -/
def isEnd (isRight : Bool) : Direction → Bool
  | .left => !isRight
  | .right | .arabic | .arabicDigit => isRight
  | .digit => true
  | _ => false

end Direction

/-- Checks the directions of a label that is written from right to left, or else from left to
right, from a position on.  Its end so far is allowed or not, and its digits so far are of a
kind. -/
def checkDirections (isRight : Bool) : (position : Nat) → (endsWell : Bool) →
    (digits? : Option Direction) → List Direction → Except NameFault Unit
  | _, endsWell, _, [] => if endsWell then .ok () else .error .wrongEnd
  | position, endsWell, digits?, direction :: rest => do
    if !direction.isIn isRight then throw (.wrongDirection isRight position)
    let isDigit := direction = .digit ∨ direction = .arabicDigit
    if isRight ∧ isDigit ∧ digits?.any (· != direction) then throw .mixedDigits
    checkDirections isRight (position + 1)
      (direction.isEnd isRight || (direction == .mark && endsWell))
      (if isDigit then some direction else digits?) rest

/-- Checks the directions of a label, if any of its characters is written from right to left. -/
def checkDirection (label : List Nat) : Except NameFault Unit :=
  match label.findIdx? isUnknown with
  | some index => .error (.unknownDirection (index + 1) label)
  | none =>
    let directions := label.filterMap direction?
    if directions.any Direction.isRightward then
      match directions.head? with
      | some .right | some .arabic => checkDirections true 1 false none directions
      | some .left => checkDirections false 1 false none directions
      | _ => .error (.undirected label)
    else .ok ()

/-- The most characters of a host name without a dot at its end. -/
def nameLimit : Nat := 253

/-- The most characters of a label in ASCII. -/
def labelLimit : Nat := 63

/-- Checks a label. -/
def checkLabel (label : List Nat) : Except NameFault Unit := do
  if label = [] then throw .labelEmpty
  if nameLimit + 1 < label.length then throw .labelTooLong
  if !Text.isComposed label then throw .uncomposed
  if (label.drop 2).take 2 = [0x2D, 0x2D] then throw .innerHyphens
  if label.head? = some 0x2D ∨ label.getLast? = some 0x2D then throw .outerHyphen
  if label.head?.any Text.isMark then throw .leadingMark
  checkCharacters [] label
  checkDirection label

/-- What stands before a label that is written in ASCII. -/
def asciiMark : Text := "xn--".toList

/-- Checks a label of ASCII characters, which may stand for one beyond ASCII. -/
def checkAscii (label : Text) : Except NameFault Unit :=
  match Text.after? asciiMark label with
  | none => checkLabel (label.map Char.toNat)
  | some written => do
    if written = [] then throw .nothingWritten
    if written.getLast? = some '-' then throw .endsInHyphen
    match Punycode.decode? written with
    | none => throw .unwritten
    | some label => checkLabel label

/-- A dot of any script. -/
def isDot (character : Char) : Bool :=
  [0x2E, 0x3002, 0xFF0E, 0xFF61].contains character.toNat

/-- The labels of a host name, and whether a dot ends it. -/
def labelsOf (name : Text) : List Text × Bool :=
  let labels := Text.splitOn '.' (name.map fun character => if isDot character then '.' else character)
  if labels.getLast? = some [] then (labels.dropLast, true) else (labels, false)

/-- A label in ASCII. -/
def asciiLabel (label : Text) : Except NameFault Text := do
  let ascii ←
    if label.all (·.toNat < 0x80) then do
      checkAscii label
      pure label
    else do
      let codes := label.map Char.toNat
      checkLabel codes
      pure (asciiMark ++ Punycode.encode codes)
  if labelLimit < ascii.length then throw .labelTooLong
  return ascii

/-- A host name in ASCII. -/
def ascii (name : Text) : Except NameFault Text := do
  if nameLimit + 1 < name.length then throw .tooLong
  let (labels, hasLastDot) := labelsOf name
  if name = [] then throw .empty
  let labels ← labels.mapM asciiLabel
  let joined := Text.join ['.'] (if hasLastDot then labels ++ [[]] else labels)
  if (if hasLastDot then nameLimit + 1 else nameLimit) < joined.length then throw .tooLong
  return joined

/-- Checks a host name in ASCII whose first label is written for one beyond ASCII. -/
def checkWritten (name : Text) : Except NameFault Unit := do
  if nameLimit + 1 < name.length then throw .tooLong
  (labelsOf name).1.forM checkAscii

end Host
end Http
end ModelNav
