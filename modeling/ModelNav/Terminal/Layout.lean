import ModelNav.Terminal.Styled

/-!
# Layout

Laying a text out in a given number of cells: tabs are expanded and words that do not fit go to the
next line.  A word that fits on no line is folded over several, or cut and marked with an ellipsis.
-/

namespace ModelNav
namespace Terminal

/-- The parts of a line that end with tabs, with tabs expanded to stops of the given size, from a
column on.  A tab is a blank, and as many more as are needed to reach a stop. -/
def expandParts (size : Nat) : (column : Nat) → List Styled → Styled
  | _, [] => ⟨[], []⟩
  | column, part :: rest =>
    if part.text.getLast? = some '\t' then
      let blank : Styled := ⟨part.text.dropLast ++ [' '], part.spans⟩
      let reached := column + width blank.text
      let gap := (size - reached % size) % size
      blank.extend gap ++ expandParts size (reached + gap) rest
    else part ++ expandParts size (column + width part.text) rest

/-- The number of cells between tab stops. -/
def tabSize : Nat := 8

/-- The line with its tabs expanded. -/
def expandTabs (line : Styled) : Styled :=
  match Styled.offsetsOf '\t' 1 line.text with
  | [] => line
  | offsets => expandParts tabSize 0 ((line.divide offsets).filter (·.text != []))

/-- The lines of a text with their tabs expanded. -/
def expandLines (styled : Styled) : List Styled :=
  styled.lines.map expandTabs

/-- The line with tabs expanded to stops of the given size, from a column on.  Every character
counts as one column. -/
def expandColumns (size : Nat) : (column : Nat) → Text → Text
  | _, [] => []
  | column, first :: rest =>
    if first = '\t' then
      let gap := size - column % size
      List.replicate gap ' ' ++ expandColumns size (column + gap) rest
    else first :: expandColumns size (column + 1) rest

/-- The number of cells in a line of the terminal. -/
def lineWidth : Nat := 1000

/-- The words of a line, each with the blanks after it, the first one also with the blanks before
it.  A step takes at least one character. -/
def wordsFrom : (fuel : Nat) → Text → List Text
  | 0, _ => []
  | fuel + 1, text =>
    let lead := text.takeWhile Text.isSpace
    let word := (text.drop lead.length).takeWhile (!Text.isSpace ·)
    let after := text.drop (lead.length + word.length)
    if word = [] then []
    else
      (lead ++ word ++ after.takeWhile Text.isSpace) ::
        wordsFrom fuel (after.dropWhile Text.isSpace)

/-- The words of a line with the blanks between them. -/
def words (line : Text) : List Text :=
  wordsFrom line.length line

/-- What happens to a word that fits on no line. -/
inductive Overflow where
  | fold
  | ellipsis
deriving DecidableEq, Repr

/-- The offsets at which pieces begin that follow each other from an offset on. -/
def startsOf : (offset : Nat) → List Text → List Nat
  | _, [] => []
  | offset, piece :: rest => offset :: startsOf (offset + piece.length) rest

/-- The offsets at which lines of the given width break.  The words stand at an offset, after a line
that fills `used` cells.  A word that does not fit on a line begins the next one. -/
def breaks (overflow : Overflow) (limit : Nat) :
    (offset used : Nat) → List Text → List Nat
  | _, _, [] => []
  | offset, used, word :: others =>
    let needed := width (Text.trimEnd word)
    let next := offset + word.length
    if needed + used ≤ limit then breaks overflow limit next (used + width word) others
    else if limit < needed then
      match overflow with
      | .fold =>
        let pieces := chop limit word
        let used := (pieces.getLast?.map width).getD used
        startsOf offset pieces ++ breaks overflow limit next used others
      | .ellipsis => offset :: breaks overflow limit next (width word) others
    else if 0 < used then offset :: breaks overflow limit next (width word) others
    else breaks overflow limit next used others

/-- The line without trailing blanks that go beyond a length. -/
def cropBlanks (limit : Nat) (line : Styled) : Styled :=
  let length := line.text.length
  let blanks := length - (Text.trimEnd line.text).length
  line.withText (line.text.take (length - min blanks (length - limit)))

/-- The line cut to a number of cells; a line that is cut may end with an ellipsis. -/
def fit (overflow : Overflow) (cells : Nat) (line : Styled) : Styled :=
  if width line.text ≤ cells then line
  else
    match overflow with
    | .fold => line.withText (crop cells line.text)
    | .ellipsis => line.withText (crop (cells - 1) line.text ++ ['\u2026'])

/-- The lines of a line that is laid out in the given width. -/
def wrap (overflow : Overflow) (limit : Nat) (line : Styled) : List Styled :=
  let offsets := (breaks overflow limit 0 0 (words line.text)).filter (0 < ·)
  (line.divide offsets).map (cropBlanks limit)

/-- The lines of a text whose lines are folded to the given width. -/
def foldLines (limit : Nat) (styled : Styled) : List Styled :=
  ((expandLines styled).flatMap (wrap .fold limit)).map (fit .fold limit)

/-- The text with blanks after it up to a number of cells. -/
def padRight (cells : Nat) (text : Text) : Text :=
  text ++ List.replicate (cells - width text) ' '

/-- The text in the middle of a number of cells; of an odd rest the smaller half comes first. -/
def centre (cells : Nat) (text : Text) : Text :=
  List.replicate ((cells - width text) / 2) ' ' ++ text

/-- Where a cell's text stands. -/
inductive Alignment where
  | left
  | right
deriving DecidableEq, Repr

/-- A line of a cell. -/
def align (alignment : Alignment) (cells : Nat) (line : Styled) : Styled :=
  match alignment with
  | .left => if cells < width line.text then fit .ellipsis cells line else line.padEnd cells
  | .right => (fit .ellipsis cells (line.withText (Text.trimEnd line.text))).padStart cells

/-- The lines of a text that is laid out in the given width. -/
def layOut (alignment : Alignment) (cells : Nat) (styled : Styled) : List Styled :=
  ((expandLines styled).flatMap (wrap .ellipsis cells)).map fun line =>
    fit .ellipsis cells (align alignment cells line)

/-- The pieces at the head of a line that fit into a number of cells; the last one is cut. -/
def cropPieces : (cells : Nat) → List Text → List Text
  | _, [] => []
  | cells, piece :: rest =>
    if width piece < cells then piece :: cropPieces (cells - width piece) rest
    else [crop cells piece]

/-- The number of cells that pieces fill, each measured for itself. -/
def piecesWidth (pieces : List Text) : Nat :=
  (pieces.map width).foldl (· + ·) 0

/-- The pieces of a line brought to a number of cells: cut, or with blanks after them. -/
def adjust (cells : Nat) (pieces : List Text) : List Text :=
  if cells < piecesWidth pieces then cropPieces cells pieces
  else pieces ++ [List.replicate (cells - piecesWidth pieces) ' ']

/-- A character that ends a line when the width of a text is taken. -/
def endsLine (character : Char) : Bool :=
  let code := character.toNat
  (0xA ≤ code && code ≤ 0xD) || (0x1C ≤ code && code ≤ 0x1E) || code == 0x85 || code == 0x2028 ||
    code == 0x2029

/-- The lines of a text when its width is taken. -/
def measuredLines : Text → List Text
  | [] => [[]]
  | first :: rest =>
    match measuredLines rest with
    | [] => [[first]]
    | line :: others => if endsLine first then [] :: line :: others else (first :: line) :: others

/-- The number of cells of the longest line of a text. -/
def textWidth (text : Text) : Nat :=
  ((measuredLines text).map width).foldl max 0

end Terminal
end ModelNav
