import ModelNav.Failure
import ModelNav.Terminal.Emoji
import ModelNav.Terminal.Literal.Reader
import ModelNav.Terminal.Style
import ModelNav.Terminal.Styled

/-!
# Markup

Text that is printed may hold tags in square brackets, which switch styles on and off and are not
shown.  A backslash before a tag shows the tag instead.  A closing tag has to match a tag that is
open; one without a name closes the tag opened last.  A tag whose name begins with `@` names a
handler, whose arguments are read when the tag is closed.
-/

namespace ModelNav
namespace Terminal

/-- A part of a marked text: words to show, or a tag with the position where it stands. -/
inductive Piece where
  | words (text : Text)
  | tag (position : Nat) (body : Text)
deriving DecidableEq, Repr

/-- A character that a tag may begin with. -/
def isTagStart (character : Char) : Bool :=
  character.isLower || character == '#' || character == '/' || character == '@'

/-- The text up to a closing bracket, before which no other tag begins. -/
def untilBracket? : Text → Option Text
  | [] => none
  | first :: rest =>
    if first = ']' then some []
    else if first = '[' then none
    else (untilBracket? rest).map (first :: ·)

/-- The body of a tag whose opening bracket stands before the text. -/
def tagBody? : Text → Option Text
  | [] => none
  | first :: rest => if isTagStart first then (untilBracket? rest).map (first :: ·) else none

/-- Words to show, unless there are none. -/
def wordsOf (text : Text) : List Piece :=
  if text = [] then [] else [.words text]

/-- The pieces of a tag with a number of backslashes before it.  Two backslashes show one, and a
single one shows the tag. -/
def tagPieces (position slashes : Nat) (body : Text) : List Piece :=
  wordsOf (List.replicate (slashes / 2) '\\') ++
    if slashes % 2 = 1 then [.words ('[' :: body ++ [']'])] else [.tag position body]

/-- The pieces of a text from a position on, of which `skip` characters belong to a tag that was
read.  Words read before are `run`, the last character first, with `slashes` backslashes after
them. -/
def piecesFrom : (skip position : Nat) → (run : Text) → (slashes : Nat) → Text → List Piece
  | _, _, run, slashes, [] => wordsOf (run.reverse ++ List.replicate slashes '\\')
  | skip + 1, position, run, slashes, _ :: rest => piecesFrom skip (position + 1) run slashes rest
  | 0, position, run, slashes, first :: rest =>
    if first = '\\' then piecesFrom 0 (position + 1) run (slashes + 1) rest
    else
      let further := first :: (List.replicate slashes '\\' ++ run)
      match if first = '[' then tagBody? rest else none with
      | none => piecesFrom 0 (position + 1) further 0 rest
      | some body =>
        wordsOf run.reverse ++ tagPieces position slashes body ++
          piecesFrom (body.length + 1) (position + 1) [] 0 rest

/-- The pieces of a marked text. -/
def pieces (text : Text) : List Piece :=
  piecesFrom 0 0 [] 0 text

/-- A tag that was opened: its name, what stands after an equals sign, and where its text begins. -/
structure OpenTag where
  name : Text
  parameters : Option Text
  start : Nat
deriving DecidableEq, Repr

/-- The failure of a style that cannot be read. -/
def ofStyle (outcome : Except StyleFault Text) : Except Failure Text :=
  outcome.mapError fun _ => .missingNumber

namespace OpenTag

/-- The tag with the given body. -/
def ofBody (start : Nat) (body : Text) : Except Failure OpenTag := do
  let name := body.takeWhile (· != '=')
  let parameters := if body.contains '=' then some (body.drop (name.length + 1)) else none
  return ⟨← ofStyle (Style.nameOf name), parameters, start⟩

/-- The tag names a handler. -/
def isHandler (tag : OpenTag) : Bool :=
  tag.name.head? == some '@'

/-- The style that the tag switches on. -/
def style (tag : OpenTag) : Text :=
  match tag.parameters with
  | none => tag.name
  | some parameters => tag.name ++ ' ' :: parameters

/-- The literal that gives the arguments of a handler.  After a name the arguments stand in round
brackets; without them there are none. -/
def argumentsOf (parameters : Text) : Text :=
  let arguments := parameters.dropWhile fun character => Text.isWord character || character == '.'
  let isBracketed :=
    arguments.head? == some '(' && arguments.getLast? == some ')' && !arguments.contains '\n'
  if arguments = [] then "()".toList
  else if isBracketed then arguments
  else parameters

/-- Checks a tag that is closed: the arguments of a handler have to be a literal. -/
def close (tag : OpenTag) : Except Failure Unit :=
  let written := tag.parameters.getD []
  if tag.isHandler && written != [] then
    let literal := argumentsOf (Text.trim written)
    match Literal.check literal with
    | .error (.unreadable fault) => .error (.unreadableArguments literal written fault)
    | .error (.refused refusal) => .error (.refusedArguments written refusal)
    | .ok () => .ok ()
  else .ok ()

/-- The part of a text that has the style of the tag. -/
def span (tag : OpenTag) (stop : Nat) : Span :=
  ⟨tag.start, stop, tag.isHandler || (Style.nameOf tag.style).isOk⟩

end OpenTag

/-- The tag that a closing tag closes, and the others. -/
def closing (position : Nat) (body : Text) (name : Text) (tags : List OpenTag) :
    Except Failure (OpenTag × List OpenTag) :=
  if Text.trim name = [] then
    match tags with
    | [] => .error (.nothingToClose position)
    | tag :: others => .ok (tag, others)
  else do
    let name ← ofStyle (Style.nameOf (Text.trim name))
    match tags.find? (·.name == name) with
    | none => throw (.unmatchedTag ('[' :: body ++ [']']) position)
    | some tag => return (tag, tags.eraseP (·.name == name))

/-- A control character that is not printed. -/
def isDropped (character : Char) : Bool :=
  [0x7, 0x8, 0xB, 0xC, 0xD].contains character.toNat

/-- The text without the backslashes right before opening brackets. -/
def unescapeBrackets : Text → Text
  | [] => []
  | first :: rest =>
    if first = '\\' ∧ rest.head? = some '[' then unescapeBrackets rest
    else first :: unescapeBrackets rest

/-- Words as they are shown: with emoji, and without control characters. -/
def shownWords (text : Text) : Text :=
  (replaceEmoji text).filter (!isDropped ·)

/-- The shown text of pieces after a text, while tags are open, the last one first. -/
def showPieces : (shown : Styled) → (tags : List OpenTag) → List Piece → Except Failure Styled
  | shown, tags, [] => .ok ⟨shown.text, shown.spans ++ tags.map (·.span shown.text.length)⟩
  | shown, tags, .words text :: rest =>
    showPieces ⟨shown.text ++ shownWords (unescapeBrackets text), shown.spans⟩ tags rest
  | shown, tags, .tag position body :: rest =>
    match body.takeWhile (· != '=') with
    | '/' :: name => do
      let (tag, others) ← closing position body name tags
      tag.close
      showPieces ⟨shown.text, shown.spans ++ [tag.span shown.text.length]⟩ others rest
    | _ => do
      let tag ← OpenTag.ofBody shown.text.length body
      showPieces shown (tag :: tags) rest

/-- The text that is shown for a marked text. -/
def showMarkup (text : Text) : Except Failure Styled :=
  showPieces ⟨[], []⟩ [] (pieces text)

/-- The lines that are shown, if all their styles can be applied. -/
def applyStyles (lines : List Styled) : Except Failure (List Styled) :=
  if lines.all (·.applies) then .ok lines else .error .missingNumber

end Terminal
end ModelNav
