import ModelNav.Terminal.Literal.Matcher
import ModelNav.Terminal.Literal.Template

/-!
# Reading literals

A text is read as one value, or as a tuple of values.  Strings that follow each other are one, and
are checked when they are read; values inside them are texts of their own, read in the same way.
-/

namespace ModelNav
namespace Terminal
namespace Literal

/-- Checks a string that holds no values. -/
def checkPlain (letters content : Text) : Except Fault Unit := do
  let isRaw := letters.contains 'r'
  if letters.contains 'b' then
    if content.any fun character => 0x80 ≤ character.toNat then throw .bytesBeyondAscii
    if !isRaw then
      checkByteEscapes 0 content
  else if !isRaw then
    checkEscapes content

/-- Checks strings in a row, each after the letters before it.  All have to be bytes, or none. -/
def checkTexts (reader : TemplateReader) : (bytes? : Option Bool) → List (Text × Text) →
    Except Rejection Unit
  | _, [] => .ok ()
  | bytes?, (letters, content) :: others => do
    let isBytes := letters.contains 'b'
    let holdsValues := letters.contains 'f'
    if !holdsValues then
      reader.check (checkPlain letters content)
    if bytes?.any (· != isBytes) then
      throw (reader.reject .mixedStrings)
    if holdsValues then
      reader.checkText (letters.contains 'r') content
    checkTexts reader (some isBytes) others

/-- Reads a text as a symbol.  A value inside a string stands `depth` strings deep at most. -/
def readAs (isEmbedded : Bool) (symbol : Symbol) :
    (depth : Nat) → Text → Except Rejection Leveled
  | 0, _ => .error (.refused .tooDeep)
  | depth + 1, text =>
    let reject (fault : Fault) : Rejection :=
      .unreadable (if isEmbedded then .embedded fault else fault)
    let reader : TemplateReader :=
      ⟨reject, fun value => do let _ ← readAs true .embedded depth value⟩
    let join (texts : List (Text × Text)) : Except Rejection Shape := do
      checkTexts reader none texts
      return if texts.any fun text => text.1.contains 'f' then .formatted else .string
    Source.readAs ⟨tokensOf text, join, isEmbedded⟩ symbol

/-- Reads a text as a literal.  A value inside a string is shorter than the string by two braces and
longer by two brackets, and the string has quotes. -/
def read (text : Text) : Except Rejection Leveled :=
  if text.contains '\x00' then .error (.refused .nullCharacter)
  else readAs false .whole (text.length + 1) text

/-- The most levels that what was read may have. -/
def levelLimit : Nat := 2922

/-- Checks that a text is a literal. -/
def check (text : Text) : Except Rejection Unit := do
  let read ← read text
  if levelLimit < read.levels then throw (.refused .tooManyLevels)
  match read.shape.evaluate with
  | .error refusal => throw (.refused refusal)
  | .ok _ => return ()

end Literal
end Terminal
end ModelNav
