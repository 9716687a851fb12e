import ModelNav.Hover
import ModelNav.Terminal.Layout
import ModelNav.Terminal.Markup
import ModelNav.Text.Lines
import ModelNav.Text.Space

/-!
# Hover content in plain lines

Hover content is shown without the marks of markdown: the header as paragraphs, the declaration as a
code block, and the comment line by line.  What is too wide is folded.
-/

namespace ModelNav
namespace CommandLine

/-- The columns between tab stops in a code block. -/
def codeTabSize : Nat := 4

/-- The text of a markdown paragraph or code block as it is shown. -/
def shownMarkdown (text : Text) : Text :=
  (text.map fun character => if character = '\x00' then '\ufffd' else character).filter
    (!Terminal.isDropped ·)

/-- The lines of a paragraph. -/
def paragraphLines (text : Text) : List Text :=
  (Terminal.foldLines Terminal.lineWidth ⟨shownMarkdown text, []⟩).map (·.text)

/-- A blank beside which the marks of bold type have no effect. -/
def isMarkdownSpace (character : Char) : Bool :=
  let code := character.toNat
  Text.isWhiteSpace character && code != 0x85 && code != 0x2028 && code != 0x2029

/-- A space or a tab. -/
def isIndent (character : Char) : Bool :=
  character == ' ' || character == '\t'

/-- The lines of a markdown text in paragraphs, which blank lines separate. -/
def paragraphs : List Text → List (List Text)
  | [] => []
  | line :: rest =>
    if line.all isIndent then [] :: paragraphs rest
    else
      match paragraphs rest with
      | [] => [[line]]
      | paragraph :: others => (line :: paragraph) :: others

/-- The lines of a paragraph put together.  A line end is shown as a blank, unless two blanks stand
before it. -/
def joinParagraph : List Text → Text
  | [] => []
  | [last] => last.dropWhile isIndent
  | line :: others =>
    let shown := Text.trimEndBy (· == ' ') (line.dropWhile isIndent)
    let breaks := Text.endsWith line [' ', ' ']
    shown ++ (if breaks then '\n' else ' ') :: joinParagraph others

/-- The paragraphs of the header.  The marks of bold type are not shown, but they count only right
beside something that is not blank, and within one paragraph. -/
def headerParagraphs (hover : Hover) : List Text :=
  let isBlankEnd (character : Option Char) : Bool := character.any isMarkdownSpace
  let parts (text : Text) : List (List Text) :=
    (paragraphs (Text.splitOn '\n' (Text.unifyLineEnds text))).filter (· != [])
  let plain := parts hover.header
  if isBlankEnd hover.header.head? || isBlankEnd hover.header.getLast? || 1 < plain.length then
    (parts ("**".toList ++ hover.header ++ "**".toList)).map joinParagraph
  else plain.map joinParagraph

/-- The lines of a line of code, with a blank on both sides. -/
def codeLines (line : Text) : List Text :=
  let expanded := Terminal.expandColumns codeTabSize 0 (shownMarkdown line)
  (Terminal.foldLines (Terminal.lineWidth - 2) ⟨expanded, []⟩).map fun line => ' ' :: line.text

/-- The lines of hover content as they are shown without markdown: the header, a code block with
blank lines around it, and the lines of the comment. -/
def hoverLines (hover : Hover) : List Text :=
  let comment := hover.commentLines.flatMap paragraphLines
  let header := Text.join ['\n', '\n'] (headerParagraphs hover)
  paragraphLines header ++ [[], []] ++ codeLines "<?php".toList ++
    codeLines hover.declaration ++ [[]] ++ if comment = [] then [] else [] :: comment

end CommandLine
end ModelNav
