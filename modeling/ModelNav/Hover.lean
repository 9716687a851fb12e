import ModelNav.Resolution

/-!
# Hover content

What is shown about a method: a header, the declaration in a code block, and the comment, one line
for each of its lines.
-/

namespace ModelNav

/-- The parts of what is shown about a method. -/
structure Hover where
  header : Text
  declaration : Text := []
  comment : Text := []
deriving DecidableEq, Repr

namespace Hover

/-- What is shown about a resolved method. -/
def ofResolution (settings : Settings) (resolution : Resolution) : Hover where
  header := settings.hoverHeader
  declaration := resolution.method.declaration
  comment := resolution.method.comment

/-- The lines of the comment that have words, trimmed. -/
def commentLines (hover : Hover) : List Text :=
  ((Text.splitOn '\n' hover.comment).map Text.trim).filter (· != [])

/-- The header in bold. -/
def headerPart (hover : Hover) : Text :=
  "**".toList ++ hover.header ++ "**\n\n".toList

/-- The declaration in a code block; an empty one is left out. -/
def declarationPart (hover : Hover) : Text :=
  if hover.declaration = [] then []
  else "```php\n<?php\n".toList ++ hover.declaration ++ "\n```\n\n".toList

/-- The lines of the comment with hard breaks between them; an empty comment is left out. -/
def commentPart (hover : Hover) : Text :=
  if hover.comment = [] then []
  else Text.join "  \n".toList hover.commentLines ++ ['\n']

/-- The content as markdown. -/
def markdown (hover : Hover) : Text :=
  hover.headerPart ++ hover.declarationPart ++ hover.commentPart

end Hover
end ModelNav
