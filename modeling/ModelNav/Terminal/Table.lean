import ModelNav.Rounding
import ModelNav.Terminal.Layout
import ModelNav.Terminal.Markup

/-!
# Tables

A table has a title, headers and rows of marked text.  It is drawn with a heavy frame around the
headers and a light one around the rows.  Every column is as wide as its widest cell; when the table
would not fit on the terminal, the widest columns are narrowed until it does.
-/

namespace ModelNav

/-- The name of a column and where its cells stand. -/
structure Column where
  header : Text
  alignment : Terminal.Alignment := .left
deriving DecidableEq, Repr

/-- A title, columns and rows of marked text. -/
structure Table where
  title : Text
  columns : List Column
  rows : List (List Text)
deriving DecidableEq, Repr

namespace Table

/-- A horizontal line of the frame: its left end, its stroke, its crossings and its right end. -/
structure Rule where
  left : Char
  stroke : Char
  crossing : Char
  right : Char

/-- The line above the headers. -/
def topRule : Rule := ⟨'┏', '━', '┳', '┓'⟩

/-- The line between the headers and the rows. -/
def headRule : Rule := ⟨'┡', '━', '╇', '┩'⟩

/-- The line below the rows. -/
def bottomRule : Rule := ⟨'└', '─', '┴', '┘'⟩

/-- A drawn line of the frame, for columns of the given widths. -/
def Rule.draw (rule : Rule) (widths : List Nat) : Text :=
  rule.left :: Text.join [rule.crossing]
    (widths.map fun cells => List.replicate cells rule.stroke) ++ [rule.right]

/-- A line of a cell with a blank on both sides, as wide as its column. -/
def drawCell (cells : Nat) (line : Option Terminal.Styled) : Text :=
  let pieces := Terminal.adjust cells ((line.map (·.pieces)).getD [])
  (Terminal.adjust (cells + 2) ([' '] :: pieces ++ [[' ']])).flatten

/-- The drawn lines of a row, as many as its highest cell has, with bars between the cells. -/
def drawRow (bar : Char) (columns : List (Column × Nat)) (cells : List Terminal.Styled) :
    Except Failure (List Text) := do
  let laid ← (columns.zip cells).mapM fun ((column, wide), cell) => do
    return (← Terminal.applyStyles (Terminal.layOut column.alignment wide cell), wide)
  let height := (laid.map (·.1.length)).foldl max 0
  return (List.range height).map fun line =>
    bar :: Text.join [bar] (laid.map fun (lines, wide) => drawCell wide lines[line]?) ++ [bar]

/-- The cells of a table by column, as they are shown. -/
def shownColumns (table : Table) : Except Failure (List (List Terminal.Styled)) :=
  table.columns.zipIdx.mapM fun (_, index) =>
    table.rows.mapM fun row => Terminal.showMarkup (row.getD index [])

/-- The blanks on both sides of a cell. -/
def padding : Nat := 2

/-- The width of a column with its padding, as far as the limit admits. -/
def columnWidth (limit : Nat) (column : Column) (cells : List Terminal.Styled) : Nat :=
  let texts := column.header :: cells.map (·.text)
  min limit ((texts.map Terminal.textWidth).foldl max 0 + padding)

/-- The sum of widths. -/
def total (widths : List Nat) : Nat :=
  widths.foldl (· + ·) 0

/-- Takes an excess off the columns of the given width, as evenly as whole cells admit and at most
`most` off each; `count` of these columns are left. -/
def narrow (widest most : Nat) : (excess count : Nat) → List Nat → List Nat
  | _, _, [] => []
  | excess, count, width :: rest =>
    if width = widest then
      let share := min most (roundDiv excess count)
      (width - share) :: narrow widest most (excess - share) (count - 1) rest
    else width :: narrow widest most excess count rest

/-- Narrows the widest columns down to the next widest, again and again, until the columns fit into
a limit.  Every round takes at least one cell away, which bounds the number of rounds. -/
def collapse (limit : Nat) : (rounds : Nat) → List Nat → List Nat
  | 0, widths => widths
  | rounds + 1, widths =>
    let excess := total widths - limit
    if excess = 0 then widths
    else
      let widest := widths.foldl max 0
      let second := (widths.filter (· != widest)).foldl max 0
      let most := min excess (widest - second)
      collapse limit rounds (narrow widest most excess (widths.count widest) widths)

/-- The widths of the columns with their padding; the bars of the frame take the other cells of a
line. -/
def columnWidths (columns : List Column) (shown : List (List Terminal.Styled)) : List Nat :=
  let limit := Terminal.lineWidth - (columns.length + 1)
  let natural := (columns.zip shown).map fun (column, cells) => columnWidth limit column cells
  collapse limit (total natural) natural

/-- The title in the middle above the table. -/
def drawTitle (title : Text) (cells : Nat) : List Text :=
  (Terminal.wrap .fold cells ⟨title, []⟩).map fun line =>
    Terminal.centre cells (Text.trimEnd line.text)

/-- The lines of a drawn table. -/
def draw (table : Table) : Except Failure (List Text) := do
  let shown ← table.shownColumns
  let widths := columnWidths table.columns shown
  let columns := table.columns.zip (widths.map (· - padding))
  let head ← drawRow '┃' columns (table.columns.map fun column => ⟨column.header, []⟩)
  let body ← (List.range table.rows.length).mapM fun index =>
    drawRow '│' columns (shown.map fun cells => cells.getD index ⟨[], []⟩)
  return drawTitle table.title (total widths + widths.length + 1) ++
    [topRule.draw widths] ++ head ++ [headRule.draw widths] ++ body.flatten ++
    [bottomRule.draw widths]

end Table
end ModelNav
