import ClassAtlas.Terminal.Markup
import ClassAtlas.Text.Lines

/-!
Tables and panels drawn with box characters.

Cells hold markup. A column is as wide as its widest line, with one blank on either side. A table that
would be wider than the terminal takes cells away from its widest columns first, and lines that do not
fit their column are broken.
-/

namespace ClassAtlas

/-- A column of a table. -/
structure Column where
  header : String
  alignRight : Bool := false

/-- A table. Every row has a cell for every column. -/
structure Table where
  title : String
  columns : List Column
  rows : List (List String)

namespace Table

/-- A line cut to a width and filled up with blanks. Blanks at its end do not count when it goes to the
right. -/
def padded (alignRight : Bool) (width : Nat) (line : List Char) : String :=
  let line := if alignRight then Text.withoutEndBlanks line else line
  let line := Text.truncated width .ellipsis line
  let blanks := List.replicate (width - Text.cells line) ' '
  String.ofList (if alignRight then blanks ++ line else line ++ blanks)

/-- A line with blanks on both sides, of which the left has the smaller half. -/
def centred (width : Nat) (line : String) : String :=
  let line := Text.trimEnd line
  let blanks := width - Text.width line
  Text.repeated (blanks / 2) ' ' ++ line ++ Text.repeated (blanks - blanks / 2) ' '

/-- The larger one of all numbers. -/
def largest (numbers : List Nat) : Nat := numbers.foldl max 0

/-- All numbers together. -/
def total (numbers : List Nat) : Nat := numbers.foldl (· + ·) 0

/-- Blanks on both sides of a cell. -/
def padding : Nat := 2

/-- The width that a text asks for: that of its widest line. -/
def contentWidth (text : String) : Nat := largest ((Text.lines text).map Text.width)

/-- The width of a column with its padding, given the width that its content asks for and the largest
width it may have. -/
def columnWidth (most content : Nat) : Nat :=
  if most ≤ padding then most else min (content + padding) most

/-- The nearest whole number to a quotient; of two that are equally near, the even one. -/
def nearestQuotient (dividend divisor : Nat) : Nat :=
  let quotient := dividend / divisor
  let twice := 2 * (dividend % divisor)
  if divisor < twice || (divisor == twice && quotient % 2 == 1) then quotient + 1 else quotient

/-- Takes an excess away from the widest columns, as evenly as whole numbers allow and at most a limit
from each. `count` is how many of the widest columns are left. -/
def reduceWidest (widest limit : Nat) : Nat → Nat → List Nat → List Nat
  | _, _, [] => []
  | count, excess, width :: rest =>
    if width == widest then
      let taken := min limit (nearestQuotient excess count)
      (width - taken) :: reduceWidest widest limit (count - 1) (excess - taken) rest
    else width :: reduceWidest widest limit count excess rest

/-- Takes cells away from the widest columns until all columns together fit a width. The first number
bounds the steps: every step makes two columns equal or reaches the width. -/
def collapse (most : Nat) : Nat → List Nat → List Nat
  | 0, widths => widths
  | steps + 1, widths =>
    let excess := total widths - most
    if excess == 0 then widths
    else
      let widest := largest widths
      let second := largest (widths.filter (· != widest))
      let count := (widths.filter (· == widest)).length
      collapse most steps
        (reduceWidest widest (min excess (widest - second)) count excess widths)

/-- The widths of columns with their padding, given the widths that their contents ask for and the
width of all columns together. -/
def columnWidths (most : Nat) (contents : List Nat) : List Nat :=
  let widths := contents.map fun content => max 1 (columnWidth most content)
  if total widths ≤ most then widths
  else
    let collapsed := collapse most (total widths + 1) widths
    (collapsed.zip contents).map fun (width, content) => columnWidth width content

/-- The widths that the contents of columns ask for, given the texts of all rows. -/
def contentWidths (columns : List Column) (rows : List (List String)) : List Nat :=
  columns.zipIdx.map fun (_, index) =>
    largest (rows.map fun row => contentWidth (row.getD index ""))

/-- The lines of a cell with a width, without its padding. -/
def cellLines (column : Column) (width : Nat) (text : String) : List String :=
  (Markup.linesOf text).flatMap fun line =>
    (Text.broken width .ellipsis line.toList).map (padded column.alignRight width)

/-- A horizontal border: a line for each column between corners and joints. -/
def border (widths : List Nat) (left joint right : String) (fill : Char) : String :=
  left ++ Text.join joint (widths.map fun width => Text.repeated width fill) ++ right

/-- A cell filled up with blank lines to a height, below its lines or above them. -/
def filledUp (atBottom : Bool) (height width : Nat) (lines : List String) : List String :=
  let blank := List.replicate (height - lines.length) (Text.repeated width ' ')
  if atBottom then blank ++ lines else lines ++ blank

/-- The lines of one row, with a bar at both ends and between cells. The cells stand at the top of the
row or at its bottom. -/
def rowLines (columns : List Column) (widths : List Nat) (bar : String) (atBottom : Bool)
    (texts : List String) : List String :=
  let cells := ((columns.zip widths).zip texts).map fun ((column, width), text) =>
    (width - padding, cellLines column (width - padding) text)
  let height := largest (cells.map fun (_, lines) => lines.length)
  let cells := cells.map fun (width, lines) => filledUp atBottom height width lines
  (List.range height).map fun index =>
    bar ++ Text.join bar (cells.map fun lines => " " ++ lines.getD index "" ++ " ") ++ bar

/-- The lines of a table of plain texts. -/
def draw (width : Nat) (title : String) (columns : List Column) (header : List String)
    (rows : List (List String)) : List String :=
  let widths := columnWidths (width - (columns.length + 1)) (contentWidths columns (header :: rows))
  let top := border widths "┏" "┳" "┓" '━'
  let divider := border widths "┡" "╇" "┩" '━'
  let bottom := border widths "└" "┴" "┘" '─'
  let title := (Markup.linesOf title).flatMap (Text.folded (Text.width top))
  title.map (centred (Text.width top)) ++ [top] ++ rowLines columns widths "┃" true header ++
    [divider] ++ rows.flatMap (rowLines columns widths "│" false) ++ [bottom]

/-- The lines of a table on a terminal with a width. -/
def lines (width : Nat) (table : Table) : Except Fault (List String) := do
  let title ← Markup.plain table.title
  let header ← table.columns.mapM fun column => Markup.plain column.header
  let rows ← table.rows.mapM fun row => row.mapM Markup.plain
  return draw width title table.columns header rows

end Table

/-- The lines of a panel as wide as the terminal, with a title in its upper border. -/
def Panel.lines (width : Nat) (title content : String) : Except Fault (List String) := do
  let caption := " " ++ title ++ " "
  let fill := width - 4 - Text.width caption
  let top := "╭─" ++ Text.repeated (fill / 2) '─' ++ caption ++
    Text.repeated (fill - fill / 2) '─' ++ "─╮"
  let body := (← Markup.shownLines (width - 4) content).map fun line =>
    "│ " ++ Table.padded false (width - 4) line.toList ++ " │"
  return [top] ++ body ++ ["╰" ++ Text.repeated (width - 2) '─' ++ "╯"]

end ClassAtlas
