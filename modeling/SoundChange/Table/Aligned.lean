import SoundChange.Table
import SoundChange.Text.Lines
import SoundChange.Text.Width

/-!
The table as aligned text. Cells are padded with blanks to the width of their column, a cell of
several lines makes its row as tall, and rules of hyphens stand above and below the headings and at
the end. The table has as many columns as its longest row; missing cells are blank.
-/
namespace SoundChange.Table

/-- A cell as its lines. -/
abbrev CellLines : Type := List (List Char)

def cellWidth (cell : CellLines) : Nat :=
  (cell.map Text.Width.lineColumns).foldl max 0

/-- The widths of the columns of two blocks of rows, column by column the larger one. -/
def widerOf : List Nat → List Nat → List Nat
  | [], widths => widths
  | widths, [] => widths
  | a :: as, b :: bs => max a b :: widerOf as bs

def columnWidths (rows : List (List CellLines)) : List Nat :=
  (rows.map fun row => row.map cellWidth).foldl widerOf []

/-- A rule across the table. -/
def ruleLine (widths : List Nat) : List Char :=
  '+' :: (List.intercalate ['+'] (widths.map fun width => List.replicate (width + 2) '-') ++
    ['+', '\n'])

/-- One line of a cell, padded to its column. -/
def paddedLine (width : Nat) (line : List Char) : List Char :=
  ' ' :: (line ++ List.replicate (width - Text.Width.lineColumns line + 1) ' ')

/-- The cells of a row, one for each column. -/
def fillRow : List Nat → List CellLines → List (Nat × CellLines)
  | [], _ => []
  | width :: widths, [] => (width, []) :: fillRow widths []
  | width :: widths, cell :: cells => (width, cell) :: fillRow widths cells

/-- Line `index` of a row. -/
def rowLine (cells : List (Nat × CellLines)) (index : Nat) : List Char :=
  let parts := cells.map fun (width, cell) => paddedLine width (cell[index]?.getD [])
  '|' :: (List.intercalate ['|'] parts ++ ['|', '\n'])

def rowHeight (row : List CellLines) : Nat :=
  max 1 ((row.map List.length).foldl max 0)

def rowLines (widths : List Nat) (row : List CellLines) : List Char :=
  let cells := fillRow widths row
  (List.range (rowHeight row)).flatMap (rowLine cells)

/-- The headings and rows of a table, cell by cell as lines. -/
def headingCells (table : Table) : List CellLines :=
  table.headings.map fun heading => Text.lines heading.toList

def bodyCells (table : Table) : List (List CellLines) :=
  table.rows.map fun row => row.map fun cell => Text.lines cell.plain.toList

/-- `to_text`: the table as aligned text. -/
def aligned (table : Table) : String :=
  let widths := columnWidths (table.headingCells :: table.bodyCells)
  String.ofList
    (ruleLine widths ++ rowLines widths table.headingCells ++ ruleLine widths ++
      table.bodyCells.flatMap (rowLines widths) ++ ruleLine widths)

/-- The aligned table piece by piece, as it is printed: rules, the headings, and one row after the
other. -/
def alignedPieces (table : Table) : List String :=
  let widths := columnWidths (table.headingCells :: table.bodyCells)
  let rule := String.ofList (ruleLine widths)
  [rule, String.ofList (rowLines widths table.headingCells), rule] ++
    table.bodyCells.map (fun row => String.ofList (rowLines widths row)) ++ [rule]

end SoundChange.Table
