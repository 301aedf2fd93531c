import RestorePlugins.Text.DisplayWidth

namespace RestorePlugins

/-!
# Tables

* `Table` — a header and rows of cells; a cell has a line for each of its lines of text.
* `Table.render` — every column as wide as its widest line, between two spaces; missing cells
  are blank.
-/

/-- A header and rows. -/
structure Table where
  header : List String
  rows : List (List String) := []
  deriving DecidableEq, Repr

namespace Table

/-- The lines of a cell. -/
def cellLines (cell : String) : List String := (cell.toList.splitOn '\n').map String.ofList

/-- The columns that a cell needs. -/
def cellWidth (cell : String) : Nat := ((cellLines cell).map displayWidth).foldl max 0

/-- Two lists item by item, where the longer one goes on alone. -/
def zipLongest {α : Type} (f : α → α → α) : List α → List α → List α
  | [], bs => bs
  | as, [] => as
  | a :: as, b :: bs => f a b :: zipLongest f as bs

/-- The header with the rows. -/
def allRows (table : Table) : List (List String) := table.header :: table.rows

/-- The width of each column. -/
def widths (table : Table) : List Nat :=
  (table.allRows.map fun row => row.map cellWidth).foldl (zipLongest max) []

/-- A line with spaces after it up to a width. -/
def pad (width : Nat) (line : String) : String :=
  line ++ String.ofList (List.replicate (width - displayWidth line) ' ')

/-- Row by row, the lines of its cells; each cell has a place for each column. -/
def placed (widths : List Nat) (row : List (List String)) (index : Nat) : List (Nat × String) :=
  widths.zipIdx.map fun (width, column) => (width, ((row[column]?.getD [])[index]?).getD "")

/-- One line of a row. -/
def renderLine (cells : List (Nat × String)) : String :=
  String.join (cells.map fun (width, line) => " " ++ pad width line ++ " ")

/-- The lines of a row: as many as its highest cell has. -/
def renderRow (widths : List Nat) (row : List String) : List String :=
  let cells := row.map cellLines
  let height := (cells.map List.length).foldl max 0
  (List.range height).map fun index => renderLine (placed widths cells index)

/-- The table as a text without a line end at its end. -/
def render (table : Table) : String :=
  "\n".intercalate (table.allRows.flatMap (renderRow table.widths))

end Table

end RestorePlugins
