import ModelHub.Text.Blank

/-!
# Tables

A table has columns with a title and an alignment. Columns stand two spaces apart, each as wide as
its widest cell and, if the header is shown, its title; widths count characters. A cell at the end
of a line is not padded on its right, so lines of filled cells split cleanly at white space.
-/

namespace ModelHub

/-- The side on which the cells of a column stand. -/
inductive Align where
  | left
  | right
  deriving DecidableEq, Repr

/-- A column of a table. -/
structure Column where
  title : String
  align : Align
  deriving DecidableEq, Repr

/-- A table, with or without its header. -/
structure Table where
  columns : List Column
  rows : List (List String)
  showHeader : Bool
  deriving DecidableEq, Repr

namespace Table

/-- A title holds no white space. -/
def validTitle (title : String) : Bool := title.toList.all fun character => !Text.isBlank character

/-- A table is well formed when its titles are valid and every row has a cell for every column. -/
def isWellFormed (table : Table) : Bool :=
  table.columns.all (fun column => validTitle column.title) &&
    table.rows.all fun row => row.length = table.columns.length

def header (table : Table) : List String := table.columns.map (·.title)

def printedRows (table : Table) : List (List String) :=
  if table.showHeader then table.header :: table.rows else table.rows

/-- The cell of a row in a column; a missing one is empty. -/
def cellAt (row : List String) (column : Nat) : String := row.getD column ""

def columnWidth (rows : List (List String)) (column : Nat) : Nat :=
  (rows.map fun row => (cellAt row column).length).foldl max 0

def widths (table : Table) : List Nat :=
  (List.range table.columns.length).map (columnWidth table.printedRows)

/-- Spaces that fill a cell up to a width. -/
def filler (width : Nat) (cell : String) : String :=
  String.ofList (List.replicate (width - cell.length) ' ')

/-- A cell in its column; on the left side of the last column nothing follows it. -/
def pad (align : Align) (width : Nat) (last : Bool) (cell : String) : String :=
  match align with
  | .right => filler width cell ++ cell
  | .left => if last then cell else cell ++ filler width cell

def joinCells : List Column → List Nat → List String → String
  | [column], width :: _, cell :: _ => pad column.align width true cell
  | column :: columns, width :: widths, cell :: cells =>
    pad column.align width false cell ++ "  " ++ joinCells columns widths cells
  | _, _, _ => ""

def renderRow (columns : List Column) (widths : List Nat) (row : List String) : String :=
  joinCells columns widths row ++ "\n"

def render (table : Table) : String :=
  String.join (table.printedRows.map (renderRow table.columns table.widths))

end Table

end ModelHub
