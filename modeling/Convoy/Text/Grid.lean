import Convoy.Text.Columns

/-!
# Text grids

A table drawn with `+`, `-` and `|`: a rule above and below every row, one blank on either side of
a cell, cells flush left, a cell of several lines making its row as tall.
-/
namespace Convoy.Text

/-- A table: the heading row and the rows below it, all of one length. -/
structure Grid where
  heading : List String
  rows : List (List String)
deriving Repr, DecidableEq

namespace Grid

/-- The lines of a cell; an empty cell has one empty line. -/
def cellLines (cell : String) : List String :=
  (cell.splitOn "\n")

def cellColumns (cell : String) : Nat :=
  (cellLines cell).foldl (fun widest line => max widest (columns line)) 0

def widths (grid : Grid) : List Nat :=
  grid.rows.foldl (fun known row => List.zipWith max known (row.map cellColumns))
    (grid.heading.map cellColumns)

def rule (widths : List Nat) : String :=
  widths.foldl
    (fun drawn width => drawn ++ String.ofList (List.replicate (width + 2) '-') ++ "+") "+"

/-- One line of a row: a cell shorter than the row is filled up with blanks. -/
def rowLine (widths : List Nat) (row : List String) (line : Nat) : String :=
  (widths.zip row).foldl
    (fun drawn (width, cell) =>
      let text := (cellLines cell)[line]?.getD ""
      drawn ++ " " ++ text ++ String.ofList (List.replicate (width - columns text) ' ') ++ " |") "|"

/-- The lines of a row, as many as its tallest cell has. -/
def rowLines (widths : List Nat) (row : List String) : List String :=
  let height := row.foldl (fun tallest cell => max tallest (cellLines cell).length) 1
  (List.range height).map (rowLine widths row)

/-- The drawn table, without a final line break. -/
def render (grid : Grid) : String :=
  let widths := grid.widths
  let bar := rule widths
  let lines := (grid.heading :: grid.rows).flatMap fun row => rowLines widths row ++ [bar]
  String.intercalate "\n" (bar :: lines)

end Grid
end Convoy.Text
