import UiPolicy.Text.Search
import UiPolicy.Text.Width

/-!
# Tables

A table is drawn with a frame around it and a double line under its heading. A cell may hold several
lines; a column is as wide as its widest line, with a blank on both sides.
-/

namespace UiPolicy

/-- A heading and rows, each with one cell for every column. -/
structure Table where
  heading : List String
  rows : List (List String)
deriving Repr, DecidableEq

namespace Table

def cellLines (cell : String) : List String :=
  (Text.splitAt '\n' cell.toList).map String.ofList

/-- The width of the widest line of a cell. -/
def cellWidth (cell : String) : Nat :=
  ((cellLines cell).map Text.displayWidth).foldl max 0

/-- The greater of two widths in each column. -/
def maxWidths : List Nat → List Nat → List Nat
  | a :: as, b :: bs => max a b :: maxWidths as bs
  | [], bs => bs
  | as, [] => as

def widths (t : Table) : List Nat :=
  ((t.heading :: t.rows).map (·.map cellWidth)).foldl maxWidths []

def repeated (n : Nat) (c : Char) : String :=
  String.ofList (List.replicate n c)

/-- A line of a cell, filled up to the width of its column. -/
def pad (width : Nat) (line : String) : String :=
  " " ++ line ++ repeated (width - Text.displayWidth line) ' ' ++ " "

/-- The lines of a row. Cells with fewer lines end in empty ones. -/
def rowLines (widths : List Nat) (row : List String) : List String :=
  let cells := row.map cellLines
  let height := (cells.map List.length).foldl max 0
  (List.range height).map fun i =>
    let parts := List.zipWith (fun width lines => pad width (lines[i]?.getD "")) widths cells
    "│" ++ String.intercalate " " parts ++ "│"

/-- The text of a table, without a line break at its end. -/
def render (t : Table) : String :=
  let widths := t.widths
  let inner := widths.foldl (· + · + 2) (widths.length - 1)
  String.intercalate "\n"
    (["┌" ++ repeated inner '─' ++ "┐"] ++ rowLines widths t.heading ++
      ["╞" ++ repeated inner '═' ++ "╡"] ++ t.rows.flatMap (rowLines widths) ++
      ["└" ++ repeated inner '─' ++ "┘"])

end Table

end UiPolicy
