import Nullability.Text.Pieces
import Nullability.Text.Width

/-!
Tables drawn with box characters. Every column is as wide as its widest line, one blank stands on either
side of a cell, and a cell of several lines makes its row higher.
-/

namespace Nullability.Report

/-- A table: a header and rows of cells. -/
structure Grid where
  header : List String
  rows : List (List String)

namespace Grid

/-- The width of a cell: that of its widest line. -/
def cellWidth (cell : String) : Nat := ((Text.lines cell).map Text.width).foldl max 0

/-- The widths of the columns. -/
def columnWidths (g : Grid) : List Nat :=
  g.rows.foldl (fun widths row => widths.zipWith max (row.map cellWidth)) (g.header.map cellWidth)

/-- The characters that a horizontal line is made of. -/
structure Rule where
  left : String
  fill : Char
  cross : String
  right : String

def topRule : Rule := ⟨"┌", '─', "┬", "┐"⟩

def headerRule : Rule := ⟨"╞", '═', "╪", "╡"⟩

def rowRule : Rule := ⟨"├", '╌', "┼", "┤"⟩

def bottomRule : Rule := ⟨"└", '─', "┴", "┘"⟩

def Rule.line (r : Rule) (widths : List Nat) : String :=
  r.left ++ r.cross.intercalate (widths.map fun w => String.ofList (List.replicate (w + 2) r.fill)) ++ r.right

/-- A line of a cell, filled up to the width of its column. -/
def padded (width : Nat) (line : String) : String :=
  " " ++ line ++ String.ofList (List.replicate (width - Text.width line) ' ') ++ " "

/-- The lines of a row; a cell with fewer lines than another is blank below them. -/
def rowLines (widths : List Nat) (row : List String) : List String :=
  let cells := row.map Text.lines
  let height := (cells.map List.length).foldl max 0
  (List.range height).map fun i =>
    "│" ++ "┆".intercalate (widths.zipWith (fun w cell => padded w (cell.getD i "")) cells) ++ "│"

/-- The lines of a table. -/
def lines (g : Grid) : List String :=
  let widths := g.columnWidths
  [topRule.line widths] ++ rowLines widths g.header ++ [headerRule.line widths]
    ++ [rowRule.line widths].intercalate (g.rows.map (rowLines widths))
    ++ [bottomRule.line widths]

end Grid

end Nullability.Report
