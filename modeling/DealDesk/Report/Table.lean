import DealDesk.Number.Decimal
import DealDesk.Text.Layout

/-!
# Tables of text

A table has a line of titles and a line for each row.  Cells are placed in the
width of their column and stand one blank apart.

**Results.** A cell that fits its column takes exactly the width of the column.
-/

namespace DealDesk
namespace Report

/-- Where a cell stands in its column. -/
inductive Alignment where
  | left
  | right
  /-- At the left, with nothing after it. -/
  | last
deriving DecidableEq

/-- One column of a table. -/
structure Column where
  title : String
  width : Nat
  alignment : Alignment

namespace Column

/-- A cell in its column. -/
def place (c : Column) (cell : String) : String :=
  match c.alignment with
  | .left => Text.padRight c.width cell
  | .right => Text.padLeft c.width cell
  | .last => cell

theorem length_place
    {c : Column} {cell : String} (hc : c.alignment ≠ .last) (h : cell.length ≤ c.width) :
    (c.place cell).length = c.width := by
  unfold place
  split
  · simp [h]
  · simp [h]
  · contradiction

end Column

/-- The cells of one line, each in its column. -/
def line (columns : List Column) (cells : List String) : String :=
  String.intercalate " " (List.zipWith Column.place columns cells)

/-- The line of titles and the line of each row. -/
def table (columns : List Column) (rows : List (List String)) : String :=
  Text.lines (line columns (columns.map Column.title) :: rows.map (line columns))

/-- A level, a size or a distance; a hyphen if there is none. -/
def levelText : Option Decimal → String
  | none => "-"
  | some d => d.text

/-- The longest name of a market that is shown in full. -/
def nameWidth : Nat := 28

end Report
end DealDesk
