import SqlBridge.Text.Width

/-!
# Tables in boxes

Tables drawn with box characters: a rule between all rows, one space on each side of a cell, and each
column as wide as its widest line. A cell may have several lines.
-/

namespace SqlBridge.Table

/-- The lines of a cell. -/
def lines (cell : String) : List String :=
  cell.splitOn "\n"

/-- The largest number of a list, 0 for none. -/
def largest (ns : List Nat) : Nat :=
  ns.foldl max 0

/-- The number of columns that the widest line of a cell takes. -/
def width (cell : String) : Nat :=
  largest ((lines cell).map Text.width)

/-- The widths of the columns. -/
def widths (columns : Nat) (rows : List (List String)) : List Nat :=
  (List.range columns).map fun i => largest (rows.map fun row => width (row.getD i ""))

/-- A line across all columns, from its left end, crossings and right end. -/
def rule (left crossing right : String) (widths : List Nat) : String :=
  left ++ crossing.intercalate (widths.map fun w => String.ofList (List.replicate (w + 2) '─')) ++ right

/-- A text filled up with spaces, and one more on each side. -/
def padded (width : Nat) (text : String) : String :=
  " " ++ text ++ String.ofList (List.replicate (width - Text.width text) ' ') ++ " "

/-- The lines of a row. -/
def rowLines (widths : List Nat) (row : List String) : List String :=
  let cells := row.map lines
  (List.range (largest (cells.map List.length))).map fun i =>
    "│" ++ "│".intercalate ((widths.zip cells).map fun p => padded p.1 (p.2.getD i "")) ++ "│"

/-- The table of a heading and rows below it; nothing without columns. -/
def draw (heading : List String) (rows : List (List String)) : String :=
  if heading.isEmpty then ""
  else
    let all := heading :: rows
    let ws := widths heading.length all
    let blocks := all.map fun row => "\n".intercalate (rowLines ws row)
    "\n".intercalate
      [rule "┌" "┬" "┐" ws,
        ("\n" ++ rule "├" "┼" "┤" ws ++ "\n").intercalate blocks,
        rule "└" "┴" "┘" ws]

end SqlBridge.Table
