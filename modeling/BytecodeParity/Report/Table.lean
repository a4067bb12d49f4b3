import BytecodeParity.Report.Style
import BytecodeParity.Text.Width
/-!
# Tables

Rows of cells between rules. A cell may hold several lines, and a row is as high as its highest
cell. Each column is as wide as its widest line, counted in columns of the terminal; of a style,
one column is counted for each of its two codes.
-/

namespace BytecodeParity.Table

/-- Where in a code that switches styles a character stands. -/
inductive EscapeState where
  | outside
  | escape
  | inside
  deriving DecidableEq, Repr

/-- The columns that a character takes within a code: a control takes none there. -/
def codeWidth (c : Char) : Nat := if Text.isControl c then 0 else Text.charWidth c

/-- How many columns of a line belong to codes that switch styles, the escape characters themselves
left out. -/
def hiddenFrom : EscapeState → Text → Nat
  | _, [] => 0
  | .outside, c :: t => hiddenFrom (if c = '\x1b' then .escape else .outside) t
  | .escape, c :: t => if c = '[' then hiddenFrom .inside t + 1 else hiddenFrom .outside t
  | .inside, c :: t => hiddenFrom (if c = 'm' then .outside else .inside) t + codeWidth c

/-- The width of a line in columns. -/
def lineWidth (t : Text) : Nat := Text.width t - hiddenFrom .outside t

/-- The lines of a cell. -/
def cellLines (cell : String) : List Text := Text.lines cell.toList

/-- The width of a cell in columns. -/
def cellWidth (cell : String) : Nat := ((cellLines cell).map lineWidth).foldl max 0

/-- The widths of the columns. -/
def columnWidths (rows : List (List String)) : List Nat :=
  let columns := (rows.map List.length).foldl max 0
  (List.range columns).map fun i =>
    (rows.map fun row => ((row[i]?).map cellWidth).getD 0).foldl max 0

/-- The rule above, below and between rows. -/
def rule (widths : List Nat) : String :=
  "+" ++ String.join (widths.map fun w => String.ofList (List.replicate (w + 2) '-') ++ "+")

/-- A line of a cell, filled up to the width of its column. -/
def padded (width : Nat) (line : Text) : String :=
  " " ++ String.ofList (line ++ List.replicate (width - lineWidth line) ' ') ++ " |"

/-- The lines of a row. -/
def rowLines (widths : List Nat) (row : List String) : List String :=
  let cells := row.map cellLines
  let height := (cells.map List.length).foldl max 1
  (List.range height).map fun i =>
    "|" ++ String.join ((widths.zip cells).map fun e => padded e.1 ((e.2[i]?).getD []))

/-- The table, line by line. -/
def lines (rows : List (List String)) : List String :=
  let widths := columnWidths rows
  rule widths :: rows.flatMap fun row => rowLines widths row ++ [rule widths]

end BytecodeParity.Table
