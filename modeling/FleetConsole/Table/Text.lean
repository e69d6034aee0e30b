import FleetConsole.Table.Basic
import FleetConsole.Text.Blank
import FleetConsole.Text.Truncated

/-!
# Tables as text

A table as plain text has one line for the header and one for each row. Every column is as wide as
its widest cell, counted in characters, and blanks at the end of a line are left out.

Lines need not be of one length, and widths are looked up by the number of the column. A text is
laid out only if every width is found and no cell is wider than its column.
-/

namespace FleetConsole.Table

/-- The cells of all lines, the header first. -/
def lines (t : Table) (now : Instant) : List (List String) :=
  t.header.map (·.name) :: t.rows.map (·.display now)

/-- The width of each column. Lines need not be of one length. -/
def columnWidths : List (List String) → List Nat
  | [] => []
  | line :: rest => widen (line.map String.length) (columnWidths rest)
where
  /-- The greater of two widths in each column. -/
  widen : List Nat → List Nat → List Nat
    | [], ws => ws
    | vs, [] => vs
    | v :: vs, w :: ws => max v w :: widen vs ws

/-- The number of columns: the number of cells in the longest line. -/
def columnCount (lines : List (List String)) : Nat := (lines.map List.length).foldr max 0

/-- Widths raised to the cells of a line that stand from a column on. -/
def raised? (widths : List Nat) (column : Nat) : List String → Option (List Nat)
  | [] => some widths
  | cell :: cells => do
    let width ← widths[column]?
    raised? (widths.set column (max width cell.length)) (column + 1) cells

/-- The widths of all columns, raised line by line. -/
def measured? (lines : List (List String)) : Option (List Nat) :=
  lines.foldlM (raised? · 0 ·) (List.replicate (columnCount lines) 0)

/-- The gap between columns. -/
def columnGap : List Char := [' ', ' ', ' ']

/-- A cell, filled up to a width. -/
def padded? (width : Nat) (cell : String) : Option (List Char) :=
  (Text.room? width cell.length).map fun room => cell.toList ++ List.replicate room ' '

/-- The cells of a line that stand from a column on. -/
def spread? (widths : List Nat) (column : Nat) : List String → Option (List Char)
  | [] => some []
  | cell :: cells => do
    let filled ← padded? (← widths[column]?) cell
    let rest ← spread? widths (column + 1) cells
    return (if column = 0 then [] else columnGap) ++ filled ++ rest

/-- A line of cells. -/
def lineText? (widths : List Nat) (cells : List String) : Option (List Char) :=
  (spread? widths 0 cells).map Text.trimEnd

/-- The table as text, if it can be laid out. -/
def text? (t : Table) (now : Instant) : Option String := do
  let widths ← measured? (t.lines now)
  let texts ← (t.lines now).mapM (lineText? widths)
  return String.ofList (texts.flatMap (· ++ ['\n']))

/-- The table as text. -/
def text (t : Table) (now : Instant) : String := (t.text? now).getD ""

end FleetConsole.Table
