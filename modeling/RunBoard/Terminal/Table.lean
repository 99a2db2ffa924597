import RunBoard.Text.Width

/-!
# Tables

A table drawn with box lines. A column is as wide as its widest line; a cell may have
several lines.
-/

namespace RunBoard.Terminal

structure Table where
  header : List String
  rows : List (List String)
  deriving DecidableEq, Repr

namespace Table

/-- The characters of a horizontal rule. -/
structure Rule where
  left : Char
  line : Char
  crossing : Char
  right : Char

def top : Rule := ⟨'┌', '─', '┬', '┐'⟩

def headerRule : Rule := ⟨'╞', '═', '╪', '╡'⟩

def rowRule : Rule := ⟨'├', '╌', '┼', '┤'⟩

def bottom : Rule := ⟨'└', '─', '┴', '┘'⟩

def Rule.text (rule : Rule) (widths : List Nat) : String :=
  let segments := widths.map fun width => List.replicate (width + 2) rule.line
  String.ofList (rule.left :: ([rule.crossing].intercalate segments ++ [rule.right]))

/-- The lines of a cell. -/
def cellLines (cell : String) : List String := (cell.toList.splitOn '\n').map String.ofList

def cellWidth (cell : String) : Nat := ((cellLines cell).map Text.Width.ofText).foldl max 0

/-- The widths of columns that have room for these rows. -/
def widths : List (List String) → List Nat
  | [] => []
  | [row] => row.map cellWidth
  | row :: rest => (row.zip (widths rest)).map fun (cell, width) => max (cellWidth cell) width

/-- A line of a cell with one blank before it and the column filled up behind it. -/
def padded (width : Nat) (line : String) : String :=
  " " ++ line ++ "".pushn ' ' (width - Text.Width.ofText line + 1)

/-- Line number `index` of a row. -/
def rowLine (widths : List Nat) (row : List String) (index : Nat) : String :=
  let cells := (row.zip widths).map fun (cell, width) =>
    padded width (((cellLines cell)[index]?).getD "")
  "│" ++ "┆".intercalate cells ++ "│"

/-- All lines of a row. -/
def rowLines (widths : List Nat) (row : List String) : List String :=
  let height := (row.map fun cell => (cellLines cell).length).foldl max 1
  (List.range height).map (rowLine widths row)

/-- The rows with rules between them. -/
def bodyLines (widths : List Nat) : List (List String) → List String
  | [] => []
  | [row] => rowLines widths row
  | row :: rest => rowLines widths row ++ rowRule.text widths :: bodyLines widths rest

def lines (table : Table) : List String :=
  let columns := widths (table.header :: table.rows)
  [top.text columns] ++ rowLines columns table.header ++ [headerRule.text columns] ++
    bodyLines columns table.rows ++ [bottom.text columns]

def text (table : Table) : String := "\n".intercalate table.lines

end Table

end RunBoard.Terminal
