import BulkIngest.Text.Width

/-!
Tables for a terminal. Every cell has a space on both sides, a column is as wide as its widest line,
and a cell of several lines makes its row as high.
-/

namespace BulkIngest.Text

inductive Alignment
  | left
  | right
deriving DecidableEq

structure Cell where
  lines : List String
  alignment : Alignment
deriving DecidableEq

def Cell.left (text : String) : Cell := ⟨text.splitOn "\n", .left⟩

def Cell.right (text : String) : Cell := ⟨text.splitOn "\n", .right⟩

def repeated (c : Char) (n : Nat) : String := String.ofList (List.replicate n c)

def Alignment.pad (alignment : Alignment) (columns : Nat) (text : String) : String :=
  let blanks := repeated ' ' (columns - width text)
  match alignment with
  | .left => text ++ blanks
  | .right => blanks ++ text

namespace Cell

def width (cell : Cell) : Nat := (cell.lines.map Text.width).foldl max 0

/-- Line `i` of the cell in a column of the given width. -/
def line (cell : Cell) (columns i : Nat) : String :=
  " " ++ cell.alignment.pad columns (cell.lines.getD i "") ++ " "

end Cell

abbrev Row := List Cell

namespace Table

/-- The widths of the columns. -/
def widths (rows : List Row) : List Nat :=
  rows.foldl (fun widths row =>
    let own := row.map Cell.width
    (List.range (max widths.length own.length)).map fun i => max (widths.getD i 0) (own.getD i 0))
    []

/-- The lines of one row. -/
def rowLines (between : String) (widths : List Nat) (row : Row) : List String :=
  let height := (row.map fun cell => cell.lines.length).foldl max 0
  (List.range height).map fun i =>
    between.intercalate ((row.zip widths).map fun (cell, columns) => cell.line columns i)

/-- A table without any lines between its cells. -/
def plain (rows : List Row) : List String :=
  (rows.map (rowLines "" (widths rows))).flatten

/-- A table in a frame, with a double line under its first row. -/
def framed (header : Row) (rows : List Row) : List String :=
  let widths := widths (header :: rows)
  let inner := widths.foldr (fun width inner => width + 2 + inner) (widths.length - 1)
  let edge (first : String) (c : Char) (last : String) : String := first ++ repeated c inner ++ last
  let side (line : String) : String := "│" ++ line ++ "│"
  let body := (rows.map (rowLines " " widths)).flatten
  [edge "┌" '─' "┐"] ++ (rowLines " " widths header).map side ++ [edge "╞" '═' "╡"] ++
    body.map side ++ [edge "└" '─' "┘"]

end Table

end BulkIngest.Text
