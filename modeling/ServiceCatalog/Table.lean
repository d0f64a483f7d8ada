import ServiceCatalog.Text.Width

/-!
# Tables

A table has a header and rows of cells, drawn with lines of ASCII characters around every cell. A column is as wide as
its widest line, and a cell with several lines makes its row higher.
-/

namespace ServiceCatalog

open Text

/-- A table of texts. Every row has as many cells as the header. -/
structure Table where
  header : List String
  rows : List (List String)
deriving DecidableEq, Repr

namespace Table

/-- The lines of a cell. -/
def cellLines (cell : String) : List (List Char) := cell.toList.splitOn '\n'

/-- The columns that a cell takes. -/
def cellWidth (cell : String) : Nat := ((cellLines cell).map displayWidth).foldl max 0

/-- The greater numbers of two lists, place by place. -/
def widest : List Nat → List Nat → List Nat
  | a :: as, b :: bs => max a b :: widest as bs
  | as, [] => as
  | [], bs => bs

/-- The width of every column, which is at least one. -/
def widths (t : Table) : List Nat :=
  t.rows.foldl (fun ws row => widest ws (row.map cellWidth)) (t.header.map fun cell => max 1 (cellWidth cell))

/-- A line between rows: `left`, a run for every column with `cross` between, and `right`. -/
def rule (left line cross right : Char) (ws : List Nat) : List Char :=
  left :: [cross].intercalate (ws.map fun w => List.replicate (w + 2) line) ++ [right]

/-- A line of a cell with a blank on each side, filled up to the width of its column. -/
def fill (width : Nat) (line : List Char) : List Char :=
  ' ' :: line ++ List.replicate (width - displayWidth line) ' ' ++ [' ']

/-- The lines of a row of cells. -/
def rowLines (ws : List Nat) (row : List String) : List (List Char) :=
  let cells := row.map cellLines
  let height := (cells.map List.length).foldl max 0
  (List.range height).map fun i =>
    let line := (ws.zip cells).map fun (w, cell) => fill w (cell.getD i [])
    '|' :: ['|'].intercalate line ++ ['|']

/-- Groups of lines with a line between every two groups. -/
def separated (separator : List Char) : List (List (List Char)) → List (List Char)
  | [] => []
  | [group] => group
  | group :: rest => group ++ separator :: separated separator rest

/-- The lines of a table. -/
def lines (t : Table) : List (List Char) :=
  let ws := t.widths
  let border := rule '+' '-' '+' '+' ws
  border :: rowLines ws t.header ++ rule '+' '=' '=' '+' ws ::
    separated (rule '|' '-' '+' '|' ws) (t.rows.map (rowLines ws)) ++ [border]

/-- A drawn table, without an end to its last line. -/
def draw (t : Table) : String := String.ofList (['\n'].intercalate t.lines)

end Table

end ServiceCatalog
