import DeviceConsole.Text.Width

/-! Tables with rounded frames: a header, a rule, and a row of cells for each item. A cell may have
several lines. -/
namespace DeviceConsole.Text.Table

abbrev Cell := List String

def cell (text : String) : Cell := (text.toList.splitOn '\n').map String.ofList

def cellWidth (c : Cell) : Nat := (c.map Text.width).foldl max 0

/-- The width of each column: that of its widest cell. -/
def widths (rows : List (List Cell)) : List Nat :=
  match rows with
  | [] => []
  | header :: rest =>
      rest.foldl (fun ws row => List.zipWith max ws (row.map cellWidth)) (header.map cellWidth)

def fill (c : Char) (n : Nat) : String := String.ofList (List.replicate n c)

/-- A horizontal line; a column is as wide as its cells and a blank on both sides. -/
def rule (left middle right : String) (ws : List Nat) : String :=
  left ++ middle.intercalate (ws.map fun w => fill '─' (w + 2)) ++ right

def padded (width : Nat) (line : String) : String :=
  " " ++ line ++ fill ' ' (width - Text.width line) ++ " "

/-- The lines of a row. A cell with fewer lines than its neighbours ends in empty ones. -/
def rowLines (ws : List Nat) (row : List Cell) : List String :=
  let height := (row.map List.length).foldl max 0
  (List.range height).map fun i =>
    "│" ++ "│".intercalate (List.zipWith (fun w (cell : Cell) => padded w (cell[i]?.getD "")) ws row) ++
      "│"

/-- Without rows, the rule below the header is the last line. -/
def render (header : List String) (rows : List (List String)) : String :=
  let header := header.map cell
  let rows := rows.map fun row => row.map cell
  let ws := widths (header :: rows)
  let top := rule "╭" "┬" "╮" ws :: rowLines ws header ++ [rule "├" "┼" "┤" ws]
  let bottom := if rows.isEmpty then [] else rows.flatMap (rowLines ws) ++ [rule "╰" "┴" "╯" ws]
  "\n".intercalate (top ++ bottom)

end DeviceConsole.Text.Table
