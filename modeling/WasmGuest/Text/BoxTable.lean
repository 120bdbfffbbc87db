import WasmGuest.Text.Width

/-!
# Tables in boxes

A table with a title that spans all columns, a row of headings and further rows,
with lines between all of them.  A column is as wide as its widest cell, and a
row as high as its highest: a line feed in a cell begins a new line.
-/

namespace WasmGuest.Text

/-- The lines of a cell. -/
def cellLines (s : String) : List (List Char) :=
  (s.splitOn "\n").map String.toList

/-- The columns that a cell takes. -/
def cellWidth (s : String) : Nat :=
  (cellLines s).foldl (fun w line => max w (width line)) 0

/-- A text with blanks behind it up to a width. -/
def padTo (w : Nat) (s : List Char) : List Char :=
  s ++ List.replicate (w - width s) ' '

/-- The widths of the columns of some rows. -/
def columnWidths (rows : List (List String)) : List Nat :=
  rows.foldl (fun ws row => (row.zipIdx).map fun (s, k) => max (cellWidth s) (ws.getD k 0)) []

/-- The lines of a row whose columns have the given widths. -/
def rowLines (widths : List Nat) (row : List String) : List (List Char) :=
  let cells := row.map cellLines
  let height := cells.foldl (fun h lines => max h lines.length) 1
  (List.range height).map fun k =>
    let parts := (cells.zip widths).map fun (lines, w) =>
      ' ' :: padTo w (lines.getD k []) ++ [' ']
    '│' :: ['│'].intercalate parts ++ ['│']

/-- A horizontal line with the given corner, crossing and corner. -/
def rule (left mid right : Char) (widths : List Nat) : List Char :=
  left :: [mid].intercalate (widths.map fun w => List.replicate (w + 2) '─') ++ [right]

/-- The width between the outer edges of a row, without a blank on either side. -/
def innerWidth (widths : List Nat) : Nat :=
  widths.foldl (· + ·) 0 + 3 * (widths.length - 1)

/-- The last column is widened where the title does not fit. -/
def widenFor (title : String) (widths : List Nat) : List Nat :=
  let missing := cellWidth title - innerWidth widths
  match widths.reverse with
  | [] => []
  | w :: ws => ((w + missing) :: ws).reverse

/-- The lines of a table. -/
def boxTable (title : String) (rows : List (List String)) : List (List Char) :=
  let widths := widenFor title (columnWidths rows)
  let body := rows.flatMap fun row => rule '├' '┼' '┤' widths :: rowLines widths row
  rule '┌' '┬' '┐' widths :: rowLines [innerWidth widths] [title] ++ body ++ [rule '└' '┴' '┘' widths]

/-- A table as text. -/
def boxTableText (title : String) (rows : List (List String)) : String :=
  "\n".intercalate ((boxTable title rows).map String.ofList)

end WasmGuest.Text
