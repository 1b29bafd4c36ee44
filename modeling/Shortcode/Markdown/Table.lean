import Shortcode.Markdown.Line
import Shortcode.Markdown.Node

/-!
# Tables

A table is a head, a row of dashes under it, which may tell where the words of a column stand, and
further rows.  The rows stand between bars, or all of them hold bars without starting with one.
Every row has as many cells as the head.
-/

namespace Shortcode.Markdown

/-- The line between bars. -/
def barred? (line : Line) : Option Line :=
  (indented? 3 line).bind fun line =>
    match withoutGap line with
    | '|' :: rest => if rest.getLast? == some '|' then some rest.dropLast else none
    | _ => none

/-- The cells of a row: a backslash keeps a bar from ending a cell. -/
def cellsFrom : (cell : List Char) → (row : List Char) → List (List Char)
  | cell, [] => [Text.trim cell.reverse]
  | cell, '\\' :: '|' :: rest => cellsFrom ('|' :: cell) rest
  | cell, char :: rest =>
    if char == '|' then Text.trim cell.reverse :: cellsFrom [] rest
    else cellsFrom (char :: cell) rest

/-- The cells of a row. -/
def cells (row : List Char) : List (List Char) := cellsFrom [] (Text.trim row)

/-- Where the words of a column stand, from the cell under the head. -/
def alignment (cell : List Char) : Option Alignment :=
  if !cell.contains '-' then none
  else match cell.head? == some ':', cell.getLast? == some ':' with
    | true, true => some .center
    | true, false => some .left
    | false, true => some .right
    | false, false => none

/-- The cell may stand under the head of a table: dashes, perhaps with a colon on either side. -/
def isDelimiter (cell : List Char) : Bool :=
  let body := if cell.head? == some ':' then cell.drop 1 else cell
  let body := if body.getLast? == some ':' then body.dropLast else body
  body.all (· == '-')

/-- The row may stand under the head of a table. -/
def isDelimiterRow (row : List Char) : Bool :=
  row.all ("-:| ".toList.contains ·) && (cells row).all isDelimiter

/-- The table with a head, whose rows each have as many cells. -/
def table? (head delimiters : List Char) (rows : List (List Char)) : Option Block :=
  let columns := (cells delimiters).map alignment
  let rows := rows.map cells
  if (cells head).length == columns.length && rows.all (·.length == columns.length) then
    some (.table columns (cells head) rows)
  else none

/-- What may be a table: its head, the row under it, the rows behind, and the lines behind it. -/
structure TableLines where
  head : List Char
  delimiters : List Char
  rows : List (List Char)
  rest : List Line

/-- The table of the lines. -/
def TableLines.table? (lines : TableLines) : Option Block :=
  if lines.rows.any List.isEmpty then none
  else Markdown.table? lines.head lines.delimiters lines.rows

/-- What may be a table between bars. -/
def barredTable? (head delimiters : Line) (rest : List Line) : Option TableLines := do
  let head ← (barred? head).filter (!·.isEmpty)
  let delimiters ← (barred? delimiters).filter isDelimiterRow
  let rows := (rest.takeWhile fun line => (barred? line).isSome).filterMap barred?
  return ⟨head, delimiters, rows, (rest.drop rows.length).dropWhile List.isEmpty⟩

/-- What may be a table without bars around it. -/
def openTable? (head delimiters : Line) (rest : List Line) : Option TableLines := do
  let head ← (indented? 3 head).filter fun head => (head.drop 1).contains '|'
  let delimiters ← (indented? 3 delimiters).filter fun row =>
    row.contains '|' && row.head?.any ("-:".toList.contains ·) && isDelimiterRow row
  let rows := rest.takeWhile (·.contains '|')
  return ⟨head, delimiters, rows, (rest.drop rows.length).dropWhile List.isEmpty⟩

/-- What may be a table that starts here. -/
def tableLines? (lines : List Line) : Option TableLines :=
  match lines with
  | head :: delimiters :: rest =>
    (barredTable? head delimiters rest).or (openTable? head delimiters rest)
  | _ => none

end Shortcode.Markdown
