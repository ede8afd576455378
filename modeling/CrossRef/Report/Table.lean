import CrossRef.Report.Listing
import CrossRef.Text.Columns

namespace CrossRef.Report

/-- The lines of a cell. A line feed at its end adds an empty one. -/
def cellLines (cell : String) : List (List Char) :=
  cell.toList.splitOn '\n'

/-- The columns of the widest line of a cell. -/
def cellWidth (cell : String) : Nat :=
  ((cellLines cell).map Text.columns).foldl max 0

/-- The width of every column of a table. -/
def widths (rows : List (List String)) : List Nat :=
  rows.foldl (fun acc row => row.mapIdx fun i cell => max (acc[i]?.getD 0) (cellWidth cell)) []

/-- The characters that part the cells of a table: the lines over the header, under it and at the
end, each with its left end, filling, crossing and right end, and the bars between cells. -/
structure TableStyle where
  top : Option (String × String × String × String)
  middle : String × String × String × String
  bottom : Option (String × String × String × String)
  leftBar : String
  bar : String
  rightBar : String

namespace TableStyle

/-- A box with round corners. -/
def rounded : TableStyle :=
  { top := some ("╭", "─", "┬", "╮")
    middle := ("├", "─", "┼", "┤")
    bottom := some ("╰", "─", "┴", "╯")
    leftBar := "│", bar := "│", rightBar := "│" }

/-- Bars between the columns and a line under the header only. -/
def plain : TableStyle :=
  { top := none
    middle := ("", "-", "+", "")
    bottom := none
    leftBar := "", bar := "|", rightBar := "" }

def rule (parts : String × String × String × String) (widths : List Nat) : String :=
  let (left, filling, crossing, right) := parts
  left ++ crossing.intercalate (widths.map fun w => String.join (List.replicate (w + 2) filling)) ++
    right

/-- A line of a cell with a blank on both sides, filled up to its width. -/
def padded (width : Nat) (line : List Char) : String :=
  String.ofList (' ' :: (line ++ List.replicate (width - Text.columns line) ' ' ++ [' ']))

/-- The lines of a row, which is as high as its highest cell. -/
def rowLines (style : TableStyle) (widths : List Nat) (row : List String) : List String :=
  let cells := row.map cellLines
  let height := (cells.map List.length).foldl max 0
  (List.range height).map fun i =>
    style.leftBar ++
      style.bar.intercalate ((cells.zip widths).map fun (lines, w) => padded w (lines[i]?.getD [])) ++
      style.rightBar

/-- A table without a line feed at its end; nothing if it has no rows. -/
def render (style : TableStyle) (header : List String) (rows : List (List String)) : String :=
  if rows.isEmpty then ""
  else
    let widths := widths (header :: rows)
    let optionalRule (parts : Option (String × String × String × String)) :=
      (parts.map fun p => rule p widths).toList
    "\n".intercalate
      (optionalRule style.top ++ style.rowLines widths header ++ [rule style.middle widths] ++
        rows.flatMap (style.rowLines widths) ++ optionalRule style.bottom)

end TableStyle

/-- A table of figures. -/
def figureTable (figures : List (String × String)) : String :=
  TableStyle.rounded.render ["Metric", "Value"] (figures.map fun (label, value) => [label, value])

/-- A listing as a table. -/
def pageTable (rows : List PageRow) : String :=
  TableStyle.plain.render ["Name", "Location", "Description", "Used"]
    (rows.map fun row => [row.name, row.location, row.description, row.used])

end CrossRef.Report
