import CrossRef.Path
import CrossRef.Report.Sorting

namespace CrossRef.Report

/-- The lines of one file that use a symbol. -/
structure UseRow where
  path : String
  lines : List UInt32
  deriving DecidableEq

/-- Adds a line to the row of its path; a new path goes last. -/
def addLine (path : String) (line : UInt32) : List UseRow → List UseRow
  | [] => [⟨path, [line]⟩]
  | row :: rows =>
    if row.path = path then { row with lines := row.lines ++ [line] } :: rows
    else row :: addLine path line rows

/-- The uses of a symbol by file, as seen from the root. The files are sorted by path, the lines
keep their order. -/
def useRows (root : RawText) (uses : List (String × UInt32)) : List UseRow :=
  sortByName (·.path)
    (uses.foldl (fun rows (path, line) => addLine (Path.relative root path) line rows) [])

end CrossRef.Report
