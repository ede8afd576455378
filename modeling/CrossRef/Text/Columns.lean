import CrossRef.Text.CaseRun
import CrossRef.Text.ColumnRanges

namespace CrossRef.Text

/-- The columns a character takes on a terminal. -/
def columnsOf (c : Char) : Nat :=
  let n := c.toNat
  if n < 0x20 || (0x7f ≤ n && n < 0xa0) then 0
  else if n < 0x7f then 1
  else if inRanges weightlessRanges n then 0
  else if inRanges wideRanges n then 2
  else 1

/-- The columns a single line takes on a terminal. -/
def columns (line : List Char) : Nat :=
  line.foldr (fun c width => columnsOf c + width) 0

end CrossRef.Text
