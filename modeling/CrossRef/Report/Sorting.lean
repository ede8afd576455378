import CrossRef.Text.Case

namespace CrossRef.Report

/-- Sorts by a text; what has equal texts keeps its order. -/
def sortByKey (key : α → String) (items : List α) : List α :=
  ((items.map fun item => (key item, item)).mergeSort fun a b => !decide (b.1 < a.1)).map (·.2)

/-- Sorts by a name in which case does not count. -/
def sortByName (name : α → String) (items : List α) : List α :=
  sortByKey (fun item => Text.upper (name item)) items

end CrossRef.Report
