namespace CrossRef

/-- How a table came into a document, which decides what may still be added to it. -/
inductive TableOrigin
  /-- Written between braces: complete. -/
  | inline
  /-- Named by a header of its own. -/
  | header
  /-- A parent in the header of another table. -/
  | implied
  /-- Opened by a dotted key. -/
  | dotted
  deriving DecidableEq

/-- A TOML value. -/
inductive Toml
  | str (text : String)
  | int (value : Int)
  | bool (value : Bool)
  /-- A number with a fraction or an exponent, as it is written. -/
  | fraction (written : String)
  /-- A date, a time or both, as it is written. -/
  | moment (written : String)
  /-- Items between brackets, or the tables of repeated headers, to which more can be added. -/
  | arr (growing : Bool) (items : List Toml)
  | table (origin : TableOrigin) (members : List (String × Toml))

namespace Toml

/-- How deep values may be nested, and how long a dotted key may be. -/
def maxNesting : Nat := 79

mutual

/-- How many brackets and braces the innermost value stands in. -/
def nesting : Toml → Nat
  | .arr _ items => itemNesting items + 1
  | .table .inline members => memberNesting members + 1
  | .table _ members => memberNesting members
  | _ => 0

def itemNesting : List Toml → Nat
  | [] => 0
  | item :: items => max item.nesting (itemNesting items)

def memberNesting : List (String × Toml) → Nat
  | [] => 0
  | (_, value) :: members => max value.nesting (memberNesting members)

end

end Toml

end CrossRef
