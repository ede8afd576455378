import CrossRef.Text.Case

namespace CrossRef

/-- What a declaration declares. Functions and procedures are the routines of a package. -/
inductive Kind
  | view
  | package
  | function
  | procedure
  deriving DecidableEq

namespace Kind

def all : List Kind :=
  [.view, .package, .function, .procedure]

def name : Kind → String
  | .view => "view"
  | .package => "package"
  | .function => "function"
  | .procedure => "procedure"

def isRoutine : Kind → Bool
  | .function | .procedure => true
  | .view | .package => false

/-- Reads a kind as a user writes it: in any case, and with the usual short forms. -/
def parse? (text : String) : Option Kind :=
  match Text.lower text with
  | "view" => some .view
  | "package" | "pkg" => some .package
  | "function" | "func" | "fn" => some .function
  | "procedure" | "proc" => some .procedure
  | _ => none

/-- Reads a kind by its exact name. -/
def ofName? (text : String) : Option Kind :=
  all.find? (·.name = text)

theorem mem_all (kind : Kind) : kind ∈ all := by
  cases kind <;> simp [all]

theorem ofName?_name (kind : Kind) : ofName? kind.name = some kind := by
  cases kind <;> decide

end Kind

/-- How a file takes part in the index: sql files declare symbols, native files only use them. -/
inductive Family
  | sql
  | native
  deriving DecidableEq

namespace Family

def all : List Family :=
  [.sql, .native]

def name : Family → String
  | .sql => "sql"
  | .native => "native"

def ofName? (text : String) : Option Family :=
  all.find? (·.name = text)

theorem ofName?_name (kind : Family) : ofName? kind.name = some kind := by
  cases kind <;> decide

end Family

end CrossRef
