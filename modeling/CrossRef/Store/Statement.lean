import CrossRef.Store.Tables

namespace CrossRef.Store

/-- A change of the contents that is made as a whole or refused. -/
inductive Statement
  | dropUsages
  | dropDocs
  | dropSymbols
  | dropFiles
  | dropRoot
  | setRoot (root : String)
  | addFile (row : FileRow)
  | addSymbol (row : SymbolRow)
  | addDoc (row : DocRow)
  | addUsage (symbolSeq : Nat) (path : String) (fileId : Int64) (line : UInt32)
  deriving DecidableEq

namespace Statement

/-- Makes the change. The numbers of dropped uses are not given again. -/
def apply (tables : Tables) : Statement → Except StoreError Tables
  | .dropUsages => .ok { tables with usages := [] }
  | .dropDocs => .ok { tables with docs := [] }
  | .dropSymbols => tables.dropSymbols
  | .dropFiles => tables.dropFiles
  | .dropRoot => .ok { tables with root := none }
  | .setRoot root => tables.setRoot root
  | .addFile row => tables.addFile row
  | .addSymbol row => tables.addSymbol row
  | .addDoc row => tables.addDoc row
  | .addUsage symbolSeq path fileId line => tables.addUsage symbolSeq path fileId line

/-- Removes all rows; those that refer to others go first. -/
def clearing : List Statement :=
  [.dropUsages, .dropDocs, .dropSymbols, .dropFiles, .dropRoot]

end Statement

end CrossRef.Store
