import CrossRef.Error

namespace CrossRef.Store

/-- A file. Its number is stored with a sign. -/
structure FileRow where
  id : Int64
  seq : Nat
  path : String
  kind : String
  deriving DecidableEq

/-- A declaration, by its place in the catalog's order from one on. -/
structure SymbolRow where
  seq : Nat
  id : Int64
  kind : String
  name : String
  fileId : Int64
  line : UInt32
  packageSeq : Option Nat
  deriving DecidableEq

/-- The documentation of a declaration. -/
structure DocRow where
  symbolSeq : Nat
  line : UInt32
  name : String
  kind : Option String
  description : String
  /-- The parameters as JSON text. -/
  params : String
  deriving DecidableEq

/-- A use of a symbol. -/
structure SiteRow where
  seq : Nat
  symbolSeq : Nat
  path : String
  fileId : Int64
  line : UInt32
  deriving DecidableEq

/-- The contents of a store, each table in the order of its rows' insertion. -/
structure Tables where
  root : Option String
  files : List FileRow
  symbols : List SymbolRow
  docs : List DocRow
  usages : List SiteRow
  /-- The last number given to a use; no number is given twice. -/
  lastUsage : Nat
  deriving DecidableEq

namespace Tables

def empty : Tables :=
  ⟨none, [], [], [], [], 0⟩

def hasFile (tables : Tables) (id : Int64) : Bool :=
  tables.files.any (·.id = id)

def hasSymbol (tables : Tables) (seq : Nat) : Bool :=
  tables.symbols.any (·.seq = seq)

/-- Removes all declarations, unless documentation or a use refers to one. -/
def dropSymbols (tables : Tables) : Except StoreError Tables :=
  if tables.docs.any (tables.hasSymbol ·.symbolSeq) ||
      tables.usages.any (tables.hasSymbol ·.symbolSeq) then
    .error .missingReference
  else .ok { tables with symbols := [] }

/-- Removes all files, unless a declaration refers to one. -/
def dropFiles (tables : Tables) : Except StoreError Tables :=
  if tables.symbols.any (tables.hasFile ·.fileId) then .error .missingReference
  else .ok { tables with files := [] }

def setRoot (tables : Tables) (root : String) : Except StoreError Tables :=
  if tables.root.isSome then .error (.notUnique "meta.key")
  else .ok { tables with root := some root }

/-- Adds a file whose number is not taken. -/
def addFile (tables : Tables) (row : FileRow) : Except StoreError Tables :=
  if tables.hasFile row.id then .error (.notUnique "files.id")
  else .ok { tables with files := tables.files ++ [row] }

/-- Adds a declaration whose place is not taken and whose file and package are there. -/
def addSymbol (tables : Tables) (row : SymbolRow) : Except StoreError Tables :=
  if tables.hasSymbol row.seq then .error (.notUnique "symbols.seq")
  else if tables.hasFile row.fileId && row.packageSeq.all tables.hasSymbol then
    .ok { tables with symbols := tables.symbols ++ [row] }
  else .error .missingReference

/-- Adds the documentation of a declaration that is there and has none. -/
def addDoc (tables : Tables) (row : DocRow) : Except StoreError Tables :=
  if tables.docs.any (·.symbolSeq = row.symbolSeq) then .error (.notUnique "docs.symbol_seq")
  else if tables.hasSymbol row.symbolSeq then .ok { tables with docs := tables.docs ++ [row] }
  else .error .missingReference

/-- Adds a use of a symbol under the next number. -/
def addUsage (tables : Tables) (symbolSeq : Nat) (path : String) (fileId : Int64)
    (line : UInt32) : Except StoreError Tables :=
  if tables.hasSymbol symbolSeq then
    let seq := tables.lastUsage + 1
    .ok { tables with usages := tables.usages ++ [⟨seq, symbolSeq, path, fileId, line⟩]
                      lastUsage := seq }
  else .error .missingReference

/-- Overwrites the kind of a symbol with any text, and tells how many rows that changed. -/
def setKind (tables : Tables) (seq : Int) (kind : String) : Tables × Nat :=
  ({ tables with
      symbols := tables.symbols.map fun row => if (row.seq : Int) = seq then { row with kind } else row },
    tables.symbols.countP fun row => (row.seq : Int) = seq)

end Tables

end CrossRef.Store
