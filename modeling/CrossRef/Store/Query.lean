import CrossRef.Catalog.Basic
import CrossRef.Store.Tables
import CrossRef.Text.Lines

namespace CrossRef.Store

/-- A declaration as it is read from the store. -/
structure SymbolRecord where
  seq : Nat
  id : Identifier
  kind : Kind
  name : String
  path : String
  line : UInt32
  package : Option String
  description : Option String
  deriving DecidableEq

/-- The name with its package in front, if it has one. -/
def SymbolRecord.qualifiedName (symbol : SymbolRecord) : String :=
  match symbol.package with
  | some package => package ++ "." ++ symbol.name
  | none => symbol.name

/-- A use as it is read from the store. -/
structure UseRecord where
  path : String
  fileId : Identifier
  line : UInt32
  deriving DecidableEq

structure StoreCounts where
  files : Nat
  symbols : Nat
  usedSymbols : Nat
  documented : Nat
  usages : Nat
  deriving DecidableEq

def StoreCounts.render (counts : StoreCounts) : String :=
  Text.unlines
    ["Database Statistics:",
      s!"  Files: {counts.files}",
      s!"  Symbols: {counts.symbols}",
      s!"  Used symbols: {counts.usedSymbols}",
      s!"  Documented: {counts.documented}",
      s!"  Usages: {counts.usages}"]

namespace Tables

/-- A declaration joined with its file, its package and its documentation. -/
def record (tables : Tables) (row : SymbolRow) (file : FileRow) :
    Except StoreError SymbolRecord :=
  match Kind.parse? row.kind with
  | none => .error (.unreadableKind row.kind)
  | some kind =>
    .ok
      { seq := row.seq
        id := row.id.toUInt64
        kind
        name := row.name
        path := file.path
        line := row.line
        package := row.packageSeq.bind fun seq =>
          (tables.symbols.find? (·.seq = seq)).map (·.name)
        description := (tables.docs.find? (·.symbolSeq = row.seq)).map (·.description) }

/-- The declarations that meet a condition, in the catalog's order. -/
def select (tables : Tables) (wanted : SymbolRow → Bool) :
    Except StoreError (List SymbolRecord) :=
  (tables.symbols.filter wanted).flatMap (fun row =>
    (tables.files.filter (·.id = row.fileId)).map fun file => (row, file)) |>.mapM
      fun (row, file) => tables.record row file

/-- What stands in a text before its first NUL. -/
def beforeNul (text : String) : String :=
  String.ofList (text.toList.takeWhile (·.toNat ≠ 0))

/-- Whether the store takes two names for one: they are equally long and agree, in any case, as far
as the first NUL. -/
def sameName (a b : String) : Bool :=
  a.utf8ByteSize = b.utf8ByteSize && Text.equalIgnoringCase (beforeNul a) (beforeNul b)

/-- The declarations of a name, in any case. -/
def symbolsNamed (tables : Tables) (name : String) : Except StoreError (List SymbolRecord) :=
  tables.select fun row => sameName row.name name

/-- The declarations of a kind, by the text that is stored for it. -/
def symbolsOfKind (tables : Tables) (kind : Kind) : Except StoreError (List SymbolRecord) :=
  tables.select fun row => row.kind = kind.name

/-- The uses of a symbol in the order of discovery. -/
def usesOf (tables : Tables) (seq : Int) : List UseRecord :=
  (tables.usages.filter fun row => (row.symbolSeq : Int) = seq).map fun row =>
    ⟨row.path, row.fileId.toUInt64, row.line⟩

def counts (tables : Tables) : StoreCounts :=
  { files := tables.files.length
    symbols := tables.symbols.length
    usedSymbols := tables.symbols.countP (·.id ≠ 0)
    documented := tables.docs.length
    usages := tables.usages.length }

/-- Looks a symbol up by the name a user gives: the whole name first, then a package and a routine
parted at the first dot. -/
def lookup (tables : Tables) (name : String) (kind : Option Kind) :
    Except StoreError (List SymbolRecord) := do
  let ofKind (symbol : SymbolRecord) : Bool := kind.all (symbol.kind == ·)
  let whole := (← tables.symbolsNamed name).filter ofKind
  if !whole.isEmpty then return whole
  match Text.cutAt ['.'] name.toList with
  | none => return []
  | some (package, routine) =>
    let inPackage (symbol : SymbolRecord) : Bool :=
      symbol.package.any (Text.equalIgnoringCase · (String.ofList package))
    return (← tables.symbolsNamed (String.ofList routine)).filter fun s => ofKind s && inPackage s

end Tables

end CrossRef.Store
