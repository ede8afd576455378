import CrossRef.Catalog.Decode
import CrossRef.Json.Printer
import CrossRef.Json.Reader
import CrossRef.Store.Tables
import CrossRef.Text.Utf8

namespace CrossRef.Store

def FileRow.toJson (row : FileRow) : Json :=
  .arr [.nat row.id.toUInt64.toNat, .nat row.seq, .str row.path, .str row.kind]

def FileRow.ofJson? : Json → Option FileRow
  | .arr [id, .nat seq, .str path, .str kind] => do some ⟨(← id.word64?).toInt64, seq, path, kind⟩
  | _ => none

def SymbolRow.toJson (row : SymbolRow) : Json :=
  .arr
    [.nat row.seq, .nat row.id.toUInt64.toNat, .str row.kind, .str row.name,
      .nat row.fileId.toUInt64.toNat, .nat row.line.toNat, (row.packageSeq.map Json.nat).getD .null]

def SymbolRow.ofJson? : Json → Option SymbolRow
  | .arr [.nat seq, id, .str kind, .str name, fileId, line, packageSeq] => do
    let packageSeq := match packageSeq with
      | .nat package => some package
      | _ => none
    some ⟨seq, (← id.word64?).toInt64, kind, name, (← fileId.word64?).toInt64, ← line.word32?,
      packageSeq⟩
  | _ => none

def DocRow.toJson (row : DocRow) : Json :=
  .arr
    [.nat row.symbolSeq, .nat row.line.toNat, .str row.name, (row.kind.map Json.str).getD .null,
      .str row.description, .str row.params]

def DocRow.ofJson? : Json → Option DocRow
  | .arr [.nat symbolSeq, line, .str name, kind, .str description, .str params] => do
    some ⟨symbolSeq, ← line.word32?, name, kind.text?, description, params⟩
  | _ => none

def SiteRow.toJson (row : SiteRow) : Json :=
  .arr
    [.nat row.seq, .nat row.symbolSeq, .str row.path, .nat row.fileId.toUInt64.toNat,
      .nat row.line.toNat]

def SiteRow.ofJson? : Json → Option SiteRow
  | .arr [.nat seq, .nat symbolSeq, .str path, fileId, line] => do
    some ⟨seq, symbolSeq, path, (← fileId.word64?).toInt64, ← line.word32?⟩
  | _ => none

namespace Tables

/-- The contents of a store as one value. -/
def toJson (tables : Tables) : Json :=
  .arr
    [(tables.root.map Json.str).getD .null, .arr (tables.files.map FileRow.toJson),
      .arr (tables.symbols.map SymbolRow.toJson), .arr (tables.docs.map DocRow.toJson),
      .arr (tables.usages.map SiteRow.toJson), .nat tables.lastUsage]

def ofJson? : Json → Option Tables
  | .arr [root, files, symbols, docs, usages, .nat lastUsage] => do
    some ⟨root.text?, ← files.list? FileRow.ofJson?, ← symbols.list? SymbolRow.ofJson?,
      ← docs.list? DocRow.ofJson?, ← usages.list? SiteRow.ofJson?, lastUsage⟩
  | _ => none

/-- The bytes by which a store's file is known. They are no text. -/
def signature : List UInt8 :=
  Text.encode "sqlxref store" ++ [0x00, 0xff]

/-- The bytes of a store's file. -/
def bytes (tables : Tables) : List UInt8 :=
  signature ++ Text.encode (tables.toJson.render false)

/-- The store whose file has these bytes. -/
def ofBytes? (bytes : List UInt8) : Option Tables := do
  let text ← Text.decode? (← signature.isPrefixOf? bytes)
  ofJson? (← Json.parse? (String.ofList text))

end Tables

end CrossRef.Store
