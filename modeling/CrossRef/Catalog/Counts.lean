import CrossRef.Catalog.Place
import CrossRef.Text.Lines

namespace CrossRef

structure CatalogCounts where
  files : Nat
  sqlFiles : Nat
  nativeFiles : Nat
  views : Nat
  packages : Nat
  functions : Nat
  procedures : Nat
  usedSymbols : Nat
  usages : Nat
  identifiers : Identifier
  deriving DecidableEq

def Catalog.stats (catalog : Catalog) : CatalogCounts :=
  let decls := catalog.symbols.map (·.2)
  let used := decls.filter (·.isUsed)
  { files := catalog.files.length
    sqlFiles := catalog.files.countP (·.kind = .sql)
    nativeFiles := catalog.files.countP (·.kind = .native)
    views := decls.countP (·.kind = .view)
    packages := decls.countP (·.kind = .package)
    functions := decls.countP (·.kind = .function)
    procedures := decls.countP (·.kind = .procedure)
    usedSymbols := used.length
    usages := (used.flatMap (·.uses.flat)).length
    identifiers := catalog.last }

namespace CatalogCounts

def symbols (stats : CatalogCounts) : Nat :=
  stats.views + stats.packages + stats.functions + stats.procedures

def render (stats : CatalogCounts) : String :=
  Text.unlines
    ["Catalog Statistics:",
      s!"  Files: {stats.files} (sql: {stats.sqlFiles}, native: {stats.nativeFiles})",
      s!"  Symbols: {stats.symbols} (views: {stats.views}, packages: {stats.packages}, " ++
        s!"functions: {stats.functions}, procedures: {stats.procedures})",
      s!"  Used: {stats.usedSymbols} symbols, {stats.usages} usages",
      s!"  Identifiers issued: {stats.identifiers}"]

end CatalogCounts

end CrossRef
