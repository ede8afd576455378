import CrossRef.Catalog.Encode
import CrossRef.Command.Indexing
import CrossRef.Command.Parse
import CrossRef.FileTree.Database
import CrossRef.Json.Printer
import CrossRef.Report.Table
import CrossRef.Report.UseRows
import CrossRef.Text.Visible

namespace CrossRef

namespace Run

/-- Makes the folder that is to hold a file. -/
def makeParent (path : String) : Run Unit := do
  orFileError (← onTree (FileTree.makeParent path))

/-- Opens a store. -/
def openStore (path : String) : Run OpenStore := do
  orStoreError (← onTree (FileTree.openStore path))

/-- Saves a catalog into a store. -/
def fillStore (store : OpenStore) (catalog : Catalog) (root : RawText) : Run Unit := do
  let (tree, _, outcome) := (← tree).saveStore store catalog root
  setTree tree
  let _ ← orStoreError outcome

/-- Writes a catalog to a file. Where the path of a file is no text the writing breaks off. -/
def exportCatalog (catalog : Catalog) (path : String) : Run Unit := do
  makeParent path
  if catalog.files.any (·.path.text?.isNone) then
    setTree (← orFileError ((← tree).writeFile path []))
    throw .pathNotText
  setTree (← orFileError ((← tree).writeFile path (Text.encode (catalog.toJson.render true))))
  let palette ← palette
  tell (palette.info.paint "ℹ️") "JSON" path

/-- The figures of an index. -/
def figures (stats : CatalogCounts) (documented : Nat) : List (String × String) :=
  [("Files", toString stats.files), ("Views", toString stats.views),
    ("Packages", toString stats.packages), ("Functions", toString stats.functions),
    ("Procedures", toString stats.procedures), ("Documented", toString documented),
    ("Used symbols", toString stats.usedSymbols), ("Usages", toString stats.usages)]

def indexCommand (options : SourceOptions) (database : String) (json : Option String) :
    Run Unit := do
  let settings ← readSettings options
  say ("🚀 " ++ (← palette).header.paint settings.general.title)
  tell "📂" "Root" settings.files.root.text
  tell "🗄️" "Database" database
  let (catalog, summary) ← index settings
  makeParent database
  let store ← openStore database
  fillStore store catalog settings.files.root
  json.forM (exportCatalog catalog)
  if !(← palette).quiet then
    say (Report.figureTable (figures catalog.stats summary.extraction.documented))
  succeed ("Index saved to " ++ database)

def initCommand (path : String) (root : Option String) (force : Bool) : Run Unit := do
  let standard := Settings.standard
  let root := (root.map RawText.ofText).getD standard.files.root
  let settings := { standard with files := { standard.files with root } }
  setTree (← orFail (settings.write (← tree) path force))
  succeed ("Wrote " ++ path)

def sayListing (listing : Listing) : Run Unit := do
  let palette ← palette
  say ""
  say ("━" ++ palette.header.paint listing.page.title ++ "━")
  if listing.rows.isEmpty then say ("∅ " ++ palette.label.paint "nothing to list")
  else say (Report.pageTable listing.rows)

def listCommand (page : Option Page) (options : SourceOptions) : Run Unit := do
  let settings ← readSettings options
  let (catalog, _) ← index settings
  match page with
  | none => (Report.listings catalog settings.files.root settings.pages).forM sayListing
  | some page =>
    match Report.listing? catalog settings.files.root settings.pages page with
    | some listing => sayListing listing
    | none => warn s!"page '{page.name}' is disabled in [pages]"

/-- Says what a store knows of a symbol. -/
def saySymbol (tables : Store.Tables) (root : RawText) (symbol : Store.SymbolRecord) :
    Run Unit := do
  let palette ← palette
  let label := palette.label.paint
  let declared := Path.relative root symbol.path ++ ":" ++ toString symbol.line
  say ""
  say ("🔗 " ++ label symbol.kind.name ++ " " ++ palette.symbol.paint symbol.qualifiedName)
  say ("  " ++ label "declared" ++ " " ++ palette.location.paint declared)
  symbol.description.forM fun description => say ("  " ++ label "doc" ++ " " ++ description)
  match Report.useRows root ((tables.usesOf symbol.seq).map fun use => (use.path, use.line)) with
  | [] => say ("  " ++ palette.unused.paint Report.noUse)
  | rows =>
    rows.forM fun row => do
      say ("  📄 " ++ row.path)
      row.lines.forM fun line => say s!"      line {line}"

def whereUsedCommand (name database : String) (kind : Option Kind) : Run Unit := do
  let tables := (← openStore database).connection.tables
  match ← orStoreError (tables.lookup name kind) with
  | [] => say s!"❌ No symbol named '{name}'."
  | symbols => symbols.forM (saySymbol tables (tables.root.getD ""))

/-- How many symbols of a kind a store has, and how many of them nobody uses. -/
def kindFigure (tables : Store.Tables) (kind : Kind) : Except StoreError (String × String) := do
  let symbols ← tables.symbolsOfKind kind
  let unused := symbols.countP fun symbol => !Identifier.isIssued symbol.id
  return (kind.name, s!"{symbols.length} declared, {unused} with {Report.noUse}")

def statsCommand (database : String) : Run Unit := do
  let tables := (← openStore database).connection.tables
  say ("📊 sqlxref Statistics (" ++ Text.visible database ++ ")")
  say (String.ofList (List.replicate 36 '-'))
  say tables.counts.render
  say (Report.figureTable (← orStoreError (Kind.all.mapM (kindFigure tables))))

end Run

/-- Carries out a command. -/
def Command.run : Command → Run Unit
  | .index options database json => Run.indexCommand options database json
  | .init path root force => Run.initCommand path root force
  | .list page options => Run.listCommand page options
  | .whereUsed name database kind => Run.whereUsedCommand name database kind
  | .stats database => Run.statsCommand database

/-- What a run leaves behind. -/
structure Outcome where
  code : Nat
  output : String
  complaints : String
  tree : FileTree

namespace Outcome

/-- The name and version of the program. -/
def version : String :=
  "sqlxref 0.0.1\n"

def usage : String :=
  "Usage: sqlxref [OPTIONS] <COMMAND>\n\nCommands: " ++
    ", ".intercalate (Verb.all.map Verb.name) ++ "\n"

/-- What is left where no command was read. -/
def ofStop (tree : FileTree) : Stop → Outcome
  | .refused error => ⟨2, "", error.complaint, tree⟩
  | .help => ⟨0, usage, "", tree⟩
  | .version => ⟨0, version, "", tree⟩
  | .nothing => ⟨2, "", usage, tree⟩

/-- What a command leaves behind. -/
def ofCommand (surroundings : Surroundings) (tree : FileTree) (command : Command) : Outcome :=
  let (result, console) := (command.run.run surroundings).run.run ⟨tree, "", ""⟩
  match result with
  | .ok _ => ⟨0, console.output, console.complaints, console.tree⟩
  | .error error =>
    ⟨1, console.output, console.complaints ++ "Error: " ++ error.message ++ "\n", console.tree⟩

/-- Reads a command line and carries it out. -/
def ofPieces (surroundings : Surroundings) (tree : FileTree) (pieces : List String) : Outcome :=
  match Command.parse pieces with
  | .ok command => ofCommand surroundings tree command
  | .error stop => ofStop tree stop

end Outcome

end CrossRef
