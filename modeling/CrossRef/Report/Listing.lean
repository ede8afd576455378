import CrossRef.Catalog.Place
import CrossRef.Report.Sorting
import CrossRef.Settings.Basic

namespace CrossRef

/-- A line of a listing. -/
structure PageRow where
  name : String
  location : String
  description : String
  used : String
  deriving DecidableEq

/-- A page of the index with its rows. -/
structure Listing where
  page : Page
  rows : List PageRow
  deriving DecidableEq

namespace Report

/-- What stands for the uses of a symbol that has none. -/
def noUse : String :=
  "no use found"

/-- How often a declaration is used, and in how many files. -/
def usedText (decl : Declaration) : String :=
  if decl.isUsed then s!"{decl.uses.total} in {decl.uses.fileCount} file(s)" else noUse

/-- Where a declaration stands, as seen from the root. -/
def location (catalog : Catalog) (root : RawText) (decl : Declaration) : String :=
  let path := ((catalog.files[decl.file]?).map fun file => Path.relative root file.key).getD ""
  s!"{path}:{decl.line}"

def declarationRow (catalog : Catalog) (root : RawText) (name : String)
    (decl : Declaration) : PageRow :=
  ⟨name, location catalog root decl, decl.short, usedText decl⟩

def fileRow (label : IndexedFile → String) (file : IndexedFile) : PageRow :=
  let routines := (file.packages.flatMap fun p => p.functions ++ p.procedures).length
  { name := label file
    location := file.kind.name
    description :=
      s!"{file.views.length} views, {file.packages.length} packages, {routines} routines"
    used := "" }

def filePageRows (catalog : Catalog) (label : IndexedFile → String) : List PageRow :=
  sortByName (·.name) (catalog.files.map (fileRow label))

/-- The text after the last dot of a name. -/
def lastName (name : String) : String :=
  match Text.cutAtLast '.' name.toList with
  | some (_, last) => String.ofList last
  | none => name

/-- The declarations of a kind. Routines show their package, but are sorted without it. -/
def declarationRows (catalog : Catalog) (root : RawText) (kind : Kind) : List PageRow :=
  let rows := (catalog.symbols.filter fun (_, decl) => decl.kind = kind).map fun (place, decl) =>
    declarationRow catalog root (catalog.shownName place) decl
  sortByName (fun row => if kind.isRoutine then lastName row.name else row.name) rows

def routineRows (catalog : Catalog) (root : RawText) (package : Package) (kind : Kind) :
    List PageRow :=
  (sortByName (·.name) (package.routines kind)).map fun routine =>
    declarationRow catalog root s!"  {kind.name} {routine.name}" routine

/-- Every package followed by its functions and its procedures. -/
def packageRows (catalog : Catalog) (root : RawText) : List PageRow :=
  (sortByName (·.decl.name) catalog.packages).flatMap fun package =>
    declarationRow catalog root package.decl.name package.decl ::
      (routineRows catalog root package .function ++ routineRows catalog root package .procedure)

def rows (catalog : Catalog) (root : RawText) : Page → List PageRow
  | .filePath => filePageRows catalog fun file => Path.relative root file.key
  | .file => filePageRows catalog IndexedFile.fileName
  | .view => declarationRows catalog root .view
  | .package => declarationRows catalog root .package
  | .packageFull => packageRows catalog root
  | .function => declarationRows catalog root .function
  | .procedure => declarationRows catalog root .procedure

/-- The listing of a page, unless it is switched off. -/
def listing? (catalog : Catalog) (root : RawText) (pages : PageSettings) (page : Page) :
    Option Listing :=
  if pages.isEnabled page then some ⟨page, rows catalog root page⟩ else none

/-- The listings of all pages that are switched on, in page order. -/
def listings (catalog : Catalog) (root : RawText) (pages : PageSettings) : List Listing :=
  Page.all.filterMap (listing? catalog root pages)

end Report

end CrossRef
