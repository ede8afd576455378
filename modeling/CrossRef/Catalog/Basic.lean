import CrossRef.Doc.Block
import CrossRef.Path

namespace CrossRef

/-- The number of a file or of a used symbol; zero is the number of none. -/
abbrev Identifier := UInt64

namespace Identifier

/-- The number of what has no number yet. -/
def none : Identifier := 0

def isIssued (id : Identifier) : Bool :=
  id != none

/-- The number issued after the last one. -/
def next (last : Identifier) : Identifier :=
  last + 1

end Identifier

/-- A place where a symbol is used. -/
structure UseSite where
  fileId : Identifier
  line : UInt32
  deriving DecidableEq

/-- The uses of a symbol by the key of the using file, in the order of discovery. -/
abbrev Uses := List (String × List UseSite)

namespace Uses

/-- Adds a site under a path; a new path goes last. -/
def record (path : String) (site : UseSite) : Uses → Uses
  | [] => [(path, [site])]
  | (key, found) :: rest =>
    if key = path then (key, found ++ [site]) :: rest
    else (key, found) :: record path site rest

def fileCount (uses : Uses) : Nat :=
  uses.length

def sites (uses : Uses) (path : String) : List UseSite :=
  (List.lookup path uses).getD []

/-- All uses in order, each with its path. -/
def flat (uses : Uses) : List (String × UseSite) :=
  uses.flatMap fun (path, found) => found.map fun site => (path, site)

/-- The number of all uses. -/
def total (uses : Uses) : Nat :=
  uses.flat.length

end Uses

/-- A declared view, package or routine. Its number stays zero until a use is recorded. -/
structure Declaration where
  kind : Kind
  name : String
  /-- The position of the declaring file in the catalog. -/
  file : Nat
  line : UInt32
  doc : Option DocBlock
  id : Identifier
  uses : Uses
  deriving DecidableEq

namespace Declaration

def isUsed (decl : Declaration) : Bool :=
  !decl.uses.isEmpty

/-- The first sentence of the documentation, empty where there is none. -/
def short (decl : Declaration) : String :=
  (decl.doc.map DocBlock.short).getD ""

end Declaration

/-- A package body with the routines declared in it. -/
structure Package where
  decl : Declaration
  functions : List Declaration
  procedures : List Declaration
  deriving DecidableEq

namespace Package

/-- Adds a routine behind the others of its kind. -/
def addRoutine (package : Package) (routine : Declaration) : Package :=
  match routine.kind with
  | .procedure => { package with procedures := package.procedures ++ [routine] }
  | _ => { package with functions := package.functions ++ [routine] }

def routines (package : Package) : Kind → List Declaration
  | .function => package.functions
  | .procedure => package.procedures
  | .view | .package => []

end Package

/-- A file of the index with its declarations. -/
structure IndexedFile where
  id : Identifier
  path : RawText
  kind : Family
  views : List Declaration
  packages : List Package
  deriving DecidableEq

namespace IndexedFile

/-- What uses in the file are recorded under: the path as it is shown, which may be that of another
file too. -/
def key (file : IndexedFile) : String :=
  file.path.text

/-- The last component of the path, or the whole path if it has no file name. -/
def fileName (file : IndexedFile) : String :=
  ((Path.fileName? file.path).map RawText.text).getD file.key

end IndexedFile

/-- The files of an index and the last number issued to a file or a symbol. -/
structure Catalog where
  files : List IndexedFile
  last : Identifier
  deriving DecidableEq

namespace Catalog

def empty : Catalog :=
  ⟨[], Identifier.none⟩

/-- Adds a file with the next number. -/
def addFile (catalog : Catalog) (path : RawText) (kind : Family) : Catalog :=
  let id := Identifier.next catalog.last
  ⟨catalog.files ++ [⟨id, path, kind, [], []⟩], id⟩

def views (catalog : Catalog) : List Declaration :=
  catalog.files.flatMap (·.views)

def packages (catalog : Catalog) : List Package :=
  catalog.files.flatMap (·.packages)

/-- The routines of a kind, each with its package. -/
def routines (catalog : Catalog) (kind : Kind) : List (Package × Declaration) :=
  catalog.packages.flatMap fun package => (package.routines kind).map fun decl => (package, decl)

end Catalog

end CrossRef
