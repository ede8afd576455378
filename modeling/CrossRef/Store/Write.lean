import CrossRef.Catalog.Encode
import CrossRef.Catalog.Place
import CrossRef.Json.Printer
import CrossRef.Store.Statement

namespace CrossRef.Store

/-- The number of a package among all symbols, by its place. -/
abbrev PackageSeqs := List ((Nat × Nat) × Nat)

/-- The package that a symbol belongs to, of those written so far. -/
def packageSeqOf (packages : PackageSeqs) : Place → Option Nat
  | .routine file package _ _ => packages.lookup (file, package)
  | _ => none

def notePackage (packages : PackageSeqs) (place : Place) (seq : Nat) : PackageSeqs :=
  match place with
  | .package file index => ((file, index), seq) :: packages
  | _ => packages

/-- The number of the file that a declaration names, zero if the catalog has no such file. -/
def fileIdOf (catalog : Catalog) (decl : Declaration) : Int64 :=
  ((catalog.files[decl.file]?).map fun file => file.id.toInt64).getD 0

def fileRow (file : IndexedFile) (seq : Nat) : FileRow :=
  ⟨file.id.toInt64, seq, file.key, file.kind.name⟩

def symbolRow (catalog : Catalog) (seq : Nat) (decl : Declaration) (packageSeq : Option Nat) :
    SymbolRow :=
  { seq, id := decl.id.toInt64, kind := decl.kind.name, name := decl.name
    fileId := fileIdOf catalog decl, line := decl.line, packageSeq }

def docRow (seq : Nat) (doc : DocBlock) : DocRow :=
  { symbolSeq := seq
    line := doc.line
    name := doc.name
    kind := doc.kind.map Kind.name
    description := doc.description
    params := (Json.arr (doc.params.map ParamNote.toJson)).render false }

namespace Statement

/-- Adds a symbol with its documentation and its uses. -/
def ofSymbol (catalog : Catalog) (seq : Nat) (decl : Declaration) (packageSeq : Option Nat) :
    List Statement :=
  .addSymbol (symbolRow catalog seq decl packageSeq) ::
    ((decl.doc.map fun doc => .addDoc (docRow seq doc)).toList ++
      decl.uses.flat.map fun (path, site) => .addUsage seq path site.fileId.toInt64 site.line)

/-- Adds symbols that are numbered from `seq` on. -/
def ofSymbols (catalog : Catalog) : PackageSeqs → Nat → List (Place × Declaration) → List Statement
  | _, _, [] => []
  | packages, seq, (place, decl) :: rest =>
    ofSymbol catalog seq decl (packageSeqOf packages place) ++
      ofSymbols catalog (notePackage packages place seq) (seq + 1) rest

def ofFiles (files : List IndexedFile) : List Statement :=
  files.zipIdx.map fun (file, seq) => .addFile (fileRow file seq)

/-- Replaces all rows by those of a catalog. The root is kept as it is shown. -/
def saving (catalog : Catalog) (root : RawText) : List Statement :=
  clearing ++ .setRoot root.text :: ofFiles catalog.files ++ ofSymbols catalog [] 1 catalog.symbols

end Statement

end CrossRef.Store
