import CrossRef.Catalog.Place
import CrossRef.Text.Case
import CrossRef.Text.Search

namespace CrossRef

/-- The upper-cased text by which a symbol is searched. -/
structure Needle where
  target : Place
  text : String

namespace Needle

def ofView (view : Declaration) : String :=
  Text.upper view.name

def ofPackage (package : Package) : String :=
  Text.upper package.decl.name ++ "."

def ofRoutine (package : Package) (routine : Declaration) : String :=
  ofPackage package ++ Text.upper routine.name

/-- Whether a line that is already in upper case mentions the symbol. -/
def occursIn (needle : Needle) (upperLine : String) : Bool :=
  Text.occursIn needle.text.toList upperLine.toList

end Needle

namespace Catalog

def viewNeedles (catalog : Catalog) : List Needle :=
  catalog.files.zipIdx.flatMap fun (file, f) =>
    file.views.zipIdx.map fun (view, i) => ⟨.view f i, Needle.ofView view⟩

def routineNeedles (file index : Nat) (package : Package) (kind : Kind) : List Needle :=
  (package.routines kind).zipIdx.map fun (routine, i) =>
    ⟨.routine file index kind i, Needle.ofRoutine package routine⟩

def packageNeedles (catalog : Catalog) : List Needle :=
  catalog.files.zipIdx.flatMap fun (file, f) =>
    file.packages.zipIdx.flatMap fun (package, i) =>
      ⟨.package f i, Needle.ofPackage package⟩ ::
        (routineNeedles f i package .function ++ routineNeedles f i package .procedure)

/-- The needles in the order of search: all views of the catalog, then each package followed by its
functions and its procedures. -/
def needles (catalog : Catalog) : List Needle :=
  catalog.viewNeedles ++ catalog.packageNeedles

end Catalog

end CrossRef
