import CrossRef.Catalog.Basic

namespace CrossRef

/-- The place of a declaration in a catalog. -/
inductive Place
  | view (file index : Nat)
  | package (file index : Nat)
  | routine (file package : Nat) (kind : Kind) (index : Nat)
  deriving DecidableEq

def Place.file : Place → Nat
  | .view file _ => file
  | .package file _ => file
  | .routine file _ _ _ => file

namespace Catalog

/-- The declaration at a place. -/
def get? (catalog : Catalog) : Place → Option Declaration
  | .view file index => do (← catalog.files[file]?).views[index]?
  | .package file index => do
    let package ← (← catalog.files[file]?).packages[index]?
    some package.decl
  | .routine file package kind index => do
    ((← (← catalog.files[file]?).packages[package]?).routines kind)[index]?

/-- The package a routine belongs to. -/
def ownerOf? (catalog : Catalog) : Place → Option Package
  | .routine file package _ _ => do (← catalog.files[file]?).packages[package]?
  | _ => none

/-- Changes the declaration at a place, if there is one. -/
def modify (catalog : Catalog) (target : Place) (change : Declaration → Declaration) :
    Catalog :=
  let inFile (file : Nat) (f : IndexedFile → IndexedFile) :=
    { catalog with files := catalog.files.modify file f }
  let inPackage (file package : Nat) (f : Package → Package) :=
    inFile file fun source => { source with packages := source.packages.modify package f }
  match target with
  | .view file index =>
    inFile file fun source => { source with views := source.views.modify index change }
  | .package file index => inPackage file index fun p => { p with decl := change p.decl }
  | .routine file package .function index =>
    inPackage file package fun p => { p with functions := p.functions.modify index change }
  | .routine file package .procedure index =>
    inPackage file package fun p => { p with procedures := p.procedures.modify index change }
  | .routine _ _ _ _ => catalog

/-- The routines of a package with their places. -/
def packageSymbols (file index : Nat) (package : Package) : List (Place × Declaration) :=
  (.package file index, package.decl) ::
    (package.functions.zipIdx.map fun (decl, i) => (.routine file index .function i, decl)) ++
    (package.procedures.zipIdx.map fun (decl, i) => (.routine file index .procedure i, decl))

def fileSymbols (index : Nat) (file : IndexedFile) : List (Place × Declaration) :=
  (file.views.zipIdx.map fun (decl, i) => (.view index i, decl)) ++
    file.packages.zipIdx.flatMap fun (package, i) => packageSymbols index i package

/-- Every declaration with its place: file by file, the views first, then each package followed by
its functions and its procedures. -/
def symbols (catalog : Catalog) : List (Place × Declaration) :=
  catalog.files.zipIdx.flatMap fun (file, index) => fileSymbols index file

/-- The places of the declarations of this name, in any case, and of this kind if one is given. -/
def find (catalog : Catalog) (name : String) (kind : Option Kind) : List Place :=
  (catalog.symbols.filter fun (_, decl) =>
    kind.all (decl.kind == ·) && Text.equalIgnoringCase decl.name name).map (·.1)

/-- The name shown for a symbol: routines carry the name of their package in front. -/
def shownName (catalog : Catalog) (target : Place) : String :=
  let name := ((catalog.get? target).map (·.name)).getD ""
  match catalog.ownerOf? target with
  | some package => package.decl.name ++ "." ++ name
  | none => name

end Catalog

end CrossRef
