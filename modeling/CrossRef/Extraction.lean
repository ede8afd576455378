import CrossRef.Catalog.Basic
import CrossRef.Doc.Scan
import CrossRef.Doc.Choice
import CrossRef.Header

namespace CrossRef

/-- How many declarations of each kind were added, and how many of them have documentation. -/
structure Tally where
  views : Nat
  packages : Nat
  functions : Nat
  procedures : Nat
  documented : Nat
  deriving DecidableEq

namespace Tally

def zero : Tally :=
  ⟨0, 0, 0, 0, 0⟩

def total (tally : Tally) : Nat :=
  tally.views + tally.packages + tally.functions + tally.procedures

def add (a b : Tally) : Tally :=
  ⟨a.views + b.views, a.packages + b.packages, a.functions + b.functions,
    a.procedures + b.procedures, a.documented + b.documented⟩

end Tally

/-- What the declarations of a file are made of besides its lines. -/
structure DeclarationRules where
  headers : HeaderRules
  window : UInt32

namespace Extraction

/-- A file while its declarations are added. -/
structure State where
  file : IndexedFile
  tally : Tally
  packageOpen : Bool

/-- Adds a routine to the last package; without one the routine is dropped. -/
def addRoutine (packages : List Package) (routine : Declaration) : List Package :=
  packages.modify (packages.length - 1) (·.addRoutine routine)

/-- Adds the declaration of a header. A header without a name declares nothing. -/
def addHeader (docs : List DocBlock) (window : UInt32) (index : Nat) (line : UInt32)
    (state : State) (header : Header) : State :=
  match header.name with
  | none => state
  | some name =>
    let doc := Doc.choose? docs window header.kind name line
    let decl : Declaration := ⟨header.kind, name, index, line, doc, 0, []⟩
    let tally := if doc.isSome then
      { state.tally with documented := state.tally.documented + 1 } else state.tally
    let file := state.file
    match header.kind with
    | .view =>
      { state with
        file := { file with views := file.views ++ [decl] }
        tally := { tally with views := tally.views + 1 } }
    | .package =>
      { state with
        file := { file with packages := file.packages ++ [⟨decl, [], []⟩] }
        tally := { tally with packages := tally.packages + 1 } }
    | .function =>
      if file.packages.isEmpty then { state with tally }
      else
        { state with
          file := { file with packages := addRoutine file.packages decl }
          tally := { tally with functions := tally.functions + 1 } }
    | .procedure =>
      if file.packages.isEmpty then { state with tally }
      else
        { state with
          file := { file with packages := addRoutine file.packages decl }
          tally := { tally with procedures := tally.procedures + 1 } }

/-- Lines of fewer than two words and comments hold no header. -/
def isPassedOver (line : String) : Bool :=
  (Text.words line.toList).length < 2 || isComment line

/-- Adds the declarations of the line at a position. -/
def addLine (rules : DeclarationRules) (docs : List DocBlock) (index : Nat) (state : State)
    (line : String) (position : Nat) : State :=
  if isPassedOver line then state
  else
    let reading := rules.headers.readLine state.packageOpen line
    reading.headers.foldl (addHeader docs rules.window index (lineNumber position))
      { state with packageOpen := reading.packageOpen }

/-- Adds the declarations of all lines to a file. -/
def addLines (rules : DeclarationRules) (docs : List DocBlock) (index : Nat) (file : IndexedFile)
    (lines : List String) : State :=
  lines.zipIdx.foldl (fun state (line, position) => addLine rules docs index state line position)
    ⟨file, .zero, false⟩

end Extraction

/-- Adds the declarations that the lines of a file hold. Only a sql file that the catalog has
declares anything. -/
def DeclarationRules.extract (rules : DeclarationRules) (catalog : Catalog) (index : Nat)
    (lines : List String) (docs : List DocBlock) : Catalog × Tally :=
  match catalog.files[index]? with
  | none => (catalog, .zero)
  | some file =>
    match file.kind with
    | .native => (catalog, .zero)
    | .sql =>
      let state := Extraction.addLines rules docs index file lines
      ({ catalog with files := catalog.files.set index state.file }, state.tally)

end CrossRef
