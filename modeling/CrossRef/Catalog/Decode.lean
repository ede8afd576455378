import CrossRef.Catalog.Basic
import CrossRef.Json.Keeping

namespace CrossRef

namespace Json

/-- The members of these names. Other members are passed over; none of these may be repeated. -/
def known? (names : List String) (members : List (String × Json)) : Option (List (Option Json)) :=
  if names.all fun name => members.countP (·.1 = name) ≤ 1 then
    some (names.map fun name => members.lookup name)
  else none

/-- The fields of a record, which is an object or the array of its fields in order. -/
def fields? (names : List String) : Json → Option (List (Option Json))
  | .obj members => known? names members
  | .arr items => if items.length = names.length then some (items.map some) else none
  | _ => none

def text? : Json → Option String
  | .str s => some s
  | _ => none

def natBelow? (bound : Nat) : Json → Option Nat
  | .nat n => if n < bound then some n else none
  | _ => none

def word64? (value : Json) : Option UInt64 :=
  (value.natBelow? UInt64.size).map UInt64.ofNat

def word32? (value : Json) : Option UInt32 :=
  (value.natBelow? UInt32.size).map UInt32.ofNat

def list? (item? : Json → Option α) : Json → Option (List α)
  | .arr items => items.mapM item?
  | _ => none

/-- A value that may be missing or null. -/
def optional? (value? : Json → Option α) : Option Json → Option (Option α)
  | none => some none
  | some .null => some none
  | some value => (value? value).map some

/-- A name out of a closed list, alone or as the only key of an object that says no more: it holds
null there or, in a value that was `kept`, an empty object. -/
def choice? (kept : Bool) (ofName? : String → Option α) : Json → Option α
  | .str s => ofName? s
  | .obj [(key, .null)] => ofName? key
  | .obj [(key, .obj [])] => if kept then ofName? key else none
  | _ => none

end Json

def ParamNote.ofJson? (value : Json) : Option ParamNote := do
  match ← value.fields? ["name", "type"] with
  | [some name, some typeName] => some ⟨← name.text?, ← typeName.text?⟩
  | _ => none

def DocBlock.ofJson? (kept : Bool) (value : Json) : Option DocBlock := do
  match ← value.fields? ["line", "name", "kind", "description", "params"] with
  | [some line, some name, kind, some description, some params] =>
    some ⟨← line.word32?, ← name.text?, ← Json.optional? (Json.choice? kept Kind.ofName?) kind,
      ← description.text?, ← params.list? ParamNote.ofJson?⟩
  | _ => none

def UseSite.ofJson? (value : Json) : Option UseSite := do
  match ← value.fields? ["file_id", "line"] with
  | [some fileId, some line] => some ⟨← fileId.word64?, ← line.word32?⟩
  | _ => none

/-- Sets the sites of a path: a path that is there already keeps its place. -/
def Uses.set (path : String) (found : List UseSite) : Uses → Uses
  | [] => [(path, found)]
  | (key, old) :: rest =>
    if key = path then (key, found) :: rest else (key, old) :: set path found rest

def Uses.ofJson? : Json → Option Uses
  | .obj members =>
    members.foldlM (fun uses member => do
      some (Uses.set member.1 (← member.2.list? UseSite.ofJson?) uses)) []
  | _ => none

def Declaration.fieldNames : List String :=
  ["kind", "name", "file", "line", "doc", "id", "where_used"]

def Declaration.ofFields? (kept : Bool) : List (Option Json) → Option Declaration
  | [some kind, some name, some file, some line, doc, some id, some uses] => do
    some ⟨← kind.choice? kept Kind.ofName?, ← name.text?, ← file.natBelow? UInt64.size,
      ← line.word32?, ← Json.optional? (DocBlock.ofJson? kept) doc, ← id.word64?,
      ← Uses.ofJson? uses⟩
  | _ => none

def Declaration.ofJson? (value : Json) : Option Declaration := do
  ofFields? false (← value.fields? fieldNames)

/-- The members of a package that are its own and are read at once. -/
def Package.fieldNames : List String :=
  ["functions", "procedures"]

/-- How deep the other members of a package may be nested: a document is kept to a depth of one
hundred and twenty-seven, and a package stands at the fifth. -/
def Package.maxDepth : Nat := 122

/-- A package is an object, never an array. The members that are not its own are kept until all are
there; then those of its declaration are read. -/
def Package.ofJson? : Json → Option Package
  | .obj members => do
    let others := members.filter fun member => !fieldNames.contains member.1
    if !others.all fun member => member.2.isKeepable && member.2.depth ≤ maxDepth then none
    let decl ← Declaration.ofFields? true (← Json.known? Declaration.fieldNames others)
    match ← Json.known? fieldNames members with
    | [some functions, some procedures] =>
      some ⟨decl, ← functions.list? Declaration.ofJson?, ← procedures.list? Declaration.ofJson?⟩
    | _ => none
  | _ => none

def IndexedFile.ofJson? (value : Json) : Option IndexedFile := do
  match ← value.fields? ["id", "path", "kind", "views", "packages"] with
  | [some id, some path, some kind, some views, some packages] =>
    some ⟨← id.word64?, ← path.text?.map RawText.ofText, ← kind.choice? false Family.ofName?,
      ← views.list? Declaration.ofJson?, ← packages.list? Package.ofJson?⟩
  | _ => none

/-- Reads a catalog from its JSON form. -/
def Catalog.ofJson? (value : Json) : Option Catalog := do
  match ← value.fields? ["files", "ids"] with
  | [some files, some ids] =>
    match ← ids.fields? ["last"] with
    | [some last] => some ⟨← files.list? IndexedFile.ofJson?, ← last.word64?⟩
    | _ => none
  | _ => none

end CrossRef
