import CrossRef.Toml.Value

namespace CrossRef.Toml

/-- The members of a table in the order of their first mention. -/
abbrev Members := List (String × Toml)

/-- Puts a value under a key, in the place of the old one if there is one. -/
def put (key : String) (value : Toml) : Members → Members
  | [] => [(key, value)]
  | (k, old) :: rest => if k = key then (k, value) :: rest else (k, old) :: put key value rest

/-- Changes the table that a path of keys leads to, and makes the tables on the way that are
missing. Repeated headers lead into their last table. A dotted key may not enter a table that has a
header of its own, and nothing may enter a plain value. -/
def within (dotted : Bool) (change : Option TableOrigin → Members → Option Members) :
    List String → Option TableOrigin → Members → Option Members
  | [], origin, members => change origin members
  | key :: keys, _, members =>
    match members.lookup key with
    | none => do
      let origin := if dotted then .dotted else .implied
      let inner ← within dotted change keys (some origin) []
      some (put key (.table origin inner) members)
    | some (.table .inline _) => none
    | some (.table origin inner) =>
      if dotted && origin == .header then none
      else do
        let inner ← within dotted change keys (some origin) inner
        some (put key (.table origin inner) members)
    | some (.arr true items) =>
      match items.getLast? with
      | some (.table origin inner) => do
        let inner ← within dotted change keys (some origin) inner
        some (put key (.arr true (items.dropLast ++ [.table origin inner])) members)
      | _ => none
    | some _ => none

/-- Sets a key that is not there yet. -/
def addKey (key : String) (value : Toml) (members : Members) : Option Members :=
  if members.any (·.1 = key) then none else some (members ++ [(key, value)])

/-- Sets the value of a dotted key. The table it is set in must have been made by dotted keys. -/
def addEntry (path : List String) (value : Toml) (members : Members) : Option Members :=
  match path.getLast? with
  | none => none
  | some key =>
    let parents := path.dropLast
    let change (origin : Option TableOrigin) (inner : Members) : Option Members :=
      if !parents.isEmpty && origin ≠ some .dotted then none else addKey key value inner
    within true change parents none members

/-- Opens the table of a header. It must be new, or so far only a parent in other headers. -/
def openTable (path : List String) (members : Members) : Option Members :=
  match path.getLast? with
  | none => none
  | some key =>
    let change (_ : Option TableOrigin) (inner : Members) : Option Members :=
      match inner.lookup key with
      | none => some (inner ++ [(key, .table .header [])])
      | some (.table .implied old) => some (put key (.table .header old) inner)
      | some _ => none
    within false change path.dropLast none members

/-- Opens one more table of a repeated header. -/
def openRow (path : List String) (members : Members) : Option Members :=
  match path.getLast? with
  | none => none
  | some key =>
    let change (_ : Option TableOrigin) (inner : Members) : Option Members :=
      match inner.lookup key with
      | none => some (inner ++ [(key, .arr true [.table .header []])])
      | some (.arr true rows) => some (put key (.arr true (rows ++ [.table .header []])) inner)
      | some _ => none
    within false change path.dropLast none members

/-- A line of a document. -/
inductive Statement
  | table (path : List String)
  | row (path : List String)
  | entry (path : List String) (value : Toml)

/-- The document read so far and the header that entries belong to. -/
structure Draft where
  members : Members
  current : List String

def Draft.add (draft : Draft) : Statement → Option Draft
  | .table path => (openTable path draft.members).map (⟨·, path⟩)
  | .row path => (openRow path draft.members).map (⟨·, path⟩)
  | .entry path value =>
    let change (_ : Option TableOrigin) (inner : Members) := addEntry path value inner
    (within false change draft.current none draft.members).map (⟨·, draft.current⟩)

/-- The table that the lines of a document describe. -/
def assemble (statements : List Statement) : Option Members :=
  (statements.foldlM Draft.add ⟨[], []⟩).map (·.members)

end CrossRef.Toml
