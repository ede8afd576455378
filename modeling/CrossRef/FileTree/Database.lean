import CrossRef.FileTree.Journal
import CrossRef.Store.Address
import CrossRef.Store.Connection

namespace CrossRef

/-- A store that is open on a file of a tree, or on none. -/
structure OpenStore where
  location : Option Location
  connection : Store.Connection

namespace FileTree

/-- The bytes of the whole path of a location. -/
def wholeLength (location : Location) : Nat :=
  location.foldl (fun length name => length + 1 + name.size) 0

/-- The most bytes of the whole path on the way to a store, and at its end, where there must be room
for the name of the journal. -/
def wayLimit : Nat := 511

def storeLimit : Nat := 504

/-- Follows names as far as the first link. Where nothing is, the names alone count. -/
def reachNames (tree : FileTree) : Location → List RawText → Option (PendingLink ⊕ Location)
  | here, [] => some (.inr here)
  | here, name :: rest =>
    if isIdle name then reachNames tree here rest
    else if name = ".." then reachNames tree here.dropLast rest
    else if wayLimit < wholeLength (here ++ [name]) then none
    else
      match tree.get? here with
      | none => reachNames tree (here ++ [name]) rest
      | some (.folder items) =>
        if isOverlong name then none
        else
          match items.lookup name with
          | some (.link target) => some (.inl ⟨here, target, rest⟩)
          | _ => reachNames tree (here ++ [name]) rest
      | some _ => none

/-- Follows names and links, of which there may be fewer than `fuel`. -/
def reachLinks (tree : FileTree) : Nat → Location → List RawText → Option Location
  | 0, _, _ => none
  | fuel + 1, here, names =>
    match tree.reachNames here names with
    | none => none
    | some (.inr location) => some location
    | some (.inl pending) =>
      reachLinks tree fuel (startOf pending.folder pending.target)
        (pathNames pending.target ++ pending.rest)

/-- The links of a path to a store, of which no more than two hundred and one are followed. -/
def storeLinkLimit : Nat := 202

/-- Where the file of a store is or is to be, which is not the top. -/
def storeLocation? (tree : FileTree) (path : RawText) : Option Location :=
  (tree.reachLinks storeLinkLimit (startOf home path) (pathNames path)).filter fun location =>
    !location.isEmpty && wholeLength location ≤ storeLimit

/-- The tree with a file at a location, if there is one or one can be made. For reading alone, a
folder is opened like a file. -/
def withStoreFile? (tree : FileTree) (location : Location) (access : Store.Access) :
    Option FileTree :=
  match tree.get? location with
  | some (.file _) => some tree
  | some _ => if access = .read then some tree else none
  | none =>
    match tree.get? location.dropLast with
    | some (.folder _) =>
      if access = .create then some (tree.put location (.file (.bytes []))) else none
    | _ => none

/-- A file of at most one byte is a store without rows. -/
def isFresh : Content → Bool
  | .bytes held => held.length ≤ 1
  | _ => false

/-- Writes the committed contents of a store to its file. -/
def keep (tree : FileTree) (store : OpenStore) : FileTree :=
  match store.location with
  | none => tree
  | some location => tree.put location (.file (.store store.connection.committed))

/-- The rows of a store's file. One without rows is written first. -/
def storeTables (location : Location) (writable : Bool) : Content → Work StoreError Store.Tables
  | .store tables => return tables
  | .unreadable => throw .unreadable
  | .bytes held => do
    if !isFresh (.bytes held) then throw .notDatabase
    if !writable then throw .readOnly
    useJournal location
    return .empty

/-- Opens the store in the file at a location. A folder there cannot be read. -/
def openStoreAt (location : Location) (writable frozen : Bool) : Work StoreError OpenStore := do
  let content := match (← get).get? location with
    | some (.file content) => content
    | _ => .unreadable
  if !frozen then
    settleJournal location (isFresh content) writable
    settleLog location (isFresh content)
  let tables ← storeTables location writable content
  let store := ⟨some location, .ofTables tables writable⟩
  modify (·.keep store)
  return store

/-- Opens the store that a path or an address leads to. A file that is missing is made, unless the
address says otherwise. -/
def openStore (path : RawText) : Work StoreError OpenStore := do
  match Store.Address.parse path with
  | .error cause => throw cause
  | .ok address =>
    if address.isPrivate then
      if address.isWritable then return ⟨none, .ofTables .empty true⟩ else throw .readOnly
    else
      match (← get).storeLocation? address.file with
      | none => throw (.cannotOpen path.text)
      | some location =>
        match (← get).withStoreFile? location address.access with
        | none => throw (.cannotOpen path.text)
        | some tree =>
          set tree
          openStoreAt location address.isWritable address.frozen

/-- Saves a catalog in a store, and what is committed of it in its file. -/
def saveStore (tree : FileTree) (store : OpenStore) (catalog : Catalog) (root : RawText) :
    FileTree × OpenStore × Except StoreError Nat :=
  let journal : Work StoreError Unit := match store.location with
    | some location =>
      if store.connection.inTransaction || !store.connection.writable then pure ()
      else useJournal location
    | none => pure ()
  let (ready, tree) := journal.on tree
  match ready with
  | .error cause => (tree, store, .error cause)
  | .ok _ =>
    let (connection, outcome) := store.connection.save catalog root false
    let store := { store with connection }
    (tree.keep store, store, outcome)

end FileTree

end CrossRef
