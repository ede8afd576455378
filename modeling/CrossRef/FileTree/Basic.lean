import CrossRef.Store.Document

namespace CrossRef

/-- What a file holds. -/
inductive Content
  | bytes (held : List UInt8)
  /-- Every attempt to read the file fails. -/
  | unreadable
  | store (tables : Store.Tables)
  deriving DecidableEq

namespace Content

/-- The bytes of a file. -/
def read : Content → Except FileError (List UInt8)
  | .bytes held => .ok held
  | .unreadable => .error .unreadable
  | .store tables => .ok tables.bytes

/-- What a file with these bytes holds. -/
def ofBytes (held : List UInt8) : Content :=
  match Store.Tables.ofBytes? held with
  | some tables => .store tables
  | none => .bytes held

end Content

/-- A file, a folder with what it holds under each name, or a link to another path. -/
inductive FileTree
  | file (content : Content)
  | folder (items : List (RawText × FileTree))
  | link (target : RawText)

/-- The names that lead from the top of a tree to a node, through folders alone. -/
abbrev Location := List RawText

namespace FileTree

/-- The folder that paths start from. -/
def home : Location :=
  ["tmp", "workfolder"]

def empty : FileTree :=
  .folder []

def items : FileTree → List (RawText × FileTree)
  | .folder items => items
  | _ => []

/-- Sets what a folder holds under a name. -/
def setItem (name : RawText) (node : FileTree) :
    List (RawText × FileTree) → List (RawText × FileTree)
  | [] => [(name, node)]
  | (key, old) :: rest =>
    if key = name then (key, node) :: rest else (key, old) :: setItem name node rest

/-- The node at a location. -/
def get? (tree : FileTree) : Location → Option FileTree
  | [] => some tree
  | name :: rest => (tree.items.lookup name).bind (get? · rest)

/-- Puts a node at a location; folders that are missing on the way are made. -/
def put (tree : FileTree) : Location → FileTree → FileTree
  | [], node => node
  | name :: rest, node =>
    .folder (setItem name (((tree.items.lookup name).getD empty).put rest node) tree.items)

/-- Files of which nothing is known but that there is a folder to start from. -/
def blank : FileTree :=
  empty.put home empty

/-- Takes the node at a location out of its folder. -/
def erase (tree : FileTree) : Location → FileTree
  | [] => tree
  | [name] =>
    match tree with
    | .folder items => .folder (items.filter (·.1 ≠ name))
    | node => node
  | name :: rest =>
    match tree, tree.items.lookup name with
    | .folder items, some node => .folder (setItem name (node.erase rest) items)
    | node, _ => node

mutual

/-- The number of nodes of a tree. -/
def size : FileTree → Nat
  | .file _ => 1
  | .folder items => itemsSize items + 1
  | .link _ => 1

def itemsSize : List (RawText × FileTree) → Nat
  | [] => 0
  | (_, node) :: rest => node.size + itemsSize rest

end

theorem lookup_setItem_self (name : RawText) (node : FileTree)
    (items : List (RawText × FileTree)) : (setItem name node items).lookup name = some node := by
  induction items with
  | nil => simp [setItem]
  | cons item rest ih =>
    obtain ⟨key, old⟩ := item
    by_cases h : key = name
    · simp [setItem, h]
    · have h' : (name == key) = false := by simpa using fun e => h e.symm
      simp [setItem, h, h', List.lookup_cons, ih]

/-- What is put at a location is found there. -/
theorem get?_put (tree : FileTree) (location : Location) (node : FileTree) :
    (tree.put location node).get? location = some node := by
  induction location generalizing tree with
  | nil => rfl
  | cons name rest ih => simp [put, get?, items, lookup_setItem_self, ih]

end FileTree

end CrossRef
