import CrossRef.FileTree.Basic
import CrossRef.Path

namespace CrossRef

namespace FileTree

/-- Where a path leads once all its links are followed. -/
inductive Trace
  | found (location : Location)
  /-- Nothing is there, but the folder that would hold it is; the path may ask for a folder. -/
  | vacant (location : Location) (asFolder : Bool)
  | failed (cause : FileError)
  deriving DecidableEq

/-- A link met on the way: the folder it stands in, its target, and the names behind it. -/
structure PendingLink where
  folder : Location
  target : RawText
  rest : List RawText

/-- The names of a path, with those that name nothing. -/
def pathNames (path : RawText) : List RawText :=
  (Path.segments path).map RawText.mk

/-- An empty name and a dot stay where they are. -/
def isIdle (name : RawText) : Bool :=
  name.isEmpty || name = "."

/-- Whether a name has more bytes than a folder takes. -/
def isOverlong (name : RawText) : Bool :=
  255 < name.size

/-- Follows names from a folder as far as the first link. -/
def walkNames (tree : FileTree) : Location → List RawText → PendingLink ⊕ Trace
  | here, [] => .inr (.found here)
  | here, name :: rest =>
    if isIdle name then walkNames tree here rest
    else if name = ".." then walkNames tree here.dropLast rest
    else if isOverlong name then .inr (.failed .nameTooLong)
    else
      match tree.get? (here ++ [name]) with
      | none =>
        .inr (if rest.all isIdle then .vacant (here ++ [name]) (!rest.isEmpty)
          else .failed .notFound)
      | some (.folder _) => walkNames tree (here ++ [name]) rest
      | some (.file _) =>
        .inr (if rest.isEmpty then .found (here ++ [name]) else .failed .notDirectory)
      | some (.link target) => .inl ⟨here, target, rest⟩

/-- Where a path starts: at the top, or at the folder that it is seen from. -/
def startOf (here : Location) (path : RawText) : Location :=
  if path.bytes.head? = some Path.slash then [] else here

/-- Follows names and links; after `fuel` links the path counts as a loop. -/
def followNames (tree : FileTree) : Nat → Location → List RawText → Trace
  | 0, _, _ => .failed .linkLoop
  | fuel + 1, here, names =>
    match walkNames tree here names with
    | .inr trace => trace
    | .inl pending =>
      followNames tree fuel (startOf pending.folder pending.target)
        (pathNames pending.target ++ pending.rest)

/-- The names and links of one path, of which no more than forty may be links. -/
def linkLimit : Nat := 41

/-- A path has fewer bytes than this. -/
def pathLimit : Nat := 4096

def holdsNul (path : RawText) : Bool :=
  path.bytes.any (· = 0)

/-- Follows a path. -/
def trace (tree : FileTree) (path : RawText) : Trace :=
  if holdsNul path then .failed .nulInName
  else if pathLimit ≤ path.size then .failed .nameTooLong
  else if path.isEmpty then .failed .notFound
  else followNames tree linkLimit (startOf home path) (pathNames path)

/-- The node a path leads to, never a link. -/
def nodeAt? (tree : FileTree) (path : RawText) : Option FileTree :=
  match tree.trace path with
  | .found location => tree.get? location
  | _ => none

def isPresent (tree : FileTree) (path : RawText) : Bool :=
  (tree.nodeAt? path).isSome

def isFile (tree : FileTree) (path : RawText) : Bool :=
  match tree.nodeAt? path with
  | some (.file _) => true
  | _ => false

def isFolder (tree : FileTree) (path : RawText) : Bool :=
  match tree.nodeAt? path with
  | some (.folder _) => true
  | _ => false

end FileTree

end CrossRef
