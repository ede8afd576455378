import CrossRef.Contents
import CrossRef.FileTree.Trace
import CrossRef.FileTree.Work

namespace CrossRef

namespace FileTree

/-- The bytes of the file at a path. -/
def readBytes (tree : FileTree) (path : RawText) : Except FileError (List UInt8) :=
  match tree.trace path with
  | .failed cause => .error cause
  | .vacant _ _ => .error .notFound
  | .found location =>
    match tree.get? location with
    | some (.file content) => content.read
    | some (.folder _) => .error .isDirectory
    | _ => .error .notFound

/-- The text of the file at a path, all of which must be UTF-8. -/
def readText (tree : FileTree) (path : RawText) : Except FileError String := do
  match Text.decode? (← tree.readBytes path) with
  | some chars => .ok (String.ofList chars)
  | none => .error .notText

/-- The lines of the tree's files. -/
def contents (tree : FileTree) : Contents :=
  fun path => (tree.readBytes path).toOption.map Contents.linesOfBytes

/-- Writes a file, which may be there or not; its folder must be there. -/
def writeFile (tree : FileTree) (path : RawText) (bytes : List UInt8) :
    Except FileError FileTree :=
  match tree.trace path with
  | .failed cause => .error cause
  | .vacant _ true => .error .isDirectory
  | .vacant location false => .ok (tree.put location (.file (.bytes bytes)))
  | .found location =>
    match tree.get? location with
    | some (.file .unreadable) => .error .unreadable
    | some (.file _) => .ok (tree.put location (.file (.bytes bytes)))
    | _ => .error .isDirectory

/-- The location of what a path itself names, which may be a link. -/
def ownLocation? (tree : FileTree) (path : RawText) : Option Location :=
  match Path.fileName? path with
  | none => none
  | some name =>
    match Path.parent? path with
    | none => none
    | some parent =>
      if parent.isEmpty then some (home ++ [name])
      else
        match tree.trace parent with
        | .found location => some (location ++ [name])
        | _ => none

/-- Whether a path itself names a link, broken or not. -/
def isLink (tree : FileTree) (path : RawText) : Bool :=
  match (tree.ownLocation? path).bind fun location => tree.get? location with
  | some (.link _) => true
  | _ => false

/-- Makes a folder where nothing is. -/
def makeFolder (tree : FileTree) (path : RawText) : Except FileError FileTree :=
  if tree.isLink path then .error .alreadyExists
  else
    match tree.trace path with
    | .failed cause => .error cause
    | .found _ => .error .alreadyExists
    | .vacant location _ => .ok (tree.put location empty)

/-- Makes a folder unless it is there. -/
def ensureFolder (tree : FileTree) (path : RawText) : Except FileError FileTree :=
  match tree.makeFolder path with
  | .ok made => .ok made
  | .error cause => if tree.isFolder path then .ok tree else .error cause

/-- Makes a folder and those above it, at most `depth` of them, where they are missing. -/
def makeFoldersUpTo : Nat → RawText → Work FileError Unit
  | 0, path => .change fun tree => tree.ensureFolder path
  | depth + 1, path => do
    if !path.isEmpty then
      match (← get).ensureFolder path with
      | .ok made => set made
      | .error .notFound =>
        match Path.parent? path with
        | none => throw .notFound
        | some parent =>
          makeFoldersUpTo depth parent
          .change fun tree => tree.ensureFolder path
      | .error cause => throw cause

/-- Makes a folder and all those above it. -/
def makeFolders (path : RawText) : Work FileError Unit :=
  makeFoldersUpTo (pathNames path).length path

/-- Makes the folder that is to hold a file, unless something is there. -/
def makeParent (path : RawText) : Work FileError Unit := do
  match Path.parent? path with
  | none => return
  | some parent => if !parent.isEmpty && !(← get).isPresent parent then makeFolders parent

/-- Puts a node at a path below folders that are made as needed. -/
def plant (path : RawText) (node : FileTree) : Work FileError Unit := do
  makeParent path
  match (← get).ownLocation? path with
  | some location => modify (·.put location node)
  | none => throw .notFound

end FileTree

end CrossRef
