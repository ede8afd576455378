import CrossRef.FileTree.Basic
import CrossRef.Path

namespace CrossRef

namespace FileTree

/-- What has to be written where one tree is to become another. -/
inductive Change
  | makeFolder (location : Location)
  | writeFile (location : Location) (content : Content)
  | remove (location : Location)
  deriving DecidableEq

/-- The names that lead from one location to another. -/
def namesBetween : Location → Location → List RawText
  | a :: start, b :: goal =>
    if a = b then namesBetween start goal else (a :: start).map (fun _ => ↑"..") ++ b :: goal
  | start, goal => start.map (fun _ => ↑"..") ++ goal

/-- The path of a location. -/
def pathOf (location : Location) : RawText :=
  Path.ofSegments ((namesBetween home location).map RawText.bytes)

mutual

/-- What of the node at a location is not in the old tree. -/
def changesAt (old : FileTree) (here : Location) : FileTree → List Change
  | .file content =>
    match old.get? here with
    | some (.file before) => if before = content then [] else [.writeFile here content]
    | _ => [.writeFile here content]
  | .folder items =>
    match old.get? here with
    | some (.folder _) => itemChanges old here items
    | _ => .makeFolder here :: itemChanges old here items
  | .link _ => []

def itemChanges (old : FileTree) (here : Location) : List (RawText × FileTree) → List Change
  | [] => []
  | (name, node) :: rest => changesAt old (here ++ [name]) node ++ itemChanges old here rest

end

mutual

/-- What of the node at a location, and of what it holds, is not in the new tree. -/
def removalsAt (new : FileTree) (here : Location) : FileTree → List Change
  | .folder items =>
    match new.get? here with
    | none => [.remove here]
    | some _ => itemRemovals new here items
  | _ => if (new.get? here).isNone then [.remove here] else []

def itemRemovals (new : FileTree) (here : Location) : List (RawText × FileTree) → List Change
  | [] => []
  | (name, node) :: rest => removalsAt new (here ++ [name]) node ++ itemRemovals new here rest

end

/-- The changes that lead from one tree to another: what is gone, then what is new, folders
first. -/
def changes (old new : FileTree) : List Change :=
  removalsAt new [] old ++ changesAt old [] new

end FileTree

end CrossRef
