import CrossRef.Classification
import CrossRef.FileTree.Trace

namespace CrossRef

namespace FileTree

/-- The names a folder holds, sorted by their bytes. -/
def sortedNames (items : List (RawText × FileTree)) : List RawText :=
  (items.map (·.1)).mergeSort fun a b => !decide (b.bytes < a.bytes)

/-- The entries below the folder at a path, sorted by name, to a depth of `depth`. Links are
followed; those that are broken and those that lead back to a folder being walked are left out, as
is what lies in a folder whose path leads nowhere because it is too long or goes through too many
links. -/
def entriesAt (tree : FileTree) : Nat → List Location → RawText → List Entry
  | 0, _, _ => []
  | depth + 1, walked, path =>
    match tree.trace path with
    | .found here =>
      let walked := here :: walked
      (sortedNames (((tree.get? here).map items).getD [])).filterMap fun name =>
        let below := Path.join path name
        match tree.get? (here ++ [name]) with
        | some (.file _) => some (.file name)
        | some (.folder _) => some (.folder name (entriesAt tree depth walked below))
        | some (.link _) =>
          match tree.trace below with
          | .found location =>
            match tree.get? location with
            | some (.file _) => some (.file name)
            | some (.folder _) =>
              if walked.contains location then none
              else some (.folder name (entriesAt tree depth walked below))
            | _ => none
          | _ => none
        | none => none
    | _ => []

/-- Along a walk, no folder is entered by a link while it is being walked, so a walk is no deeper
than the square of the number of nodes. -/
def depthBound (tree : FileTree) : Nat :=
  tree.size * tree.size + 1

/-- The entries below the root, if it is a folder. -/
def entries (tree : FileTree) (root : RawText) : Option (List Entry) :=
  match tree.trace root with
  | .found location =>
    match tree.get? location with
    | some (.folder _) => some (tree.entriesAt tree.depthBound [] root)
    | _ => none
  | _ => none

end FileTree

end CrossRef
