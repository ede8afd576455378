import CrossRef.FileTree.Basic

namespace CrossRef

namespace FileTree

/-- Work on a tree that may fail. What has been done by then stays. -/
abbrev Work (ε α : Type) := ExceptT ε (StateM FileTree) α

namespace Work

/-- What work on a tree gives, and the tree it leaves. -/
def on {ε α : Type} (work : Work ε α) (tree : FileTree) : Except ε α × FileTree :=
  work.run.run tree

/-- A change of the tree that is made as a whole or not at all. -/
def change {ε : Type} (step : FileTree → Except ε FileTree) : Work ε Unit := do
  match step (← get) with
  | .ok tree => set tree
  | .error cause => throw cause

end Work

end FileTree

end CrossRef
