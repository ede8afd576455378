import CrossRef.FileTree.Work
import CrossRef.Palette

namespace CrossRef

/-- What surrounds the run of a command. -/
structure Surroundings where
  palette : Palette
  /-- How long the indexing took, in words. -/
  elapsed : String

/-- The files and what has been said so far. -/
structure Console where
  tree : FileTree
  output : String
  complaints : String

/-- A part of a run. What is said and written stays even if it fails. -/
abbrev Run := ReaderT Surroundings (ExceptT Error (StateM Console))

namespace Run

/-- Says a line. -/
def say (line : String) : Run Unit :=
  modify fun console => { console with output := console.output ++ line ++ "\n" }

/-- Says a line to the side. -/
def complain (line : String) : Run Unit :=
  modify fun console => { console with complaints := console.complaints ++ line ++ "\n" }

def palette : Run Palette := do
  return (← read).palette

def warn (text : String) : Run Unit := do
  complain ("⚠️ " ++ (← palette).warning.paint text)

def succeed (text : String) : Run Unit := do
  say ("✅ " ++ (← palette).success.paint text)

/-- Says a value under a label. -/
def tell (icon label value : String) : Run Unit := do
  let painted := (← palette).label.paint label
  say s!"{icon} {painted}: {value}"

def tree : Run FileTree := do
  return (← get).tree

def setTree (tree : FileTree) : Run Unit :=
  modify fun console => { console with tree }

/-- Works on the files. -/
def onTree (work : FileTree.Work ε α) : Run (Except ε α) := do
  let (result, tree) := work.on (← tree)
  setTree tree
  return result

/-- What a step gives, or the failure of the run. -/
def orFail : Except Error α → Run α
  | .ok value => pure value
  | .error error => throw error

def orFileError (step : Except FileError α) : Run α :=
  orFail (step.mapError .file)

def orStoreError (step : Except StoreError α) : Run α :=
  orFail (step.mapError .store)

end Run

end CrossRef
