import CrossRef.Command.Run
import CrossRef.FileTree.Changes

namespace CrossRef

/-- The file at a path. -/
def loadFile (path : String) : IO FileTree := do
  match ← (IO.FS.readBinFile path).toBaseIO with
  | .ok bytes => return .file (.ofBytes bytes.toList)
  | .error _ => return .file .unreadable

/-- The files below a folder. A link stands for what it leads to, unless that is a folder above. -/
partial def loadFolder (path : String) (above : List String) : IO FileTree := do
  let real ← IO.FS.realPath path
  let above := real.toString :: above
  let mut items := []
  for entry in ← real.readDir do
    let below := path ++ "/" ++ entry.fileName
    match ← entry.path.metadata.toBaseIO with
    | .error _ => pure ()
    | .ok info =>
      if info.type == .dir then
        let target ← IO.FS.realPath below
        if !above.contains target.toString then
          items := (↑entry.fileName, ← loadFolder below above) :: items
      else items := (↑entry.fileName, ← loadFile below) :: items
  return .folder items

/-- Writes what a run has changed. -/
def carryOut (change : FileTree.Change) : IO Unit := do
  match change with
  | .makeFolder location => IO.FS.createDirAll (FileTree.pathOf location).text
  | .writeFile location content =>
    match content.read with
    | .ok bytes => IO.FS.writeBinFile (FileTree.pathOf location).text ⟨bytes.toArray⟩
    | .error _ => pure ()
  | .remove location => IO.FS.removeFile (FileTree.pathOf location).text

end CrossRef

open CrossRef in
/-- Runs the command that the arguments ask for on the files below the working folder. -/
def main (pieces : List String) : IO UInt32 := do
  let started ← IO.monoMsNow
  let tree := FileTree.empty.put FileTree.home (← loadFolder "." [])
  let seconds := ((← IO.monoMsNow) - started) / 1000
  let palette := Palette.choose (← (← IO.getStdout).isTty) (← IO.getEnv "NO_COLOR").isSome
    (← IO.getEnv "SQLXREF_QUIET")
  let outcome := Outcome.ofPieces ⟨palette, s!"{seconds} seconds"⟩ tree pieces
  (tree.changes outcome.tree).forM carryOut
  IO.print outcome.output
  IO.eprint outcome.complaints
  return UInt32.ofNat outcome.code
