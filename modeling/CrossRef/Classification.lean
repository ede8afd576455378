import CrossRef.Catalog.Basic
import CrossRef.Settings.Basic
import CrossRef.Text.Search

namespace CrossRef

/-- What a walk that follows links meets below a directory. -/
inductive Entry
  | file (name : RawText)
  | folder (name : RawText) (entries : List Entry)

mutual

/-- The paths of the files at and below an entry, except below ignored folders. -/
def Entry.paths (ignored : RawText → Bool) (base : RawText) : Entry → List RawText
  | .file name => [Path.join base name]
  | .folder name entries =>
    if ignored name then [] else pathsBelow ignored (Path.join base name) entries

/-- The paths of the files below a directory, entry by entry. -/
def Entry.pathsBelow (ignored : RawText → Bool) (base : RawText) : List Entry → List RawText
  | [] => []
  | entry :: entries => entry.paths ignored base ++ pathsBelow ignored base entries

end

structure FamilyCounts where
  sql : Nat
  native : Nat
  dropped : Nat
  deriving DecidableEq

namespace FileSettings

/-- The text after the last dot of the file name, or all of it. A name that is no text has none. -/
def extension? (path : RawText) : Option String :=
  ((Path.fileName? path).bind RawText.text?).map fun name =>
    match Text.cutAtLast '.' name.toList with
    | some (_, extension) => String.ofList extension
    | none => name

/-- The kind of a file by its extension; an extension in both lists is a sql one. -/
def familyOf? (files : FileSettings) (path : RawText) : Option Family :=
  match extension? path with
  | none => none
  | some extension =>
    if files.sqlExtensions.contains extension then some .sql
    else if files.nativeExtensions.contains extension then some .native
    else none

/-- Whether a folder of this name is left out; the empty name leaves out none, and a name that is no
text is not left out. -/
def leavesOut (files : FileSettings) (name : RawText) : Bool :=
  name.text?.any fun text => !text.isEmpty && files.ignoreDirs.contains text

end FileSettings

namespace Classification

/-- Adds a file that is of a known kind. -/
def addPath (files : FileSettings) (state : Catalog × FamilyCounts) (path : RawText) :
    Catalog × FamilyCounts :=
  let (catalog, stats) := state
  match files.familyOf? path with
  | some .sql => (catalog.addFile path .sql, { stats with sql := stats.sql + 1 })
  | some .native => (catalog.addFile path .native, { stats with native := stats.native + 1 })
  | none => (catalog, { stats with dropped := stats.dropped + 1 })

/-- Adds the files below the root, whose entries are given if it is a directory. Gives the catalog
as it is then, and how many files there are of each kind or why there are none. -/
def classify (files : FileSettings) (entries : Option (List Entry)) (catalog : Catalog) :
    Catalog × Except Error FamilyCounts :=
  match entries with
  | none => (catalog, .error (.rootNotFound files.root))
  | some entries =>
    let (found, counts) := (Entry.pathsBelow files.leavesOut files.root entries).foldl
      (addPath files) (catalog, ⟨0, 0, 0⟩)
    (found, .ok counts)

end Classification

end CrossRef
