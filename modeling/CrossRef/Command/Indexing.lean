import CrossRef.Catalog.Counts
import CrossRef.Command.Basic
import CrossRef.Command.Console
import CrossRef.FileTree.Walk
import CrossRef.Index
import CrossRef.Settings.Files

namespace CrossRef

/-- The settings with what the user says about them. -/
def SourceOptions.override (options : SourceOptions) (settings : Settings) : Settings :=
  { settings with
    files :=
      { settings.files with root := (options.root.map RawText.ofText).getD settings.files.root }
    process :=
      { blindOffset := options.blindOffset.getD settings.process.blindOffset
        parallel := settings.process.parallel && !options.sequential } }

/-- The settings of a run: those of the file that is named or found, else the standard ones. -/
def SourceOptions.settings (options : SourceOptions) (tree : FileTree) : Except Error Settings :=
  match (options.config.map RawText.ofText).or (Settings.discover? tree "." options.project) with
  | none => .ok (options.override .standard)
  | some path =>
    match Settings.load tree path with
    | .error error => .error error
    | .ok none => .error (.settingsMissing path.text)
    | .ok (some settings) => .ok (options.override settings)

namespace Run

/-- Loads the settings and warns of what is odd in them. -/
def readSettings (options : SourceOptions) : Run Settings := do
  let settings ← orFail (options.settings (← tree))
  settings.warnings.forM warn
  return settings

/-- Says how large an index is. -/
def sayIndexed (catalog : Catalog) : Run Unit := do
  let palette ← palette
  let stats := catalog.stats
  let figure (icon : String) (n : Nat) := palette.info.paint icon ++ " " ++ toString n
  say ""
  say (palette.success.paint "✅" ++ " " ++
    palette.success.paint ("Complete in " ++ (← read).elapsed))
  say ("  " ++ "  ".intercalate
    [figure "📄" stats.files, figure "📦" stats.symbols, figure "🔗" stats.usages])

/-- Indexes the files below the root. -/
def index (settings : Settings) : Run (Catalog × Summary) := do
  let tree ← tree
  let (_, outcome) := (IndexPlan.standard settings).run (tree.entries settings.files.root)
    tree.contents
  let (catalog, summary) ← orFail outcome
  if !(← palette).quiet then sayIndexed catalog
  summary.skipped.forM fun path => warn ("skipped unreadable file " ++ path.text)
  return (catalog, summary)

end Run

end CrossRef
