import CrossRef.Classification
import CrossRef.Extraction
import CrossRef.Resolution

namespace CrossRef

/-- What a run did, phase by phase. -/
structure Summary where
  classification : FamilyCounts
  extraction : Tally
  resolution : UsageCounts
  /-- The sql files that could not be read. -/
  skipped : List RawText
  deriving DecidableEq

def Summary.render (summary : Summary) : String :=
  Text.unlines
    ["Index Summary:",
      s!"  Files: {summary.classification.sql} sql, {summary.classification.native} native, " ++
        s!"{summary.classification.dropped} ignored",
      s!"  Declarations: {summary.extraction.total} ({summary.extraction.documented} documented)",
      s!"  Usages: {summary.resolution.usages}",
      s!"  Skipped: {summary.skipped.length}"]

/-- What an index is made of besides its files: the settings, how doc blocks are found, and the
order in which the files are searched for uses. -/
structure IndexPlan where
  settings : Settings
  docs : List String → List DocBlock
  order : Catalog → List Nat

namespace IndexPlan

/-- The usual way to index: files are searched one after the other. -/
def standard (settings : Settings) : IndexPlan :=
  ⟨settings, Doc.scan, fun catalog => List.range catalog.files.length⟩

def headers (plan : IndexPlan) : HeaderRules :=
  ⟨plan.settings.pages.view⟩

def rules (plan : IndexPlan) : DeclarationRules :=
  ⟨plan.headers, plan.settings.process.window⟩

/-- The state of the extraction of all files. -/
structure Extracted where
  catalog : Catalog
  tally : Tally
  skipped : List RawText
  messages : List Progress

/-- Extracts the declarations of a sql file, the `n`th from zero. -/
def declareFile (plan : IndexPlan) (source : Contents) (state : Extracted) (path : RawText)
    (index n : Nat) : Extracted :=
  let told := Progress.advanced .extracting (n + 1) path.text
  match source path with
  | some lines =>
    let (catalog, tally) := plan.rules.extract state.catalog index lines (plan.docs lines)
    { state with
      catalog, tally := state.tally.add tally, messages := state.messages ++ [told] }
  | none =>
    { state with
      skipped := state.skipped ++ [path]
      messages := state.messages ++ [.skipped path.text, told] }

/-- The sql files of a catalog with their positions. -/
def sqlFiles (catalog : Catalog) : List (RawText × Nat) :=
  (catalog.files.zipIdx.filter fun (file, _) => file.kind = .sql).map fun (file, index) =>
    (file.path, index)

/-- Extracts the declarations of all sql files. -/
def declareAll (plan : IndexPlan) (source : Contents) (catalog : Catalog) : Extracted :=
  let files := sqlFiles catalog
  let state := files.zipIdx.foldl
    (fun state ((path, index), n) => plan.declareFile source state path index n)
    ⟨catalog, .zero, [], [.started .extracting files.length]⟩
  { state with messages := state.messages ++ [.finished .extracting] }

/-- Indexes the files below the root: finds the files, their declarations, and all uses. -/
def run (plan : IndexPlan) (entries : Option (List Entry)) (source : Contents) :
    List Progress × Except Error (Catalog × Summary) :=
  let start := Progress.started .classifying 0
  match Classification.classify plan.settings.files entries .empty with
  | (_, .error error) => ([start], .error error)
  | (classified, .ok classification) =>
    let extracted := plan.declareAll source classified
    let order := plan.order extracted.catalog
    let (catalog, resolution) := extracted.catalog.resolveIn order plan.headers source
    ([start, .finished .classifying] ++ extracted.messages ++
        Resolution.messages extracted.catalog order,
      .ok (catalog, ⟨classification, extracted.tally, resolution, extracted.skipped⟩))

end IndexPlan

end CrossRef
