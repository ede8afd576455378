import CrossRef.Catalog.Use
import CrossRef.Doc.Scan
import CrossRef.Header
import CrossRef.Needle
import CrossRef.Progress
import CrossRef.Contents

namespace CrossRef

/-- A use found in a file. -/
structure Mention where
  target : Place
  line : UInt32
  deriving DecidableEq

/-- What was found in one file. -/
structure Findings where
  mentions : List Mention
  lines : Nat
  declarationLines : Nat
  deriving DecidableEq

structure UsageCounts where
  filesScanned : Nat
  filesSkipped : Nat
  linesScanned : Nat
  declarationLines : Nat
  usages : Nat
  viewUsages : Nat
  packageUsages : Nat
  routineUsages : Nat
  identifiersIssued : Nat
  deriving DecidableEq

namespace UsageCounts

def zero : UsageCounts :=
  ⟨0, 0, 0, 0, 0, 0, 0, 0, 0⟩

/-- Counts a file that was read. -/
def countFile (stats : UsageCounts) (found : Findings) : UsageCounts :=
  { stats with
    filesScanned := stats.filesScanned + 1
    linesScanned := stats.linesScanned + found.lines
    declarationLines := stats.declarationLines + found.declarationLines }

/-- Counts a use by what is used. -/
def countUsage (stats : UsageCounts) (target : Place) : UsageCounts :=
  let stats := { stats with usages := stats.usages + 1 }
  match target with
  | .view .. => { stats with viewUsages := stats.viewUsages + 1 }
  | .package .. => { stats with packageUsages := stats.packageUsages + 1 }
  | .routine .. => { stats with routineUsages := stats.routineUsages + 1 }

def render (stats : UsageCounts) : String :=
  Text.unlines
    ["Usage Resolver Stats:",
      s!"  Files scanned: {stats.filesScanned}",
      s!"  Files skipped: {stats.filesSkipped}",
      s!"  Lines scanned: {stats.linesScanned}",
      s!"  Declaration lines: {stats.declarationLines}",
      s!"  Usages recorded: {stats.usages} (views: {stats.viewUsages}, " ++
        s!"packages: {stats.packageUsages}, routines: {stats.routineUsages})",
      s!"  Identifiers issued: {stats.identifiersIssued}"]

end UsageCounts

namespace Resolution

/-- The uses on a line that declares nothing. -/
def lineMentions (needles : List Needle) (line : String) (number : UInt32) : List Mention :=
  let upperLine := Text.upper line
  (needles.filter (·.occursIn upperLine)).map fun needle => ⟨needle.target, number⟩

/-- The uses on the lines from a position on, and how many of these lines declare something. -/
def searchFrom (headers : HeaderRules) (needles : List Needle) (position : Nat)
    (packageOpen : Bool) : List String → List Mention × Nat
  | [] => ([], 0)
  | line :: rest =>
    if isComment line then searchFrom headers needles (position + 1) packageOpen rest
    else
      let reading := headers.readLine packageOpen line
      let (mentions, declared) := searchFrom headers needles (position + 1) reading.packageOpen rest
      if reading.isDeclaration then (mentions, declared + 1)
      else (lineMentions needles line (lineNumber position) ++ mentions, declared)

/-- Searches the lines of a file. Where nothing is declared nothing is searched. -/
def searchLines (headers : HeaderRules) (needles : List Needle) (lines : List String) : Findings :=
  if needles.isEmpty then ⟨[], lines.length, 0⟩
  else
    let (mentions, declared) := searchFrom headers needles 0 false lines
    ⟨mentions, lines.length, declared⟩

def searchFile (headers : HeaderRules) (needles : List Needle) (source : Contents)
    (file : IndexedFile) : Option Findings :=
  (source file.path).map (searchLines headers needles)

/-- Does a piece of work for each number in the given order and puts each result into its slot. -/
def inSlots (order : List Nat) (work : Nat → σ) (count : Nat) : List (Option σ) :=
  order.foldl (fun slots i => slots.set i (some (work i))) (List.replicate count none)

/-- The findings of all files, which are searched in the given order. -/
def searchAll (headers : HeaderRules) (source : Contents) (catalog : Catalog)
    (order : List Nat) : List (Option Findings) :=
  let needles := catalog.needles
  let work (i : Nat) := (catalog.files[i]?).bind (searchFile headers needles source)
  (inSlots order work catalog.files.length).map Option.join

/-- Records a mention in a file. -/
def recordMention (file : IndexedFile) (state : Catalog × UsageCounts) (mention : Mention) :
    Catalog × UsageCounts :=
  let (catalog, stats) := state
  ((catalog.addUse mention.target file.key ⟨file.id, mention.line⟩).1,
    stats.countUsage mention.target)

/-- Records what was found in a file. -/
def recordFindings (state : Catalog × UsageCounts) (file : IndexedFile)
    (findings : Option Findings) : Catalog × UsageCounts :=
  match findings with
  | none => (state.1, { state.2 with filesSkipped := state.2.filesSkipped + 1 })
  | some found => found.mentions.foldl (recordMention file) (state.1, state.2.countFile found)

/-- Records what was found in all files, in the order of the files. -/
def recordAll (catalog : Catalog) (findings : List (Option Findings)) : Catalog × UsageCounts :=
  let (found, stats) := (catalog.files.zip findings).foldl
    (fun state (file, found) => recordFindings state file found) (catalog, .zero)
  (found, { stats with identifiersIssued := (found.last - catalog.last).toNat })

/-- What is told while the files are searched in the given order. -/
def messages (catalog : Catalog) (order : List Nat) : List Progress :=
  .started .resolving catalog.files.length ::
    order.map (fun i => .advanced .resolving (i + 1) (((catalog.files[i]?).map (·.key)).getD "")) ++
    [.finished .resolving]

end Resolution

/-- Finds every use of every symbol. The files are searched in the given order, one after the other
or side by side, and the findings are recorded in the order of the files. -/
def Catalog.resolveIn (order : List Nat) (headers : HeaderRules) (source : Contents)
    (catalog : Catalog) : Catalog × UsageCounts :=
  Resolution.recordAll catalog (Resolution.searchAll headers source catalog order)

/-- Finds every use of every symbol, file after file. -/
def Catalog.resolve (headers : HeaderRules) (source : Contents) (catalog : Catalog) :
    Catalog × UsageCounts :=
  catalog.resolveIn (List.range catalog.files.length) headers source

end CrossRef
