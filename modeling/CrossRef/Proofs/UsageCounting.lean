import CrossRef.Proofs.Merging
import Mathlib.Algebra.GroupWithZero.Nat

namespace CrossRef

namespace UsageCounts

def add (a b : UsageCounts) : UsageCounts :=
  { filesScanned := a.filesScanned + b.filesScanned
    filesSkipped := a.filesSkipped + b.filesSkipped
    linesScanned := a.linesScanned + b.linesScanned
    declarationLines := a.declarationLines + b.declarationLines
    usages := a.usages + b.usages
    viewUsages := a.viewUsages + b.viewUsages
    packageUsages := a.packageUsages + b.packageUsages
    routineUsages := a.routineUsages + b.routineUsages
    identifiersIssued := a.identifiersIssued + b.identifiersIssued }

theorem add_assoc (a b c : UsageCounts) : (a.add b).add c = a.add (b.add c) := by
  simp only [add, Nat.add_assoc]

theorem zero_add (a : UsageCounts) : zero.add a = a := by
  simp only [add, zero, Nat.zero_add]

/-- What is counted where these symbols are used, one after the other. -/
def ofTargets (targets : List Place) : UsageCounts :=
  { zero with
    usages := targets.length
    viewUsages := targets.countP (· matches .view ..)
    packageUsages := targets.countP (· matches .package ..)
    routineUsages := targets.countP (· matches .routine ..) }

/-- What is counted where these are the findings of all files. -/
def ofFindings (findings : List (Option Findings)) : UsageCounts :=
  { ofTargets ((findings.flatMap fun found => found.elim [] (·.mentions)).map (·.target)) with
    filesScanned := findings.countP (·.isSome)
    filesSkipped := findings.countP (·.isNone)
    linesScanned := (findings.map fun found => found.elim 0 (·.lines)).sum
    declarationLines := (findings.map fun found => found.elim 0 (·.declarationLines)).sum }

theorem ofTargets_append (first later : List Place) :
    ofTargets (first ++ later) = (ofTargets first).add (ofTargets later) := by
  simp [ofTargets, add, zero]

theorem ofFindings_append (first later : List (Option Findings)) :
    ofFindings (first ++ later) = (ofFindings first).add (ofFindings later) := by
  simp [ofFindings, ofTargets, add, zero]

theorem countUsage_eq_add (stats : UsageCounts) (target : Place) :
    stats.countUsage target = stats.add (ofTargets [target]) := by
  cases target <;> rfl

/-- A use is one of a view, of a package or of a routine. -/
theorem usages_ofTargets (targets : List Place) :
    (ofTargets targets).usages = (ofTargets targets).viewUsages +
      (ofTargets targets).packageUsages + (ofTargets targets).routineUsages := by
  induction targets with
  | nil => rfl
  | cons target rest ih =>
    have hsplit := ofTargets_append [target] rest
    rw [List.singleton_append] at hsplit
    rw [hsplit]
    simp only [add]
    cases target <;> simp only [ofTargets] at ih ⊢ <;> simp <;> omega

end UsageCounts

namespace Resolution

theorem recordMentions_snd (file : IndexedFile) (mentions : List Mention)
    (state : Catalog × UsageCounts) :
    (mentions.foldl (recordMention file) state).2 =
      state.2.add (.ofTargets (mentions.map (·.target))) := by
  induction mentions generalizing state with
  | nil => rfl
  | cons mention rest ih =>
    have hfirst : (recordMention file state mention).2 =
        state.2.add (.ofTargets [mention.target]) := state.2.countUsage_eq_add mention.target
    rw [List.foldl_cons, ih, hfirst, UsageCounts.add_assoc, ← UsageCounts.ofTargets_append]
    rfl

theorem recordFindings_snd (state : Catalog × UsageCounts) (file : IndexedFile)
    (findings : Option Findings) :
    (recordFindings state file findings).2 = state.2.add (.ofFindings [findings]) := by
  cases findings with
  | none => rfl
  | some found =>
    have hmentions := recordMentions_snd file found.mentions (state.1, state.2.countFile found)
    rw [recordFindings, hmentions]
    simp [UsageCounts.add, UsageCounts.countFile, UsageCounts.ofFindings, UsageCounts.ofTargets,
      UsageCounts.zero]

/-- The counts of a search are those of its findings. -/
theorem recordAll_snd (catalog : Catalog) {findings : List (Option Findings)}
    (hlength : findings.length = catalog.files.length) :
    (recordAll catalog findings).2 =
      { UsageCounts.ofFindings findings with
        identifiersIssued := ((recordAll catalog findings).1.last - catalog.last).toNat } := by
  have fold (pairs : List (IndexedFile × Option Findings)) (state : Catalog × UsageCounts) :
      (pairs.foldl (fun state entry => recordFindings state entry.1 entry.2) state).2 =
        state.2.add (.ofFindings (pairs.map Prod.snd)) := by
    induction pairs generalizing state with
    | nil => rfl
    | cons entry rest ih =>
      rw [List.foldl_cons, ih, recordFindings_snd, UsageCounts.add_assoc,
        ← UsageCounts.ofFindings_append]
      rfl
  have hall := fold (catalog.files.zip findings) (catalog, .zero)
  rw [UsageCounts.zero_add, List.map_snd_zip (Nat.le_of_eq hlength)] at hall
  exact congrArg (fun stats : UsageCounts => { stats with
    identifiersIssued := ((recordAll catalog findings).1.last - catalog.last).toNat }) hall

end Resolution

namespace Catalog

/-- In whatever order the files are searched, the counts are those of the files in their order. -/
theorem resolveIn_snd (headers : HeaderRules) (source : Contents) {catalog : Catalog}
    {order : List Nat} (hp : order.Perm (List.range catalog.files.length)) :
    (catalog.resolveIn order headers source).2 =
      { UsageCounts.ofFindings
          (catalog.files.map (Resolution.searchFile headers catalog.needles source)) with
        identifiersIssued :=
          ((catalog.resolveIn order headers source).1.last - catalog.last).toNat } := by
  have hlength := Resolution.length_searchAll headers source catalog order
  rw [resolveIn, Resolution.recordAll_snd catalog hlength,
    Resolution.searchAll_of_perm headers source hp]

theorem countP_families (catalog : Catalog) (p : Family × RawText → Bool) :
    catalog.families.countP p = catalog.files.countP fun file => p (file.kind, file.path) := by
  rw [families, List.countP_map]
  rfl

/-- Every file is either searched or skipped. -/
theorem files_of_resolveIn (headers : HeaderRules) (source : Contents) {catalog : Catalog}
    {order : List Nat} (hp : order.Perm (List.range catalog.files.length)) :
    (catalog.resolveIn order headers source).2.filesSkipped =
        catalog.families.countP (source ·.2 = none) ∧
      (catalog.resolveIn order headers source).2.filesScanned =
        catalog.families.countP (source ·.2 ≠ none) := by
  rw [resolveIn_snd headers source hp, countP_families, countP_families]
  simp only [UsageCounts.ofFindings, List.countP_map]
  constructor
  · apply List.countP_congr
    intro file _
    simp [Resolution.searchFile]
  · apply List.countP_congr
    intro file _
    simp [Resolution.searchFile, Option.isSome_iff_ne_none]

end Catalog

end CrossRef
