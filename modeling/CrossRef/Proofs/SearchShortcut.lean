import CrossRef.Proofs.LineWalk
import CrossRef.Proofs.SearchTexts
import CrossRef.Proofs.UsageCounting

namespace CrossRef

/-- Findings in which the lines that declare something were not counted. -/
def Findings.uncounted (found : Findings) : Findings :=
  { found with declarationLines := 0 }

namespace Resolution

/-- What there is to find on the lines of a file if each of them is read: the uses on those that are
no comments and declare nothing, and how many declare something. -/
def everyLine (headers : HeaderRules) (needles : List Needle) (lines : List String) : Findings :=
  let read := readFrom headers 0 false lines
  { mentions := (read.filter fun entry =>
      !isComment entry.1.1 && !entry.1.2.isDeclaration).flatMap fun entry =>
        lineMentions needles entry.1.1 (lineNumber entry.2)
    lines := lines.length
    declarationLines := read.countP (·.1.2.isDeclaration) }

/-- What there is to find in a file, unless it cannot be read. -/
def everyLineOf (headers : HeaderRules) (needles : List Needle) (source : Contents)
    (file : IndexedFile) : Option Findings :=
  (source file.path).map (everyLine headers needles)

theorem searchFrom_eq_everyLine (headers : HeaderRules) (needles : List Needle)
    (lines : List String) :
    searchFrom headers needles 0 false lines =
      ((everyLine headers needles lines).mentions,
        (everyLine headers needles lines).declarationLines) := by
  rw [searchFrom_eq_walk, everyLine, List.countP_eq_length_filter]

/-- Where there is nothing to search for, no line is read: nothing would be found, but no line is
counted either. -/
theorem searchLines_eq_ite (headers : HeaderRules) (needles : List Needle) (lines : List String) :
    searchLines headers needles lines =
      if needles = [] then (everyLine headers needles lines).uncounted
      else everyLine headers needles lines := by
  have hread := searchFrom_eq_everyLine headers needles lines
  by_cases hempty : needles = []
  · have hnothing : (everyLine headers needles lines).mentions = [] := by
      have hfirst := searchFrom_nil_needles headers 0 false lines
      rw [← hempty, hread] at hfirst
      exact hfirst
    have hskipped : searchLines headers needles lines = ⟨[], lines.length, 0⟩ := by
      simp [searchLines, hempty]
    rw [if_pos hempty, hskipped, Findings.uncounted, hnothing]
    rfl
  · have hsearched : needles.isEmpty = false := by simpa using hempty
    rw [if_neg hempty, searchLines, hsearched, hread]
    rfl

theorem searchFile_eq_ite (headers : HeaderRules) (needles : List Needle) (source : Contents)
    (file : IndexedFile) :
    searchFile headers needles source file =
      if needles = [] then (everyLineOf headers needles source file).map Findings.uncounted
      else everyLineOf headers needles source file := by
  cases hlines : source file.path with
  | none => simp [searchFile, everyLineOf, hlines]
  | some lines =>
    simp only [searchFile, everyLineOf, hlines, Option.map_some, searchLines_eq_ite]
    split <;> rfl

theorem recordsOf_uncounted (file : IndexedFile) (findings : Option Findings) :
    recordsOf file (findings.map Findings.uncounted) = recordsOf file findings := by
  cases findings <;> rfl

theorem ofFindings_uncounted (findings : List (Option Findings)) :
    UsageCounts.ofFindings (findings.map (Option.map Findings.uncounted)) =
      { UsageCounts.ofFindings findings with declarationLines := 0 } := by
  induction findings with
  | nil => rfl
  | cons found rest ih =>
    have hfirst : UsageCounts.ofFindings [found.map Findings.uncounted] =
        { UsageCounts.ofFindings [found] with declarationLines := 0 } := by
      cases found <;> rfl
    have hleft := UsageCounts.ofFindings_append [found.map Findings.uncounted]
      (rest.map (Option.map Findings.uncounted))
    have hright := UsageCounts.ofFindings_append [found] rest
    rw [List.singleton_append] at hleft hright
    rw [List.map_cons, hleft, hright, hfirst, ih]
    rfl

/-- What is not counted among the findings is not counted in the end, and nothing else changes. -/
theorem recordAll_uncounted (catalog : Catalog) {findings : List (Option Findings)}
    (hlength : findings.length = catalog.files.length) :
    recordAll catalog (findings.map (Option.map Findings.uncounted)) =
      ((recordAll catalog findings).1,
        { (recordAll catalog findings).2 with declarationLines := 0 }) := by
  have hlater : (findings.map (Option.map Findings.uncounted)).length =
      catalog.files.length := by rw [List.length_map, hlength]
  have hcatalog : (recordAll catalog (findings.map (Option.map Findings.uncounted))).1 =
      (recordAll catalog findings).1 := by
    rw [recordAll_fst, recordAll_fst, List.zip_map_right, List.flatMap_map]
    simp only [Prod.map_fst, Prod.map_snd, id_eq, recordsOf_uncounted]
  refine Prod.ext hcatalog ?_
  rw [recordAll_snd catalog hlater, recordAll_snd catalog hlength, ofFindings_uncounted, hcatalog]

end Resolution

namespace Catalog

/-- Finds every use of every symbol on files of which each line is read, in any case. -/
def resolveEveryLine (headers : HeaderRules) (source : Contents) (catalog : Catalog) :
    Catalog × UsageCounts :=
  Resolution.recordAll catalog
    (catalog.files.map (Resolution.everyLineOf headers catalog.needles source))

theorem needles_eq_nil_iff (catalog : Catalog) : catalog.needles = [] ↔ catalog.symbols = [] := by
  have hlength := catalog.needles_places_perm.length_eq
  rw [List.length_map, List.length_map] at hlength
  rw [← List.length_eq_zero_iff, ← List.length_eq_zero_iff, hlength]

theorem resolveIn_eq_ite (headers : HeaderRules) (source : Contents) {catalog : Catalog}
    {order : List Nat} (hp : order.Perm (List.range catalog.files.length)) :
    catalog.resolveIn order headers source =
      if catalog.symbols = [] then
        ((catalog.resolveEveryLine headers source).1,
          { (catalog.resolveEveryLine headers source).2 with declarationLines := 0 })
      else catalog.resolveEveryLine headers source := by
  rw [resolveIn, Resolution.searchAll_of_perm headers source hp]
  by_cases hnone : catalog.symbols = []
  · have hneedles := catalog.needles_eq_nil_iff.mpr hnone
    have hfile : Resolution.searchFile headers catalog.needles source =
        fun file => (Resolution.everyLineOf headers catalog.needles source file).map
          Findings.uncounted := by
      funext file
      rw [Resolution.searchFile_eq_ite, if_pos hneedles]
    have hall := Resolution.recordAll_uncounted catalog
      (List.length_map (Resolution.everyLineOf headers catalog.needles source))
    rw [List.map_map] at hall
    rw [if_pos hnone, hfile]
    exact hall
  · have hneedles : catalog.needles ≠ [] := mt catalog.needles_eq_nil_iff.mp hnone
    have hfile : Resolution.searchFile headers catalog.needles source =
        Resolution.everyLineOf headers catalog.needles source := by
      funext file
      rw [Resolution.searchFile_eq_ite, if_neg hneedles]
    rw [if_neg hnone, hfile, resolveEveryLine]

/-- The lines that declare something are counted as none exactly if no file has such a line. -/
theorem declarationLines_resolveEveryLine (headers : HeaderRules) (source : Contents)
    (catalog : Catalog) :
    (catalog.resolveEveryLine headers source).2.declarationLines = 0 ↔
      ∀ file ∈ catalog.files, ∀ lines, source file.path = some lines →
        (Resolution.everyLine headers catalog.needles lines).declarationLines = 0 := by
  rw [resolveEveryLine, Resolution.recordAll_snd catalog (List.length_map _)]
  simp only [UsageCounts.ofFindings, List.map_map, List.sum_eq_zero_iff_forall_eq_nat, List.mem_map,
    Function.comp_def, Resolution.everyLineOf]
  constructor
  · intro h file hfile lines hlines
    have hzero := h _ ⟨file, hfile, rfl⟩
    simpa [hlines] using hzero
  · intro h n hn
    obtain ⟨file, hfile, rfl⟩ := hn
    cases hlines : source file.path with
    | none => rfl
    | some lines => exact h file hfile lines hlines

/-- A search finds what there is to find on every line of every file, but in a catalog without
symbols it does not count the lines that declare something: only there, and only if a file has
such a line, do its counts differ from those of a search that reads each line. -/
theorem resolveIn_counts_every_line_iff (headers : HeaderRules) (source : Contents)
    (catalog : Catalog) {order : List Nat} (hp : order.Perm (List.range catalog.files.length)) :
    (∀ file lines, source file.path = some lines →
      Resolution.searchFile headers catalog.needles source file =
        some { Resolution.everyLine headers catalog.needles lines with
          declarationLines := if catalog.symbols = [] then 0
            else (Resolution.everyLine headers catalog.needles lines).declarationLines }) ∧
      (catalog.resolveIn order headers source).1 =
        (catalog.resolveEveryLine headers source).1 ∧
      (catalog.resolveIn order headers source).2 =
        { (catalog.resolveEveryLine headers source).2 with
          declarationLines := if catalog.symbols = [] then 0
            else (catalog.resolveEveryLine headers source).2.declarationLines } ∧
      ((catalog.resolveIn order headers source).2 = (catalog.resolveEveryLine headers source).2 ↔
        catalog.symbols ≠ [] ∨ ∀ file ∈ catalog.files, ∀ lines, source file.path = some lines →
          (Resolution.everyLine headers catalog.needles lines).declarationLines = 0) := by
  have hall := resolveIn_eq_ite headers source hp
  have hzero := catalog.declarationLines_resolveEveryLine headers source
  by_cases hnone : catalog.symbols = []
  · have hneedles := catalog.needles_eq_nil_iff.mpr hnone
    rw [if_pos hnone] at hall
    rw [hall, ← hzero]
    refine ⟨?_, rfl, by simp [hnone], ?_⟩
    · intro file lines hlines
      simp [Resolution.searchFile_eq_ite, Resolution.everyLineOf, hneedles, hnone, hlines,
        Findings.uncounted]
    · constructor
      · intro hsame
        exact Or.inr (congrArg UsageCounts.declarationLines hsame).symm
      · intro hcases
        have hcount := hcases.resolve_left (by simp [hnone])
        rw [← hcount]
  · have hneedles : catalog.needles ≠ [] := mt catalog.needles_eq_nil_iff.mp hnone
    rw [if_neg hnone] at hall
    rw [hall]
    refine ⟨?_, rfl, by simp [hnone], by simp [hnone]⟩
    intro file lines hlines
    simp [Resolution.searchFile_eq_ite, Resolution.everyLineOf, hneedles, hnone, hlines]

/-- A native file, which declares nothing in the catalog whatever stands in it. -/
def nativeOnly : Catalog :=
  ⟨[⟨1, "a.c", .native, [], []⟩], 1⟩

theorem resolveIn_counts_every_line_iff_nativeOnly :
    let source : Contents := fun _ => some ["CREATE VIEW v AS", "SELECT 1"]
    (nativeOnly.resolveIn [0] ⟨true⟩ source).2.declarationLines = 0 ∧
      (nativeOnly.resolveEveryLine ⟨true⟩ source).2.declarationLines = 1 ∧
      (nativeOnly.resolveIn [0] ⟨true⟩ source).2 ≠
        (nativeOnly.resolveEveryLine ⟨true⟩ source).2 := by
  intro source
  have hp : [0].Perm (List.range nativeOnly.files.length) := by decide
  obtain ⟨_, _, hcounts, hiff⟩ := resolveIn_counts_every_line_iff ⟨true⟩ source nativeOnly hp
  have hone : (nativeOnly.resolveEveryLine ⟨true⟩ source).2.declarationLines = 1 := by
    decide +kernel
  refine ⟨congrArg UsageCounts.declarationLines hcounts, hone, ?_⟩
  intro hsame
  rcases hiff.mp hsame with hsome | hzero
  · exact hsome rfl
  · have hline := hzero _ List.mem_cons_self _ rfl
    exact absurd hline (by decide +kernel)

end Catalog

end CrossRef
