import CrossRef.Proofs.Recording
import CrossRef.Resolution
import Mathlib.Data.List.Perm.Basic

namespace CrossRef

/-- A mention in a file as a use that is to be recorded. -/
def Mention.useIn (file : IndexedFile) (mention : Mention) : UseRecord :=
  ⟨mention.target, file.key, ⟨file.id, mention.line⟩⟩

namespace Resolution

theorem length_foldl_set {σ : Type} (order : List Nat) (work : Nat → σ) (slots : List (Option σ)) :
    (order.foldl (fun slots i => slots.set i (some (work i))) slots).length = slots.length := by
  induction order generalizing slots with
  | nil => rfl
  | cons i rest ih => simpa using ih (slots.set i (some (work i)))

/-- A slot holds the result of its own work once this work was done, whenever that was. -/
theorem getElem?_foldl_set {σ : Type} (order : List Nat) (work : Nat → σ)
    (slots : List (Option σ)) {j : Nat} (hj : j < slots.length) :
    (order.foldl (fun slots i => slots.set i (some (work i))) slots)[j]? =
      if j ∈ order then some (some (work j)) else slots[j]? := by
  induction order generalizing slots with
  | nil => simp
  | cons i rest ih =>
    rw [List.foldl_cons, ih (slots.set i (some (work i))) (by simpa using hj)]
    by_cases hr : j ∈ rest
    · simp [hr]
    · by_cases hi : i = j
      · subst hi
        simp [hr, hj]
      · simp [hr, hi, Ne.symm hi]

theorem getElem?_inSlots {σ : Type} (order : List Nat) (work : Nat → σ) {count j : Nat}
    (hj : j < count) :
    (inSlots order work count)[j]? = some (if j ∈ order then some (work j) else none) := by
  have h := getElem?_foldl_set order work (List.replicate count none) (by simpa using hj)
  rw [inSlots, h]
  by_cases ho : j ∈ order
  · simp [ho]
  · simp [ho, hj]

theorem getElem?_searchAll (headers : HeaderRules) (source : Contents) (catalog : Catalog)
    (order : List Nat) {j : Nat} {file : IndexedFile} (hf : catalog.files[j]? = some file) :
    (searchAll headers source catalog order)[j]? =
      some (if j ∈ order then searchFile headers catalog.needles source file else none) := by
  have hj : j < catalog.files.length := (List.getElem?_eq_some_iff.mp hf).1
  simp only [searchAll, List.getElem?_map, getElem?_inSlots _ _ hj, hf, Option.bind_some,
    Option.map_some]
  by_cases ho : j ∈ order
  · simp [ho]
  · simp [ho]

theorem length_searchAll (headers : HeaderRules) (source : Contents) (catalog : Catalog)
    (order : List Nat) :
    (searchAll headers source catalog order).length = catalog.files.length := by
  simp [searchAll, inSlots, length_foldl_set]

/-- In whatever order all files are searched, the findings are those of the files in their order. -/
theorem searchAll_of_perm (headers : HeaderRules) (source : Contents) {catalog : Catalog}
    {order : List Nat} (hp : order.Perm (List.range catalog.files.length)) :
    searchAll headers source catalog order =
      catalog.files.map (searchFile headers catalog.needles source) := by
  apply List.ext_getElem?
  intro j
  by_cases hj : j < catalog.files.length
  · have hf : catalog.files[j]? = some catalog.files[j] := by simp [hj]
    have ho : j ∈ order := hp.mem_iff.mpr (List.mem_range.mpr hj)
    rw [getElem?_searchAll headers source catalog order hf, List.getElem?_map, hf]
    simp [ho]
  · have hl := length_searchAll headers source catalog order
    rw [List.getElem?_eq_none (by omega), List.getElem?_eq_none (by simp; omega)]

/-- The uses that the findings of a file stand for. -/
def recordsOf (file : IndexedFile) (findings : Option Findings) : List UseRecord :=
  (findings.elim [] (·.mentions)).map (·.useIn file)

theorem searchFrom_nil_needles (headers : HeaderRules) (position : Nat) (packageOpen : Bool)
    (lines : List String) : (searchFrom headers [] position packageOpen lines).1 = [] := by
  induction lines generalizing position packageOpen with
  | nil => rfl
  | cons line rest ih =>
    simp only [searchFrom]
    split
    next => exact ih _ _
    next => split <;> simp [lineMentions, ih]

/-- Where nothing is declared, a search of the lines would find nothing. -/
theorem recordsOf_searchFile (headers : HeaderRules) (needles : List Needle) (source : Contents)
    (file : IndexedFile) :
    recordsOf file (searchFile headers needles source file) =
      ((source file.path).elim [] fun lines => (searchFrom headers needles 0 false lines).1).map
        (·.useIn file) := by
  cases hs : source file.path with
  | none => simp [recordsOf, searchFile, hs]
  | some lines =>
    cases needles with
    | nil => simp [recordsOf, searchFile, hs, searchLines, searchFrom_nil_needles]
    | cons needle rest => simp [recordsOf, searchFile, hs, searchLines]

theorem recordMentions_fst (file : IndexedFile) (mentions : List Mention)
    (state : Catalog × UsageCounts) :
    (mentions.foldl (recordMention file) state).1 =
      state.1.recordEach (mentions.map (·.useIn file)) := by
  induction mentions generalizing state with
  | nil => rfl
  | cons mention rest ih => exact ih (recordMention file state mention)

theorem recordFindings_fst (state : Catalog × UsageCounts) (file : IndexedFile)
    (findings : Option Findings) :
    (recordFindings state file findings).1 = state.1.recordEach (recordsOf file findings) := by
  cases findings with
  | none => rfl
  | some found => exact recordMentions_fst file found.mentions _

theorem recordAll_fst (catalog : Catalog) (findings : List (Option Findings)) :
    (recordAll catalog findings).1 =
      catalog.recordEach ((catalog.files.zip findings).flatMap fun entry =>
        recordsOf entry.1 entry.2) := by
  have fold (pairs : List (IndexedFile × Option Findings)) (state : Catalog × UsageCounts) :
      (pairs.foldl (fun state entry => recordFindings state entry.1 entry.2) state).1 =
        state.1.recordEach (pairs.flatMap fun entry => recordsOf entry.1 entry.2) := by
    induction pairs generalizing state with
    | nil => rfl
    | cons entry rest ih =>
      rw [List.foldl_cons, ih, recordFindings_fst]
      simp [Catalog.recordEach, List.foldl_append]
  exact fold (catalog.files.zip findings) (catalog, .zero)

end Resolution

namespace Catalog

/-- The uses to be recorded when the files are searched in the given order. -/
def recordsIn (order : List Nat) (headers : HeaderRules) (source : Contents) (catalog : Catalog) :
    List UseRecord :=
  (catalog.files.zip (Resolution.searchAll headers source catalog order)).flatMap fun entry =>
    Resolution.recordsOf entry.1 entry.2

theorem resolveIn_fst (order : List Nat) (headers : HeaderRules) (source : Contents)
    (catalog : Catalog) :
    (catalog.resolveIn order headers source).1 =
      catalog.recordEach (catalog.recordsIn order headers source) :=
  Resolution.recordAll_fst catalog _

theorem labels_resolveIn (order : List Nat) (headers : HeaderRules) (source : Contents)
    (catalog : Catalog) : (catalog.resolveIn order headers source).1.labels = catalog.labels := by
  rw [resolveIn_fst]
  exact labels_eq_of_outline (catalog.outline_recordEach _)

theorem paths_resolveIn (order : List Nat) (headers : HeaderRules) (source : Contents)
    (catalog : Catalog) :
    (catalog.resolveIn order headers source).1.files.map (·.path) =
      catalog.files.map (·.path) := by
  have hlabels := congrArg (List.map Prod.snd) (catalog.labels_resolveIn order headers source)
  rwa [labels, labels, List.map_map, List.map_map] at hlabels

theorem families_resolveIn (order : List Nat) (headers : HeaderRules) (source : Contents)
    (catalog : Catalog) :
    (catalog.resolveIn order headers source).1.families = catalog.families := by
  rw [resolveIn_fst]
  exact families_eq_of_outline (catalog.outline_recordEach _)

theorem recordsIn_of_perm (headers : HeaderRules) (source : Contents) {catalog : Catalog}
    {order : List Nat} (hp : order.Perm (List.range catalog.files.length)) :
    catalog.recordsIn order headers source = catalog.files.flatMap fun file =>
      Resolution.recordsOf file (Resolution.searchFile headers catalog.needles source file) := by
  rw [recordsIn, Resolution.searchAll_of_perm headers source hp, ← List.map_prod_left_eq_zip,
    List.flatMap_map]

theorem mem_recordsIn {order : List Nat} {headers : HeaderRules} {source : Contents}
    {catalog : Catalog} {use : UseRecord} (h : use ∈ catalog.recordsIn order headers source) :
    ∃ file ∈ catalog.files, ∃ found mention,
      Resolution.searchFile headers catalog.needles source file = some found ∧
        mention ∈ found.mentions ∧ use = mention.useIn file := by
  obtain ⟨⟨file, findings⟩, hz, hu⟩ := List.mem_flatMap.mp h
  obtain ⟨j, hj⟩ := List.mem_iff_getElem?.mp hz
  obtain ⟨hf, hs⟩ := List.getElem?_zip_eq_some.mp hj
  dsimp only at hf hs hu
  rw [Resolution.getElem?_searchAll headers source catalog order hf] at hs
  by_cases ho : j ∈ order
  · rw [if_pos ho] at hs
    have hs := Option.some.inj hs
    subst hs
    cases hfound : Resolution.searchFile headers catalog.needles source file with
    | none => simp [Resolution.recordsOf, hfound] at hu
    | some found =>
      obtain ⟨mention, hm, rfl⟩ : ∃ mention ∈ found.mentions, mention.useIn file = use := by
        simpa [Resolution.recordsOf, hfound] using hu
      exact ⟨file, List.mem_of_getElem? hf, found, mention, hfound, hm, rfl⟩
  · rw [if_neg ho] at hs
    cases Option.some.inj hs
    simp [Resolution.recordsOf] at hu

end Catalog

end CrossRef
