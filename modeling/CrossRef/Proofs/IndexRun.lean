import CrossRef.Index
import CrossRef.Proofs.Declaring
import CrossRef.Proofs.Merging

namespace CrossRef

/-- A catalog of files without declarations that were numbered in their order. -/
structure Catalog.JustClassified (catalog : Catalog) : Prop where
  last : catalog.last = UInt64.ofNat catalog.files.length
  ids : ∀ (i : Nat) file, catalog.files[i]? = some file → file.id = UInt64.ofNat (i + 1)
  undeclared : ∀ place, catalog.get? place = none

namespace Classification

theorem justClassified_addFile {catalog : Catalog} (h : catalog.JustClassified) (path : RawText)
    (kind : Family) : (catalog.addFile path kind).JustClassified := by
  have hnext : Identifier.next catalog.last = UInt64.ofNat (catalog.files.length + 1) := by
    rw [h.last, Identifier.next, UInt64.ofNat_add]
    rfl
  refine ⟨by simp [Catalog.addFile, hnext], ?_, ?_⟩
  · intro i file hf
    rcases IndexedFile.getElem?_concat_some.mp hf with hf | ⟨rfl, rfl⟩
    · exact h.ids i file hf
    · exact hnext
  · intro place
    rw [Catalog.get?_addFile]
    exact h.undeclared place

theorem justClassified_classify {files : FileSettings} {entries : Option (List Entry)}
    {catalog : Catalog} {counts : FamilyCounts}
    (h : classify files entries .empty = (catalog, .ok counts)) : catalog.JustClassified := by
  have step (state : Catalog × FamilyCounts) (path : RawText) (hs : state.1.JustClassified) :
      (addPath files state path).1.JustClassified := by
    obtain ⟨before, stats⟩ := state
    unfold addPath
    dsimp only at hs ⊢
    split
    next => exact justClassified_addFile hs path .sql
    next => exact justClassified_addFile hs path .native
    next => exact hs
  have fold (paths : List RawText) (state : Catalog × FamilyCounts) (hs : state.1.JustClassified) :
      (paths.foldl (addPath files) state).1.JustClassified := by
    induction paths generalizing state with
    | nil => exact hs
    | cons path rest ih => exact ih _ (step state path hs)
  have start : Catalog.empty.JustClassified :=
    ⟨rfl, fun i file hf => by simp [Catalog.empty] at hf, fun place => by
      simp [Catalog.get?_eq_at?, Catalog.empty]⟩
  cases entries with
  | none => simp [classify] at h
  | some entries =>
    have hfound := (Prod.mk.inj h).1
    have hfold := fold (Entry.pathsBelow files.leavesOut files.root entries)
      (Catalog.empty, ⟨0, 0, 0⟩) start
    rw [hfound] at hfold
    exact hfold

end Classification

namespace IndexPlan

/-- What the files of a catalog declare in their own lines. -/
def Declares (plan : IndexPlan) (source : Contents) (catalog : Catalog) (index : Nat)
    (decl : Declaration) : Prop :=
  ∃ file lines, catalog.files[index]? = some file ∧ source file.path = some lines ∧
    plan.rules.Declares (plan.docs lines) lines index decl

theorem mem_sqlFiles {catalog : Catalog} {path : RawText} {index : Nat}
    (h : (path, index) ∈ sqlFiles catalog) :
    ∃ file, catalog.files[index]? = some file ∧ file.path = path := by
  obtain ⟨⟨file, i⟩, hm, he⟩ := List.mem_map.mp h
  obtain ⟨rfl, rfl⟩ := Prod.mk.inj he
  exact ⟨file, List.mem_zipIdx_iff_getElem?.mp (List.mem_filter.mp hm).1, rfl⟩

theorem labels_declareFile (plan : IndexPlan) (source : Contents) (state : Extracted)
    (path : RawText) (index n : Nat) :
    (plan.declareFile source state path index n).catalog.labels = state.catalog.labels := by
  unfold declareFile
  cases source path with
  | none => rfl
  | some lines =>
    exact (plan.rules.grows_extract state.catalog index lines (plan.docs lines)).labels

theorem grows_declareAll (plan : IndexPlan) (source : Contents) (catalog : Catalog) :
    catalog.Grows (plan.Declares source catalog) (plan.declareAll source catalog).catalog := by
  have step (state : Extracted) (path : RawText) (index n : Nat)
      (hm : (path, index) ∈ sqlFiles catalog) :
      state.catalog.Grows (plan.Declares source catalog)
        (plan.declareFile source state path index n).catalog := by
    obtain ⟨file, hf, rfl⟩ := mem_sqlFiles hm
    unfold declareFile
    cases hs : source file.path with
    | none => exact .refl _ _
    | some lines =>
      refine (plan.rules.grows_extract state.catalog index lines (plan.docs lines)).mono ?_
      rintro i decl ⟨rfl, hd⟩
      exact ⟨file, lines, hf, hs, hd⟩
  have fold (files : List ((RawText × Nat) × Nat)) (state : Extracted)
      (hm : ∀ entry ∈ files, entry.1 ∈ sqlFiles catalog) :
      state.catalog.Grows (plan.Declares source catalog)
        (files.foldl (fun state entry =>
          plan.declareFile source state entry.1.1 entry.1.2 entry.2) state).catalog := by
    induction files generalizing state with
    | nil => exact .refl _ _
    | cons entry rest ih =>
      have hfirst := step state entry.1.1 entry.1.2 entry.2 (hm entry (by simp))
      exact hfirst.trans (ih _ fun later hl => hm later (by simp [hl]))
  refine fold (sqlFiles catalog).zipIdx
    ⟨catalog, .zero, [], [.started .extracting (sqlFiles catalog).length]⟩ ?_
  intro entry he
  exact List.mem_of_getElem? (List.mem_zipIdx_iff_getElem?.mp he)

theorem run_of_refused (plan : IndexPlan) {entries : Option (List Entry)} {error : Error}
    (h : (Classification.classify plan.settings.files entries .empty).2 = .error error)
    (source : Contents) :
    plan.run entries source = ([.started .classifying 0], .error error) := by
  unfold run
  split
  next hother => rw [hother] at h; cases h; rfl
  next hother => rw [hother] at h; cases h

theorem run_of_classified (plan : IndexPlan) {entries : Option (List Entry)}
    {classified : Catalog} {counts : FamilyCounts}
    (h : Classification.classify plan.settings.files entries .empty = (classified, .ok counts))
    (source : Contents) :
    plan.run entries source =
      let extracted := plan.declareAll source classified
      let order := plan.order extracted.catalog
      let resolved := extracted.catalog.resolveIn order plan.headers source
      ([.started .classifying 0, .finished .classifying] ++ extracted.messages ++
          Resolution.messages extracted.catalog order,
        .ok (resolved.1, ⟨counts, extracted.tally, resolved.2, extracted.skipped⟩)) := by
  unfold run
  rw [h]

/-- A run that succeeds classifies the files, extracts their declarations and searches them for
uses. -/
theorem run_stages {plan : IndexPlan} {entries : Option (List Entry)} {source : Contents}
    {messages : List Progress} {catalog : Catalog} {summary : Summary}
    (h : plan.run entries source = (messages, .ok (catalog, summary))) :
    ∃ classified,
      Classification.classify plan.settings.files entries .empty =
        (classified, .ok summary.classification) ∧
      let extracted := plan.declareAll source classified
      let resolved := extracted.catalog.resolveIn (plan.order extracted.catalog) plan.headers source
      summary.extraction = extracted.tally ∧ catalog = resolved.1 ∧
        summary.resolution = resolved.2 := by
  unfold run at h
  rcases hclassify : Classification.classify plan.settings.files entries .empty with
    ⟨classified, error | counts⟩
  · simp [hclassify] at h
  · simp only [hclassify, Prod.mk.injEq, Except.ok.injEq] at h
    obtain ⟨_, rfl, rfl⟩ := h
    exact ⟨classified, rfl, rfl, rfl, rfl⟩

theorem run_eq_ok {plan : IndexPlan} {entries : Option (List Entry)} {source : Contents}
    {messages : List Progress} {catalog : Catalog} {summary : Summary}
    (h : plan.run entries source = (messages, .ok (catalog, summary))) :
    ∃ (classified declared : Catalog) (order : List Nat), classified.JustClassified ∧
      classified.Grows (plan.Declares source classified) declared ∧
        catalog = (declared.resolveIn order plan.headers source).1 := by
  obtain ⟨classified, hclassify, _, hcatalog, _⟩ := run_stages h
  exact ⟨classified, _, _, Classification.justClassified_classify hclassify,
    plan.grows_declareAll source classified, hcatalog⟩

end IndexPlan

end CrossRef
