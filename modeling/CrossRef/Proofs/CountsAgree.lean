import CrossRef.Proofs.DeclaringLines
import CrossRef.Proofs.SavedRun
import CrossRef.Proofs.Tallies
import CrossRef.Proofs.UsedSymbols

namespace CrossRef

namespace Classification

/-- The files of a catalog are counted by their families. -/
def Counted (state : Catalog × FamilyCounts) : Prop :=
  state.2.sql = state.1.families.countP (·.1 = .sql) ∧
    state.2.native = state.1.families.countP (·.1 = .native)

theorem Counted.addPath {state : Catalog × FamilyCounts} (h : Counted state)
    (files : FileSettings) (path : RawText) : Counted (addPath files state path) := by
  obtain ⟨catalog, counts⟩ := state
  obtain ⟨hsql, hnative⟩ := h
  have hadded (kind : Family) :
      (catalog.addFile path kind).families = catalog.families ++ [(kind, path)] := by
    simp [Catalog.families, Catalog.addFile]
  unfold Classification.addPath
  dsimp only at hsql hnative ⊢
  split
  next => simp [Counted, hadded, hsql, hnative]
  next => simp [Counted, hadded, hsql, hnative]
  next => exact ⟨hsql, hnative⟩

theorem counted_classify {files : FileSettings} {entries : Option (List Entry)}
    {catalog : Catalog} {counts : FamilyCounts}
    (h : classify files entries .empty = (catalog, .ok counts)) : Counted (catalog, counts) := by
  cases entries with
  | none => simp [classify] at h
  | some entries =>
    have hstart : Counted (.empty, ⟨0, 0, 0⟩) := ⟨rfl, rfl⟩
    obtain ⟨rfl, hcounts⟩ := Prod.mk.inj h
    rw [← Except.ok.inj hcounts]
    exact List.foldlRecOn (Entry.pathsBelow files.leavesOut files.root entries) _ hstart
      fun _ hcounted path _ => hcounted.addPath files path

end Classification

theorem Tally.total_ofDeclarations (decls : List Declaration) :
    (Tally.ofDeclarations decls).total = decls.length := by
  induction decls with
  | nil => rfl
  | cons decl rest ih =>
    have hsplit := Tally.ofDeclarations_append [decl] rest
    rw [List.singleton_append] at hsplit
    rw [hsplit, List.length_cons, ← ih]
    simp only [Tally.total, Tally.add, Tally.ofDeclarations, List.countP_singleton]
    cases decl.kind <;> simp <;> omega

namespace Catalog

theorem symbols_stats (catalog : Catalog) : catalog.stats.symbols = catalog.symbols.length := by
  have htotal := Tally.total_ofDeclarations (catalog.symbols.map (·.2))
  rw [List.length_map] at htotal
  exact htotal

end Catalog

theorem countP_zipIdx_fst {α : Type} (xs : List α) (n : Nat) (p : α → Bool) :
    (xs.zipIdx n).countP (fun entry => p entry.1) = xs.countP p := by
  have hfst := List.zipIdx_map_fst n xs
  conv_rhs => rw [← hfst, List.countP_map]
  rfl

theorem toInt64_eq_zero_iff (id : Identifier) : id.toInt64 = 0 ↔ id = 0 := by
  constructor
  · intro hzero
    rw [← id.toUInt64_toInt64, hzero]
    rfl
  · rintro rfl
    rfl

namespace Store.Tables

/-- The counts of a store that holds a catalog. -/
theorem counts_ofCatalog (catalog : Catalog) (root : RawText) (last : Nat) :
    (ofCatalog catalog root last).counts =
      { files := catalog.files.length
        symbols := catalog.symbols.length
        usedSymbols := catalog.symbols.countP (·.2.id ≠ 0)
        documented := catalog.symbols.countP (·.2.doc.isSome)
        usages := (catalog.symbols.map fun entry => entry.2.uses.total).sum } := by
  have hused : (ofCatalog catalog root last).symbols.countP (·.id ≠ 0) =
      catalog.symbols.countP (·.2.id ≠ 0) := by
    rw [← countP_zipIdx_fst catalog.symbols 1]
    simp only [ofCatalog, withSymbols, ofFiles, empty, List.nil_append, List.countP_map]
    apply List.countP_congr
    intro entry _
    simp [symbolRow, toInt64_eq_zero_iff]
  have hdocs : (ofCatalog catalog root last).docs.length =
      catalog.symbols.countP (·.2.doc.isSome) := by
    rw [← countP_zipIdx_fst catalog.symbols 1]
    simp only [ofCatalog, withSymbols, ofFiles, empty, List.nil_append]
    rw [← List.filterMap_eq_flatMap_toList, List.length_filterMap_eq_countP]
    simp only [Option.isSome_map]
  have husages : (ofCatalog catalog root last).usages.length =
      (catalog.symbols.map fun entry => entry.2.uses.total).sum := by
    have hfst := List.zipIdx_map_fst 1 catalog.symbols
    conv_rhs => rw [← hfst, List.map_map]
    simp only [ofCatalog, withSymbols, ofFiles, empty, List.nil_append, siteRows, List.length_map,
      List.length_zipIdx, List.length_flatMap, numberedUses]
    rfl
  have hfiles : (ofCatalog catalog root last).files.length = catalog.files.length := by
    simp [ofCatalog, withSymbols, ofFiles]
  have hsymbols : (ofCatalog catalog root last).symbols.length = catalog.symbols.length := by
    simp [ofCatalog, withSymbols, ofFiles, empty]
  rw [counts, hfiles, hsymbols, hused, hdocs, husages]

end Store.Tables

/-- What the phases of a run counted is what the catalog they made has. -/
structure Summary.CountsAgree (summary : Summary) (catalog : Catalog) : Prop where
  sql : summary.classification.sql = catalog.stats.sqlFiles
  native : summary.classification.native = catalog.stats.nativeFiles
  views : summary.extraction.views = catalog.stats.views
  packages : summary.extraction.packages = catalog.stats.packages
  functions : summary.extraction.functions = catalog.stats.functions
  procedures : summary.extraction.procedures = catalog.stats.procedures
  documented : summary.extraction.documented = catalog.symbols.countP (·.2.doc.isSome)
  usagesByKind : summary.resolution.usages = summary.resolution.viewUsages +
    summary.resolution.packageUsages + summary.resolution.routineUsages
  usages : summary.resolution.usages = catalog.stats.usages
  files : summary.resolution.filesScanned + summary.resolution.filesSkipped = catalog.stats.files

/-- A number was issued for each file and for each used symbol. -/
structure Summary.NumbersAgree (summary : Summary) (catalog : Catalog) : Prop where
  issued : summary.resolution.identifiersIssued = catalog.stats.usedSymbols
  identifiers : catalog.stats.identifiers.toNat = catalog.stats.files + catalog.stats.usedSymbols

/-- What a store counts is what was counted when the catalog was made. -/
structure Summary.StoreAgrees (summary : Summary) (catalog : Catalog)
    (counts : Store.StoreCounts) : Prop where
  files : counts.files = catalog.stats.files
  symbols : counts.symbols = catalog.stats.symbols
  usedSymbols : counts.usedSymbols = summary.resolution.identifiersIssued
  documented : counts.documented = summary.extraction.documented
  usages : counts.usages = summary.resolution.usages

theorem Catalog.JustClassified.nodup_ids {catalog : Catalog} (h : catalog.JustClassified)
    (hfew : catalog.files.length < UInt64.size) : (catalog.files.map (·.id)).Nodup := by
  rw [List.nodup_iff_getElem?_ne_getElem?]
  intro i j hij hj heq
  rw [List.length_map] at hj
  have hi : i < catalog.files.length := by omega
  have hid (k : Nat) (hk : k < catalog.files.length) :
      (catalog.files.map (·.id))[k]? = some (UInt64.ofNat (k + 1)) := by
    have hget : catalog.files[k]? = some catalog.files[k] := by simp [hk]
    rw [List.getElem?_map, hget, Option.map_some, h.ids k _ hget]
  rw [hid i hi, hid j hj] at heq
  have hnat := congrArg UInt64.toNat (Option.some.inj heq)
  simp only [UInt64.toNat_ofNat'] at hnat
  rw [UInt64.size] at hfew
  omega

namespace IndexPlan

section

variable {plan : IndexPlan} {source : Contents} {classified declared : Catalog}
  (hclassified : classified.JustClassified)
  (hgrows : classified.Grows (plan.Declares source classified) declared)

include hclassified hgrows

theorem fresh_of_declared {place : Place} {decl : Declaration}
    (h : declared.get? place = some decl) :
    decl.file = place.file ∧ decl.id = 0 ∧ decl.uses = [] := by
  obtain ⟨_, _, _, _, _, _, _, _, _, _, _, rfl⟩ := declares_of_get? hclassified hgrows h
  exact ⟨rfl, rfl, rfl⟩

/-- A run leaves a catalog that can be stored, if there are numbers for its files. -/
theorem storable_of_declared (hfew : declared.files.length < UInt64.size) (order : List Nat) :
    Store.Storable (declared.resolveIn order plan.headers source).1 := by
  have hlabels := declared.labels_resolveIn order plan.headers source
  have hids := Catalog.ids_of_labels (hlabels.trans hgrows.labels)
  have hown : (declared.resolveIn order plan.headers source).1.NamesOwnFiles := by
    rw [Catalog.resolveIn_fst]
    exact Catalog.NamesOwnFiles.recordEach
      (fun place decl hd => (fresh_of_declared hclassified hgrows hd).1) _
  constructor
  · rw [hids]
    exact hclassified.nodup_ids (hgrows.length ▸ hfew)
  · intro place decl hmem
    have hget := Catalog.mem_symbols_iff.mp hmem
    obtain ⟨file, hf, _⟩ := Catalog.get?_eq_some_iff.mp hget
    rw [hown place decl hget]
    exact (List.getElem?_eq_some_iff.mp hf).1

end

section

variable {plan : IndexPlan} {entries : Option (List Entry)} {source : Contents}
  {messages : List Progress} {catalog : Catalog} {summary : Summary}
  (hrun : plan.run entries source = (messages, .ok (catalog, summary)))

include hrun

theorem run_classification :
    summary.classification.sql = catalog.stats.sqlFiles ∧
      summary.classification.native = catalog.stats.nativeFiles := by
  obtain ⟨classified, hclassify, _, hcatalog, _⟩ := run_stages hrun
  obtain ⟨hsql, hnative⟩ := Classification.counted_classify hclassify
  have hgrows := plan.grows_declareAll source classified
  have hfamilies : catalog.families = classified.families := by
    rw [hcatalog, Catalog.families_resolveIn, hgrows.families]
  rw [← hfamilies, Catalog.countP_families] at hsql hnative
  exact ⟨hsql, hnative⟩

theorem run_extraction :
    summary.extraction = Tally.ofDeclarations (catalog.symbols.map (·.2)) := by
  obtain ⟨classified, hclassify, htally, hcatalog, _⟩ := run_stages hrun
  have hclassified := Classification.justClassified_classify hclassify
  have hdeclared := plan.tally_declareAll source classified
  have hnone : Tally.ofDeclarations [] = .zero := rfl
  have houtline : catalog.outline = (plan.declareAll source classified).catalog.outline := by
    rw [hcatalog, Catalog.resolveIn_fst, Catalog.outline_recordEach]
  rw [Catalog.declarations_of_undeclared hclassified.undeclared, hnone, Tally.zero_add] at hdeclared
  rw [htally, Catalog.symbols_declarations, Catalog.tally_eq_of_outline houtline, hdeclared]

section

variable (horder : ∀ catalog, (plan.order catalog).Perm (List.range catalog.files.length))

include horder

theorem run_resolved :
    ∃ (classified declared : Catalog) (order : List Nat), classified.JustClassified ∧
      classified.Grows (plan.Declares source classified) declared ∧
        order.Perm (List.range declared.files.length) ∧
        catalog = (declared.resolveIn order plan.headers source).1 ∧
        summary.resolution = (declared.resolveIn order plan.headers source).2 := by
  obtain ⟨classified, hclassify, _, hcatalog, hresolution⟩ := run_stages hrun
  exact ⟨classified, _, _, Classification.justClassified_classify hclassify,
    plan.grows_declareAll source classified, horder _, hcatalog, hresolution⟩

theorem run_resolution :
    summary.resolution.usages = summary.resolution.viewUsages + summary.resolution.packageUsages +
        summary.resolution.routineUsages ∧
      summary.resolution.usages = catalog.stats.usages ∧
      summary.resolution.filesScanned + summary.resolution.filesSkipped = catalog.stats.files := by
  obtain ⟨classified, declared, order, hclassified, hgrows, hp, hcatalog, hresolution⟩ :=
    run_resolved hrun horder
  have hunused (place : Place) (decl : Declaration) (hd : declared.get? place = some decl) :
      decl.uses = [] := (fresh_of_declared hclassified hgrows hd).2.2
  refine ⟨?_, ?_, ?_⟩
  · rw [hresolution, Catalog.resolveIn_snd plan.headers source hp]
    exact UsageCounts.usages_ofTargets _
  · rw [hresolution, hcatalog]
    exact Catalog.usages_resolveIn plan.headers source hunused hp
  · obtain ⟨hskipped, hscanned⟩ := Catalog.files_of_resolveIn plan.headers source hp
    have hlength : catalog.families.length = catalog.stats.files := List.length_map _
    rw [hcatalog, Catalog.families_resolveIn,
      List.length_eq_countP_add_countP (source ·.2 ≠ none)] at hlength
    rw [hresolution, hskipped, hscanned, hcatalog, ← hlength]
    simp

theorem run_numbers (hfew : catalog.stats.files + catalog.stats.usedSymbols < UInt64.size) :
    summary.NumbersAgree catalog ∧ Store.Storable catalog ∧
      catalog.symbols.countP (·.2.id ≠ 0) = catalog.stats.usedSymbols := by
  obtain ⟨classified, declared, order, hclassified, hgrows, hp, hcatalog, hresolution⟩ :=
    run_resolved hrun horder
  have hunused (place : Place) (decl : Declaration) (hd : declared.get? place = some decl) :
      decl.uses = [] := (fresh_of_declared hclassified hgrows hd).2.2
  have hfresh (place : Place) (decl : Declaration) (hd : declared.get? place = some decl) :
      decl.id = 0 := (fresh_of_declared hclassified hgrows hd).2.1
  have hfiles : catalog.stats.files = declared.files.length := by
    have hlabels := congrArg List.length (declared.labels_resolveIn order plan.headers source)
    rw [← hcatalog, Catalog.labels, Catalog.labels, List.length_map, List.length_map] at hlabels
    exact hlabels
  have hlast : declared.last.toNat = catalog.stats.files := by
    rw [hgrows.last, hclassified.last, hfiles, hgrows.length, UInt64.toNat_ofNat']
    rw [hfiles, hgrows.length, UInt64.size] at hfew
    omega
  rw [← hlast, hcatalog] at hfew
  obtain ⟨hnumbers, hused⟩ := Catalog.numbered_resolveIn plan.headers source hunused hp hfresh hfew
  rw [← hcatalog] at hnumbers hused hfew
  refine ⟨⟨?_, ?_⟩, ?_, hused⟩
  · have hle : declared.last ≤ catalog.last := UInt64.le_iff_toNat_le.mpr (by omega)
    have hissued := UInt64.toNat_sub_of_le _ _ hle
    rw [hresolution, Catalog.resolveIn_snd plan.headers source hp, ← hcatalog]
    dsimp only
    omega
  · rw [← hlast]
    exact hnumbers
  · rw [hcatalog]
    exact storable_of_declared hclassified hgrows (by omega) order

end

end

/-- All counts of a run agree: what the phases tell, what the catalog tells, and, as long as numbers
do not run out, what the numbers say and what a store tells into which the catalog is saved. -/
theorem run_counts_agree (plan : IndexPlan)
    (horder : ∀ catalog, (plan.order catalog).Perm (List.range catalog.files.length))
    (entries : Option (List Entry)) (source : Contents) (messages : List Progress)
    (catalog : Catalog) (summary : Summary)
    (hrun : plan.run entries source = (messages, .ok (catalog, summary))) :
    summary.CountsAgree catalog ∧
      (catalog.stats.files + catalog.stats.usedSymbols < UInt64.size →
        summary.NumbersAgree catalog ∧
          ∀ (tables : Store.Tables) (root : RawText), ∃ later,
            (Store.Connection.ofTables tables true).save catalog root false =
                (Store.Connection.ofTables later true, .ok catalog.symbols.length) ∧
              summary.StoreAgrees catalog later.counts) := by
  obtain ⟨hsql, hnative⟩ := run_classification hrun
  have hextraction := run_extraction hrun
  obtain ⟨hkinds, husages, hfiles⟩ := run_resolution hrun horder
  have hdocumented : summary.extraction.documented = catalog.symbols.countP (·.2.doc.isSome) := by
    rw [hextraction]
    exact List.countP_map
  refine ⟨⟨hsql, hnative, ?_, ?_, ?_, ?_, hdocumented, hkinds, husages, hfiles⟩, ?_⟩
  · rw [hextraction]
    rfl
  · rw [hextraction]
    rfl
  · rw [hextraction]
    rfl
  · rw [hextraction]
    rfl
  · intro hfew
    obtain ⟨hnumbers, hstorable, hused⟩ := run_numbers hrun horder hfew
    refine ⟨hnumbers, fun tables root => ?_⟩
    refine ⟨_, Store.Connection.save_storable hstorable tables root, ?_⟩
    rw [Store.Tables.counts_ofCatalog]
    exact ⟨rfl, catalog.symbols_stats.symm, hused.trans hnumbers.issued.symm, hdocumented.symm,
      catalog.usages_stats.symm.trans husages.symm⟩

theorem run_counts_agree_viewAndUser :
    let pages := { PageSettings.standard with view := true }
    let plan := standard { Settings.standard with pages }
    let entries := some [Entry.file "a.sql", Entry.file "b.c", Entry.file "c.c"]
    let source : Contents := fun path =>
      if path = "./a.sql" then some ["/** Things. */", "create view v as", "create view w as"]
      else if path = "./b.c" then some ["from v", "join v"] else none
    let stats : CatalogCounts := ⟨3, 1, 2, 2, 0, 0, 0, 1, 2, 4⟩
    ∃ messages catalog summary later,
      plan.run entries source = (messages, .ok (catalog, summary)) ∧ catalog.stats = stats ∧
        (Store.Connection.ofTables .empty true).save catalog "." false =
          (Store.Connection.ofTables later true, .ok 2) ∧
        summary.CountsAgree catalog ∧ summary.NumbersAgree catalog ∧
        summary.StoreAgrees catalog later.counts := by
  intro pages plan entries source stats
  have hstats : ((plan.run entries source).2.map (·.1.stats)).toOption = some stats := by
    decide +kernel
  match hrun : plan.run entries source with
  | (messages, .error _) =>
    rw [hrun] at hstats
    cases hstats
  | (messages, .ok (catalog, summary)) =>
    rw [hrun] at hstats
    have hstats : catalog.stats = stats := Option.some.inj hstats
    obtain ⟨hcounts, hstored⟩ := plan.run_counts_agree (fun _ => .refl _) entries source messages
      catalog summary hrun
    obtain ⟨hnumbers, hsaved⟩ := hstored (by rw [hstats]; decide)
    obtain ⟨later, hsave, hagrees⟩ := hsaved .empty "."
    rw [← catalog.symbols_stats, hstats] at hsave
    exact ⟨messages, catalog, summary, later, rfl, hstats, hsave, hcounts, hnumbers, hagrees⟩

end IndexPlan

end CrossRef
