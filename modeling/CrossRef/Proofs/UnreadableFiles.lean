import CrossRef.Proofs.IndexRun
import CrossRef.Proofs.UsageCounting

namespace CrossRef

/-- The same files, where each that cannot be read is empty instead. -/
def Contents.emptied (source : Contents) : Contents :=
  fun path => some ((source path).getD [])

theorem DeclarationRules.extract_nil (rules : DeclarationRules) (catalog : Catalog) (index : Nat)
    (docs : List DocBlock) : rules.extract catalog index [] docs = (catalog, .zero) := by
  unfold extract
  split
  next => rfl
  next file hf =>
    split
    next => rfl
    next =>
      have hset : catalog.files.set index file = catalog.files := by
        apply List.ext_getElem?
        intro i
        by_cases hi : i = index
        · subst hi
          have hlt := (List.getElem?_eq_some_iff.mp hf).1
          rw [List.getElem?_set_self hlt, hf]
        · rw [List.getElem?_set_ne (Ne.symm hi)]
      exact Prod.ext (congrArg (Catalog.mk · catalog.last) hset) rfl

namespace IndexPlan

theorem declareFile_emptied (plan : IndexPlan) (source : Contents) {state state' : Extracted}
    (hcatalog : state'.catalog = state.catalog) (htally : state'.tally = state.tally)
    (path : RawText) (index n : Nat) :
    (plan.declareFile source.emptied state' path index n).catalog =
        (plan.declareFile source state path index n).catalog ∧
      (plan.declareFile source.emptied state' path index n).tally =
        (plan.declareFile source state path index n).tally := by
  unfold declareFile
  cases hs : source path with
  | none =>
    simp only [Contents.emptied, hs, Option.getD_none, DeclarationRules.extract_nil]
    exact ⟨hcatalog, htally⟩
  | some lines =>
    simp only [Contents.emptied, hs, Option.getD_some, hcatalog, htally]
    exact ⟨trivial, trivial⟩

theorem declareAll_emptied (plan : IndexPlan) (source : Contents) (catalog : Catalog) :
    (plan.declareAll source.emptied catalog).catalog = (plan.declareAll source catalog).catalog ∧
      (plan.declareAll source.emptied catalog).tally = (plan.declareAll source catalog).tally := by
  have fold (files : List ((RawText × Nat) × Nat)) (state state' : Extracted)
      (hcatalog : state'.catalog = state.catalog) (htally : state'.tally = state.tally) :
      let run (source : Contents) (state : Extracted) := files.foldl (fun state entry =>
        plan.declareFile source state entry.1.1 entry.1.2 entry.2) state
      (run source.emptied state').catalog = (run source state).catalog ∧
        (run source.emptied state').tally = (run source state).tally := by
    induction files generalizing state state' with
    | nil => exact ⟨hcatalog, htally⟩
    | cons entry rest ih =>
      have hfirst := plan.declareFile_emptied source hcatalog htally entry.1.1 entry.1.2 entry.2
      exact ih _ _ hfirst.1 hfirst.2
  exact fold (sqlFiles catalog).zipIdx _ _ rfl rfl

theorem skipped_declareFile (plan : IndexPlan) (source : Contents) (state : Extracted)
    (path : RawText) (index n : Nat) :
    (plan.declareFile source state path index n).skipped =
      state.skipped ++ [path].filter fun path => source path = none := by
  unfold declareFile
  cases hs : source path with
  | none => simp [hs]
  | some lines => simp [hs]

theorem paths_sqlFiles (catalog : Catalog) :
    (sqlFiles catalog).map Prod.fst = (catalog.families.filter (·.1 = .sql)).map Prod.snd := by
  have hfiles : (catalog.files.zipIdx.filter (·.1.kind = .sql)).map Prod.fst =
      catalog.files.filter (·.kind = .sql) := by
    have hmap := List.filter_map (f := Prod.fst) (p := fun file : IndexedFile => file.kind = .sql)
      (l := catalog.files.zipIdx)
    rw [List.zipIdx_map_fst] at hmap
    exact hmap.symm
  have hpaths := congrArg (List.map IndexedFile.path) hfiles
  rw [List.map_map] at hpaths
  simp only [sqlFiles, Catalog.families, List.filter_map, List.map_map]
  exact hpaths

theorem skipped_declareAll (plan : IndexPlan) (source : Contents) (catalog : Catalog) :
    (plan.declareAll source catalog).skipped =
      ((catalog.families.filter (·.1 = .sql)).map Prod.snd).filter
        fun path => source path = none := by
  have fold (files : List ((RawText × Nat) × Nat)) (state : Extracted) :
      (files.foldl (fun state entry =>
          plan.declareFile source state entry.1.1 entry.1.2 entry.2) state).skipped =
        state.skipped ++ (files.map (·.1.1)).filter fun path => source path = none := by
    induction files generalizing state with
    | nil => simp
    | cons entry rest ih =>
      rw [List.foldl_cons, ih, skipped_declareFile, List.append_assoc, ← List.filter_append]
      rfl
  have hpaths : (sqlFiles catalog).zipIdx.map (·.1.1) =
      (catalog.families.filter (·.1 = .sql)).map Prod.snd := by
    rw [← paths_sqlFiles]
    nth_rewrite 2 [← List.zipIdx_map_fst 0 (sqlFiles catalog)]
    rw [List.map_map]
    rfl
  have hall := fold (sqlFiles catalog).zipIdx
    ⟨catalog, .zero, [], [.started .extracting (sqlFiles catalog).length]⟩
  rw [hpaths] at hall
  exact hall

end IndexPlan

namespace Resolution

theorem searchFile_emptied (headers : HeaderRules) (needles : List Needle) (source : Contents)
    (file : IndexedFile) :
    searchFile headers needles source.emptied file =
      some ((searchFile headers needles source file).getD ⟨[], 0, 0⟩) := by
  unfold searchFile
  cases hs : source file.path with
  | none =>
    simp only [Contents.emptied, hs]
    cases needles <;> rfl
  | some lines => simp [Contents.emptied, hs]

end Resolution

namespace UsageCounts

/-- Findings that stand for nothing found count like those of files that were not read, as files
that were. -/
theorem ofFindings_getD (findings : List (Option Findings)) :
    ofFindings (findings.map fun found => some (found.getD ⟨[], 0, 0⟩)) =
      { ofFindings findings with
        filesScanned := findings.length
        filesSkipped := 0 } := by
  have hmentions (found : Option Findings) :
      (some (found.getD ⟨[], 0, 0⟩)).elim [] (·.mentions) = found.elim [] (·.mentions) := by
    cases found <;> rfl
  have hlines (found : Option Findings) :
      (some (found.getD ⟨[], 0, 0⟩)).elim 0 (·.lines) = found.elim 0 (·.lines) := by
    cases found <;> rfl
  have hdeclared (found : Option Findings) :
      (some (found.getD ⟨[], 0, 0⟩)).elim 0 (·.declarationLines) =
        found.elim 0 (·.declarationLines) := by
    cases found <;> rfl
  simp only [ofFindings, List.flatMap_map, List.map_map, List.countP_map, Function.comp_def,
    hmentions, hlines, hdeclared, Option.isSome_some, Option.isNone_some]
  simp

end UsageCounts

namespace Catalog

theorem resolveIn_emptied (headers : HeaderRules) (source : Contents) {catalog : Catalog}
    {order : List Nat} (hp : order.Perm (List.range catalog.files.length)) :
    catalog.resolveIn order headers source.emptied =
      ((catalog.resolveIn order headers source).1,
        { (catalog.resolveIn order headers source).2 with
          filesScanned := catalog.files.length
          filesSkipped := 0 }) := by
  have hfile := Resolution.searchFile_emptied headers catalog.needles source
  have hcatalog : (catalog.resolveIn order headers source.emptied).1 =
      (catalog.resolveIn order headers source).1 := by
    rw [resolveIn_fst, resolveIn_fst, recordsIn_of_perm headers _ hp,
      recordsIn_of_perm headers _ hp]
    congr 2
    funext file
    rw [hfile]
    cases Resolution.searchFile headers catalog.needles source file <;> rfl
  have hfindings :
      catalog.files.map (Resolution.searchFile headers catalog.needles source.emptied) =
      (catalog.files.map (Resolution.searchFile headers catalog.needles source)).map
        fun found => some (found.getD ⟨[], 0, 0⟩) := by
    rw [List.map_map]
    exact List.map_congr_left fun file _ => hfile file
  refine Prod.ext hcatalog ?_
  rw [resolveIn_snd headers _ hp, resolveIn_snd headers _ hp, hcatalog, hfindings,
    UsageCounts.ofFindings_getD, List.length_map]

end Catalog

/-- An index is made where files cannot be read, and such a file counts as an empty one. It is told
which of the sql files these are, and how many there are among all files. -/
theorem IndexPlan.run_unreadable_as_empty (plan : IndexPlan)
    (horder : ∀ catalog, (plan.order catalog).Perm (List.range catalog.files.length))
    (entries : List Entry) (source : Contents) :
    ∃ catalog summary,
      (plan.run (some entries) source).2 = .ok (catalog, summary) ∧
      (plan.run (some entries) source.emptied).2 = .ok (catalog,
        { summary with
          resolution := { summary.resolution with
            filesScanned := catalog.files.length
            filesSkipped := 0 }
          skipped := [] }) ∧
      summary.skipped = (catalog.files.filter fun file =>
        file.kind = .sql ∧ source file.path = none).map (·.path) ∧
      summary.resolution.filesSkipped = catalog.files.countP (source ·.path = none) ∧
      summary.resolution.filesScanned = catalog.files.countP (source ·.path ≠ none) := by
  rcases hclassify : Classification.classify plan.settings.files (some entries) .empty with
    ⟨classified, error | counts⟩
  · simp [Classification.classify] at hclassify
  · have hgrows := plan.grows_declareAll source classified
    obtain ⟨hdeclared, htally⟩ := plan.declareAll_emptied source classified
    have hskipped := plan.skipped_declareAll source classified
    have hnone : (plan.declareAll source.emptied classified).skipped = [] := by
      rw [skipped_declareAll]
      simp [Contents.emptied]
    unfold run
    simp only [hclassify, hdeclared, htally, hnone]
    generalize plan.declareAll source classified = extracted at *
    generalize hlist : plan.order extracted.catalog = order
    have hp := horder extracted.catalog
    rw [hlist] at hp
    have hfamilies : (extracted.catalog.resolveIn order plan.headers source).1.families =
        extracted.catalog.families := extracted.catalog.families_resolveIn order plan.headers source
    have hcount := Catalog.files_of_resolveIn plan.headers source hp
    rw [← hfamilies, Catalog.countP_families, Catalog.countP_families] at hcount
    refine ⟨_, _, rfl, ?_, ?_, hcount.1, hcount.2⟩
    · have hlength := congrArg List.length hfamilies
      rw [Catalog.families, Catalog.families, List.length_map, List.length_map] at hlength
      rw [Catalog.resolveIn_emptied plan.headers source hp, hlength]
    · rw [hskipped, ← hgrows.families, ← hfamilies, Catalog.families]
      simp only [List.filter_map, List.map_map, List.filter_filter]
      refine congrArg (List.map IndexedFile.path) (List.filter_congr ?_)
      intro file _
      simp [Bool.and_comm]

theorem IndexPlan.run_unreadable_as_empty_viewAndUser :
    let pages := { PageSettings.standard with view := true }
    let plan := standard { Settings.standard with pages }
    let entries := [Entry.file "a.sql", Entry.file "b.sql", Entry.file "c.c", Entry.file "d.c"]
    let source : Contents := fun path =>
      if path = ↑"./b.sql" then some ["create view v as"]
      else if path = ↑"./d.c" then some ["from v"] else none
    let catalog : Catalog :=
      ⟨[⟨1, "./a.sql", .sql, [], []⟩,
        ⟨2, "./b.sql", .sql, [⟨.view, "v", 1, 1, none, 5, [("./d.c", [⟨4, 1⟩])]⟩], []⟩,
        ⟨3, "./c.c", .native, [], []⟩, ⟨4, "./d.c", .native, [], []⟩], 5⟩
    ∃ summary, (plan.run (some entries) source).2 = .ok (catalog, summary) ∧
      (plan.run (some entries) source.emptied).2.map (·.1) = .ok catalog ∧
      summary.skipped = [↑"./a.sql"] ∧ summary.resolution.filesSkipped = 2 ∧
      summary.resolution.filesScanned = 2 := by
  intro pages plan entries source catalog
  obtain ⟨found, summary, hrun, hemptied, hskipped, hunread, hread⟩ :=
    plan.run_unreadable_as_empty (fun _ => .refl _) entries source
  have hcatalog : ((plan.run (some entries) source).2.map (·.1)).toOption = some catalog := by
    decide +kernel
  rw [hrun] at hcatalog
  have hfound : found = catalog := Option.some.inj hcatalog
  rw [hfound] at hrun hemptied hskipped hunread hread
  refine ⟨summary, hrun, by rw [hemptied]; rfl, ?_, ?_, ?_⟩
  · rw [hskipped]
    decide +kernel
  · rw [hunread]
    decide +kernel
  · rw [hread]
    decide +kernel

end CrossRef
