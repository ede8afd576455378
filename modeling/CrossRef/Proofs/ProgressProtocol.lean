import CrossRef.Proofs.UnreadableFiles

namespace CrossRef

namespace Resolution

/-- Files that are searched side by side, by their positions: those that wait, those under way, and
those that are done, in the order in which it was told. -/
structure Search where
  waiting : List Nat
  underWay : List Nat
  done : List Nat

/-- A worker takes up any file that waits, or is done with one that is under way. -/
inductive Search.Step : Search → Search → Prop
  | take (before after underWay done : List Nat) (i : Nat) :
      Step ⟨before ++ i :: after, underWay, done⟩ ⟨before ++ after, i :: underWay, done⟩
  | finish (waiting before after done : List Nat) (i : Nat) :
      Step ⟨waiting, before ++ i :: after, done⟩ ⟨waiting, before ++ after, done ++ [i]⟩

/-- What the workers can reach, whichever of them goes on next. -/
inductive Search.Reach (count : Nat) : Search → Prop
  | start : Reach count ⟨List.range count, [], []⟩
  | next {search later : Search} : Reach count search → search.Step later → Reach count later

/-- The orders in which files can be searched: any in which workers can be done with all of them, or
the order of the files. -/
def SearchedIn (parallel : Bool) (count : Nat) (order : List Nat) : Prop :=
  if parallel then Search.Reach count ⟨[], [], order⟩ else order = List.range count

namespace Search

theorem Step.perm {search later : Search} (h : search.Step later) :
    (later.done ++ (later.underWay ++ later.waiting)).Perm
      (search.done ++ (search.underWay ++ search.waiting)) := by
  cases h with
  | take before after underWay done i =>
    refine List.Perm.append_left done ?_
    have hmiddle : (i :: (underWay ++ before) ++ after).Perm (underWay ++ before ++ i :: after) :=
      List.perm_middle.symm
    simpa using hmiddle
  | finish waiting before after done i =>
    have hmiddle : (i :: before ++ after).Perm (before ++ i :: after) := List.perm_middle.symm
    have hall := (hmiddle.append_right waiting).append_left done
    simpa using hall

/-- No file is lost and none is searched twice. -/
theorem Reach.perm {count : Nat} {search : Search} (h : Reach count search) :
    (search.done ++ (search.underWay ++ search.waiting)).Perm (List.range count) := by
  induction h with
  | start => simp
  | next _ hstep ih => exact hstep.perm.trans ih

theorem Reach.takeAll {count : Nat} {waiting underWay done : List Nat}
    (h : Reach count ⟨waiting, underWay, done⟩) :
    Reach count ⟨[], waiting.reverse ++ underWay, done⟩ := by
  induction waiting generalizing underWay with
  | nil => exact h
  | cons i rest ih =>
    have hnext := ih (h.next (.take [] rest underWay done i))
    rw [List.reverse_cons, List.append_assoc]
    exact hnext

theorem Reach.finishAll {count : Nat} {underWay done order : List Nat}
    (h : Reach count ⟨[], underWay, done⟩) (hp : order.Perm underWay) :
    Reach count ⟨[], [], done ++ order⟩ := by
  induction order generalizing underWay done with
  | nil =>
    rw [hp.symm.eq_nil] at h
    simpa using h
  | cons i rest ih =>
    obtain ⟨before, after, rfl⟩ := List.append_of_mem (hp.subset (List.mem_cons_self ..))
    have hrest : rest.Perm (before ++ after) :=
      List.Perm.cons_inv (hp.trans List.perm_middle)
    have hnext := ih (h.next (.finish [] before after done i)) hrest
    rwa [List.append_assoc, List.singleton_append] at hnext

end Search

/-- Side by side the files can be searched in every order. -/
theorem searchedIn_iff {parallel : Bool} {count : Nat} {order : List Nat} :
    SearchedIn parallel count order ↔
      order.Perm (List.range count) ∧ (parallel = false → order = List.range count) := by
  cases parallel with
  | false =>
    constructor
    · intro h
      have heq : order = List.range count := h
      exact ⟨.of_eq heq, fun _ => heq⟩
    · exact fun h => h.2 rfl
  | true =>
    constructor
    · intro h
      have hreach : Search.Reach count ⟨[], [], order⟩ := h
      exact ⟨by simpa using hreach.perm, by simp⟩
    · rintro ⟨hp, _⟩
      have hstart : Search.Reach count ⟨List.range count, [], []⟩ := .start
      have htaken := hstart.takeAll
      have hreversed : (List.range count).Perm ((List.range count).reverse ++ []) := by simp
      exact htaken.finishAll (hp.trans hreversed)

/-- What is told of searched files, in the order of the files. -/
def searchMessages (keys : List String) : List Progress :=
  keys.zipIdx.map fun (key, i) => .advanced .resolving (i + 1) key

theorem messages_of_perm {catalog : Catalog} {order : List Nat}
    (hp : order.Perm (List.range catalog.files.length)) :
    ∃ told, told.Perm (searchMessages (catalog.files.map (·.key))) ∧
      (order = List.range catalog.files.length →
        told = searchMessages (catalog.files.map (·.key))) ∧
      messages catalog order =
        .started .resolving catalog.files.length :: (told ++ [.finished .resolving]) := by
  let tell (i : Nat) : Progress :=
    .advanced .resolving (i + 1) (((catalog.files[i]?).map (·.key)).getD "")
  have hrange : (List.range catalog.files.length).map tell =
      searchMessages (catalog.files.map (·.key)) := by
    apply List.ext_getElem?
    intro i
    by_cases hi : i < catalog.files.length
    · simp [searchMessages, tell, hi]
    · rw [List.getElem?_eq_none (by simp; omega),
        List.getElem?_eq_none (by simp [searchMessages]; omega)]
  refine ⟨order.map tell, ?_, ?_, rfl⟩
  · exact hrange ▸ hp.map tell
  · rintro rfl
    exact hrange

end Resolution

namespace IndexPlan

/-- What is told of sql files while their declarations are extracted. A file that cannot be read is
named before it is counted. -/
def extractionMessages (source : Contents) (paths : List RawText) : List Progress :=
  paths.zipIdx.flatMap fun (path, n) =>
    (if source path = none then [.skipped path.text] else []) ++
      [.advanced .extracting (n + 1) path.text]

theorem messages_declareFile (plan : IndexPlan) (source : Contents) (state : Extracted)
    (path : RawText) (index n : Nat) :
    (plan.declareFile source state path index n).messages =
      state.messages ++ ((if source path = none then [.skipped path.text] else []) ++
        [.advanced .extracting (n + 1) path.text]) := by
  unfold declareFile
  cases hs : source path with
  | none => simp
  | some lines => simp

theorem messages_declareAll (plan : IndexPlan) (source : Contents) (catalog : Catalog) :
    (plan.declareAll source catalog).messages =
      let paths := (sqlFiles catalog).map Prod.fst
      .started .extracting paths.length ::
        (extractionMessages source paths ++ [.finished .extracting]) := by
  have fold (files : List (RawText × Nat)) (n : Nat) (state : Extracted) :
      ((files.zipIdx n).foldl (fun state entry =>
          plan.declareFile source state entry.1.1 entry.1.2 entry.2) state).messages =
        state.messages ++ ((files.map Prod.fst).zipIdx n).flatMap fun entry =>
          (if source entry.1 = none then [.skipped entry.1.text] else []) ++
            [.advanced .extracting (entry.2 + 1) entry.1.text] := by
    induction files generalizing n state with
    | nil => simp
    | cons file rest ih =>
      rw [List.zipIdx_cons, List.foldl_cons, ih, messages_declareFile, List.append_assoc]
      rfl
  have hall := fold (sqlFiles catalog) 0
    ⟨catalog, .zero, [], [.started .extracting (sqlFiles catalog).length]⟩
  dsimp only
  rw [List.length_map]
  exact congrArg (· ++ [.finished .extracting]) hall

/-- A plan searches the files in an order that its settings allow. -/
def FollowsSettings (plan : IndexPlan) : Prop :=
  ∀ catalog, Resolution.SearchedIn plan.settings.process.parallel catalog.files.length
    (plan.order catalog)

/-- What a run tells: where there is no root only that it has started; else one phase after the
other, each sql file in its turn, and each file once when its search is done. -/
theorem run_tells_phases (plan : IndexPlan) (hplan : plan.FollowsSettings) (source : Contents) :
    plan.run none source =
        ([.started .classifying 0], .error (.rootNotFound plan.settings.files.root)) ∧
      ∀ entries, ∃ catalog summary told,
        let sqlPaths := (catalog.files.filter (·.kind = .sql)).map (·.path)
        let searched := Resolution.searchMessages (catalog.files.map (·.key))
        plan.run (some entries) source =
          ([.started .classifying 0, .finished .classifying] ++
            .started .extracting sqlPaths.length ::
              (extractionMessages source sqlPaths ++ [.finished .extracting]) ++
            .started .resolving catalog.files.length :: (told ++ [.finished .resolving]),
            .ok (catalog, summary)) ∧
        told.Perm searched ∧ (plan.settings.process.parallel = false → told = searched) := by
  refine ⟨rfl, ?_⟩
  intro entries
  rcases hclassify : Classification.classify plan.settings.files (some entries) .empty with
    ⟨classified, error | counts⟩
  · simp [Classification.classify] at hclassify
  · have hmessages := plan.messages_declareAll source classified
    have hdeclared := (plan.grows_declareAll source classified).families
    simp only [plan.run_of_classified hclassify]
    generalize plan.declareAll source classified = extracted at *
    obtain ⟨hp, hsequential⟩ := Resolution.searchedIn_iff.mp (hplan extracted.catalog)
    generalize plan.order extracted.catalog = order at *
    obtain ⟨told, htold, hinOrder, hresolving⟩ := Resolution.messages_of_perm hp
    have hfamilies := extracted.catalog.families_resolveIn order plan.headers source
    have hpaths := extracted.catalog.paths_resolveIn order plan.headers source
    generalize extracted.catalog.resolveIn order plan.headers source = resolved at *
    obtain ⟨catalog, resolution⟩ := resolved
    have hkeys : catalog.files.map (·.key) = extracted.catalog.files.map (·.key) := by
      have htexts := congrArg (List.map RawText.text) hpaths
      rwa [List.map_map, List.map_map] at htexts
    have hlength : catalog.files.length = extracted.catalog.files.length := by
      simpa using congrArg List.length hpaths
    have hsql : (sqlFiles classified).map Prod.fst =
        (catalog.files.filter (·.kind = .sql)).map (·.path) := by
      rw [paths_sqlFiles, ← hdeclared, ← hfamilies, Catalog.families, List.filter_map,
        List.map_map]
      rfl
    refine ⟨catalog, ⟨counts, extracted.tally, resolution, extracted.skipped⟩, told, ?_, ?_, ?_⟩
    · rw [hmessages, hresolving, hsql, hlength]
    · rw [hkeys]
      exact htold
    · intro hseq
      rw [hkeys]
      exact hinOrder (hsequential hseq)

theorem run_tells_phases_sideBySide :
    let plan : IndexPlan := ⟨Settings.standard, Doc.scan, fun catalog =>
      (List.range catalog.files.length).reverse⟩
    let entries := [Entry.file "a.sql", Entry.file "b.c", Entry.file "c.sql"]
    let source : Contents := fun path => if path = ↑"./a.sql" then none else some []
    (plan.run none source).1 = [.started .classifying 0] ∧
      ∃ told, (plan.run (some entries) source).1 =
        [.started .classifying 0, .finished .classifying, .started .extracting 2,
          .skipped "./a.sql", .advanced .extracting 1 "./a.sql",
          .advanced .extracting 2 "./c.sql", .finished .extracting, .started .resolving 3] ++
            told ++ [.finished .resolving] ∧
        told.Perm [.advanced .resolving 1 "./a.sql", .advanced .resolving 2 "./b.c",
          .advanced .resolving 3 "./c.sql"] := by
  intro plan entries source
  have hplan : plan.FollowsSettings := by
    intro catalog
    refine Resolution.searchedIn_iff.mpr ⟨List.reverse_perm _, ?_⟩
    intro hsequential
    cases hsequential
  let catalog : Catalog :=
    ⟨[⟨1, "./a.sql", .sql, [], []⟩, ⟨2, "./b.c", .native, [], []⟩, ⟨3, "./c.sql", .sql, [], []⟩], 3⟩
  have hcatalog : ((plan.run (some entries) source).2.map (·.1)).toOption = some catalog := by
    decide +kernel
  obtain ⟨hmissing, hall⟩ := run_tells_phases plan hplan source
  obtain ⟨found, summary, told, hrun, htold, _⟩ := hall entries
  rw [hrun] at hcatalog
  have hfound : found = catalog := Option.some.inj hcatalog
  subst hfound
  exact ⟨congrArg Prod.fst hmissing, told, congrArg Prod.fst hrun, htold⟩

end IndexPlan

end CrossRef
