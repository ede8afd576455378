import CrossRef.Proofs.IndentedLines
import CrossRef.Proofs.ShiftedRun

namespace CrossRef

namespace Text.Reindented

variable {line other : String} (h : Reindented line other)

include h

theorem upper : Reindented (upper line) (upper other) := by
  obtain ⟨core, hline, hother⟩ := h
  rw [← String.toList_ofList (l := core)] at hline hother
  exact ⟨_, hline.upper, hother.upper⟩

theorem isComment : isComment line = isComment other := by
  rw [CrossRef.isComment, CrossRef.isComment, SameInk.words h]

theorem isPassedOver : Extraction.isPassedOver line = Extraction.isPassedOver other := by
  rw [Extraction.isPassedOver, Extraction.isPassedOver, SameInk.words h, h.isComment]

theorem readLine (headers : HeaderRules) (packageOpen : Bool) :
    headers.readLine packageOpen line = headers.readLine packageOpen other := by
  have htokens : tokens line = tokens other := congrArg (List.map String.ofList) (SameInk.words h)
  rw [HeaderRules.readLine, HeaderRules.readLine, htokens]

theorem lineMentions {needles : List Needle} (hwords : ∀ needle ∈ needles, IsWord needle.text)
    (number : UInt32) :
    Resolution.lineMentions needles line number = Resolution.lineMentions needles other number := by
  have hoccurs : needles.filter (·.occursIn (Text.upper line)) =
      needles.filter (·.occursIn (Text.upper other)) := by
    apply List.filter_congr
    intro needle hneedle
    rw [Bool.eq_iff_iff, Needle.occursIn, Needle.occursIn, occursIn_iff_isInfix,
      occursIn_iff_isInfix]
    exact h.upper.infix_iff (hwords needle hneedle).2
  rw [Resolution.lineMentions, Resolution.lineMentions, hoccurs]

end Text.Reindented

/-- The same files with other blanks around their lines. -/
def Contents.Reindented (source other : Contents) : Prop :=
  ∀ path, Option.Rel (List.Forall₂ Text.Reindented) (source path) (other path)

theorem HeaderRules.walk_reindented (headers : HeaderRules) {lines others : List String}
    (h : List.Forall₂ Text.Reindented lines others) (packageOpen : Bool) :
    headers.walk Extraction.isPassedOver packageOpen lines =
      headers.walk Extraction.isPassedOver packageOpen others := by
  induction h generalizing packageOpen with
  | nil => rfl
  | cons hline _ ih => simp only [walk, hline.isPassedOver, hline.readLine, ih]

theorem DeclarationRules.extract_reindented (rules : DeclarationRules) {lines others : List String}
    (h : List.Forall₂ Text.Reindented lines others) (catalog : Catalog) (index : Nat)
    (docs : List DocBlock) :
    rules.extract catalog index lines docs = rules.extract catalog index others docs := by
  simp only [extract, Extraction.addLines_eq_walk, rules.headers.walk_reindented h]

namespace Resolution

variable {needles : List Needle}
  (hwords : ∀ needle ∈ needles, Text.IsWord needle.text)

include hwords

theorem searchFrom_reindented (headers : HeaderRules) {lines others : List String}
    (h : List.Forall₂ Text.Reindented lines others) (position : Nat) (packageOpen : Bool) :
    searchFrom headers needles position packageOpen lines =
      searchFrom headers needles position packageOpen others := by
  induction h generalizing position packageOpen with
  | nil => rfl
  | cons hline _ ih =>
    simp only [searchFrom, hline.isComment, hline.readLine, hline.lineMentions hwords, ih]

theorem searchFile_reindented (headers : HeaderRules) {source other : Contents}
    (h : source.Reindented other) :
    searchFile headers needles source = searchFile headers needles other := by
  funext file
  have hlines := h file.path
  rw [searchFile, searchFile]
  generalize source file.path = found at hlines ⊢
  generalize other file.path = found' at hlines ⊢
  cases hlines with
  | none => rfl
  | @some lines others hsame =>
    have hsearch : searchLines headers needles lines = searchLines headers needles others := by
      simp only [searchLines, searchFrom_reindented hwords headers hsame, hsame.length_eq]
    exact congrArg some hsearch

end Resolution

theorem Catalog.resolveIn_reindented {catalog : Catalog}
    (hname : ∀ place decl, catalog.get? place = some decl → Text.IsWord decl.name)
    (order : List Nat) (headers : HeaderRules) {source other : Contents}
    (h : source.Reindented other) :
    catalog.resolveIn order headers source = catalog.resolveIn order headers other := by
  simp only [resolveIn, Resolution.searchAll,
    Resolution.searchFile_reindented (isWord_of_needles hname) headers h]

namespace IndexPlan

section

variable {plan : IndexPlan} (hdocs : plan.docs = Doc.scan) {source other : Contents}
  (h : source.Reindented other)

include hdocs h

theorem declareFile_reindented : plan.declareFile source = plan.declareFile other := by
  funext state path index n
  have hlines := h path
  rw [declareFile, declareFile]
  generalize source path = found at hlines ⊢
  generalize other path = found' at hlines ⊢
  cases hlines with
  | none => rfl
  | @some lines others hsame =>
    have hscan : Doc.scan lines = Doc.scan others := Doc.scanFrom_reindented hsame 0 none
    simp only [hdocs, hscan, plan.rules.extract_reindented hsame]

theorem declareAll_reindented : plan.declareAll source = plan.declareAll other := by
  funext catalog
  rw [declareAll, declareAll, declareFile_reindented hdocs h]

end

/-- Blanks put before and behind lines, or taken away there, change nothing in what a run tells and
gives. -/
theorem run_reindented (settings : Settings) (order : Catalog → List Nat)
    (entries : Option (List Entry)) {source other : Contents} (h : source.Reindented other) :
    let plan : IndexPlan := ⟨settings, Doc.scan, order⟩
    plan.run entries source = plan.run entries other := by
  intro plan
  unfold run
  rcases hclassify : Classification.classify plan.settings.files entries .empty with
    ⟨classified, error | counts⟩
  · rfl
  · have hclassified := Classification.justClassified_classify hclassify
    have hgrows := plan.grows_declareAll source classified
    have hdeclared : plan.declareAll source = plan.declareAll other := declareAll_reindented rfl h
    have hresolve (order : List Nat) :=
      Catalog.resolveIn_reindented (fun _ _ => isWord_of_declared hclassified hgrows) order
        plan.headers h
    dsimp only
    rw [hresolve, hdeclared]

theorem run_reindented_viewAndUser :
    let pages := { PageSettings.standard with view := true }
    let plan := standard { Settings.standard with process := ⟨2, true⟩, pages }
    let entries := some [Entry.file "a.sql", Entry.file "b.c"]
    let source : Contents := fun path =>
      if path = ↑"./a.sql" then some ["/** Things.", "  * @view v", "*/", "create view v as"]
      else some ["-- v", "from v"]
    let other : Contents := fun path =>
      if path = ↑"./a.sql" then
        some ["\t/** Things.\u00a0", "* @view v", "\u2003*/ ", "  create view v as "]
      else some [" -- v\t", "\u3000from v "]
    let catalog : Catalog :=
      ⟨[⟨1, "./a.sql", .sql, [⟨.view, "v", 0, 4, some ⟨3, "v", some .view, "Things.", []⟩, 3,
          [("./a.sql", [⟨1, 2⟩]), ("./b.c", [⟨2, 2⟩])]⟩], []⟩, ⟨2, "./b.c", .native, [], []⟩], 3⟩
    source ≠ other ∧ ((plan.run entries source).2.map (·.1)).toOption = some catalog ∧
      ((plan.run entries other).2.map (·.1)).toOption = some catalog := by
  intro pages plan entries source other catalog
  have hblanks : source.Reindented other := by
    intro path
    by_cases hpath : path = ↑"./a.sql"
    · rw [show source path = _ from if_pos hpath, show other path = _ from if_pos hpath]
      exact .some (by decide)
    · rw [show source path = _ from if_neg hpath, show other path = _ from if_neg hpath]
      exact .some (by decide)
  have hcatalog : ((plan.run entries source).2.map (·.1)).toOption = some catalog := by
    decide +kernel
  have hrun : plan.run entries source = plan.run entries other :=
    run_reindented plan.settings plan.order entries hblanks
  refine ⟨fun hsame => ?_, hcatalog, ?_⟩
  · have hlines := congrFun hsame "./b.c"
    revert hlines
    decide
  · rw [← hrun]
    exact hcatalog

end IndexPlan

end CrossRef
