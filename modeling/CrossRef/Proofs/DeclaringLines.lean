import CrossRef.Proofs.IndexRun

namespace CrossRef

/-- A site names line `p` of file `i`, on which `reading` was read. -/
def Catalog.ReadsAt (catalog : Catalog) (headers : HeaderRules) (source : Contents) (i p : Nat)
    (reading : LineReading) (site : UseSite) : Prop :=
  ∃ file lines, catalog.files[i]? = some file ∧ source file.path = some lines ∧
    (headers.walk isComment false lines)[p]? = some reading ∧ site = ⟨file.id, lineNumber p⟩

theorem Resolution.line_of_mention {headers : HeaderRules} {needles : List Needle}
    {source : Contents} {file : IndexedFile} {found : Findings} {mention : Mention}
    (h : searchFile headers needles source file = some found) (hm : mention ∈ found.mentions) :
    ∃ lines position reading, source file.path = some lines ∧
      (headers.walk isComment false lines)[position]? = some reading ∧
        reading.isDeclaration = false ∧ mention.line = lineNumber position := by
  obtain ⟨lines, hs, rfl⟩ := Option.map_eq_some_iff.mp h
  unfold searchLines at hm
  split at hm
  next => simp at hm
  next =>
    rw [searchFrom_eq_walk] at hm
    obtain ⟨⟨⟨line, reading⟩, position⟩, he, hl⟩ := List.mem_flatMap.mp hm
    obtain ⟨hread, hpass⟩ := List.mem_filter.mp he
    obtain ⟨_, hget⟩ := List.getElem?_zip_eq_some.mp (List.mem_zipIdx_iff_getElem?.mp hread)
    obtain ⟨needle, _, rfl⟩ := List.mem_map.mp hl
    simp only [Bool.and_eq_true, Bool.not_eq_eq_eq_not, Bool.not_true] at hpass
    exact ⟨lines, position, reading, hs, hget, hpass.2, rfl⟩

theorem lineNumber_injective {p q : Nat} (hp : p < UInt32.size) (hq : q < UInt32.size)
    (h : lineNumber p = lineNumber q) : p = q := by
  have hofNat : UInt32.ofNat p = UInt32.ofNat q := by simpa [lineNumber] using h
  have hnat := congrArg UInt32.toNat hofNat
  simp only [UInt32.toNat_ofNat'] at hnat
  simp only [UInt32.size] at hp hq
  omega

/-- As long as numbers do not start again, a number names one file. -/
theorem Catalog.index_of_id {catalog : Catalog}
    (ids : ∀ (i : Nat) file, catalog.files[i]? = some file → file.id = UInt64.ofNat (i + 1))
    (hcount : catalog.files.length < UInt64.size) {i j : Nat} {file other : IndexedFile}
    (hi : catalog.files[i]? = some file) (hj : catalog.files[j]? = some other)
    (h : file.id = other.id) : i = j := by
  have hbelow := (List.getElem?_eq_some_iff.mp hi).1
  have hotherBelow := (List.getElem?_eq_some_iff.mp hj).1
  rw [ids i file hi, ids j other hj] at h
  have hnat := congrArg UInt64.toNat h
  simp only [UInt64.toNat_ofNat'] at hnat
  simp only [UInt64.size] at hcount
  omega

/-- As long as numbers do not start again, a site names one line. -/
theorem Catalog.ReadsAt.unique {catalog : Catalog} {headers : HeaderRules} {source : Contents}
    {i j p q : Nat} {first second : LineReading} {site : UseSite}
    (ids : ∀ (i : Nat) file, catalog.files[i]? = some file → file.id = UInt64.ofNat (i + 1))
    (hcount : catalog.files.length < UInt64.size)
    (hshort : ∀ file lines, catalog.files[i]? = some file → source file.path = some lines →
      lines.length < UInt32.size)
    (ha : catalog.ReadsAt headers source i p first site)
    (hb : catalog.ReadsAt headers source j q second site) : first = second := by
  obtain ⟨a, lines, hfa, hsa, hra, rfl⟩ := ha
  obtain ⟨b, lines', hfb, hsb, hrb, hsite⟩ := hb
  obtain ⟨hid, hline⟩ := UseSite.mk.inj hsite
  obtain rfl := index_of_id ids hcount hfa hfb hid
  cases Option.some.inj (hfa.symm.trans hfb)
  cases Option.some.inj (hsa.symm.trans hsb)
  have hlen := hshort a _ hfa hsa
  have hp := (List.getElem?_eq_some_iff.mp hra).1
  have hq := (List.getElem?_eq_some_iff.mp hrb).1
  rw [HeaderRules.length_walk] at hp hq
  have hpq : p = q := lineNumber_injective (by omega) (by omega) hline
  subst hpq
  exact Option.some.inj (hra.symm.trans hrb)

theorem Catalog.ReadsAt.of_labels {a b : Catalog} {headers : HeaderRules} {source : Contents}
    {i p : Nat} {reading : LineReading} {site : UseSite} (h : a.labels = b.labels)
    (ha : a.ReadsAt headers source i p reading site) :
    b.ReadsAt headers source i p reading site := by
  obtain ⟨file, lines, hf, hs, hr, rfl⟩ := ha
  obtain ⟨same, hsame, hid, hpath⟩ := file_of_labels h hf
  exact ⟨same, lines, hsame, hpath ▸ hs, hr, by rw [hid]⟩

namespace IndexPlan

section

variable {plan : IndexPlan} {source : Contents} {classified declared : Catalog}
  (hclassified : classified.JustClassified)
  (hgrows : classified.Grows (plan.Declares source classified) declared)

include hclassified hgrows

theorem declares_of_get? {place : Place} {decl : Declaration}
    (h : declared.get? place = some decl) : plan.Declares source classified place.file decl := by
  rcases hgrows.adds h with hold | hfresh
  · rw [hclassified.undeclared place] at hold
    simp at hold
  · exact hfresh

theorem declaration_readsAt {place : Place} {decl : Declaration} {file : IndexedFile}
    (h : declared.get? place = some decl) (hf : declared.files[place.file]? = some file) :
    ∃ p reading, declared.ReadsAt plan.headers source place.file p reading ⟨file.id, decl.line⟩ ∧
      reading.isDeclaration = true := by
  obtain ⟨first, lines, hfirst, hs, p, reading, header, hread, hheader, name, _, rfl⟩ :=
    declares_of_get? hclassified hgrows h
  obtain ⟨same, hsame, hid, hpath⟩ := Catalog.file_of_labels hgrows.labels.symm hfirst
  cases Option.some.inj (hsame.symm.trans hf)
  rw [HeaderRules.walk_isPassedOver] at hread
  refine ⟨p, reading, ⟨file, lines, hf, hpath ▸ hs, hread, rfl⟩, ?_⟩
  cases hempty : reading.headers with
  | nil => simp [hempty] at hheader
  | cons header rest => simp [LineReading.isDeclaration, hempty]

/-- A use stands on a line of the file under whose key it is recorded. -/
theorem line_of_use {order : List Nat} {user : Place} {used : Declaration} {key : String}
    {sites : List UseSite} {site : UseSite}
    (hused : (declared.resolveIn order plan.headers source).1.get? user = some used)
    (hpath : (key, sites) ∈ used.uses) (hsite : site ∈ sites) :
    ∃ file ∈ declared.files, file.key = key ∧ ∃ lines q reading,
      source file.path = some lines ∧
        (plan.headers.walk isComment false lines)[q]? = some reading ∧
          reading.isDeclaration = false ∧ site = ⟨file.id, lineNumber q⟩ := by
  rw [Catalog.resolveIn_fst] at hused
  obtain ⟨decl, id, hdecl, rfl⟩ := Catalog.exists_of_get?_recordEach hused
  have hnone : decl.uses = [] := by
    obtain ⟨_, _, _, _, _, _, _, _, _, _, _, rfl⟩ := declares_of_get? hclassified hgrows hdecl
    rfl
  rw [hnone] at hpath
  rcases Uses.mem_sites_of_recordSites hpath hsite with ⟨old, hold, _⟩ | hadded
  · simp at hold
  · obtain ⟨use, huse, he⟩ := List.mem_map.mp hadded
    obtain ⟨rfl, rfl⟩ := Prod.mk.inj he
    obtain ⟨file, hfile, found, mention, hfound, hmention, rfl⟩ :=
      Catalog.mem_recordsIn (List.mem_filter.mp huse).1
    obtain ⟨lines, q, reading, hs, hread, hdecl, hline⟩ :=
      Resolution.line_of_mention hfound hmention
    exact ⟨file, hfile, rfl, lines, q, reading, hs, hread, hdecl, by rw [Mention.useIn, hline]⟩

theorem use_readsAt {order : List Nat} {user : Place} {used : Declaration} {path : String}
    {sites : List UseSite} {site : UseSite}
    (hused : (declared.resolveIn order plan.headers source).1.get? user = some used)
    (hpath : (path, sites) ∈ used.uses) (hsite : site ∈ sites) :
    ∃ j q reading, declared.ReadsAt plan.headers source j q reading site ∧
      reading.isDeclaration = false := by
  obtain ⟨file, hfile, _, lines, q, reading, hs, hread, hdecl, rfl⟩ :=
    line_of_use hclassified hgrows hused hpath hsite
  obtain ⟨j, hj⟩ := List.mem_iff_getElem?.mp hfile
  exact ⟨j, q, reading, ⟨file, lines, hj, hs, hread, rfl⟩, hdecl⟩

end

section

variable {plan : IndexPlan} {entries : Option (List Entry)} {source : Contents}
  {messages : List Progress} {catalog : Catalog} {summary : Summary}
  (hrun : plan.run entries source = (messages, .ok (catalog, summary)))

include hrun

theorem run_declaration_readsAt {place : Place} {decl : Declaration} {file : IndexedFile}
    (h : catalog.get? place = some decl) (hf : catalog.files[place.file]? = some file) :
    ∃ p reading, reading.isDeclaration = true ∧
      catalog.ReadsAt plan.headers source place.file p reading ⟨file.id, decl.line⟩ := by
  obtain ⟨classified, declared, order, hclassified, hgrows, rfl⟩ := run_eq_ok hrun
  have hlabels := declared.labels_resolveIn order plan.headers source
  obtain ⟨before, hbefore, hid, _⟩ := Catalog.file_of_labels hlabels hf
  rw [Catalog.resolveIn_fst] at h
  obtain ⟨old, id, hold, rfl⟩ := Catalog.exists_of_get?_recordEach h
  obtain ⟨p, reading, hread, hdecl⟩ := declaration_readsAt hclassified hgrows hold hbefore
  rw [hid] at hread
  exact ⟨p, reading, hdecl, hread.of_labels hlabels.symm⟩

theorem run_use_readsAt {user : Place} {used : Declaration} {path : String}
    {sites : List UseSite} {site : UseSite} (h : catalog.get? user = some used)
    (hpath : (path, sites) ∈ used.uses) (hsite : site ∈ sites) :
    ∃ j q reading, reading.isDeclaration = false ∧
      catalog.ReadsAt plan.headers source j q reading site := by
  obtain ⟨classified, declared, order, hclassified, hgrows, rfl⟩ := run_eq_ok hrun
  have hlabels := declared.labels_resolveIn order plan.headers source
  obtain ⟨j, q, reading, hread, hdecl⟩ := use_readsAt hclassified hgrows h hpath hsite
  exact ⟨j, q, reading, hdecl, hread.of_labels hlabels.symm⟩

theorem run_ids {i : Nat} {file : IndexedFile} (hf : catalog.files[i]? = some file) :
    file.id = UInt64.ofNat (i + 1) := by
  obtain ⟨classified, declared, order, hclassified, hgrows, rfl⟩ := run_eq_ok hrun
  have hlabels := (declared.labels_resolveIn order plan.headers source).trans hgrows.labels
  obtain ⟨first, hfirst, hid, _⟩ := Catalog.file_of_labels hlabels hf
  exact hid.symm.trans (hclassified.ids i first hfirst)

end

/-- Extraction and the search for uses read the same heads on every line and have a package body
open behind the same lines. So every declaration stands on a line with a head, every use on a line
without one, and no line that declares a symbol is recorded as a use. That numbers tell files and
lines apart is assumed for the last alone: there are fewer than 2 ^ 64 files, and fewer than 2 ^ 32
lines in the declaring file. -/
theorem passes_agree_on_declarations :
    (∀ (headers : HeaderRules) (packageOpen : Bool) (lines : List String),
      headers.walk Extraction.isPassedOver packageOpen lines =
        headers.walk isComment packageOpen lines) ∧
    (∀ (rules : DeclarationRules) (docs : List DocBlock) (index : Nat) (file : IndexedFile)
      (lines : List String),
      Extraction.addLines rules docs index file lines =
        (rules.headers.walk Extraction.isPassedOver false lines).zipIdx.foldl
          (fun state entry => Extraction.addReading rules docs index state entry.1 entry.2)
          ⟨file, .zero, false⟩) ∧
    (∀ (headers : HeaderRules) (needles : List Needle) (lines : List String),
      let read := (lines.zip (headers.walk isComment false lines)).zipIdx
      Resolution.searchFrom headers needles 0 false lines =
        ((read.filter fun entry => !isComment entry.1.1 && !entry.1.2.isDeclaration).flatMap
            fun entry => Resolution.lineMentions needles entry.1.1 (lineNumber entry.2),
          (read.filter (·.1.2.isDeclaration)).length)) ∧
    ∀ (plan : IndexPlan) (entries : Option (List Entry)) (source : Contents)
      (messages : List Progress) (catalog : Catalog) (summary : Summary),
      plan.run entries source = (messages, .ok (catalog, summary)) →
      (∀ place decl file, catalog.get? place = some decl →
        catalog.files[place.file]? = some file →
        ∃ p reading, reading.isDeclaration = true ∧
          catalog.ReadsAt plan.headers source place.file p reading ⟨file.id, decl.line⟩) ∧
      (∀ user used path sites, catalog.get? user = some used → (path, sites) ∈ used.uses →
        ∀ site ∈ sites, ∃ j q reading, reading.isDeclaration = false ∧
          catalog.ReadsAt plan.headers source j q reading site) ∧
      (catalog.files.length < UInt64.size →
        ∀ place decl file, catalog.get? place = some decl →
          catalog.files[place.file]? = some file →
          (∀ lines, source file.path = some lines → lines.length < UInt32.size) →
          ∀ user used path sites, catalog.get? user = some used → (path, sites) ∈ used.uses →
            ⟨file.id, decl.line⟩ ∉ sites) := by
  refine ⟨fun headers => headers.walk_isPassedOver, Extraction.addLines_eq_walk,
    fun headers needles lines => Resolution.searchFrom_eq_walk headers needles 0 false lines, ?_⟩
  intro plan entries source messages catalog summary hrun
  refine ⟨fun place decl file h hf => run_declaration_readsAt hrun h hf,
    fun user used path sites h hpath site hsite => run_use_readsAt hrun h hpath hsite, ?_⟩
  intro hcount place decl file hdecl hfile hshort user used path sites hused hpath hsite
  obtain ⟨p, reading, hdeclares, hread⟩ := run_declaration_readsAt hrun hdecl hfile
  obtain ⟨j, q, other, huses, hother⟩ := run_use_readsAt hrun hused hpath hsite
  have hlines (same : IndexedFile) (lines : List String)
      (hsame : catalog.files[place.file]? = some same) (hs : source same.path = some lines) :
      lines.length < UInt32.size := by
    cases Option.some.inj (hsame.symm.trans hfile)
    exact hshort lines hs
  have heq := hread.unique (fun i file hf => run_ids hrun hf) hcount hlines hother
  rw [heq, huses] at hdeclares
  simp at hdeclares

theorem passes_agree_on_declarations_view :
    let pages := { PageSettings.standard with view := true }
    let plan := standard { Settings.standard with pages }
    let source : Contents := fun _ => some ["create view v as", "select 1 from", "v"]
    ∃ messages catalog summary,
      plan.run (some [.file "a.sql"]) source = (messages, .ok (catalog, summary)) ∧
      ∃ decl, catalog.get? (.view 0 0) = some decl ∧ decl.line = 1 ∧
        decl.uses = [("./a.sql", [⟨1, 3⟩])] ∧
        ∀ path sites, (path, sites) ∈ decl.uses → (⟨1, 1⟩ : UseSite) ∉ sites := by
  intro pages plan source
  let decl : Declaration := ⟨.view, "v", 0, 1, none, 2, [("./a.sql", [⟨1, 3⟩])]⟩
  let catalog : Catalog := ⟨[⟨1, "./a.sql", .sql, [decl], []⟩], 2⟩
  have hcatalog : (plan.run (some [.file "a.sql"]) source).2.toOption.map (·.1) = some catalog := by
    decide +kernel
  match hrun : plan.run (some [.file "a.sql"]) source with
  | (messages, .error error) => simp [hrun, Except.toOption] at hcatalog
  | (messages, .ok (found, summary)) =>
    rw [hrun] at hcatalog
    have hfound : found = catalog := Option.some.inj hcatalog
    subst hfound
    obtain ⟨_, _, hunused⟩ :=
      passes_agree_on_declarations.2.2.2 plan _ source messages catalog summary hrun
    refine ⟨messages, catalog, summary, rfl, decl, rfl, rfl, rfl, ?_⟩
    intro path sites hpath
    exact hunused (by decide) (.view 0 0) decl _ rfl rfl
      (fun lines h => by cases Option.some.inj h; decide) (.view 0 0) decl path sites rfl hpath

end IndexPlan

end CrossRef
