import CrossRef.Proofs.FailedSave
import CrossRef.Proofs.SavedCatalog

namespace CrossRef.Store

/-- The uses in a store with the numbers of their symbols. -/
def Tables.listedUses (tables : Tables) : List (Nat × UseRecord) :=
  tables.usages.map fun row => (row.symbolSeq, ⟨row.path, row.fileId.toUInt64, row.line⟩)

theorem Tables.usesOf_eq (tables : Tables) (seq : Nat) :
    tables.usesOf seq = (tables.listedUses.filter (·.1 = seq)).map Prod.snd := by
  simp only [usesOf, listedUses, List.filter_map, List.map_map, Function.comp_def, Int.natCast_inj]

namespace Statement

/-- The uses that a change adds. -/
def listedUses : Statement → List (Nat × UseRecord)
  | .addUsage symbolSeq path fileId line => [(symbolSeq, ⟨path, fileId.toUInt64, line⟩)]
  | _ => []

/-- A change that is made adds its uses to those that were there, unless it drops them all. -/
theorem listedUses_apply {statement : Statement} (hkeeps : statement ≠ .dropUsages)
    {tables next : Tables} (h : statement.apply tables = .ok next) :
    next.listedUses = tables.listedUses ++ statement.listedUses := by
  have hsame (hrows : next.usages = tables.usages) :
      next.listedUses = tables.listedUses ++ [] := by
    rw [Tables.listedUses, Tables.listedUses, hrows, List.append_nil]
  cases statement with
  | dropUsages => exact absurd rfl hkeeps
  | dropDocs => exact hsame (by cases h; rfl)
  | dropRoot => exact hsame (by cases h; rfl)
  | dropSymbols =>
    simp only [apply, Tables.dropSymbols] at h
    split at h
    next => cases h
    next => exact hsame (by cases h; rfl)
  | dropFiles =>
    simp only [apply, Tables.dropFiles] at h
    split at h
    next => cases h
    next => exact hsame (by cases h; rfl)
  | setRoot root =>
    simp only [apply, Tables.setRoot] at h
    split at h
    next => cases h
    next => exact hsame (by cases h; rfl)
  | addFile row =>
    simp only [apply, Tables.addFile] at h
    split at h
    next => cases h
    next => exact hsame (by cases h; rfl)
  | addSymbol row =>
    simp only [apply, Tables.addSymbol] at h
    split at h
    next => cases h
    next =>
      split at h
      next => exact hsame (by cases h; rfl)
      next => cases h
  | addDoc row =>
    simp only [apply, Tables.addDoc] at h
    split at h
    next => cases h
    next =>
      split at h
      next => exact hsame (by cases h; rfl)
      next => cases h
  | addUsage symbolSeq path fileId line =>
    simp only [apply, Tables.addUsage] at h
    split at h
    next =>
      cases h
      simp [Tables.listedUses, listedUses]
    next => cases h

theorem listedUses_applyAll {statements : List Statement} (hkeep : .dropUsages ∉ statements)
    {tables done : Tables} (h : applyAll statements tables = .ok done) :
    done.listedUses = tables.listedUses ++ statements.flatMap listedUses := by
  induction statements generalizing tables with
  | nil =>
    cases Except.ok.inj h
    rw [List.flatMap_nil, List.append_nil]
  | cons statement rest ih =>
    obtain ⟨hfirst, hrest⟩ := not_or.mp (List.mem_cons.not.mp hkeep)
    cases hstep : statement.apply tables with
    | error error =>
      rw [applyAll, List.foldlM_cons, hstep] at h
      cases h
    | ok next =>
      rw [applyAll_cons hstep] at h
      rw [ih hrest h, listedUses_apply (Ne.symm hfirst) hstep, List.flatMap_cons, List.append_assoc]

/-- What saving a catalog does once the old uses are dropped. -/
def savingRest (catalog : Catalog) (root : RawText) : List Statement :=
  [.dropDocs, .dropSymbols, .dropFiles, .dropRoot, .setRoot root.text] ++ ofFiles catalog.files ++
    ofSymbols catalog [] 1 catalog.symbols

theorem saving_eq (catalog : Catalog) (root : RawText) :
    saving catalog root = .dropUsages :: savingRest catalog root := rfl

theorem savingRest_keeps (catalog : Catalog) (root : RawText) :
    .dropUsages ∉ savingRest catalog root := by
  rw [savingRest, ofSymbols_eq_flatMap]
  simp [ofFiles, ofSymbol]

theorem listedUses_savingRest (catalog : Catalog) (root : RawText) :
    (savingRest catalog root).flatMap listedUses =
      (catalog.symbols.zipIdx 1).flatMap fun entry => entry.1.2.uses.flat.map fun use =>
        (entry.2, ⟨use.1, use.2.fileId, use.2.line⟩) := by
  have hfiles : (ofFiles catalog.files).flatMap listedUses = [] := by
    rw [ofFiles, List.flatMap_map]
    exact List.flatMap_eq_nil_iff.mpr fun _ _ => rfl
  have hsymbol (seq : Nat) (decl : Declaration) (package : Option Nat) :
      (ofSymbol catalog seq decl package).flatMap listedUses =
        decl.uses.flat.map fun use => (seq, ⟨use.1, use.2.fileId, use.2.line⟩) := by
    rw [List.map_eq_flatMap]
    cases hdoc : decl.doc <;> simp [ofSymbol, hdoc, listedUses, List.flatMap_map]
  rw [savingRest, ofSymbols_eq_flatMap, List.flatMap_append, List.flatMap_append, hfiles,
    List.flatMap_assoc]
  simp only [hsymbol]
  rfl

end Statement

namespace Connection

theorem execute_eq_ok {connection changed : Connection} {refusal : Option Refusal}
    {statement : Statement} {result : Unit}
    (h : connection.execute refusal statement = (changed, .ok result)) :
    ∃ tables, statement.apply connection.tables = .ok tables ∧
      changed = { connection with tables } := by
  unfold execute at h
  split at h
  next => cases h
  next =>
    split at h
    next => cases h
    next =>
      split at h
      next tables happly => exact ⟨tables, happly, (Prod.mk.inj h).1.symm⟩
      next => cases h

theorem applyAll_of_executeAll {refusals : Nat → Option Refusal} {connection done : Connection}
    {statements : List Statement} {number : Nat}
    (h : connection.executeAll refusals number statements = (done, .ok ())) :
    Statement.applyAll statements connection.tables = .ok done.tables := by
  induction statements generalizing connection number with
  | nil =>
    cases h
    rfl
  | cons statement rest ih =>
    rw [executeAll] at h
    split at h
    next changed result hstep =>
      obtain ⟨tables, happly, rfl⟩ := execute_eq_ok hstep
      rw [Statement.applyAll_cons happly]
      exact ih h
    next => cases h

theorem commit_eq_ok {connection done : Connection} {locked : Bool}
    (h : connection.commit locked = .ok done) : done = { connection with before := none } := by
  unfold commit at h
  split at h
  next => cases h
  next =>
    split at h
    next => cases h
    next => exact (Except.ok.inj h).symm

/-- A save that is reported as done has made all its changes. -/
theorem applyAll_of_saveIn {circumstances : Circumstances} {connection saved : Connection}
    {catalog : Catalog} {root : RawText} {count : Nat}
    (h : connection.saveIn circumstances catalog root = (saved, .ok count)) :
    Statement.applyAll (Statement.saving catalog root) connection.tables = .ok saved.tables := by
  unfold saveIn at h
  split at h
  next => cases h
  next opened hstart =>
    obtain ⟨_, rfl⟩ := start_eq_ok hstart
    split at h
    next written result hwritten =>
      have hall := applyAll_of_executeAll hwritten
      split at h
      next done hdone =>
        cases h
        rw [commit_eq_ok hdone]
        exact hall
      next => cases h
    next =>
      split at h
      next => cases h
      next => cases h

/-- After a save the uses of a symbol are read back as the catalog has them. -/
theorem usesOf_saveIn {circumstances : Circumstances} {connection saved : Connection}
    {catalog : Catalog} {root : RawText} {count : Nat}
    (h : connection.saveIn circumstances catalog root = (saved, .ok count)) {i : Nat}
    {place : Place} {decl : Declaration} (hi : catalog.symbols[i]? = some (place, decl)) :
    saved.tables.usesOf ((i + 1 : Nat) : Int) =
      decl.uses.flat.map fun use => ⟨use.1, use.2.fileId, use.2.line⟩ := by
  have hall := applyAll_of_saveIn h
  have hdrop : Statement.dropUsages.apply connection.tables =
      .ok { connection.tables with usages := [] } := rfl
  rw [Statement.saving_eq, Statement.applyAll_cons hdrop] at hall
  have hlisted := Statement.listedUses_applyAll (Statement.savingRest_keeps catalog root) hall
  rw [Statement.listedUses_savingRest] at hlisted
  have hfilter := filter_flatMap_zipIdx 1
    (fun entry : (Place × Declaration) × Nat => entry.1.2.uses.flat.map fun use =>
      (entry.2, (⟨use.1, use.2.fileId, use.2.line⟩ : UseRecord)))
    Prod.fst (fun entry y hy => by
      obtain ⟨use, _, rfl⟩ := List.mem_map.mp hy
      rfl) hi
  rw [Tables.usesOf_eq, hlisted, Tables.listedUses, List.map_nil, List.nil_append, hfilter,
    List.map_map]
  rfl

end Connection

end CrossRef.Store
