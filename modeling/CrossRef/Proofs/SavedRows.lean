import CrossRef.Proofs.PackageSeqs
import CrossRef.Store.Connection

namespace CrossRef.Store

/-- A catalog whose rows a store accepts: no two files have one number, and each declaration names a
file that is there. -/
structure Storable (catalog : Catalog) : Prop where
  ids : (catalog.files.map (·.id)).Nodup
  files : ∀ place decl, (place, decl) ∈ catalog.symbols → decl.file < catalog.files.length

theorem nodup_fileRows {files : List IndexedFile} (h : (files.map (·.id)).Nodup) :
    ((files.zipIdx.map fun entry => fileRow entry.1 entry.2).map (·.id)).Nodup := by
  have hids : (files.zipIdx.map fun entry => fileRow entry.1 entry.2).map (·.id) =
      (files.map (·.id)).map UInt64.toInt64 := by
    have hfst := List.zipIdx_map_fst 0 files
    conv_rhs => rw [← hfst, List.map_map, List.map_map]
    rw [List.map_map]
    rfl
  rw [hids]
  exact h.map fun a b hab => by simpa using congrArg Int64.toUInt64 hab

namespace Statement

/-- Makes changes one after the other. -/
def applyAll (statements : List Statement) (tables : Tables) : Except StoreError Tables :=
  statements.foldlM apply tables

theorem applyAll_cons {statement : Statement} {tables next : Tables}
    (h : statement.apply tables = .ok next) (rest : List Statement) :
    applyAll (statement :: rest) tables = applyAll rest next := by
  rw [applyAll, List.foldlM_cons, h]
  rfl

theorem applyAll_append {first : List Statement} {tables next : Tables}
    (h : applyAll first tables = .ok next) (second : List Statement) :
    applyAll (first ++ second) tables = applyAll second next := by
  rw [applyAll] at h
  rw [applyAll, List.foldlM_append, h]
  rfl

/-- Whatever the store holds, all rows can be removed in this order. -/
theorem applyAll_clearing (tables : Tables) :
    applyAll clearing tables = .ok { Tables.empty with lastUsage := tables.lastUsage } := by
  simp [applyAll, clearing, apply, Tables.dropSymbols, Tables.dropFiles, Tables.empty, bind,
    Except.bind, pure, Except.pure]

theorem applyAll_addFile {rows : List FileRow} {tables : Tables}
    (hnew : (tables.files.map (·.id) ++ rows.map (·.id)).Nodup) :
    applyAll (rows.map .addFile) tables = .ok { tables with files := tables.files ++ rows } := by
  induction rows generalizing tables with
  | nil => simp [applyAll, pure, Except.pure]
  | cons row rest ih =>
    have hfree : tables.hasFile row.id = false := by
      rw [Tables.hasFile, List.any_eq_false]
      intro old hold heq
      have hne := (List.nodup_append.mp hnew).2.2
      exact hne old.id (List.mem_map_of_mem hold) row.id (by simp) (of_decide_eq_true heq)
    have hadd : (Statement.addFile row).apply tables =
        .ok { tables with files := tables.files ++ [row] } := by
      simp [apply, Tables.addFile, hfree]
    rw [List.map_cons, applyAll_cons hadd, ih (by simpa using hnew)]
    simp

theorem applyAll_ofFiles {catalog : Catalog} (h : (catalog.files.map (·.id)).Nodup)
    {tables : Tables} (hempty : tables.files = []) :
    applyAll (ofFiles catalog.files) tables =
      .ok { tables with
        files := catalog.files.zipIdx.map fun entry => fileRow entry.1 entry.2 } := by
  have hrows : ofFiles catalog.files =
      (catalog.files.zipIdx.map fun entry => fileRow entry.1 entry.2).map .addFile := by
    rw [ofFiles, List.map_map]
    rfl
  have hnodup := nodup_fileRows h
  rw [hrows, applyAll_addFile (by rw [hempty]; exact hnodup), hempty, List.nil_append]

end Statement

/-- The uses of a symbol under its number. -/
def numberedUses (entry : (Place × Declaration) × Nat) : List (Nat × String × UseSite) :=
  entry.1.2.uses.flat.map fun use => (entry.2, use)

/-- Rows of uses, numbered behind the last one. -/
def siteRows (last : Nat) (uses : List (Nat × String × UseSite)) : List SiteRow :=
  (uses.zipIdx (last + 1)).map fun entry =>
    ⟨entry.2, entry.1.1, entry.1.2.1, entry.1.2.2.fileId.toInt64, entry.1.2.2.line⟩

theorem siteRows_append (last : Nat) (first second : List (Nat × String × UseSite)) :
    siteRows last (first ++ second) =
      siteRows last first ++ siteRows (last + first.length) second := by
  rw [siteRows, List.zipIdx_append, List.map_append, Nat.add_right_comm]
  rfl

namespace Tables

/-- The tables with the rows of more symbols. -/
def withSymbols (catalog : Catalog) (entries : List ((Place × Declaration) × Nat))
    (tables : Tables) : Tables :=
  { tables with
    symbols := tables.symbols ++ entries.map fun entry =>
      symbolRow catalog entry.2 entry.1.2 (catalog.packageSeq? entry.1.1)
    docs := tables.docs ++ entries.flatMap fun entry => (entry.1.2.doc.map (docRow entry.2)).toList
    usages := tables.usages ++ siteRows tables.lastUsage (entries.flatMap numberedUses)
    lastUsage := tables.lastUsage + (entries.flatMap numberedUses).length }

theorem withSymbols_append (catalog : Catalog) (first second : List ((Place × Declaration) × Nat))
    (tables : Tables) :
    tables.withSymbols catalog (first ++ second) =
      (tables.withSymbols catalog first).withSymbols catalog second := by
  simp [withSymbols, siteRows_append, Nat.add_assoc]

/-- The contents of a store without symbols, with the files of a catalog. -/
def ofFiles (catalog : Catalog) (root : RawText) (lastUsage : Nat) : Tables :=
  { Tables.empty with
    root := some root.text
    files := catalog.files.zipIdx.map fun entry => fileRow entry.1 entry.2
    lastUsage }

/-- The contents of a store that holds a catalog. -/
def ofCatalog (catalog : Catalog) (root : RawText) (lastUsage : Nat) : Tables :=
  (ofFiles catalog root lastUsage).withSymbols catalog (catalog.symbols.zipIdx 1)

end Tables

namespace Statement

theorem applyAll_addUsage {tables : Tables} {seq : Nat} (h : tables.hasSymbol seq = true)
    (uses : List (String × UseSite)) :
    applyAll (uses.map fun use => .addUsage seq use.1 use.2.fileId.toInt64 use.2.line) tables =
      .ok { tables with
        usages := tables.usages ++ siteRows tables.lastUsage (uses.map fun use => (seq, use))
        lastUsage := tables.lastUsage + uses.length } := by
  induction uses generalizing tables with
  | nil => simp [applyAll, siteRows, pure, Except.pure]
  | cons use rest ih =>
    let row : SiteRow :=
      ⟨tables.lastUsage + 1, seq, use.1, use.2.fileId.toInt64, use.2.line⟩
    have hadd : (Statement.addUsage seq use.1 use.2.fileId.toInt64 use.2.line).apply tables =
        .ok { tables with
          usages := tables.usages ++ [row]
          lastUsage := tables.lastUsage + 1 } := by
      simp [apply, Tables.addUsage, h, row]
    rw [List.map_cons, applyAll_cons hadd, ih (by exact h)]
    simp [siteRows, row, Nat.add_assoc, Nat.add_comm 1]

/-- A symbol is written if its number is free and its file and its package are there. -/
theorem applyAll_ofSymbol {catalog : Catalog} {tables : Tables} {place : Place} {decl : Declaration}
    {seq : Nat} (hfree : tables.hasSymbol seq = false)
    (hdocs : tables.docs.any (·.symbolSeq = seq) = false)
    (hfile : tables.hasFile (fileIdOf catalog decl) = true)
    (hpackage : (catalog.packageSeq? place).all tables.hasSymbol = true) :
    applyAll (ofSymbol catalog seq decl (catalog.packageSeq? place)) tables =
      .ok (tables.withSymbols catalog [((place, decl), seq)]) := by
  let row := symbolRow catalog seq decl (catalog.packageSeq? place)
  let added : Tables := { tables with symbols := tables.symbols ++ [row] }
  have hsymbol : (Statement.addSymbol row).apply tables = .ok added := by
    have hs : tables.hasSymbol row.seq = false := hfree
    have hf : tables.hasFile row.fileId = true := hfile
    have hp : row.packageSeq.all tables.hasSymbol = true := hpackage
    simp [apply, Tables.addSymbol, hs, hf, hp, added]
  have hthere : added.hasSymbol seq = true := by
    simp [added, Tables.hasSymbol, row, symbolRow]
  rw [ofSymbol, applyAll_cons hsymbol]
  cases hdoc : decl.doc with
  | none =>
    rw [Option.map_none, Option.toList_none, List.nil_append, applyAll_addUsage hthere]
    simp [Tables.withSymbols, numberedUses, hdoc, added, row]
  | some doc =>
    have hadd : (Statement.addDoc (docRow seq doc)).apply added =
        .ok { added with docs := added.docs ++ [docRow seq doc] } := by
      have hd : added.docs.any (·.symbolSeq = (docRow seq doc).symbolSeq) = false := hdocs
      have hs : added.hasSymbol (docRow seq doc).symbolSeq = true := hthere
      simp only [apply, Tables.addDoc, hd, hs, Bool.false_eq_true, ↓reduceIte]
    rw [Option.map_some, Option.toList_some, List.singleton_append, applyAll_cons hadd,
      applyAll_addUsage (by exact hthere)]
    simp [Tables.withSymbols, numberedUses, hdoc, added, row]

section

variable {catalog : Catalog} {root : RawText} {last : Nat}

theorem hasSymbol_withSymbols (entries : List ((Place × Declaration) × Nat)) (seq : Nat) :
    ((Tables.ofFiles catalog root last).withSymbols catalog entries).hasSymbol seq =
      entries.any (·.2 = seq) := by
  simp only [Tables.hasSymbol, Tables.withSymbols, Tables.ofFiles, Tables.empty, List.nil_append,
    List.any_map]
  rfl

theorem docs_withSymbols {entries : List ((Place × Declaration) × Nat)} {seq : Nat}
    (h : entries.any (·.2 = seq) = false) :
    ((Tables.ofFiles catalog root last).withSymbols catalog entries).docs.any
      (·.symbolSeq = seq) = false := by
  rw [List.any_eq_false] at h ⊢
  intro row hrow heq
  have hrow : row ∈ entries.flatMap fun entry => (entry.1.2.doc.map (docRow entry.2)).toList := by
    simpa [Tables.withSymbols, Tables.ofFiles, Tables.empty] using hrow
  obtain ⟨entry, hentry, hdoc⟩ := List.mem_flatMap.mp hrow
  obtain ⟨doc, _, rfl⟩ := Option.map_eq_some_iff.mp (Option.mem_toList.mp hdoc)
  exact h entry hentry heq

theorem hasFile_withSymbols (h : Storable catalog) {place : Place} {decl : Declaration}
    (hmem : (place, decl) ∈ catalog.symbols) (entries : List ((Place × Declaration) × Nat)) :
    ((Tables.ofFiles catalog root last).withSymbols catalog entries).hasFile
      (fileIdOf catalog decl) = true := by
  have hlt := h.files place decl hmem
  have hid : fileIdOf catalog decl = catalog.files[decl.file].id.toInt64 := by
    simp [fileIdOf, hlt]
  have hrow : (catalog.files[decl.file], decl.file) ∈ catalog.files.zipIdx :=
    List.mem_zipIdx_iff_getElem?.mpr (by simp [hlt])
  rw [Tables.hasFile, List.any_eq_true]
  exact ⟨_, List.mem_map_of_mem hrow, by simp [fileRow, hid]⟩

theorem next_seq_free (listed : List (Place × Declaration)) :
    (listed.zipIdx 1).any (·.2 = listed.length + 1) = false := by
  rw [List.any_eq_false]
  intro old hold heq
  have hlt := List.snd_lt_of_mem_zipIdx hold
  have heq := of_decide_eq_true heq
  omega

/-- The package of a routine is there once the symbols before the routine are. -/
theorem hasPackage_withSymbols {listed rest : List (Place × Declaration)} {place : Place}
    {decl : Declaration} (h : catalog.symbols = listed ++ (place, decl) :: rest) :
    (catalog.packageSeq? place).all
      ((Tables.ofFiles catalog root last).withSymbols catalog (listed.zipIdx 1)).hasSymbol =
        true := by
  cases place with
  | view f i => rfl
  | package f p => rfl
  | routine f p kind i =>
    obtain ⟨owner, hfind, hseq⟩ := Catalog.find?_package h
    rw [Catalog.packageSeq?, hseq, Option.all_some, hasSymbol_withSymbols, List.any_eq_true]
    exact ⟨owner, List.mem_of_find?_eq_some hfind, by simp⟩

/-- Behind the first symbols the others are written: each number is free when its turn comes. -/
theorem applyAll_ofSymbols_behind (h : Storable catalog) {listed rest : List (Place × Declaration)}
    (hsplit : catalog.symbols = listed ++ rest) :
    applyAll ((rest.zipIdx (listed.length + 1)).flatMap fun entry =>
        ofSymbol catalog entry.2 entry.1.2 (catalog.packageSeq? entry.1.1))
      ((Tables.ofFiles catalog root last).withSymbols catalog (listed.zipIdx 1)) =
      .ok (Tables.ofCatalog catalog root last) := by
  induction rest generalizing listed with
  | nil =>
    rw [List.append_nil] at hsplit
    rw [Tables.ofCatalog, hsplit]
    rfl
  | cons entry rest ih =>
    obtain ⟨place, decl⟩ := entry
    have hmem : (place, decl) ∈ catalog.symbols := by
      rw [hsplit]
      simp
    have hfree := next_seq_free listed
    have hpackage : (catalog.packageSeq? place).all
        ((Tables.ofFiles catalog root last).withSymbols catalog (listed.zipIdx 1)).hasSymbol =
          true := hasPackage_withSymbols hsplit
    have hfirst := applyAll_ofSymbol (by rw [hasSymbol_withSymbols, hfree])
      (docs_withSymbols hfree) (hasFile_withSymbols h hmem _) hpackage
    have hlonger : catalog.symbols = (listed ++ [(place, decl)]) ++ rest := by
      rw [hsplit, List.append_assoc, List.singleton_append]
    have hrest := ih hlonger
    rw [List.length_append, List.length_singleton, List.zipIdx_append,
      Tables.withSymbols_append, Nat.add_comm 1 listed.length] at hrest
    rw [List.zipIdx_cons, List.flatMap_cons, applyAll_append hfirst]
    exact hrest

theorem applyAll_ofSymbols (h : Storable catalog) :
    applyAll (ofSymbols catalog [] 1 catalog.symbols) (Tables.ofFiles catalog root last) =
      .ok (Tables.ofCatalog catalog root last) := by
  rw [ofSymbols_eq_flatMap]
  exact applyAll_ofSymbols_behind h (List.nil_append _).symm

theorem applyAll_saving (h : Storable catalog) (root : RawText) (tables : Tables) :
    applyAll (saving catalog root) tables =
      .ok (Tables.ofCatalog catalog root tables.lastUsage) := by
  have hroot :
      (Statement.setRoot root.text).apply { Tables.empty with lastUsage := tables.lastUsage } =
        .ok { Tables.empty with root := some root.text, lastUsage := tables.lastUsage } := rfl
  rw [saving, List.append_assoc, applyAll_append (applyAll_clearing tables), List.cons_append,
    applyAll_cons hroot, applyAll_append (applyAll_ofFiles h.ids rfl)]
  exact applyAll_ofSymbols h

end

end Statement

namespace Connection

theorem executeAll_of_applyAll {connection : Connection} (hw : connection.writable = true)
    {statements : List Statement} {tables : Tables}
    (h : Statement.applyAll statements connection.tables = .ok tables) (number : Nat) :
    connection.executeAll (fun _ => none) number statements =
      ({ connection with tables }, .ok ()) := by
  induction statements generalizing connection number with
  | nil =>
    cases Except.ok.inj h
    rfl
  | cons statement rest ih =>
    cases hstep : statement.apply connection.tables with
    | error error =>
      rw [Statement.applyAll, List.foldlM_cons, hstep] at h
      cases h
    | ok next =>
      rw [Statement.applyAll_cons hstep] at h
      have hexecute : connection.execute none statement =
          ({ connection with tables := next }, .ok ()) := by
        simp [execute, hw, hstep]
      rw [executeAll, hexecute]
      exact ih (by exact hw) (by exact h) (number + 1)

/-- A catalog with acceptable rows replaces whatever the store held. -/
theorem save_storable {catalog : Catalog} (h : Storable catalog) (tables : Tables)
    (root : RawText) :
    (ofTables tables true).save catalog root false =
      (ofTables (Tables.ofCatalog catalog root tables.lastUsage) true,
        .ok catalog.symbols.length) := by
  let opened : Connection := ⟨tables, some tables, true⟩
  have hall : opened.executeAll (fun _ => none) 0 (Statement.saving catalog root) =
      ({ opened with tables := Tables.ofCatalog catalog root tables.lastUsage }, .ok ()) :=
    executeAll_of_applyAll rfl (Statement.applyAll_saving h root tables) 0
  have hstart : (ofTables tables true).start = .ok opened := rfl
  simp only [save, saveIn, hstart, Circumstances.calm, hall]
  rfl

end Connection

end CrossRef.Store
