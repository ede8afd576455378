import CrossRef.Proofs.NumberingRun
import CrossRef.Proofs.RawTexts
import CrossRef.Proofs.SavedCatalog
import Mathlib.Data.List.Forall2

namespace CrossRef.Catalog

/-- Every declaration names the file it stands in. -/
def NamesOwnFiles (catalog : Catalog) : Prop :=
  ∀ place decl, catalog.get? place = some decl → decl.file = place.file

theorem NamesOwnFiles.recordEach {catalog : Catalog} (h : catalog.NamesOwnFiles)
    (uses : List UseRecord) : (catalog.recordEach uses).NamesOwnFiles := by
  intro place found hfound
  obtain ⟨decl, id, hd, rfl⟩ := exists_of_get?_recordEach hfound
  exact h place decl hd

theorem Step.namesOwnFiles {a b : Catalog} {n : Nat} (h : Step a n b) (ha : a.NamesOwnFiles) :
    b.NamesOwnFiles := by
  cases h with
  | addFile path kind =>
    intro place decl hd
    rw [get?_addFile] at hd
    exact ha place decl hd
  | extract rules index lines docs =>
    intro place decl hd
    rcases (rules.grows_extract a index lines docs).adds hd with hold | ⟨hfile, hdeclared⟩
    · exact ha place decl hold
    · obtain ⟨_, _, _, _, _, name, _, rfl⟩ := hdeclared
      exact hfile.symm
  | addUse target path site => exact ha.recordEach [⟨target, path, site⟩]
  | resolve order headers source =>
    rw [resolveIn_fst]
    exact ha.recordEach _

theorem Run.namesOwnFiles {a b : Catalog} {n : Nat} (h : Run a n b) (ha : a.NamesOwnFiles) :
    b.NamesOwnFiles := by
  induction h with
  | done => exact ha
  | next _ step ih => exact step.namesOwnFiles ih

/-- A catalog that is made by the operations can be stored. -/
theorem Run.storable {n : Nat} {catalog : Catalog} (h : Run .empty n catalog)
    (hn : n < UInt64.size) : Store.Storable catalog := by
  have hnumbered := h.numbered numbered_empty (by omega)
  have hown := h.namesOwnFiles fun place decl hd => by simp [get?_eq_at?, empty] at hd
  refine ⟨hnumbered.increasing.imp fun hlt => UInt64.ne_of_lt hlt, ?_⟩
  intro place decl hmem
  have hget := mem_symbols_iff.mp hmem
  obtain ⟨file, hf, _⟩ := get?_eq_some_iff.mp hget
  rw [hown place decl hget]
  exact (List.getElem?_eq_some_iff.mp hf).1

/-- A record of a store that says of the symbol at a place what the catalog says: its number among
all symbols, its own data, the path of its file, and the package it belongs to. -/
def ToldBy (catalog : Catalog) (place : Place) (record : Store.SymbolRecord) : Prop :=
  ∃ i decl file, catalog.symbols[i]? = some (place, decl) ∧
    catalog.files[decl.file]? = some file ∧
    record =
      { seq := i + 1, id := decl.id, kind := decl.kind, name := decl.name, path := file.key
        line := decl.line, package := (catalog.ownerOf? place).map (·.decl.name)
        description := decl.doc.map (·.description) } ∧
    record.qualifiedName = catalog.shownName place

theorem toldBy_recordOf {catalog : Catalog} (h : Store.Storable catalog)
    {entry : (Place × Declaration) × Nat} (hentry : entry ∈ catalog.symbols.zipIdx 1) :
    catalog.ToldBy entry.1.1 (Store.Tables.recordOf catalog entry) := by
  obtain ⟨⟨place, decl⟩, n⟩ := entry
  obtain ⟨hle, hget⟩ := List.mk_mem_zipIdx_iff_le_and_getElem?_sub.mp hentry
  have hmem := List.mem_of_getElem? hget
  have hlt := h.files place decl hmem
  have hf : catalog.files[decl.file]? = some catalog.files[decl.file] := by simp [hlt]
  refine ⟨n - 1, decl, catalog.files[decl.file], hget, hf, ?_, ?_⟩
  · have hn : n = n - 1 + 1 := by omega
    simp only [Store.Tables.recordOf, hf, Option.map_some, Option.getD_some]
    rw [← hn]
  · simp only [Store.SymbolRecord.qualifiedName, Store.Tables.recordOf, shownName,
      mem_symbols_iff.mp hmem, Option.map_some, Option.getD_some]
    cases catalog.ownerOf? place with
    | none => rfl
    | some owner => rfl

/-- A query for the symbols that meet a condition is answered with one record for each. -/
theorem select_toldBy {catalog : Catalog} (h : Store.Storable catalog) (root : RawText) (last : Nat)
    (wanted : Store.SymbolRow → Bool) (chosen : Place × Declaration → Bool)
    (hwanted : ∀ entry ∈ catalog.symbols, ∀ seq package,
      wanted (Store.symbolRow catalog seq entry.2 package) = chosen entry) :
    ∃ records, (Store.Tables.ofCatalog catalog root last).select wanted = .ok records ∧
      List.Forall₂ catalog.ToldBy ((catalog.symbols.filter chosen).map (·.1)) records := by
  refine ⟨_, Store.Tables.select_ofCatalog h wanted, ?_⟩
  have hsame : ∀ entry ∈ catalog.symbols.zipIdx 1,
      wanted (Store.symbolRow catalog entry.2 entry.1.2 (catalog.packageSeq? entry.1.1)) =
        chosen entry.1 :=
    fun entry hentry => hwanted entry.1 (List.fst_mem_of_mem_zipIdx hentry) _ _
  rw [List.filter_congr hsame, ← map_filter_zipIdx catalog.symbols 1 chosen (·.1),
    List.forall₂_map_left_iff, List.forall₂_map_right_iff, List.forall₂_same]
  intro entry hentry
  exact toldBy_recordOf h (List.mem_filter.mp hentry).1

/-- Contents of a store that answer every query from a catalog. The root is told as it is shown. A
name is looked up as the catalog looks it up wherever both compare it with the declared names alike.
The uses of a symbol come path after path in the order of its map, and under each path site after
site. -/
structure Tells (catalog : Catalog) (root : RawText) (tables : Store.Tables) : Prop where
  root : tables.root = some root.text
  kinds : ∀ kind, ∃ records, tables.symbolsOfKind kind = .ok records ∧
    List.Forall₂ catalog.ToldBy
      ((catalog.symbols.filter fun entry => entry.2.kind = kind).map (·.1)) records
  names : ∀ name,
    (∀ entry ∈ catalog.symbols,
      Store.Tables.sameName entry.2.name name = Text.equalIgnoringCase entry.2.name name) →
    ∃ records, tables.symbolsNamed name = .ok records ∧
      List.Forall₂ catalog.ToldBy (catalog.find name none) records
  uses : ∀ i place decl, catalog.symbols[i]? = some (place, decl) →
    tables.usesOf ((i + 1 : Nat) : Int) =
      decl.uses.flatMap fun (path, sites) => sites.map fun site => ⟨path, site.fileId, site.line⟩

theorem tells_ofCatalog {catalog : Catalog} (h : Store.Storable catalog) (root : RawText)
    (last : Nat) : catalog.Tells root (Store.Tables.ofCatalog catalog root last) where
  root := rfl
  kinds := by
    intro kind
    refine select_toldBy h root last (·.kind = kind.name) (·.2.kind = kind) ?_
    intro entry _ seq package
    have hname : entry.2.kind.name = kind.name ↔ entry.2.kind = kind :=
      ⟨fun heq => Option.some.inj (by rw [← Kind.ofName?_name, heq, Kind.ofName?_name]),
        congrArg Kind.name⟩
    exact decide_eq_decide.mpr hname
  names := by
    intro name hsame
    exact select_toldBy h root last (Store.Tables.sameName ·.name name)
      (Text.equalIgnoringCase ·.2.name name) fun entry hentry _ _ => hsame entry hentry
  uses := by
    intro i place decl hi
    refine (Store.Tables.usesOf_ofCatalog hi).trans ?_
    rw [Uses.flat, List.map_flatMap]
    simp only [List.map_map, Function.comp_def]

/-- A catalog that is made by operations that do not exhaust the numbers is saved whatever the store
held before, if it may be written, and told by it from then on. A root that is a text is told as it
is. -/
theorem run_saved_and_told {n : Nat} {catalog : Catalog} (h : Run .empty n catalog)
    (hn : n < UInt64.size) (tables : Store.Tables) (root : RawText) :
    ∃ later, (Store.Connection.ofTables tables true).save catalog root false =
        (Store.Connection.ofTables later true, .ok catalog.symbols.length) ∧
      catalog.Tells root later ∧
      ∀ text : String, root = ↑text → later.root = some text := by
  have htells := tells_ofCatalog (h.storable hn) root tables.lastUsage
  refine ⟨_, Store.Connection.save_storable (h.storable hn) tables root, htells, ?_⟩
  rintro text rfl
  rw [htells.root, RawText.text_ofText]

/-- Two files with packages of one name, each with a routine. -/
def twinPackages : Catalog :=
  let lines := ["create package body p as", "function f(a number) return number is"]
  let first := (DeclarationRules.extract ⟨⟨true⟩, 0⟩ (empty.addFile "a.sql" .sql) 0 lines []).1
  (DeclarationRules.extract ⟨⟨true⟩, 0⟩ (first.addFile "b.sql" .sql) 1 lines []).1

theorem run_saved_and_told_twinPackages :
    let used := (twinPackages.addUse (.routine 1 0 .function 0) "a.sql" ⟨1, 2⟩).1
    let old : Store.Tables := ⟨some "old", [], [], [], [], 7⟩
    ∃ later, (Store.Connection.ofTables old true).save used "new" false =
        (Store.Connection.ofTables later true, .ok 4) ∧
      used.Tells "new" later ∧ later.root = some "new" ∧
      later.usesOf 4 = [⟨"a.sql", 1, 2⟩] ∧
      ∃ records, later.symbolsNamed "F" = .ok records ∧
        List.Forall₂ used.ToldBy [.routine 0 0 .function 0, .routine 1 0 .function 0] records := by
  intro used old
  have hdeclared : Run empty 2 twinPackages :=
    (((Run.done.next (.addFile "a.sql" .sql)).next (.extract ⟨⟨true⟩, 0⟩ 0 _ [])).next
      (.addFile "b.sql" .sql)).next (.extract ⟨⟨true⟩, 0⟩ 1 _ [])
  have hrun := hdeclared.next (.addUse (.routine 1 0 .function 0) "a.sql" ⟨1, 2⟩)
  have hissued : (twinPackages.addUse (.routine 1 0 .function 0) "a.sql" ⟨1, 2⟩).2 = true := by
    decide +kernel
  rw [hissued] at hrun
  obtain ⟨later, hsaved, htells, hroot⟩ := run_saved_and_told hrun (by decide) old "new"
  have hsymbols : used.symbols.length = 4 := by decide +kernel
  have hfound : used.find "F" none = [.routine 0 0 .function 0, .routine 1 0 .function 0] := by
    decide +kernel
  have hplain : used.symbols.all fun entry => entry.2.name.toList.all (·.toNat ≠ 0) := by
    decide +kernel
  have hnames := htells.names "F" fun entry hentry =>
    Store.Tables.sameName_eq_equalIgnoringCase (List.all_eq_true.mp hplain entry hentry) (by decide)
  rw [hfound] at hnames
  have huses := htells.uses 3 (.routine 1 0 .function 0) ⟨.function, "f", 1, 2, none, 3,
    [("a.sql", [⟨1, 2⟩])]⟩ (by decide +kernel)
  exact ⟨later, hsymbols ▸ hsaved, htells, hroot "new" rfl, huses, hnames⟩

/-- A store that may only be read refuses a catalog, and of a root that is no text, such as
`caf\xe9`, no store tells more than how it is shown. -/
theorem save_refused_or_root_not_told :
    (Store.Connection.ofTables .empty false).save .empty "r" false =
        (Store.Connection.ofTables .empty false, .error .readOnly) ∧
      let root : RawText := ⟨[0x63, 0x61, 0x66, 0xe9]⟩
      ∃ later, (Store.Connection.ofTables .empty true).save .empty root false =
          (Store.Connection.ofTables later true, .ok 0) ∧
        later.root = some "caf\ufffd" ∧ root ≠ ↑"caf\ufffd" := by
  refine ⟨by decide +kernel, ?_⟩
  intro root
  exact ⟨Store.Tables.ofCatalog .empty root 0, by decide +kernel, by decide +kernel,
    by decide +kernel⟩

end CrossRef.Catalog
