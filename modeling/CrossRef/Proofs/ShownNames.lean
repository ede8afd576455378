import CrossRef.Proofs.SavedRun

namespace CrossRef

theorem Text.cutAt_first {mark : Char} {before : List Char} (h : mark ∉ before)
    (after : List Char) : cutAt [mark] (before ++ mark :: after) = some (before, after) := by
  induction before with
  | nil => simp [cutAt, List.isPrefixOf?]
  | cons c rest ih =>
    have hc : mark ≠ c := fun heq => h (heq ▸ List.mem_cons_self)
    have hrest := ih fun hmem => h (List.mem_cons_of_mem c hmem)
    simp [cutAt, List.isPrefixOf?, hc, hrest]

namespace Store.Tables

theorem sameName_refl (name : String) : sameName name name = true := by
  simp [sameName, Text.equalIgnoringCase]

/-- A name with something in front is another name. -/
theorem sameName_behind_dot (front name : String) :
    sameName name (front ++ "." ++ name) = false := by
  have hdot : (".").utf8ByteSize = 1 := by decide
  have hlonger : name.utf8ByteSize ≠ (front ++ "." ++ name).utf8ByteSize := by
    rw [String.utf8ByteSize_append, String.utf8ByteSize_append, hdot]
    omega
  rw [sameName, decide_eq_false hlonger, Bool.false_and]

section

variable {tables : Tables} {records : List SymbolRecord}
  (hnamed : ∀ name, tables.symbolsNamed name = .ok (records.filter (sameName ·.name name)))

include hnamed

theorem lookup_of_named {name : String} {record : SymbolRecord} (hrecord : record ∈ records)
    (hname : sameName record.name name = true) :
    tables.lookup name none = .ok (records.filter (sameName ·.name name)) := by
  have hmem : record ∈ records.filter (sameName ·.name name) :=
    List.mem_filter.mpr ⟨hrecord, hname⟩
  have hfound : (records.filter (sameName ·.name name)).isEmpty = false :=
    List.isEmpty_eq_false_iff.mpr (List.ne_nil_of_mem hmem)
  have hall : (records.filter (sameName ·.name name)).filter (fun _ => true) =
      records.filter (sameName ·.name name) := List.filter_true _
  simp only [lookup, hnamed, bind, Except.bind, Option.all_none, hall, hfound]
  rfl

theorem lookup_of_unnamed {name : String}
    (hname : ∀ record ∈ records, sameName record.name name = false) {package routine : List Char}
    (hcut : Text.cutAt ['.'] name.toList = some (package, routine)) :
    tables.lookup name none =
      .ok ((records.filter (sameName ·.name (String.ofList routine))).filter fun record =>
        record.package.any (Text.equalIgnoringCase · (String.ofList package))) := by
  have hnone : records.filter (sameName ·.name name) = [] :=
    List.filter_eq_nil_iff.mpr fun record hrecord => by simp [hname record hrecord]
  simp only [lookup, hnamed, bind, Except.bind, Option.all_none, hnone, hcut, Bool.true_and]
  rfl

/-- A symbol is found by the name shown for it, unless other symbols have this name, or a dot stands
in the name of its package: what is given is parted at the first dot. -/
theorem mem_lookup_qualifiedName {record : SymbolRecord} (hrecord : record ∈ records)
    (hname : (∀ other ∈ records, sameName other.name record.qualifiedName = false) ∨
      sameName record.name record.qualifiedName = true) :
    ∃ found, tables.lookup record.qualifiedName none = .ok found ∧
      (record ∈ found ↔ ∀ package, record.package = some package → '.' ∉ package.toList) := by
  cases hpackage : record.package with
  | none =>
    have hown : record.qualifiedName = record.name := by
      rw [SymbolRecord.qualifiedName, hpackage]
    have hsame := sameName_refl record.name
    refine ⟨_, lookup_of_named hnamed hrecord (hown ▸ hsame), ?_⟩
    simp [hrecord, hown, hsame]
  | some package =>
    have hshown : record.qualifiedName = package ++ "." ++ record.name := by
      rw [SymbolRecord.qualifiedName, hpackage]
    have hother := sameName_behind_dot package record.name
    have hunnamed : ∀ other ∈ records, sameName other.name record.qualifiedName = false := by
      rcases hname with hname | hname
      · exact hname
      · rw [hshown, hother] at hname
        simp at hname
    have hchars : record.qualifiedName.toList = package.toList ++ '.' :: record.name.toList := by
      simp [hshown]
    by_cases hdot : '.' ∈ package.toList
    · obtain ⟨first, rest, hparts, hfirst⟩ := List.eq_append_cons_of_mem hdot
      have hcut : Text.cutAt ['.'] record.qualifiedName.toList =
          some (first, rest ++ '.' :: record.name.toList) := by
        rw [hchars, hparts, List.append_assoc, List.cons_append]
        exact Text.cutAt_first hfirst _
      have hroutine : String.ofList (rest ++ '.' :: record.name.toList) =
          String.ofList rest ++ "." ++ record.name := by
        apply String.toList_injective
        simp
      refine ⟨_, lookup_of_unnamed hnamed hunnamed hcut, ?_⟩
      rw [hroutine]
      simp [sameName_behind_dot, hdot]
    · have hcut : Text.cutAt ['.'] record.qualifiedName.toList =
          some (package.toList, record.name.toList) := by
        rw [hchars]
        exact Text.cutAt_first hdot _
      refine ⟨_, lookup_of_unnamed hnamed hunnamed hcut, ?_⟩
      simp [hrecord, sameName_refl, hpackage, hdot, Text.equalIgnoringCase]

end

/-- What a store that holds a catalog tells of all its symbols. -/
def recordsOf (catalog : Catalog) : List SymbolRecord :=
  (catalog.symbols.zipIdx 1).map (recordOf catalog)

section

variable {catalog : Catalog} (h : Storable catalog) (root : RawText) (last : Nat)

include h

theorem select_all_ofCatalog :
    (ofCatalog catalog root last).select (fun _ => true) = .ok (recordsOf catalog) := by
  rw [select_ofCatalog h, List.filter_true]
  rfl

theorem symbolsNamed_ofCatalog (name : String) :
    (ofCatalog catalog root last).symbolsNamed name =
      .ok ((recordsOf catalog).filter (sameName ·.name name)) := by
  rw [symbolsNamed, select_ofCatalog h, recordsOf, List.filter_map]
  rfl

end

end Store.Tables

namespace Catalog

open Store.Tables in
/-- In a store that holds a catalog, a symbol is found by the name shown for it if no other symbol
has this name and no dot stands in the name of its package. With such a dot it is never found. -/
theorem run_shown_name_found_iff {n : Nat} {catalog : Catalog} (h : Run .empty n catalog)
    (hn : n < UInt64.size) (tables : Store.Tables) (root : RawText) :
    ∃ later, (Store.Connection.ofTables tables true).save catalog root false =
        (Store.Connection.ofTables later true, .ok catalog.symbols.length) ∧
      later.select (fun _ => true) = .ok (recordsOf catalog) ∧
      ∀ record ∈ recordsOf catalog,
        ((∀ other ∈ recordsOf catalog, sameName other.name record.qualifiedName = false) ∨
          sameName record.name record.qualifiedName = true) →
        ∃ found, later.lookup record.qualifiedName none = .ok found ∧
          (record ∈ found ↔ ∀ package, record.package = some package → '.' ∉ package.toList) := by
  have hstorable := h.storable hn
  have hnamed := symbolsNamed_ofCatalog hstorable root tables.lastUsage
  refine ⟨_, Store.Connection.save_storable hstorable tables root,
    select_all_ofCatalog hstorable root tables.lastUsage, ?_⟩
  intro record hrecord hname
  exact mem_lookup_qualifiedName hnamed hrecord hname

/-- Two packages, one of them with the name of a schema in front, each with a routine. -/
def schemaPackages : Catalog :=
  let lines := ["create package body billing as", "function total(a number) return number is",
    "create package body scott.billing as", "function tax(a number) return number is"]
  let declared := (DeclarationRules.extract ⟨⟨true⟩, 0⟩ (empty.addFile "a.sql" .sql) 0 lines []).1
  (declared.resolveIn [0] ⟨true⟩ fun _ => some lines).1

open Store.Tables in
theorem run_shown_name_found_iff_schemaPackages :
    let total : Store.SymbolRecord := ⟨2, 0, .function, "total", "a.sql", 2, some "billing", none⟩
    let tax : Store.SymbolRecord := ⟨4, 0, .function, "tax", "a.sql", 4, some "scott.billing", none⟩
    ∃ later, (Store.Connection.ofTables .empty true).save schemaPackages "." false =
        (Store.Connection.ofTables later true, .ok 4) ∧
      total ∈ recordsOf schemaPackages ∧ tax ∈ recordsOf schemaPackages ∧
      (∃ found, later.lookup "billing.total" none = .ok found ∧ total ∈ found) ∧
      ∃ found, later.lookup "scott.billing.tax" none = .ok found ∧ tax ∉ found := by
  intro total tax
  have hrun : Run empty _ schemaPackages :=
    ((Run.done.next (.addFile "a.sql" .sql)).next (.extract ⟨⟨true⟩, 0⟩ 0 _ [])).next
      (.resolve [0] ⟨true⟩ _)
  obtain ⟨later, hsaved, _, hfound⟩ := run_shown_name_found_iff hrun (by decide +kernel) .empty "."
  have hrecords : recordsOf schemaPackages =
      [⟨1, 0, .package, "billing", "a.sql", 1, none, none⟩, total,
        ⟨3, 0, .package, "scott.billing", "a.sql", 3, none, none⟩, tax] := by
    decide +kernel
  have hcount : schemaPackages.symbols.length = 4 := by
    simpa [recordsOf] using congrArg List.length hrecords
  have htotal : total ∈ recordsOf schemaPackages := by simp [hrecords]
  have htax : tax ∈ recordsOf schemaPackages := by simp [hrecords]
  have hunnamed : ∀ record ∈ [total, tax], ∀ other ∈ recordsOf schemaPackages,
      sameName other.name record.qualifiedName = false := by
    rw [hrecords]
    decide +kernel
  obtain ⟨found, hlookup, hmem⟩ := hfound total htotal (Or.inl (hunnamed total (by simp)))
  obtain ⟨missed, hlookup', hmem'⟩ := hfound tax htax (Or.inl (hunnamed tax (by simp)))
  refine ⟨later, hcount ▸ hsaved, htotal, htax, ⟨found, hlookup, hmem.mpr ?_⟩,
    missed, hlookup', fun htax => hmem'.mp htax "scott.billing" rfl (by decide)⟩
  intro package hpackage
  cases Option.some.inj hpackage
  decide

end Catalog

end CrossRef
