import CrossRef.Proofs.SavedRows
import CrossRef.Store.Query
import Mathlib.Data.List.TakeWhile
import Mathlib.Data.String.Basic

namespace CrossRef

theorem Kind.parse?_name (kind : Kind) : parse? kind.name = some kind := by
  cases kind <;> decide +kernel

/-- Only letters of one byte are folded, to letters of one byte. -/
theorem utf8Size_toLower (c : Char) : c.toLower.utf8Size = c.utf8Size := by
  unfold Char.toLower
  split
  · next hc =>
    obtain ⟨hlow, hhigh⟩ : 65 ≤ c.val.toNat ∧ c.val.toNat ≤ 90 := by
      simpa [UInt32.le_iff_toNat_le] using hc
    have hupper : c.utf8Size = 1 := Char.utf8Size_eq_one_iff.mpr (by
      rw [UInt32.le_iff_toNat_le]
      exact hhigh.trans (by decide))
    rw [hupper, Char.utf8Size_eq_one_iff, UInt32.le_iff_toNat_le, UInt32.toNat_add]
    have hshift : ('a'.val - 'A'.val).toNat = 32 := by decide
    have hbound : (127 : UInt32).toNat = 127 := rfl
    omega
  · rfl

theorem utf8Len_map_toLower (cs : List Char) :
    String.utf8Len (cs.map Char.toLower) = String.utf8Len cs := by
  induction cs with
  | nil => rfl
  | cons c rest ih => simp [utf8Size_toLower, ih]

theorem utf8ByteSize_eq_of_equalIgnoringCase {a b : String}
    (h : Text.equalIgnoringCase a b = true) : a.utf8ByteSize = b.utf8ByteSize := by
  have hfold : a.toList.map Char.toLower = b.toList.map Char.toLower := by
    simpa [Text.equalIgnoringCase] using h
  rw [← a.ofList_toList, ← b.ofList_toList, String.utf8ByteSize_ofList, String.utf8ByteSize_ofList,
    ← utf8Len_map_toLower, hfold, utf8Len_map_toLower]

/-- Items that are made of numbered entries and bear their numbers, looked up by number. -/
theorem filter_flatMap_zipIdx {α β : Type} {xs : List α} (n : Nat) (items : α × Nat → List β)
    (tag : β → Nat) (tagged : ∀ entry, ∀ y ∈ items entry, tag y = entry.2) {i : Nat} {x : α}
    (hx : xs[i]? = some x) :
    ((xs.zipIdx n).flatMap items).filter (tag · = i + n) = items (x, i + n) := by
  induction xs generalizing n i with
  | nil => simp at hx
  | cons head rest ih =>
    rw [List.zipIdx_cons, List.flatMap_cons, List.filter_append]
    cases i with
    | zero =>
      have hhead : x = head := (Option.some.inj hx).symm
      have hall : (items (head, n)).filter (tag · = 0 + n) = items (head, n) := by
        apply List.filter_eq_self.mpr
        intro y hy
        simpa using tagged (head, n) y hy
      have hnone : ((rest.zipIdx (n + 1)).flatMap items).filter (tag · = 0 + n) = [] := by
        apply List.filter_eq_nil_iff.mpr
        intro y hy heq
        obtain ⟨entry, hentry, hy⟩ := List.mem_flatMap.mp hy
        have htag := tagged entry y hy
        have hle := List.le_snd_of_mem_zipIdx hentry
        have heq := of_decide_eq_true heq
        omega
      rw [hall, hnone, List.append_nil, Nat.zero_add, hhead]
    | succ i =>
      have hnone : (items (head, n)).filter (tag · = i + 1 + n) = [] := by
        apply List.filter_eq_nil_iff.mpr
        intro y hy heq
        have htag := tagged (head, n) y hy
        have heq := of_decide_eq_true heq
        omega
      have hrest := ih (n + 1) (by simpa using hx)
      rw [← Nat.add_assoc, Nat.add_right_comm] at hrest
      rw [hnone, List.nil_append, hrest]

theorem map_filter_zipIdx {α β : Type} (xs : List α) (n : Nat) (p : α → Bool) (f : α → β) :
    ((xs.zipIdx n).filter fun entry => p entry.1).map (fun entry => f entry.1) =
      (xs.filter p).map f := by
  have hfst := List.zipIdx_map_fst n xs
  conv_rhs => rw [← hfst, List.filter_map, List.map_map]
  rfl

theorem mapM_flatMap_eq_ok {α β γ ε : Type} {xs : List α} {items : α → List β}
    {f : β → Except ε γ} {result : α → γ} (h : ∀ x ∈ xs, (items x).mapM f = .ok [result x]) :
    (xs.flatMap items).mapM f = .ok (xs.map result) := by
  induction xs with
  | nil => rfl
  | cons x rest ih =>
    rw [List.flatMap_cons, List.mapM_append, h x (by simp), ih fun y hy => h y (by simp [hy])]
    rfl

theorem Catalog.seqOf?_eq_some {catalog : Catalog} {place : Place} {decl : Declaration}
    (h : catalog.get? place = some decl) :
    ∃ i, catalog.symbols[i]? = some (place, decl) ∧ catalog.seqOf? place = some (i + 1) := by
  obtain ⟨⟨⟨place', decl'⟩, n⟩, hentry⟩ := exists_find?_place (mem_symbols_iff.mpr h)
  have hplace : place' = place := by simpa using List.find?_some hentry
  subst hplace
  obtain ⟨hle, hget⟩ := List.mk_mem_zipIdx_iff_le_and_getElem?_sub.mp
    (List.mem_of_find?_eq_some hentry)
  have hdecl := (mem_symbols_iff.mp (List.mem_of_getElem? hget)).symm.trans h
  cases Option.some.inj hdecl
  refine ⟨n - 1, hget, ?_⟩
  rw [seqOf?, hentry, Option.map_some]
  exact congrArg some (by omega)

namespace Store.Tables

section

variable {catalog : Catalog} {root : RawText} {last : Nat} {i : Nat} {place : Place}
  {decl : Declaration}

theorem find?_symbols (hi : catalog.symbols[i]? = some (place, decl)) :
    (ofCatalog catalog root last).symbols.find? (·.seq = i + 1) =
      some (symbolRow catalog (i + 1) decl (catalog.packageSeq? place)) := by
  have hfilter := filter_flatMap_zipIdx 1
    (fun entry => [symbolRow catalog entry.2 entry.1.2 (catalog.packageSeq? entry.1.1)])
    SymbolRow.seq (fun entry y hy => by rw [List.mem_singleton.mp hy]; rfl) hi
  rw [← List.map_eq_flatMap] at hfilter
  exact List.head?_filter.symm.trans (congrArg List.head? hfilter)

theorem find?_docs (hi : catalog.symbols[i]? = some (place, decl)) :
    (ofCatalog catalog root last).docs.find? (·.symbolSeq = i + 1) =
      decl.doc.map (docRow (i + 1)) := by
  have hfilter := filter_flatMap_zipIdx 1
    (fun entry => (entry.1.2.doc.map (docRow entry.2)).toList) DocRow.symbolSeq
    (fun entry y hy => by
      obtain ⟨doc, _, rfl⟩ := Option.map_eq_some_iff.mp (Option.mem_toList.mp hy)
      rfl) hi
  have hhead := List.head?_filter.symm.trans (congrArg List.head? hfilter)
  rw [Option.head?_toList] at hhead
  exact hhead

theorem usesOf_ofCatalog (hi : catalog.symbols[i]? = some (place, decl)) :
    (ofCatalog catalog root last).usesOf (i + 1) =
      decl.uses.flat.map fun use => ⟨use.1, use.2.fileId, use.2.line⟩ := by
  have hfilter := filter_flatMap_zipIdx 1 numberedUses Prod.fst
    (fun entry y hy => by
      obtain ⟨use, _, rfl⟩ := List.mem_map.mp hy
      rfl) hi
  have hsites := map_filter_zipIdx ((catalog.symbols.zipIdx 1).flatMap numberedUses) (last + 1)
    (·.1 = i + 1) fun use => (⟨use.2.1, use.2.2.fileId, use.2.2.line⟩ : UseRecord)
  rw [hfilter, numberedUses, List.map_map] at hsites
  have hrows : (ofCatalog catalog root last).usesOf (i + 1) =
      (((catalog.symbols.zipIdx 1).flatMap numberedUses).zipIdx (last + 1)
        |>.filter fun entry => entry.1.1 = i + 1).map
          fun entry => ⟨entry.1.2.1, entry.1.2.2.fileId, entry.1.2.2.line⟩ := by
    simp only [usesOf, ofCatalog, withSymbols, ofFiles, empty, siteRows, List.nil_append,
      List.filter_map, List.map_map, Function.comp_def, UInt64.toUInt64_toInt64]
    congr 2
    funext entry
    exact decide_eq_decide.mpr (by omega)
  exact hrows.trans hsites

theorem filter_files (h : Storable catalog) {file : IndexedFile}
    (hf : catalog.files[decl.file]? = some file) :
    (ofCatalog catalog root last).files.filter (·.id = fileIdOf catalog decl) =
      [fileRow file decl.file] := by
  have hnodup : ((ofCatalog catalog root last).files.map (·.id)).Nodup := nodup_fileRows h.ids
  have hmem : fileRow file decl.file ∈ (ofCatalog catalog root last).files :=
    List.mem_map.mpr ⟨(file, decl.file), List.mem_zipIdx_iff_getElem?.mpr hf, rfl⟩
  have hid : fileIdOf catalog decl = (fileRow file decl.file).id := by
    simp [fileIdOf, hf, fileRow]
  rw [hid]
  exact filter_key_eq_singleton hnodup hmem

end

/-- What the store tells of the symbol with a number. -/
def recordOf (catalog : Catalog) (entry : (Place × Declaration) × Nat) : SymbolRecord :=
  { seq := entry.2
    id := entry.1.2.id
    kind := entry.1.2.kind
    name := entry.1.2.name
    path := ((catalog.files[entry.1.2.file]?).map IndexedFile.key).getD ""
    line := entry.1.2.line
    package := (catalog.ownerOf? entry.1.1).map (·.decl.name)
    description := entry.1.2.doc.map (·.description) }

section

variable {catalog : Catalog} {root : RawText} {last : Nat} {i : Nat} {place : Place}
  {decl : Declaration}

/-- The package that the store finds for a symbol is its own. -/
theorem packageName_ofCatalog (hi : catalog.symbols[i]? = some (place, decl)) :
    ((catalog.packageSeq? place).bind fun seq =>
      ((ofCatalog catalog root last).symbols.find? (·.seq = seq)).map (·.name)) =
        (catalog.ownerOf? place).map (·.decl.name) := by
  cases place with
  | view f j => rfl
  | package f p => rfl
  | routine f p kind j =>
    obtain ⟨package, howner, hpackage, _⟩ :=
      Catalog.exists_owner (Catalog.mem_symbols_iff.mp (List.mem_of_getElem? hi))
    obtain ⟨n, hn, hseq⟩ := Catalog.seqOf?_eq_some hpackage
    simp only [Catalog.packageSeq?, hseq, Option.bind_some, find?_symbols hn, Option.map_some,
      howner]
    rfl

theorem record_ofCatalog (hi : catalog.symbols[i]? = some (place, decl)) {file : IndexedFile}
    (hf : catalog.files[decl.file]? = some file) :
    (ofCatalog catalog root last).record
        (symbolRow catalog (i + 1) decl (catalog.packageSeq? place)) (fileRow file decl.file) =
      .ok (recordOf catalog ((place, decl), i + 1)) := by
  let row := symbolRow catalog (i + 1) decl (catalog.packageSeq? place)
  have hkind : Kind.parse? row.kind = some decl.kind := Kind.parse?_name decl.kind
  have hpackage : (row.packageSeq.bind fun seq =>
      ((ofCatalog catalog root last).symbols.find? (·.seq = seq)).map (·.name)) =
        (catalog.ownerOf? place).map (·.decl.name) := packageName_ofCatalog hi
  have hdoc : ((ofCatalog catalog root last).docs.find? (·.symbolSeq = row.seq)).map
      (·.description) = decl.doc.map (·.description) :=
    (congrArg _ (find?_docs hi)).trans (Option.map_map ..)
  have hid : row.id.toUInt64 = decl.id := decl.id.toUInt64_toInt64
  simp only [record, row, hkind, hpackage, hdoc, hid, recordOf, hf]
  rfl

/-- A query gives one record for each symbol that meets its condition, in the order of the
symbols. -/
theorem select_ofCatalog (h : Storable catalog) (wanted : SymbolRow → Bool) :
    (ofCatalog catalog root last).select wanted =
      .ok (((catalog.symbols.zipIdx 1).filter fun entry =>
        wanted (symbolRow catalog entry.2 entry.1.2 (catalog.packageSeq? entry.1.1))).map
          (recordOf catalog)) := by
  let row (entry : (Place × Declaration) × Nat) :=
    symbolRow catalog entry.2 entry.1.2 (catalog.packageSeq? entry.1.1)
  have hrows : (ofCatalog catalog root last).symbols = (catalog.symbols.zipIdx 1).map row := rfl
  rw [select, hrows, List.filter_map, List.flatMap_map]
  apply mapM_flatMap_eq_ok
  rintro ⟨⟨place, decl⟩, n⟩ hentry
  obtain ⟨hle, hget⟩ := List.mk_mem_zipIdx_iff_le_and_getElem?_sub.mp (List.mem_filter.mp hentry).1
  have hn : n - 1 + 1 = n := by omega
  have hlt := h.files place decl (List.mem_of_getElem? hget)
  have hf : catalog.files[decl.file]? = some catalog.files[decl.file] := by simp [hlt]
  have hfiles : (ofCatalog catalog root last).files.filter
      (·.id = (row ((place, decl), n)).fileId) = [fileRow catalog.files[decl.file] decl.file] :=
    filter_files h hf
  have hrecord : (ofCatalog catalog root last).record _ (fileRow catalog.files[decl.file] _) =
      .ok _ := record_ofCatalog hget hf
  rw [hn] at hrecord
  simp only [hfiles, List.map_singleton, List.mapM_cons, row, hrecord]
  rfl

end

/-- Names without NUL are compared as they are elsewhere. -/
theorem sameName_eq_equalIgnoringCase {a b : String} (ha : a.toList.all (·.toNat ≠ 0))
    (hb : b.toList.all (·.toNat ≠ 0)) : sameName a b = Text.equalIgnoringCase a b := by
  have whole {s : String} (hs : s.toList.all (·.toNat ≠ 0)) : beforeNul s = s := by
    rw [beforeNul, List.takeWhile_eq_self_iff.mpr (List.all_eq_true.mp hs), String.ofList_toList]
  rw [sameName, whole ha, whole hb]
  cases heq : Text.equalIgnoringCase a b with
  | false => rw [Bool.and_false]
  | true => simpa using utf8ByteSize_eq_of_equalIgnoringCase heq

end Store.Tables

end CrossRef
