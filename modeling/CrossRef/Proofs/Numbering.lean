import CrossRef.Proofs.Declaring
import CrossRef.Proofs.PlaceList
import CrossRef.Proofs.Recording
import Mathlib.Data.List.Perm.Basic

namespace CrossRef.Catalog

/-- The symbols that have a number, with this number. -/
def issued (catalog : Catalog) : List (Place × Identifier) :=
  (catalog.symbols.map fun entry => (entry.1, entry.2.id)).filter fun entry =>
    Identifier.isIssued entry.2

/-- All numbers of files and symbols. -/
def numbers (catalog : Catalog) : List Identifier :=
  catalog.files.map (·.id) ++ catalog.issued.map (·.2)

/-- A catalog in which `count` numbers were issued: one to each file and each used symbol. -/
structure Numbered (catalog : Catalog) (count : Nat) : Prop where
  last : catalog.last.toNat = count
  used_iff : ∀ place decl, catalog.get? place = some decl → (decl.id ≠ 0 ↔ decl.uses ≠ [])
  nodup : catalog.numbers.Nodup
  mem_iff : ∀ id, id ∈ catalog.numbers ↔ id ≠ 0 ∧ id ≤ catalog.last
  increasing : (catalog.files.map (·.id)).Pairwise (· < ·)

theorem nodup_issued (catalog : Catalog) : catalog.issued.Nodup := by
  apply List.Nodup.filter
  apply List.Nodup.of_map Prod.fst
  simpa [List.map_map, Function.comp_def] using catalog.nodup_places

theorem mem_issued {catalog : Catalog} {place : Place} {id : Identifier} :
    (place, id) ∈ catalog.issued ↔
      ∃ decl, catalog.get? place = some decl ∧ decl.id = id ∧ id ≠ 0 := by
  simp only [issued, List.mem_filter, List.mem_map, Prod.mk.injEq, Prod.exists, mem_symbols_iff,
    Identifier.isIssued, Identifier.none, bne_iff_ne]
  constructor
  · rintro ⟨⟨_, decl, hd, rfl, rfl⟩, hne⟩
    exact ⟨decl, hd, rfl, hne⟩
  · rintro ⟨decl, hd, rfl, hne⟩
    exact ⟨⟨place, decl, hd, rfl, rfl⟩, hne⟩

theorem issued_perm {a b : Catalog} (h : ∀ place id, id ≠ 0 →
    ((∃ decl, b.get? place = some decl ∧ decl.id = id) ↔
      ∃ decl, a.get? place = some decl ∧ decl.id = id)) : b.issued.Perm a.issued := by
  apply (List.perm_ext_iff_of_nodup b.nodup_issued a.nodup_issued).mpr
  rintro ⟨place, id⟩
  rw [mem_issued, mem_issued]
  constructor
  · rintro ⟨decl, hd, he, hne⟩
    obtain ⟨same, hs, hid⟩ := (h place id hne).mp ⟨decl, hd, he⟩
    exact ⟨same, hs, hid, hne⟩
  · rintro ⟨decl, hd, he, hne⟩
    obtain ⟨same, hs, hid⟩ := (h place id hne).mpr ⟨decl, hd, he⟩
    exact ⟨same, hs, hid, hne⟩

theorem Numbered.of_perm {a b : Catalog} {n : Nat} (h : a.Numbered n) (hlast : b.last = a.last)
    (hfiles : b.files.map (·.id) = a.files.map (·.id)) (hissued : b.issued.Perm a.issued)
    (hused : ∀ place decl, b.get? place = some decl → (decl.id ≠ 0 ↔ decl.uses ≠ [])) :
    b.Numbered n := by
  have hperm : b.numbers.Perm a.numbers := by
    rw [numbers, numbers, hfiles]
    exact (hissued.map _).append_left _
  refine ⟨by rw [hlast]; exact h.last, hused, hperm.nodup_iff.mpr h.nodup, ?_,
    by rw [hfiles]; exact h.increasing⟩
  intro id
  rw [hperm.mem_iff, hlast]
  exact h.mem_iff id

theorem next_toNat {last : Identifier} (h : last.toNat + 1 < UInt64.size) :
    (Identifier.next last).toNat = last.toNat + 1 := by
  rw [Identifier.next, UInt64.toNat_add]
  exact Nat.mod_eq_of_lt h

theorem Numbered.of_next {a b : Catalog} {n : Nat} (h : a.Numbered n) (hn : n + 1 < UInt64.size)
    (hlast : b.last = Identifier.next a.last) (hperm : b.numbers.Perm (b.last :: a.numbers))
    (hused : ∀ place decl, b.get? place = some decl → (decl.id ≠ 0 ↔ decl.uses ≠ []))
    (hincreasing : (b.files.map (·.id)).Pairwise (· < ·)) : b.Numbered (n + 1) := by
  have hcount := h.last
  have hnat : b.last.toNat = n + 1 := by
    rw [hlast, next_toNat (by omega), hcount]
  have hnew : b.last ∉ a.numbers := by
    intro hm
    have hle := UInt64.le_iff_toNat_le.mp ((h.mem_iff b.last).mp hm).2
    omega
  refine ⟨hnat, hused, hperm.nodup_iff.mpr (List.nodup_cons.mpr ⟨hnew, h.nodup⟩), ?_, hincreasing⟩
  intro id
  rw [hperm.mem_iff, List.mem_cons, h.mem_iff]
  constructor
  · rintro (rfl | ⟨hne, hle⟩)
    · refine ⟨?_, UInt64.le_refl _⟩
      intro hzero
      rw [hzero] at hnat
      simp at hnat
    · refine ⟨hne, UInt64.le_iff_toNat_le.mpr ?_⟩
      have := UInt64.le_iff_toNat_le.mp hle
      omega
  · rintro ⟨hne, hle⟩
    have hle := UInt64.le_iff_toNat_le.mp hle
    by_cases heq : id.toNat = n + 1
    · exact Or.inl (UInt64.toNat_inj.mp (heq.trans hnat.symm))
    · exact Or.inr ⟨hne, UInt64.le_iff_toNat_le.mpr (by omega)⟩

theorem Numbered.addFile {catalog : Catalog} {n : Nat} (h : catalog.Numbered n)
    (hn : n + 1 < UInt64.size) (path : RawText) (kind : Family) :
    (catalog.addFile path kind).Numbered (n + 1) := by
  have hissued : (catalog.addFile path kind).issued.Perm catalog.issued :=
    issued_perm fun place id _ => by rw [get?_addFile]
  have hids : (catalog.addFile path kind).files.map (·.id) =
      catalog.files.map (·.id) ++ [Identifier.next catalog.last] := by
    simp [Catalog.addFile]
  have hcount := h.last
  have hnext : (Identifier.next catalog.last).toNat = catalog.last.toNat + 1 :=
    next_toNat (by omega)
  refine h.of_next hn rfl ?_ ?_ ?_
  · rw [numbers, hids, List.append_assoc, List.singleton_append]
    exact List.perm_middle.trans (((hissued.map _).append_left _).cons _)
  · intro place decl hd
    rw [get?_addFile] at hd
    exact h.used_iff place decl hd
  · rw [hids, List.pairwise_append]
    refine ⟨h.increasing, by simp, ?_⟩
    intro id hid new hnew
    have hle := ((h.mem_iff id).mp (List.mem_append_left _ hid)).2
    have hle := UInt64.le_iff_toNat_le.mp hle
    rw [List.mem_singleton.mp hnew]
    exact UInt64.lt_iff_toNat_lt.mpr (by omega)

theorem Numbered.extract {catalog : Catalog} {n : Nat} (h : catalog.Numbered n)
    (rules : DeclarationRules) (index : Nat) (lines : List String) (docs : List DocBlock) :
    (rules.extract catalog index lines docs).1.Numbered n := by
  have hgrows := rules.grows_extract catalog index lines docs
  have hfresh {place : Place} {decl : Declaration}
      (hd : (rules.extract catalog index lines docs).1.get? place = some decl) :
      catalog.get? place = some decl ∨ (decl.id = 0 ∧ decl.uses = []) := by
    rcases hgrows.adds hd with hold | ⟨_, _, _, _, _, _, _, _, _, rfl⟩
    · exact Or.inl hold
    · exact Or.inr ⟨rfl, rfl⟩
  have hids := ids_of_labels hgrows.labels
  refine h.of_perm hgrows.last hids (issued_perm ?_) ?_
  · intro place id hne
    constructor
    · rintro ⟨decl, hd, rfl⟩
      rcases hfresh hd with hold | ⟨hzero, _⟩
      · exact ⟨decl, hold, rfl⟩
      · exact absurd hzero hne
    · rintro ⟨decl, hd, he⟩
      exact ⟨decl, hgrows.keeps hd, he⟩
  · intro place decl hd
    rcases hfresh hd with hold | ⟨hzero, hnone⟩
    · exact h.used_iff place decl hold
    · simp [hzero, hnone]

/-- The first use of a symbol adds the symbol with the next number to those that have one. -/
theorem issued_addUse {catalog : Catalog} {target : Place} {used : Declaration}
    (hused : catalog.get? target = some used) (hzero : used.id = 0) (path : String) (site : UseSite)
    (hne : Identifier.next catalog.last ≠ 0) :
    (catalog.addUse target path site).1.issued.Perm
      ((target, Identifier.next catalog.last) :: catalog.issued) := by
  have hnew := catalog.numberOnUse_of_zero hzero
  have hfresh : (target, Identifier.next catalog.last) ∉ catalog.issued := by
    rw [mem_issued]
    rintro ⟨decl, hd, hid, _⟩
    cases Option.some.inj (hused.symm.trans hd)
    exact hne (hid.symm.trans hzero)
  apply (List.perm_ext_iff_of_nodup (nodup_issued _)
    (List.nodup_cons.mpr ⟨hfresh, catalog.nodup_issued⟩)).mpr
  rintro ⟨place, id⟩
  rw [List.mem_cons, mem_issued, mem_issued, get?_addUse, Prod.mk.injEq]
  by_cases hp : place = target
  · subst hp
    simp only [↓reduceIte, hused, Option.map_some, Option.some.injEq, exists_eq_left', hnew,
      true_and]
    constructor
    · rintro ⟨rfl, _⟩
      exact Or.inl rfl
    · rintro (rfl | ⟨hid, hid'⟩)
      · exact ⟨rfl, hne⟩
      · exact absurd (hid.symm.trans hzero) hid'
  · simp [hp]

theorem Numbered.addUse {catalog : Catalog} {n : Nat} (h : catalog.Numbered n) (target : Place)
    (path : String) (site : UseSite)
    (hn : n + (catalog.addUse target path site).2.toNat < UInt64.size) :
    (catalog.addUse target path site).1.Numbered
      (n + (catalog.addUse target path site).2.toNat) := by
  have hget (place : Place) := catalog.get?_addUse target place path site
  have hids := ids_of_labels (labels_eq_of_outline (catalog.outline_addUse target path site))
  rcases catalog.addUse_cases target path site with ⟨_, hsame⟩ | ⟨used, hused, hcase⟩
  · rw [hsame]
    exact h
  have hnumber : catalog.numberOnUse used ≠ 0 → ∀ place decl,
      (catalog.addUse target path site).1.get? place = some decl →
        (decl.id ≠ 0 ↔ decl.uses ≠ []) := by
    intro hne place decl hd
    rw [hget] at hd
    split at hd
    next hp =>
      rw [hp, hused, Option.map_some] at hd
      cases Option.some.inj hd
      simp [hne, Uses.record_ne_nil]
    next => exact h.used_iff place decl hd
  -- Only a first use issues a number; a later one leaves all numbers where they are.
  rcases hcase with ⟨hne, hissued, hlast⟩ | ⟨hzero, hissued, hlast⟩
  · have hkept := catalog.numberOnUse_of_issued hne
    rw [hissued]
    refine h.of_perm hlast hids (issued_perm ?_) (hnumber (hkept ▸ hne))
    intro place id _
    rw [hget]
    by_cases hp : place = target
    · simp [hp, hused, hkept]
    · simp [hp]
  · have hnew := catalog.numberOnUse_of_zero hzero
    have hcount := h.last
    rw [hissued] at hn ⊢
    have hnext : (Identifier.next catalog.last).toNat = catalog.last.toNat + 1 :=
      next_toNat (by simpa [hcount] using hn)
    have hne : Identifier.next catalog.last ≠ 0 := by
      intro heq
      simp [heq] at hnext
    refine h.of_next hn hlast ?_ (hnumber (hnew ▸ hne)) (by rw [hids]; exact h.increasing)
    rw [numbers, numbers, hids, hlast]
    refine List.Perm.trans ?_ List.perm_middle
    exact ((issued_addUse hused hzero path site hne).map _).append_left _

/-- How many numbers are issued while uses are recorded. -/
def issuedBy (catalog : Catalog) : List UseRecord → Nat
  | [] => 0
  | use :: rest =>
    let recorded := catalog.addUse use.target use.path use.site
    recorded.2.toNat + recorded.1.issuedBy rest

theorem Numbered.recordEach {catalog : Catalog} {n : Nat} (h : catalog.Numbered n)
    (uses : List UseRecord) (hn : n + catalog.issuedBy uses < UInt64.size) :
    (catalog.recordEach uses).Numbered (n + catalog.issuedBy uses) := by
  induction uses generalizing catalog n with
  | nil => exact h
  | cons use rest ih =>
    simp only [issuedBy] at hn ⊢
    have hfirst := h.addUse use.target use.path use.site (by omega)
    rw [← Nat.add_assoc] at hn ⊢
    exact ih hfirst hn

end CrossRef.Catalog
