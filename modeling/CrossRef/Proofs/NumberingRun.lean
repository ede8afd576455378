import CrossRef.Proofs.Merging
import CrossRef.Proofs.Numbering

namespace CrossRef.Catalog

/-- One operation on a catalog, with how many numbers it issues. -/
inductive Step : Catalog → Nat → Catalog → Prop
  | addFile {catalog} (path : RawText) (kind : Family) : Step catalog 1 (catalog.addFile path kind)
  | extract {catalog} (rules : DeclarationRules) (index : Nat) (lines : List String)
      (docs : List DocBlock) : Step catalog 0 (rules.extract catalog index lines docs).1
  | addUse {catalog} (target : Place) (path : String) (site : UseSite) :
      Step catalog (catalog.addUse target path site).2.toNat (catalog.addUse target path site).1
  | resolve {catalog} (order : List Nat) (headers : HeaderRules) (source : Contents) :
      Step catalog (catalog.issuedBy (catalog.recordsIn order headers source))
        (catalog.resolveIn order headers source).1

/-- Operations one after the other, with how many numbers they issue in all. -/
inductive Run : Catalog → Nat → Catalog → Prop
  | done {catalog} : Run catalog 0 catalog
  | next {a b c m n} : Run a m b → Step b n c → Run a (m + n) c

/-- Every number that was issued stays where it is. -/
structure KeepsNumbers (catalog later : Catalog) : Prop where
  files : catalog.files.map (·.id) <+: later.files.map (·.id)
  symbols : ∀ place decl, catalog.get? place = some decl → decl.id ≠ 0 →
    ∃ same, later.get? place = some same ∧ same.id = decl.id

theorem KeepsNumbers.refl (catalog : Catalog) : catalog.KeepsNumbers catalog :=
  ⟨List.prefix_refl _, fun _ decl hd _ => ⟨decl, hd, rfl⟩⟩

theorem KeepsNumbers.trans {a b c : Catalog} (hab : a.KeepsNumbers b) (hbc : b.KeepsNumbers c) :
    a.KeepsNumbers c := by
  refine ⟨hab.files.trans hbc.files, ?_⟩
  intro place decl hd hne
  obtain ⟨middle, hm, hid⟩ := hab.symbols place decl hd hne
  obtain ⟨last, hl, hid'⟩ := hbc.symbols place middle hm (hid ▸ hne)
  exact ⟨last, hl, hid'.trans hid⟩

theorem keepsNumbers_addFile (catalog : Catalog) (path : RawText) (kind : Family) :
    catalog.KeepsNumbers (catalog.addFile path kind) := by
  refine ⟨by simp [addFile], ?_⟩
  intro place decl hd _
  exact ⟨decl, by rw [get?_addFile, hd], rfl⟩

theorem keepsNumbers_extract (catalog : Catalog) (rules : DeclarationRules) (index : Nat)
    (lines : List String) (docs : List DocBlock) :
    catalog.KeepsNumbers (rules.extract catalog index lines docs).1 := by
  have hgrows := rules.grows_extract catalog index lines docs
  have hids := ids_of_labels hgrows.labels
  refine ⟨hids ▸ List.prefix_refl _, ?_⟩
  intro place decl hd _
  exact ⟨decl, hgrows.keeps hd, rfl⟩

theorem keepsNumbers_addUse (catalog : Catalog) (target : Place) (path : String) (site : UseSite) :
    catalog.KeepsNumbers (catalog.addUse target path site).1 := by
  have hids := ids_of_labels (labels_eq_of_outline (catalog.outline_addUse target path site))
  refine ⟨hids ▸ List.prefix_refl _, ?_⟩
  intro place decl hd hne
  rw [get?_addUse]
  split
  next =>
    exact ⟨_, by rw [hd, Option.map_some], catalog.numberOnUse_of_issued hne⟩
  next => exact ⟨decl, hd, rfl⟩

theorem keepsNumbers_recordEach (catalog : Catalog) (uses : List UseRecord) :
    catalog.KeepsNumbers (catalog.recordEach uses) := by
  induction uses generalizing catalog with
  | nil => exact .refl catalog
  | cons use rest ih =>
    exact (catalog.keepsNumbers_addUse use.target use.path use.site).trans (ih _)

theorem Step.keepsNumbers {a b : Catalog} {n : Nat} (h : Step a n b) : a.KeepsNumbers b := by
  cases h with
  | addFile path kind => exact a.keepsNumbers_addFile path kind
  | extract rules index lines docs => exact a.keepsNumbers_extract rules index lines docs
  | addUse target path site => exact a.keepsNumbers_addUse target path site
  | resolve order headers source =>
    rw [resolveIn_fst]
    exact a.keepsNumbers_recordEach _

theorem Run.keepsNumbers {a b : Catalog} {n : Nat} (h : Run a n b) : a.KeepsNumbers b := by
  induction h with
  | done => exact .refl _
  | next _ step ih => exact ih.trans step.keepsNumbers

theorem numbered_empty : Catalog.empty.Numbered 0 := by
  refine ⟨rfl, ?_, List.nodup_nil, ?_, List.Pairwise.nil⟩
  · intro place decl hd
    cases place <;> simp [get?, empty] at hd
  · intro id
    constructor
    · intro hid
      simp [numbers, issued, symbols, empty] at hid
    · rintro ⟨hne, hle⟩
      have hle := UInt64.le_iff_toNat_le.mp hle
      exact absurd (UInt64.toNat_inj.mp (Nat.le_zero.mp hle)) hne

theorem Step.numbered {a b : Catalog} {m n : Nat} (h : Step a m b) (ha : a.Numbered n)
    (hn : n + m < UInt64.size) : b.Numbered (n + m) := by
  cases h with
  | addFile path kind => exact ha.addFile hn path kind
  | extract rules index lines docs => exact ha.extract rules index lines docs
  | addUse target path site => exact ha.addUse target path site hn
  | resolve order headers source =>
    rw [resolveIn_fst]
    exact ha.recordEach _ hn

theorem Run.numbered {a b : Catalog} {m n : Nat} (h : Run a m b) (ha : a.Numbered n)
    (hn : n + m < UInt64.size) : b.Numbered (n + m) := by
  induction h with
  | done => exact ha
  | next _ step ih =>
    rw [← Nat.add_assoc] at hn ⊢
    exact step.numbered (ih (by omega)) hn

/-- After any operations that do not exhaust the numbers, exactly the files and the used symbols
have numbers, which are distinct and go from one to the last; no later operation changes them. -/
theorem run_numbers_once {n : Nat} {catalog : Catalog} (h : Run .empty n catalog)
    (hn : n < UInt64.size) :
    catalog.Numbered n ∧ ∀ m later, Run catalog m later → catalog.KeepsNumbers later := by
  have hall := h.numbered numbered_empty (by omega)
  rw [Nat.zero_add] at hall
  exact ⟨hall, fun _ _ hl => hl.keepsNumbers⟩

/-- A file in which a view is found. -/
def oneView : Catalog :=
  (DeclarationRules.extract ⟨⟨true⟩, 0⟩ (empty.addFile "a.sql" .sql) 0 ["create view v as"] []).1

theorem run_numbers_once_oneView :
    let used := (oneView.addUse (.view 0 0) "a.sql" ⟨1, 2⟩).1
    used.last = 2 ∧ used.numbers = [1, 2] ∧ used.Numbered 2 ∧
      used.KeepsNumbers (used.addUse (.view 0 0) "a.sql" ⟨1, 3⟩).1 := by
  intro used
  have hdeclared : Run empty 1 oneView :=
    (Run.done.next (.addFile "a.sql" .sql)).next (.extract ⟨⟨true⟩, 0⟩ 0 ["create view v as"] [])
  have hissued : (oneView.addUse (.view 0 0) "a.sql" ⟨1, 2⟩).2 = true := by decide +kernel
  have hrun : Run empty (1 + (oneView.addUse (.view 0 0) "a.sql" ⟨1, 2⟩).2.toNat) used :=
    hdeclared.next (.addUse (.view 0 0) "a.sql" ⟨1, 2⟩)
  rw [hissued] at hrun
  obtain ⟨hnumbered, hkeeps⟩ := run_numbers_once hrun (by decide)
  refine ⟨by decide +kernel, by decide +kernel, hnumbered, ?_⟩
  exact hkeeps _ _ (Run.done.next (.addUse (.view 0 0) "a.sql" ⟨1, 3⟩))

end CrossRef.Catalog
