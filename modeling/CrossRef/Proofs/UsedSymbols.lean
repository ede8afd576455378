import CrossRef.Catalog.Counts
import CrossRef.Proofs.DiscoveryOrder
import CrossRef.Proofs.UsageCounting

namespace CrossRef

namespace Uses

theorem total_record (uses : Uses) (path : String) (site : UseSite) :
    (uses.record path site).total = uses.total + 1 := by
  induction uses with
  | nil => rfl
  | cons entry rest ih =>
    obtain ⟨key, found⟩ := entry
    simp only [total, flat] at ih
    by_cases hk : key = path
    · simp [record, hk, total, flat]
      omega
    · simp [record, hk, total, flat, ih]
      omega

theorem total_recordSites (uses : Uses) (sites : List (String × UseSite)) :
    (uses.recordSites sites).total = uses.total + sites.length := by
  induction sites generalizing uses with
  | nil => rfl
  | cons entry rest ih =>
    have hrest := ih (uses.record entry.1 entry.2)
    rw [total_record, Nat.add_assoc, Nat.add_comm 1] at hrest
    exact hrest

theorem recordSites_eq_nil_iff {sites : List (String × UseSite)} :
    recordSites [] sites = [] ↔ sites = [] := by
  constructor
  · intro hnone
    have htotal := total_recordSites [] sites
    rw [hnone, Nat.left_eq_add] at htotal
    exact List.length_eq_zero_iff.mp htotal
  · rintro rfl
    rfl

end Uses

theorem nodup_firstOfEach {β : Type} [DecidableEq β] (xs : List β) : (firstOfEach id xs).Nodup := by
  induction xs with
  | nil => exact List.nodup_nil
  | cons x rest ih =>
    refine List.nodup_cons.mpr ⟨?_, ih.filter _⟩
    intro hmem
    simpa using (List.mem_filter.mp hmem).2

/-- Where every entry has one of these keys, the counts of the keys add up to the number of all
entries. -/
theorem sum_countP_keys {α κ : Type} [DecidableEq κ] {keys : List κ} (hnodup : keys.Nodup)
    {xs : List α} {key : α → κ} (h : ∀ x ∈ xs, key x ∈ keys) :
    (keys.map fun k => xs.countP (key · = k)).sum = xs.length := by
  induction keys generalizing xs with
  | nil =>
    cases xs with
    | nil => rfl
    | cons x rest => simpa using h x
  | cons k rest ih =>
    obtain ⟨hk, hrest⟩ := List.nodup_cons.mp hnodup
    have hothers : ∀ x ∈ xs.filter (key · ≠ k), key x ∈ rest := by
      intro x hx
      obtain ⟨hx, hne⟩ := List.mem_filter.mp hx
      exact (List.mem_cons.mp (h x hx)).resolve_left (of_decide_eq_true hne)
    have hcount : ∀ later ∈ rest, (xs.filter (key · ≠ k)).countP (key · = later) =
        xs.countP (key · = later) := by
      intro later hlater
      rw [List.countP_filter]
      apply List.countP_congr
      intro x _
      have hne : later ≠ k := fun heq => hk (heq ▸ hlater)
      simp only [Bool.and_eq_true, decide_eq_true_eq, and_iff_left_iff_imp]
      rintro rfl
      exact hne
    have hsum := ih hrest hothers
    rw [List.map_congr_left hcount, ← List.countP_eq_length_filter] at hsum
    rw [List.map_cons, List.sum_cons, hsum, List.length_eq_countP_add_countP (key · = k)]
    simp

theorem flatMap_filter_of_nil {α β : Type} {xs : List α} {p : α → Bool} {f : α → List β}
    (h : ∀ x ∈ xs, p x = false → f x = []) : (xs.filter p).flatMap f = xs.flatMap f := by
  induction xs with
  | nil => rfl
  | cons x rest ih =>
    have hrest := ih fun y hy => h y (List.mem_cons_of_mem x hy)
    by_cases hx : p x = true
    · rw [List.filter_cons_of_pos hx, List.flatMap_cons, List.flatMap_cons, hrest]
    · have hnone := h x List.mem_cons_self (by simpa using hx)
      rw [List.filter_cons_of_neg hx, List.flatMap_cons, hnone, hrest, List.nil_append]

namespace Catalog

theorem usages_stats (catalog : Catalog) :
    catalog.stats.usages = (catalog.symbols.map fun entry => entry.2.uses.total).sum := by
  have hunused : ∀ decl ∈ catalog.symbols.map (·.2), decl.isUsed = false → decl.uses.flat = [] := by
    intro decl _ hunused
    have hnone : decl.uses = [] := by simpa [Declaration.isUsed] using hunused
    rw [hnone]
    rfl
  simp only [stats]
  rw [flatMap_filter_of_nil hunused, List.flatMap_map, List.length_flatMap]
  rfl

theorem usedSymbols_stats (catalog : Catalog) :
    catalog.stats.usedSymbols = ((catalog.symbols.filter (·.2.isUsed)).map Prod.fst).length := by
  simp only [stats, List.filter_map, List.length_map]
  rfl

theorem targets_recordsIn (headers : HeaderRules) (source : Contents) {catalog : Catalog}
    {order : List Nat} (hp : order.Perm (List.range catalog.files.length)) :
    (((catalog.files.map (Resolution.searchFile headers catalog.needles source)).flatMap
        fun found => found.elim [] (·.mentions)).map (·.target)) =
      (catalog.recordsIn order headers source).map (·.target) := by
  rw [recordsIn_of_perm headers source hp, List.map_flatMap, List.map_flatMap, List.flatMap_map]
  simp only [Resolution.recordsOf, List.map_map]
  rfl

section

variable {headers : HeaderRules} {source : Contents} {catalog : Catalog} {order : List Nat}

theorem place_of_recordsIn (hp : order.Perm (List.range catalog.files.length)) :
    ∀ use ∈ catalog.recordsIn order headers source,
      use.target ∈ (catalog.resolveIn order headers source).1.symbols.map Prod.fst := by
  intro use huse
  obtain ⟨decl, hd⟩ := declared_of_recordsIn hp use huse
  obtain ⟨id, hfound⟩ := get?_recordEach hd (catalog.recordsIn order headers source)
  rw [← resolveIn_fst] at hfound
  exact List.mem_map.mpr ⟨_, mem_symbols_iff.mpr hfound, rfl⟩

variable (hunused : ∀ place decl, catalog.get? place = some decl → decl.uses = [])

include hunused

/-- A symbol that was not used before is used as often as uses of it are recorded. -/
theorem total_of_resolved {place : Place} {found : Declaration}
    (h : (catalog.resolveIn order headers source).1.get? place = some found) :
    found.uses.total = (catalog.recordsIn order headers source).countP (·.target = place) := by
  rw [resolveIn_fst] at h
  obtain ⟨decl, id, hd, rfl⟩ := exists_of_get?_recordEach h
  have htotal := Uses.total_recordSites [] (sitesOf place (catalog.recordsIn order headers source))
  rw [sitesOf, List.length_map, ← List.countP_eq_length_filter] at htotal
  rw [hunused place decl hd, sitesOf, htotal]
  exact Nat.zero_add _

theorem isUsed_of_resolved {place : Place} {found : Declaration}
    (h : (catalog.resolveIn order headers source).1.get? place = some found) :
    found.isUsed = true ↔ place ∈ (catalog.recordsIn order headers source).map (·.target) := by
  rw [resolveIn_fst] at h
  obtain ⟨decl, id, hd, rfl⟩ := exists_of_get?_recordEach h
  have hsites : sitesOf place (catalog.recordsIn order headers source) = [] ↔
      place ∉ (catalog.recordsIn order headers source).map (·.target) := by
    simp [sitesOf, List.filter_eq_nil_iff]
  rw [hunused place decl hd, Declaration.isUsed, Bool.not_eq_true', List.isEmpty_eq_false_iff, Ne,
    Uses.recordSites_eq_nil_iff, hsites, not_not]

variable (hp : order.Perm (List.range catalog.files.length)) (headers) (source)

include hp

/-- Every use that was found is recorded with one symbol. -/
theorem sum_total_resolveIn :
    ((catalog.resolveIn order headers source).1.symbols.map fun entry => entry.2.uses.total).sum =
      (catalog.recordsIn order headers source).length := by
  have heach : ∀ entry ∈ (catalog.resolveIn order headers source).1.symbols,
      entry.2.uses.total =
        (catalog.recordsIn order headers source).countP (·.target = entry.1) :=
    fun entry hentry => total_of_resolved hunused (mem_symbols_iff.mp hentry)
  have hplaces : ∀ use ∈ catalog.recordsIn order headers source,
      use.target ∈ (catalog.resolveIn order headers source).1.symbols.map Prod.fst :=
    place_of_recordsIn hp
  have hkeys := sum_countP_keys (nodup_places _) hplaces
  rw [List.map_map] at hkeys
  rw [List.map_congr_left heach]
  exact hkeys

theorem usages_resolveIn :
    (catalog.resolveIn order headers source).2.usages =
      (catalog.resolveIn order headers source).1.stats.usages := by
  have htargets := congrArg List.length (targets_recordsIn headers source hp)
  rw [usages_stats, sum_total_resolveIn headers source hunused hp, resolveIn_snd headers source hp,
    ← List.length_map fun use => use.target]
  exact htargets

/-- The symbols that are used are those that were found, each once. -/
theorem used_places_perm :
    (((catalog.resolveIn order headers source).1.symbols.filter (·.2.isUsed)).map Prod.fst).Perm
      (firstOfEach id ((catalog.recordsIn order headers source).map (·.target))) := by
  have hsublist : (((catalog.resolveIn order headers source).1.symbols.filter (·.2.isUsed)).map
      Prod.fst).Sublist ((catalog.resolveIn order headers source).1.symbols.map Prod.fst) :=
    List.filter_sublist.map Prod.fst
  have hnodup := (nodup_places _).sublist hsublist
  apply (List.perm_ext_iff_of_nodup hnodup (nodup_firstOfEach _)).mpr
  intro place
  rw [mem_firstOfEach_id, List.mem_map]
  constructor
  · rintro ⟨⟨place, found⟩, hentry, rfl⟩
    obtain ⟨hmem, hused⟩ := List.mem_filter.mp hentry
    exact (isUsed_of_resolved hunused (mem_symbols_iff.mp hmem)).mp hused
  · intro hplace
    obtain ⟨use, huse, rfl⟩ := List.mem_map.mp hplace
    obtain ⟨⟨place, found⟩, hmem, heq⟩ := List.mem_map.mp (place_of_recordsIn hp use huse)
    have heq : place = use.target := heq
    have hused := (isUsed_of_resolved hunused (mem_symbols_iff.mp hmem)).mpr (heq ▸ hplace)
    exact ⟨(place, found), List.mem_filter.mpr ⟨hmem, hused⟩, heq⟩

/-- A search of all files issues a number to each symbol that it finds used, and to no other. -/
theorem numbered_resolveIn
    (hfresh : ∀ place decl, catalog.get? place = some decl → decl.id = 0)
    (hn : catalog.last.toNat + (catalog.resolveIn order headers source).1.stats.usedSymbols <
      UInt64.size) :
    let later := (catalog.resolveIn order headers source).1
    later.last.toNat = catalog.last.toNat + later.stats.usedSymbols ∧
      later.symbols.countP (·.2.id ≠ 0) = later.stats.usedSymbols := by
  intro later
  have hcount : later.stats.usedSymbols =
      (firstOfEach id ((catalog.recordsIn order headers source).map (·.target))).length := by
    rw [usedSymbols_stats]
    exact (used_places_perm headers source hunused hp).length_eq
  rw [hcount] at hn
  have hnumbered := numberedInOrder_recordEach hfresh (catalog.recordsIn order headers source)
    (declared_of_recordsIn hp) hn
  rw [← resolveIn_fst] at hnumbered
  have hiff : ∀ entry ∈ later.symbols, entry.2.id ≠ 0 ↔ entry.2.isUsed = true := by
    rintro ⟨place, found⟩ hmem
    have hget := mem_symbols_iff.mp hmem
    rw [isUsed_of_resolved hunused hget, ← mem_firstOfEach_id]
    constructor
    · intro hne
      by_contra hnone
      exact hne (hnumbered.others place found hnone hget)
    · intro hplace
      exact hnumbered.id_ne_zero hplace hget
  refine ⟨by rw [hcount]; exact hnumbered.last, ?_⟩
  rw [usedSymbols_stats, List.length_map, ← List.countP_eq_length_filter]
  apply List.countP_congr
  intro entry hentry
  simpa using hiff entry hentry

end

end Catalog

end CrossRef
