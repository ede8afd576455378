import CrossRef.Catalog.Basic
import CrossRef.Proofs.FirstOfEach
import Mathlib.Data.List.Induction

namespace CrossRef.Uses

/-- Records sites under their paths, one after the other. -/
def recordSites (uses : Uses) (sites : List (String × UseSite)) : Uses :=
  sites.foldl (fun uses entry => uses.record entry.1 entry.2) uses

/-- Every entry of the first map stands at its position in the second, with its sites in front. -/
def ContinuedBy (uses later : Uses) : Prop :=
  ∀ (i : Nat) path sites, uses[i]? = some (path, sites) →
    ∃ more, later[i]? = some (path, sites ++ more)

theorem ContinuedBy.refl (uses : Uses) : uses.ContinuedBy uses :=
  fun _ _ _ h => ⟨[], by simpa using h⟩

theorem ContinuedBy.trans {a b c : Uses} (hab : a.ContinuedBy b) (hbc : b.ContinuedBy c) :
    a.ContinuedBy c := by
  intro i path sites h
  obtain ⟨more, hb⟩ := hab i path sites h
  obtain ⟨rest, hc⟩ := hbc i path _ hb
  exact ⟨more ++ rest, by simpa using hc⟩

theorem continuedBy_record (uses : Uses) (path : String) (site : UseSite) :
    uses.ContinuedBy (uses.record path site) := by
  induction uses with
  | nil => intro i key sites h; simp at h
  | cons entry rest ih =>
    obtain ⟨key, found⟩ := entry
    intro i key' sites h
    by_cases hk : key = path
    · cases i with
      | zero =>
        cases Option.some.inj h
        exact ⟨[site], by simp [record, hk]⟩
      | succ i => exact ⟨[], by simpa [record, hk] using h⟩
    · cases i with
      | zero => exact ⟨[], by simpa [record, hk] using h⟩
      | succ i => simpa [record, hk] using ih i key' sites (by simpa using h)

theorem continuedBy_recordSites (uses : Uses) (sites : List (String × UseSite)) :
    uses.ContinuedBy (uses.recordSites sites) := by
  induction sites generalizing uses with
  | nil => exact .refl uses
  | cons entry rest ih =>
    exact (uses.continuedBy_record entry.1 entry.2).trans (ih (uses.record entry.1 entry.2))

theorem record_ne_nil (uses : Uses) (path : String) (site : UseSite) :
    uses.record path site ≠ [] := by
  cases uses with
  | nil => simp [record]
  | cons entry rest =>
    simp only [record]
    split <;> simp

theorem mem_sites_of_record {uses : Uses} {path key : String} {site found : UseSite}
    {sites : List UseSite} (h : (key, sites) ∈ uses.record path site) (hs : found ∈ sites) :
    (∃ old, (key, old) ∈ uses ∧ found ∈ old) ∨ (key = path ∧ found = site) := by
  induction uses with
  | nil =>
    obtain ⟨rfl, rfl⟩ : key = path ∧ sites = [site] := by simpa [record] using h
    exact Or.inr ⟨rfl, by simpa using hs⟩
  | cons entry rest ih =>
    obtain ⟨first, old⟩ := entry
    by_cases hk : first = path
    · simp only [record, hk, ↓reduceIte, List.mem_cons] at h
      rcases h with h | h
      · obtain ⟨rfl, rfl⟩ := Prod.mk.inj h
        rcases List.mem_append.mp hs with hs | hs
        · exact Or.inl ⟨old, by simp [hk], hs⟩
        · exact Or.inr ⟨rfl, by simpa using hs⟩
      · exact Or.inl ⟨sites, by simp [h], hs⟩
    · simp only [record, hk, ↓reduceIte, List.mem_cons] at h
      rcases h with h | h
      · obtain ⟨rfl, rfl⟩ := Prod.mk.inj h
        exact Or.inl ⟨sites, by simp, hs⟩
      · rcases ih h with ⟨older, ho, hf⟩ | h
        · exact Or.inl ⟨older, by simp [ho], hf⟩
        · exact Or.inr h

theorem mem_sites_of_recordSites {uses : Uses} {added : List (String × UseSite)} {key : String}
    {found : UseSite} {sites : List UseSite} (h : (key, sites) ∈ uses.recordSites added)
    (hs : found ∈ sites) :
    (∃ old, (key, old) ∈ uses ∧ found ∈ old) ∨ (key, found) ∈ added := by
  induction added generalizing uses with
  | nil => exact Or.inl ⟨sites, h, hs⟩
  | cons entry rest ih =>
    rcases ih h with ⟨old, ho, hf⟩ | h
    · rcases mem_sites_of_record ho hf with h | ⟨rfl, rfl⟩
      · exact Or.inl h
      · exact Or.inr (by simp)
    · exact Or.inr (by simp [h])

theorem keys_record (uses : Uses) (path : String) (site : UseSite) :
    (uses.record path site).map Prod.fst =
      if path ∈ uses.map Prod.fst then uses.map Prod.fst else uses.map Prod.fst ++ [path] := by
  induction uses with
  | nil => rfl
  | cons entry rest ih =>
    obtain ⟨key, found⟩ := entry
    by_cases hk : key = path
    · simp [record, hk]
    · have hpath : path ∈ ((key, found) :: rest).map Prod.fst ↔ path ∈ rest.map Prod.fst := by
        simp [Ne.symm hk]
      simp only [hpath]
      rw [record, if_neg hk, List.map_cons, ih, List.map_cons]
      split <;> rfl

theorem sites_cons (first : String) (found : List UseSite) (rest : Uses) (key : String) :
    sites ((first, found) :: rest) key = if key = first then found else rest.sites key := by
  by_cases hk : key = first
  · simp [sites, hk]
  · have hne : (key == first) = false := beq_false_of_ne hk
    simp [sites, List.lookup_cons, hk, hne]

theorem sites_record (uses : Uses) (path key : String) (site : UseSite) :
    (uses.record path site).sites key =
      if key = path then uses.sites key ++ [site] else uses.sites key := by
  induction uses with
  | nil => exact sites_cons path [site] [] key
  | cons entry rest ih =>
    obtain ⟨first, found⟩ := entry
    by_cases hf : first = path
    · rw [record, if_pos hf, sites_cons, sites_cons]
      by_cases hk : key = path
      · simp [hk, hf]
      · simp [hk, hf]
    · rw [record, if_neg hf, sites_cons, sites_cons, ih]
      by_cases hk : key = first
      · simp [hk, hf]
      · simp [hk]

/-- New paths come behind those that were there, in the order of their first sites. -/
theorem keys_recordSites_behind (uses : Uses) (sites : List (String × UseSite)) :
    (uses.recordSites sites).map Prod.fst = uses.map Prod.fst ++
      (firstOfEach id (sites.map Prod.fst)).filter (· ∉ uses.map Prod.fst) := by
  induction sites using List.reverseRecOn with
  | nil => simp [recordSites, firstOfEach]
  | append_singleton sites entry ih =>
    have hstep := keys_record (uses.recordSites sites) entry.1 entry.2
    have hold : entry.1 ∈ (uses.recordSites sites).map Prod.fst ↔
        entry.1 ∈ uses.map Prod.fst ∨ entry.1 ∈ sites.map Prod.fst := by
      rw [ih, List.mem_append, List.mem_filter, mem_firstOfEach_id]
      by_cases hu : entry.1 ∈ uses.map Prod.fst <;> simp [hu]
    rw [recordSites, List.foldl_append]
    refine hstep.trans ?_
    rw [List.map_append, List.map_singleton, firstOfEach_concat, List.map_id, id_eq]
    by_cases hs : entry.1 ∈ sites.map Prod.fst
    · rw [if_pos hs, if_pos (hold.mpr (Or.inr hs)), ih]
    · rw [if_neg hs, List.filter_append, ← List.append_assoc, ← ih]
      by_cases hu : entry.1 ∈ uses.map Prod.fst
      · rw [if_pos (hold.mpr (Or.inl hu)), List.filter_singleton]
        simp [hu]
      · rw [if_neg (by tauto), List.filter_singleton]
        simp [hu]

/-- The paths of recorded sites come in the order of their first sites. -/
theorem keys_recordSites (sites : List (String × UseSite)) :
    (recordSites [] sites).map Prod.fst = firstOfEach id (sites.map Prod.fst) := by
  simpa using keys_recordSites_behind [] sites

/-- Recorded sites come behind those that a path had before. -/
theorem sites_recordSites_behind (uses : Uses) (sites : List (String × UseSite)) (path : String) :
    (uses.recordSites sites).sites path =
      uses.sites path ++ (sites.filter (·.1 = path)).map Prod.snd := by
  induction sites generalizing uses with
  | nil => simp [recordSites]
  | cons entry rest ih =>
    have hrest := ih (uses.record entry.1 entry.2)
    rw [sites_record] at hrest
    refine hrest.trans ?_
    by_cases hk : path = entry.1
    · simp [hk]
    · simp [hk, Ne.symm hk]

/-- A map of uses goes on with uses by path, file and line number: new paths come behind the old
ones in the order of their first uses, and under each path the new sites come behind the old. -/
structure ExtendedBy (added : List (String × Identifier × Nat)) (uses later : Uses) : Prop where
  keys : later.map Prod.fst = uses.map Prod.fst ++
    (firstOfEach id (added.map Prod.fst)).filter (· ∉ uses.map Prod.fst)
  sites : ∀ path, ((later.lookup path).getD []).map (fun site => (site.fileId, site.line.toNat)) =
    ((uses.lookup path).getD []).map (fun site => (site.fileId, site.line.toNat)) ++
      (added.filter (·.1 = path)).map Prod.snd
  front : uses.ContinuedBy later

theorem extendedBy_recordSites (uses : Uses) (sites : List (String × UseSite)) :
    uses.ExtendedBy (sites.map fun entry => (entry.1, entry.2.fileId, entry.2.line.toNat))
      (uses.recordSites sites) where
  keys := by
    rw [keys_recordSites_behind, List.map_map]
    rfl
  sites path := by
    have h := congrArg (List.map fun site : UseSite => (site.fileId, site.line.toNat))
      (uses.sites_recordSites_behind sites path)
    rw [List.map_append, List.map_map] at h
    rw [List.filter_map, List.map_map]
    exact h
  front := uses.continuedBy_recordSites sites

theorem sites_recordSites (sites : List (String × UseSite)) (path : String) :
    (recordSites [] sites).sites path = (sites.filter (·.1 = path)).map Prod.snd :=
  sites_recordSites_behind [] sites path

end CrossRef.Uses
