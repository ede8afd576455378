import CrossRef.Proofs.SearchTexts
import Mathlib.Data.List.Lex

namespace CrossRef

/-- Where a symbol stands among those that are searched: views before packages, each by file and
index, and behind a package its functions and then its procedures. -/
def Place.searchKey : Place → List Nat
  | .view file index => [0, file, index]
  | .package file index => [1, file, index]
  | .routine file owner kind index =>
    [1, file, owner, if kind = .function then 0 else 1, index]

@[simp]
theorem Place.searchKey_view (f i : Nat) : (Place.view f i).searchKey = [0, f, i] := rfl

@[simp]
theorem Place.searchKey_package (f p : Nat) : (Place.package f p).searchKey = [1, f, p] := rfl

@[simp]
theorem Place.searchKey_routine (f p : Nat) (kind : Kind) (i : Nat) :
    (Place.routine f p kind i).searchKey = [1, f, p, if kind = .function then 0 else 1, i] := rfl

theorem pairwise_flatMap_zipIdx {α β : Type} {r : β → β → Prop} (xs : List α) (n : Nat)
    (items : α × Nat → List β) (inner : ∀ entry, (items entry).Pairwise r)
    (outer : ∀ a b, a.2 < b.2 → ∀ x ∈ items a, ∀ y ∈ items b, r x y) :
    ((xs.zipIdx n).flatMap items).Pairwise r := by
  have positions : ((xs.zipIdx n).map Prod.snd).Pairwise (· < ·) := by
    rw [List.zipIdx_map_snd]
    exact List.pairwise_lt_range'
  refine List.pairwise_flatMap.mpr ⟨fun entry _ => inner entry, ?_⟩
  apply (List.pairwise_map.mp positions).imp
  intro a b hlt x hx y hy
  exact outer a b hlt x hx y hy

theorem pairwise_map_zipIdx {α β : Type} {r : β → β → Prop} (xs : List α) (make : Nat → β)
    (increasing : ∀ i j, i < j → r (make i) (make j)) :
    (xs.zipIdx.map fun entry => make entry.2).Pairwise r := by
  have h := pairwise_flatMap_zipIdx xs 0 (fun entry => [make entry.2]) (fun _ => by simp)
    (fun a b hlt x hx y hy => by
      rw [List.mem_singleton.mp hx, List.mem_singleton.mp hy]
      exact increasing a.2 b.2 hlt)
  rwa [← List.map_eq_flatMap] at h

namespace Catalog

def SearchedBefore (a b : Place) : Prop :=
  a.searchKey < b.searchKey

theorem packagePlaces_sorted (f p : Nat) (package : Package) :
    ((packageSymbols f p package).map Prod.fst).Pairwise SearchedBefore := by
  have increasing (kind : Kind) (i j : Nat) (h : i < j) :
      SearchedBefore (.routine f p kind i) (.routine f p kind j) := by
    simp [SearchedBefore, List.cons_lt_cons_iff, h]
  have hf := pairwise_map_zipIdx package.functions _ (increasing .function)
  have hp := pairwise_map_zipIdx package.procedures _ (increasing .procedure)
  simp only [packageSymbols, List.map_append, List.map_cons, List.map_map, Function.comp_def]
  rw [List.pairwise_append, List.pairwise_cons]
  refine ⟨⟨?_, hf⟩, hp, ?_⟩
  · intro b hb
    obtain ⟨y, _, rfl⟩ := List.mem_map.mp hb
    simp [SearchedBefore]
  · intro a ha b hb
    obtain ⟨y, _, rfl⟩ := List.mem_map.mp hb
    rcases List.mem_cons.mp ha with rfl | ha
    · simp [SearchedBefore]
    · obtain ⟨x, _, rfl⟩ := List.mem_map.mp ha
      simp [SearchedBefore, List.cons_lt_cons_iff]

/-- The keys of the symbols of a package start alike. -/
theorem key_of_mem_packagePlaces {f p : Nat} {package : Package} {place : Place}
    (h : place ∈ (packageSymbols f p package).map Prod.fst) :
    ∃ rest, place.searchKey = 1 :: f :: p :: rest := by
  obtain ⟨⟨place', decl⟩, hm, rfl⟩ := List.mem_map.mp h
  rcases mem_packageSymbols.mp hm with ⟨rfl, _⟩ | ⟨kind, i, rfl, _⟩
  · exact ⟨[], rfl⟩
  · exact ⟨_, rfl⟩

theorem packagesPlaces_sorted (f : Nat) (packages : List Package) :
    ((packages.zipIdx.flatMap fun entry => packageSymbols f entry.2 entry.1).map
      Prod.fst).Pairwise SearchedBefore := by
  rw [List.map_flatMap]
  apply pairwise_flatMap_zipIdx
  · exact fun entry => packagePlaces_sorted f entry.2 entry.1
  · intro a b hlt x hx y hy
    obtain ⟨restx, hkx⟩ := key_of_mem_packagePlaces hx
    obtain ⟨resty, hky⟩ := key_of_mem_packagePlaces hy
    simp [SearchedBefore, List.cons_lt_cons_iff, hkx, hky, hlt]

theorem fileSymbols_sorted (index : Nat) (file : IndexedFile) :
    ((fileSymbols index file).map Prod.fst).Pairwise SearchedBefore := by
  have hv := pairwise_map_zipIdx (r := SearchedBefore) file.views (Place.view index)
    (fun i j h => by simpa [SearchedBefore, List.cons_lt_cons_iff] using h)
  have hp := packagesPlaces_sorted index file.packages
  simp only [fileSymbols, List.map_append, List.map_map, Function.comp_def]
  rw [List.pairwise_append]
  refine ⟨hv, hp, ?_⟩
  intro a ha b hb
  obtain ⟨x, _, rfl⟩ := List.mem_map.mp ha
  rw [List.map_flatMap] at hb
  obtain ⟨entry, _, hb⟩ := List.mem_flatMap.mp hb
  obtain ⟨rest, hk⟩ := key_of_mem_packagePlaces hb
  simp [SearchedBefore, List.cons_lt_cons_iff, hk]

/-- The symbols of a catalog are in the order of their files, and in each file as they are
searched. -/
theorem symbols_sorted (catalog : Catalog) :
    (catalog.symbols.map Prod.fst).Pairwise fun a b =>
      a.file < b.file ∨ a.file = b.file ∧ SearchedBefore a b := by
  simp only [symbols, List.map_flatMap]
  have hfile {index : Nat} {file : IndexedFile} {place : Place}
      (h : place ∈ (fileSymbols index file).map Prod.fst) : place.file = index := by
    obtain ⟨⟨place', decl⟩, hm, rfl⟩ := List.mem_map.mp h
    exact (mem_fileSymbols.mp hm).1
  apply pairwise_flatMap_zipIdx
  · intro entry
    apply (fileSymbols_sorted entry.2 entry.1).imp_of_mem
    intro a b ha hb hlt
    exact Or.inr ⟨(hfile ha).trans (hfile hb).symm, hlt⟩
  · intro a b hlt x hx y hy
    exact Or.inl (by rw [hfile hx, hfile hy]; exact hlt)

theorem needles_sorted (catalog : Catalog) :
    (catalog.needles.map (·.target)).Pairwise SearchedBefore := by
  rw [needles, List.map_append, viewNeedles_places, packageNeedles_places, List.pairwise_append]
  refine ⟨?_, ?_, ?_⟩
  · apply pairwise_flatMap_zipIdx
    · exact fun entry => pairwise_map_zipIdx entry.1.views (Place.view entry.2)
        (fun i j h => by simpa [SearchedBefore, List.cons_lt_cons_iff] using h)
    · intro a b hlt x hx y hy
      obtain ⟨i, _, rfl⟩ := List.mem_map.mp hx
      obtain ⟨j, _, rfl⟩ := List.mem_map.mp hy
      simp [SearchedBefore, List.cons_lt_cons_iff, hlt]
  · apply pairwise_flatMap_zipIdx
    · exact fun entry => packagesPlaces_sorted entry.2 entry.1.packages
    · intro a b hlt x hx y hy
      rw [List.map_flatMap] at hx hy
      obtain ⟨p, _, hx⟩ := List.mem_flatMap.mp hx
      obtain ⟨q, _, hy⟩ := List.mem_flatMap.mp hy
      obtain ⟨restx, hkx⟩ := key_of_mem_packagePlaces hx
      obtain ⟨resty, hky⟩ := key_of_mem_packagePlaces hy
      simp [SearchedBefore, List.cons_lt_cons_iff, hkx, hky, hlt]
  · intro a ha b hb
    obtain ⟨entry, _, ha⟩ := List.mem_flatMap.mp ha
    obtain ⟨i, _, rfl⟩ := List.mem_map.mp ha
    obtain ⟨entry', _, hb⟩ := List.mem_flatMap.mp hb
    rw [List.map_flatMap] at hb
    obtain ⟨p, _, hb⟩ := List.mem_flatMap.mp hb
    obtain ⟨rest, hk⟩ := key_of_mem_packagePlaces hb
    simp [SearchedBefore, List.cons_lt_cons_iff, hk]

end Catalog

end CrossRef
