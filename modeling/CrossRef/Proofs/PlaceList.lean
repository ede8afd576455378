import CrossRef.Proofs.Places
import Mathlib.Data.List.Nodup

namespace CrossRef

namespace Catalog

theorem mem_packageSymbols {f p : Nat} {package : Package} {place : Place} {decl : Declaration} :
    (place, decl) ∈ packageSymbols f p package ↔
      (place = .package f p ∧ package.decl = decl) ∨
        ∃ kind i, place = .routine f p kind i ∧ (package.routines kind)[i]? = some decl := by
  simp only [packageSymbols, List.mem_append, List.mem_cons, List.mem_map, Prod.mk.injEq,
    Prod.exists, List.mem_zipIdx_iff_getElem?]
  constructor
  · rintro ((⟨rfl, rfl⟩ | ⟨d, i, hd, rfl, rfl⟩) | ⟨d, i, hd, rfl, rfl⟩)
    · exact Or.inl ⟨rfl, rfl⟩
    · exact Or.inr ⟨.function, i, rfl, hd⟩
    · exact Or.inr ⟨.procedure, i, rfl, hd⟩
  · rintro (⟨rfl, rfl⟩ | ⟨kind, i, rfl, hd⟩)
    · exact Or.inl (Or.inl ⟨rfl, rfl⟩)
    · cases kind with
      | function => exact Or.inl (Or.inr ⟨decl, i, hd, rfl, rfl⟩)
      | procedure => exact Or.inr ⟨decl, i, hd, rfl, rfl⟩
      | view => simp [Package.routines] at hd
      | package => simp [Package.routines] at hd

theorem mem_fileSymbols {index : Nat} {file : IndexedFile} {place : Place} {decl : Declaration} :
    (place, decl) ∈ fileSymbols index file ↔ place.file = index ∧ file.at? place = some decl := by
  simp only [fileSymbols, List.mem_append, List.mem_map, List.mem_flatMap, Prod.exists,
    List.mem_zipIdx_iff_getElem?, Prod.mk.injEq, mem_packageSymbols]
  constructor
  · rintro (⟨d, i, hd, rfl, rfl⟩ | ⟨p, i, hp, ⟨rfl, rfl⟩ | ⟨kind, j, rfl, hd⟩⟩)
    · exact ⟨rfl, hd⟩
    · exact ⟨rfl, by simp [IndexedFile.at?, hp]⟩
    · exact ⟨rfl, by simpa [IndexedFile.at?, hp] using hd⟩
  · rintro ⟨rfl, h⟩
    cases place with
    | view f i => exact Or.inl ⟨decl, i, h, rfl, rfl⟩
    | package f i =>
      obtain ⟨p, hp, rfl⟩ := Option.map_eq_some_iff.mp h
      exact Or.inr ⟨p, i, hp, Or.inl ⟨rfl, rfl⟩⟩
    | routine f i kind j =>
      obtain ⟨p, hp, hd⟩ := Option.bind_eq_some_iff.mp h
      exact Or.inr ⟨p, i, hp, Or.inr ⟨kind, j, rfl, hd⟩⟩

/-- The symbols of a catalog are what is found at its places. -/
theorem mem_symbols_iff {catalog : Catalog} {place : Place} {decl : Declaration} :
    (place, decl) ∈ catalog.symbols ↔ catalog.get? place = some decl := by
  simp only [symbols, List.mem_flatMap, Prod.exists, List.mem_zipIdx_iff_getElem?, mem_fileSymbols,
    get?_eq_some_iff]
  constructor
  · rintro ⟨file, i, hf, rfl, hd⟩
    exact ⟨file, hf, hd⟩
  · rintro ⟨file, hf, hd⟩
    exact ⟨file, place.file, hf, rfl, hd⟩

end Catalog

theorem nodup_flatMap_zipIdx {α β : Type} (xs : List α) (items : α × Nat → List β) (tag : β → Nat)
    (nodup : ∀ entry, (items entry).Nodup) (tagged : ∀ entry, ∀ y ∈ items entry, tag y = entry.2) :
    (xs.zipIdx.flatMap items).Nodup := by
  have positions : (xs.zipIdx.map Prod.snd).Nodup := by
    rw [List.zipIdx_map_snd]
    exact List.nodup_range'
  refine List.nodup_flatMap.mpr ⟨fun entry _ => nodup entry, ?_⟩
  apply (List.pairwise_map.mp positions).imp
  intro a b hne y ha hb
  exact hne ((tagged a y ha).symm.trans (tagged b y hb))

theorem nodup_map_zipIdx {α β : Type} (xs : List α) (make : Nat → β) (inj : make.Injective) :
    (xs.zipIdx.map fun entry => make entry.2).Nodup := by
  have h := (List.nodup_range' (s := 0) (n := xs.length)).map inj
  rwa [← List.zipIdx_map_snd, List.map_map] at h

/-- Where keys are distinct, one entry has the key of an entry. -/
theorem filter_key_eq_singleton {α κ : Type} [DecidableEq κ] {xs : List α} {key : α → κ}
    (nodup : (xs.map key).Nodup) {x : α} (hx : x ∈ xs) : xs.filter (key · = key x) = [x] := by
  obtain ⟨before, after, rfl⟩ := List.append_of_mem hx
  rw [List.map_append, List.map_cons, List.nodup_append] at nodup
  obtain ⟨_, hafter, hbefore⟩ := nodup
  have hb : before.filter (key · = key x) = [] := by
    apply List.filter_eq_nil_iff.mpr
    intro y hy heq
    exact hbefore (key y) (List.mem_map_of_mem hy) (key x) (by simp) (by simpa using heq)
  have ha : after.filter (key · = key x) = [] := by
    apply List.filter_eq_nil_iff.mpr
    intro y hy heq
    have hne := (List.nodup_cons.mp hafter).1
    exact hne (List.mem_map.mpr ⟨y, hy, by simpa using heq⟩)
  rw [List.filter_append, List.filter_cons, hb, ha]
  simp

/-- The position of the package a place lies in. -/
def Place.group : Place → Nat
  | .view _ index => index
  | .package _ index => index
  | .routine _ owner _ _ => owner

namespace Catalog

theorem nodup_packagePlaces (f p : Nat) (package : Package) :
    ((packageSymbols f p package).map Prod.fst).Nodup := by
  have hf := nodup_map_zipIdx package.functions (Place.routine f p .function)
    (fun i j h => by simpa using h)
  have hp := nodup_map_zipIdx package.procedures (Place.routine f p .procedure)
    (fun i j h => by simpa using h)
  simp only [packageSymbols, List.map_append, List.map_cons, List.map_map, Function.comp_def]
  rw [List.nodup_append, List.nodup_cons]
  refine ⟨⟨by simp, hf⟩, hp, ?_⟩
  intro a ha b hb
  simp only [List.mem_cons, List.mem_map] at ha hb
  obtain ⟨y, _, rfl⟩ := hb
  rcases ha with rfl | ⟨x, _, rfl⟩
  · simp
  · simp

theorem nodup_filePlaces (index : Nat) (file : IndexedFile) :
    ((fileSymbols index file).map Prod.fst).Nodup := by
  have hv := nodup_map_zipIdx file.views (Place.view index) (fun i j h => by simpa using h)
  have hp := nodup_flatMap_zipIdx file.packages
    (fun entry => (packageSymbols index entry.2 entry.1).map Prod.fst) Place.group
    (fun entry => nodup_packagePlaces index entry.2 entry.1) (by
      intro entry place h
      obtain ⟨⟨place', decl⟩, hm, rfl⟩ := List.mem_map.mp h
      rcases mem_packageSymbols.mp hm with ⟨rfl, _⟩ | ⟨kind, i, rfl, _⟩
      · rfl
      · rfl)
  simp only [fileSymbols, List.map_append, List.map_map, Function.comp_def, List.map_flatMap]
  rw [List.nodup_append]
  refine ⟨hv, hp, ?_⟩
  intro a ha b hb
  obtain ⟨x, _, rfl⟩ := List.mem_map.mp ha
  obtain ⟨y, _, hb⟩ := List.mem_flatMap.mp hb
  obtain ⟨⟨place, decl⟩, hm, rfl⟩ := List.mem_map.mp hb
  rcases mem_packageSymbols.mp hm with ⟨rfl, _⟩ | ⟨kind, i, rfl, _⟩
  · simp
  · simp

/-- No place is listed twice. -/
theorem nodup_places (catalog : Catalog) : (catalog.symbols.map Prod.fst).Nodup := by
  simp only [symbols, List.map_flatMap]
  apply nodup_flatMap_zipIdx catalog.files _ Place.file
  · exact fun entry => nodup_filePlaces entry.2 entry.1
  · intro entry place h
    obtain ⟨⟨place', decl⟩, hm, rfl⟩ := List.mem_map.mp h
    exact (mem_fileSymbols.mp hm).1

end Catalog

end CrossRef
