import CrossRef.Needle
import CrossRef.Proofs.PlaceList
import Mathlib.Data.List.Perm.Basic

namespace CrossRef.Catalog

/-- The text by which the symbol at a place is searched: a view by its name, a package by its name
and a dot, a routine by the name of its package, a dot and its own name, all in upper case. -/
def searchText? (catalog : Catalog) (place : Place) : Option String :=
  (catalog.get? place).bind fun decl =>
    match place with
    | .view .. => some (Text.upper decl.name)
    | .package .. => some (Text.upper decl.name ++ ".")
    | .routine .. => (catalog.ownerOf? place).map fun owner =>
      Text.upper owner.decl.name ++ "." ++ Text.upper decl.name

theorem mem_viewNeedles {catalog : Catalog} {needle : Needle} :
    needle ∈ catalog.viewNeedles ↔
      ∃ f i decl, needle.target = .view f i ∧ catalog.get? needle.target = some decl ∧
        needle.text = Text.upper decl.name := by
  obtain ⟨target, text⟩ := needle
  simp only [viewNeedles, List.mem_flatMap, List.mem_map, Prod.exists, List.mem_zipIdx_iff_getElem?,
    Needle.mk.injEq, Needle.ofView]
  constructor
  · rintro ⟨file, f, hf, decl, i, hd, rfl, rfl⟩
    exact ⟨f, i, decl, rfl, get?_eq_some_iff.mpr ⟨file, hf, hd⟩, rfl⟩
  · rintro ⟨f, i, decl, rfl, hget, rfl⟩
    obtain ⟨file, hf, hd⟩ := get?_eq_some_iff.mp hget
    exact ⟨file, f, hf, decl, i, hd, rfl, rfl⟩

theorem mem_routineNeedles {f p : Nat} {package : Package} {kind : Kind} {needle : Needle} :
    needle ∈ routineNeedles f p package kind ↔
      ∃ i decl, needle.target = .routine f p kind i ∧ (package.routines kind)[i]? = some decl ∧
        needle.text = Needle.ofRoutine package decl := by
  obtain ⟨target, text⟩ := needle
  simp only [routineNeedles, List.mem_map, Prod.exists, List.mem_zipIdx_iff_getElem?,
    Needle.mk.injEq]
  constructor
  · rintro ⟨decl, i, hd, rfl, rfl⟩
    exact ⟨i, decl, rfl, hd, rfl⟩
  · rintro ⟨i, decl, rfl, hd, rfl⟩
    exact ⟨decl, i, hd, rfl, rfl⟩

theorem mem_packageNeedles {catalog : Catalog} {needle : Needle} :
    needle ∈ catalog.packageNeedles ↔
      ∃ f p file package, catalog.files[f]? = some file ∧ file.packages[p]? = some package ∧
        ((needle.target = .package f p ∧ needle.text = Needle.ofPackage package) ∨
          ∃ kind i decl, needle.target = .routine f p kind i ∧
            (package.routines kind)[i]? = some decl ∧
              needle.text = Needle.ofRoutine package decl) := by
  simp only [packageNeedles, List.mem_flatMap, List.mem_cons, List.mem_append, Prod.exists,
    List.mem_zipIdx_iff_getElem?, mem_routineNeedles]
  constructor
  · rintro ⟨file, f, hf, package, p, hp, rfl | ⟨i, decl, h⟩ | ⟨i, decl, h⟩⟩
    · exact ⟨f, p, file, package, hf, hp, Or.inl ⟨rfl, rfl⟩⟩
    · exact ⟨f, p, file, package, hf, hp, Or.inr ⟨.function, i, decl, h⟩⟩
    · exact ⟨f, p, file, package, hf, hp, Or.inr ⟨.procedure, i, decl, h⟩⟩
  · rintro ⟨f, p, file, package, hf, hp, ⟨ht, hx⟩ | ⟨kind, i, decl, h⟩⟩
    · obtain ⟨target, text⟩ := needle
      cases ht
      cases hx
      exact ⟨file, f, hf, package, p, hp, Or.inl rfl⟩
    · refine ⟨file, f, hf, package, p, hp, Or.inr ?_⟩
      cases kind with
      | function => exact Or.inl ⟨i, decl, h⟩
      | procedure => exact Or.inr ⟨i, decl, h⟩
      | view => simp [Package.routines] at h
      | package => simp [Package.routines] at h

/-- There is a needle for each symbol, with the text by which this symbol is searched. -/
theorem mem_needles_iff {catalog : Catalog} {needle : Needle} :
    needle ∈ catalog.needles ↔ catalog.searchText? needle.target = some needle.text := by
  rw [needles, List.mem_append, mem_viewNeedles, mem_packageNeedles, searchText?,
    Option.bind_eq_some_iff]
  obtain ⟨target, text⟩ := needle
  constructor
  · rintro (⟨f, i, decl, rfl, hget, rfl⟩ | ⟨f, p, file, package, hf, hp, h⟩)
    · exact ⟨decl, hget, rfl⟩
    · rcases h with ⟨rfl, rfl⟩ | ⟨kind, i, decl, rfl, hd, rfl⟩
      · refine ⟨package.decl, get?_eq_some_iff.mpr ⟨file, hf, ?_⟩, rfl⟩
        simp [IndexedFile.at?, hp]
      · refine ⟨decl, get?_eq_some_iff.mpr ⟨file, hf, ?_⟩, ?_⟩
        · simpa [IndexedFile.at?, hp] using hd
        · simp [ownerOf?, hf, hp, Needle.ofRoutine, Needle.ofPackage]
  · rintro ⟨decl, hget, htext⟩
    obtain ⟨file, hf, hd⟩ := get?_eq_some_iff.mp hget
    cases target with
    | view f i => exact Or.inl ⟨f, i, decl, rfl, hget, (Option.some.inj htext).symm⟩
    | package f p =>
      obtain ⟨package, hp, rfl⟩ := Option.map_eq_some_iff.mp hd
      exact Or.inr ⟨f, p, file, package, hf, hp, Or.inl ⟨rfl, (Option.some.inj htext).symm⟩⟩
    | routine f p kind i =>
      obtain ⟨package, hp, hd⟩ := Option.bind_eq_some_iff.mp hd
      have howner : catalog.ownerOf? (.routine f p kind i) = some package := by
        have hf' : catalog.files[f]? = some file := hf
        simp [ownerOf?, hf', hp]
      rw [howner] at htext
      exact Or.inr ⟨f, p, file, package, hf, hp,
        Or.inr ⟨kind, i, decl, rfl, hd, (Option.some.inj htext).symm⟩⟩

theorem exists_searchText {catalog : Catalog} {place : Place} {decl : Declaration}
    (h : catalog.get? place = some decl) : ∃ text, catalog.searchText? place = some text := by
  cases place with
  | view f i => exact ⟨_, by rw [searchText?, h]; rfl⟩
  | package f p => exact ⟨_, by rw [searchText?, h]; rfl⟩
  | routine f p kind i =>
    obtain ⟨package, howner, _⟩ := exists_owner h
    exact ⟨_, by rw [searchText?, h, howner]; rfl⟩

theorem viewNeedles_places (catalog : Catalog) :
    catalog.viewNeedles.map (·.target) = catalog.files.zipIdx.flatMap fun entry =>
      entry.1.views.zipIdx.map fun view => Place.view entry.2 view.2 := by
  simp only [viewNeedles, List.map_flatMap, List.map_map, Function.comp_def]

theorem packageNeedles_places (catalog : Catalog) :
    catalog.packageNeedles.map (·.target) = catalog.files.zipIdx.flatMap fun entry =>
      (entry.1.packages.zipIdx.flatMap fun package =>
        packageSymbols entry.2 package.2 package.1).map Prod.fst := by
  simp only [packageNeedles, routineNeedles, packageSymbols, Package.routines, List.map_flatMap,
    List.map_cons, List.map_append, List.map_map, Function.comp_def, List.cons_append]

theorem needles_places_perm (catalog : Catalog) :
    (catalog.needles.map (·.target)).Perm (catalog.symbols.map Prod.fst) := by
  rw [needles, List.map_append, viewNeedles_places, packageNeedles_places]
  refine (List.flatMap_append_perm _ _ _).trans (List.Perm.of_eq ?_)
  simp only [symbols, fileSymbols, List.map_flatMap, List.map_append, List.map_map,
    Function.comp_def]

theorem nodup_targets (catalog : Catalog) : (catalog.needles.map (·.target)).Nodup :=
  catalog.needles_places_perm.nodup_iff.mpr catalog.nodup_places

/-- Among the needles there is one for a symbol and no other. -/
theorem needles_filter_target {catalog : Catalog} {place : Place} {text : String}
    (h : catalog.searchText? place = some text) :
    catalog.needles.filter (·.target = place) = [⟨place, text⟩] := by
  have hm : (⟨place, text⟩ : Needle) ∈ catalog.needles := mem_needles_iff.mpr h
  exact filter_key_eq_singleton catalog.nodup_targets hm

end CrossRef.Catalog
