import CrossRef.Extraction
import CrossRef.Proofs.Places

namespace CrossRef

/-- A file that has got more declarations. The old ones stay at their places, and the others are
fresh. -/
structure IndexedFile.Grows (fresh : Declaration → Prop) (file grown : IndexedFile) : Prop where
  id : grown.id = file.id
  path : grown.path = file.path
  kind : grown.kind = file.kind
  keeps : ∀ place decl, file.at? place = some decl → grown.at? place = some decl
  adds : ∀ place decl, grown.at? place = some decl → file.at? place = some decl ∨ fresh decl

namespace IndexedFile

theorem Grows.refl (fresh : Declaration → Prop) (file : IndexedFile) : file.Grows fresh file :=
  ⟨rfl, rfl, rfl, fun _ _ h => h, fun _ _ h => Or.inl h⟩

theorem Grows.trans {fresh : Declaration → Prop} {a b c : IndexedFile} (hab : a.Grows fresh b)
    (hbc : b.Grows fresh c) : a.Grows fresh c := by
  refine ⟨hbc.id.trans hab.id, hbc.path.trans hab.path, hbc.kind.trans hab.kind,
    fun place decl h => hbc.keeps place decl (hab.keeps place decl h), ?_⟩
  intro place decl h
  rcases hbc.adds place decl h with h | h
  · exact hab.adds place decl h
  · exact Or.inr h

theorem Grows.mono {p q : Declaration → Prop} {file grown : IndexedFile} (h : file.Grows p grown)
    (hpq : ∀ decl, p decl → q decl) : file.Grows q grown :=
  ⟨h.id, h.path, h.kind, h.keeps, fun place decl hd => (h.adds place decl hd).imp_right (hpq decl)⟩

theorem getElem?_concat_some {α : Type} {xs : List α} {x y : α} {i : Nat} :
    (xs ++ [x])[i]? = some y ↔ xs[i]? = some y ∨ (i = xs.length ∧ x = y) := by
  rcases Nat.lt_trichotomy i xs.length with h | h | h
  · simp [List.getElem?_append_left h, Nat.ne_of_lt h]
  · subst h
    simp
  · have hall : (xs ++ [x])[i]? = none := List.getElem?_eq_none (by simp; omega)
    have hold : xs[i]? = none := List.getElem?_eq_none (by omega)
    simp [hall, hold, Nat.ne_of_gt h]

theorem grows_addView (file : IndexedFile) (decl : Declaration) :
    file.Grows (· = decl) { file with views := file.views ++ [decl] } := by
  refine ⟨rfl, rfl, rfl, ?_, ?_⟩
  · intro place found h
    cases place with
    | view f i => exact getElem?_concat_some.mpr (Or.inl h)
    | package f i => exact h
    | routine f p kind i => exact h
  · intro place found h
    cases place with
    | view f i => exact (getElem?_concat_some.mp h).imp_right fun h => h.2.symm
    | package f i => exact Or.inl h
    | routine f p kind i => exact Or.inl h

theorem grows_addPackage (file : IndexedFile) (decl : Declaration) :
    file.Grows (· = decl) { file with packages := file.packages ++ [⟨decl, [], []⟩] } := by
  refine ⟨rfl, rfl, rfl, ?_, ?_⟩
  · intro place found h
    cases place with
    | view f i => exact h
    | package f i =>
      obtain ⟨p, hp, hd⟩ := Option.map_eq_some_iff.mp h
      exact Option.map_eq_some_iff.mpr ⟨p, getElem?_concat_some.mpr (Or.inl hp), hd⟩
    | routine f i kind j =>
      obtain ⟨p, hp, hd⟩ := Option.bind_eq_some_iff.mp h
      exact Option.bind_eq_some_iff.mpr ⟨p, getElem?_concat_some.mpr (Or.inl hp), hd⟩
  · intro place found h
    cases place with
    | view f i => exact Or.inl h
    | package f i =>
      obtain ⟨p, hp, hd⟩ := Option.map_eq_some_iff.mp h
      rcases getElem?_concat_some.mp hp with hp | ⟨_, rfl⟩
      · exact Or.inl (Option.map_eq_some_iff.mpr ⟨p, hp, hd⟩)
      · exact Or.inr hd.symm
    | routine f i kind j =>
      obtain ⟨p, hp, hd⟩ := Option.bind_eq_some_iff.mp h
      rcases getElem?_concat_some.mp hp with hp | ⟨_, rfl⟩
      · exact Or.inl (Option.bind_eq_some_iff.mpr ⟨p, hp, hd⟩)
      · cases kind <;> simp [Package.routines] at hd

theorem decl_addRoutine (package : Package) (routine : Declaration) :
    (package.addRoutine routine).decl = package.decl := by
  unfold Package.addRoutine
  split <;> rfl

theorem routines_addRoutine (package : Package) (routine : Declaration) (kind : Kind) :
    (package.addRoutine routine).routines kind = package.routines kind ∨
      (package.addRoutine routine).routines kind = package.routines kind ++ [routine] := by
  unfold Package.addRoutine
  split
  · cases kind <;> simp [Package.routines]
  · cases kind <;> simp [Package.routines]

theorem grows_addRoutine (file : IndexedFile) (decl : Declaration) :
    file.Grows (· = decl) { file with packages := Extraction.addRoutine file.packages decl } := by
  have hget (j : Nat) := getElem?_modify_eq_ite file.packages (file.packages.length - 1) j
    (·.addRoutine decl)
  refine ⟨rfl, rfl, rfl, ?_, ?_⟩
  · intro place found h
    cases place with
    | view f i => exact h
    | package f i =>
      obtain ⟨p, hp, hd⟩ := Option.map_eq_some_iff.mp h
      simp only [at?, Extraction.addRoutine, hget, hp]
      split
      · simp [decl_addRoutine, hd]
      · simp [hd]
    | routine f i kind j =>
      obtain ⟨p, hp, hd⟩ := Option.bind_eq_some_iff.mp h
      simp only [at?, Extraction.addRoutine, hget, hp]
      split
      · rcases routines_addRoutine p decl kind with hr | hr
        · simp [hr, hd]
        · simpa [hr] using getElem?_concat_some.mpr (Or.inl hd)
      · simp [hd]
  · intro place found h
    cases place with
    | view f i => exact Or.inl h
    | package f i =>
      simp only [at?, Extraction.addRoutine, hget] at h
      split at h
      · simp only [Option.map_map, Function.comp_def, decl_addRoutine] at h
        exact Or.inl h
      · exact Or.inl h
    | routine f i kind j =>
      simp only [at?, Extraction.addRoutine, hget] at h
      split at h
      · obtain ⟨grown, hg, hd⟩ := Option.bind_eq_some_iff.mp h
        obtain ⟨p, hp, rfl⟩ := Option.map_eq_some_iff.mp hg
        rcases routines_addRoutine p decl kind with hr | hr
        · rw [hr] at hd
          exact Or.inl (Option.bind_eq_some_iff.mpr ⟨p, hp, hd⟩)
        · rw [hr] at hd
          rcases getElem?_concat_some.mp hd with hd | ⟨_, rfl⟩
          · exact Or.inl (Option.bind_eq_some_iff.mpr ⟨p, hp, hd⟩)
          · exact Or.inr rfl
      · exact Or.inl h

end IndexedFile

end CrossRef
