import CrossRef.Catalog.Place

namespace CrossRef

/-- The declaration of a file at a place, whatever file the place names. -/
def IndexedFile.at? (file : IndexedFile) : Place → Option Declaration
  | .view _ index => file.views[index]?
  | .package _ index => (file.packages[index]?).map (·.decl)
  | .routine _ package kind index =>
    (file.packages[package]?).bind fun owner => (owner.routines kind)[index]?

def Package.changeRoutine (package : Package) (kind : Kind) (index : Nat)
    (change : Declaration → Declaration) : Package :=
  match kind with
  | .function => { package with functions := package.functions.modify index change }
  | .procedure => { package with procedures := package.procedures.modify index change }
  | .view | .package => package

/-- Changes the declaration of a file at a place, if there is one. -/
def IndexedFile.changeAt (file : IndexedFile) (change : Declaration → Declaration) :
    Place → IndexedFile
  | .view _ index => { file with views := file.views.modify index change }
  | .package _ index =>
    { file with packages := file.packages.modify index fun p => { p with decl := change p.decl } }
  | .routine _ package kind index =>
    { file with packages := file.packages.modify package (·.changeRoutine kind index change) }

namespace Catalog

theorem get?_eq_at? (catalog : Catalog) (place : Place) :
    catalog.get? place = (catalog.files[place.file]?).bind (·.at? place) := by
  cases place with
  | view file index => rfl
  | package file index =>
    simp only [get?, Place.file, IndexedFile.at?, Option.bind_eq_bind, Option.map_eq_bind]
    rfl
  | routine file package kind index => rfl

theorem get?_eq_some_iff {catalog : Catalog} {place : Place} {decl : Declaration} :
    catalog.get? place = some decl ↔
      ∃ file, catalog.files[place.file]? = some file ∧ file.at? place = some decl := by
  rw [get?_eq_at?, Option.bind_eq_some_iff]

/-- A routine stands in a package. -/
theorem exists_owner {catalog : Catalog} {f p : Nat} {kind : Kind} {i : Nat} {decl : Declaration}
    (h : catalog.get? (.routine f p kind i) = some decl) :
    ∃ owner, catalog.ownerOf? (.routine f p kind i) = some owner ∧
      catalog.get? (.package f p) = some owner.decl ∧ (owner.routines kind)[i]? = some decl := by
  obtain ⟨file, hf, h⟩ := Option.bind_eq_some_iff.mp h
  obtain ⟨owner, hp, h⟩ := Option.bind_eq_some_iff.mp h
  exact ⟨owner, by simp [ownerOf?, hf, hp], by simp [get?, hf, hp], h⟩

theorem get?_addFile (catalog : Catalog) (path : RawText) (kind : Family) (place : Place) :
    (catalog.addFile path kind).get? place = catalog.get? place := by
  simp only [get?_eq_at?, addFile]
  rcases Nat.lt_trichotomy place.file catalog.files.length with h | h | h
  · rw [List.getElem?_append_left h]
  · rw [h, List.getElem?_concat_length, List.getElem?_eq_none (Nat.le_refl _)]
    cases place <;> rfl
  · rw [List.getElem?_eq_none (by simp; omega), List.getElem?_eq_none (by omega)]

theorem modify_eq_changeAt (catalog : Catalog) (target : Place)
    (change : Declaration → Declaration) :
    catalog.modify target change =
      { catalog with files := catalog.files.modify target.file (·.changeAt change target) } := by
  have unchanged (n p : Nat) : catalog.files.modify n
      (fun file => { file with packages := file.packages.modify p fun owner => owner }) =
      catalog.files := by
    have inner (file : IndexedFile) :
        { file with packages := file.packages.modify p fun owner => owner } = file :=
      congrArg (IndexedFile.mk file.id file.path file.kind file.views) (List.modify_id _ _)
    simp only [inner]
    exact List.modify_id _ _
  cases target with
  | view file index => rfl
  | package file index => rfl
  | routine file package kind index =>
    cases kind with
    | function => rfl
    | procedure => rfl
    | view => exact congrArg (Catalog.mk · catalog.last) (unchanged file package).symm
    | package => exact congrArg (Catalog.mk · catalog.last) (unchanged file package).symm

end Catalog

theorem getElem?_modify_eq_ite {α : Type} (xs : List α) (i j : Nat) (change : α → α) :
    (xs.modify i change)[j]? = if j = i then (xs[j]?).map change else xs[j]? := by
  by_cases h : j = i
  · subst h
    simp
  · simp [h, Ne.symm h]

theorem Package.routines_with_decl (package : Package) (decl : Declaration) (kind : Kind) :
    ({ package with decl } : Package).routines kind = package.routines kind := by
  cases kind <;> rfl

theorem Package.decl_changeRoutine (package : Package) (kind : Kind) (i : Nat)
    (change : Declaration → Declaration) :
    (package.changeRoutine kind i change).decl = package.decl := by
  cases kind <;> rfl

theorem Package.getElem?_routines_changeRoutine (package : Package)
    (change : Declaration → Declaration) (target kind : Kind) (i j : Nat) :
    ((package.changeRoutine target i change).routines kind)[j]? =
      if kind = target ∧ j = i then ((package.routines kind)[j]?).map change
      else (package.routines kind)[j]? := by
  cases target <;> cases kind <;> simp [changeRoutine, routines, getElem?_modify_eq_ite]

theorem IndexedFile.at?_changeAt (file : IndexedFile) (change : Declaration → Declaration)
    {target place : Place} (same : place.file = target.file) :
    (file.changeAt change target).at? place =
      if place = target then (file.at? place).map change else file.at? place := by
  cases target with
  | view f i =>
    cases place with
    | view g j =>
      cases same
      simp [at?, changeAt, getElem?_modify_eq_ite]
    | package g j => rfl
    | routine g p kind j => rfl
  | package f i =>
    cases place with
    | view g j => rfl
    | package g j =>
      cases same
      by_cases h : j = i
      · simp [at?, changeAt, h, Function.comp_def]
      · simp [at?, changeAt, getElem?_modify_eq_ite, h]
    | routine g p kind j =>
      by_cases h : p = i
      · subst h
        cases hp : file.packages[p]? with
        | none => simp [at?, changeAt, hp]
        | some owner => simp [at?, changeAt, hp, Package.routines_with_decl]
      · simp [at?, changeAt, getElem?_modify_eq_ite, h]
  | routine f q target i =>
    cases place with
    | view g j => rfl
    | package g j =>
      by_cases h : j = q
      · simp [at?, changeAt, h, Function.comp_def, Package.decl_changeRoutine]
      · simp [at?, changeAt, getElem?_modify_eq_ite, h]
    | routine g p kind j =>
      cases same
      by_cases h : p = q
      · subst h
        cases hp : file.packages[p]? with
        | none => simp [at?, changeAt, hp]
        | some owner =>
          simp [at?, changeAt, hp, Package.getElem?_routines_changeRoutine]
      · simp [at?, changeAt, getElem?_modify_eq_ite, h]

namespace Catalog

/-- A change at a place is seen at this place and nowhere else. -/
theorem get?_modify (catalog : Catalog) (target place : Place)
    (change : Declaration → Declaration) :
    (catalog.modify target change).get? place =
      if place = target then (catalog.get? place).map change else catalog.get? place := by
  rw [modify_eq_changeAt]
  simp only [get?_eq_at?, getElem?_modify_eq_ite]
  by_cases same : place.file = target.file
  · cases hf : catalog.files[place.file]? with
    | none => simp
    | some file => simpa [same] using file.at?_changeAt change same
  · have hne : place ≠ target := fun h => same (congrArg Place.file h)
    simp [same, hne]

end Catalog

end CrossRef
