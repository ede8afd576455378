import CrossRef.Proofs.MappedDeclarations

namespace CrossRef

/-- A declaration without what uses add to it. -/
def Declaration.outline (decl : Declaration) : Declaration :=
  { decl with id := Identifier.none, uses := [] }

def Package.outline (package : Package) : Package :=
  ⟨package.decl.outline, package.functions.map Declaration.outline,
    package.procedures.map Declaration.outline⟩

def IndexedFile.outline (file : IndexedFile) : IndexedFile :=
  { file with
    views := file.views.map Declaration.outline
    packages := file.packages.map Package.outline }

/-- All that is known of the files before any use is recorded. -/
def Catalog.outline (catalog : Catalog) : List IndexedFile :=
  catalog.files.map IndexedFile.outline

theorem map_modify_of_same {α β : Type} (xs : List α) (i : Nat) (view : α → β) {change : α → α}
    (same : ∀ x, view (change x) = view x) : (xs.modify i change).map view = xs.map view := by
  apply List.ext_getElem?
  intro j
  simp only [List.getElem?_map, getElem?_modify_eq_ite]
  by_cases h : j = i
  · simp [h, Function.comp_def, same]
  · simp [h]

theorem Package.outline_changeRoutine (package : Package) (kind : Kind) (index : Nat)
    {change : Declaration → Declaration} (same : ∀ decl, (change decl).outline = decl.outline) :
    (package.changeRoutine kind index change).outline = package.outline := by
  cases kind with
  | view => rfl
  | package => rfl
  | function => simp [changeRoutine, outline, map_modify_of_same _ _ _ same]
  | procedure => simp [changeRoutine, outline, map_modify_of_same _ _ _ same]

theorem IndexedFile.outline_changeAt (file : IndexedFile) (target : Place)
    {change : Declaration → Declaration} (same : ∀ decl, (change decl).outline = decl.outline) :
    (file.changeAt change target).outline = file.outline := by
  cases target with
  | view f i => simp [changeAt, outline, map_modify_of_same _ _ _ same]
  | package f i =>
    have inner (p : Package) :
        ({ p with decl := change p.decl } : Package).outline = p.outline := by
      simp [Package.outline, same]
    simp [changeAt, outline, map_modify_of_same _ _ _ inner]
  | routine f p kind i =>
    have inner (p : Package) := p.outline_changeRoutine kind i same
    simp [changeAt, outline, map_modify_of_same _ _ _ inner]

namespace Catalog

theorem outline_modify (catalog : Catalog) (target : Place) {change : Declaration → Declaration}
    (same : ∀ decl, (change decl).outline = decl.outline) :
    (catalog.modify target change).outline = catalog.outline := by
  rw [modify_eq_changeAt]
  exact map_modify_of_same _ _ _ fun file => file.outline_changeAt target same

/-- What is searched hangs on the outline alone. -/
theorem needles_eq_of_outline {a b : Catalog} (h : a.outline = b.outline) :
    a.needles = b.needles := by
  have houtline (catalog : Catalog) : needles ⟨catalog.outline, 0⟩ = catalog.needles :=
    catalog.needles_mapDecls (f := fun _ => Declaration.outline) fun _ _ => rfl
  rw [← houtline a, h, houtline b]

/-- The numbers and the paths of the files. -/
def labels (catalog : Catalog) : List (Identifier × RawText) :=
  catalog.files.map fun file => (file.id, file.path)

/-- The families and the paths of the files. -/
def families (catalog : Catalog) : List (Family × RawText) :=
  catalog.files.map fun file => (file.kind, file.path)

theorem map_files_eq_of_outline {β : Type} {view : IndexedFile → β}
    (hview : ∀ file, view file.outline = view file) {a b : Catalog} (h : a.outline = b.outline) :
    a.files.map view = b.files.map view := by
  have hmap (catalog : Catalog) : catalog.outline.map view = catalog.files.map view := by
    rw [outline, List.map_map]
    exact List.map_congr_left fun file _ => hview file
  rw [← hmap a, h, hmap b]

theorem labels_eq_of_outline {a b : Catalog} (h : a.outline = b.outline) : a.labels = b.labels :=
  map_files_eq_of_outline (fun _ => rfl) h

theorem families_eq_of_outline {a b : Catalog} (h : a.outline = b.outline) :
    a.families = b.families :=
  map_files_eq_of_outline (fun _ => rfl) h

theorem ids_of_labels {a b : Catalog} (h : a.labels = b.labels) :
    a.files.map (·.id) = b.files.map (·.id) := by
  have hids := congrArg (List.map Prod.fst) h
  simpa only [labels, List.map_map, Function.comp_def] using hids

theorem file_of_labels {a b : Catalog} (h : a.labels = b.labels) {i : Nat} {file : IndexedFile}
    (hf : a.files[i]? = some file) :
    ∃ same, b.files[i]? = some same ∧ same.id = file.id ∧ same.path = file.path := by
  have hi : b.labels[i]? = some (file.id, file.path) := by
    rw [← h, labels, List.getElem?_map, hf]
    rfl
  rw [labels, List.getElem?_map] at hi
  obtain ⟨same, hs, hlabel⟩ := Option.map_eq_some_iff.mp hi
  obtain ⟨hid, hpath⟩ := Prod.mk.inj hlabel
  exact ⟨same, hs, hid, hpath⟩

end Catalog

end CrossRef
