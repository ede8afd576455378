import CrossRef.Extraction
import CrossRef.Needle
import CrossRef.Proofs.Places

namespace CrossRef

def Package.mapDecls (f : Declaration → Declaration) (package : Package) : Package :=
  ⟨f package.decl, package.functions.map f, package.procedures.map f⟩

def IndexedFile.mapDecls (f : Declaration → Declaration) (file : IndexedFile) : IndexedFile :=
  { file with views := file.views.map f, packages := file.packages.map (Package.mapDecls f) }

/-- Changes every declaration of a catalog. What is changed may hang on the path of the file in
which the declaration stands. -/
def Catalog.mapDecls (f : RawText → Declaration → Declaration) (catalog : Catalog) : Catalog :=
  { catalog with files := catalog.files.map fun file => file.mapDecls (f file.path) }

theorem map_modify_comm {α β : Type} (xs : List α) (i : Nat) {f : α → β} {change : α → α}
    {change' : β → β} (h : ∀ x, change' (f x) = f (change x)) :
    (xs.map f).modify i change' = (xs.modify i change).map f := by
  apply List.ext_getElem?
  intro j
  simp only [List.getElem?_map, getElem?_modify_eq_ite]
  by_cases hj : j = i
  · simp [hj, Function.comp_def, h]
  · simp [hj]

namespace Package

theorem routines_mapDecls (f : Declaration → Declaration) (package : Package) (kind : Kind) :
    (package.mapDecls f).routines kind = (package.routines kind).map f := by
  cases kind <;> rfl

theorem mapDecls_addRoutine {f : Declaration → Declaration} (package : Package)
    {routine : Declaration} (hkind : (f routine).kind = routine.kind) :
    (package.mapDecls f).addRoutine (f routine) = (package.addRoutine routine).mapDecls f := by
  unfold addRoutine
  rw [hkind]
  cases routine.kind <;> simp [mapDecls]

theorem mapDecls_changeRoutine (package : Package) (kind : Kind) (i : Nat)
    {f change change' : Declaration → Declaration}
    (h : ∀ decl, change' (f decl) = f (change decl)) :
    (package.mapDecls f).changeRoutine kind i change' =
      (package.changeRoutine kind i change).mapDecls f := by
  cases kind <;> simp [changeRoutine, mapDecls, map_modify_comm _ _ h]

end Package

namespace IndexedFile

theorem at?_mapDecls (f : Declaration → Declaration) (file : IndexedFile) (place : Place) :
    (file.mapDecls f).at? place = (file.at? place).map f := by
  cases place with
  | view _ i => simp [at?, mapDecls]
  | package _ i =>
    simp only [at?, mapDecls, List.getElem?_map, Option.map_map]
    rfl
  | routine _ p kind i =>
    cases hp : file.packages[p]? with
    | none => simp [at?, mapDecls, hp]
    | some owner => simp [at?, mapDecls, hp, Package.routines_mapDecls]

theorem mapDecls_changeAt (file : IndexedFile) (place : Place)
    {f change change' : Declaration → Declaration}
    (h : ∀ decl, change' (f decl) = f (change decl)) :
    (file.mapDecls f).changeAt change' place = (file.changeAt change place).mapDecls f := by
  cases place with
  | view _ i => simp [changeAt, mapDecls, map_modify_comm _ _ h]
  | package _ i =>
    refine congrArg (IndexedFile.mk file.id file.path file.kind (file.views.map f)) ?_
    apply map_modify_comm
    intro package
    simp [Package.mapDecls, h]
  | routine _ p kind i =>
    refine congrArg (IndexedFile.mk file.id file.path file.kind (file.views.map f)) ?_
    apply map_modify_comm
    exact fun package => package.mapDecls_changeRoutine kind i h

end IndexedFile

namespace Catalog

variable {f : RawText → Declaration → Declaration}

theorem getElem?_mapDecls (catalog : Catalog) (i : Nat) :
    (catalog.mapDecls f).files[i]? =
      (catalog.files[i]?).map fun file => file.mapDecls (f file.path) := by
  simp [mapDecls]

theorem get?_mapDecls (catalog : Catalog) (place : Place) :
    (catalog.mapDecls f).get? place =
      (catalog.files[place.file]?).bind fun file => (file.at? place).map (f file.path) := by
  rw [get?_eq_at?, getElem?_mapDecls]
  cases catalog.files[place.file]? with
  | none => rfl
  | some file => exact file.at?_mapDecls (f file.path) place

/-- A catalog in which nothing is declared has nothing to be changed. -/
theorem mapDecls_of_undeclared {catalog : Catalog} (h : ∀ place, catalog.get? place = none) :
    catalog.mapDecls f = catalog := by
  have hfile : ∀ file ∈ catalog.files, file.mapDecls (f file.path) = file := by
    intro file hmem
    obtain ⟨i, hi⟩ := List.mem_iff_getElem?.mp hmem
    have hat (place : Place) (hplace : place.file = i) : file.at? place = none := by
      have hnone := h place
      rw [get?_eq_at?, hplace, hi] at hnone
      exact hnone
    have hviews : file.views = [] := by
      cases hv : file.views with
      | nil => rfl
      | cons view rest => simpa [IndexedFile.at?, hv] using hat (.view i 0) rfl
    have hpackages : file.packages = [] := by
      cases hp : file.packages with
      | nil => rfl
      | cons package rest => simpa [IndexedFile.at?, hp] using hat (.package i 0) rfl
    obtain ⟨id, path, kind, views, packages⟩ := file
    subst hviews hpackages
    rfl
  have hfiles := List.map_congr_left hfile
  rw [List.map_id'] at hfiles
  rw [mapDecls, hfiles]

theorem mapDecls_modify (catalog : Catalog) (target : Place)
    {change change' : Declaration → Declaration}
    (h : ∀ path decl, change' (f path decl) = f path (change decl)) :
    (catalog.mapDecls f).modify target change' = (catalog.modify target change).mapDecls f := by
  have hfile (file : IndexedFile) :
      (file.mapDecls (f file.path)).changeAt change' target =
        (file.changeAt change target).mapDecls (f (file.changeAt change target).path) := by
    have hpath : (file.changeAt change target).path = file.path := by cases target <;> rfl
    rw [hpath]
    exact file.mapDecls_changeAt target (h file.path)
  rw [modify_eq_changeAt, modify_eq_changeAt]
  exact congrArg (Catalog.mk · catalog.last) (map_modify_comm _ _ hfile)

/-- What is searched hangs on the names alone. -/
theorem needles_mapDecls (hname : ∀ path decl, (f path decl).name = decl.name) (catalog : Catalog) :
    (catalog.mapDecls f).needles = catalog.needles := by
  have hroutines (i p : Nat) (path : RawText) (package : Package) (kind : Kind) :
      routineNeedles i p (package.mapDecls (f path)) kind = routineNeedles i p package kind := by
    simp only [routineNeedles, Package.routines_mapDecls, List.zipIdx_map, List.map_map,
      Function.comp_def, Prod.map, Needle.ofRoutine, Needle.ofPackage, hname, id_eq]
    simp only [Package.mapDecls, hname]
  have hviews : (catalog.mapDecls f).viewNeedles = catalog.viewNeedles := by
    simp only [viewNeedles, mapDecls, List.zipIdx_map, List.flatMap_map, Prod.map, id_eq,
      IndexedFile.mapDecls, List.map_map, Function.comp_def, Needle.ofView, hname]
  have hpackages : (catalog.mapDecls f).packageNeedles = catalog.packageNeedles := by
    simp only [packageNeedles, mapDecls, List.zipIdx_map, List.flatMap_map, Prod.map, id_eq,
      IndexedFile.mapDecls, hroutines, Needle.ofPackage]
    simp only [Package.mapDecls, hname]
  rw [needles, needles, hviews, hpackages]

end Catalog

namespace Extraction

def State.mapDecls (f : Declaration → Declaration) (state : State) : State :=
  { state with file := state.file.mapDecls f }

/-- Headers on lines with other numbers and other doc blocks add declarations that differ from the
old ones in these alone. -/
theorem addHeader_mapDecls {docs docs' : List DocBlock} {window : UInt32} {index : Nat}
    {line line' : UInt32} {f : Declaration → Declaration} {g : DocBlock → DocBlock}
    (hnew : ∀ kind name doc,
      f ⟨kind, name, index, line, doc, 0, []⟩ = ⟨kind, name, index, line', doc.map g, 0, []⟩)
    (hchoose : ∀ kind name, Doc.choose? docs' window kind name line' =
      (Doc.choose? docs window kind name line).map g) (state : State) (header : Header) :
    addHeader docs' window index line' (state.mapDecls f) header =
      (addHeader docs window index line state header).mapDecls f := by
  obtain ⟨kind, name⟩ := header
  cases name with
  | none => rfl
  | some name =>
    have hroutine (kind : Kind) (packages : List Package) :
        addRoutine (packages.map (Package.mapDecls f))
            ⟨kind, name, index, line', (Doc.choose? docs window kind name line).map g, 0, []⟩ =
          (addRoutine packages
            ⟨kind, name, index, line, Doc.choose? docs window kind name line, 0, []⟩).map
              (Package.mapDecls f) := by
      rw [← hnew, addRoutine, List.length_map, addRoutine]
      exact map_modify_comm _ _ fun package => package.mapDecls_addRoutine (by rw [hnew])
    simp only [addHeader, hchoose, Option.isSome_map]
    cases kind with
    | view => simp [State.mapDecls, IndexedFile.mapDecls, hnew]
    | package => simp [State.mapDecls, IndexedFile.mapDecls, Package.mapDecls, hnew]
    | function =>
      by_cases hempty : state.file.packages.isEmpty = true
      · simp [State.mapDecls, IndexedFile.mapDecls, hempty]
      · simp [State.mapDecls, IndexedFile.mapDecls, hempty, hroutine]
    | procedure =>
      by_cases hempty : state.file.packages.isEmpty = true
      · simp [State.mapDecls, IndexedFile.mapDecls, hempty]
      · simp [State.mapDecls, IndexedFile.mapDecls, hempty, hroutine]

end Extraction

end CrossRef
