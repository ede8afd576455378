import CrossRef.Proofs.SavedRun
import CrossRef.Proofs.SharedUses
import CrossRef.Proofs.Tallies

namespace CrossRef

theorem Package.routines_addRoutine_eq_ite {routine : Declaration}
    (h : routine.kind.isRoutine = true) (package : Package) (kind : Kind) :
    (package.addRoutine routine).routines kind =
      if kind = routine.kind then package.routines kind ++ [routine]
      else package.routines kind := by
  unfold addRoutine
  cases hkind : routine.kind with
  | view => simp [hkind, Kind.isRoutine] at h
  | package => simp [hkind, Kind.isRoutine] at h
  | function => cases kind <;> simp [routines]
  | procedure => cases kind <;> simp [routines]

namespace IndexedFile

/-- Every declaration of the file at an index is of the kind that its place is for. -/
def KindsFit (index : Nat) (file : IndexedFile) : Prop :=
  ∀ place decl, place.file = index → file.at? place = some decl → decl.kind = place.kind

section

variable {index : Nat} {file : IndexedFile} (h : file.KindsFit index) {decl : Declaration}

include h

theorem KindsFit.addView (hkind : decl.kind = .view) :
    ({ file with views := file.views ++ [decl] } : IndexedFile).KindsFit index := by
  intro place found hfile hfound
  cases place with
  | view f i =>
    rcases getElem?_concat_some.mp hfound with hold | ⟨_, rfl⟩
    · exact h (.view f i) found hfile hold
    · exact hkind
  | package f i => exact h (.package f i) found hfile hfound
  | routine f p kind i => exact h (.routine f p kind i) found hfile hfound

theorem KindsFit.addPackage (hkind : decl.kind = .package) :
    ({ file with packages := file.packages ++ [⟨decl, [], []⟩] } : IndexedFile).KindsFit index := by
  intro place found hfile hfound
  cases place with
  | view f i => exact h (.view f i) found hfile hfound
  | package f i =>
    obtain ⟨package, hpackage, rfl⟩ := Option.map_eq_some_iff.mp hfound
    rcases getElem?_concat_some.mp hpackage with hold | ⟨_, rfl⟩
    · exact h (.package f i) _ hfile (Option.map_eq_some_iff.mpr ⟨package, hold, rfl⟩)
    · exact hkind
  | routine f p kind i =>
    obtain ⟨package, hpackage, hroutine⟩ := Option.bind_eq_some_iff.mp hfound
    rcases getElem?_concat_some.mp hpackage with hold | ⟨_, rfl⟩
    · exact h (.routine f p kind i) _ hfile (Option.bind_eq_some_iff.mpr ⟨package, hold, hroutine⟩)
    · cases kind <;> simp [Package.routines] at hroutine

theorem KindsFit.addRoutine (hkind : decl.kind.isRoutine = true) :
    ({ file with packages := Extraction.addRoutine file.packages decl } :
      IndexedFile).KindsFit index := by
  have hget (j : Nat) := getElem?_modify_eq_ite file.packages (file.packages.length - 1) j
    (·.addRoutine decl)
  intro place found hfile hfound
  cases place with
  | view f i => exact h (.view f i) found hfile hfound
  | package f i =>
    simp only [at?, Extraction.addRoutine, hget] at hfound
    refine h (.package f i) found hfile ?_
    split at hfound
    · simpa [at?, Function.comp_def, decl_addRoutine] using hfound
    · exact hfound
  | routine f p kind i =>
    simp only [at?, Extraction.addRoutine, hget] at hfound
    split at hfound
    · obtain ⟨_, hgrown, hroutine⟩ := Option.bind_eq_some_iff.mp hfound
      obtain ⟨package, hpackage, rfl⟩ := Option.map_eq_some_iff.mp hgrown
      have hold (hd : (package.routines kind)[i]? = some found) : found.kind = kind :=
        h (.routine f p kind i) found hfile (Option.bind_eq_some_iff.mpr ⟨package, hpackage, hd⟩)
      rw [package.routines_addRoutine_eq_ite hkind] at hroutine
      split at hroutine
      next hsame =>
        rcases getElem?_concat_some.mp hroutine with hd | ⟨_, rfl⟩
        · exact hold hd
        · exact hsame.symm
      next => exact hold hroutine
    · exact h (.routine f p kind i) found hfile hfound

theorem KindsFit.declare (decl : Declaration) : (file.declare decl).KindsFit index := by
  unfold IndexedFile.declare
  split
  next hkind => exact h.addView hkind
  next hkind => exact h.addPackage hkind
  next hkind => exact h.addRoutine (by rw [hkind]; rfl)
  next hkind => exact h.addRoutine (by rw [hkind]; rfl)

end

end IndexedFile

namespace Extraction

/-- A header adds its declaration to the file or nothing. -/
theorem file_addHeader (docs : List DocBlock) (window : UInt32) (index : Nat) (line : UInt32)
    (state : State) (header : Header) :
    (addHeader docs window index line state header).file = state.file ∨
      ∃ decl, (addHeader docs window index line state header).file = state.file.declare decl := by
  obtain ⟨kind, name⟩ := header
  cases name with
  | none => exact Or.inl rfl
  | some name =>
    by_cases hroutine : kind.isRoutine = true → state.file.packages ≠ []
    · exact Or.inr ⟨_, by rw [addHeader_named hroutine]⟩
    · simp only [Classical.not_imp, not_not] at hroutine
      obtain ⟨hkind, hnone⟩ := hroutine
      left
      cases kind <;> simp [addHeader, hnone, Kind.isRoutine] at hkind ⊢

theorem kindsFit_addLines {index : Nat} {file : IndexedFile} (h : file.KindsFit index)
    (rules : DeclarationRules) (docs : List DocBlock) (lines : List String) :
    (addLines rules docs index file lines).file.KindsFit index := by
  have hheader (state : State) (line : UInt32) (header : Header)
      (hstate : state.file.KindsFit index) :
      (addHeader docs rules.window index line state header).file.KindsFit index := by
    rcases file_addHeader docs rules.window index line state header with hsame | ⟨decl, hmore⟩
    · rw [hsame]
      exact hstate
    · rw [hmore]
      exact hstate.declare decl
  refine List.foldlRecOn (motive := fun state : State => state.file.KindsFit index) _ _ h ?_
  rintro state hstate ⟨line, position⟩ _
  simp only [addLine]
  split
  · exact hstate
  · exact List.foldlRecOn (motive := fun state : State => state.file.KindsFit index) _ _ hstate
      fun later hlater header _ => hheader later _ header hlater

end Extraction

namespace Catalog

/-- Every declaration is of the kind that its place is for. -/
def KindsFit (catalog : Catalog) : Prop :=
  ∀ place decl, catalog.get? place = some decl → decl.kind = place.kind

theorem KindsFit.recordEach {catalog : Catalog} (h : catalog.KindsFit) (uses : List UseRecord) :
    (catalog.recordEach uses).KindsFit := by
  intro place found hfound
  obtain ⟨decl, id, hd, rfl⟩ := exists_of_get?_recordEach hfound
  exact h place decl hd

theorem KindsFit.extract {catalog : Catalog} (h : catalog.KindsFit) (rules : DeclarationRules)
    (index : Nat) (lines : List String) (docs : List DocBlock) :
    (rules.extract catalog index lines docs).1.KindsFit := by
  unfold DeclarationRules.extract
  split
  next => exact h
  next file hfile =>
    split
    next => exact h
    next =>
      have hfits : file.KindsFit index := by
        rintro place decl rfl hd
        exact h place decl (get?_eq_some_iff.mpr ⟨file, hfile, hd⟩)
      intro place decl hd
      obtain ⟨later, hlater, hd⟩ := get?_eq_some_iff.mp hd
      rw [List.getElem?_set] at hlater
      split at hlater
      next hsame =>
        split at hlater
        · cases hlater
          exact Extraction.kindsFit_addLines hfits rules docs lines place decl hsame.symm hd
        · cases hlater
      next => exact h place decl (get?_eq_some_iff.mpr ⟨later, hlater, hd⟩)

theorem Step.kindsFit {a b : Catalog} {n : Nat} (h : Step a n b) (ha : a.KindsFit) :
    b.KindsFit := by
  cases h with
  | addFile path kind =>
    intro place decl hd
    rw [get?_addFile] at hd
    exact ha place decl hd
  | extract rules index lines docs => exact ha.extract rules index lines docs
  | addUse target path site => exact ha.recordEach [⟨target, path, site⟩]
  | resolve order headers source =>
    rw [resolveIn_fst]
    exact ha.recordEach _

theorem Run.kindsFit {a b : Catalog} {n : Nat} (h : Run a n b) (ha : a.KindsFit) :
    b.KindsFit := by
  induction h with
  | done => exact ha
  | next _ step ih => exact step.kindsFit ih

theorem kindsFit_empty : empty.KindsFit := by
  intro place decl hd
  simp [get?_eq_at?, empty] at hd

theorem namesOwnFiles_empty : empty.NamesOwnFiles := by
  intro place decl hd
  simp [get?_eq_at?, empty] at hd

end Catalog

end CrossRef
