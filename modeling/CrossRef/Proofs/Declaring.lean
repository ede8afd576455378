import CrossRef.Proofs.FileGrowth
import CrossRef.Proofs.LineWalk
import CrossRef.Proofs.Outline

namespace CrossRef

namespace Extraction

/-- What a header on a line declares. -/
def DeclaredBy (docs : List DocBlock) (window : UInt32) (index : Nat) (line : UInt32)
    (header : Header) (decl : Declaration) : Prop :=
  ∃ name, header.name = some name ∧
    decl = ⟨header.kind, name, index, line, Doc.choose? docs window header.kind name line, 0, []⟩

theorem grows_addHeader (docs : List DocBlock) (window : UInt32) (index : Nat) (line : UInt32)
    (state : State) (header : Header) :
    state.file.Grows (DeclaredBy docs window index line header)
      (addHeader docs window index line state header).file := by
  obtain ⟨kind, name⟩ := header
  cases name with
  | none => exact .refl _ _
  | some name =>
    have made (decl : Declaration)
        (h : decl = ⟨kind, name, index, line, Doc.choose? docs window kind name line, 0, []⟩) :
        DeclaredBy docs window index line ⟨kind, some name⟩ decl := ⟨name, rfl, h⟩
    cases kind with
    | view => exact (state.file.grows_addView _).mono made
    | package => exact (state.file.grows_addPackage _).mono made
    | function =>
      simp only [addHeader]
      split
      · exact .refl _ _
      · exact (state.file.grows_addRoutine _).mono made
    | procedure =>
      simp only [addHeader]
      split
      · exact .refl _ _
      · exact (state.file.grows_addRoutine _).mono made

theorem grows_addReading (rules : DeclarationRules) (docs : List DocBlock) (index : Nat)
    (state : State) (reading : LineReading) (position : Nat) :
    state.file.Grows (fun decl => ∃ header ∈ reading.headers,
        DeclaredBy docs rules.window index (lineNumber position) header decl)
      (addReading rules docs index state reading position).file := by
  have fold (hs : List Header) (state : State) :
      state.file.Grows (fun decl => ∃ header ∈ hs,
          DeclaredBy docs rules.window index (lineNumber position) header decl)
        (hs.foldl (addHeader docs rules.window index (lineNumber position)) state).file := by
    induction hs generalizing state with
    | nil => exact .refl _ _
    | cons header rest ih =>
      have hfirst := grows_addHeader docs rules.window index (lineNumber position) state header
      refine (hfirst.mono ?_).trans ((ih _).mono ?_)
      · exact fun decl h => ⟨header, by simp, h⟩
      · rintro decl ⟨later, hl, h⟩
        exact ⟨later, by simp [hl], h⟩
  exact fold reading.headers { state with packageOpen := reading.packageOpen }

theorem grows_addLines (rules : DeclarationRules) (docs : List DocBlock) (index : Nat)
    (file : IndexedFile) (lines : List String) :
    file.Grows (fun decl => ∃ position reading header,
        (rules.headers.walk isPassedOver false lines)[position]? = some reading ∧
          header ∈ reading.headers ∧
            DeclaredBy docs rules.window index (lineNumber position) header decl)
      (addLines rules docs index file lines).file := by
  rw [addLines_eq_walk]
  have fold (entries : List (LineReading × Nat)) (state : State) :
      state.file.Grows (fun decl => ∃ entry ∈ entries, ∃ header ∈ entry.1.headers,
          DeclaredBy docs rules.window index (lineNumber entry.2) header decl)
        (entries.foldl (fun state entry => addReading rules docs index state entry.1 entry.2)
          state).file := by
    induction entries generalizing state with
    | nil => exact .refl _ _
    | cons entry rest ih =>
      have hfirst := grows_addReading rules docs index state entry.1 entry.2
      refine (hfirst.mono ?_).trans ((ih _).mono ?_)
      · exact fun decl h => ⟨entry, by simp, h⟩
      · rintro decl ⟨later, hl, h⟩
        exact ⟨later, by simp [hl], h⟩
  refine (fold _ ⟨file, .zero, false⟩).mono ?_
  rintro decl ⟨⟨reading, position⟩, hm, header, hh, hd⟩
  exact ⟨position, reading, header, List.mem_zipIdx_iff_getElem?.mp hm, hh, hd⟩

end Extraction

/-- A catalog whose files have got more declarations, each fresh for the position of its file. -/
structure Catalog.Grows (fresh : Nat → Declaration → Prop) (catalog grown : Catalog) : Prop where
  last : grown.last = catalog.last
  length : grown.files.length = catalog.files.length
  files : ∀ (i : Nat) file, catalog.files[i]? = some file →
    ∃ later, grown.files[i]? = some later ∧ file.Grows (fresh i) later

namespace Catalog

theorem Grows.refl (fresh : Nat → Declaration → Prop) (catalog : Catalog) :
    catalog.Grows fresh catalog :=
  ⟨rfl, rfl, fun _ file h => ⟨file, h, .refl _ file⟩⟩

theorem Grows.trans {fresh : Nat → Declaration → Prop} {a b c : Catalog} (hab : a.Grows fresh b)
    (hbc : b.Grows fresh c) : a.Grows fresh c := by
  refine ⟨hbc.last.trans hab.last, hbc.length.trans hab.length, ?_⟩
  intro i file h
  obtain ⟨middle, hm, hfirst⟩ := hab.files i file h
  obtain ⟨later, hl, hsecond⟩ := hbc.files i middle hm
  exact ⟨later, hl, hfirst.trans hsecond⟩

theorem Grows.mono {p q : Nat → Declaration → Prop} {catalog grown : Catalog}
    (h : catalog.Grows p grown) (hpq : ∀ i decl, p i decl → q i decl) : catalog.Grows q grown := by
  refine ⟨h.last, h.length, ?_⟩
  intro i file hf
  obtain ⟨later, hl, hg⟩ := h.files i file hf
  exact ⟨later, hl, hg.mono (hpq i)⟩

theorem Grows.file_of_later {fresh : Nat → Declaration → Prop} {catalog grown : Catalog}
    (h : catalog.Grows fresh grown) {i : Nat} {later : IndexedFile}
    (hl : grown.files[i]? = some later) :
    ∃ file, catalog.files[i]? = some file ∧ file.Grows (fresh i) later := by
  have hi : i < catalog.files.length := by
    have := (List.getElem?_eq_some_iff.mp hl).1
    have := h.length
    omega
  obtain ⟨same, hs, hg⟩ := h.files i catalog.files[i] (by simp [hi])
  cases Option.some.inj (hs.symm.trans hl)
  exact ⟨catalog.files[i], by simp [hi], hg⟩

theorem Grows.map_files {fresh : Nat → Declaration → Prop} {catalog grown : Catalog}
    (h : catalog.Grows fresh grown) {β : Type} {view : IndexedFile → β}
    (hview : ∀ (i : Nat) file later, file.Grows (fresh i) later → view later = view file) :
    grown.files.map view = catalog.files.map view := by
  apply List.ext_getElem?
  intro i
  simp only [List.getElem?_map]
  by_cases hi : i < catalog.files.length
  · obtain ⟨later, hl, hg⟩ := h.files i catalog.files[i] (by simp [hi])
    simp [hl, hi, hview i _ later hg]
  · have hlength := h.length
    rw [List.getElem?_eq_none (by omega), List.getElem?_eq_none (by omega)]

theorem Grows.labels {fresh : Nat → Declaration → Prop} {catalog grown : Catalog}
    (h : catalog.Grows fresh grown) : grown.labels = catalog.labels :=
  h.map_files fun _ file later hg => by rw [hg.id, hg.path]

theorem Grows.families {fresh : Nat → Declaration → Prop} {catalog grown : Catalog}
    (h : catalog.Grows fresh grown) : grown.families = catalog.families :=
  h.map_files fun _ file later hg => by rw [hg.kind, hg.path]

theorem Grows.keeps {fresh : Nat → Declaration → Prop} {catalog grown : Catalog}
    (h : catalog.Grows fresh grown) {place : Place} {decl : Declaration}
    (hd : catalog.get? place = some decl) : grown.get? place = some decl := by
  obtain ⟨file, hf, hat⟩ := get?_eq_some_iff.mp hd
  obtain ⟨later, hl, hg⟩ := h.files place.file file hf
  exact get?_eq_some_iff.mpr ⟨later, hl, hg.keeps place decl hat⟩

theorem Grows.adds {fresh : Nat → Declaration → Prop} {catalog grown : Catalog}
    (h : catalog.Grows fresh grown) {place : Place} {decl : Declaration}
    (hd : grown.get? place = some decl) :
    catalog.get? place = some decl ∨ fresh place.file decl := by
  obtain ⟨later, hl, hat⟩ := get?_eq_some_iff.mp hd
  obtain ⟨file, hf, hg⟩ := h.file_of_later hl
  rcases hg.adds place decl hat with hat | hfresh
  · exact Or.inl (get?_eq_some_iff.mpr ⟨file, hf, hat⟩)
  · exact Or.inr hfresh

end Catalog

/-- What the lines of the file at a position declare. -/
def DeclarationRules.Declares (rules : DeclarationRules) (docs : List DocBlock)
    (lines : List String) (index : Nat) (decl : Declaration) : Prop :=
  ∃ position reading header,
    (rules.headers.walk Extraction.isPassedOver false lines)[position]? = some reading ∧
      header ∈ reading.headers ∧
        Extraction.DeclaredBy docs rules.window index (lineNumber position) header decl

/-- Extraction adds what the lines declare to the one file. -/
theorem DeclarationRules.grows_extract (rules : DeclarationRules) (catalog : Catalog) (index : Nat)
    (lines : List String) (docs : List DocBlock) :
    catalog.Grows (fun i decl => i = index ∧ rules.Declares docs lines index decl)
      (rules.extract catalog index lines docs).1 := by
  unfold extract
  split
  next => exact .refl _ _
  next file hf =>
    split
    next => exact .refl _ _
    next =>
      refine ⟨rfl, by simp, ?_⟩
      intro i old hold
      by_cases hi : i = index
      · subst hi
        cases Option.some.inj (hold.symm.trans hf)
        have hlt := (List.getElem?_eq_some_iff.mp hf).1
        refine ⟨(Extraction.addLines rules docs i file lines).file, by simp [hlt], ?_⟩
        exact (Extraction.grows_addLines rules docs i file lines).mono fun decl h => ⟨rfl, h⟩
      · exact ⟨old, by simp [List.getElem?_set_ne (Ne.symm hi), hold], .refl _ _⟩

end CrossRef
