import CrossRef.Proofs.IndexRun
import CrossRef.Proofs.PlaceList

namespace CrossRef

def Package.declarations (package : Package) : List Declaration :=
  package.decl :: package.functions ++ package.procedures

def IndexedFile.declarations (file : IndexedFile) : List Declaration :=
  file.views ++ file.packages.flatMap Package.declarations

def Catalog.declarations (catalog : Catalog) : List Declaration :=
  catalog.files.flatMap IndexedFile.declarations

theorem flatMap_zipIdx_fst {α β : Type} (xs : List α) (n : Nat) (f : α → List β) :
    ((xs.zipIdx n).flatMap fun entry => f entry.1) = xs.flatMap f := by
  have hfst := List.zipIdx_map_fst n xs
  conv_rhs => rw [← hfst, List.flatMap_map]

theorem Catalog.symbols_declarations (catalog : Catalog) :
    catalog.symbols.map (·.2) = catalog.declarations := by
  have hroutines (ds : List Declaration) (place : Nat → Place) :
      (ds.zipIdx.map fun entry => (place entry.2, entry.1)).map Prod.snd = ds := by
    rw [List.map_map]
    exact List.zipIdx_map_fst 0 ds
  have hpackage (f p : Nat) (package : Package) :
      (packageSymbols f p package).map Prod.snd = package.declarations := by
    simp only [packageSymbols, List.map_append, List.map_cons, hroutines, Package.declarations]
  have hfile (f : Nat) (file : IndexedFile) :
      (fileSymbols f file).map Prod.snd = file.declarations := by
    simp only [fileSymbols, List.map_append, List.map_flatMap, hroutines, hpackage,
      IndexedFile.declarations]
    rw [flatMap_zipIdx_fst]
  simp only [symbols, List.map_flatMap, hfile, declarations]
  exact flatMap_zipIdx_fst catalog.files 0 IndexedFile.declarations

namespace Tally

/-- The counts of a list of declarations. -/
def ofDeclarations (decls : List Declaration) : Tally :=
  { views := decls.countP (·.kind = .view)
    packages := decls.countP (·.kind = .package)
    functions := decls.countP (·.kind = .function)
    procedures := decls.countP (·.kind = .procedure)
    documented := decls.countP (·.doc.isSome) }

theorem add_assoc (a b c : Tally) : (a.add b).add c = a.add (b.add c) := by
  simp only [add, Nat.add_assoc]

theorem add_comm (a b : Tally) : a.add b = b.add a := by
  simp only [add, Nat.add_comm]

theorem zero_add (a : Tally) : zero.add a = a := by
  simp only [add, zero, Nat.zero_add]

theorem ofDeclarations_append (first later : List Declaration) :
    ofDeclarations (first ++ later) = (ofDeclarations first).add (ofDeclarations later) := by
  simp only [ofDeclarations, add, List.countP_append]

theorem ofDeclarations_perm {a b : List Declaration} (h : a.Perm b) :
    ofDeclarations a = ofDeclarations b := by
  simp only [ofDeclarations, h.countP_eq]

end Tally

theorem Package.declarations_addRoutine (package : Package) (routine : Declaration) :
    (package.addRoutine routine).declarations.Perm (routine :: package.declarations) := by
  have hfunction : (package.decl :: (package.functions ++ [routine]) ++ package.procedures).Perm
      (routine :: package.declarations) := by
    have hmiddle : package.decl :: (package.functions ++ [routine]) ++ package.procedures =
        (package.decl :: package.functions) ++ routine :: package.procedures := by simp
    rw [hmiddle]
    exact List.perm_middle
  have hprocedure : (package.decl :: package.functions ++ (package.procedures ++ [routine])).Perm
      (routine :: package.declarations) := by
    rw [← List.append_assoc]
    exact List.perm_append_singleton routine _
  unfold addRoutine
  split
  next => exact hprocedure
  next => exact hfunction

namespace IndexedFile

variable (file : IndexedFile) (decl : Declaration)

theorem declarations_addView :
    ({ file with views := file.views ++ [decl] } : IndexedFile).declarations.Perm
      (decl :: file.declarations) := by
  rw [declarations, List.append_assoc]
  exact List.perm_middle

theorem declarations_addPackage :
    ({ file with packages := file.packages ++ [⟨decl, [], []⟩] } : IndexedFile).declarations.Perm
      (decl :: file.declarations) := by
  have hnew : [(⟨decl, [], []⟩ : Package)].flatMap Package.declarations = [decl] := rfl
  rw [declarations, List.flatMap_append, hnew, ← List.append_assoc]
  exact List.perm_append_singleton decl _

theorem declarations_addRoutine (h : file.packages ≠ []) :
    ({ file with packages := Extraction.addRoutine file.packages decl } :
      IndexedFile).declarations.Perm (decl :: file.declarations) := by
  have hlast : file.packages.length - 1 < file.packages.length := by
    have hpos := List.length_pos_iff.mpr h
    omega
  obtain ⟨before, package, after, hsplit, _, hmodify⟩ :=
    List.exists_of_modify (·.addRoutine decl) hlast
  have hpackages : ((before ++ package.addRoutine decl :: after).flatMap
      Package.declarations).Perm (decl :: file.packages.flatMap Package.declarations) := by
    rw [hsplit, List.flatMap_append, List.flatMap_cons, List.flatMap_append, List.flatMap_cons]
    have hone := (package.declarations_addRoutine decl).append_right
      (after.flatMap Package.declarations)
    exact (hone.append_left _).trans List.perm_middle
  rw [declarations, Extraction.addRoutine, hmodify]
  exact (hpackages.append_left _).trans List.perm_middle

/-- A file with one more declaration; a routine goes to the last package. -/
def declare : IndexedFile :=
  match decl.kind with
  | .view => { file with views := file.views ++ [decl] }
  | .package => { file with packages := file.packages ++ [⟨decl, [], []⟩] }
  | .function | .procedure => { file with packages := Extraction.addRoutine file.packages decl }

theorem declarations_declare (h : decl.kind.isRoutine = true → file.packages ≠ []) :
    (file.declare decl).declarations.Perm (decl :: file.declarations) := by
  unfold declare
  split
  next => exact file.declarations_addView decl
  next => exact file.declarations_addPackage decl
  next hkind => exact file.declarations_addRoutine decl (h (by rw [hkind]; rfl))
  next hkind => exact file.declarations_addRoutine decl (h (by rw [hkind]; rfl))

end IndexedFile

namespace Extraction

/-- A header with a name adds a declaration and counts it, if there is a package for a routine. -/
theorem addHeader_named {docs : List DocBlock} {window : UInt32} {index : Nat} {line : UInt32}
    {state : State} {kind : Kind} {name : String}
    (hroutine : kind.isRoutine = true → state.file.packages ≠ []) :
    let decl : Declaration :=
      ⟨kind, name, index, line, Doc.choose? docs window kind name line, 0, []⟩
    addHeader docs window index line state ⟨kind, some name⟩ =
      ⟨state.file.declare decl, state.tally.add (.ofDeclarations [decl]), state.packageOpen⟩ := by
  have htally (tally : Tally) (doc : Option DocBlock) :
      (if doc.isSome then { tally with documented := tally.documented + 1 } else tally) =
        { tally with documented := tally.documented + if doc.isSome then 1 else 0 } := by
    cases doc <;> rfl
  intro decl
  cases kind with
  | view =>
    simp [addHeader, htally, IndexedFile.declare, Tally.add, Tally.ofDeclarations, decl,
      List.countP_cons]
  | package =>
    simp [addHeader, htally, IndexedFile.declare, Tally.add, Tally.ofDeclarations, decl,
      List.countP_cons]
  | function =>
    have hempty : state.file.packages.isEmpty = false := by simpa using hroutine rfl
    simp [addHeader, hempty, htally, IndexedFile.declare, Tally.add, Tally.ofDeclarations, decl,
      List.countP_cons]
  | procedure =>
    have hempty : state.file.packages.isEmpty = false := by simpa using hroutine rfl
    simp [addHeader, hempty, htally, IndexedFile.declare, Tally.add, Tally.ofDeclarations, decl,
      List.countP_cons]

/-- What was added to a file is what was counted, and a package body is open only where the file has
a package. -/
structure State.Tallied (base : Tally) (state : State) : Prop where
  tally : Tally.ofDeclarations state.file.declarations = base.add state.tally
  opened : state.packageOpen = true → state.file.packages ≠ []

section

variable {docs : List DocBlock} {window : UInt32} {index : Nat} {line : UInt32} {base : Tally}

theorem tally_addHeader {state : State} {header : Header}
    (h : Tally.ofDeclarations state.file.declarations = base.add state.tally)
    (hroutine : header.kind.isRoutine = true → state.file.packages ≠ []) :
    let later := addHeader docs window index line state header
    Tally.ofDeclarations later.file.declarations = base.add later.tally := by
  obtain ⟨kind, name⟩ := header
  cases name with
  | none => exact h
  | some name =>
    intro later
    have hlater : later = _ := addHeader_named hroutine
    rw [hlater, Tally.ofDeclarations_perm (state.file.declarations_declare _ hroutine),
      ← List.singleton_append, Tally.ofDeclarations_append, h, Tally.add_comm, Tally.add_assoc]

theorem packages_addHeader {state : State} {header : Header}
    (h : state.file.packages ≠ [] ∨ (header.kind = .package ∧ header.name ≠ none)) :
    (addHeader docs window index line state header).file.packages ≠ [] := by
  have hkept (decl : Declaration) (hne : state.file.packages ≠ []) :
      addRoutine state.file.packages decl ≠ [] := by
    rw [← List.length_pos_iff, addRoutine, List.length_modify]
    exact List.length_pos_iff.mpr hne
  obtain ⟨kind, name⟩ := header
  cases name with
  | none =>
    have hne : state.file.packages ≠ [] := by simpa using h
    exact hne
  | some name =>
    cases kind with
    | view => simpa [addHeader] using h
    | package => simp [addHeader]
    | function =>
      have hne : state.file.packages ≠ [] := by simpa using h
      simp [addHeader, hne, hkept]
    | procedure =>
      have hne : state.file.packages ≠ [] := by simpa using h
      simp [addHeader, hne, hkept]

theorem tally_foldl_addHeader {headers : List Header} {state : State}
    (h : Tally.ofDeclarations state.file.declarations = base.add state.tally)
    (hopen : state.file.packages ≠ [] ∨ ∀ header ∈ headers, header.kind.isRoutine = false) :
    let later := headers.foldl (addHeader docs window index line) state
    Tally.ofDeclarations later.file.declarations = base.add later.tally := by
  induction headers generalizing state with
  | nil => exact h
  | cons header rest ih =>
    refine ih (tally_addHeader h ?_) ?_
    · intro hroutine
      rcases hopen with hne | hnone
      · exact hne
      · rw [hnone header List.mem_cons_self] at hroutine
        simp at hroutine
    · rcases hopen with hne | hnone
      · exact Or.inl (packages_addHeader (Or.inl hne))
      · exact Or.inr fun later hl => hnone later (List.mem_cons_of_mem _ hl)

theorem packages_foldl_addHeader {headers : List Header} {state : State}
    (hopen : state.file.packages ≠ [] ∨
      ∃ header ∈ headers, header.kind = .package ∧ header.name ≠ none) :
    (headers.foldl (addHeader docs window index line) state).file.packages ≠ [] := by
  induction headers generalizing state with
  | nil => simpa using hopen
  | cons header rest ih =>
    refine ih ?_
    rcases hopen with hne | ⟨later, hl, hpackage⟩
    · exact Or.inl (packages_addHeader (Or.inl hne))
    · rcases List.mem_cons.mp hl with rfl | hl
      · exact Or.inl (packages_addHeader (Or.inr hpackage))
      · exact Or.inr ⟨later, hl, hpackage⟩

end

theorem State.Tallied.addReading {base : Tally} {state : State} (h : state.Tallied base)
    (rules : DeclarationRules) (docs : List DocBlock) (index : Nat) (line : String)
    (position : Nat) :
    (addReading rules docs index state (rules.headers.readLine state.packageOpen line)
      position).Tallied base := by
  obtain ⟨outer, routines, hheaders, houter, hopened, hclosed⟩ :=
    rules.headers.headers_readLine state.packageOpen line
  generalize rules.headers.readLine state.packageOpen line = reading at *
  let start : State := { state with packageOpen := reading.packageOpen }
  let middle := outer.foldl (addHeader docs rules.window index (lineNumber position)) start
  have hopen := packageOpen_addReading rules docs index state reading position
  have hfold : Extraction.addReading rules docs index state reading position =
      routines.foldl (addHeader docs rules.window index (lineNumber position)) middle := by
    rw [Extraction.addReading, hheaders, List.foldl_append]
  have hmiddle : Tally.ofDeclarations middle.file.declarations = base.add middle.tally :=
    tally_foldl_addHeader h.tally (Or.inr houter)
  cases hnow : reading.packageOpen with
  | false =>
    rw [hclosed hnow, List.foldl_nil] at hfold
    refine ⟨by rw [hfold]; exact hmiddle, fun hyes => ?_⟩
    rw [hopen, hnow] at hyes
    simp at hyes
  | true =>
    have hpackages : middle.file.packages ≠ [] :=
      packages_foldl_addHeader ((hopened hnow).imp_left h.opened)
    rw [hfold]
    exact ⟨tally_foldl_addHeader hmiddle (Or.inl hpackages),
      fun _ => packages_foldl_addHeader (Or.inl hpackages)⟩

theorem State.Tallied.addLine {base : Tally} {state : State} (h : state.Tallied base)
    (rules : DeclarationRules) (docs : List DocBlock) (index : Nat) (line : String)
    (position : Nat) : (addLine rules docs index state line position).Tallied base := by
  unfold Extraction.addLine
  split
  next => exact h
  next => exact h.addReading rules docs index line position

theorem tallied_addLines (rules : DeclarationRules) (docs : List DocBlock) (index : Nat)
    (file : IndexedFile) (lines : List String) :
    (addLines rules docs index file lines).Tallied (.ofDeclarations file.declarations) := by
  have hstart : State.Tallied (.ofDeclarations file.declarations) ⟨file, .zero, false⟩ :=
    ⟨rfl, by simp⟩
  exact List.foldlRecOn lines.zipIdx _ hstart fun _ h entry _ =>
    h.addLine rules docs index entry.1 entry.2

end Extraction

/-- Extraction counts the declarations it adds. -/
theorem DeclarationRules.tally_extract (rules : DeclarationRules) (catalog : Catalog) (index : Nat)
    (lines : List String) (docs : List DocBlock) :
    Tally.ofDeclarations (rules.extract catalog index lines docs).1.declarations =
      (Tally.ofDeclarations catalog.declarations).add
        (rules.extract catalog index lines docs).2 := by
  unfold extract
  split
  next => rfl
  next file hf =>
    split
    next => rfl
    next =>
      obtain ⟨hlt, hfile⟩ := List.getElem?_eq_some_iff.mp hf
      have hadded := (Extraction.tallied_addLines rules docs index file lines).tally
      obtain ⟨before, after, hsplit, _, hset⟩ :=
        List.exists_of_set hlt
      rw [hfile] at hsplit
      simp only [Catalog.declarations]
      rw [hset, hsplit]
      simp only [List.flatMap_append, List.flatMap_cons, Tally.ofDeclarations_append, hadded]
      rw [Tally.add_assoc, Tally.add_assoc, Tally.add_assoc,
        Tally.add_comm (Extraction.addLines rules docs index file lines).tally]

namespace IndexPlan

theorem tally_declareFile (plan : IndexPlan) (source : Contents) {base : Tally} {state : Extracted}
    (h : Tally.ofDeclarations state.catalog.declarations = base.add state.tally)
    (path : RawText) (index n : Nat) :
    let later := plan.declareFile source state path index n
    Tally.ofDeclarations later.catalog.declarations = base.add later.tally := by
  unfold declareFile
  cases source path with
  | none => exact h
  | some lines =>
    have hadded := plan.rules.tally_extract state.catalog index lines (plan.docs lines)
    rw [h, Tally.add_assoc] at hadded
    exact hadded

theorem tally_declareAll (plan : IndexPlan) (source : Contents) (catalog : Catalog) :
    Tally.ofDeclarations (plan.declareAll source catalog).catalog.declarations =
      (Tally.ofDeclarations catalog.declarations).add (plan.declareAll source catalog).tally := by
  let tallied (state : Extracted) : Prop := Tally.ofDeclarations state.catalog.declarations =
    (Tally.ofDeclarations catalog.declarations).add state.tally
  have hstart : tallied
      ⟨catalog, .zero, [], [.started .extracting (sqlFiles catalog).length]⟩ := rfl
  exact List.foldlRecOn (motive := tallied) (sqlFiles catalog).zipIdx _ hstart fun _ h entry _ =>
    plan.tally_declareFile source h entry.1.1 entry.1.2 entry.2

end IndexPlan

namespace Catalog

/-- Uses change no count of declarations. -/
theorem tally_eq_of_outline {a b : Catalog} (h : a.outline = b.outline) :
    Tally.ofDeclarations a.declarations = Tally.ofDeclarations b.declarations := by
  have hfile (file : IndexedFile) :
      file.outline.declarations = file.declarations.map Declaration.outline := by
    simp only [IndexedFile.declarations, IndexedFile.outline, List.map_append, List.map_flatMap,
      List.flatMap_map, Package.declarations, Package.outline, List.map_cons]
  have htally (catalog : Catalog) :
      Tally.ofDeclarations (catalog.outline.flatMap IndexedFile.declarations) =
        Tally.ofDeclarations catalog.declarations := by
    simp only [outline, List.flatMap_map, hfile]
    rw [← List.map_flatMap]
    simp only [Tally.ofDeclarations, List.countP_map]
    rfl
  rw [← htally a, h, htally b]

theorem declarations_of_undeclared {catalog : Catalog} (h : ∀ place, catalog.get? place = none) :
    catalog.declarations = [] := by
  rw [← symbols_declarations, List.map_eq_nil_iff, List.eq_nil_iff_forall_not_mem]
  rintro ⟨place, decl⟩ hmem
  have hget := mem_symbols_iff.mp hmem
  rw [h place] at hget
  simp at hget

end Catalog

end CrossRef
