import CrossRef.Proofs.BlankLines
import CrossRef.Proofs.Tallies
import CrossRef.Proofs.UsingLines

namespace CrossRef

/-- A header with a name, and the position of its line. -/
structure NamedHeader where
  kind : Kind
  name : String
  position : Nat
  deriving DecidableEq

def Header.named? (position : Nat) (header : Header) : Option NamedHeader :=
  header.name.map (⟨header.kind, ·, position⟩)

/-- The named headers of lines that were read, the first of them at a position. -/
def namedIn (readings : List LineReading) (position : Nat) : List NamedHeader :=
  (readings.zipIdx position).flatMap fun entry => entry.1.headers.filterMap (·.named? entry.2)

theorem namedIn_cons (reading : LineReading) (readings : List LineReading) (position : Nat) :
    namedIn (reading :: readings) position =
      reading.headers.filterMap (·.named? position) ++ namedIn readings (position + 1) := by
  rw [namedIn, List.zipIdx_cons, List.flatMap_cons]
  rfl

/-- The headers with a name, line by line, where lines of fewer than two words and comments are
passed over. -/
def HeaderRules.named (headers : HeaderRules) (lines : List String) : List NamedHeader :=
  namedIn (headers.walk Extraction.isPassedOver false lines) 0

namespace NamedHeader

/-- What a header declares in the file at an index. -/
def declaration (docs : List DocBlock) (window : UInt32) (index : Nat) (header : NamedHeader) :
    Declaration :=
  ⟨header.kind, header.name, index, lineNumber header.position,
    Doc.choose? docs window header.kind header.name (lineNumber header.position), 0, []⟩

/-- Whether a header does not begin another package. -/
def staysInside (header : NamedHeader) : Bool :=
  header.kind ≠ .package

/-- The package of a header with the routines among others. -/
def package (decl : NamedHeader → Declaration) (header : NamedHeader) (own : List NamedHeader) :
    Package :=
  ⟨decl header, (own.filter (·.kind = .function)).map decl,
    (own.filter (·.kind = .procedure)).map decl⟩

/-- The packages of a list of headers. A package has the routines behind its header, as far as the
header of the next package. -/
def packages (decl : NamedHeader → Declaration) : List NamedHeader → List Package
  | [] => []
  | header :: rest =>
    if header.kind = .package then
      package decl header (rest.takeWhile staysInside) :: packages decl rest
    else packages decl rest

/-- Whether each routine stands behind the header of a package, or `opened` says that there is
one. -/
def routinesInside (opened : Bool) : List NamedHeader → Bool
  | [] => true
  | header :: rest =>
    (!header.kind.isRoutine || opened) && routinesInside (opened || header.kind = .package) rest

theorem routinesInside_append (opened : Bool) (front back : List NamedHeader) :
    routinesInside opened (front ++ back) =
      (routinesInside opened front &&
        routinesInside (opened || front.any (·.kind = .package)) back) := by
  induction front generalizing opened with
  | nil => simp [routinesInside]
  | cons header rest ih => simp [routinesInside, ih, Bool.and_assoc, Bool.or_assoc]

theorem routinesInside_left {opened : Bool} {front back : List NamedHeader}
    (h : routinesInside opened (front ++ back) = true) : routinesInside opened front = true := by
  rw [routinesInside_append] at h
  exact (Bool.and_eq_true_iff.mp h).1

theorem routinesInside_true (found : List NamedHeader) : routinesInside true found = true := by
  induction found with
  | nil => rfl
  | cons header rest ih => simpa [routinesInside] using ih

theorem routinesInside_of_none {found : List NamedHeader}
    (h : ∀ header ∈ found, header.kind.isRoutine = false) (opened : Bool) :
    routinesInside opened found = true := by
  induction found generalizing opened with
  | nil => rfl
  | cons header rest ih =>
    have hrest := ih fun later hl => h later (List.mem_cons_of_mem _ hl)
    simp [routinesInside, h header List.mem_cons_self, hrest]

theorem exists_package_of_routinesInside {before after : List NamedHeader} {header : NamedHeader}
    (h : routinesInside false (before ++ header :: after) = true)
    (hroutine : header.kind.isRoutine = true) : ∃ package ∈ before, package.kind = .package := by
  rw [routinesInside_append, routinesInside, hroutine] at h
  have hany : before.any (·.kind = .package) = true := by
    cases hany : before.any (·.kind = .package) with
    | true => rfl
    | false => simp [hany] at h
  simpa using hany

end NamedHeader

open NamedHeader

theorem Header.named?_of_name {header : Header} {name : String} (h : header.name = some name)
    (position : Nat) : header.named? position = some ⟨header.kind, name, position⟩ := by
  rw [named?, h]
  rfl

theorem Header.kind_of_named? {header : Header} {position : Nat} {named : NamedHeader}
    (h : header.named? position = some named) :
    header.name = some named.name ∧ named.kind = header.kind ∧ named.position = position := by
  obtain ⟨name, hname, rfl⟩ := Option.map_eq_some_iff.mp h
  exact ⟨hname, rfl, rfl⟩

/-- On one line the routines come last, behind the header of a package on this line if none was
there before. -/
theorem HeaderRules.routinesInside_readLine (headers : HeaderRules) {packageOpen opened : Bool}
    (hopened : packageOpen = true → opened = true) (line : String) (position : Nat) :
    let reading := headers.readLine packageOpen line
    let found := reading.headers.filterMap (·.named? position)
    routinesInside opened found = true ∧
      (reading.packageOpen = true → (opened || found.any (·.kind = .package)) = true) := by
  obtain ⟨outer, routines, hheaders, houter, hopens, hclosed⟩ :=
    headers.headers_readLine packageOpen line
  intro reading found
  have hfound : found =
      outer.filterMap (·.named? position) ++ routines.filterMap (·.named? position) := by
    rw [← List.filterMap_append, ← hheaders]
  have hpackage : reading.packageOpen = true →
      (opened || (outer.filterMap (·.named? position)).any (·.kind = .package)) = true := by
    intro hnow
    rcases hopens hnow with hbefore | ⟨header, hheader, hkind, hname⟩
    · rw [hopened hbefore, Bool.true_or]
    · obtain ⟨name, hname⟩ := Option.ne_none_iff_exists'.mp hname
      have hmem : (⟨header.kind, name, position⟩ : NamedHeader) ∈
          outer.filterMap (·.named? position) :=
        List.mem_filterMap.mpr ⟨header, hheader, Header.named?_of_name hname position⟩
      have hany : (outer.filterMap (·.named? position)).any (·.kind = .package) = true :=
        List.any_eq_true.mpr ⟨_, hmem, by simpa using hkind⟩
      rw [hany, Bool.or_true]
  have hnone : ∀ header ∈ outer.filterMap (·.named? position), header.kind.isRoutine = false := by
    intro named hnamed
    obtain ⟨header, hheader, hname⟩ := List.mem_filterMap.mp hnamed
    rw [(Header.kind_of_named? hname).2.1]
    exact houter header hheader
  constructor
  · rw [hfound, routinesInside_append, routinesInside_of_none hnone, Bool.true_and]
    cases hnow : reading.packageOpen with
    | true =>
      rw [hpackage hnow]
      exact routinesInside_true _
    | false =>
      rw [hclosed hnow]
      rfl
  · intro hnow
    rw [hfound, List.any_append, ← Bool.or_assoc, hpackage hnow, Bool.true_or]

/-- No routine stands outside a package: the scope that lines are read in opens with the header of a
package, which always has a name. -/
theorem HeaderRules.routinesInside_walk (headers : HeaderRules) {packageOpen opened : Bool}
    (hopened : packageOpen = true → opened = true) (lines : List String) (position : Nat) :
    routinesInside opened
      (namedIn (headers.walk Extraction.isPassedOver packageOpen lines) position) = true := by
  induction lines generalizing packageOpen opened position with
  | nil => rfl
  | cons line rest ih =>
    rw [walk, namedIn_cons, routinesInside_append]
    split
    next =>
      have hrest := ih hopened (position + 1)
      simpa [routinesInside] using hrest
    next =>
      obtain ⟨hline, hnow⟩ := headers.routinesInside_readLine hopened line position
      rw [hline, Bool.true_and]
      exact ih hnow (position + 1)

namespace Extraction

/-- The declarations that two states hold and count, whatever is open in them. -/
structure State.SameContent (a b : State) : Prop where
  file : a.file = b.file
  tally : a.tally = b.tally

section

variable {docs : List DocBlock} {window : UInt32} {index : Nat} {line : UInt32} {a b : State}

theorem State.SameContent.next (h : a.SameContent b) (header : Header) :
    (addHeader docs window index line a header).SameContent
      (addHeader docs window index line b header) := by
  obtain ⟨kind, name⟩ := header
  obtain ⟨file, tally, openA⟩ := a
  obtain ⟨file', tally', openB⟩ := b
  obtain ⟨rfl, rfl⟩ := h
  cases name with
  | none => exact ⟨rfl, rfl⟩
  | some name =>
    cases kind with
    | view => exact ⟨rfl, rfl⟩
    | package => exact ⟨rfl, rfl⟩
    | function =>
      simp only [addHeader]
      split <;> exact ⟨rfl, rfl⟩
    | procedure =>
      simp only [addHeader]
      split <;> exact ⟨rfl, rfl⟩

end

section

variable (docs : List DocBlock) (window : UInt32) (index : Nat)

/-- Adds the declaration of a header with a name. -/
def addNamed (state : State) (header : NamedHeader) : State :=
  addHeader docs window index (lineNumber header.position) state ⟨header.kind, some header.name⟩

variable {docs window index} {a b : State}

theorem State.SameContent.nextAll (h : a.SameContent b) (headers : List Header) (position : Nat) :
    (headers.foldl (addHeader docs window index (lineNumber position)) a).SameContent
      ((headers.filterMap (·.named? position)).foldl (addNamed docs window index) b) := by
  induction headers generalizing a b with
  | nil => exact h
  | cons header rest ih =>
    have hfirst : State.SameContent (addHeader docs window index (lineNumber position) a header)
        (addHeader docs window index (lineNumber position) b header) := h.next header
    obtain ⟨kind, name⟩ := header
    cases name with
    | none => exact ih hfirst
    | some name => exact ih hfirst

theorem State.SameContent.readings (h : a.SameContent b) (rules : DeclarationRules)
    (readings : List LineReading) (position : Nat) :
    ((readings.zipIdx position).foldl
        (fun state entry => addReading rules docs index state entry.1 entry.2) a).SameContent
      ((namedIn readings position).foldl (addNamed docs rules.window index) b) := by
  induction readings generalizing a b position with
  | nil => exact h
  | cons reading rest ih =>
    rw [namedIn_cons, List.foldl_append, List.zipIdx_cons, List.foldl_cons]
    refine ih ?_ (position + 1)
    have hopen : State.SameContent { a with packageOpen := reading.packageOpen } b :=
      ⟨h.file, h.tally⟩
    exact hopen.nextAll reading.headers position

end

/-- Adding the declarations of lines is adding those of their named headers one by one. -/
theorem addLines_sameContent (rules : DeclarationRules) (docs : List DocBlock) (index : Nat)
    (file : IndexedFile) (lines : List String) :
    (addLines rules docs index file lines).SameContent
      ((rules.headers.named lines).foldl (addNamed docs rules.window index)
        ⟨file, .zero, false⟩) := by
  rw [addLines_eq_walk]
  exact State.SameContent.readings ⟨rfl, rfl⟩ rules _ 0

end Extraction

namespace Extraction

theorem addRoutine_cons (package : Package) (packages : List Package) (routine : Declaration) :
    addRoutine (package :: packages) routine =
      if packages = [] then [package.addRoutine routine]
      else package :: addRoutine packages routine := by
  split
  next hnil => rw [hnil]; rfl
  next hsome =>
    have hlength : (package :: packages).length - 1 = packages.length - 1 + 1 := by
      have hpos := List.length_pos_iff.mpr hsome
      rw [List.length_cons]
      omega
    rw [addRoutine, hlength, List.modify_succ_cons]
    rfl

end Extraction

namespace NamedHeader

theorem takeWhile_concat (found : List NamedHeader) (later : NamedHeader) :
    (found ++ [later]).takeWhile staysInside =
      if found.all staysInside && staysInside later then found ++ [later]
      else found.takeWhile staysInside := by
  induction found with
  | nil => cases hlater : staysInside later <;> simp [hlater]
  | cons header rest ih =>
    cases hheader : staysInside header with
    | false => simp [hheader]
    | true =>
      rw [List.cons_append, List.takeWhile_cons_of_pos hheader, List.takeWhile_cons_of_pos hheader,
        ih, List.all_cons, hheader, Bool.true_and]
      split <;> rfl

theorem packages_eq_nil_iff {decl : NamedHeader → Declaration} {found : List NamedHeader} :
    packages decl found = [] ↔ found.all staysInside = true := by
  induction found with
  | nil => simp [packages]
  | cons header rest ih =>
    rw [packages]
    split
    next hkind => simp [staysInside, hkind]
    next hkind => simp [ih, staysInside, hkind]

theorem package_concat {decl : NamedHeader → Declaration}
    (hdecl : ∀ header, (decl header).kind = header.kind) (header : NamedHeader)
    (own : List NamedHeader) {later : NamedHeader} (hlater : later.kind.isRoutine = true) :
    package decl header (own ++ [later]) = (package decl header own).addRoutine (decl later) := by
  obtain ⟨kind, name, position⟩ := later
  rw [Package.addRoutine, hdecl]
  cases kind with
  | view => simp [Kind.isRoutine] at hlater
  | package => simp [Kind.isRoutine] at hlater
  | function => simp [package]
  | procedure => simp [package]

/-- A routine behind the headers goes to the last package. -/
theorem packages_concat_routine {decl : NamedHeader → Declaration}
    (hdecl : ∀ header, (decl header).kind = header.kind) (found : List NamedHeader)
    {later : NamedHeader} (hlater : later.kind.isRoutine = true) :
    packages decl (found ++ [later]) =
      Extraction.addRoutine (packages decl found) (decl later) := by
  have hkind : later.kind ≠ .package := by
    intro hkind
    rw [hkind] at hlater
    simp [Kind.isRoutine] at hlater
  have hstays : staysInside later = true := by simp [staysInside, hkind]
  induction found with
  | nil => simp [packages, hkind, Extraction.addRoutine]
  | cons header rest ih =>
    rw [List.cons_append, packages, packages, takeWhile_concat, hstays, Bool.and_true]
    split
    next =>
      rw [Extraction.addRoutine_cons, ih]
      by_cases hall : rest.all staysInside = true
      · have hself := List.takeWhile_eq_self_iff.mpr (List.all_eq_true.mp hall)
        rw [if_pos hall, packages_eq_nil_iff.mpr hall, if_pos rfl, hself,
          package_concat hdecl header rest hlater]
        rfl
      · rw [if_neg hall, if_neg (mt packages_eq_nil_iff.mp hall)]
    next => exact ih

theorem packages_concat_package (decl : NamedHeader → Declaration) (found : List NamedHeader)
    {later : NamedHeader} (hlater : later.kind = .package) :
    packages decl (found ++ [later]) = packages decl found ++ [⟨decl later, [], []⟩] := by
  have hends : staysInside later = false := by simp [staysInside, hlater]
  induction found with
  | nil => simp [packages, hlater, package]
  | cons header rest ih =>
    rw [List.cons_append, packages, packages, takeWhile_concat, hends, Bool.and_false, ih]
    split <;> rfl

theorem packages_concat_view (decl : NamedHeader → Declaration) (found : List NamedHeader)
    {later : NamedHeader} (hlater : later.kind = .view) :
    packages decl (found ++ [later]) = packages decl found := by
  have hstays : staysInside later = true := by simp [staysInside, hlater]
  induction found with
  | nil => simp [packages, hlater]
  | cons header rest ih =>
    have hown : package decl header ((rest ++ [later]).takeWhile staysInside) =
        package decl header (rest.takeWhile staysInside) := by
      rw [takeWhile_concat, hstays, Bool.and_true]
      split
      next hall =>
        rw [List.takeWhile_eq_self_iff.mpr (List.all_eq_true.mp hall)]
        simp [package, hlater]
      next => rfl
    rw [List.cons_append, packages, packages, ih, hown]

end NamedHeader

namespace Extraction

/-- A file without declarations gets those of the headers, each in its place. -/
def placed (file : IndexedFile) (decl : NamedHeader → Declaration) (found : List NamedHeader) :
    IndexedFile :=
  { file with
    views := (found.filter (·.kind = .view)).map decl
    packages := packages decl found }

theorem placed_concat {decl : NamedHeader → Declaration}
    (hdecl : ∀ header, (decl header).kind = header.kind) (file : IndexedFile)
    (found : List NamedHeader) (later : NamedHeader) :
    placed file decl (found ++ [later]) = (placed file decl found).declare (decl later) := by
  obtain ⟨kind, name, position⟩ := later
  rw [IndexedFile.declare, hdecl]
  cases kind with
  | view => simp [placed, packages_concat_view]
  | package => simp [placed, packages_concat_package]
  | function =>
    rw [placed, packages_concat_routine hdecl found rfl]
    simp [placed]
  | procedure =>
    rw [placed, packages_concat_routine hdecl found rfl]
    simp [placed]

section

variable {docs : List DocBlock} {window : UInt32} {index : Nat} {file : IndexedFile}
  {found : List NamedHeader} (hinside : routinesInside false found = true)

include hinside

theorem packages_before_routine {decl : NamedHeader → Declaration} {before after : List NamedHeader}
    {header : NamedHeader} (hfound : found = before ++ header :: after)
    (hroutine : header.kind.isRoutine = true) : (placed file decl before).packages ≠ [] := by
  obtain ⟨package, hpackage, hkind⟩ :=
    exists_package_of_routinesInside (hfound ▸ hinside) hroutine
  intro hnil
  have hstays := List.all_eq_true.mp (packages_eq_nil_iff.mp hnil) package hpackage
  simp [staysInside, hkind] at hstays

/-- Each header has one declaration in the file. -/
theorem declarations_placed :
    (placed file (declaration docs window index) found).declarations.Perm
      (found.map (declaration docs window index)) := by
  induction found using List.reverseRecOn with
  | nil => rfl
  | append_singleton before header ih =>
    have hbefore := routinesInside_left hinside
    rw [placed_concat fun _ => rfl, List.map_append]
    have hone := (placed file (declaration docs window index) before).declarations_declare
      (header.declaration docs window index) (packages_before_routine hinside rfl)
    exact hone.trans (((ih hbefore).cons _).trans (List.perm_append_singleton _ _).symm)

/-- The state after some headers. The induction is from the last header back: the headers before it
hold a package if it is a routine. -/
theorem foldl_addNamed (hviews : file.views = []) (hpackages : file.packages = []) :
    found.foldl (addNamed docs window index) ⟨file, .zero, false⟩ =
      ⟨placed file (declaration docs window index) found,
        .ofDeclarations (found.map (declaration docs window index)), false⟩ := by
  induction found using List.reverseRecOn with
  | nil =>
    obtain ⟨id, path, kind, views, packages⟩ := file
    cases hviews
    cases hpackages
    rfl
  | append_singleton before header ih =>
    have hbefore := routinesInside_left hinside
    rw [List.foldl_append, ih hbefore, List.foldl_cons, List.foldl_nil, addNamed,
      addHeader_named (packages_before_routine hinside rfl), placed_concat fun _ => rfl,
      List.map_append, Tally.ofDeclarations_append]
    rfl

end

/-- Where the head of a routine is come to, the file has a package. -/
theorem packages_at_routine (rules : DeclarationRules) (docs : List DocBlock) (index : Nat)
    (file : IndexedFile) (front : List String) (line : String) {earlier later : List Header}
    {header : Header} (hroutine : header.kind.isRoutine = true) :
    let state := addLines rules docs index file front
    let reading := rules.headers.readLine state.packageOpen line
    reading.headers = earlier ++ header :: later →
      (earlier.foldl (addHeader docs rules.window index (lineNumber front.length))
        { state with packageOpen := reading.packageOpen }).file.packages ≠ [] := by
  intro state reading hheaders
  obtain ⟨outer, routines, hsplit, houter, hopens, hclosed⟩ :=
    rules.headers.headers_readLine state.packageOpen line
  obtain ⟨between, rfl, rfl⟩ :
      ∃ between, earlier = outer ++ between ∧ routines = between ++ header :: later := by
    rcases List.append_eq_append_iff.mp (hsplit.symm.trans hheaders) with
      hbehind | ⟨between, rfl, hrest⟩
    · exact hbehind
    · cases between with
      | nil => exact ⟨[], by simp, by simpa using hrest.symm⟩
      | cons first others =>
        obtain ⟨rfl, _⟩ := List.cons.inj hrest
        have hnone := houter header (by simp)
        simp [hnone] at hroutine
  have hnow : reading.packageOpen = true := by
    by_contra hno
    have hnil := hclosed (by simpa using hno)
    simp at hnil
  have hopened := (tallied_addLines rules docs index file front).opened
  refine packages_foldl_addHeader ((hopens hnow).imp hopened ?_)
  rintro ⟨package, hmem, hpackage⟩
  exact ⟨package, List.mem_append_left _ hmem, hpackage⟩

end Extraction

/-- A named header stands on a line, and its name is a word. -/
theorem HeaderRules.isWord_of_named {headers : HeaderRules} {lines : List String}
    {header : NamedHeader} (h : header ∈ headers.named lines) :
    Text.IsWord header.name ∧ header.position < lines.length := by
  obtain ⟨⟨reading, position⟩, hreading, hheader⟩ := List.mem_flatMap.mp h
  obtain ⟨plain, hplain, hnamed⟩ := List.mem_filterMap.mp hheader
  obtain ⟨hname, _, hposition⟩ := Header.kind_of_named? hnamed
  have hget := List.mem_zipIdx_iff_getElem?.mp hreading
  have hlt := (List.getElem?_eq_some_iff.mp hget).1
  rw [length_walk] at hlt
  exact ⟨isWord_of_walk (List.mem_of_getElem? hget) hplain hname, hposition ▸ hlt⟩

/-- Extraction turns each named header of a fresh sql file into one declaration: views and packages
in the order of their headers, and a routine in the last package before it. It never comes to a
routine without a package, and it counts what it adds. No other file declares anything. The numbers
of lines are as documented, one more than their positions, in a file of fewer than 2 ^ 32 lines; in
a longer one they start again. -/
theorem DeclarationRules.extract_places_headers (rules : DeclarationRules) (catalog : Catalog)
    (index : Nat) (lines : List String) (docs : List DocBlock) :
    let found := rules.headers.named lines
    let decl := declaration docs rules.window index
    (∀ file, catalog.files[index]? = some file → file.kind = .sql → file.views = [] →
      file.packages = [] →
        let made := Extraction.placed file decl found
        rules.extract catalog index lines docs =
            ({ catalog with files := catalog.files.set index made },
              .ofDeclarations made.declarations) ∧
          made.declarations.Perm (found.map decl) ∧
          (∀ before header after, found = before ++ header :: after →
            header.kind.isRoutine = true → ∃ package ∈ before, package.kind = .package) ∧
          ∀ front line earlier header later,
            let state := Extraction.addLines rules docs index file front
            let reading := rules.headers.readLine state.packageOpen line
            header.kind.isRoutine = true → reading.headers = earlier ++ header :: later →
              (earlier.foldl
                (Extraction.addHeader docs rules.window index (lineNumber front.length))
                { state with packageOpen := reading.packageOpen }).file.packages ≠ []) ∧
      (∀ header ∈ found, Text.IsWord header.name) ∧
      (lines.length < UInt32.size →
        ∀ header ∈ found, (decl header).line.toNat = header.position + 1) ∧
      ((∀ file, catalog.files[index]? = some file → file.kind = .native) →
        rules.extract catalog index lines docs = (catalog, .zero)) := by
  intro found decl
  have hinside : routinesInside false found = true :=
    rules.headers.routinesInside_walk (fun h => h) lines 0
  refine ⟨?_, fun header hheader => (HeaderRules.isWord_of_named hheader).1, ?_, ?_⟩
  · intro file hfile hkind hviews hpackages made
    have hperm : made.declarations.Perm (found.map decl) :=
      Extraction.declarations_placed hinside
    have hrun : found.foldl (Extraction.addNamed docs rules.window index) ⟨file, .zero, false⟩ =
        ⟨made, .ofDeclarations (found.map decl), false⟩ :=
      Extraction.foldl_addNamed hinside hviews hpackages
    obtain ⟨hmade, htally⟩ := Extraction.addLines_sameContent rules docs index file lines
    refine ⟨?_, hperm, ?_, ?_⟩
    · rw [hrun] at hmade htally
      simp only [extract, hfile, hkind, hmade, htally, Tally.ofDeclarations_perm hperm]
    · intro before header after hfound hroutine
      exact exists_package_of_routinesInside (hfound ▸ hinside) hroutine
    · intro front line earlier header later state reading hroutine hheaders
      exact Extraction.packages_at_routine rules docs index file front line hroutine hheaders
  · intro hshort header hheader
    have hlt := (HeaderRules.isWord_of_named hheader).2
    exact toNat_lineNumber (by omega)
  · intro hother
    unfold extract
    split
    next => rfl
    next file hfile => rw [hother file hfile]

/-- A routine before any package, a package in a comment, and a line with a view, a package and no
name behind its procedure. -/
def twoPackageLines : List String :=
  ["FUNCTION early RETURN NUMBER", "CREATE VIEW v AS", "-- PACKAGE BODY no IS",
    "PACKAGE BODY p IS", "function f(x NUMBER)", "PROCEDURE (x FORCE VIEW w PACKAGE BODY q",
    "PROCEDURE g;"]

theorem DeclarationRules.extract_places_headers_twoPackages :
    let rules : DeclarationRules := ⟨⟨true⟩, 4⟩
    let decl := fun kind name line => (⟨kind, name, 0, line, none, 0, []⟩ : Declaration)
    (rules.extract ⟨[⟨1, "a.sql", .sql, [], []⟩], 2⟩ 0 twoPackageLines []) =
        (⟨[⟨1, "a.sql", .sql, [decl .view "v" 2, decl .view "w" 6],
          [⟨decl .package "p" 4, [decl .function "f" 5], []⟩,
            ⟨decl .package "q" 6, [], [decl .procedure "g;" 7]⟩]⟩], 2⟩, ⟨2, 2, 1, 1, 0⟩) := by
  intro rules decl
  obtain ⟨hextract, _⟩ :=
    (rules.extract_places_headers ⟨[⟨1, "a.sql", .sql, [], []⟩], 2⟩ 0 twoPackageLines []).1
      ⟨1, "a.sql", .sql, [], []⟩ rfl rfl rfl rfl
  rw [hextract]
  decide +kernel

end CrossRef
