import CrossRef.Proofs.CountsAgree
import CrossRef.Proofs.DocSegments
import CrossRef.Proofs.KindPlaces
import CrossRef.Proofs.StableSorting
import CrossRef.Report.Listing

namespace CrossRef

/-- Whether a place is that of a routine of a kind in the package at another place. -/
def Place.isInside (owner : Place) (kind : Kind) : Place → Bool
  | .routine f p own _ => owner = .package f p && own = kind
  | _ => false

theorem Place.kind_of_isInside {owner place : Place} {kind : Kind}
    (h : owner.isInside kind place = true) : place.kind = kind := by
  cases place with
  | view f i => cases h
  | package f i => cases h
  | routine f p own i => exact of_decide_eq_true ((Bool.and_eq_true _ _).mp h).2

namespace Catalog

/-- The packages with their places. -/
def placedPackages (catalog : Catalog) : List (Place × Package) :=
  catalog.files.zipIdx.flatMap fun (file, f) =>
    file.packages.zipIdx.map fun (package, p) => (.package f p, package)

/-- The symbols of a package at its place. -/
def ownSymbols (entry : Place × Package) : List (Place × Declaration) :=
  packageSymbols entry.1.file entry.1.group entry.2

theorem packages_eq_map_placedPackages (catalog : Catalog) :
    catalog.packages = catalog.placedPackages.map Prod.snd := by
  have hfile (f : Nat) (file : IndexedFile) :
      (file.packages.zipIdx.map fun entry => (Place.package f entry.2, entry.1)).map Prod.snd =
        file.packages := by
    rw [List.map_map]
    exact List.zipIdx_map_fst 0 file.packages
  simp only [placedPackages, List.map_flatMap, hfile]
  exact (flatMap_zipIdx_fst catalog.files 0 (·.packages)).symm

theorem filter_kind_ne_view (catalog : Catalog) :
    catalog.symbols.filter (·.1.kind ≠ .view) = catalog.placedPackages.flatMap ownSymbols := by
  have hpackage (f p : Nat) (package : Package) :
      (packageSymbols f p package).filter (·.1.kind ≠ .view) = packageSymbols f p package := by
    refine List.filter_eq_self.mpr fun entry hentry => ?_
    rcases mem_packageSymbols.mp hentry with ⟨hplace, _⟩ | ⟨kind, i, hplace, hroutine⟩
    · simp [hplace, Place.kind]
    · have hkind : kind ≠ .view := by
        rintro rfl
        simp [Package.routines] at hroutine
      simp [hplace, Place.kind, hkind]
  have hfile (f : Nat) (file : IndexedFile) :
      (fileSymbols f file).filter (·.1.kind ≠ .view) =
        file.packages.zipIdx.flatMap fun (package, p) => packageSymbols f p package := by
    have hviews : (file.views.zipIdx.map fun entry => (Place.view f entry.2, entry.1)).filter
        (·.1.kind ≠ .view) = [] := by
      simp [List.filter_map, Function.comp_def, Place.kind]
    rw [fileSymbols, List.filter_append, hviews, List.nil_append, List.filter_flatMap]
    simp only [hpackage]
  simp only [symbols, placedPackages, List.filter_flatMap, List.flatMap_assoc, hfile,
    List.flatMap_map, ownSymbols, Place.file, Place.group]

theorem filter_symbols_not_view (catalog : Catalog) {p : Place → Bool}
    (hp : ∀ place, p place = true → place.kind ≠ .view) :
    catalog.symbols.filter (p ·.1) =
      catalog.placedPackages.flatMap fun entry => (ownSymbols entry).filter (p ·.1) := by
  rw [← List.filter_flatMap, ← filter_kind_ne_view, List.filter_filter]
  refine List.filter_congr fun entry _ => ?_
  cases hentry : p entry.1 with
  | false => rfl
  | true => simp [hp entry.1 hentry]

theorem exists_of_mem_placedPackages {catalog : Catalog} {place : Place} {package : Package}
    (h : (place, package) ∈ catalog.placedPackages) :
    ∃ f p, place = .package f p ∧ ownSymbols (place, package) = packageSymbols f p package := by
  obtain ⟨⟨file, f⟩, _, h⟩ := List.mem_flatMap.mp h
  obtain ⟨⟨_, p⟩, _, h⟩ := List.mem_map.mp h
  cases h
  exact ⟨f, p, rfl, rfl⟩

/-- The declared packages are the packages with their places. -/
theorem filter_kind_package (catalog : Catalog) :
    catalog.symbols.filter (·.1.kind = .package) =
      catalog.placedPackages.map fun entry => (entry.1, entry.2.decl) := by
  have hown : ∀ entry ∈ catalog.placedPackages,
      (ownSymbols entry).filter (·.1.kind = .package) = [(entry.1, entry.2.decl)] := by
    rintro ⟨place, package⟩ hentry
    obtain ⟨f, p, rfl, hsymbols⟩ := exists_of_mem_placedPackages hentry
    simp [hsymbols, packageSymbols, List.filter_map, Function.comp_def, Place.kind]
  have hfilter := catalog.filter_symbols_not_view (p := fun place => place.kind = .package)
    (fun place hplace => by simp_all)
  rw [hfilter, List.flatMap_congr hown]
  exact (List.map_eq_flatMap ..).symm

theorem mem_symbols_of_placedPackages {catalog : Catalog} {place : Place} {package : Package}
    (h : (place, package) ∈ catalog.placedPackages) : (place, package.decl) ∈ catalog.symbols := by
  have hlisted := List.mem_map_of_mem (f := fun entry => (entry.1, entry.2.decl)) h
  rw [← filter_kind_package] at hlisted
  exact List.mem_of_mem_filter hlisted

theorem nodup_placedPackages (catalog : Catalog) : (catalog.placedPackages.map Prod.fst).Nodup := by
  have hnodup := (catalog.nodup_places.sublist
    ((List.filter_sublist (p := fun entry => entry.1.kind = .package)).map Prod.fst))
  rw [filter_kind_package, List.map_map] at hnodup
  exact hnodup

/-- The routines of a kind that a package has are those at the places inside it. -/
theorem routines_inside {catalog : Catalog} {place : Place} {package : Package}
    (h : (place, package) ∈ catalog.placedPackages) {kind : Kind} (hkind : kind.isRoutine = true) :
    (catalog.symbols.filter fun entry => place.isInside kind entry.1).map Prod.snd =
      package.routines kind := by
  have hinside : ∀ other, place.isInside kind other = true → other.kind ≠ .view := by
    intro other hother hview
    rw [Place.kind_of_isInside hother] at hview
    rw [hview] at hkind
    cases hkind
  have hother : ∀ entry ∈ catalog.placedPackages, decide (entry.1 = place) = false →
      (ownSymbols entry).filter (fun entry => place.isInside kind entry.1) = [] := by
    rintro ⟨other, owner⟩ hentry hne
    obtain ⟨f, p, rfl, hsymbols⟩ := exists_of_mem_placedPackages hentry
    have hplace : place ≠ .package f p := fun heq => by simp [heq] at hne
    rw [hsymbols]
    simp [packageSymbols, List.filter_map, Function.comp_def, Place.isInside, hplace]
  have hone := filter_key_eq_singleton catalog.nodup_placedPackages h
  rw [catalog.filter_symbols_not_view hinside, ← flatMap_filter_of_nil hother, hone,
    List.flatMap_singleton]
  obtain ⟨f, p, rfl, hsymbols⟩ := exists_of_mem_placedPackages h
  rw [hsymbols]
  cases kind with
  | view => cases hkind
  | package => cases hkind
  | function =>
    simp [packageSymbols, List.filter_map, Function.comp_def, Place.isInside, Package.routines]
  | procedure =>
    simp [packageSymbols, List.filter_map, Function.comp_def, Place.isInside, Package.routines]

theorem length_flatMap_ownSymbols {catalog : Catalog} (h : catalog.KindsFit) :
    (catalog.placedPackages.flatMap ownSymbols).length =
      catalog.stats.packages + catalog.stats.functions + catalog.stats.procedures := by
  have hviews : catalog.stats.views = catalog.symbols.countP (·.1.kind = .view) := by
    rw [stats, List.countP_map]
    refine List.countP_congr fun entry hentry => ?_
    simp [h entry.1 entry.2 (mem_symbols_iff.mp hentry)]
  have hall := catalog.symbols_stats
  have hsplit := List.length_eq_countP_add_countP
    (fun entry : Place × Declaration => entry.1.kind = .view) (l := catalog.symbols)
  rw [CatalogCounts.symbols, hsplit, hviews] at hall
  rw [← filter_kind_ne_view, ← List.countP_eq_length_filter]
  simp only [decide_eq_true_eq] at hall
  simp only [ne_eq]
  omega

end Catalog

namespace Report

theorem sortByKey_map {α β : Type} (f : α → β) (key : β → String) (items : List α) :
    sortByKey key (items.map f) = (sortByKey (key ∘ f) items).map f :=
  (stablySorted_sortByKey key (items.map f)).unique (stablySorted_sortByKey (key ∘ f) items).map

/-- What stands in a text up to its first full stop, or all of it. -/
def IsFirstSentence (whole sentence : String) : Prop :=
  if '.' ∈ whole.toList then
    ∃ front back, '.' ∉ front ∧ whole.toList = front ++ '.' :: back ∧
      sentence.toList = front ++ ['.']
  else sentence = whole

/-- A row that tells, under a name, of the declaration at a place: where it stands as seen from the
root, the first sentence of its documentation, and how many uses it has in how many files. -/
structure TellsOf (catalog : Catalog) (root : RawText) (name : String)
    (entry : Place × Declaration) (row : PageRow) : Prop where
  name : row.name = name
  location : ∃ file, catalog.files[entry.1.file]? = some file ∧
    row.location = s!"{Path.relative root file.key}:{entry.2.line}"
  description : entry.2.doc.elim (row.description = "") fun doc =>
    IsFirstSentence doc.description row.description
  used : row.used = if entry.2.uses = [] then "no use found" else
    s!"{(entry.2.uses.map (·.2.length)).sum} in {entry.2.uses.length} file(s)"

/-- The name shown for a symbol: that of a routine has the name of its package in front. -/
def NamedAs (catalog : Catalog) (entry : Place × Declaration) (name : String) : Prop :=
  match entry.1 with
  | .routine f p _ _ =>
    ∃ owner, catalog.get? (.package f p) = some owner ∧ name = owner.name ++ "." ++ entry.2.name
  | _ => name = entry.2.name

theorem isFirstSentence_short (doc : DocBlock) : IsFirstSentence doc.description doc.short := by
  have hmark : ['.'] <:+: doc.description.toList ↔ '.' ∈ doc.description.toList :=
    List.singleton_infix_iff _ _
  unfold IsFirstSentence DocBlock.short
  cases hcut : Text.cutAt ['.'] doc.description.toList with
  | none => rw [if_neg (mt hmark.mpr (Text.cutAt_eq_none_iff.mp hcut))]
  | some parts =>
    obtain ⟨front, back⟩ := parts
    obtain ⟨htext, hfirst⟩ := Text.cutAt_eq_some hcut
    rw [if_pos (by simp [htext])]
    refine ⟨front, back, ?_, by simp [htext], by simp⟩
    intro hdot
    obtain ⟨before, after, rfl⟩ := List.append_of_mem hdot
    have hle := hfirst before (after ++ ['.'] ++ back) (by simp [htext])
    rw [List.length_append, List.length_cons] at hle
    omega

theorem total_eq_sum (uses : Uses) : uses.total = (uses.map (·.2.length)).sum := by
  rw [Uses.total, Uses.flat, List.length_flatMap]
  simp

theorem namedAs_shownName {catalog : Catalog} {entry : Place × Declaration}
    (h : entry ∈ catalog.symbols) : NamedAs catalog entry (catalog.shownName entry.1) := by
  obtain ⟨place, decl⟩ := entry
  have hget := Catalog.mem_symbols_iff.mp h
  cases place with
  | view f i => simp [NamedAs, Catalog.shownName, Catalog.ownerOf?, hget]
  | package f p => simp [NamedAs, Catalog.shownName, Catalog.ownerOf?, hget]
  | routine f p kind i =>
    obtain ⟨owner, howner, hpackage, _⟩ := Catalog.exists_owner hget
    exact ⟨owner.decl, hpackage, by simp [Catalog.shownName, howner, hget]⟩

/-- The rows of the routines of a kind that the package at a place has, in the order of their
names. -/
def OwnRows (catalog : Catalog) (root : RawText) (owner : Place) (kind : Kind)
    (rows : List PageRow) : Prop :=
  ∃ order,
    StablySorted (fun entry => Text.upper entry.2.name)
      (catalog.symbols.filter fun entry => owner.isInside kind entry.1) order ∧
    List.Forall₂ (fun entry => TellsOf catalog root s!"  {kind.name} {entry.2.name}" entry)
      order rows

/-- The rows of a package with its functions and its procedures. -/
def IsBlock (catalog : Catalog) (root : RawText) (entry : Place × Declaration)
    (rows : List PageRow) : Prop :=
  ∃ own functions procedures, rows = own :: (functions ++ procedures) ∧
    TellsOf catalog root entry.2.name entry own ∧
    OwnRows catalog root entry.1 .function functions ∧
    OwnRows catalog root entry.1 .procedure procedures

section

variable {catalog : Catalog} (hown : catalog.NamesOwnFiles) (root : RawText)

include hown

theorem tellsOf_declarationRow {entry : Place × Declaration} (h : entry ∈ catalog.symbols)
    (name : String) :
    TellsOf catalog root name entry (declarationRow catalog root name entry.2) := by
  have hget := Catalog.mem_symbols_iff.mp h
  obtain ⟨file, hfile, _⟩ := Catalog.get?_eq_some_iff.mp hget
  refine ⟨rfl, ⟨file, hfile, ?_⟩, ?_, ?_⟩
  · rw [declarationRow, location, hown entry.1 entry.2 hget, hfile]
    rfl
  · cases hdoc : entry.2.doc with
    | none => simp [declarationRow, Declaration.short, hdoc]
    | some doc => simpa [declarationRow, Declaration.short, hdoc] using isFirstSentence_short doc
  · rw [declarationRow, usedText, total_eq_sum, Uses.fileCount, Declaration.isUsed]
    cases entry.2.uses with
    | nil => rfl
    | cons use rest => rfl

theorem forall₂_tellsOf {order : List (Place × Declaration)}
    (h : ∀ entry ∈ order, entry ∈ catalog.symbols) (name : Place × Declaration → String) :
    List.Forall₂ (fun entry => TellsOf catalog root (name entry) entry) order
      (order.map fun entry => declarationRow catalog root (name entry) entry.2) := by
  rw [List.forall₂_map_right_iff, List.forall₂_same]
  intro entry hentry
  exact tellsOf_declarationRow hown root (h entry hentry) (name entry)

theorem ownRows_routineRows {place : Place} {package : Package}
    (h : (place, package) ∈ catalog.placedPackages) {kind : Kind} (hkind : kind.isRoutine = true) :
    OwnRows catalog root place kind (routineRows catalog root package kind) := by
  have hsorted := stablySorted_sortByKey (fun entry => Text.upper entry.2.name)
    (catalog.symbols.filter fun entry => place.isInside kind entry.1)
  refine ⟨_, hsorted, ?_⟩
  rw [routineRows, ← Catalog.routines_inside h hkind, sortByName, sortByKey_map, List.map_map]
  refine forall₂_tellsOf hown root ?_ fun entry => s!"  {kind.name} {entry.2.name}"
  intro entry hentry
  exact List.mem_of_mem_filter (hsorted.perm.mem_iff.mp hentry)

theorem isBlock_packageRows {place : Place} {package : Package}
    (h : (place, package) ∈ catalog.placedPackages) :
    IsBlock catalog root (place, package.decl)
      (declarationRow catalog root package.decl.name package.decl ::
        (routineRows catalog root package .function ++
          routineRows catalog root package .procedure)) := by
  have hmem := Catalog.mem_symbols_of_placedPackages h
  exact ⟨_, _, _, rfl, tellsOf_declarationRow hown root hmem package.decl.name,
    ownRows_routineRows hown root h rfl, ownRows_routineRows hown root h rfl⟩

end

/-- The symbols of a kind. -/
def ofKind (catalog : Catalog) (kind : Kind) : List (Place × Declaration) :=
  catalog.symbols.filter (·.2.kind = kind)

/-- Rows that tell of symbols, one after the other, under the names shown for them. -/
def TellsEach (catalog : Catalog) (root : RawText) :
    List (Place × Declaration) → List PageRow → Prop :=
  List.Forall₂ fun entry row =>
    NamedAs catalog entry row.name ∧ TellsOf catalog root row.name entry row

/-- The row of a file: its label and kind, and how much it declares. -/
def rowOfFile (label : IndexedFile → String) (file : IndexedFile) : PageRow :=
  let routines := (file.packages.map fun package =>
    package.functions.length + package.procedures.length).sum
  ⟨label file, file.kind.name,
    s!"{file.views.length} views, {file.packages.length} packages, {routines} routines", ""⟩

/-- Rows that tell of all files, in the order of their labels. -/
def ListsFiles (catalog : Catalog) (label : IndexedFile → String) (rows : List PageRow) : Prop :=
  ∃ order, StablySorted (fun file => Text.upper (label file)) catalog.files order ∧
    rows = order.map (rowOfFile label)

/-- The rows of all pages. Every page tells of all that it is for, and all but the pages of the
routines are in the order of the names shown. The full page has the packages in the order of the
other page, each with its routines. -/
structure ListsAll (catalog : Catalog) (root : RawText) (rows : Page → List PageRow) : Prop where
  paths : ListsFiles catalog (fun file => Path.relative root file.key) (rows .filePath)
  files : ListsFiles catalog IndexedFile.fileName (rows .file)
  views : ∃ order, StablySorted (Text.upper ·.2.name) (ofKind catalog .view) order ∧
    TellsEach catalog root order (rows .view)
  packages : ∃ order blocks, StablySorted (Text.upper ·.2.name) (ofKind catalog .package) order ∧
    TellsEach catalog root order (rows .package) ∧
    List.Forall₂ (IsBlock catalog root) order blocks ∧ rows .packageFull = blocks.flatten
  functions : ∃ order, order.Perm (ofKind catalog .function) ∧
    TellsEach catalog root order (rows .function)
  procedures : ∃ order, order.Perm (ofKind catalog .procedure) ∧
    TellsEach catalog root order (rows .procedure)
  length_packageFull : (rows .packageFull).length =
    catalog.stats.packages + catalog.stats.functions + catalog.stats.procedures

theorem listsFiles_filePageRows (catalog : Catalog) (label : IndexedFile → String) :
    ListsFiles catalog label (filePageRows catalog label) := by
  refine ⟨_, stablySorted_sortByKey _ catalog.files, ?_⟩
  have hrow : fileRow label = rowOfFile label := by
    funext file
    simp [fileRow, rowOfFile, List.length_flatMap]
  rw [filePageRows, sortByName, sortByKey_map, hrow]
  rfl

section

variable {catalog : Catalog} (hown : catalog.NamesOwnFiles) (root : RawText)

include hown

theorem tellsEach_declarationRows (kind : Kind) :
    TellsEach catalog root
      (sortByKey (fun entry => Text.upper (if kind.isRoutine then
        lastName (catalog.shownName entry.1) else catalog.shownName entry.1)) (ofKind catalog kind))
      (declarationRows catalog root kind) := by
  rw [declarationRows, sortByName, sortByKey_map, TellsEach, List.forall₂_map_right_iff]
  refine List.forall₂_same.mpr fun entry hentry => ?_
  have hmem := List.mem_of_mem_filter ((stablySorted_sortByKey _ _).perm.mem_iff.mp hentry)
  exact ⟨namedAs_shownName hmem, tellsOf_declarationRow hown root hmem (catalog.shownName entry.1)⟩

theorem exists_perm_tellsEach (kind : Kind) : ∃ order, order.Perm (ofKind catalog kind) ∧
    TellsEach catalog root order (declarationRows catalog root kind) :=
  ⟨_, (stablySorted_sortByKey _ _).perm, tellsEach_declarationRows hown root kind⟩

end

/-- The name shown for what is no routine is its own, so pages of other kinds are in the order of
the names alone. -/
theorem stablySorted_ofKind {catalog : Catalog} (h : catalog.KindsFit) {kind : Kind}
    (hkind : kind.isRoutine = false) :
    StablySorted (Text.upper ·.2.name) (ofKind catalog kind)
      (sortByKey (fun entry => Text.upper (if kind.isRoutine then
        lastName (catalog.shownName entry.1) else catalog.shownName entry.1))
        (ofKind catalog kind)) := by
  refine (stablySorted_sortByKey _ _).congr fun entry hentry => ?_
  obtain ⟨hmem, hsame⟩ := List.mem_filter.mp hentry
  obtain ⟨place, decl⟩ := entry
  have hfits := h place decl (Catalog.mem_symbols_iff.mp hmem)
  have hnamed := namedAs_shownName hmem
  rw [← of_decide_eq_true hsame, hfits] at hkind
  rw [if_neg (by simp [← of_decide_eq_true hsame, hfits, hkind])]
  cases place with
  | view f i => rw [hnamed]
  | package f p => rw [hnamed]
  | routine f p own i =>
    obtain ⟨owner, _, _, hroutine⟩ := Catalog.exists_owner (Catalog.mem_symbols_iff.mp hmem)
    cases own <;> simp_all [Package.routines, Place.kind, Kind.isRoutine]

/-- The packages with their places, in the order of their names. -/
def sortedPackages (catalog : Catalog) : List (Place × Package) :=
  sortByName (·.2.decl.name) catalog.placedPackages

theorem packageRows_eq_flatMap (catalog : Catalog) (root : RawText) :
    packageRows catalog root = (sortedPackages catalog).flatMap fun entry =>
      declarationRow catalog root entry.2.decl.name entry.2.decl ::
        (routineRows catalog root entry.2 .function ++
          routineRows catalog root entry.2 .procedure) := by
  rw [packageRows, Catalog.packages_eq_map_placedPackages, sortByName, sortByKey_map,
    List.flatMap_map]
  rfl

theorem stablySorted_sortedPackages {catalog : Catalog} (h : catalog.KindsFit) :
    StablySorted (Text.upper ·.2.name) (ofKind catalog .package)
      ((sortedPackages catalog).map fun entry => (entry.1, entry.2.decl)) := by
  have hkinds : ofKind catalog .package =
      catalog.placedPackages.map fun entry => (entry.1, entry.2.decl) := by
    rw [← Catalog.filter_kind_package]
    refine List.filter_congr fun entry hentry => ?_
    rw [h entry.1 entry.2 (Catalog.mem_symbols_iff.mp hentry)]
  rw [hkinds]
  exact (stablySorted_sortByKey _ _).map

theorem length_packageRows {catalog : Catalog} (h : catalog.KindsFit) (root : RawText) :
    (packageRows catalog root).length =
      catalog.stats.packages + catalog.stats.functions + catalog.stats.procedures := by
  have hrows (package : Package) (kind : Kind) :
      (routineRows catalog root package kind).length = (package.routines kind).length := by
    rw [routineRows, List.length_map]
    exact (stablySorted_sortByKey _ _).perm.length_eq
  have hsorted : (sortedPackages catalog).Perm catalog.placedPackages :=
    (stablySorted_sortByKey _ _).perm
  rw [packageRows_eq_flatMap, (hsorted.flatMap_right _).length_eq,
    ← Catalog.length_flatMap_ownSymbols h, List.length_flatMap, List.length_flatMap]
  simp [hrows, Catalog.ownSymbols, Catalog.packageSymbols, Package.routines]

theorem listings_eq_map (catalog : Catalog) (root : RawText) (pages : PageSettings) :
    listings catalog root pages =
      (Page.all.filter pages.isEnabled).map fun page => ⟨page, rows catalog root page⟩ := by
  unfold listings
  induction Page.all with
  | nil => rfl
  | cons page rest ih =>
    cases henabled : pages.isEnabled page with
    | true =>
      have hlisted : listing? catalog root pages page = some ⟨page, rows catalog root page⟩ :=
        if_pos henabled
      rw [List.filterMap_cons_some hlisted, List.filter_cons_of_pos henabled, List.map_cons, ih]
    | false =>
      have hleft : listing? catalog root pages page = none := if_neg (by simp [henabled])
      rw [List.filterMap_cons_none hleft, List.filter_cons_of_neg (by simp [henabled]), ih]

/-- The listings of a catalog that is made by the operations are those of the pages switched on, in
page order, and every page tells of all that it is for. -/
theorem run_listings_tell_all {n : Nat} {catalog : Catalog} (h : Catalog.Run .empty n catalog)
    (root : RawText) (pages : PageSettings) :
    listings catalog root pages =
        (Page.all.filter pages.isEnabled).map (fun page => ⟨page, rows catalog root page⟩) ∧
      ListsAll catalog root (rows catalog root) := by
  have hown := h.namesOwnFiles Catalog.namesOwnFiles_empty
  have hfits := h.kindsFit Catalog.kindsFit_empty
  have hpackages := stablySorted_sortedPackages hfits
  refine ⟨listings_eq_map catalog root pages, listsFiles_filePageRows catalog _,
    listsFiles_filePageRows catalog _,
    ⟨_, stablySorted_ofKind hfits rfl, tellsEach_declarationRows hown root .view⟩,
    ⟨_, _, hpackages, ?_, ?_, packageRows_eq_flatMap catalog root⟩,
    exists_perm_tellsEach hown root .function, exists_perm_tellsEach hown root .procedure,
    length_packageRows hfits root⟩
  · rw [hpackages.unique (stablySorted_ofKind hfits rfl)]
    exact tellsEach_declarationRows hown root .package
  · rw [List.forall₂_map_left_iff, List.forall₂_map_right_iff, List.forall₂_same]
    intro entry hentry
    exact isBlock_packageRows hown root ((stablySorted_sortByKey _ _).perm.mem_iff.mp hentry)

/-- Two files with packages whose names differ in their case only, one of them used. -/
def mixedPackages : Catalog :=
  let first := ["create package body zeta as", "PROCEDURE close(a number) is",
    "function Total(a number) return number is", "function tax(a number) return number is",
    "create package body Alpha as"]
  let second := ["create package body alpha as", "create view alpha as"]
  let found := (Catalog.empty.addFile "./b.sql" .sql).addFile "./a.sql" .sql
  let partly := (DeclarationRules.extract ⟨⟨true⟩, 0⟩ found 0 first []).1
  let declared := (DeclarationRules.extract ⟨⟨true⟩, 0⟩ partly 1 second []).1
  (declared.resolveIn [0, 1] ⟨true⟩ fun _ => some ["x := zeta.tax(1);"]).1

theorem mixedPackages_eq :
    let routine (kind : Kind) (name : String) (line : UInt32) : Declaration :=
      ⟨kind, name, 0, line, none, 0, []⟩
    let uses : Uses := [("./b.sql", [⟨1, 1⟩]), ("./a.sql", [⟨2, 1⟩])]
    mixedPackages =
      ⟨[⟨1, "./b.sql", .sql, [],
          [⟨⟨.package, "zeta", 0, 1, none, 3, uses⟩,
            [routine .function "Total" 3, ⟨.function, "tax", 0, 4, none, 4, uses⟩],
            [routine .procedure "close" 2]⟩,
          ⟨⟨.package, "Alpha", 0, 5, none, 0, []⟩, [], []⟩]⟩,
        ⟨2, "./a.sql", .sql, [⟨.view, "alpha", 1, 2, none, 0, []⟩],
          [⟨⟨.package, "alpha", 1, 1, none, 0, []⟩, [], []⟩]⟩], 4⟩ := by
  decide +kernel

theorem run_listings_tell_all_mixedPackages :
    let pages : PageSettings := { PageSettings.standard with view := true, file := false }
    (listings mixedPackages "." pages).map (·.page) =
        [.filePath, .view, .package, .packageFull, .function, .procedure] ∧
      ListsAll mixedPackages "." (rows mixedPackages ".") ∧
      rows mixedPackages "." .filePath =
        [⟨"a.sql", "sql", "1 views, 1 packages, 0 routines", ""⟩,
          ⟨"b.sql", "sql", "0 views, 2 packages, 3 routines", ""⟩] ∧
      rows mixedPackages "." .package =
        [⟨"Alpha", "b.sql:5", "", "no use found"⟩, ⟨"alpha", "a.sql:1", "", "no use found"⟩,
          ⟨"zeta", "b.sql:1", "", "2 in 2 file(s)"⟩] ∧
      (rows mixedPackages "." .packageFull).length = 6 := by
  intro pages
  have hrun : Catalog.Run .empty _ mixedPackages :=
    ((((Catalog.Run.done.next (.addFile "./b.sql" .sql)).next (.addFile "./a.sql" .sql)).next
      (.extract ⟨⟨true⟩, 0⟩ 0 _ [])).next (.extract ⟨⟨true⟩, 0⟩ 1 _ [])).next
        (.resolve [0, 1] ⟨true⟩ _)
  obtain ⟨hlistings, hall⟩ := run_listings_tell_all hrun "." pages
  refine ⟨?_, hall, ?_, ?_, ?_⟩
  · rw [hlistings, List.map_map]
    rfl
  · rw [mixedPackages_eq]
    apply sortByKey_eq_of_stable <;> decide +kernel
  · rw [mixedPackages_eq]
    apply sortByKey_eq_of_stable <;> decide +kernel
  · rw [hall.length_packageFull, mixedPackages_eq]
    decide +kernel

end Report

end CrossRef
