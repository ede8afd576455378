import CrossRef.Proofs.CountsAgree
import CrossRef.Proofs.SharedUses
import CrossRef.Proofs.ViewHeads

namespace CrossRef

def IndexedFile.withoutViews (file : IndexedFile) : IndexedFile :=
  { file with views := [] }

/-- A catalog with its files, packages and routines alone. -/
def Catalog.withoutViews (catalog : Catalog) : Catalog :=
  { catalog with files := catalog.files.map IndexedFile.withoutViews }

namespace Extraction

/-- A state, and one in which the same has happened except that no view was added. -/
structure SameButViews (state bare : State) : Prop where
  file : bare.file = state.file.withoutViews
  packageOpen : bare.packageOpen = state.packageOpen

section

variable {docs : List DocBlock} {window : UInt32} {index : Nat} {line : UInt32} {state bare : State}
  {header : Header}

theorem SameButViews.addView (h : SameButViews state bare) (hkind : header.kind = .view) :
    SameButViews (addHeader docs window index line state header) bare := by
  obtain ⟨kind, name⟩ := header
  cases hkind
  cases name with
  | none => exact h
  | some name => exact ⟨h.file, h.packageOpen⟩

theorem SameButViews.addOther (h : SameButViews state bare) (hkind : header.kind ≠ .view) :
    SameButViews (addHeader docs window index line state header)
      (addHeader docs window index line bare header) := by
  refine ⟨?_, by rw [packageOpen_addHeader, packageOpen_addHeader, h.packageOpen]⟩
  obtain ⟨kind, name⟩ := header
  have hpackages : bare.file.packages = state.file.packages := by
    rw [h.file]
    rfl
  cases name with
  | none => exact h.file
  | some name =>
    cases kind with
    | view => exact absurd rfl hkind
    | package => simp [addHeader, h.file, IndexedFile.withoutViews]
    | function =>
      simp only [addHeader, hpackages]
      split
      · exact h.file
      · simp [h.file, IndexedFile.withoutViews]
    | procedure =>
      simp only [addHeader, hpackages]
      split
      · exact h.file
      · simp [h.file, IndexedFile.withoutViews]

theorem SameButViews.addViews (h : SameButViews state bare) {headers : List Header}
    (hkind : ∀ header ∈ headers, header.kind = .view) :
    SameButViews (headers.foldl (addHeader docs window index line) state) bare := by
  induction headers generalizing state with
  | nil => exact h
  | cons header rest ih =>
    exact ih (h.addView (hkind header (by simp))) fun later hl => hkind later (by simp [hl])

theorem SameButViews.addOthers (h : SameButViews state bare) {headers : List Header}
    (hkind : ∀ header ∈ headers, header.kind ≠ .view) :
    SameButViews (headers.foldl (addHeader docs window index line) state)
      (headers.foldl (addHeader docs window index line) bare) := by
  induction headers generalizing state bare with
  | nil => exact h
  | cons header rest ih =>
    exact ih (h.addOther (hkind header (by simp))) fun later hl => hkind later (by simp [hl])

end

theorem SameButViews.addLine {state bare : State} (h : SameButViews state bare) (window : UInt32)
    (docs : List DocBlock) (index : Nat) (line : String) (position : Nat) :
    SameButViews (addLine ⟨⟨true⟩, window⟩ docs index state line position)
      (addLine ⟨⟨false⟩, window⟩ docs index bare line position) := by
  unfold Extraction.addLine
  split
  next => exact h
  next =>
    rw [h.packageOpen, HeaderRules.readLine_with_views, LineReading.addViews, List.foldl_append]
    have hopened : SameButViews
        { state with
          packageOpen := (HeaderRules.readLine ⟨false⟩ state.packageOpen line).packageOpen }
        { bare with
          packageOpen := (HeaderRules.readLine ⟨false⟩ state.packageOpen line).packageOpen } :=
      ⟨h.file, rfl⟩
    exact (hopened.addViews fun header hh => Header.kind_of_views hh).addOthers
      fun header hh => HeaderRules.kind_of_readLine_without_views hh

theorem file_addLines_without_views (window : UInt32) (docs : List DocBlock) (index : Nat)
    (file : IndexedFile) (lines : List String) :
    (addLines ⟨⟨false⟩, window⟩ docs index file.withoutViews lines).file =
      (addLines ⟨⟨true⟩, window⟩ docs index file lines).file.withoutViews := by
  have fold (entries : List (String × Nat)) {state bare : State} (h : SameButViews state bare) :
      SameButViews
        (entries.foldl (fun state entry =>
          addLine ⟨⟨true⟩, window⟩ docs index state entry.1 entry.2) state)
        (entries.foldl (fun state entry =>
          addLine ⟨⟨false⟩, window⟩ docs index state entry.1 entry.2) bare) := by
    induction entries generalizing state bare with
    | nil => exact h
    | cons entry rest ih => exact ih (h.addLine window docs index entry.1 entry.2)
  have hstart : SameButViews ⟨file, .zero, false⟩ ⟨file.withoutViews, .zero, false⟩ := ⟨rfl, rfl⟩
  exact (fold lines.zipIdx hstart).file

end Extraction

namespace Catalog

theorem getElem?_withoutViews (catalog : Catalog) (i : Nat) :
    catalog.withoutViews.files[i]? = (catalog.files[i]?).map IndexedFile.withoutViews := by
  simp [withoutViews]

theorem get?_withoutViews (catalog : Catalog) {place : Place} (hkind : place.kind ≠ .view) :
    catalog.withoutViews.get? place = catalog.get? place := by
  rw [get?_eq_at?, get?_eq_at?, getElem?_withoutViews]
  cases catalog.files[place.file]? with
  | none => rfl
  | some file =>
    cases place with
    | view f i => exact absurd rfl hkind
    | package f p => rfl
    | routine f p kind i => rfl

theorem get?_of_withoutViews {catalog : Catalog} {place : Place} {decl : Declaration}
    (h : catalog.withoutViews.get? place = some decl) : catalog.get? place = some decl := by
  obtain ⟨file, hfile, hat⟩ := get?_eq_some_iff.mp h
  rw [getElem?_withoutViews] at hfile
  obtain ⟨old, hold, rfl⟩ := Option.map_eq_some_iff.mp hfile
  cases place with
  | view f i => simp [IndexedFile.at?, IndexedFile.withoutViews] at hat
  | package f p => exact get?_eq_some_iff.mpr ⟨old, hold, hat⟩
  | routine f p kind i => exact get?_eq_some_iff.mpr ⟨old, hold, hat⟩

theorem searchText?_withoutViews (catalog : Catalog) {place : Place} (hkind : place.kind ≠ .view) :
    catalog.withoutViews.searchText? place = catalog.searchText? place := by
  rw [searchText?, searchText?, get?_withoutViews catalog hkind]
  cases place with
  | view f i => exact absurd rfl hkind
  | package f p => rfl
  | routine f p kind i =>
    have howner : catalog.withoutViews.ownerOf? (.routine f p kind i) =
        catalog.ownerOf? (.routine f p kind i) := by
      simp only [ownerOf?, getElem?_withoutViews]
      cases catalog.files[f]? with
      | none => rfl
      | some file => rfl
    simp only [howner]

/-- A catalog in which nothing is declared has no views to lose. -/
theorem withoutViews_of_undeclared {catalog : Catalog} (h : ∀ place, catalog.get? place = none) :
    catalog.withoutViews = catalog := by
  have hfile : ∀ file ∈ catalog.files, file.withoutViews = file := by
    intro file hmem
    obtain ⟨i, hi⟩ := List.mem_iff_getElem?.mp hmem
    have hnone := h (.view i 0)
    rw [get?_eq_at?, Place.file, hi] at hnone
    have hviews : file.views = [] := by
      cases hv : file.views with
      | nil => rfl
      | cons view rest => simp [IndexedFile.at?, hv] at hnone
    rw [IndexedFile.withoutViews, ← hviews]
  have hfiles := List.map_congr_left hfile
  rw [List.map_id'] at hfiles
  rw [withoutViews, hfiles]

theorem outline_withoutViews {a b : Catalog} (h : a.outline = b.outline) :
    a.withoutViews.outline = b.withoutViews.outline := by
  have hmap (catalog : Catalog) :
      catalog.withoutViews.outline = catalog.outline.map IndexedFile.withoutViews := by
    simp only [withoutViews, outline, List.map_map]
    rfl
  rw [hmap, hmap, h]

end Catalog

theorem DeclarationRules.extract_without_views (window : UInt32) (catalog : Catalog) (index : Nat)
    (lines : List String) (docs : List DocBlock) :
    (extract ⟨⟨false⟩, window⟩ catalog.withoutViews index lines docs).1 =
      (extract ⟨⟨true⟩, window⟩ catalog index lines docs).1.withoutViews := by
  unfold extract
  rw [Catalog.getElem?_withoutViews]
  cases catalog.files[index]? with
  | none => rfl
  | some file =>
    have hkind : file.withoutViews.kind = file.kind := rfl
    simp only [Option.map_some, hkind]
    cases file.kind with
    | native => rfl
    | sql =>
      simp only [Catalog.withoutViews, List.map_set,
        Extraction.file_addLines_without_views]

namespace IndexPlan

/-- The plan with the page of views switched on or off. -/
def withViews (plan : IndexPlan) (view : Bool) : IndexPlan :=
  { plan with settings := { plan.settings with pages := { plan.settings.pages with view } } }

theorem declareFile_without_views (plan : IndexPlan) (source : Contents) {state bare : Extracted}
    (h : bare.catalog = state.catalog.withoutViews) (path : RawText) (index n : Nat) :
    ((plan.withViews false).declareFile source bare path index n).catalog =
      ((plan.withViews true).declareFile source state path index n).catalog.withoutViews := by
  unfold declareFile
  cases source path with
  | none => exact h
  | some lines =>
    have hextract := DeclarationRules.extract_without_views plan.settings.process.window
      state.catalog index lines (plan.docs lines)
    rw [← h] at hextract
    exact hextract

theorem declareAll_without_views (plan : IndexPlan) (source : Contents) {catalog : Catalog}
    (h : ∀ place, catalog.get? place = none) :
    ((plan.withViews false).declareAll source catalog).catalog =
      ((plan.withViews true).declareAll source catalog).catalog.withoutViews := by
  have hstart := (Catalog.withoutViews_of_undeclared h).symm
  have fold (files : List ((RawText × Nat) × Nat)) {state bare : Extracted}
      (h : bare.catalog = state.catalog.withoutViews) :
      (files.foldl (fun state entry => (plan.withViews false).declareFile source state entry.1.1
          entry.1.2 entry.2) bare).catalog =
        (files.foldl (fun state entry => (plan.withViews true).declareFile source state entry.1.1
          entry.1.2 entry.2) state).catalog.withoutViews := by
    induction files generalizing state bare with
    | nil => exact h
    | cons entry rest ih =>
      exact ih (plan.declareFile_without_views source h entry.1.1 entry.1.2 entry.2)
  exact fold (sqlFiles catalog).zipIdx hstart

end IndexPlan

/-- Whether the line at a position of the file at a path has the head of a view. -/
def Contents.hasViewHeadAt (source : Contents) (path : RawText) (position : Nat) : Bool :=
  ((source path).bind fun lines => lines[position]?).any hasViewHead

namespace Catalog

/-- The lines that use a text in the files with a key, each with the number and the path of its
file. -/
def linesOfText (headers : HeaderRules) (source : Contents) (catalog : Catalog)
    (text key : String) : List (Identifier × RawText × Nat) :=
  (catalog.files.filter (·.key = key)).flatMap fun file =>
    ((source file.path).elim [] (headers.usingPositions text)).map fun position =>
      (file.id, file.path, position)

theorem sites_sitesOfText (headers : HeaderRules) (source : Contents) (catalog : Catalog)
    (text key : String) :
    (Uses.recordSites [] (catalog.sitesOfText headers source text)).sites key =
      (catalog.linesOfText headers source text key).map fun (id, _, position) =>
        ⟨id, lineNumber position⟩ := by
  rw [Uses.sites_recordSites, sitesOfText, linesOfText]
  generalize catalog.files = files
  induction files with
  | nil => rfl
  | cons file rest ih =>
    by_cases hkey : file.key = key
    · simp [List.flatMap_cons, List.filter_append, hkey, ih, List.filter_map, Function.comp_def]
    · simp [List.flatMap_cons, List.filter_append, hkey, ih, List.filter_map, Function.comp_def]

theorem linesOfText_with_views (source : Contents) (catalog : Catalog) (text key : String) :
    catalog.linesOfText ⟨true⟩ source text key =
      (catalog.linesOfText ⟨false⟩ source text key).filter fun (_, path, position) =>
        !source.hasViewHeadAt path position := by
  simp only [linesOfText, List.filter_flatMap, List.filter_map, Function.comp_def]
  refine List.flatMap_congr fun file _ => ?_
  unfold Contents.hasViewHeadAt
  cases source file.path with
  | none => rfl
  | some lines => simp [HeaderRules.usingPositions_with_views]

theorem linesOfText_withoutViews (headers : HeaderRules) (source : Contents) (catalog : Catalog)
    (text key : String) :
    catalog.withoutViews.linesOfText headers source text key =
      catalog.linesOfText headers source text key := by
  simp only [linesOfText, withoutViews, List.filter_map, List.flatMap_map]
  rfl

/-- What an index loses and gains with its views: it has the same files, packages and routines, and
these are used on the same lines and, besides, on lines with the head of a view. -/
structure DropsViews (source : Contents) (shown bare : Catalog) : Prop where
  views : bare.views = []
  outline : bare.outline = shown.withoutViews.outline
  uses : ∀ place, place.kind ≠ .view → ∀ decl more,
    shown.get? place = some decl → bare.get? place = some more →
    ∀ key, ∃ lines : List (Identifier × RawText × Nat),
      (∀ id path position, (id, path, position) ∈ lines →
        ∃ file ∈ bare.files, file.id = id ∧ file.path = path ∧ file.key = key ∧
          ∃ text, source path = some text ∧ position < text.length) ∧
      more.uses.sites key = lines.map (fun (id, _, position) => ⟨id, lineNumber position⟩) ∧
      decl.uses.sites key =
        (lines.filter fun (_, path, position) => !source.hasViewHeadAt path position).map
          fun (id, _, position) => ⟨id, lineNumber position⟩

theorem mem_linesOfText {headers : HeaderRules} {source : Contents} {catalog : Catalog}
    {text key : String} {id : Identifier} {path : RawText} {position : Nat}
    (h : (id, path, position) ∈ catalog.linesOfText headers source text key) :
    (id, path) ∈ catalog.labels ∧ path.text = key ∧
      ∃ lines, source path = some lines ∧ position < lines.length := by
  obtain ⟨file, hfile, hentry⟩ := List.mem_flatMap.mp h
  obtain ⟨hmem, hkey⟩ := List.mem_filter.mp hfile
  obtain ⟨_, hposition, heq⟩ := List.mem_map.mp hentry
  cases heq
  refine ⟨List.mem_map_of_mem hmem, of_decide_eq_true hkey, ?_⟩
  cases hs : source file.path with
  | none => simp [hs] at hposition
  | some lines =>
    rw [hs] at hposition
    exact ⟨lines, rfl, HeaderRules.lt_of_mem_usingPositions hposition⟩

theorem views_of_outline {catalog other : Catalog}
    (h : catalog.outline = other.withoutViews.outline) : catalog.views = [] := by
  apply List.flatMap_eq_nil_iff.mpr
  intro file hfile
  have hmem : file.outline ∈ other.withoutViews.outline := h ▸ List.mem_map_of_mem hfile
  obtain ⟨bare, hbare, heq⟩ := List.mem_map.mp hmem
  obtain ⟨old, _, rfl⟩ := List.mem_map.mp hbare
  have hviews : file.views.map Declaration.outline = [] := (congrArg IndexedFile.views heq).symm
  exact List.map_eq_nil_iff.mp hviews

theorem resolveIn_drops_views {declared : Catalog} {order order' : List Nat} (source : Contents)
    (hunused : ∀ place decl, declared.get? place = some decl → decl.uses = [])
    (hp : order.Perm (List.range declared.files.length))
    (hp' : order'.Perm (List.range declared.withoutViews.files.length)) :
    DropsViews source (declared.resolveIn order ⟨true⟩ source).1
      (declared.withoutViews.resolveIn order' ⟨false⟩ source).1 := by
  have hshown : (declared.resolveIn order ⟨true⟩ source).1.outline = declared.outline := by
    rw [resolveIn_fst]
    exact declared.outline_recordEach _
  have hbare : (declared.withoutViews.resolveIn order' ⟨false⟩ source).1.outline =
      declared.withoutViews.outline := by
    rw [resolveIn_fst]
    exact declared.withoutViews.outline_recordEach _
  have houtline := hbare.trans (outline_withoutViews hshown).symm
  refine ⟨views_of_outline houtline, houtline, ?_⟩
  intro place hkind decl more hdecl hmore key
  obtain ⟨old, hold⟩ := exists_of_get?_resolveIn hdecl
  obtain ⟨text, htext⟩ := exists_searchText hold
  have htext' := (declared.searchText?_withoutViews hkind).trans htext
  obtain ⟨found, hfound, huses⟩ : ∃ found,
      (declared.resolveIn order ⟨true⟩ source).1.get? place = some found ∧
        found.uses = Uses.recordSites [] (declared.sitesOfText ⟨true⟩ source text) :=
    uses_resolveIn hp hunused htext
  have hunused' (place : Place) (decl : Declaration)
      (hd : declared.withoutViews.get? place = some decl) : decl.uses = [] :=
    hunused place decl (get?_of_withoutViews hd)
  obtain ⟨found', hfound', huses'⟩ : ∃ found,
      (declared.withoutViews.resolveIn order' ⟨false⟩ source).1.get? place = some found ∧
        found.uses = Uses.recordSites [] (declared.withoutViews.sitesOfText ⟨false⟩ source text) :=
    uses_resolveIn hp' hunused' htext'
  cases Option.some.inj (hfound.symm.trans hdecl)
  cases Option.some.inj (hfound'.symm.trans hmore)
  refine ⟨declared.linesOfText ⟨false⟩ source text key, ?_, ?_, ?_⟩
  · intro id path position hentry
    rw [← linesOfText_withoutViews] at hentry
    obtain ⟨hlabel, hkey, hline⟩ := mem_linesOfText hentry
    rw [← declared.withoutViews.labels_resolveIn order' ⟨false⟩ source] at hlabel
    obtain ⟨file, hfile, heq⟩ := List.mem_map.mp hlabel
    obtain ⟨hid, hpath⟩ := Prod.mk.inj heq
    exact ⟨file, hfile, hid, hpath, (congrArg RawText.text hpath).trans hkey, hline⟩
  · rw [huses', sites_sitesOfText, linesOfText_withoutViews]
  · rw [huses, sites_sitesOfText, linesOfText_with_views]

end Catalog

namespace IndexPlan

/-- With the page of views switched off, an index has the same files, packages and routines, and
views no longer hide the lines with their heads from being searched. -/
theorem run_drops_views (plan : IndexPlan)
    (horder : ∀ catalog, (plan.order catalog).Perm (List.range catalog.files.length))
    (entries : Option (List Entry)) (source : Contents) :
    (∃ error, ((plan.withViews true).run entries source).2 = .error error ∧
        ((plan.withViews false).run entries source).2 = .error error) ∨
      ∃ shown bare summary summary',
        ((plan.withViews true).run entries source).2 = .ok (shown, summary) ∧
        ((plan.withViews false).run entries source).2 = .ok (bare, summary') ∧
        Catalog.DropsViews source shown bare := by
  rcases hclassify : Classification.classify plan.settings.files entries .empty with
    ⟨classified, error | counts⟩
  · have hrun (view : Bool) : ((plan.withViews view).run entries source).2 = .error error :=
      congrArg Prod.snd
        ((plan.withViews view).run_of_refused (congrArg Prod.snd hclassify) source)
    exact Or.inl ⟨error, hrun true, hrun false⟩
  · have hrun (view : Bool) :=
      congrArg Prod.snd ((plan.withViews view).run_of_classified hclassify source)
    have hclassified := Classification.justClassified_classify hclassify
    have hgrows := (plan.withViews true).grows_declareAll source classified
    refine Or.inr ⟨_, _, _, _, hrun true, hrun false, ?_⟩
    rw [plan.declareAll_without_views source hclassified.undeclared]
    refine Catalog.resolveIn_drops_views source ?_ (horder _) (horder _)
    intro place decl hd
    exact (fresh_of_declared hclassified hgrows hd).2.2

theorem run_drops_views_shownPackage :
    let plan := standard Settings.standard
    let entries := some [Entry.file "a.sql", Entry.file "b.sql"]
    let source : Contents := fun path =>
      if path = ↑"./a.sql" then some ["create package body p as"]
      else some ["create or replace view v as select p.f from dual", "call p.f"]
    let catalog (views : List Declaration) (sites : List UseSite) : Catalog :=
      ⟨[⟨1, "./a.sql", .sql, [], [⟨⟨.package, "p", 0, 1, none, 3, [("./b.sql", sites)]⟩, [], []⟩]⟩,
        ⟨2, "./b.sql", .sql, views, []⟩], 3⟩
    let shown := catalog [⟨.view, "v", 1, 1, none, 0, []⟩] [⟨2, 2⟩]
    let bare := catalog [] [⟨2, 1⟩, ⟨2, 2⟩]
    (((plan.withViews true).run entries source).2.map (·.1)).toOption = some shown ∧
      (((plan.withViews false).run entries source).2.map (·.1)).toOption = some bare ∧
      Catalog.DropsViews source shown bare := by
  intro plan entries source catalog shown bare
  have hshown : (((plan.withViews true).run entries source).2.map (·.1)).toOption = some shown := by
    decide +kernel
  have hbare : (((plan.withViews false).run entries source).2.map (·.1)).toOption = some bare := by
    decide +kernel
  refine ⟨hshown, hbare, ?_⟩
  rcases plan.run_drops_views (fun _ => .refl _) entries source with
    ⟨error, herror, _⟩ | ⟨first, second, _, _, hfirst, hsecond, hdrops⟩
  · rw [herror] at hshown
    cases hshown
  · rw [hfirst] at hshown
    rw [hsecond] at hbare
    have heq : first = shown := Option.some.inj hshown
    have heq' : second = bare := Option.some.inj hbare
    exact heq ▸ heq' ▸ hdrops

end IndexPlan

end CrossRef
