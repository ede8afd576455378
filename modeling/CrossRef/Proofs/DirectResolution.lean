import CrossRef.Proofs.Merging

namespace CrossRef.Catalog

/-- Records the use of a symbol on a line at once if the line has its text. The symbol, its text and
the file are taken from the catalog as it is by then. -/
def useOnLine (index : Nat) (line : String) (number : UInt32) (catalog : Catalog) (k : Nat) :
    Catalog :=
  match catalog.files[index]?, catalog.needles[k]? with
  | some file, some needle =>
    if needle.occursIn (Text.upper line) then
      (catalog.addUse needle.target file.key ⟨file.id, number⟩).1
    else catalog
  | _, _ => catalog

def useLine (index : Nat) (line : String) (number : UInt32) (catalog : Catalog) : Catalog :=
  (List.range catalog.needles.length).foldl (useOnLine index line number) catalog

/-- Records the uses on the lines from a position on, line after line. -/
def useLines (headers : HeaderRules) (index position : Nat) (packageOpen : Bool)
    (catalog : Catalog) : List String → Catalog
  | [] => catalog
  | line :: rest =>
    if isComment line then useLines headers index (position + 1) packageOpen catalog rest
    else
      let reading := headers.readLine packageOpen line
      let used :=
        if reading.isDeclaration then catalog
        else catalog.useLine index line (lineNumber position)
      useLines headers index (position + 1) reading.packageOpen used rest

def useFile (headers : HeaderRules) (source : Contents) (catalog : Catalog) (index : Nat) :
    Catalog :=
  match catalog.files[index]? with
  | none => catalog
  | some file =>
    match source file.path with
    | none => catalog
    | some lines => catalog.useLines headers index 0 false lines

/-- Finds every use of every symbol in one pass, file after file and line after line. -/
def resolveDirectly (headers : HeaderRules) (source : Contents) (catalog : Catalog) : Catalog :=
  (List.range catalog.files.length).foldl (useFile headers source) catalog

theorem recordEach_append (catalog : Catalog) (first second : List UseRecord) :
    catalog.recordEach (first ++ second) = (catalog.recordEach first).recordEach second :=
  List.foldl_append

/-- Steps that record the same uses in all catalogs of an outline record them in a row. -/
theorem foldl_eq_recordEach {α : Type} {outline : List IndexedFile} {step : Catalog → α → Catalog}
    {uses : α → List UseRecord} (items : List α)
    (hstep : ∀ item ∈ items, ∀ state : Catalog, state.outline = outline →
      step state item = state.recordEach (uses item))
    {state : Catalog} (hs : state.outline = outline) :
    items.foldl step state = state.recordEach (items.flatMap uses) := by
  induction items generalizing state with
  | nil => rfl
  | cons item rest ih =>
    have hfirst := hstep item (by simp) state hs
    -- The outline stays, so the next step meets a catalog for which it records its uses too.
    have hkept : (step state item).outline = outline := by
      rw [hfirst, outline_recordEach, hs]
    rw [List.foldl_cons, ih (fun item hi => hstep item (by simp [hi])) hkept, hfirst,
      List.flatMap_cons, recordEach_append]

theorem flatMap_getElem?_range {α : Type} (xs : List α) :
    (List.range xs.length).flatMap (fun k => (xs[k]?).toList) = xs := by
  induction xs with
  | nil => rfl
  | cons x rest ih =>
    rw [List.length_cons, List.range_succ_eq_map, List.flatMap_cons, List.flatMap_map]
    simpa using ih

section

variable {catalog state : Catalog} {index : Nat} {file : IndexedFile}

theorem useOnLine_eq_recordEach (hf : catalog.files[index]? = some file)
    (hs : state.outline = catalog.outline) (line : String) (number : UInt32) (k : Nat) :
    state.useOnLine index line number k =
      state.recordEach (((Resolution.lineMentions (catalog.needles[k]?).toList line number)).map
        (·.useIn file)) := by
  -- The text and the file are read from `state`, but its outline gives them the old values.
  obtain ⟨same, hsame, hid, hpath⟩ := file_of_labels (labels_eq_of_outline hs.symm) hf
  rw [useOnLine, hsame, needles_eq_of_outline hs]
  cases catalog.needles[k]? with
  | none => rfl
  | some needle =>
    by_cases hn : needle.occursIn (Text.upper line) = true
    · simp [hn, Resolution.lineMentions, recordEach, Mention.useIn, IndexedFile.key, hid, hpath]
    · simp [hn, Resolution.lineMentions, recordEach]

theorem useLine_eq_recordEach (hf : catalog.files[index]? = some file)
    (hs : state.outline = catalog.outline) (line : String) (number : UInt32) :
    state.useLine index line number =
      state.recordEach ((Resolution.lineMentions catalog.needles line number).map
        (·.useIn file)) := by
  have hfold := foldl_eq_recordEach (List.range catalog.needles.length)
    (fun k _ state hs => useOnLine_eq_recordEach hf hs line number k) hs
  have hall := congrArg
    (fun needles => (Resolution.lineMentions needles line number).map (·.useIn file))
    (flatMap_getElem?_range catalog.needles)
  simp only [Resolution.lineMentions, List.filter_flatMap, List.map_flatMap] at hall
  rw [useLine, needles_eq_of_outline hs, hfold]
  exact congrArg state.recordEach hall

theorem useLines_eq_recordEach (hf : catalog.files[index]? = some file)
    (hs : state.outline = catalog.outline) (headers : HeaderRules) (position : Nat)
    (packageOpen : Bool) (lines : List String) :
    state.useLines headers index position packageOpen lines =
      state.recordEach
        ((Resolution.searchFrom headers catalog.needles position packageOpen lines).1.map
          (·.useIn file)) := by
  induction lines generalizing state position packageOpen with
  | nil => rfl
  | cons line rest ih =>
    simp only [useLines, Resolution.searchFrom]
    split
    next => exact ih hs _ _
    next =>
      split
      next => exact ih hs _ _
      next =>
        have hline := useLine_eq_recordEach hf hs line (lineNumber position)
        have hkept :
            (state.useLine index line (lineNumber position)).outline = catalog.outline := by
          rw [hline, outline_recordEach, hs]
        rw [ih hkept, hline, List.map_append, recordEach_append]

theorem useFile_eq_recordEach (hf : catalog.files[index]? = some file)
    (hs : state.outline = catalog.outline) (headers : HeaderRules) (source : Contents) :
    state.useFile headers source index =
      state.recordEach (Resolution.recordsOf file
        (Resolution.searchFile headers catalog.needles source file)) := by
  obtain ⟨same, hsame, _, hpath⟩ := file_of_labels (labels_eq_of_outline hs.symm) hf
  rw [useFile, hsame, Resolution.recordsOf_searchFile, ← hpath]
  dsimp only
  cases source same.path with
  | none => rfl
  | some lines => exact useLines_eq_recordEach hf hs headers 0 false lines

end

theorem resolveDirectly_eq_recordEach (headers : HeaderRules) (source : Contents)
    (catalog : Catalog) :
    catalog.resolveDirectly headers source =
      catalog.recordEach (catalog.files.flatMap fun file => Resolution.recordsOf file
        (Resolution.searchFile headers catalog.needles source file)) := by
  let uses (file : IndexedFile) := Resolution.recordsOf file
    (Resolution.searchFile headers catalog.needles source file)
  have hstep : ∀ index ∈ List.range catalog.files.length, ∀ state : Catalog,
      state.outline = catalog.outline →
      state.useFile headers source index =
        state.recordEach ((catalog.files[index]?).toList.flatMap uses) := by
    intro index hi state hs
    have hlt := List.mem_range.mp hi
    have hf : catalog.files[index]? = some catalog.files[index] := by simp [hlt]
    rw [useFile_eq_recordEach hf hs, hf, Option.toList_some, List.flatMap_singleton]
  rw [resolveDirectly, foldl_eq_recordEach _ hstep rfl, ← List.flatMap_assoc,
    flatMap_getElem?_range]

/-- Whatever the order in which the files are searched, a search of all files that records what it
found afterwards leaves the catalog that the one pass leaves, and counts what a search of the files
in their order counts. -/
theorem resolveIn_eq_resolveDirectly (headers : HeaderRules) (source : Contents) (catalog : Catalog)
    {order : List Nat} (hp : order.Perm (List.range catalog.files.length)) :
    (catalog.resolveIn order headers source).1 = catalog.resolveDirectly headers source ∧
      catalog.resolveIn order headers source = catalog.resolve headers source := by
  constructor
  · rw [resolveIn_fst, recordsIn_of_perm headers source hp, resolveDirectly_eq_recordEach]
  · rw [resolve, resolveIn, resolveIn, Resolution.searchAll_of_perm headers source hp,
      Resolution.searchAll_of_perm headers source (.refl _)]

/-- A file that declares a view and a package with a function, and a file that may use them. -/
def viewAndPackage : Catalog :=
  ⟨[⟨1, "a.sql", .sql, [⟨.view, "v", 0, 1, none, 0, []⟩],
      [⟨⟨.package, "p", 0, 2, none, 0, []⟩, [⟨.function, "f", 0, 3, none, 0, []⟩], []⟩]⟩,
    ⟨2, "b.c", .native, [], []⟩], 2⟩

theorem resolveIn_eq_resolveDirectly_viewAndPackage :
    let source : Contents := fun path =>
      if path = "a.sql" then some ["create view v as", "-- p.f"] else some ["p.f(v)"]
    (viewAndPackage.resolveIn [1, 0] ⟨true⟩ source).1 =
        viewAndPackage.resolveDirectly ⟨true⟩ source ∧
      (viewAndPackage.resolveDirectly ⟨true⟩ source).symbols.map (·.2.id) = [3, 4, 5] ∧
      (viewAndPackage.resolveDirectly ⟨true⟩ source).last = 5 := by
  intro source
  have hp : [1, 0].Perm (List.range viewAndPackage.files.length) := by decide
  exact ⟨(resolveIn_eq_resolveDirectly ⟨true⟩ source viewAndPackage hp).1, by decide +kernel,
    by decide +kernel⟩

end CrossRef.Catalog
