import CrossRef.Proofs.CountsAgree
import CrossRef.Proofs.SavedUses
import CrossRef.Proofs.UseRowCounts

namespace CrossRef

/-- Every search of files records uses under the keys of these files. -/
theorem Catalog.recordedIn_resolveIn {catalog : Catalog}
    (hunused : ∀ place decl, catalog.get? place = some decl → decl.uses = []) (order : List Nat)
    (headers : HeaderRules) (source : Contents) {place : Place} {decl : Declaration}
    (h : (catalog.resolveIn order headers source).1.get? place = some decl) :
    decl.uses.RecordedIn (catalog.resolveIn order headers source).1 := by
  have hkeys : (catalog.resolveIn order headers source).1.files.map (·.key) =
      catalog.files.map (·.key) := by
    have htexts := congrArg (List.map RawText.text)
      (catalog.paths_resolveIn order headers source)
    rwa [List.map_map, List.map_map] at htexts
  rw [resolveIn_fst] at h
  obtain ⟨before, id, hbefore, rfl⟩ := exists_of_get?_recordEach h
  refine ⟨sitesOf place (catalog.recordsIn order headers source), ?_, ?_⟩
  · rw [hunused place before hbefore]
  · intro entry hentry
    obtain ⟨use, huse, rfl⟩ := List.mem_map.mp hentry
    obtain ⟨file, hfile, _, mention, _, _, rfl⟩ := mem_recordsIn (List.mem_filter.mp huse).1
    rw [hkeys]
    exact List.mem_map_of_mem hfile

namespace IndexPlan

theorem run_recordedIn {plan : IndexPlan} {entries : Option (List Entry)} {source : Contents}
    {messages : List Progress} {catalog : Catalog} {summary : Summary}
    (h : plan.run entries source = (messages, .ok (catalog, summary))) {place : Place}
    {decl : Declaration} (hmem : (place, decl) ∈ catalog.symbols) :
    decl.uses.RecordedIn catalog := by
  obtain ⟨classified, declared, order, hclassified, hgrows, rfl⟩ := run_eq_ok h
  have hunused (place : Place) (decl : Declaration) (hd : declared.get? place = some decl) :
      decl.uses = [] := (fresh_of_declared hclassified hgrows hd).2.2
  exact Catalog.recordedIn_resolveIn hunused order plan.headers source
    (Catalog.mem_symbols_iff.mp hmem)

end IndexPlan

namespace Report

/-- Rows that show so many lines of so many files. -/
def Shows (rows : List UseRow) (files lines : Nat) : Prop :=
  rows.length = files ∧ (rows.map (·.lines.length)).sum = lines

theorem declarationRow_mem {catalog : Catalog} {place : Place} {decl : Declaration}
    (h : (place, decl) ∈ catalog.symbols) (root : RawText) :
    declarationRow catalog root (catalog.shownName place) decl ∈
      declarationRows catalog root decl.kind := by
  have hrow : (place, decl) ∈ catalog.symbols.filter fun entry => entry.2.kind = decl.kind :=
    List.mem_filter.mpr ⟨h, decide_eq_true rfl⟩
  exact (sortByKey_perm _ _).mem_iff.mpr (List.mem_map.mpr ⟨_, hrow, rfl⟩)

/-- A path below a root is the root followed by what is seen of the path; any other path is seen as
it is written. So the rows of a symbol's uses, read from a catalog or from a store it was saved in,
show the lines and the files that the listing counts, if the files lie below the root, their keys
lead to different places, as those of texts do that lead to different places, and the uses were
recorded in them, as a run records them. -/
theorem rows_show_counts :
    (∀ (root : RawText) (path : String),
      (Path.components root <+: Path.components path →
        Path.components root ++ Path.components (Path.relative root path) =
          Path.components path) ∧
      (¬ Path.components root <+: Path.components path → Path.relative root path = path)) ∧
    (∀ (catalog : Catalog) root, catalog.FilesBelow root →
      (∀ place decl, (place, decl) ∈ catalog.symbols → decl.uses.RecordedIn catalog) →
      ∀ (i : Nat) place decl files lines, catalog.symbols[i]? = some (place, decl) →
      (declarationRow catalog root (catalog.shownName place) decl).used =
        s!"{lines} in {files} file(s)" →
      declarationRow catalog root (catalog.shownName place) decl ∈
        declarationRows catalog root decl.kind ∧
      Shows (useRows root (decl.uses.flat.map fun use => (use.1, use.2.line))) files lines ∧
      ∀ circumstances (before saved : Store.Connection) count,
        before.saveIn circumstances catalog root = (saved, .ok count) →
        Shows (useRows root ((saved.tables.usesOf ((i + 1 : Nat) : Int)).map
          fun use => (use.path, use.line))) files lines) ∧
    (∀ (plan : IndexPlan) entries source messages catalog summary,
      plan.run entries source = (messages, .ok (catalog, summary)) →
      ∀ place decl, (place, decl) ∈ catalog.symbols → decl.uses.RecordedIn catalog) ∧
    (∀ (catalog : Catalog) root,
      (∀ file ∈ catalog.files, Path.components root <+: Path.components file.path) →
      (∀ file ∈ catalog.files, file.path.IsText) →
      (catalog.files.map fun file => Path.components file.path).Nodup →
      catalog.FilesBelow root) := by
  refine ⟨fun root path => ⟨Path.components_relative, Path.relative_elsewhere⟩, ?_,
    fun plan entries source messages catalog summary hrun place decl =>
      IndexPlan.run_recordedIn hrun, fun _ _ => Catalog.filesBelow_of_texts⟩
  intro catalog root hbelow hrecorded i place decl files lines hi hsays
  have hmem := List.mem_of_getElem? hi
  obtain ⟨rfl, rfl⟩ := counts_of_usedText hsays
  have hshows := hbelow.counts_useRows (hrecorded place decl hmem)
  refine ⟨declarationRow_mem hmem root, hshows, ?_⟩
  intro circumstances before saved count hsaved
  rw [Store.Connection.usesOf_saveIn hsaved hi, List.map_map]
  exact hshows

theorem rows_show_counts_threeUses :
    let settings : Settings :=
      { Settings.standard with
        files := { Settings.standard.files with root := "db//" }
        pages := { PageSettings.standard with view := true } }
    let entries := some [Entry.file "a.sql", Entry.file "b.c", Entry.file "c.c"]
    let source : Contents := fun path =>
      if path = ↑"db//a.sql" then some ["create view v as"]
      else if path = ↑"db//b.c" then some ["from v", "join v"]
      else if path = ↑"db//c.c" then some ["into v"] else none
    Path.components "db//" ++ Path.components (Path.relative "db//" "db/./b.c") =
      [↑"db", ↑"b.c"] ∧
    Path.relative "db//" "./db/b.c" = "./db/b.c" ∧
    ∃ messages catalog summary decl,
      (IndexPlan.standard settings).run entries source = (messages, .ok (catalog, summary)) ∧
      catalog.symbols[0]? = some (.view 0 0, decl) ∧
      (declarationRow catalog "db//" (catalog.shownName (.view 0 0)) decl).used =
        "3 in 2 file(s)" ∧
      Shows (useRows "db//" (decl.uses.flat.map fun use => (use.1, use.2.line))) 2 3 ∧
      ∃ saved, (Store.Connection.ofTables .empty true).saveIn .calm catalog "db//" =
          (saved, .ok 1) ∧
        Shows (useRows "db//"
          ((saved.tables.usesOf 1).map fun use => (use.path, use.line))) 2 3 := by
  intro settings entries source
  let decl : Declaration := ⟨.view, "v", 0, 1, none, 4,
    [("db//b.c", [⟨2, 1⟩, ⟨2, 2⟩]), ("db//c.c", [⟨3, 1⟩])]⟩
  let catalog : Catalog := ⟨[⟨1, "db//a.sql", .sql, [decl], []⟩, ⟨2, "db//b.c", .native, [], []⟩,
    ⟨3, "db//c.c", .native, [], []⟩], 4⟩
  have hcatalog : (((IndexPlan.standard settings).run entries source).2.map (·.1)).toOption =
      some catalog := by
    decide +kernel
  have hbelow : catalog.FilesBelow "db//" := Catalog.filesBelow_of_texts (by decide +kernel)
    (by decide +kernel) (by decide +kernel)
  have hstorable : Store.Storable catalog := by
    refine ⟨by decide, fun place found hmem => ?_⟩
    have hfiles : ∀ entry ∈ catalog.symbols, entry.2.file < catalog.files.length := by decide
    exact hfiles (place, found) hmem
  match hrun : (IndexPlan.standard settings).run entries source with
  | (messages, .error _) =>
    rw [hrun] at hcatalog
    cases hcatalog
  | (messages, .ok (found, summary)) =>
    rw [hrun] at hcatalog
    have hfound : found = catalog := Option.some.inj hcatalog
    subst hfound
    have hsave := Store.Connection.save_storable hstorable .empty "db//"
    obtain ⟨hrelative, hshows, hrecorded, _⟩ := rows_show_counts
    have hall := hrecorded _ entries source messages catalog summary hrun
    obtain ⟨-, hcatalogRows, hsavedRows⟩ :=
      hshows catalog "db//" hbelow hall 0 (.view 0 0) decl 2 3 rfl (by decide)
    exact ⟨(hrelative "db//" "db/./b.c").1 (by decide +kernel),
      (hrelative "db//" "./db/b.c").2 (by decide +kernel),
      messages, catalog, summary, decl, rfl, rfl, by decide, hcatalogRows, _, hsave,
      hsavedRows _ _ _ _ hsave⟩

/-- A view with two uses that are recorded under two names of one file, which the catalog lacks. -/
def strayUses : Catalog :=
  let declared : Catalog := ⟨[⟨1, "./a.sql", .sql, [⟨.view, "v", 0, 1, none, 0, []⟩], []⟩], 1⟩
  ((declared.addUse (.view 0 0) "./b.sql" ⟨1, 3⟩).1.addUse (.view 0 0) "b.sql" ⟨1, 4⟩).1

/-- Two files that lead to different places, although they are shown as two ways of writing one
path, and a view that both use. -/
def spelledTwice : Catalog :=
  ⟨[⟨1, ⟨[0x78, 0x2f, 0x64, 0xfe]⟩, .sql, [⟨.view, "v", 0, 1, none, 3,
      [("x/d\ufffd", [⟨1, 3⟩]), ("x//d\ufffd", [⟨2, 4⟩])]⟩], []⟩,
    ⟨2, ⟨[0x78, 0x2f, 0x2f, 0x64, 0xff]⟩, .native, [], []⟩], 3⟩

/-- Where uses are recorded under other paths than those of the files, or paths that are no texts
are shown alike, the listing may count more files than there are rows. -/
theorem rows_fewer_than_counts :
    (strayUses.FilesBelow "." ∧
      ∃ decl, strayUses.symbols[0]? = some (.view 0 0, decl) ∧
        (declarationRow strayUses "." (strayUses.shownName (.view 0 0)) decl).used =
          "2 in 2 file(s)" ∧
        ¬ Shows (useRows "." (decl.uses.flat.map fun use => (use.1, use.2.line))) 2 2) ∧
    (∀ file ∈ spelledTwice.files, Path.components "x" <+: Path.components file.path) ∧
      (spelledTwice.files.map fun file => Path.components file.path).Nodup ∧
      ∃ decl, spelledTwice.symbols[0]? = some (.view 0 0, decl) ∧
        decl.uses.RecordedIn spelledTwice ∧
        (declarationRow spelledTwice "x" (spelledTwice.shownName (.view 0 0)) decl).used =
          "2 in 2 file(s)" ∧
        ¬ Shows (useRows "x" (decl.uses.flat.map fun use => (use.1, use.2.line))) 2 2 := by
  have hfewer {root : RawText} {uses : List (String × UInt32)}
      (h : (gathered root uses).length ≠ 2) : ¬ Shows (useRows root uses) 2 2 := by
    rintro ⟨hrows, -⟩
    exact h ((useRows_perm _ _).length_eq.symm.trans hrows)
  refine ⟨⟨?_, ?_⟩, by decide +kernel, by decide +kernel, ?_⟩
  · exact Catalog.filesBelow_of_texts (by decide +kernel) (by decide +kernel) (by decide +kernel)
  · exact ⟨⟨.view, "v", 0, 1, none, 2, [("./b.sql", [⟨1, 3⟩]), ("b.sql", [⟨1, 4⟩])]⟩, by decide,
      by decide +kernel, hfewer (by decide +kernel)⟩
  · exact ⟨_, rfl, ⟨[("x/d\ufffd", ⟨1, 3⟩), ("x//d\ufffd", ⟨2, 4⟩)], by decide +kernel,
      by decide +kernel⟩, by decide +kernel, hfewer (by decide +kernel)⟩

end Report

end CrossRef
