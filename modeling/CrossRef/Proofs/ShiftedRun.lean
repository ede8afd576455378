import CrossRef.Proofs.DeclaringLines
import CrossRef.Proofs.ShiftedLines

namespace CrossRef

/-- The same files with further lines in front of each. -/
def Contents.behind (source : Contents) (front : RawText → List String) : Contents :=
  fun path => (source path).map (front path ++ ·)

/-- How many lines are put in front of each file. -/
def frontLength (front : RawText → List String) (path : RawText) : Nat :=
  (front path).length

def UseRecord.shift (inUses : String → Identifier → Nat) (use : UseRecord) : UseRecord :=
  { use with site := use.site.shift (inUses use.path use.site.fileId) }

/-- A line is put in front of no file that would then have more lines than there are numbers. -/
def Contents.HasRoom (source : Contents) (front : RawText → List String) : Prop :=
  ∀ path lines, front path ≠ [] → source path = some lines →
    lines.length + (front path).length < UInt32.size

theorem Doc.choose?_behind {front lines : List String}
    (hblank : ∀ line ∈ front, Text.IsBlankLine line)
    (hroom : front ≠ [] → lines.length + front.length < UInt32.size) {position : Nat}
    (hp : position < lines.length) (window : UInt32) (kind : Kind) (name : String) :
    choose? (scan (front ++ lines)) window kind name (lineNumber (position + front.length)) =
      (choose? (scan lines) window kind name (lineNumber position)).map
        (DocBlock.shift front.length) := by
  by_cases hfront : front = []
  · subst hfront
    have hshift : DocBlock.shift 0 = id := by
      funext doc
      simp [DocBlock.shift, shiftLine_zero]
    simp [hshift]
  · have hcount := hroom hfront
    have hnumber (p : Nat) (hp : p < lines.length) :
        (lineNumber p).toNat + front.length < UInt32.size := by
      have hfew : p + 1 < UInt32.size := by omega
      rw [toNat_lineNumber hfew]
      omega
    have hdocs : ∀ doc ∈ scan lines, doc.line.toNat + front.length < UInt32.size := by
      intro doc hdoc
      obtain ⟨p, hp, hline⟩ := line_of_mem_scanFrom hdoc
      rw [hline]
      exact hnumber p (by omega)
    rw [scan_behind hblank, lineNumber_add]
    exact choose?_shift hdocs (hnumber position hp) window kind name

section

variable {front : RawText → List String} {inUses : String → Identifier → Nat}
  (hblank : ∀ path, ∀ line ∈ front path, Text.IsBlankLine line)

include hblank

namespace Catalog

theorem recordsOf_behind {needles : List Needle}
    (hwords : ∀ needle ∈ needles, Text.IsWord needle.text)
    (headers : HeaderRules) (source : Contents) {file : IndexedFile}
    (huses : inUses file.key file.id = frontLength front file.path)
    (f : Declaration → Declaration) :
    Resolution.recordsOf (file.mapDecls f)
        (Resolution.searchFile headers needles (source.behind front) (file.mapDecls f)) =
      (Resolution.recordsOf file (Resolution.searchFile headers needles source file)).map
        (UseRecord.shift inUses) := by
  have hpath : (file.mapDecls f).path = file.path := rfl
  cases hs : source file.path with
  | none => simp [Resolution.recordsOf, Resolution.searchFile, Contents.behind, hpath, hs]
  | some lines =>
    have hmentions := Resolution.mentions_behind headers hwords (hblank file.path) lines
    have hshift (mention : Mention) : (mention.useIn file).shift inUses =
        (mention.shift (front file.path).length).useIn (file.mapDecls f) := by
      rw [UseRecord.shift, Mention.useIn, huses]
      rfl
    simp only [Resolution.recordsOf, Resolution.searchFile, Contents.behind, hpath, hs,
      Option.map_some, Option.elim_some, hmentions, List.map_map, Function.comp_def, hshift]

/-- A search of files behind blank lines records the uses it recorded, that much further down, and
gives them the same numbers. -/
theorem resolveIn_behind {catalog : Catalog} {order order' : List Nat}
    (hp : order.Perm (List.range catalog.files.length))
    (hp' : order'.Perm (List.range catalog.files.length))
    (hname : ∀ place decl, catalog.get? place = some decl → Text.IsWord decl.name)
    (huses : ∀ file ∈ catalog.files, inUses file.key file.id = frontLength front file.path)
    (headers : HeaderRules) (source : Contents) :
    ((catalog.mapDecls (Declaration.shift (frontLength front) inUses)).resolveIn order' headers
        (source.behind front)).1 =
      (catalog.resolveIn order headers source).1.mapDecls
        (Declaration.shift (frontLength front) inUses) := by
  let move := Declaration.shift (frontLength front) inUses
  have hneedles : (catalog.mapDecls move).needles = catalog.needles :=
    needles_mapDecls (f := move) (fun _ _ => rfl) catalog
  have hcount : (catalog.mapDecls move).files.length = catalog.files.length := List.length_map _
  have hrecords : (catalog.mapDecls move).recordsIn order' headers (source.behind front) =
      (catalog.recordsIn order headers source).map (UseRecord.shift inUses) := by
    rw [recordsIn_of_perm headers source hp, recordsIn_of_perm headers _ (hcount.symm ▸ hp'),
      hneedles, List.map_flatMap]
    unfold mapDecls
    rw [List.flatMap_map]
    apply List.flatMap_congr
    intro file hfile
    exact recordsOf_behind hblank (isWord_of_needles hname) headers source (huses file hfile) _
  rw [resolveIn_fst, resolveIn_fst, hrecords]
  apply recordEach_mapDecls
  · exact fun _ _ => rfl
  · exact fun _ => rfl
  · exact fun _ => rfl
  · intro use path decl id
    simp only [Declaration.shift, Uses.record_shift]
    rfl

end Catalog

section

variable {source : Contents} (hroom : source.HasRoom front)

include hroom

theorem DeclarationRules.extract_behind (rules : DeclarationRules) {catalog : Catalog} {index : Nat}
    {file : IndexedFile} (hf : catalog.files[index]? = some file) {lines : List String}
    (hs : source file.path = some lines) :
    (rules.extract (catalog.mapDecls (Declaration.shift (frontLength front) inUses)) index
        (front file.path ++ lines) (Doc.scan (front file.path ++ lines))).1 =
      (rules.extract catalog index lines (Doc.scan lines)).1.mapDecls
        (Declaration.shift (frontLength front) inUses) := by
  have hf' : (catalog.mapDecls (Declaration.shift (frontLength front) inUses)).files[index]? =
      some (file.mapDecls (Declaration.shift (frontLength front) inUses file.path)) := by
    rw [Catalog.getElem?_mapDecls, hf]
    rfl
  have hkind : (file.mapDecls (Declaration.shift (frontLength front) inUses file.path)).kind =
      file.kind := rfl
  have hchoose : ∀ position < lines.length, ∀ kind name,
      Doc.choose? (Doc.scan (front file.path ++ lines)) rules.window kind name
          (lineNumber (position + frontLength front file.path)) =
        (Doc.choose? (Doc.scan lines) rules.window kind name (lineNumber position)).map
          (DocBlock.shift (frontLength front file.path)) := by
    intro position hp kind name
    have hlines := fun hne => hroom file.path lines hne hs
    exact Doc.choose?_behind (hblank file.path) hlines hp rules.window kind name
  have hadd : Extraction.addLines rules (Doc.scan (front file.path ++ lines)) index
        (file.mapDecls (Declaration.shift (frontLength front) inUses file.path))
        (front file.path ++ lines) =
      (Extraction.addLines rules (Doc.scan lines) index file lines).mapDecls
        (Declaration.shift (frontLength front) inUses file.path) :=
    Extraction.addLines_behind (hblank file.path) rfl hchoose index file
  have hpath := (Extraction.grows_addLines rules (Doc.scan lines) index file lines).path
  simp only [extract, hf, hf', hkind]
  cases file.kind with
  | native => rfl
  | sql =>
    simp only [hadd, Catalog.mapDecls, List.map_set, hpath]
    rfl

namespace IndexPlan

variable {plan : IndexPlan} (hdocs : plan.docs = Doc.scan)

include hdocs

theorem declareFile_behind {state state' : Extracted}
    (hstate : state'.catalog =
      state.catalog.mapDecls (Declaration.shift (frontLength front) inUses))
    {index : Nat} {file : IndexedFile} (hf : state.catalog.files[index]? = some file) (n : Nat) :
    (plan.declareFile (source.behind front) state' file.path index n).catalog =
      (plan.declareFile source state file.path index n).catalog.mapDecls
        (Declaration.shift (frontLength front) inUses) := by
  unfold declareFile
  cases hs : source file.path with
  | none => simp only [Contents.behind, hs, Option.map_none, hstate]
  | some lines =>
    simp only [Contents.behind, hs, Option.map_some, hstate, hdocs]
    exact plan.rules.extract_behind hblank hroom hf hs

theorem declareAll_behind (catalog : Catalog) :
    (plan.declareAll (source.behind front)
        (catalog.mapDecls (Declaration.shift (frontLength front) inUses))).catalog =
      (plan.declareAll source catalog).catalog.mapDecls
        (Declaration.shift (frontLength front) inUses) := by
  have fold (files : List ((RawText × Nat) × Nat))
      (hm : ∀ entry ∈ files, entry.1 ∈ sqlFiles catalog) (state state' : Extracted)
      (hlabels : state.catalog.labels = catalog.labels)
      (hstate : state'.catalog =
        state.catalog.mapDecls (Declaration.shift (frontLength front) inUses)) :
      (files.foldl (fun state entry => plan.declareFile (source.behind front) state entry.1.1
          entry.1.2 entry.2) state').catalog =
        (files.foldl (fun state entry => plan.declareFile source state entry.1.1 entry.1.2
          entry.2) state).catalog.mapDecls
            (Declaration.shift (frontLength front) inUses) := by
    induction files generalizing state state' with
    | nil => exact hstate
    | cons entry rest ih =>
      obtain ⟨⟨path, index⟩, n⟩ := entry
      obtain ⟨first, hfirst, hpath⟩ := mem_sqlFiles (hm _ List.mem_cons_self)
      obtain ⟨file, hf, _, hsame⟩ := Catalog.file_of_labels hlabels.symm hfirst
      have hnow : file.path = path := hsame.trans hpath
      subst hnow
      refine ih (fun later hl => hm later (List.mem_cons_of_mem _ hl)) _ _ ?_ ?_
      · exact (labels_declareFile plan source state file.path index n).trans hlabels
      · exact declareFile_behind hblank hroom hdocs hstate hf n
  have hfiles : sqlFiles (catalog.mapDecls (Declaration.shift (frontLength front) inUses)) =
      sqlFiles catalog := by
    simp only [sqlFiles, Catalog.mapDecls, List.zipIdx_map, List.filter_map,
      List.map_map]
    rfl
  unfold declareAll
  rw [hfiles]
  refine fold _ ?_ _ _ rfl rfl
  intro entry he
  exact List.mem_of_getElem? (List.mem_zipIdx_iff_getElem?.mp he)

end IndexPlan

end

end

/-- The numbers of lines in a catalog, each with the path of the file whose lines it counts. -/
inductive Catalog.Cites (catalog : Catalog) : RawText → UInt32 → Prop
  | declaration {place : Place} {decl : Declaration} {file : IndexedFile} :
    catalog.get? place = some decl → catalog.files[place.file]? = some file →
      catalog.Cites file.path decl.line
  | doc {place : Place} {decl : Declaration} {file : IndexedFile} {doc : DocBlock} :
    catalog.get? place = some decl → catalog.files[place.file]? = some file →
      decl.doc = some doc → catalog.Cites file.path doc.line
  | use {place : Place} {decl : Declaration} {file : IndexedFile} {sites : List UseSite}
    {site : UseSite} :
    catalog.get? place = some decl → file ∈ catalog.files → (file.key, sites) ∈ decl.uses →
      site ∈ sites → site.fileId = file.id → catalog.Cites file.path site.line

theorem Catalog.mem_of_labels {a b : Catalog} (h : a.labels = b.labels) {file : IndexedFile}
    (hfile : file ∈ a.files) :
    ∃ same ∈ b.files, same.id = file.id ∧ same.path = file.path := by
  obtain ⟨i, hi⟩ := List.mem_iff_getElem?.mp hfile
  obtain ⟨same, hsame, hid, hpath⟩ := file_of_labels h hi
  exact ⟨same, List.mem_of_getElem? hsame, hid, hpath⟩

theorem Catalog.pathOf_of_labels {a b : Catalog} (h : a.labels = b.labels)
    (hb : b.TellsFilesApart) {file : IndexedFile} (hfile : file ∈ a.files) :
    b.pathOf file.key file.id = file.path := by
  obtain ⟨same, hsame, hid, hpath⟩ := mem_of_labels h hfile
  have hkey : same.key = file.key := congrArg RawText.text hpath
  rw [← hkey, ← hid, ← hpath]
  exact pathOf_of_mem hb hsame

/-- As long as numbers do not start again, a number tells one file. -/
theorem Catalog.tellsFilesApart_of_few {catalog : Catalog}
    (ids : ∀ (i : Nat) file, catalog.files[i]? = some file → file.id = UInt64.ofNat (i + 1))
    (hfew : catalog.files.length < UInt64.size) : catalog.TellsFilesApart := by
  intro file hfile other hother _ hid
  obtain ⟨i, hi⟩ := List.mem_iff_getElem?.mp hfile
  obtain ⟨j, hj⟩ := List.mem_iff_getElem?.mp hother
  obtain rfl := index_of_id ids hfew hi hj hid
  cases Option.some.inj (hi.symm.trans hj)
  rfl

namespace IndexPlan

section

variable {plan : IndexPlan} {source : Contents} {classified declared : Catalog}
  (hclassified : classified.JustClassified)
  (hgrows : classified.Grows (plan.Declares source classified) declared)

include hclassified hgrows

theorem isWord_of_declared {place : Place} {decl : Declaration}
    (h : declared.get? place = some decl) : Text.IsWord decl.name := by
  obtain ⟨_, lines, _, _, position, reading, header, hread, hheader, name, hname, rfl⟩ :=
    declares_of_get? hclassified hgrows h
  exact HeaderRules.isWord_of_walk (List.mem_of_getElem? hread) hheader hname

/-- Whatever line a catalog cites is a line of the file in question. -/
theorem line_of_cites (hdocs : plan.docs = Doc.scan) {order : List Nat}
    (hfiles : (declared.resolveIn order plan.headers source).1.TellsFilesApart) {path : RawText}
    {line : UInt32}
    (h : (declared.resolveIn order plan.headers source).1.Cites path line) :
    ∃ lines position, source path = some lines ∧ position < lines.length ∧
      line = lineNumber position := by
  have hlabels := declared.labels_resolveIn order plan.headers source
  have declared_in {place : Place} {decl : Declaration} {file : IndexedFile}
      (hdecl : (declared.resolveIn order plan.headers source).1.get? place = some decl)
      (hfile : (declared.resolveIn order plan.headers source).1.files[place.file]? = some file) :
      ∃ old lines, old.line = decl.line ∧ old.doc = decl.doc ∧ source file.path = some lines ∧
        plan.rules.Declares (plan.docs lines) lines place.file old := by
    rw [Catalog.resolveIn_fst] at hdecl
    obtain ⟨old, id, hold, rfl⟩ := Catalog.exists_of_get?_recordEach hdecl
    obtain ⟨first, lines, hfirst, hs, hdeclares⟩ := declares_of_get? hclassified hgrows hold
    obtain ⟨same, hsame, _, hpath⟩ :=
      Catalog.file_of_labels (hlabels.trans hgrows.labels) hfile
    cases Option.some.inj (hsame.symm.trans hfirst)
    exact ⟨old, lines, rfl, rfl, hpath ▸ hs, hdeclares⟩
  cases h with
  | declaration hdecl hfile =>
    obtain ⟨old, lines, hline, _, hs, p, reading, header, hread, _, name, _, rfl⟩ :=
      declared_in hdecl hfile
    have hp := (List.getElem?_eq_some_iff.mp hread).1
    rw [HeaderRules.length_walk] at hp
    exact ⟨lines, p, hs, hp, hline.symm⟩
  | doc hdecl hfile hdoc =>
    obtain ⟨old, lines, _, hsame, hs, p, reading, header, hread, _, name, _, rfl⟩ :=
      declared_in hdecl hfile
    rw [← hsame, hdocs] at hdoc
    obtain ⟨q, hq, hline⟩ := Doc.line_of_mem_scanFrom (Doc.mem_of_choose? hdoc)
    exact ⟨lines, q, hs, by omega, hline⟩
  | use hdecl hfile hkey hsite hid =>
    obtain ⟨user, huser, hsameKey, lines, q, reading, hs, hread, _, rfl⟩ :=
      line_of_use hclassified hgrows hdecl hkey hsite
    obtain ⟨same, hsame, hsameId, hpath⟩ := Catalog.mem_of_labels hlabels.symm huser
    have hfile := hfiles same hsame _ hfile ((congrArg RawText.text hpath).trans hsameKey)
      (hsameId.trans hid)
    have hq := (List.getElem?_eq_some_iff.mp hread).1
    rw [HeaderRules.length_walk] at hq
    exact ⟨lines, q, hfile ▸ hpath ▸ hs, hq, rfl⟩

end

/-- Extraction and search behind blank lines give the catalog they gave, with its lines moved. -/
theorem resolved_behind {plan : IndexPlan} {source : Contents} {front : RawText → List String}
    (hblank : ∀ path, ∀ line ∈ front path, Text.IsBlankLine line) (hroom : source.HasRoom front)
    (hdocs : plan.docs = Doc.scan)
    (horder : ∀ catalog, (plan.order catalog).Perm (List.range catalog.files.length))
    {classified : Catalog} (hclassified : classified.JustClassified) :
    let declared := (plan.declareAll source classified).catalog
    let resolved := (declared.resolveIn (plan.order declared) plan.headers source).1
    let shifted := (plan.declareAll (source.behind front) classified).catalog
    resolved.TellsFilesApart →
      (shifted.resolveIn (plan.order shifted) plan.headers (source.behind front)).1 =
        resolved.shift (frontLength front) := by
  intro declared resolved shifted hfiles
  let inUses (key : String) (id : Identifier) := frontLength front (resolved.pathOf key id)
  have hgrows := plan.grows_declareAll source classified
  have hstart : classified.mapDecls (Declaration.shift (frontLength front) inUses) = classified :=
    Catalog.mapDecls_of_undeclared hclassified.undeclared
  have hshifted : shifted = declared.mapDecls (Declaration.shift (frontLength front) inUses) := by
    rw [← declareAll_behind hblank hroom hdocs classified, hstart]
  have hcount : shifted.files.length = declared.files.length := by
    rw [hshifted]
    exact List.length_map _
  have hlabels := declared.labels_resolveIn (plan.order declared) plan.headers source
  have huses : ∀ file ∈ declared.files, inUses file.key file.id = frontLength front file.path :=
    fun file hfile => congrArg (frontLength front)
      (Catalog.pathOf_of_labels hlabels.symm hfiles hfile)
  have hwords (place : Place) (decl : Declaration) (h : declared.get? place = some decl) :
      Text.IsWord decl.name := isWord_of_declared hclassified hgrows h
  have hresolve := Catalog.resolveIn_behind hblank (horder declared)
    (hcount ▸ horder shifted) hwords huses plan.headers source
  rwa [← hshifted] at hresolve

/-- Blank lines put in front of files change nothing in the index but the numbers of lines, and
each of these grows by the number of lines put in front of the file it counts in. What a line of a
use counts in is told by a key and a number, which name one file, unless paths that are no texts
are shown alike and the numbers of the files have started again. -/
theorem run_behind_blank_lines (settings : Settings) (order : Catalog → List Nat)
    (horder : ∀ catalog, (order catalog).Perm (List.range catalog.files.length))
    (entries : Option (List Entry)) (source : Contents) (front : RawText → List String)
    (hblank : ∀ path, ∀ line ∈ front path, Text.IsBlankLine line)
    (hroom : source.HasRoom front) :
    let plan : IndexPlan := ⟨settings, Doc.scan, order⟩
    let before := (plan.run entries source).2.map (·.1)
    let later := (plan.run entries (source.behind front)).2.map (·.1)
    (∀ error, before = .error error → later = .error error) ∧
    ∀ catalog, before = .ok catalog →
      ((∀ file ∈ catalog.files, file.path.IsText) ∨ catalog.files.length < UInt64.size →
        catalog.TellsFilesApart) ∧
      (catalog.TellsFilesApart →
        later = .ok (catalog.shift (frontLength front)) ∧
        ∀ path line, catalog.Cites path line →
          (shiftLine (frontLength front path) line).toNat =
            line.toNat + frontLength front path) := by
  intro plan before later
  rcases hclassify : Classification.classify plan.settings.files entries .empty with
    ⟨classified, error | counts⟩
  · have hrefused (source : Contents) := plan.run_of_refused (congrArg Prod.snd hclassify) source
    have hbefore : before = .error error := congrArg (·.2.map (·.1)) (hrefused source)
    have hlater : later = .error error :=
      congrArg (·.2.map (·.1)) (hrefused (source.behind front))
    constructor
    · rintro other hother
      rwa [hbefore, ← hlater] at hother
    · intro catalog hcatalog
      rw [hbefore] at hcatalog
      cases hcatalog
  · have hclassified := Classification.justClassified_classify hclassify
    have hgrows := plan.grows_declareAll source classified
    let declared := (plan.declareAll source classified).catalog
    let shifted := (plan.declareAll (source.behind front) classified).catalog
    have hbefore : before = .ok (declared.resolveIn (order declared) plan.headers source).1 :=
      congrArg (·.2.map (·.1)) (plan.run_of_classified hclassify source)
    have hlater : later =
        .ok (shifted.resolveIn (order shifted) plan.headers (source.behind front)).1 :=
      congrArg (·.2.map (·.1)) (plan.run_of_classified hclassify (source.behind front))
    have hlabels := declared.labels_resolveIn (order declared) plan.headers source
    constructor
    · intro error herror
      rw [hbefore] at herror
      cases herror
    intro catalog hcatalog
    rw [hbefore] at hcatalog
    cases hcatalog
    refine ⟨?_, fun hfiles => ⟨?_, ?_⟩⟩
    · rintro (htexts | hfew)
      · exact Catalog.tellsFilesApart_of_texts htexts
      · refine Catalog.tellsFilesApart_of_few ?_ hfew
        intro i file hf
        obtain ⟨first, hfirst, hid, _⟩ := Catalog.file_of_labels (hlabels.trans hgrows.labels) hf
        exact hid.symm.trans (hclassified.ids i first hfirst)
    · rw [hlater]
      exact congrArg Except.ok
        (resolved_behind hblank hroom rfl horder hclassified hfiles)
    · intro path line hcites
      obtain ⟨lines, position, hs, hp, rfl⟩ := line_of_cites hclassified hgrows rfl hfiles hcites
      by_cases hfront : front path = []
      · rw [frontLength, hfront, List.length_nil, shiftLine_zero, Nat.add_zero]
      · have hlines := hroom path lines hfront hs
        have hfew : position + 1 < UInt32.size := by omega
        have hnumber := toNat_lineNumber hfew
        apply toNat_shiftLine
        rw [hnumber, frontLength]
        omega

theorem run_behind_blank_lines_viewAndUser :
    let pages := { PageSettings.standard with view := true }
    let plan := standard { Settings.standard with process := ⟨2, true⟩, pages }
    let entries := some [Entry.file "a.sql", Entry.file "b.c"]
    let source : Contents := fun path =>
      if path = ↑"./a.sql" then some ["/** Things. */", "create view v as"] else some ["from v"]
    let front (path : RawText) := if path = ↑"./a.sql" then ["", " \t"] else [""]
    let catalog (line docLine useLine : UInt32) : Catalog :=
      ⟨[⟨1, "./a.sql", .sql, [⟨.view, "v", 0, line, some ⟨docLine, "", none, "Things.", []⟩, 3,
          [("./b.c", [⟨2, useLine⟩])]⟩], []⟩, ⟨2, "./b.c", .native, [], []⟩], 3⟩
    (plan.run entries source).2.map (·.1) = .ok (catalog 2 1 1) ∧
      (plan.run entries (source.behind front)).2.map (·.1) = .ok (catalog 4 3 2) ∧
      (shiftLine (frontLength front ↑"./a.sql") 2).toNat = 4 := by
  intro pages plan entries source front catalog
  have hblank : ∀ path, ∀ line ∈ front path, Text.IsBlankLine line := by
    intro path line hline
    by_cases hpath : path = ↑"./a.sql"
    · rw [show front path = ["", " \t"] from if_pos hpath] at hline
      rcases List.mem_cons.mp hline with rfl | hline
      · decide
      · cases List.mem_singleton.mp hline
        decide
    · rw [show front path = [""] from if_neg hpath] at hline
      cases List.mem_singleton.mp hline
      decide
  have hroom : source.HasRoom front := by
    intro path lines _ hlines
    by_cases hpath : path = ↑"./a.sql"
    · rw [show front path = ["", " \t"] from if_pos hpath]
      cases Option.some.inj ((if_pos hpath).symm.trans hlines)
      decide
    · rw [show front path = [""] from if_neg hpath]
      cases Option.some.inj ((if_neg hpath).symm.trans hlines)
      decide
  have hfound : ((plan.run entries source).2.map (·.1)).toOption = some (catalog 2 1 1) := by
    decide +kernel
  have hbefore : (plan.run entries source).2.map (·.1) = .ok (catalog 2 1 1) := by
    cases hrun : (plan.run entries source).2.map (·.1) with
    | error error =>
      rw [hrun] at hfound
      cases hfound
    | ok before =>
      rw [hrun] at hfound
      exact congrArg Except.ok (Option.some.inj hfound)
  obtain ⟨hapart, hmoves⟩ := (run_behind_blank_lines plan.settings plan.order
    (fun _ => List.Perm.refl _) entries source front hblank hroom).2 (catalog 2 1 1) hbefore
  have htexts : ∀ file ∈ (catalog 2 1 1).files, file.path.IsText := by decide +kernel
  obtain ⟨hlater, hcites⟩ := hmoves (hapart (.inl htexts))
  have hshift : (catalog 2 1 1).shift (frontLength front) = catalog 4 3 2 := by decide +kernel
  rw [hshift] at hlater
  refine ⟨hbefore, hlater, ?_⟩
  have hdecl : (catalog 2 1 1).get? (.view 0 0) = some _ := rfl
  have hfile : (catalog 2 1 1).files[(Place.view 0 0).file]? = some _ := rfl
  have hline := hcites _ _ (.declaration hdecl hfile)
  exact hline

end IndexPlan

end CrossRef
