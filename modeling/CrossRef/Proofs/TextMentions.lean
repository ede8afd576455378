import CrossRef.Proofs.SharedUses

namespace CrossRef

/-- A line on which symbols are looked for: it is no comment, and nothing is declared on it. -/
structure HeaderRules.Searches (headers : HeaderRules) (lines : List String) (position : Nat)
    (line : String) : Prop where
  stands : lines[position]? = some line
  noComment : isComment line = false
  declaresNothing : ∃ reading, (headers.walk isComment false lines)[position]? = some reading ∧
    reading.isDeclaration = false

theorem HeaderRules.mem_usingPositions_iff {headers : HeaderRules} {text : String}
    {lines : List String} {position : Nat} :
    position ∈ headers.usingPositions text lines ↔
      ∃ line, headers.Searches lines position line ∧ text.toList <:+: (Text.upper line).toList := by
  constructor
  · intro h
    obtain ⟨⟨⟨line, reading⟩, n⟩, hentry, rfl⟩ := List.mem_map.mp h
    obtain ⟨hzip, hpass⟩ := List.mem_filter.mp hentry
    obtain ⟨hline, hread⟩ := List.getElem?_zip_eq_some.mp (List.mem_zipIdx_iff_getElem?.mp hzip)
    obtain ⟨hcomment, hdeclares, htext⟩ := of_decide_eq_true hpass
    exact ⟨line, ⟨hline, hcomment, reading, hread, hdeclares⟩, htext⟩
  · rintro ⟨line, ⟨hline, hcomment, reading, hread, hdeclares⟩, htext⟩
    refine List.mem_map.mpr ⟨((line, reading), position), List.mem_filter.mpr ⟨?_, ?_⟩, rfl⟩
    · exact List.mem_zipIdx_iff_getElem?.mpr (List.getElem?_zip_eq_some.mpr ⟨hline, hread⟩)
    · exact decide_eq_true ⟨hcomment, hdeclares, htext⟩

namespace Text

/-- What stands in a line stands in its upper case, in upper case. -/
theorem upper_infix (front text back : String) :
    (upper text).toList <:+: (upper (front ++ text ++ back)).toList := by
  rw [upper_append, upper_append, String.toList_append, String.toList_append]
  exact List.infix_append _ _ _

end Text

namespace Catalog

/-- A later state of a catalog has a site of a symbol under a key that it did not have before,
behind those it had. -/
def AddsSite (catalog later : Catalog) (place : Place) (key : String) (site : UseSite) : Prop :=
  ∃ decl found added, catalog.get? place = some decl ∧ later.get? place = some found ∧
    found.uses.sites key = decl.uses.sites key ++ added ∧ site ∈ added

section

variable {headers : HeaderRules} {source : Contents} {catalog : Catalog} {order : List Nat}
  (hp : order.Perm (List.range catalog.files.length))

include hp

/-- What a search of all files adds to a symbol under a key are the lines of the files with this key
that have the text of the symbol in them. -/
theorem sites_resolveIn {place : Place} {text : String}
    (htext : catalog.searchText? place = some text) :
    ∃ decl found, catalog.get? place = some decl ∧
      (catalog.resolveIn order headers source).1.get? place = some found ∧
      ∀ key, ∃ added, found.uses.sites key = decl.uses.sites key ++ added ∧
        ∀ site, site ∈ added ↔ ∃ file ∈ catalog.files, ∃ lines position line,
          file.key = key ∧ source file.path = some lines ∧ headers.Searches lines position line ∧
            text.toList <:+: (Text.upper line).toList ∧ site = ⟨file.id, lineNumber position⟩ := by
  obtain ⟨decl, hdecl, _⟩ := Option.bind_eq_some_iff.mp htext
  obtain ⟨id, hlater⟩ := get?_recordEach hdecl (catalog.recordsIn order headers source)
  rw [← resolveIn_fst] at hlater
  refine ⟨decl, _, hdecl, hlater, fun key => ⟨_, decl.uses.sites_recordSites_behind _ key, ?_⟩⟩
  intro site
  rw [sitesOf_recordsIn htext headers source hp]
  constructor
  · intro hsite
    obtain ⟨⟨_, _⟩, hentry, rfl⟩ := List.mem_map.mp hsite
    obtain ⟨hentry, hkey⟩ := List.mem_filter.mp hentry
    obtain ⟨file, hfile, hentry⟩ := List.mem_flatMap.mp hentry
    obtain ⟨position, hposition, hsame⟩ := List.mem_map.mp hentry
    obtain ⟨rfl, rfl⟩ := Prod.mk.inj hsame
    obtain rfl : file.key = key := of_decide_eq_true hkey
    cases hs : source file.path with
    | none => simp [hs] at hposition
    | some lines =>
      rw [hs] at hposition
      obtain ⟨line, hline, hfound⟩ := HeaderRules.mem_usingPositions_iff.mp hposition
      exact ⟨file, hfile, lines, position, line, rfl, hs, hline, hfound, rfl⟩
  · rintro ⟨file, hfile, lines, position, line, rfl, hs, hline, hfound, rfl⟩
    have hposition : position ∈ (source file.path).elim [] (headers.usingPositions text) := by
      rw [hs]
      exact HeaderRules.mem_usingPositions_iff.mpr ⟨line, hline, hfound⟩
    refine List.mem_map.mpr ⟨(file.key, ⟨file.id, lineNumber position⟩), ?_, rfl⟩
    refine List.mem_filter.mpr ⟨?_, decide_eq_true rfl⟩
    exact List.mem_flatMap.mpr ⟨file, hfile, List.mem_map.mpr ⟨position, hposition, rfl⟩⟩

variable {file : IndexedFile} (hfile : file ∈ catalog.files) {lines : List String}
  (hs : source file.path = some lines) {position : Nat} {line : String}
  (hline : headers.Searches lines position line)

include hfile hs hline

/-- Each line that has the text of a symbol in it is recorded for the symbol. -/
theorem addsSite_of_text {place : Place} {text : String}
    (htext : catalog.searchText? place = some text)
    (hfound : text.toList <:+: (Text.upper line).toList) :
    catalog.AddsSite (catalog.resolveIn order headers source).1 place file.key
      ⟨file.id, lineNumber position⟩ := by
  obtain ⟨decl, found, hdecl, hlater, hsites⟩ :=
    sites_resolveIn hp htext
  obtain ⟨added, hadded, hmem⟩ := hsites file.key
  refine ⟨decl, found, added, hdecl, hlater, hadded, (hmem _).mpr ?_⟩
  exact ⟨file, hfile, lines, position, line, rfl, hs, hline, hfound, rfl⟩

/-- So is each line that mentions the shown name of a symbol, in any case and with whatever around
it; behind the name of a package stands a dot. -/
theorem addsSite_of_mention {place : Place} {decl : Declaration}
    (hdecl : catalog.get? place = some decl) {front mention back : String}
    (h : line = front ++ mention ++ back)
    (hname : Text.upper mention = Text.upper (catalog.shownName place) ++
      if place.kind = .package then "." else "") :
    catalog.AddsSite (catalog.resolveIn order headers source).1 place file.key
      ⟨file.id, lineNumber position⟩ := by
  refine addsSite_of_text hp hfile hs hline (searchText?_eq_shownName hdecl) ?_
  rw [h, ← hname]
  exact Text.upper_infix front mention back

end

/-- No mention is missed: a line of a file that can be read, that is no comment and declares
nothing, is recorded for a view whose name stands in it and, where the name of a package, a dot and
the name of one of its routines stand in it, for this package and this routine. Names count as equal
that have equal upper cases, and what stands before and behind them does not count. The number that
is recorded is one more than the position of the line, up to the last number there is. -/
theorem resolveIn_finds_mentions (headers : HeaderRules) (source : Contents) (catalog : Catalog)
    {order : List Nat} (hp : order.Perm (List.range catalog.files.length)) {file : IndexedFile}
    (hfile : file ∈ catalog.files) {lines : List String} (hs : source file.path = some lines)
    {position : Nat} {line : String} (hline : headers.Searches lines position line)
    {front mention back : String} (h : line = front ++ mention ++ back) :
    let later := (catalog.resolveIn order headers source).1
    let site : UseSite := ⟨file.id, lineNumber position⟩
    (∀ f i view, catalog.get? (.view f i) = some view →
      Text.upper mention = Text.upper view.name →
        catalog.AddsSite later (.view f i) file.key site) ∧
    (∀ f p kind i package routine x y, catalog.get? (.package f p) = some package →
      catalog.get? (.routine f p kind i) = some routine → mention = x ++ "." ++ y →
        Text.upper x = Text.upper package.name → Text.upper y = Text.upper routine.name →
          catalog.AddsSite later (.package f p) file.key site ∧
            catalog.AddsSite later (.routine f p kind i) file.key site) ∧
    (position + 1 < UInt32.size → site.line.toNat = position + 1) := by
  intro later site
  refine ⟨?_, ?_, toNat_lineNumber⟩
  · intro f i view hview hname
    refine addsSite_of_mention hp hfile hs hline hview h ?_
    simp [shownName, ownerOf?, hview, hname, Place.kind]
  · rintro f p kind i package routine x y hpackage hroutine rfl hx hy
    constructor
    · have hbehind : line = front ++ (x ++ ".") ++ (y ++ back) := by
        simp only [h, String.append_assoc]
      refine addsSite_of_mention hp hfile hs hline hpackage hbehind ?_
      simp [shownName, ownerOf?, hpackage, Text.upper_append, Text.upper_dot, hx, Place.kind]
    · obtain ⟨owner, howner, hown, hinside⟩ := exists_owner hroutine
      have hkind : kind ≠ .package := by
        rintro rfl
        simp [Package.routines] at hinside
      cases Option.some.inj (hown.symm.trans hpackage)
      refine addsSite_of_mention hp hfile hs hline hroutine h ?_
      simp [shownName, howner, hroutine, Text.upper_append, Text.upper_dot, hx, hy, Place.kind,
        hkind]

/-- A view and a function whose names are longer in upper case than they are written. -/
def expandedNames : Catalog :=
  ⟨[⟨1, "a.sql", .sql, [⟨.view, "straße", 0, 1, none, 0, []⟩],
      [⟨⟨.package, "p", 0, 2, none, 0, []⟩, [⟨.function, "ﬁx", 0, 3, none, 0, []⟩], []⟩]⟩,
    ⟨2, "b.c", .native, [], []⟩], 2⟩

theorem resolveIn_finds_mentions_expandedNames :
    let source : Contents := fun path =>
      if path = ↑"b.c" then some ["-- P.Fix", "join(STRASSE)", "aP.FIXb"] else none
    let later := (expandedNames.resolveIn [1, 0] ⟨true⟩ source).1
    expandedNames.AddsSite later (.view 0 0) "b.c" ⟨2, 2⟩ ∧
      expandedNames.AddsSite later (.package 0 0) "b.c" ⟨2, 3⟩ ∧
      expandedNames.AddsSite later (.routine 0 0 .function 0) "b.c" ⟨2, 3⟩ := by
  intro source later
  let lines := ["-- P.Fix", "join(STRASSE)", "aP.FIXb"]
  have hp : [1, 0].Perm (List.range expandedNames.files.length) := by decide
  have hfile : ⟨2, "b.c", .native, [], []⟩ ∈ expandedNames.files := by decide
  have hs : source "b.c" = some lines := rfl
  have hview : HeaderRules.Searches ⟨true⟩ lines 1 "join(STRASSE)" :=
    ⟨rfl, by decide +kernel, _, rfl, by decide +kernel⟩
  have hroutine : HeaderRules.Searches ⟨true⟩ lines 2 "aP.FIXb" :=
    ⟨rfl, by decide +kernel, _, rfl, by decide +kernel⟩
  have hviews := (resolveIn_finds_mentions ⟨true⟩ source expandedNames hp hfile hs hview
    (show "join(STRASSE)" = "join(" ++ "STRASSE" ++ ")" by decide)).1
  have hroutines := (resolveIn_finds_mentions ⟨true⟩ source expandedNames hp hfile hs hroutine
    (show "aP.FIXb" = "a" ++ "P.FIX" ++ "b" by decide)).2.1
  exact ⟨hviews 0 0 _ rfl (by decide +kernel),
    hroutines 0 0 .function 0 _ _ "P" "FIX" rfl rfl (by decide) (by decide +kernel)
      (by decide +kernel)⟩

end Catalog

end CrossRef
