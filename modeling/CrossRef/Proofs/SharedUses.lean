import CrossRef.Proofs.DiscoveryOrder
import CrossRef.Proofs.RawTexts

namespace CrossRef

/-- The keys of a map are among those of another, and the sites under each key are among those
there, in their order. -/
structure Uses.Within (uses other : Uses) : Prop where
  keys : uses.map Prod.fst ⊆ other.map Prod.fst
  sites : ∀ key, ((uses.lookup key).getD []).Sublist ((other.lookup key).getD [])

/-- The keys of a map are among those of another, in their order. -/
def Uses.InOrderOf (uses other : Uses) : Prop :=
  (uses.map Prod.fst).Sublist (other.map Prod.fst)

/-- A longer text is used on fewer lines. -/
theorem HeaderRules.usingPositions_sublist {short long : String} (h : short.toList <:+: long.toList)
    (headers : HeaderRules) (lines : List String) :
    (headers.usingPositions long lines).Sublist (headers.usingPositions short lines) := by
  apply List.Sublist.map
  apply List.monotone_filter_right
  intro entry hentry
  obtain ⟨hc, hd, hpart⟩ := of_decide_eq_true hentry
  exact decide_eq_true ⟨hc, hd, h.trans hpart⟩

namespace Catalog

/-- Files that are shown alike have one path. -/
def KeysTellPaths (catalog : Catalog) : Prop :=
  ∀ file ∈ catalog.files, ∀ other ∈ catalog.files, file.key = other.key → file.path = other.path

theorem keysTellPaths_of_texts {catalog : Catalog}
    (h : ∀ file ∈ catalog.files, file.path.IsText) : catalog.KeysTellPaths := by
  intro file hfile other hother hkey
  exact (h file hfile).eq_of_text (h other hother) hkey

theorem KeysTellPaths.exists_pathOf {catalog : Catalog} (h : catalog.KeysTellPaths) :
    ∃ pathOf : String → RawText, ∀ file ∈ catalog.files, pathOf file.key = file.path := by
  let pathOf (key : String) : RawText :=
    ((catalog.files.find? (·.key = key)).map (·.path)).getD ↑key
  refine ⟨pathOf, fun file hfile => ?_⟩
  have hsome : (catalog.files.find? (·.key = file.key)).isSome :=
    List.find?_isSome.mpr ⟨file, hfile, by simp⟩
  obtain ⟨found, hfound⟩ := Option.isSome_iff_exists.mp hsome
  have hsame := List.find?_some hfound
  have hkey : found.key = file.key := of_decide_eq_true hsame
  have hpath := h found (List.mem_of_find?_eq_some hfound) file hfile hkey
  simp only [pathOf, hfound, Option.map_some, Option.getD_some, hpath]

/-- The sites of a text in all files. -/
def sitesOfText (headers : HeaderRules) (source : Contents) (catalog : Catalog) (text : String) :
    List (String × UseSite) :=
  catalog.files.flatMap fun file =>
    ((source file.path).elim [] (headers.usingPositions text)).map fun position =>
      (file.key, ⟨file.id, lineNumber position⟩)

/-- How many lines of the file at a path use a text. -/
def usingLineCount (headers : HeaderRules) (source : Contents) (text : String) (path : RawText) :
    Nat :=
  ((source path).elim [] (headers.usingPositions text)).length

theorem keys_sitesOfText {catalog : Catalog} {pathOf : String → RawText}
    (hpath : ∀ file ∈ catalog.files, pathOf file.key = file.path) (headers : HeaderRules)
    (source : Contents) (text : String) :
    firstOfEach id ((catalog.sitesOfText headers source text).map Prod.fst) =
      (firstOfEach id (catalog.files.map (·.key))).filter
        fun key => usingLineCount headers source text (pathOf key) ≠ 0 := by
  rw [← firstOfEach_flatMap_replicate, sitesOfText, List.map_flatMap]
  refine congrArg (firstOfEach id) (List.flatMap_congr fun file hfile => ?_)
  rw [hpath file hfile, List.map_map]
  exact List.map_const' ..

section

variable {short long : String} (h : short.toList <:+: long.toList) (headers : HeaderRules)
  (source : Contents) (catalog : Catalog)

include h

theorem usingPositions_of_file_sublist (path : RawText) :
    ((source path).elim [] (headers.usingPositions long)).Sublist
      ((source path).elim [] (headers.usingPositions short)) := by
  cases source path with
  | none => exact .slnil
  | some lines => exact headers.usingPositions_sublist h lines

theorem sitesOfText_sublist :
    (catalog.sitesOfText headers source long).Sublist
      (catalog.sitesOfText headers source short) :=
  List.Sublist.flatMap_right catalog.files fun file _ =>
    (usingPositions_of_file_sublist h headers source file.path).map _

theorem sitesOfText_within :
    (Uses.recordSites [] (catalog.sitesOfText headers source long)).Within
      (Uses.recordSites [] (catalog.sitesOfText headers source short)) where
  keys := by
    intro key hkey
    rw [Uses.keys_recordSites, mem_firstOfEach_id] at hkey ⊢
    exact ((sitesOfText_sublist h headers source catalog).map Prod.fst).subset hkey
  sites key := by
    show (Uses.sites _ key).Sublist (Uses.sites _ key)
    rw [Uses.sites_recordSites, Uses.sites_recordSites]
    exact ((sitesOfText_sublist h headers source catalog).filter _).map _

/-- Where a key names one path, it is used or not whichever file of this path is searched, so no key
changes its place. -/
theorem sitesOfText_inOrderOf {catalog : Catalog} (hkeys : catalog.KeysTellPaths) :
    (Uses.recordSites [] (catalog.sitesOfText headers source long)).InOrderOf
      (Uses.recordSites [] (catalog.sitesOfText headers source short)) := by
  obtain ⟨pathOf, hpath⟩ := hkeys.exists_pathOf
  rw [Uses.InOrderOf, Uses.keys_recordSites, Uses.keys_recordSites, keys_sitesOfText hpath,
    keys_sitesOfText hpath]
  refine List.monotone_filter_right _ fun key hkey => ?_
  have hle : usingLineCount headers source long (pathOf key) ≤
      usingLineCount headers source short (pathOf key) :=
    (usingPositions_of_file_sublist h headers source (pathOf key)).length_le
  have hused := of_decide_eq_true hkey
  exact decide_eq_true (by omega)

end

section

variable {headers : HeaderRules} {source : Contents} {catalog : Catalog}

/-- A search of all files leaves a symbol that was not used with the sites of its text. -/
theorem uses_resolveIn {order : List Nat} (hp : order.Perm (List.range catalog.files.length))
    (hunused : ∀ place decl, catalog.get? place = some decl → decl.uses = []) {place : Place}
    {text : String} (h : catalog.searchText? place = some text) :
    ∃ found, (catalog.resolveIn order headers source).1.get? place = some found ∧
      found.uses = Uses.recordSites [] (catalog.sitesOfText headers source text) := by
  obtain ⟨decl, hd, _⟩ := Option.bind_eq_some_iff.mp h
  obtain ⟨id, hfound⟩ := get?_recordEach hd (catalog.recordsIn order headers source)
  rw [hunused place decl hd, sitesOf_recordsIn h headers source hp] at hfound
  rw [resolveIn_fst]
  exact ⟨_, hfound, rfl⟩

theorem exists_of_get?_resolveIn {order : List Nat} {place : Place} {found : Declaration}
    (h : (catalog.resolveIn order headers source).1.get? place = some found) :
    ∃ decl, catalog.get? place = some decl := by
  rw [resolveIn_fst] at h
  obtain ⟨decl, _, hd, _⟩ := exists_of_get?_recordEach h
  exact ⟨decl, hd⟩

theorem exists_hit_of_used {place : Place} {text : String}
    (h : catalog.searchText? place = some text)
    (hused : Uses.recordSites [] (catalog.sitesOfText headers source text) ≠ []) :
    ∃ hit, catalog.IsHit headers source hit ∧ hit.place = place := by
  have hsites : catalog.sitesOfText headers source text ≠ [] := by
    intro hnone
    exact hused (by rw [hnone]; rfl)
  obtain ⟨entry, hentry⟩ := List.exists_mem_of_ne_nil _ hsites
  obtain ⟨file, hfile, hentry⟩ := List.mem_flatMap.mp hentry
  obtain ⟨position, hposition, _⟩ := List.mem_map.mp hentry
  obtain ⟨f, hf⟩ := List.mem_iff_getElem?.mp hfile
  cases hs : source file.path with
  | none => simp [hs] at hposition
  | some lines =>
    rw [hs] at hposition
    exact ⟨⟨f, position, place⟩, ⟨text, file, lines, h, hf, hs, hposition⟩, rfl⟩

/-- A line that uses a symbol uses every symbol whose text is part of the symbol's text. -/
theorem IsHit.of_part {hit : Hit} (h : catalog.IsHit headers source hit) {place : Place}
    {short long : String} (hlong : catalog.searchText? hit.place = some long)
    (hshort : catalog.searchText? place = some short) (hpart : short.toList <:+: long.toList) :
    catalog.IsHit headers source { hit with place } := by
  obtain ⟨text, file, lines, htext, hf, hs, hline⟩ := h
  cases Option.some.inj (hlong.symm.trans htext)
  have hfewer := headers.usingPositions_sublist hpart lines
  exact ⟨short, file, lines, hshort, hf, hs, hfewer.subset hline⟩

/-- Of two symbols the one that is hit first has the smaller number. -/
theorem number_lt_of_before {later : Catalog} {base : Nat}
    (hnumbered : later.NumberedInOrder base ((catalog.firstHits headers source).map (·.place)))
    {x y : Hit} (hx : x ∈ catalog.firstHits headers source)
    (hy : y ∈ catalog.firstHits headers source) (hlt : x.Before y) {a b : Declaration}
    (ha : later.get? x.place = some a) (hb : later.get? y.place = some b) : a.id < b.id := by
  obtain ⟨i, hi⟩ := List.mem_iff_getElem?.mp hx
  obtain ⟨j, hj⟩ := List.mem_iff_getElem?.mp hy
  have hij : i < j := by
    have hsorted := List.pairwise_iff_getElem.mp (catalog.firstHits_sorted headers source)
    obtain ⟨hil, rfl⟩ := List.getElem?_eq_some_iff.mp hi
    obtain ⟨hjl, rfl⟩ := List.getElem?_eq_some_iff.mp hj
    rcases Nat.lt_trichotomy i j with hij | rfl | hji
    · exact hij
    · exact absurd hlt (Hit.Before.asymm _ _ hlt)
    · exact absurd hlt (Hit.Before.asymm _ _ (hsorted j i hjl hil hji))
  obtain ⟨a', ha', hida⟩ := hnumbered.numbered i x.place (by rw [List.getElem?_map, hi]; rfl)
  obtain ⟨b', hb', hidb⟩ := hnumbered.numbered j y.place (by rw [List.getElem?_map, hj]; rfl)
  cases Option.some.inj (ha'.symm.trans ha)
  cases Option.some.inj (hb'.symm.trans hb)
  exact UInt64.lt_iff_toNat_lt.mpr (by omega)

/-- A package is searched by a part of the text of each of its routines. -/
theorem searchText?_package_of_routine {f p : Nat} {kind : Kind} {i : Nat} {long : String}
    (h : catalog.searchText? (.routine f p kind i) = some long) :
    ∃ short, catalog.searchText? (.package f p) = some short ∧ short.toList <:+: long.toList := by
  obtain ⟨decl, hd, htext⟩ := Option.bind_eq_some_iff.mp h
  obtain ⟨owner, howner, hpackage, _⟩ := exists_owner hd
  simp only [howner, Option.map_some, Option.some.injEq] at htext
  refine ⟨Text.upper owner.decl.name ++ ".", by rw [searchText?, hpackage]; rfl, ?_⟩
  have hlong : long.toList =
      (Text.upper owner.decl.name ++ ".").toList ++ (Text.upper decl.name).toList := by
    rw [← htext, ← String.toList_append]
  rw [hlong]
  exact (List.prefix_append _ _).isInfix

end

end Catalog

theorem Text.upper_dot : upper "." = "." := by
  decide +kernel

/-- What a symbol at a place is. -/
def Place.kind : Place → Kind
  | .view .. => .view
  | .package .. => .package
  | .routine _ _ kind _ => kind

namespace Catalog

/-- The text of a symbol is its shown name in upper case, with a dot behind that of a package. -/
theorem searchText?_eq_shownName {catalog : Catalog} {place : Place} {decl : Declaration}
    (h : catalog.get? place = some decl) :
    catalog.searchText? place =
      some (Text.upper (catalog.shownName place) ++ if place.kind = .package then "." else "") := by
  cases place with
  | view f i => simp [searchText?, shownName, ownerOf?, h, Place.kind]
  | package f p => simp [searchText?, shownName, ownerOf?, h, Place.kind]
  | routine f p kind i =>
    obtain ⟨owner, howner, _, hroutine⟩ := exists_owner h
    have hkind : kind ≠ .package := by
      rintro rfl
      simp [Package.routines] at hroutine
    simp [searchText?, shownName, howner, h, Place.kind, hkind, Text.upper_append, Text.upper_dot]

section

variable {headers : HeaderRules} {source : Contents} {catalog : Catalog} {order : List Nat}

/-- A routine is hit only where its package is hit, and the package comes first on a line. -/
theorem exists_firstHit_of_routine {f p : Nat} {kind : Kind} {i : Nat} {long : String}
    (h : catalog.searchText? (.routine f p kind i) = some long)
    (hused : Uses.recordSites [] (catalog.sitesOfText headers source long) ≠ []) :
    ∃ x ∈ catalog.firstHits headers source, ∃ y ∈ catalog.firstHits headers source,
      x.place = .package f p ∧ y.place = .routine f p kind i ∧ x.Before y := by
  obtain ⟨hit, hhit, hplace⟩ := exists_hit_of_used h hused
  obtain ⟨y, hy, hyplace⟩ := exists_firstHit hhit
  rw [hplace] at hyplace
  obtain ⟨short, hshort, hpart⟩ := searchText?_package_of_routine h
  have hlong : catalog.searchText? y.place = some long := hyplace ▸ h
  have hbeside : catalog.IsHit headers source { y with place := .package f p } :=
    (mem_firstHits.mp hy).1.of_part hlong hshort hpart
  have hlt : ({ y with place := .package f p } : Hit).Before y := by
    simp [Hit.Before, Hit.key, hyplace]
  obtain ⟨x, hx, hxplace⟩ := exists_firstHit hbeside
  refine ⟨x, hx, y, hy, hxplace, hyplace, ?_⟩
  rcases (mem_firstHits.mp hx).2 _ hbeside hxplace.symm with rfl | hbefore
  · exact hlt
  · exact lt_trans hbefore hlt

theorem package_of_routine (hp : order.Perm (List.range catalog.files.length))
    (hfresh : ∀ place decl, catalog.get? place = some decl → decl.uses = [] ∧ decl.id = 0)
    {f p : Nat} {kind : Kind} {i : Nat} {routine : Declaration}
    (h : (catalog.resolveIn order headers source).1.get? (.routine f p kind i) = some routine) :
    ∃ package, (catalog.resolveIn order headers source).1.get? (.package f p) = some package ∧
      routine.uses.Within package.uses ∧
      (catalog.KeysTellPaths → routine.uses.InOrderOf package.uses) ∧
      (routine.isUsed → package.isUsed ∧
        (catalog.last.toNat + (catalog.firstHits headers source).length < UInt64.size →
          package.id < routine.id)) := by
  have hunused := fun place decl hd => (hfresh place decl hd).1
  obtain ⟨decl, hd⟩ := exists_of_get?_resolveIn h
  obtain ⟨long, hlong⟩ := exists_searchText hd
  obtain ⟨short, hshort, hpart⟩ := searchText?_package_of_routine hlong
  obtain ⟨package, hpackage, hshared⟩ := uses_resolveIn hp hunused hshort
  obtain ⟨same, hsame, hown⟩ := uses_resolveIn hp hunused hlong
  cases Option.some.inj (h.symm.trans hsame)
  have hwithin : routine.uses.Within package.uses := by
    rw [hown, hshared]
    exact sitesOfText_within hpart headers source catalog
  have horder (hkeys : catalog.KeysTellPaths) : routine.uses.InOrderOf package.uses := by
    rw [hown, hshared]
    exact sitesOfText_inOrderOf hpart headers source hkeys
  refine ⟨package, hpackage, hwithin, horder, ?_⟩
  intro hused
  have hne : routine.uses ≠ [] := by simpa [Declaration.isUsed] using hused
  constructor
  · have hkeys := hwithin.keys
    have hpne : package.uses ≠ [] := by
      intro hnone
      rw [hnone, List.map_nil, List.subset_nil, List.map_eq_nil_iff] at hkeys
      exact hne hkeys
    simpa [Declaration.isUsed] using hpne
  · intro hn
    have hzero := fun place decl hd => (hfresh place decl hd).2
    have hnumbered := numberedInOrder_resolveIn hp hzero hn
    obtain ⟨x, hx, y, hy, hxplace, hyplace, hlt⟩ := exists_firstHit_of_routine hlong (hown ▸ hne)
    exact number_lt_of_before hnumbered hx hy hlt (hxplace ▸ hpackage) (hyplace ▸ h)

theorem uses_eq_of_shownName (hp : order.Perm (List.range catalog.files.length))
    (hunused : ∀ place decl, catalog.get? place = some decl → decl.uses = []) {a b : Place}
    {declA declB : Declaration}
    (ha : (catalog.resolveIn order headers source).1.get? a = some declA)
    (hb : (catalog.resolveIn order headers source).1.get? b = some declB) (hkind : a.kind = b.kind)
    (hname : Text.upper (catalog.shownName a) = Text.upper (catalog.shownName b)) :
    declA.uses = declB.uses := by
  obtain ⟨_, hoa⟩ := exists_of_get?_resolveIn ha
  obtain ⟨_, hob⟩ := exists_of_get?_resolveIn hb
  have hta := searchText?_eq_shownName hoa
  have htb := searchText?_eq_shownName hob
  rw [← hkind, ← hname] at htb
  obtain ⟨foundA, hfa, husesA⟩ := uses_resolveIn hp hunused hta
  obtain ⟨foundB, hfb, husesB⟩ := uses_resolveIn hp hunused htb
  cases Option.some.inj (ha.symm.trans hfa)
  cases Option.some.inj (hb.symm.trans hfb)
  rw [husesA, husesB]

end

/-- Where no symbol is used yet, a search of all files gives a symbol no more uses than any symbol
whose text is part of its own, and its keys in no other order, if files that are shown alike have
one path, as they always do where paths are texts. So a package has the uses of its routines and a
smaller number than each of them; symbols of one name have the same uses, if both stand among the
views, among the packages or among the routines of one kind. The numbers are compared as long as
none starts again at zero, as no search that ends comes to the last of them from the first. -/
theorem resolveIn_shares_uses (headers : HeaderRules) (source : Contents) (catalog : Catalog)
    {order : List Nat} (hp : order.Perm (List.range catalog.files.length))
    (hfresh : ∀ place decl, catalog.get? place = some decl → decl.uses = [] ∧ decl.id = 0) :
    let resolved := (catalog.resolveIn order headers source).1
    ((∀ file ∈ catalog.files, file.path.IsText) → catalog.KeysTellPaths) ∧
    (∀ a b short long, catalog.searchText? a = some short → catalog.searchText? b = some long →
      short.toList <:+: long.toList →
      ∃ declA declB, resolved.get? a = some declA ∧ resolved.get? b = some declB ∧
        declB.uses.Within declA.uses ∧
        (catalog.KeysTellPaths → declB.uses.InOrderOf declA.uses)) ∧
    (∀ f p kind i routine, resolved.get? (.routine f p kind i) = some routine →
      ∃ package, resolved.get? (.package f p) = some package ∧
        routine.uses.Within package.uses ∧
        (catalog.KeysTellPaths → routine.uses.InOrderOf package.uses) ∧
        (routine.isUsed → package.isUsed ∧
          (catalog.last.toNat + (catalog.firstHits headers source).length < UInt64.size →
            package.id < routine.id))) ∧
    (∀ a b declA declB, resolved.get? a = some declA → resolved.get? b = some declB →
      a.kind = b.kind → Text.upper (catalog.shownName a) = Text.upper (catalog.shownName b) →
      declA.uses = declB.uses) := by
  intro resolved
  have hunused := fun place decl hd => (hfresh place decl hd).1
  refine ⟨keysTellPaths_of_texts, ?_, fun f p kind i routine => package_of_routine hp hfresh,
    fun a b declA declB => uses_eq_of_shownName hp hunused⟩
  intro a b short long ha hb hpart
  obtain ⟨declA, hda, husesA⟩ := uses_resolveIn hp hunused ha
  obtain ⟨declB, hdb, husesB⟩ := uses_resolveIn hp hunused hb
  refine ⟨declA, declB, hda, hdb, ?_⟩
  rw [husesA, husesB]
  exact ⟨sitesOfText_within hpart headers source catalog,
    sitesOfText_inOrderOf hpart headers source⟩

theorem resolveIn_shares_uses_packageThenView :
    let source : Contents := fun path =>
      if path = ↑"c.c" then some ["p.g()", "p.f(v)"] else none
    let resolved := (packageThenView.resolveIn [2, 0, 1] ⟨true⟩ source).1
    ∃ package routine, resolved.get? (.package 0 0) = some package ∧
      resolved.get? (.routine 0 0 .function 0) = some routine ∧
      package.uses = [("c.c", [⟨3, 1⟩, ⟨3, 2⟩])] ∧ routine.uses = [("c.c", [⟨3, 2⟩])] ∧
      routine.uses.Within package.uses ∧ routine.uses.InOrderOf package.uses ∧
      package.id < routine.id := by
  intro source resolved
  have hp : [2, 0, 1].Perm (List.range packageThenView.files.length) := by decide
  have hnew : ∀ entry ∈ packageThenView.symbols, entry.2.uses = [] ∧ entry.2.id = 0 := by
    decide +kernel
  have htexts : ∀ file ∈ packageThenView.files, file.path.IsText := by decide +kernel
  have hfirst : (packageThenView.firstHits ⟨true⟩ source).length = 3 := by decide +kernel
  have hroutine : resolved.get? (.routine 0 0 .function 0) =
      some ⟨.function, "f", 0, 2, none, 6, [("c.c", [⟨3, 2⟩])]⟩ := by decide +kernel
  have huses : (resolved.get? (.package 0 0)).map (·.uses) =
      some [("c.c", [⟨3, 1⟩, ⟨3, 2⟩])] := by decide +kernel
  obtain ⟨hkeys, _, hpackages, _⟩ := resolveIn_shares_uses ⟨true⟩ source packageThenView hp
    fun place decl hd => hnew (place, decl) (mem_symbols_iff.mpr hd)
  obtain ⟨package, (hpackage : resolved.get? (.package 0 0) = some package), hwithin, horder,
    hused⟩ := hpackages 0 0 .function 0 _ hroutine
  rw [hpackage, Option.map_some] at huses
  have hlt := (hused (by decide)).2 (by rw [hfirst]; decide)
  exact ⟨package, _, hpackage, hroutine, Option.some.inj huses, rfl, hwithin,
    horder (hkeys htexts), hlt⟩

/-- A package with a function, files that may use them, and the last number issued. -/
def packageAndUsers (users : List RawText) (last : Identifier) : Catalog :=
  ⟨⟨1, "p.pkb", .sql, [], [⟨⟨.package, "p", 0, 1, none, 0, []⟩,
      [⟨.function, "f", 0, 2, none, 0, []⟩], []⟩]⟩ ::
    users.mapIdx fun i path => ⟨UInt64.ofNat (i + 2), path, .native, [], []⟩, last⟩

/-- A file whose list of views holds a package, with the name of a package beside it. -/
def packageAmongViews : Catalog :=
  ⟨[⟨1, "a.sql", .sql, [⟨.package, "p", 0, 1, none, 0, []⟩],
    [⟨⟨.package, "p", 0, 2, none, 0, []⟩, [], []⟩]⟩], 1⟩

/-- Three ways in which a package and its function, or two packages of one name, come not to share
their uses, although nothing was used and numbered before the search. Files in the folders `d\xfe`
and `d\xff` are shown alike, so that the function is first used under the key under which the
package is used last; a number starts again at zero; and what is called a package stands among the
views. -/
theorem resolveIn_shares_not_all :
    let users : List RawText := [⟨[0x64, 0xfe] ++ Text.encode "/a.c"⟩,
      ⟨[0x64, 0xfe] ++ Text.encode "/b.c"⟩, ⟨[0x64, 0xff] ++ Text.encode "/a.c"⟩]
    let alike := packageAndUsers users 4
    let numbered := packageAndUsers [] 0xfffffffffffffffe
    (∀ catalog ∈ [alike, numbered, packageAmongViews], ∀ entry ∈ catalog.symbols,
      entry.2.uses = [] ∧ entry.2.id = 0) ∧
    (∃ source : Contents, ∃ package routine,
      (alike.resolve ⟨true⟩ source).1.get? (.package 0 0) = some package ∧
      (alike.resolve ⟨true⟩ source).1.get? (.routine 0 0 .function 0) = some routine ∧
      package.uses.map Prod.fst = ["d\ufffd/a.c", "d\ufffd/b.c"] ∧
      routine.uses.map Prod.fst = ["d\ufffd/b.c", "d\ufffd/a.c"] ∧
      ¬ routine.uses.InOrderOf package.uses) ∧
    (∃ source : Contents, ∃ package routine,
      (numbered.resolve ⟨true⟩ source).1.get? (.package 0 0) = some package ∧
      (numbered.resolve ⟨true⟩ source).1.get? (.routine 0 0 .function 0) = some routine ∧
      routine.isUsed ∧ ¬ package.id < routine.id) ∧
    (∃ source : Contents, ∃ first second,
      (packageAmongViews.resolve ⟨true⟩ source).1.get? (.view 0 0) = some first ∧
      (packageAmongViews.resolve ⟨true⟩ source).1.get? (.package 0 0) = some second ∧
      first.kind = second.kind ∧ first.name = second.name ∧ first.uses ≠ second.uses) := by
  intro users alike numbered
  let source : Contents := fun path =>
    if path = users[0] then some ["p.x()"] else if path ∈ users then some ["p.f()"] else none
  refine ⟨by decide +kernel, ⟨source, ?_⟩, ⟨fun _ => some ["p.f()"], ?_⟩,
    ⟨fun _ => some ["select p from t"], ?_⟩⟩
  · let package : Declaration := ⟨.package, "p", 0, 1, none, 5,
      [("d\ufffd/a.c", [⟨2, 1⟩, ⟨4, 1⟩]), ("d\ufffd/b.c", [⟨3, 1⟩])]⟩
    let routine : Declaration := ⟨.function, "f", 0, 2, none, 6,
      [("d\ufffd/b.c", [⟨3, 1⟩]), ("d\ufffd/a.c", [⟨4, 1⟩])]⟩
    refine ⟨package, routine, by decide +kernel, by decide +kernel, rfl, rfl, ?_⟩
    unfold Uses.InOrderOf
    decide +kernel
  · let package : Declaration := ⟨.package, "p", 0, 1, none, 0xffffffffffffffff,
      [("p.pkb", [⟨1, 1⟩])]⟩
    let routine : Declaration := ⟨.function, "f", 0, 2, none, 0, [("p.pkb", [⟨1, 1⟩])]⟩
    exact ⟨package, routine, by decide +kernel, by decide +kernel, rfl, by decide⟩
  · let first : Declaration := ⟨.package, "p", 0, 1, none, 2, [("a.sql", [⟨1, 1⟩])]⟩
    let second : Declaration := ⟨.package, "p", 0, 2, none, 0, []⟩
    exact ⟨first, second, by decide +kernel, by decide +kernel, rfl, rfl, by decide +kernel⟩

end Catalog

end CrossRef
