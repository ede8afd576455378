import CrossRef.Proofs.LineWalk
import CrossRef.Proofs.Merging
import CrossRef.Proofs.SearchTexts
import Mathlib.Data.List.Infix

namespace CrossRef

/-- The positions of the lines that use a text: they are no comments, they declare nothing, and
their upper case has the text in it. -/
def HeaderRules.usingPositions (headers : HeaderRules) (text : String) (lines : List String) :
    List Nat :=
  ((lines.zip (headers.walk isComment false lines)).zipIdx.filter fun entry =>
    isComment entry.1.1 = false ∧ entry.1.2.isDeclaration = false ∧
      text.toList <:+: (Text.upper entry.1.1).toList).map (·.2)

/-- The uses of a text by key, file and line number: file after file, line after line. A file that
cannot be read uses nothing. -/
def Catalog.usesOf (headers : HeaderRules) (source : Contents) (catalog : Catalog) (text : String) :
    List (String × Identifier × Nat) :=
  catalog.files.flatMap fun file =>
    ((source file.path).elim [] (headers.usingPositions text)).map fun position =>
      (file.key, file.id, position + 1)

theorem HeaderRules.lt_of_mem_usingPositions {headers : HeaderRules} {text : String}
    {lines : List String} {position : Nat} (h : position ∈ headers.usingPositions text lines) :
    position < lines.length := by
  obtain ⟨⟨⟨line, reading⟩, n⟩, hm, rfl⟩ := List.mem_map.mp h
  have hget := List.mem_zipIdx_iff_getElem?.mp (List.mem_filter.mp hm).1
  have hlt := (List.getElem?_eq_some_iff.mp hget).1
  simp only [List.length_zip] at hlt
  omega

theorem toNat_lineNumber {position : Nat} (h : position + 1 < UInt32.size) :
    (lineNumber position).toNat = position + 1 := by
  rw [UInt32.size] at h
  rw [lineNumber, UInt32.toNat_add, UInt32.toNat_ofNat', UInt32.toNat_one]
  omega

namespace Resolution

theorem lineMentions_filter_target {needles : List Needle} {place : Place} {text : String}
    (h : needles.filter (·.target = place) = [⟨place, text⟩]) (line : String) (number : UInt32) :
    (lineMentions needles line number).filter (·.target = place) =
      if text.toList <:+: (Text.upper line).toList then [⟨place, number⟩] else [] := by
  have hswap : (needles.filter (·.occursIn (Text.upper line))).filter (·.target = place) =
      [(⟨place, text⟩ : Needle)].filter (·.occursIn (Text.upper line)) := by
    rw [← h, List.filter_filter, List.filter_filter]
    simp only [Bool.and_comm]
  have hmap : (lineMentions needles line number).filter (·.target = place) =
      ((needles.filter (·.occursIn (Text.upper line))).filter (·.target = place)).map
        fun needle => ⟨needle.target, number⟩ := by
    simp only [lineMentions, List.filter_map]
    rfl
  have hoccurs : (⟨place, text⟩ : Needle).occursIn (Text.upper line) = true ↔
      text.toList <:+: (Text.upper line).toList := Text.occursIn_iff_isInfix
  rw [hmap, hswap]
  by_cases ht : text.toList <:+: (Text.upper line).toList
  · simp [hoccurs.mpr ht, ht]
  · have hf : (⟨place, text⟩ : Needle).occursIn (Text.upper line) = false := by
      simpa using mt hoccurs.mp ht
    simp [hf, ht]

theorem flatMap_ite_singleton {α β : Type} (xs : List α) (p : α → Prop) [DecidablePred p]
    (f : α → β) : (xs.flatMap fun x => if p x then [f x] else []) = (xs.filter p).map f := by
  induction xs with
  | nil => rfl
  | cons x rest ih => by_cases hx : p x <;> simp [hx, ih]

theorem searchFrom_filter_target {needles : List Needle} {place : Place} {text : String}
    (h : needles.filter (·.target = place) = [⟨place, text⟩]) (headers : HeaderRules)
    (lines : List String) :
    (searchFrom headers needles 0 false lines).1.filter (·.target = place) =
      (headers.usingPositions text lines).map fun position => ⟨place, lineNumber position⟩ := by
  rw [searchFrom_eq_walk]
  simp only [List.filter_flatMap, lineMentions_filter_target h]
  rw [flatMap_ite_singleton, HeaderRules.usingPositions, List.filter_filter, List.map_map]
  refine congrArg (List.map _) (List.filter_congr ?_)
  intro entry _
  rw [Bool.and_comm, Bool.and_assoc]
  simp

theorem sitesOf_recordsOf {needles : List Needle} {place : Place} {text : String}
    (h : needles.filter (·.target = place) = [⟨place, text⟩]) (headers : HeaderRules)
    (source : Contents) (file : IndexedFile) :
    Catalog.sitesOf place (recordsOf file (searchFile headers needles source file)) =
      ((source file.path).elim [] (headers.usingPositions text)).map fun position =>
        (file.key, ⟨file.id, lineNumber position⟩) := by
  rw [recordsOf_searchFile]
  cases source file.path with
  | none => rfl
  | some lines =>
    have hm := searchFrom_filter_target h headers lines
    simp only [Option.elim_some, Catalog.sitesOf, List.filter_map, List.map_map]
    have hsites := congrArg
      (List.map fun mention => (file.key, (⟨file.id, mention.line⟩ : UseSite))) hm
    rw [List.map_map] at hsites
    exact hsites

end Resolution

namespace Catalog

theorem sitesOf_recordsIn {catalog : Catalog} {place : Place} {text : String}
    (h : catalog.searchText? place = some text) (headers : HeaderRules) (source : Contents)
    {order : List Nat} (hp : order.Perm (List.range catalog.files.length)) :
    sitesOf place (catalog.recordsIn order headers source) = catalog.files.flatMap fun file =>
      ((source file.path).elim [] (headers.usingPositions text)).map fun position =>
        (file.key, ⟨file.id, lineNumber position⟩) := by
  have hfilter := needles_filter_target h
  rw [recordsIn_of_perm headers source hp]
  simp only [sitesOf, List.filter_flatMap, List.map_flatMap]
  simp only [← Resolution.sitesOf_recordsOf hfilter headers source, sitesOf]

/-- What is recorded for a symbol, in the words of `usesOf`, where no line number wraps around. -/
theorem sites_told_usesOf {catalog : Catalog} {place : Place} {text : String}
    (h : catalog.searchText? place = some text) {headers : HeaderRules} {source : Contents}
    {order : List Nat} (hp : order.Perm (List.range catalog.files.length))
    (hshort : ∀ file ∈ catalog.files, ∀ lines, source file.path = some lines →
      lines.length < UInt32.size) :
    ((sitesOf place (catalog.recordsIn order headers source)).map fun entry =>
        (entry.1, entry.2.fileId, entry.2.line.toNat)) =
      catalog.usesOf headers source text := by
  rw [sitesOf_recordsIn h headers source hp, usesOf, List.map_flatMap]
  apply List.flatMap_congr
  intro file hfile
  rw [List.map_map]
  cases hs : source file.path with
  | none => rfl
  | some lines =>
    apply List.map_congr_left
    intro position hposition
    have hlt := headers.lt_of_mem_usingPositions hposition
    have hlines := hshort file hfile lines hs
    have hnumber : (lineNumber position).toNat = position + 1 := toNat_lineNumber (by omega)
    simp [hnumber]

/-- A search of all files records, for each symbol, the lines that have its text and nothing else:
file after file, line after line, behind what was recorded before. All else stays as it was. -/
theorem resolveIn_records_exactly (headers : HeaderRules) (source : Contents) (catalog : Catalog)
    {order : List Nat} (hp : order.Perm (List.range catalog.files.length))
    (hshort : ∀ file ∈ catalog.files, ∀ lines, source file.path = some lines →
      lines.length < UInt32.size) :
    (catalog.resolveIn order headers source).1.outline = catalog.outline ∧
      ∀ place decl, catalog.get? place = some decl →
        ∃ text found, catalog.searchText? place = some text ∧
          (catalog.resolveIn order headers source).1.get? place = some found ∧
          decl.uses.ExtendedBy (catalog.usesOf headers source text) found.uses := by
  rw [resolveIn_fst]
  refine ⟨catalog.outline_recordEach _, ?_⟩
  intro place decl hget
  obtain ⟨text, htext⟩ := exists_searchText hget
  obtain ⟨id, hfound⟩ := get?_recordEach hget (catalog.recordsIn order headers source)
  refine ⟨text, _, htext, hfound, ?_⟩
  rw [← sites_told_usesOf htext hp hshort]
  exact decl.uses.extendedBy_recordSites _

/-- A view that was used once before, in a file that is searched now. -/
def viewAndUser : Catalog :=
  ⟨[⟨1, "a.sql", .sql, [⟨.view, "v", 0, 1, none, 3, [("b.c", [⟨2, 7⟩])]⟩], []⟩,
    ⟨2, "b.c", .native, [], []⟩, ⟨4, "c.c", .native, [], []⟩], 4⟩

theorem resolveIn_records_exactly_viewAndUser :
    let source : Contents := fun path =>
      if path = ↑"a.sql" then none else some ["-- v", "from V", "create view v as", "(v)"]
    ∃ found, (viewAndUser.resolveIn [1, 2, 0] ⟨true⟩ source).1.get? (.view 0 0) = some found ∧
      found.uses = [("b.c", [⟨2, 7⟩, ⟨2, 2⟩, ⟨2, 4⟩]), ("c.c", [⟨4, 2⟩, ⟨4, 4⟩])] ∧
      Uses.ExtendedBy [("b.c", 2, 2), ("b.c", 2, 4), ("c.c", 4, 2), ("c.c", 4, 4)]
        [("b.c", [⟨2, 7⟩])] found.uses := by
  intro source
  have hshort : ∀ file ∈ viewAndUser.files, ∀ lines, source file.path = some lines →
      lines.length < UInt32.size := by
    intro file _ lines h
    by_cases hpath : file.path = ↑"a.sql"
    · exact absurd ((if_pos hpath).symm.trans h) (by simp)
    · rw [← Option.some.inj ((if_neg hpath).symm.trans h)]
      decide
  have hp : [1, 2, 0].Perm (List.range viewAndUser.files.length) := by decide
  obtain ⟨text, found, htext, hfound, huses⟩ :=
    (resolveIn_records_exactly ⟨true⟩ source viewAndUser hp hshort).2 (.view 0 0) _ rfl
  have hv : viewAndUser.searchText? (.view 0 0) = some "V" := by decide +kernel
  cases Option.some.inj (htext.symm.trans hv)
  have hmap : ((viewAndUser.resolveIn [1, 2, 0] ⟨true⟩ source).1.get? (.view 0 0)).map (·.uses) =
      some [("b.c", [⟨2, 7⟩, ⟨2, 2⟩, ⟨2, 4⟩]), ("c.c", [⟨4, 2⟩, ⟨4, 4⟩])] := by decide +kernel
  have hof : viewAndUser.usesOf ⟨true⟩ source "V" =
      [("b.c", 2, 2), ("b.c", 2, 4), ("c.c", 4, 2), ("c.c", 4, 4)] := by decide +kernel
  rw [hfound] at hmap
  rw [hof] at huses
  exact ⟨found, hfound, Option.some.inj hmap, huses⟩

end Catalog

end CrossRef
