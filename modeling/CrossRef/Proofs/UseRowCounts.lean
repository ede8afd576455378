import CrossRef.Proofs.JsonScalars
import CrossRef.Proofs.PathComponents
import CrossRef.Proofs.UsedSymbols
import CrossRef.Report.Listing
import CrossRef.Report.UseRows

namespace CrossRef.Report

theorem sortByKey_perm {α : Type} (key : α → String) (items : List α) :
    (sortByKey key items).Perm items := by
  have hsorted := (List.mergeSort_perm (items.map fun item => (key item, item))
    fun a b => !decide (b.1 < a.1)).map Prod.snd
  rw [List.map_map] at hsorted
  exact hsorted.trans (.of_eq (List.map_id items))

theorem paths_addLine (path : String) (line : UInt32) (rows : List UseRow) :
    (addLine path line rows).map (·.path) =
      if path ∈ rows.map (·.path) then rows.map (·.path) else rows.map (·.path) ++ [path] := by
  induction rows with
  | nil => rfl
  | cons row rows ih =>
    rw [addLine]
    split
    next hpath => simp [hpath]
    next hpath =>
      rw [List.map_cons, ih, List.map_cons]
      by_cases hmem : path ∈ rows.map (·.path)
      · rw [if_pos hmem, if_pos (List.mem_cons_of_mem row.path hmem)]
      · have hcons : path ∉ row.path :: rows.map (·.path) := by
          simpa [Ne.symm hpath] using hmem
        rw [if_neg hmem, if_neg hcons, List.cons_append]

theorem lines_addLine (path : String) (line : UInt32) (rows : List UseRow) :
    ((addLine path line rows).map (·.lines.length)).sum =
      (rows.map (·.lines.length)).sum + 1 := by
  induction rows with
  | nil => rfl
  | cons row rows ih =>
    rw [addLine]
    split
    next =>
      simp only [List.map_cons, List.sum_cons, List.length_append, List.length_singleton]
      omega
    next =>
      simp only [List.map_cons, List.sum_cons, ih]
      omega

/-- The rows before they are sorted. -/
def gathered (root : RawText) (uses : List (String × UInt32)) : List UseRow :=
  uses.foldl (fun rows use => addLine (Path.relative root use.1) use.2 rows) []

theorem gathered_concat (root : RawText) (uses : List (String × UInt32)) (use : String × UInt32) :
    gathered root (uses ++ [use]) =
      addLine (Path.relative root use.1) use.2 (gathered root uses) := by
  rw [gathered, List.foldl_append]
  rfl

/-- There is one row for each path that is seen from the root. -/
theorem paths_gathered (root : RawText) (uses : List (String × UInt32)) :
    (gathered root uses).map (·.path) =
      firstOfEach id (uses.map fun use => Path.relative root use.1) := by
  induction uses using List.reverseRecOn with
  | nil => rfl
  | append_singleton uses use ih =>
    rw [gathered_concat, paths_addLine, ih, List.map_append, List.map_singleton,
      firstOfEach_concat, List.map_id]
    simp only [mem_firstOfEach_id, id_eq]

theorem lines_gathered (root : RawText) (uses : List (String × UInt32)) :
    ((gathered root uses).map (·.lines.length)).sum = uses.length := by
  induction uses using List.reverseRecOn with
  | nil => rfl
  | append_singleton uses use ih =>
    rw [gathered_concat, lines_addLine, ih, List.length_append, List.length_singleton]

theorem useRows_perm (root : RawText) (uses : List (String × UInt32)) :
    (useRows root uses).Perm (gathered root uses) :=
  sortByKey_perm _ _

/-- Every use has its line in a row, whatever paths the uses have. -/
theorem lines_useRows (root : RawText) (uses : List (String × UInt32)) :
    ((useRows root uses).map (·.lines.length)).sum = uses.length := by
  rw [((useRows_perm root uses).map _).sum_nat, lines_gathered]

/-- There are as many rows as there are different paths, seen from the root. -/
theorem length_useRows {root : RawText} {uses : List (String × UInt32)} {paths : List String}
    (hnodup : paths.Nodup)
    (hmem : ∀ path, path ∈ paths ↔ path ∈ uses.map fun use => Path.relative root use.1) :
    (useRows root uses).length = paths.length := by
  have hrows := congrArg List.length (paths_gathered root uses)
  rw [List.length_map] at hrows
  have hperm : (firstOfEach id (uses.map fun use => Path.relative root use.1)).Perm paths :=
    (List.perm_ext_iff_of_nodup (nodup_firstOfEach _) hnodup).mpr fun path =>
      mem_firstOfEach_id.trans (hmem path).symm
  rw [(useRows_perm root uses).length_eq, hrows, hperm.length_eq]

end CrossRef.Report

namespace CrossRef

namespace Uses

/-- A map of uses that holds what was recorded under the keys of a catalog's files. -/
def RecordedIn (catalog : Catalog) (uses : Uses) : Prop :=
  ∃ sites, uses = recordSites [] sites ∧
    ∀ entry ∈ sites, entry.1 ∈ catalog.files.map (·.key)

theorem found_ne_nil_of_record {uses : Uses} (h : ∀ entry ∈ uses, entry.2 ≠ []) (path : String)
    (site : UseSite) : ∀ entry ∈ uses.record path site, entry.2 ≠ [] := by
  induction uses with
  | nil => simp [record]
  | cons first rest ih =>
    obtain ⟨hfirst, hrest⟩ := List.forall_mem_cons.mp h
    obtain ⟨key, found⟩ := first
    rw [record]
    split
    next => exact List.forall_mem_cons.mpr ⟨by simp, hrest⟩
    next => exact List.forall_mem_cons.mpr ⟨hfirst, ih hrest⟩

/-- Each path of a recorded map has a use. -/
theorem found_ne_nil (sites : List (String × UseSite)) :
    ∀ entry ∈ recordSites [] sites, entry.2 ≠ [] := by
  induction sites using List.reverseRecOn with
  | nil => simp [recordSites]
  | append_singleton sites site ih =>
    rw [recordSites, List.foldl_append]
    exact found_ne_nil_of_record ih site.1 site.2

theorem mem_paths_flat {uses : Uses} (h : ∀ entry ∈ uses, entry.2 ≠ []) (path : String) :
    path ∈ uses.map Prod.fst ↔ path ∈ uses.flat.map Prod.fst := by
  constructor
  · intro hpath
    obtain ⟨⟨key, found⟩, hentry, rfl⟩ := List.mem_map.mp hpath
    obtain ⟨site, hsite⟩ := List.exists_mem_of_ne_nil found (h _ hentry)
    exact List.mem_map.mpr
      ⟨(key, site), List.mem_flatMap.mpr ⟨_, hentry, List.mem_map_of_mem hsite⟩, rfl⟩
  · intro hpath
    obtain ⟨use, huse, rfl⟩ := List.mem_map.mp hpath
    obtain ⟨⟨key, found⟩, hentry, hmem⟩ := List.mem_flatMap.mp huse
    obtain ⟨site, _, rfl⟩ := List.mem_map.mp hmem
    exact List.mem_map_of_mem hentry

end Uses

namespace Catalog

/-- The paths of a catalog's files lie below a root, and different keys of the files lead to
different places. -/
structure FilesBelow (catalog : Catalog) (root : RawText) : Prop where
  below : ∀ file ∈ catalog.files, Path.components root <+: Path.components file.path
  apart : ∀ file ∈ catalog.files, ∀ other ∈ catalog.files,
    Path.components file.key = Path.components other.key → file.key = other.key

/-- Paths that are texts are their own keys, so it is enough that they lead to different places. -/
theorem filesBelow_of_texts {catalog : Catalog} {root : RawText}
    (hbelow : ∀ file ∈ catalog.files, Path.components root <+: Path.components file.path)
    (htexts : ∀ file ∈ catalog.files, file.path.IsText)
    (hdistinct : (catalog.files.map fun file => Path.components file.path).Nodup) :
    catalog.FilesBelow root := by
  refine ⟨hbelow, fun file hfile other hother heq => ?_⟩
  have hfirst : file.path = RawText.ofText file.key := htexts file hfile
  have hsecond : other.path = RawText.ofText other.key := htexts other hother
  rw [← hfirst, ← hsecond] at heq
  rw [List.inj_on_of_nodup_map hdistinct hfile hother heq]

/-- Files that lie below the root are seen from it under different paths. -/
theorem FilesBelow.relative_injective {catalog : Catalog} {root : RawText} {a b : String}
    (h : catalog.FilesBelow root) (ha : a ∈ catalog.files.map (·.key))
    (hb : b ∈ catalog.files.map (·.key)) (heq : Path.relative root a = Path.relative root b) :
    a = b := by
  obtain ⟨file, hfile, rfl⟩ := List.mem_map.mp ha
  obtain ⟨other, hother, rfl⟩ := List.mem_map.mp hb
  -- A key may lie elsewhere although its path lies below the root, but then all keys do.
  have hshown {first second : IndexedFile} (hsecond : second ∈ catalog.files)
      (hfirst : Path.components root <+: Path.components first.key) :
      Path.components root <+: Path.components second.key :=
    Path.components_prefix_text
      (fun name hname => Path.isText_of_mem_components (hfirst.subset hname))
      (h.below second hsecond)
  by_cases hkey : Path.components root <+: Path.components file.key
  · apply h.apart file hfile other hother
    rw [← Path.components_relative hkey, ← Path.components_relative (hshown hother hkey), heq]
  · rwa [Path.relative_elsewhere hkey,
      Path.relative_elsewhere fun hbelow => hkey (hshown hfile hbelow)] at heq

/-- The uses recorded of a symbol have a row for each path and a line for each use. -/
theorem FilesBelow.counts_useRows {catalog : Catalog} {root : RawText} (h : catalog.FilesBelow root)
    {uses : Uses} (hrecorded : uses.RecordedIn catalog) :
    let rows := Report.useRows root (uses.flat.map fun use => (use.1, use.2.line))
    rows.length = uses.fileCount ∧ (rows.map (·.lines.length)).sum = uses.total := by
  obtain ⟨sites, rfl, hsites⟩ := hrecorded
  have hkeys := Uses.keys_recordSites sites
  have hown : ∀ path ∈ (Uses.recordSites [] sites).map Prod.fst,
      path ∈ catalog.files.map (·.key) := by
    intro path hpath
    rw [hkeys, mem_firstOfEach_id] at hpath
    obtain ⟨entry, hentry, rfl⟩ := List.mem_map.mp hpath
    exact hsites entry hentry
  have hnodup : (((Uses.recordSites [] sites).map Prod.fst).map (Path.relative root)).Nodup := by
    apply List.Nodup.map_on
    · exact fun a ha b hb => h.relative_injective (hown a ha) (hown b hb)
    · rw [hkeys]
      exact nodup_firstOfEach _
  constructor
  · rw [Report.length_useRows hnodup, List.length_map, List.length_map, Uses.fileCount]
    intro path
    have hsome := Uses.mem_paths_flat (Uses.found_ne_nil sites)
    constructor
    · intro hpath
      obtain ⟨key, hkey, rfl⟩ := List.mem_map.mp hpath
      obtain ⟨use, huse, rfl⟩ := List.mem_map.mp ((hsome key).mp hkey)
      exact List.mem_map.mpr ⟨(use.1, use.2.line), List.mem_map.mpr ⟨use, huse, rfl⟩, rfl⟩
    · intro hpath
      obtain ⟨_, hentry, rfl⟩ := List.mem_map.mp hpath
      obtain ⟨use, huse, rfl⟩ := List.mem_map.mp hentry
      exact List.mem_map_of_mem ((hsome use.1).mpr (List.mem_map_of_mem huse))
  · rw [Report.lines_useRows, List.length_map, Uses.total]

end Catalog

namespace Report

theorem digits_append_inj {m n : Nat} {a b : List Char} (ha : Json.endsNumber a)
    (hb : Json.endsNumber b) (h : Nat.toDigits 10 m ++ a = Nat.toDigits 10 n ++ b) :
    m = n ∧ a = b := by
  have hspan := congrArg Json.spanDigits h
  rw [Json.spanDigits_append (fun c hc => Json.isDigit_of_mem_digits hc) ha,
    Json.spanDigits_append (fun c hc => Json.isDigit_of_mem_digits hc) hb] at hspan
  obtain ⟨hdigits, hrest⟩ := Prod.mk.inj hspan
  refine ⟨?_, hrest⟩
  rw [← Json.ofDigits_digits m, hdigits, Json.ofDigits_digits]

theorem toList_usedWords (n m : Nat) :
    s!"{n} in {m} file(s)".toList =
      Nat.toDigits 10 n ++ (" in ".toList ++ (Nat.toDigits 10 m ++ " file(s)".toList)) := by
  simp [String.toList_append, toString]

/-- What a listing says of the uses of a symbol tells their number and the number of their files. -/
theorem counts_of_usedText {decl : Declaration} {n m : Nat}
    (h : usedText decl = s!"{n} in {m} file(s)") :
    decl.uses.total = n ∧ decl.uses.fileCount = m := by
  have hlist := congrArg String.toList h
  rw [toList_usedWords] at hlist
  unfold usedText at hlist
  split at hlist
  next =>
    rw [toList_usedWords] at hlist
    obtain ⟨htotal, hbehind⟩ := digits_append_inj rfl rfl hlist
    obtain ⟨hcount, _⟩ := digits_append_inj rfl rfl (List.append_cancel_left hbehind)
    exact ⟨htotal, hcount⟩
  next =>
    obtain ⟨c, tail, hdigits, hc⟩ := Json.digits_head n
    rw [hdigits] at hlist
    have hfirst : c = 'n' := (List.cons.inj hlist).1.symm
    rw [hfirst] at hc
    cases hc

end Report

end CrossRef
