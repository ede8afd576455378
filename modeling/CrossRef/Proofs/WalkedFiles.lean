import CrossRef.Proofs.StableSorting
import CrossRef.Proofs.WalkDepth

namespace CrossRef

namespace Entry

/-- Names that lead to a file stand before others if, where they first differ, their bytes do. -/
def InNameOrder (a b : List RawText) : Prop :=
  a.map RawText.bytes < b.map RawText.bytes

theorem InNameOrder.cons {a b : List RawText} (h : InNameOrder a b) (name : RawText) :
    InNameOrder (name :: a) (name :: b) :=
  List.cons_lt_cons_self.mpr h

theorem inNameOrder_of_lt {first second : RawText} (h : first.bytes < second.bytes)
    (a b : List RawText) : InNameOrder (first :: a) (second :: b) :=
  List.Lex.rel h

mutual

/-- The names that lead to the files at and below an entry, except below ignored folders. -/
def chains (ignored : RawText → Bool) : Entry → List (List RawText)
  | .file name => [[name]]
  | .folder name entries =>
    if ignored name then [] else (chainsBelow ignored entries).map (name :: ·)

def chainsBelow (ignored : RawText → Bool) : List Entry → List (List RawText)
  | [] => []
  | entry :: entries => entry.chains ignored ++ chainsBelow ignored entries

end

theorem chainsBelow_eq_flatMap (ignored : RawText → Bool) (entries : List Entry) :
    chainsBelow ignored entries = entries.flatMap (chains ignored) := by
  induction entries with
  | nil => rfl
  | cons entry entries ih => rw [chainsBelow, ih, List.flatMap_cons]

mutual

/-- The paths of the files are made of the names that lead to them. -/
theorem paths_eq_chains (ignored : RawText → Bool) :
    ∀ (base : RawText) (entry : Entry),
      entry.paths ignored base = (entry.chains ignored).map (·.foldl Path.join base)
  | base, .file name => rfl
  | base, .folder name entries => by
    rw [paths, chains]
    split
    · rfl
    · rw [pathsBelow_eq_chains ignored (Path.join base name) entries, List.map_map]
      rfl

theorem pathsBelow_eq_chains (ignored : RawText → Bool) :
    ∀ (base : RawText) (entries : List Entry),
      pathsBelow ignored base entries = (chainsBelow ignored entries).map (·.foldl Path.join base)
  | base, [] => rfl
  | base, entry :: entries => by
    rw [pathsBelow, chainsBelow, List.map_append, paths_eq_chains ignored base entry,
      pathsBelow_eq_chains ignored base entries]

end

def name : Entry → RawText
  | .file name => name
  | .folder name _ => name

theorem exists_cons_of_mem_chains {ignored : RawText → Bool} {entry : Entry} {names : List RawText}
    (h : names ∈ entry.chains ignored) : ∃ rest, names = entry.name :: rest := by
  cases entry with
  | file name => exact ⟨[], List.mem_singleton.mp h⟩
  | folder name entries =>
    rw [chains] at h
    split at h
    · cases h
    · obtain ⟨rest, _, rfl⟩ := List.mem_map.mp h
      exact ⟨rest, rfl⟩

end Entry

namespace FileTree

section

variable (tree : FileTree) (here : Location) (path name : RawText)

/-- The folder at `here`, walked under `path`, holds a file under the name, or a link to one. -/
def HoldsFile : Prop :=
  (∃ content, tree.get? (here ++ [name]) = some (.file content)) ∨
  ∃ target location content, tree.get? (here ++ [name]) = some (.link target) ∧
    tree.trace (Path.join path name) = .found location ∧
    tree.get? location = some (.file content)

/-- The folder at `here` holds a folder under the name, or a link to one that is not being
walked. -/
def HoldsFolder (walked : List Location) : Prop :=
  (∃ items, tree.get? (here ++ [name]) = some (.folder items)) ∨
  ∃ target location items, tree.get? (here ++ [name]) = some (.link target) ∧
    tree.trace (Path.join path name) = .found location ∧
    tree.get? location = some (.folder items) ∧ location ∉ here :: walked

end

/-- A walk of the folder at a path, inside other folders that are being walked, meets a file to
which these names lead from the folder; none of the folders on the way is ignored. A folder whose
path leads nowhere, as it is too long or goes through too many links, is not walked. -/
inductive Meets (tree : FileTree) (ignored : List String) :
    List Location → RawText → List RawText → Prop
  | file {walked path here name} : tree.trace path = .found here →
      tree.HoldsFile here path name → Meets tree ignored walked path [name]
  | inside {walked path here name names} : tree.trace path = .found here →
      tree.HoldsFolder here path name walked → (∀ text ∈ ignored, name ≠ RawText.ofText text) →
      Meets tree ignored (here :: walked) (Path.join path name) names →
      Meets tree ignored walked path (name :: names)

/-- The entry of a folder that is being walked. -/
def entryAt (tree : FileTree) (below : RawText → List Entry) (walked : List Location)
    (here : Location) (path name : RawText) : Option Entry :=
  match tree.get? (here ++ [name]) with
  | some (.file _) => some (.file name)
  | some (.folder _) => some (.folder name (below (Path.join path name)))
  | some (.link _) =>
    match tree.trace (Path.join path name) with
    | .found location =>
      match tree.get? location with
      | some (.file _) => some (.file name)
      | some (.folder _) =>
        if (here :: walked).contains location then none
        else some (.folder name (below (Path.join path name)))
      | _ => none
    | _ => none
  | none => none

theorem entriesAt_succ {tree : FileTree} {path : RawText} {here : Location}
    (h : tree.trace path = .found here) (depth : Nat) (walked : List Location) :
    tree.entriesAt (depth + 1) walked path =
      (sortedNames (((tree.get? here).map items).getD [])).filterMap
        (tree.entryAt (tree.entriesAt depth (here :: walked)) walked here path) := by
  rw [entriesAt, h]
  rfl

section

variable {tree : FileTree} {below : RawText → List Entry} {walked : List Location}
  {here : Location} {path name : RawText}

/-- What a walk meets under a name of a folder, if anything. -/
theorem entryAt_eq_some_iff {entry : Entry} :
    tree.entryAt below walked here path name = some entry ↔
      (tree.HoldsFile here path name ∧ entry = .file name) ∨
      (tree.HoldsFolder here path name walked ∧
        entry = .folder name (below (Path.join path name))) := by
  unfold entryAt HoldsFile HoldsFolder
  generalize here :: walked = around
  cases hget : tree.get? (here ++ [name]) with
  | none => simp
  | some node =>
    cases node with
    | file content => simp [eq_comm]
    | folder items => simp [eq_comm]
    | link target =>
      cases htrace : tree.trace (Path.join path name) with
      | vacant location asFolder => simp
      | failed cause => simp
      | found location =>
        cases hthere : tree.get? location with
        | none => simp [hthere]
        | some there =>
          cases there with
          | file content => simp [hthere, eq_comm]
          | link target => simp [hthere]
          | folder items =>
            by_cases hwalked : location ∈ around
            · simp [hthere, hwalked]
            · simp [hthere, hwalked, eq_comm]

theorem name_of_entryAt {entry : Entry}
    (h : tree.entryAt below walked here path name = some entry) : entry.name = name := by
  rcases entryAt_eq_some_iff.mp h with ⟨_, rfl⟩ | ⟨_, rfl⟩
  · rfl
  · rfl

theorem HoldsFile.exists_node (h : tree.HoldsFile here path name) :
    ∃ node, tree.get? (here ++ [name]) = some node := by
  rcases h with ⟨_, hnode⟩ | ⟨_, _, _, hnode, _⟩
  · exact ⟨_, hnode⟩
  · exact ⟨_, hnode⟩

theorem HoldsFolder.exists_node (h : tree.HoldsFolder here path name walked) :
    ∃ node, tree.get? (here ++ [name]) = some node := by
  rcases h with ⟨_, hnode⟩ | ⟨_, _, _, hnode, _⟩
  · exact ⟨_, hnode⟩
  · exact ⟨_, hnode⟩

theorem exists_node_of_entryAt {entry : Entry}
    (h : tree.entryAt below walked here path name = some entry) :
    ∃ node, tree.get? (here ++ [name]) = some node := by
  rcases entryAt_eq_some_iff.mp h with ⟨hfile, _⟩ | ⟨hfolder, _⟩
  · exact hfile.exists_node
  · exact hfolder.exists_node

/-- The entries of a folder are what a walk meets under its names. -/
theorem mem_entriesAt {depth : Nat} {entry : Entry} (htrace : tree.trace path = .found here) :
    entry ∈ tree.entriesAt (depth + 1) walked path ↔
      ∃ name, tree.entryAt (tree.entriesAt depth (here :: walked)) walked here path name =
        some entry := by
  rw [entriesAt_succ htrace, List.mem_filterMap]
  constructor
  · rintro ⟨name, _, hentry⟩
    exact ⟨name, hentry⟩
  · rintro ⟨name, hentry⟩
    obtain ⟨node, hnode⟩ := exists_node_of_entryAt hentry
    obtain ⟨items, hfolder, hitem⟩ := item_of_get? hnode
    refine ⟨name, ?_, hentry⟩
    rw [hfolder, sortedNames, List.mem_mergeSort]
    exact List.mem_map_of_mem hitem

end

section

variable {tree : FileTree} (hproper : tree.isProper = true)

include hproper

/-- The names of the files that are found to a depth are those a walk meets, if there are no more of
them than the depth allows. -/
theorem mem_chainsBelow_entriesAt {leftOut : RawText → Bool} {ignored : List String}
    (hignored : ∀ name, Path.isItemName name = true → (leftOut name = false ↔
      ∀ text ∈ ignored, name ≠ RawText.ofText text))
    {depth : Nat} {walked : List Location} {path : RawText} {names : List RawText} :
    names ∈ Entry.chainsBelow leftOut (tree.entriesAt depth walked path) ↔
      tree.Meets ignored walked path names ∧ names.length ≤ depth := by
  rw [Entry.chainsBelow_eq_flatMap, List.mem_flatMap]
  induction depth generalizing walked path names with
  | zero =>
    constructor
    · rintro ⟨entry, hentry, _⟩
      cases hentry
    · rintro ⟨hmeets, hlength⟩
      cases hmeets <;> cases hlength
  | succ depth ih =>
    constructor
    · rintro ⟨entry, hentry, hnames⟩
      cases htrace : tree.trace path with
      | vacant location asFolder => simp [entriesAt, htrace] at hentry
      | failed cause => simp [entriesAt, htrace] at hentry
      | found here =>
        obtain ⟨name, hat⟩ := (mem_entriesAt htrace).mp hentry
        rcases entryAt_eq_some_iff.mp hat with ⟨hfile, rfl⟩ | ⟨hfolder, rfl⟩
        · cases List.mem_singleton.mp hnames
          exact ⟨.file htrace hfile, by simp⟩
        · obtain ⟨node, hnode⟩ := exists_node_of_entryAt hat
          rw [Entry.chains] at hnames
          split at hnames
          next => cases hnames
          next hkept =>
            obtain ⟨rest, hrest, rfl⟩ := List.mem_map.mp hnames
            rw [Entry.chainsBelow_eq_flatMap, List.mem_flatMap] at hrest
            obtain ⟨hmeets, hlength⟩ := ih.mp hrest
            have hitem := isItemName_of_get? hproper hnode
            have hname := (hignored name hitem).mp (by simpa using hkept)
            exact ⟨.inside htrace hfolder hname hmeets, by simpa using hlength⟩
    · rintro ⟨hmeets, hlength⟩
      cases hmeets with
      | @file _ _ here name htrace hfile =>
        exact ⟨.file name, (mem_entriesAt htrace).mpr
          ⟨name, entryAt_eq_some_iff.mpr (Or.inl ⟨hfile, rfl⟩)⟩, List.mem_singleton_self _⟩
      | @inside _ _ here name rest htrace hfolder hname hrest =>
        have hat : tree.entryAt (tree.entriesAt depth (here :: walked)) walked here path name =
            some (.folder name (tree.entriesAt depth (here :: walked) (Path.join path name))) :=
          entryAt_eq_some_iff.mpr (Or.inr ⟨hfolder, rfl⟩)
        obtain ⟨node, hnode⟩ := exists_node_of_entryAt hat
        have hkept := (hignored name (isItemName_of_get? hproper hnode)).mpr hname
        refine ⟨_, (mem_entriesAt htrace).mpr ⟨name, hat⟩, ?_⟩
        rw [Entry.chains, if_neg (by simp [hkept]), Entry.chainsBelow_eq_flatMap]
        refine List.mem_map_of_mem (List.mem_flatMap.mpr (ih.mpr ⟨hrest, ?_⟩))
        simpa using hlength

/-- The names held by a folder, sorted, increase by their bytes. -/
theorem sortedNames_increasing {here : Location} {items : List (RawText × FileTree)}
    (hfolder : tree.get? here = some (.folder items)) :
    (sortedNames items).Pairwise fun a b => a.bytes < b.bytes := by
  have hnodup : (sortedNames items).Nodup := (List.mergeSort_perm _ _).nodup_iff.mpr
    (nodup_of_areProper (isProper_get? hproper hfolder))
  have hordered : (sortedNames items).Pairwise fun a b => a.bytes ≤ b.bytes := by
    refine (List.pairwise_mergeSort ?_ ?_ _).imp fun h => by simpa using h
    · intro a b c hab hbc
      simp only [Bool.not_eq_true', decide_eq_false_iff_not] at hab hbc ⊢
      exact List.not_lt.mpr (List.le_trans (List.not_lt.mp hab) (List.not_lt.mp hbc))
    · intro a b
      simp only [Bool.or_eq_true, Bool.not_eq_true', decide_eq_false_iff_not]
      exact (List.le_total a.bytes b.bytes).imp List.not_lt.mpr List.not_lt.mpr
  refine (hordered.and hnodup).imp fun {a b} h => ?_
  rcases List.le_iff_lt_or_eq.mp h.1 with hlt | heq
  · exact hlt
  · exact absurd (RawText.mk.injEq .. ▸ heq) h.2

/-- Files are found in the order of their names, those of the outer folders first. -/
theorem chainsBelow_entriesAt_increasing (leftOut : RawText → Bool) (depth : Nat)
    (walked : List Location) (path : RawText) :
    (Entry.chainsBelow leftOut (tree.entriesAt depth walked path)).Pairwise
      Entry.InNameOrder := by
  induction depth generalizing walked path with
  | zero => exact List.Pairwise.nil
  | succ depth ih =>
    cases htrace : tree.trace path with
    | vacant location asFolder => simp [entriesAt, htrace, Entry.chainsBelow]
    | failed cause => simp [entriesAt, htrace, Entry.chainsBelow]
    | found here =>
      have hnames : (sortedNames (((tree.get? here).map items).getD [])).Pairwise
          fun a b => a.bytes < b.bytes := by
        cases hget : tree.get? here with
        | none => simp [sortedNames]
        | some node =>
          cases node with
          | folder items => exact sortedNames_increasing hproper hget
          | file content => simp [items, sortedNames]
          | link target => simp [items, sortedNames]
      rw [entriesAt_succ htrace, Entry.chainsBelow_eq_flatMap, List.pairwise_flatMap]
      constructor
      · intro entry hentry
        obtain ⟨name, _, hat⟩ := List.mem_filterMap.mp hentry
        rcases entryAt_eq_some_iff.mp hat with ⟨_, rfl⟩ | ⟨_, rfl⟩
        · exact List.pairwise_singleton _ _
        · rw [Entry.chains]
          split
          · exact List.Pairwise.nil
          · exact (ih _ _).map _ fun a b hab => hab.cons name
      · refine List.Pairwise.filterMap _ ?_ hnames
        intro first second hlt a ha b hb x hx y hy
        obtain ⟨restx, rfl⟩ := Entry.exists_cons_of_mem_chains hx
        obtain ⟨resty, rfl⟩ := Entry.exists_cons_of_mem_chains hy
        rw [name_of_entryAt ha, name_of_entryAt hb]
        exact Entry.inNameOrder_of_lt hlt restx resty

end

/-- What is met lies in a folder that the path leads to. -/
theorem Meets.exists_folder {tree : FileTree} {ignored : List String} {walked : List Location}
    {path : RawText} {names : List RawText} (h : tree.Meets ignored walked path names) :
    ∃ here items, tree.trace path = .found here ∧ tree.get? here = some (.folder items) := by
  cases h with
  | file htrace hfile =>
    obtain ⟨_, hnode⟩ := hfile.exists_node
    obtain ⟨items, haround, _⟩ := item_of_get? hnode
    exact ⟨_, items, htrace, haround⟩
  | inside htrace hfolder _ _ =>
    obtain ⟨_, hnode⟩ := hfolder.exists_node
    obtain ⟨items, haround, _⟩ := item_of_get? hnode
    exact ⟨_, items, htrace, haround⟩

theorem entries_eq_some {tree : FileTree} {root : RawText} {found : List Entry}
    (h : tree.entries root = some found) :
    ∃ here items, tree.trace root = .found here ∧ tree.get? here = some (.folder items) ∧
      found = tree.entriesAt tree.depthBound [] root := by
  unfold entries at h
  split at h
  next here htrace =>
    split at h
    next items hfolder => exact ⟨here, items, htrace, hfolder, (Option.some.inj h).symm⟩
    next => cases h
  next => cases h

section

variable {tree : FileTree} (hproper : tree.isProper = true) {ignored : List String}

include hproper

/-- A walk goes no deeper than trails are long. -/
theorem Meets.length_le {walked : List Location} {path : RawText} {names : List RawText}
    (h : tree.Meets ignored walked path names) {here : Location}
    (htrace : tree.trace path = .found here) (htrail : Trail tree (here :: walked)) :
    names.length + walked.length ≤ tree.size * tree.size := by
  induction h generalizing here with
  | file =>
    have hlength := htrail.length_le
    rw [List.length_cons] at hlength
    rw [List.length_singleton]
    omega
  | @inside walked path outer name names houter hfolder _ hrest ih =>
    obtain rfl : outer = here := Trace.found.inj (houter.symm.trans htrace)
    obtain ⟨there, _, hthere, _⟩ := hrest.exists_folder
    have hnext : Trail tree (there :: outer :: walked) := by
      rcases hfolder with ⟨items, hitem⟩ | ⟨_, location, items, _, hlocation, hitem, hnew⟩
      · obtain ⟨_, haround⟩ := htrail.folder List.mem_cons_self
        have hname := isItemName_of_get? hproper hitem
        rw [trace_join htrace haround hname hitem hthere]
        exact htrail.item hitem
      · cases hlocation.symm.trans hthere
        exact htrail.link hnew hitem
    have hlength := ih hthere hnext
    rw [List.length_cons] at hlength ⊢
    omega

/-- The files that are found below a root are those that a walk meets. -/
theorem mem_chainsBelow_entries {leftOut : RawText → Bool}
    (hignored : ∀ name, Path.isItemName name = true → (leftOut name = false ↔
      ∀ text ∈ ignored, name ≠ RawText.ofText text))
    {root : RawText} {found : List Entry} (h : tree.entries root = some found)
    {names : List RawText} :
    names ∈ Entry.chainsBelow leftOut found ↔ tree.Meets ignored [] root names := by
  obtain ⟨here, items, htrace, hfolder, rfl⟩ := entries_eq_some h
  rw [mem_chainsBelow_entriesAt hproper hignored]
  refine and_iff_left_of_imp fun hmeets => ?_
  have hlength := hmeets.length_le hproper htrace (.root hfolder)
  rw [List.length_nil] at hlength
  rw [depthBound]
  omega

end

end FileTree

end CrossRef
