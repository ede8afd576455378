import CrossRef.Proofs.LastParts
import CrossRef.Proofs.RawTexts
import CrossRef.Proofs.WalkedFiles

namespace CrossRef

namespace FileTree

/-- The last of the names that lead to a file is the name under which a folder holds it. -/
theorem Meets.exists_last {tree : FileTree} (hproper : tree.isProper = true)
    {ignored : List String} {walked : List Location} {path : RawText} {names : List RawText}
    (h : tree.Meets ignored walked path names) :
    ∃ front name, names = front ++ [name] ∧ Path.isItemName name = true := by
  induction h with
  | @file walked path here name htrace hfile =>
    obtain ⟨_, hnode⟩ := hfile.exists_node
    exact ⟨[], name, rfl, isItemName_of_get? hproper hnode⟩
  | @inside walked path here name names htrace hfolder hname hrest ih =>
    obtain ⟨front, last, rfl, hlast⟩ := ih
    exact ⟨name :: front, last, rfl, hlast⟩

theorem isFolder_eq_isSome_entries (tree : FileTree) (root : RawText) :
    tree.isFolder root = (tree.entries root).isSome := by
  unfold isFolder entries nodeAt?
  cases tree.trace root with
  | vacant location asFolder => rfl
  | failed cause => rfl
  | found location =>
    dsimp only
    cases tree.get? location with
    | none => rfl
    | some node => cases node <;> rfl

end FileTree

namespace FileSettings

/-- The family of a file by its extension, which is the last part of its name, the last of the names
that lead to the file, if this is a text. An extension in both lists is a sql one. -/
def HasFamily (files : FileSettings) (names : List RawText) (family : Family) : Prop :=
  ∃ name extension : String, names.getLast? = some ↑name ∧ Text.IsLastPart extension name ∧
    match family with
    | .sql => extension ∈ files.sqlExtensions
    | .native => extension ∉ files.sqlExtensions ∧ extension ∈ files.nativeExtensions

theorem familyOf?_join {name : RawText} (hname : Path.isItemName name = true)
    (files : FileSettings) (base : RawText) (front : List RawText) (family : Family) :
    files.familyOf? (Path.join base name) = some family ↔
      files.HasFamily (front ++ [name]) family := by
  have hlast : (front ++ [name]).getLast? = some name := List.getLast?_concat
  cases htext : name.text? with
  | none =>
    have hextension : extension? (Path.join base name) = none := by
      rw [extension?, Path.fileName?_join hname, Option.bind_some, htext, Option.map_none]
    rw [familyOf?, hextension]
    constructor
    · rintro ⟨⟩
    · rintro ⟨text, _, hown, _⟩
      rw [Option.some.inj (hlast.symm.trans hown), RawText.text?_ofText] at htext
      cases htext
  | some text =>
    obtain rfl := RawText.text?_eq_some_iff.mp htext
    have hextension : extension? (Path.join base text) = some (Report.lastName text) := by
      rw [extension?, Path.fileName?_join hname, Option.bind_some, htext]
      rfl
    have hsame (other : String) : RawText.ofText text = ↑other ↔ other = text :=
      ⟨fun h => (RawText.ofText_injective h).symm, fun h => congrArg RawText.ofText h.symm⟩
    have hfamily : files.HasFamily (front ++ [↑text]) family ↔
        match family with
        | .sql => Report.lastName text ∈ files.sqlExtensions
        | .native => Report.lastName text ∉ files.sqlExtensions ∧
            Report.lastName text ∈ files.nativeExtensions := by
      simp [HasFamily, hsame, ← Report.lastName_eq_iff]
    rw [hfamily, familyOf?, hextension]
    by_cases hsql : Report.lastName text ∈ files.sqlExtensions
    · cases family <;> simp [hsql]
    · by_cases hnative : Report.lastName text ∈ files.nativeExtensions
      · cases family <;> simp [hsql, hnative]
      · cases family <;> simp [hsql, hnative]

theorem leavesOut_eq_false_iff (files : FileSettings) {name : RawText}
    (hname : Path.isItemName name = true) :
    files.leavesOut name = false ↔ ∀ text ∈ files.ignoreDirs, name ≠ RawText.ofText text := by
  cases htext : name.text? with
  | none =>
    simp only [leavesOut, htext, Option.any_none, true_iff]
    rintro text _ rfl
    rw [RawText.text?_ofText] at htext
    cases htext
  | some own =>
    obtain rfl := RawText.text?_eq_some_iff.mp htext
    have hne : own.isEmpty = false := by
      refine Bool.eq_false_iff.mpr fun hempty => Path.ne_nil_of_isItemName hname ?_
      rw [String.isEmpty_iff.mp hempty]
      rfl
    have hlisted : files.leavesOut (RawText.ofText own) = true ↔ own ∈ files.ignoreDirs := by
      simp [leavesOut, hne]
    rw [← Bool.not_eq_true, hlisted]
    constructor
    · intro hkept text hignored hsame
      exact hkept (RawText.ofText_injective hsame ▸ hignored)
    · intro hkept hignored
      exact hkept own hignored rfl

end FileSettings

namespace Catalog

/-- The catalog with files that have nothing declared in them behind its own, numbered on. -/
def withFiles (catalog : Catalog) (found : List (RawText × Family)) : Catalog :=
  ⟨catalog.files ++ found.mapIdx fun i entry =>
      ⟨catalog.last + UInt64.ofNat (i + 1), entry.1, entry.2, [], []⟩,
    catalog.last + UInt64.ofNat found.length⟩

theorem withFiles_cons (catalog : Catalog) (path : RawText) (family : Family)
    (found : List (RawText × Family)) :
    catalog.withFiles ((path, family) :: found) =
      (catalog.addFile path family).withFiles found := by
  have hnext (i : Nat) : catalog.last + UInt64.ofNat (i + 1) =
      Identifier.next catalog.last + UInt64.ofNat i := by
    rw [Identifier.next, UInt64.add_assoc, UInt64.ofNat_add, UInt64.add_comm (UInt64.ofNat i)]
    rfl
  simp only [withFiles, addFile, List.mapIdx_cons, List.length_cons, hnext, List.append_assoc,
    List.singleton_append]
  simp

end Catalog

namespace Classification

/-- The files of known families are added in turn; of each family and of the others there are as
many as are counted. -/
theorem foldl_addPath (files : FileSettings) (paths : List RawText) (catalog : Catalog)
    (counts : FamilyCounts) :
    let found := paths.filterMap fun path => (files.familyOf? path).map (path, ·)
    paths.foldl (addPath files) (catalog, counts) =
      (catalog.withFiles found,
        ⟨counts.sql + found.countP (·.2 = .sql), counts.native + found.countP (·.2 = .native),
          counts.dropped + paths.countP (files.familyOf? · = none)⟩) := by
  induction paths generalizing catalog counts with
  | nil => simp [Catalog.withFiles]
  | cons path paths ih =>
    simp only [List.foldl_cons]
    cases hfamily : files.familyOf? path with
    | none =>
      have hstep : addPath files (catalog, counts) path =
          (catalog, { counts with dropped := counts.dropped + 1 }) := by simp [addPath, hfamily]
      rw [hstep, ih]
      simp [hfamily, Nat.add_assoc, Nat.add_comm 1]
    | some family =>
      have hstep : addPath files (catalog, counts) path = (catalog.addFile path family,
          ⟨counts.sql + if family = .sql then 1 else 0,
            counts.native + if family = .native then 1 else 0, counts.dropped⟩) := by
        cases family <;> simp [addPath, hfamily]
      rw [hstep, ih]
      cases family <;>
        simp [hfamily, Catalog.withFiles_cons, Nat.add_assoc, Nat.add_comm 1]

/-- The files that a walk meets below the root, parted into those of a known family and the others,
each once. They are in the order of the names that lead to them: the files inside a folder stand
where its name stands among those beside it. -/
structure ToldApart (tree : FileTree) (files : FileSettings)
    (known : List (List RawText × Family)) (others : List (List RawText)) : Prop where
  mem_known : ∀ names family, (names, family) ∈ known ↔
    tree.Meets files.ignoreDirs [] files.root names ∧ files.HasFamily names family
  mem_others : ∀ names, names ∈ others ↔
    tree.Meets files.ignoreDirs [] files.root names ∧ ∀ family, ¬ files.HasFamily names family
  known_increasing : (known.map Prod.fst).Pairwise Entry.InNameOrder
  others_increasing : others.Pairwise Entry.InNameOrder

section

variable {tree : FileTree} (hproper : tree.isProper = true) (files : FileSettings)

include hproper

theorem familyOf?_of_meets {names : List RawText}
    (h : tree.Meets files.ignoreDirs [] files.root names) (family : Family) :
    files.familyOf? (names.foldl Path.join files.root) = some family ↔
      files.HasFamily names family := by
  obtain ⟨front, name, rfl, hname⟩ := h.exists_last hproper
  rw [List.foldl_append]
  exact FileSettings.familyOf?_join hname files _ front family

/-- The files found below a root are told apart by the families of their paths. -/
theorem toldApart_chainsBelow {found : List Entry} (hfound : tree.entries files.root = some found) :
    let chains := Entry.chainsBelow files.leavesOut found
    let family? (names : List RawText) := files.familyOf? (names.foldl Path.join files.root)
    ToldApart tree files (chains.filterMap fun names => (family? names).map (names, ·))
      (chains.filter (family? · = none)) := by
  intro chains family?
  have hmem (names : List RawText) :
      names ∈ chains ↔ tree.Meets files.ignoreDirs [] files.root names :=
    FileTree.mem_chainsBelow_entries hproper (fun _ => files.leavesOut_eq_false_iff) hfound
  have hincreasing : chains.Pairwise Entry.InNameOrder := by
    obtain ⟨_, _, _, _, rfl⟩ := FileTree.entries_eq_some hfound
    exact FileTree.chainsBelow_entriesAt_increasing hproper files.leavesOut _ [] files.root
  refine ⟨?_, ?_, ?_, ?_⟩
  · intro names family
    simp only [List.mem_filterMap, Option.map_eq_some_iff, Prod.mk.injEq]
    constructor
    · rintro ⟨_, hnames, _, hfamily, rfl, rfl⟩
      have hmeets := (hmem _).mp hnames
      exact ⟨hmeets, (familyOf?_of_meets hproper files hmeets _).mp hfamily⟩
    · rintro ⟨hmeets, hfamily⟩
      exact ⟨names, (hmem names).mpr hmeets, family,
        (familyOf?_of_meets hproper files hmeets family).mpr hfamily, rfl, rfl⟩
  · intro names
    rw [List.mem_filter, hmem, decide_eq_true_iff, Option.eq_none_iff_forall_ne_some]
    exact and_congr_right fun hmeets => forall_congr' fun family =>
      not_congr (familyOf?_of_meets hproper files hmeets family)
  · rw [List.map_filterMap]
    refine List.Pairwise.filterMap _ ?_ hincreasing
    intro a b hlt x hx y hy
    simp only [Option.map_map, Option.map_eq_some_iff, Function.comp] at hx hy
    obtain ⟨_, _, rfl⟩ := hx
    obtain ⟨_, _, rfl⟩ := hy
    exact hlt
  · exact hincreasing.filter _

end

theorem countP_families (known : List (List RawText × Family)) :
    known.countP (·.2 = .sql) + known.countP (·.2 = .native) = known.length := by
  have hother : known.countP (·.2 = .native) =
      known.countP fun entry => ¬ decide (entry.2 = .sql) = true :=
    List.countP_congr fun entry _ => by cases entry.2 <;> simp
  rw [hother, ← List.length_eq_countP_add_countP]

/-- Below a root that is a folder, the files met that are of a known family are added in the order
of their names, with the numbers after the last one, and all that are met are counted. A file whose
name is no text is of no family, whatever stands behind its last dot. A root that is no folder is an
error, and the catalog stays as it was. -/
theorem classify_lists_visible_files {tree : FileTree} (hproper : tree.isProper = true)
    (files : FileSettings) (catalog : Catalog) :
    (tree.isFolder files.root = false →
      classify files (tree.entries files.root) catalog =
        (catalog, .error (.rootNotFound files.root))) ∧
    (tree.isFolder files.root = true → ∃ known others, ToldApart tree files known others ∧
      classify files (tree.entries files.root) catalog =
        (catalog.withFiles (known.map fun (names, family) =>
          (names.foldl Path.join files.root, family)),
        .ok ⟨known.countP (·.2 = .sql), known.countP (·.2 = .native), others.length⟩) ∧
      known.countP (·.2 = .sql) + known.countP (·.2 = .native) = known.length) := by
  rw [FileTree.isFolder_eq_isSome_entries]
  cases hentries : tree.entries files.root with
  | none => exact ⟨fun _ => rfl, nofun⟩
  | some found =>
    refine ⟨nofun, fun _ => ⟨_, _, toldApart_chainsBelow hproper files hentries, ?_,
      countP_families _⟩⟩
    have hadded := foldl_addPath files (Entry.pathsBelow files.leavesOut files.root found)
      catalog ⟨0, 0, 0⟩
    have hlisted (chains : List (List RawText)) :
        (chains.map (·.foldl Path.join files.root)).filterMap
            (fun path => (files.familyOf? path).map (path, ·)) =
          (chains.filterMap fun names => (files.familyOf? (names.foldl Path.join files.root)).map
            (names, ·)).map fun entry => (entry.1.foldl Path.join files.root, entry.2) := by
      rw [List.filterMap_map, List.map_filterMap]
      simp only [Option.map_map, Function.comp_def]
    rw [classify, hadded, Entry.pathsBelow_eq_chains, hlisted, ← List.countP_eq_length_filter]
    simp only [List.countP_map, Function.comp_def, Nat.zero_add]

/-- Folders with links between them, one of which leads back and one nowhere, a folder to be ignored
below another, a file of the same name and one whose name is no text. -/
def linkedSources : FileTree :=
  FileTree.blank.put (FileTree.home ++ (["src"] : Location)) (.folder
    [("target", .file (.bytes [])), ("pay", .link "bill/core"), ("gone", .link "nowhere"),
      ("main.c", .file (.bytes [])), ("sql", .file (.bytes [])),
      (⟨[0xe9, 0x2e, 0x63]⟩, .file (.bytes [])),
      ("bill", .folder
        [("target", .folder [("old.sql", .file (.bytes []))]),
          ("core", .folder
            [("tax.v2.sql", .file (.bytes [])), ("rate.pc", .file (.bytes [])),
              ("up", .link "../..")])])])

theorem classify_lists_visible_files_linkedSources :
    let files : FileSettings := ⟨"src", ["target"], ["sql", "pc"], ["pc", "c"]⟩
    let chain (names : List String) : List RawText := names.map RawText.ofText
    linkedSources.isProper = true ∧ linkedSources.isFolder files.root = true ∧
    (∃ known others, ToldApart linkedSources files known others ∧
      classify files (linkedSources.entries files.root) .empty =
        (Catalog.empty.withFiles (known.map fun (names, family) =>
          (names.foldl Path.join files.root, family)),
        .ok ⟨known.countP (·.2 = .sql), known.countP (·.2 = .native), others.length⟩) ∧
      (chain ["pay", "rate.pc"], .sql) ∈ known ∧ (chain ["main.c"], .native) ∈ known ∧
      chain ["target"] ∈ others ∧ [⟨[0xe9, 0x2e, 0x63]⟩] ∈ others ∧
      (chain ["bill", "target", "old.sql"], .sql) ∉ known) ∧
    linkedSources.isFolder "gone" = false ∧
    classify { files with root := "gone" } (linkedSources.entries "gone") .empty =
      (.empty, .error (.rootNotFound "gone")) := by
  intro files chain
  have hproper : linkedSources.isProper = true := by decide +kernel
  have hfolder : linkedSources.isFolder files.root = true := by decide +kernel
  have hnone : linkedSources.isFolder "gone" = false := by decide +kernel
  obtain ⟨known, others, htold, hanswer, _⟩ :=
    (classify_lists_visible_files hproper files .empty).2 hfolder
  have hroot : linkedSources.trace "src" = .found (FileTree.home ++ (["src"] : Location)) := by
    decide +kernel
  have hpay : linkedSources.trace (Path.join "src" "pay") =
      .found (FileTree.home ++ (["src", "bill", "core"] : Location)) := by decide +kernel
  refine ⟨hproper, hfolder, ⟨known, others, htold, hanswer, ?_, ?_, ?_, ?_, ?_⟩, hnone,
    (classify_lists_visible_files hproper { files with root := "gone" } .empty).1 hnone⟩
  · have hlink : linkedSources.HoldsFolder (FileTree.home ++ (["src"] : Location)) "src" "pay" [] :=
      Or.inr ⟨"bill/core", _, _, rfl, hpay, rfl, by decide +kernel⟩
    have hfile : linkedSources.HoldsFile (FileTree.home ++ (["src", "bill", "core"] : Location))
        (Path.join "src" "pay") "rate.pc" := Or.inl ⟨_, rfl⟩
    exact (htold.mem_known _ _).mpr
      ⟨.inside hroot hlink (by decide +kernel) (.file hpay hfile),
        "rate.pc", "pc", rfl, ⟨by decide, Or.inr ⟨"rate", rfl⟩⟩, by decide⟩
  · exact (htold.mem_known _ _).mpr ⟨.file hroot (Or.inl ⟨_, rfl⟩),
      "main.c", "c", rfl, ⟨by decide, Or.inr ⟨"main", rfl⟩⟩, by decide⟩
  · refine (htold.mem_others _).mpr ⟨.file hroot (Or.inl ⟨_, rfl⟩), ?_⟩
    rintro family ⟨name, extension, hname, hlast, hknown⟩
    obtain rfl : "target" = name := RawText.ofText_injective (Option.some.inj hname)
    have hwhole : extension = "target" :=
      (Report.lastName_eq_iff.mpr hlast).symm.trans (Report.lastName_of_no_dot (by decide))
    subst hwhole
    cases family
    · exact absurd hknown (by decide)
    · exact absurd hknown.2 (by decide)
  · refine (htold.mem_others _).mpr ⟨.file hroot (Or.inl ⟨_, rfl⟩), ?_⟩
    rintro family ⟨name, _, hname, _⟩
    have hsame : (⟨[0xe9, 0x2e, 0x63]⟩ : RawText) = ↑name := Option.some.inj hname
    have htext : RawText.IsText ⟨[0xe9, 0x2e, 0x63]⟩ := by
      rw [hsame]
      exact RawText.isText_ofText name
    exact absurd htext (by decide +kernel)
  · intro hmem
    rcases ((htold.mem_known _ _).mp hmem).1 with _ | ⟨_, _, _, hbill⟩
    rcases hbill with _ | ⟨_, _, htarget, _⟩
    exact htarget "target" List.mem_cons_self rfl

/-- A folder with one file, whose name `caf\xe9.sql` is no text. -/
def unreadName : FileTree :=
  FileTree.blank.put (FileTree.home ++ [⟨[0x63, 0x61, 0x66, 0xe9] ++ Text.encode ".sql"⟩])
    (.file (.bytes []))

/-- What stands behind the last dot of a name does not make its file one of the family, if the name
is no text: the file is met and left out. -/
theorem classify_leaves_out_name_no_text :
    let files : FileSettings := ⟨".", [], ["sql"], []⟩
    let name : RawText := ⟨[0x63, 0x61, 0x66, 0xe9] ++ Text.encode ".sql"⟩
    unreadName.isProper = true ∧ unreadName.isFolder files.root = true ∧
    unreadName.Meets files.ignoreDirs [] files.root [name] ∧
    classify files (unreadName.entries files.root) .empty = (.empty, .ok ⟨0, 0, 1⟩) := by
  intro files name
  have hroot : unreadName.trace files.root = .found FileTree.home := by decide +kernel
  exact ⟨by decide +kernel, by decide +kernel, .file hroot (Or.inl ⟨.bytes [], by rfl⟩),
    by decide +kernel⟩

end Classification

end CrossRef
