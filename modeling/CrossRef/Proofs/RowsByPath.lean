import CrossRef.Proofs.StableSorting
import CrossRef.Proofs.UseRowCounts

namespace CrossRef

/-- The first entries stand in the order in which their values are first met. -/
theorem firstOfEach_pairwise_idxOf {β : Type} [DecidableEq β] (xs : List β) :
    (firstOfEach id xs).Pairwise fun a b => xs.idxOf a < xs.idxOf b := by
  induction xs with
  | nil => exact .nil
  | cons x rest ih =>
    have later {y : β} (hy : y ≠ x) : (x :: rest).idxOf y = rest.idxOf y + 1 :=
      List.idxOf_cons_ne rest hy.symm
    have hne : ∀ y ∈ (firstOfEach id rest).filter (id · ≠ id x), y ≠ x := fun y hy =>
      of_decide_eq_true (List.mem_filter.mp hy).2
    rw [firstOfEach, List.pairwise_cons]
    constructor
    · intro y hy
      rw [List.idxOf_cons_self, later (hne y hy)]
      omega
    · refine (ih.filter _).imp_of_mem fun ha hb hlt => ?_
      rw [later (hne _ ha), later (hne _ hb)]
      omega

namespace Report

/-- Where a list is sorted stably, entries of equal keys are related as they were before. -/
theorem StablySorted.pairwise_of_equal_keys {α : Type} {key : α → String} {items sorted : List α}
    (h : StablySorted key items sorted) {r : α → α → Prop} (hitems : items.Pairwise r) :
    sorted.Pairwise fun a b => key a = key b → r a b := by
  have hkeys (k : String) : (sorted.filter (key · = k)).Pairwise r := by
    rw [h.stable k]
    exact hitems.filter _
  clear h hitems
  induction sorted with
  | nil => exact .nil
  | cons a rest ih =>
    rw [List.pairwise_cons]
    constructor
    · intro b hb hkey
      have hsame := hkeys (key a)
      rw [List.filter_cons_of_pos (by simp)] at hsame
      exact (List.pairwise_cons.mp hsame).1 b (List.mem_filter.mpr ⟨hb, by simp [hkey]⟩)
    · refine ih fun k => (hkeys k).sublist ?_
      exact (List.sublist_cons_self a rest).filter _

/-- The paths of uses as they are seen from the root. -/
def seenPaths (root : RawText) (uses : List (String × UInt32)) : List String :=
  uses.map fun use => Path.relative root use.1

/-- The lines of the uses that are seen under a path, in the order of the uses. -/
def linesSeenAt (root : RawText) (uses : List (String × UInt32)) (path : String) : List UInt32 :=
  (uses.filter fun use => Path.relative root use.1 = path).map (·.2)

/-- One use more lengthens the row of its path, or makes one that holds nothing else. -/
theorem addLine_map {paths : List String} (hnodup : paths.Nodup)
    {found later : String → List UInt32} {path : String} {line : UInt32}
    (hnew : path ∉ paths → found path = [])
    (hlater : ∀ p, later p = if p = path then found p ++ [line] else found p) :
    addLine path line (paths.map fun p => ⟨p, found p⟩) =
      (if path ∈ paths then paths else paths ++ [path]).map fun p => ⟨p, later p⟩ := by
  induction paths with
  | nil => simp [addLine, hlater, hnew]
  | cons first rest ih =>
    obtain ⟨hfirst, hrest⟩ := List.nodup_cons.mp hnodup
    rw [List.map_cons, addLine]
    split
    next hpath =>
      have hpath : first = path := hpath
      have hsame : ∀ p ∈ rest, found p = later p := by
        intro p hp
        have hne : p ≠ path := by
          rintro rfl
          exact hfirst (hpath ▸ hp)
        rw [hlater, if_neg hne]
      have htail : (rest.map fun p => (⟨p, found p⟩ : UseRow)) = rest.map fun p => ⟨p, later p⟩ :=
        List.map_congr_left fun p hp => by rw [hsame p hp]
      rw [if_pos (by simp [← hpath]), List.map_cons, htail, hlater, if_pos hpath]
    next hpath =>
      have hmem : path ∈ first :: rest ↔ path ∈ rest := by simp [Ne.symm hpath]
      have hkept : found first = later first := by rw [hlater, if_neg hpath]
      rw [ih hrest fun hp => hnew (mt hmem.mp hp), hkept]
      simp only [hmem]
      split <;> rfl

/-- Before they are sorted the rows stand in the order of their first uses, each with the lines that
are seen under its path. The induction is from the last use back. -/
theorem gathered_eq_map (root : RawText) (uses : List (String × UInt32)) :
    gathered root uses = (firstOfEach id (seenPaths root uses)).map fun path =>
      ⟨path, linesSeenAt root uses path⟩ := by
  induction uses using List.reverseRecOn with
  | nil => rfl
  | append_singleton uses use ih =>
    have hseen : seenPaths root (uses ++ [use]) =
        seenPaths root uses ++ [Path.relative root use.1] := List.map_append
    have hnew : Path.relative root use.1 ∉ firstOfEach id (seenPaths root uses) →
        linesSeenAt root uses (Path.relative root use.1) = [] := by
      intro hpath
      rw [mem_firstOfEach_id] at hpath
      rw [linesSeenAt, List.map_eq_nil_iff, List.filter_eq_nil_iff]
      intro other hother hsame
      exact hpath (List.mem_map.mpr ⟨other, hother, of_decide_eq_true hsame⟩)
    have hlater (p : String) : linesSeenAt root (uses ++ [use]) p =
        if p = Path.relative root use.1 then linesSeenAt root uses p ++ [use.2]
        else linesSeenAt root uses p := by
      by_cases hp : p = Path.relative root use.1
      · simp [linesSeenAt, hp]
      · simp [linesSeenAt, hp, Ne.symm hp]
    rw [gathered_concat, ih, addLine_map (nodup_firstOfEach _) hnew hlater, hseen,
      firstOfEach_concat, List.map_id]
    simp only [mem_firstOfEach_id, id_eq]

/-- The rows part the uses: there is one row for each path that is seen, with the lines of its uses
in their order. The rows are in the order of their paths in upper case, and where these are equal in
the order in which the paths are first seen. -/
theorem useRows_part_uses (root : RawText) (uses : List (String × UInt32)) :
    ((useRows root uses).map (·.path)).Nodup ∧
      (∀ path, path ∈ (useRows root uses).map (·.path) ↔ path ∈ seenPaths root uses) ∧
      (∀ row ∈ useRows root uses, row.lines = linesSeenAt root uses row.path) ∧
      (useRows root uses).Pairwise (fun a b =>
        Text.upper a.path < Text.upper b.path ∨
          Text.upper a.path = Text.upper b.path ∧
            (seenPaths root uses).idxOf a.path < (seenPaths root uses).idxOf b.path) := by
  have hperm := useRows_perm root uses
  have hpaths : (gathered root uses).map (·.path) = firstOfEach id (seenPaths root uses) :=
    paths_gathered root uses
  have hsorted : StablySorted (fun row : UseRow => Text.upper row.path) (gathered root uses)
      (useRows root uses) := stablySorted_sortByKey _ _
  refine ⟨?_, ?_, ?_, ?_⟩
  · rw [(hperm.map _).nodup_iff, hpaths]
    exact nodup_firstOfEach _
  · intro path
    rw [(hperm.map _).mem_iff, hpaths, mem_firstOfEach_id]
  · intro row hrow
    have hgathered := hperm.mem_iff.mp hrow
    rw [gathered_eq_map] at hgathered
    obtain ⟨path, _, rfl⟩ := List.mem_map.mp hgathered
    rfl
  · have hfirst : (gathered root uses).Pairwise fun a b =>
        (seenPaths root uses).idxOf a.path < (seenPaths root uses).idxOf b.path := by
      have hseen := firstOfEach_pairwise_idxOf (seenPaths root uses)
      rw [← hpaths, List.pairwise_map] at hseen
      exact hseen
    have htied := hsorted.pairwise_of_equal_keys hfirst
    refine (hsorted.ordered.and htied).imp fun ⟨hle, hequal⟩ => ?_
    rcases lt_or_eq_of_le hle with hlt | heq
    · exact Or.inl hlt
    · exact Or.inr ⟨heq, hequal heq⟩

example : useRows "/src" [("/src/b.sql", 4), ("/src/A.sql", 9), ("/src/./b.sql", 2), ("/a.sql", 1),
      ("/src/B.sql", 4)] =
    [⟨"/a.sql", [1]⟩, ⟨"A.sql", [9]⟩, ⟨"b.sql", [4, 2]⟩, ⟨"B.sql", [4]⟩] := by
  apply sortByKey_eq_of_stable <;> decide +kernel

end Report

end CrossRef
