import CrossRef.FileTree.Walk
import CrossRef.Proofs.PathsBelow
import CrossRef.Proofs.WrittenTexts
import Mathlib.Data.List.Perm.Subperm

namespace CrossRef.FileTree

mutual

/-- Whether every folder of a tree holds its items under different names, each of them one that a
folder can hold. -/
def isProper : FileTree → Bool
  | .file _ => true
  | .folder items => areProper items
  | .link _ => true

def areProper : List (RawText × FileTree) → Bool
  | [] => true
  | (name, node) :: rest =>
    Path.isItemName name && !(rest.map Prod.fst).contains name && node.isProper && areProper rest

end

mutual

/-- The locations of the folders of a tree. -/
def folders : FileTree → List Location
  | .file _ => []
  | .folder items => [] :: foldersBelow items
  | .link _ => []

def foldersBelow : List (RawText × FileTree) → List Location
  | [] => []
  | (name, node) :: rest => node.folders.map (name :: ·) ++ foldersBelow rest

end

theorem areProper_cons {name : RawText} {node : FileTree} {rest : List (RawText × FileTree)} :
    areProper ((name, node) :: rest) = true ↔
      Path.isItemName name = true ∧ name ∉ rest.map Prod.fst ∧ node.isProper = true ∧
        areProper rest = true := by
  simp [areProper, and_assoc]

theorem nodup_of_areProper {items : List (RawText × FileTree)} (h : areProper items = true) :
    (items.map Prod.fst).Nodup := by
  induction items with
  | nil => exact List.nodup_nil
  | cons item rest ih =>
    obtain ⟨_, hnew, _, hrest⟩ := areProper_cons.mp h
    exact List.nodup_cons.mpr ⟨hnew, ih hrest⟩

theorem isItemName_of_areProper {items : List (RawText × FileTree)} (h : areProper items = true)
    {item : RawText × FileTree} (hitem : item ∈ items) :
    Path.isItemName item.1 = true ∧ item.2.isProper = true := by
  induction items with
  | nil => cases hitem
  | cons first rest ih =>
    obtain ⟨hname, _, hnode, hrest⟩ := areProper_cons.mp h
    rcases List.mem_cons.mp hitem with rfl | hitem
    · exact ⟨hname, hnode⟩
    · exact ih hrest hitem

theorem mem_of_lookup {items : List (RawText × FileTree)} {name : RawText} {node : FileTree}
    (h : items.lookup name = some node) : (name, node) ∈ items := by
  obtain ⟨before, after, rfl, _⟩ := List.lookup_eq_some_iff.mp h
  exact List.mem_append_right before List.mem_cons_self

/-- What is found below the top is found in an item of the top folder. -/
theorem get?_cons {tree node : FileTree} {name : RawText} {rest : Location}
    (h : tree.get? (name :: rest) = some node) :
    ∃ items inner, tree = .folder items ∧ (name, inner) ∈ items ∧ inner.get? rest = some node := by
  obtain ⟨items, rfl⟩ := folder_of_get?_cons h
  obtain ⟨inner, hlookup, hrest⟩ := Option.bind_eq_some_iff.mp h
  exact ⟨items, inner, rfl, mem_of_lookup hlookup, hrest⟩

theorem isProper_get? {tree node : FileTree} {location : Location} (h : tree.isProper = true)
    (hnode : tree.get? location = some node) : node.isProper = true := by
  induction location generalizing tree with
  | nil =>
    cases hnode
    exact h
  | cons name rest ih =>
    obtain ⟨items, inner, rfl, hitem, hrest⟩ := get?_cons hnode
    exact ih (isItemName_of_areProper h hitem).2 hrest

/-- An item of a folder stands under a name that a folder can hold. -/
theorem item_of_get? {tree node : FileTree} {here : Location} {name : RawText}
    (h : tree.get? (here ++ [name]) = some node) :
    ∃ items, tree.get? here = some (.folder items) ∧ (name, node) ∈ items := by
  rw [get?_append] at h
  obtain ⟨folder, hfolder, hname⟩ := Option.bind_eq_some_iff.mp h
  obtain ⟨items, inner, rfl, hitem, hinner⟩ := get?_cons hname
  cases hinner
  exact ⟨items, hfolder, hitem⟩

theorem isItemName_of_get? {tree node : FileTree} {here : Location} {name : RawText}
    (hproper : tree.isProper = true) (h : tree.get? (here ++ [name]) = some node) :
    Path.isItemName name = true := by
  obtain ⟨items, hfolder, hitem⟩ := item_of_get? h
  exact (isItemName_of_areProper (isProper_get? hproper hfolder) hitem).1

mutual

theorem length_folders : ∀ tree : FileTree, tree.folders.length ≤ tree.size
  | .file _ => by simp [folders]
  | .folder items => by
    have hitems := length_foldersBelow items
    simp only [folders, size, List.length_cons]
    omega
  | .link _ => by simp [folders]

theorem length_foldersBelow :
    ∀ items : List (RawText × FileTree), (foldersBelow items).length ≤ itemsSize items
  | [] => by simp [foldersBelow]
  | (name, node) :: rest => by
    have hnode := length_folders node
    have hrest := length_foldersBelow rest
    simp only [foldersBelow, itemsSize, List.length_append, List.length_map]
    omega

end

theorem mem_foldersBelow {items : List (RawText × FileTree)} {name : RawText} {node : FileTree}
    {rest : Location} (hitem : (name, node) ∈ items) (hrest : rest ∈ node.folders) :
    name :: rest ∈ foldersBelow items := by
  induction items with
  | nil => cases hitem
  | cons item others ih =>
    rw [foldersBelow, List.mem_append]
    rcases List.mem_cons.mp hitem with rfl | hitem
    · exact Or.inl (List.mem_map_of_mem hrest)
    · exact Or.inr (ih hitem)

theorem mem_folders {tree : FileTree} {location : Location} {items : List (RawText × FileTree)}
    (h : tree.get? location = some (.folder items)) : location ∈ tree.folders := by
  induction location generalizing tree with
  | nil =>
    cases h
    exact List.mem_cons_self
  | cons name rest ih =>
    obtain ⟨held, inner, rfl, hitem, hrest⟩ := get?_cons h
    exact List.mem_cons_of_mem _ (mem_foldersBelow hitem (ih hrest))

theorem size_le_itemsSize {items : List (RawText × FileTree)} {item : RawText × FileTree}
    (h : item ∈ items) : item.2.size ≤ itemsSize items := by
  induction items with
  | nil => cases h
  | cons first rest ih =>
    rw [itemsSize]
    rcases List.mem_cons.mp h with rfl | h
    · exact Nat.le_add_right _ _
    · exact (ih h).trans (Nat.le_add_left _ _)

/-- No folder lies deeper than the tree has nodes. -/
theorem length_lt_size {tree node : FileTree} {location : Location}
    (h : tree.get? location = some node) : location.length < tree.size := by
  induction location generalizing tree with
  | nil => cases tree <;> simp [size]
  | cons name rest ih =>
    obtain ⟨items, inner, rfl, hitem, hrest⟩ := get?_cons h
    have hinner := ih hrest
    have hsize : inner.size ≤ itemsSize items := size_le_itemsSize hitem
    rw [List.length_cons, size]
    omega

/-- The folders a walk is in, the innermost first: one is an item of the folder around it, or a link
there leads to it, and then it is none of those around it. -/
inductive Trail (tree : FileTree) : List Location → Prop
  | root {here items} : tree.get? here = some (.folder items) → Trail tree [here]
  | item {here walked name items} : Trail tree (here :: walked) →
      tree.get? (here ++ [name]) = some (.folder items) →
      Trail tree ((here ++ [name]) :: here :: walked)
  | link {here walked there items} : Trail tree (here :: walked) → there ∉ here :: walked →
      tree.get? there = some (.folder items) → Trail tree (there :: here :: walked)

theorem Trail.folder {tree : FileTree} {trail : List Location} (h : Trail tree trail)
    {location : Location} (hmem : location ∈ trail) :
    ∃ items, tree.get? location = some (.folder items) := by
  induction h with
  | root hroot =>
    cases List.mem_singleton.mp hmem
    exact ⟨_, hroot⟩
  | item _ hitem ih =>
    rcases List.mem_cons.mp hmem with rfl | hmem
    · exact ⟨_, hitem⟩
    · exact ih hmem
  | link _ _ hlink ih =>
    rcases List.mem_cons.mp hmem with rfl | hmem
    · exact ⟨_, hlink⟩
    · exact ih hmem

/-- A trail is made of descents, each from a start of its own, so it is as long as the starts allow:
no descent is longer than the tree is deep. -/
theorem Trail.exists_starts {tree : FileTree} {here : Location} {walked : List Location}
    (h : Trail tree (here :: walked)) :
    ∃ starts : List Location, starts.Nodup ∧ starts ⊆ here :: walked ∧
      walked.length + tree.size ≤ starts.length * tree.size + here.length := by
  generalize htrail : here :: walked = trail at h
  induction h generalizing here walked with
  | @root start items hroot =>
    cases htrail
    exact ⟨[start], by simp, List.Subset.refl _, by simp⟩
  | @item outer around name items _ hitem ih =>
    cases htrail
    obtain ⟨starts, hnodup, hsub, hlength⟩ := ih rfl
    refine ⟨starts, hnodup, List.subset_cons_of_subset _ hsub, ?_⟩
    rw [List.length_cons, List.length_append, List.length_singleton]
    omega
  | @link outer around there items htrail' hnew hlink ih =>
    cases htrail
    obtain ⟨starts, hnodup, hsub, hlength⟩ := ih rfl
    refine ⟨there :: starts, List.nodup_cons.mpr ⟨fun hmem => hnew (hsub hmem), hnodup⟩, ?_, ?_⟩
    · exact List.cons_subset_cons there hsub
    · obtain ⟨_, houter⟩ := htrail'.folder List.mem_cons_self
      have hdeep := length_lt_size houter
      rw [List.length_cons, List.length_cons, Nat.succ_mul]
      omega

/-- A walk is never in more folders than the square of the number of nodes. -/
theorem Trail.length_le {tree : FileTree} {trail : List Location} (h : Trail tree trail) :
    trail.length ≤ tree.size * tree.size := by
  cases trail with
  | nil => exact Nat.zero_le _
  | cons here walked =>
    obtain ⟨starts, hnodup, hsub, hlength⟩ := h.exists_starts
    obtain ⟨_, hhere⟩ := h.folder List.mem_cons_self
    have hdeep := length_lt_size hhere
    have hfolders : starts ⊆ tree.folders := by
      intro start hstart
      obtain ⟨_, hfolder⟩ := h.folder (hsub hstart)
      exact mem_folders hfolder
    have hcount : starts.length ≤ tree.size :=
      (hnodup.subperm hfolders).length_le.trans (length_folders tree)
    have hbound := Nat.mul_le_mul_right tree.size hcount
    rw [List.length_cons]
    omega

end CrossRef.FileTree
