import CrossRef.FileTree.Access
import CrossRef.Proofs.RawTexts

namespace CrossRef

namespace FileTree

theorem lookup_setItem_ne {name key : RawText} (h : name ≠ key) (node : FileTree)
    (items : List (RawText × FileTree)) :
    (setItem key node items).lookup name = items.lookup name := by
  induction items with
  | nil => simp [setItem, List.lookup_cons, beq_false_of_ne h]
  | cons item rest ih =>
    obtain ⟨other, old⟩ := item
    by_cases hkey : other = key
    · simp [setItem, hkey, List.lookup_cons, beq_false_of_ne h]
    · simp [setItem, hkey, List.lookup_cons, ih]

theorem get?_append (tree : FileTree) (place rest : Location) :
    tree.get? (place ++ rest) = (tree.get? place).bind (·.get? rest) := by
  induction place generalizing tree with
  | nil => rfl
  | cons name names ih =>
    rw [List.cons_append, get?, get?]
    cases tree.items.lookup name with
    | none => rfl
    | some node => exact ih node

theorem folder_of_get?_cons {tree node : FileTree} {name : RawText} {rest : Location}
    (h : tree.get? (name :: rest) = some node) : ∃ items, tree = .folder items := by
  cases tree with
  | file content => simp [get?, items] at h
  | folder items => exact ⟨items, rfl⟩
  | link target => simp [get?, items] at h

/-- No link stands on the way from the top to a place. -/
def IsClear (tree : FileTree) (place : Location) : Prop :=
  ∀ above target, above <+: place → tree.get? above ≠ some (.link target)

theorem isClear_of_get? {tree node : FileTree} {place : Location} (h : tree.get? place = some node)
    (hnode : ∀ target, node ≠ .link target) : tree.IsClear place := by
  rintro above target ⟨rest, rfl⟩ hlink
  rw [get?_append, hlink, Option.bind_some] at h
  cases rest with
  | nil => exact hnode target (Option.some.inj h).symm
  | cons name names => simp [get?, items] at h

theorem IsClear.above {tree : FileTree} {place above : Location} (h : tree.IsClear place)
    (habove : above <+: place) : tree.IsClear above :=
  fun top target htop => h top target (htop.trans habove)

section

variable {tree : FileTree} {location : Location}
  (hplace : ∀ items, tree.get? location ≠ some (.folder items))

include hplace

/-- A node that is put in the place of nothing, a file or a link leaves the folders there. -/
theorem get?_put_folder (new : FileTree) {place : Location} {items : List (RawText × FileTree)}
    (h : tree.get? place = some (.folder items)) :
    ∃ items, (tree.put location new).get? place = some (.folder items) := by
  induction location generalizing tree place with
  | nil =>
    cases place with
    | nil => exact absurd h (hplace items)
    | cons name rest =>
      obtain ⟨items, rfl⟩ := folder_of_get?_cons h
      exact absurd rfl (hplace items)
  | cons first names ih =>
    cases place with
    | nil => exact ⟨_, rfl⟩
    | cons name rest =>
      obtain ⟨node, hnode, hrest⟩ := Option.bind_eq_some_iff.mp h
      rw [put, get?, FileTree.items]
      by_cases hname : name = first
      · subst hname
        rw [lookup_setItem_self, Option.bind_some, hnode, Option.getD_some]
        refine ih ?_ hrest
        intro inner hinner
        exact hplace inner (by rw [get?, hnode, Option.bind_some, hinner])
      · rw [lookup_setItem_ne hname, hnode]
        exact ⟨items, hrest⟩

theorem get?_put_beside (new : FileTree) {place : Location} {node : FileTree}
    (h : tree.get? place = some node) (hbeside : ¬ place <+: location) :
    (tree.put location new).get? place = some node := by
  induction location generalizing tree place with
  | nil =>
    cases place with
    | nil => exact absurd List.nil_prefix hbeside
    | cons name rest =>
      obtain ⟨items, rfl⟩ := folder_of_get?_cons h
      exact absurd rfl (hplace items)
  | cons first names ih =>
    cases place with
    | nil => exact absurd List.nil_prefix hbeside
    | cons name rest =>
      obtain ⟨inner, hinner, hrest⟩ := Option.bind_eq_some_iff.mp h
      rw [put, get?, FileTree.items]
      by_cases hname : name = first
      · subst hname
        rw [lookup_setItem_self, Option.bind_some, hinner, Option.getD_some]
        refine ih ?_ hrest ?_
        · intro items hitems
          exact hplace items (by rw [get?, hinner, Option.bind_some, hitems])
        · exact fun hprefix => hbeside ((List.prefix_cons_inj name).mpr hprefix)
      · rw [lookup_setItem_ne hname, hinner]
        exact hrest

variable {content : Content}

/-- With a file put where names lead, they lead to the file. -/
theorem walkNames_put_end {here : Location} {names : List RawText} {trace : Trace}
    (h : walkNames tree here names = .inr trace)
    (htrace : trace = .found location ∨ trace = .vacant location false) :
    walkNames (tree.put location (.file content)) here names = .inr (.found location) := by
  have hput := tree.get?_put location (.file content)
  fun_induction walkNames tree here names with
  | case1 here =>
    cases h
    have hhere : here = location := by simpa using htrace
    rw [hhere]
    rfl
  | case2 here name rest hidle ih => simpa [walkNames, hidle] using ih h
  | case3 here rest hidle ih => simpa [walkNames, hidle] using ih h
  | case4 here name rest hidle hup hlong =>
    cases h
    simp at htrace
  | case5 here name rest hidle hup hlong hnone =>
    cases h
    split at htrace
    next =>
      obtain ⟨hlocation, hrest⟩ : here ++ [name] = location ∧ rest = [] := by simpa using htrace
      rw [← hlocation] at hput ⊢
      simp [walkNames, hidle, hup, hlong, hput, hrest]
    next => simp at htrace
  | case6 here name rest hidle hup hlong items hfolder ih =>
    obtain ⟨later, hlater⟩ := get?_put_folder hplace (.file content) hfolder
    simpa [walkNames, hidle, hup, hlong, hlater] using ih h
  | case7 here name rest hidle hup hlong held hfile =>
    cases h
    split at htrace
    next hrest =>
      have hlocation : here ++ [name] = location := by simpa using htrace
      rw [← hlocation] at hput ⊢
      simp [walkNames, hidle, hup, hlong, hput, hrest]
    next => simp at htrace
  | case8 here name rest hidle hup hlong target hlink => simp at h

variable (hclear : tree.IsClear location)

include hclear

/-- Names that lead to a link still do with a file put elsewhere. -/
theorem walkNames_put_link {here : Location} {names : List RawText} {pending : PendingLink}
    (h : walkNames tree here names = .inl pending) :
    walkNames (tree.put location (.file content)) here names = .inl pending := by
  fun_induction walkNames tree here names with
  | case1 here => simp at h
  | case2 here name rest hidle ih => simpa [walkNames, hidle] using ih h
  | case3 here rest hidle ih => simpa [walkNames, hidle] using ih h
  | case4 here name rest hidle hup hlong => simp at h
  | case5 here name rest hidle hup hlong hnone => simp at h
  | case6 here name rest hidle hup hlong items hfolder ih =>
    obtain ⟨later, hlater⟩ := get?_put_folder hplace (.file content) hfolder
    simpa [walkNames, hidle, hup, hlong, hlater] using ih h
  | case7 here name rest hidle hup hlong held hfile => simp at h
  | case8 here name rest hidle hup hlong target hlink =>
    have hlater := get?_put_beside hplace (.file content) hlink fun hon => hclear _ target hon hlink
    simpa [walkNames, hidle, hup, hlong, hlater] using h

theorem followNames_put_of_clear {fuel : Nat} {here : Location} {names : List RawText}
    {trace : Trace} (h : followNames tree fuel here names = trace)
    (htrace : trace = .found location ∨ trace = .vacant location false) :
    followNames (tree.put location (.file content)) fuel here names = .found location := by
  induction fuel generalizing here names with
  | zero =>
    cases h
    simp [followNames] at htrace
  | succ fuel ih =>
    rw [followNames] at h ⊢
    split at h
    next last hlast => rw [walkNames_put_end hplace (h ▸ hlast) htrace]
    next pending hpending =>
      rw [walkNames_put_link hplace hclear hpending]
      exact ih h

end

theorem isClear_of_pending {tree : FileTree} {here : Location} {names : List RawText}
    {pending : PendingLink} (h : walkNames tree here names = .inl pending) :
    tree.IsClear pending.folder := by
  fun_induction walkNames tree here names with
  | case1 here => simp at h
  | case2 here name rest hidle ih => exact ih h
  | case3 here rest hidle ih => exact ih h
  | case4 here name rest hidle hup hlong => simp at h
  | case5 here name rest hidle hup hlong hnone => simp at h
  | case6 here name rest hidle hup hlong items hfolder ih => exact ih h
  | case7 here name rest hidle hup hlong held hfile => simp at h
  | case8 here name rest hidle hup hlong target hlink =>
    cases h
    rw [get?_append] at hlink
    obtain ⟨node, hnode, hname⟩ := Option.bind_eq_some_iff.mp hlink
    obtain ⟨items, rfl⟩ := folder_of_get?_cons hname
    exact isClear_of_get? hnode (by simp)

theorem get?_of_vacant {tree : FileTree} {here location : Location} {names : List RawText}
    {asFolder : Bool} (h : walkNames tree here names = .inr (.vacant location asFolder)) :
    tree.get? location = none ∧ (tree.IsClear here → tree.IsClear location) := by
  fun_induction walkNames tree here names with
  | case1 here => simp at h
  | case2 here name rest hidle ih => exact ih h
  | case3 here rest hidle ih =>
    obtain ⟨hnone, hclear⟩ := ih h
    exact ⟨hnone, fun hhere => hclear (hhere.above (List.dropLast_prefix here))⟩
  | case4 here name rest hidle hup hlong => simp at h
  | case5 here name rest hidle hup hlong hnone =>
    split at h
    next =>
      cases h
      refine ⟨hnone, fun hhere above target habove => ?_⟩
      rcases List.prefix_concat_iff.mp habove with rfl | habove
      · simp [hnone]
      · exact hhere above target habove
    next => simp at h
  | case6 here name rest hidle hup hlong items hfolder ih =>
    obtain ⟨hnone, hclear⟩ := ih h
    exact ⟨hnone, fun _ => hclear (isClear_of_get? hfolder (by simp))⟩
  | case7 here name rest hidle hup hlong held hfile =>
    split at h <;> simp at h
  | case8 here name rest hidle hup hlong target hlink => simp at h

theorem isClear_startOf {tree : FileTree} {here : Location} (h : tree.IsClear here)
    (path : RawText) : tree.IsClear (startOf here path) := by
  unfold startOf
  split
  next => exact h.above List.nil_prefix
  next => exact h

theorem get?_of_followed_vacant {tree : FileTree} {fuel : Nat} {here location : Location}
    {names : List RawText} {asFolder : Bool}
    (h : followNames tree fuel here names = .vacant location asFolder) :
    tree.get? location = none ∧ (tree.IsClear here → tree.IsClear location) := by
  induction fuel generalizing here names with
  | zero => simp [followNames] at h
  | succ fuel ih =>
    rw [followNames] at h
    split at h
    next last hlast => exact get?_of_vacant (h ▸ hlast)
    next pending hpending =>
      obtain ⟨hnone, hclear⟩ := ih h
      exact ⟨hnone, fun _ => hclear (isClear_startOf (isClear_of_pending hpending) _)⟩

/-- A file put where names lead is what they lead to. -/
theorem followNames_put {tree : FileTree} {fuel : Nat} {here location : Location}
    {names : List RawText} {content : Content}
    (h : (followNames tree fuel here names = .found location ∧
        ∃ old, tree.get? location = some (.file old)) ∨
      followNames tree fuel here names = .vacant location false) :
    followNames (tree.put location (.file content)) fuel here names = .found location := by
  rcases h with ⟨hfound, old, hold⟩ | hvacant
  · have hclear := isClear_of_get? hold (by simp)
    exact followNames_put_of_clear (by simp [hold]) hclear hfound (Or.inl rfl)
  · have hnone := (get?_of_followed_vacant hvacant).1
    -- The start need not be clear. That matters only once a link is met, and a link stands in a
    -- folder, from which every place is clear.
    cases fuel with
    | zero => simp [followNames] at hvacant
    | succ fuel =>
      rw [followNames] at hvacant ⊢
      split at hvacant
      next last hlast =>
        rw [walkNames_put_end (by simp [hnone]) (hvacant ▸ hlast) (Or.inr rfl)]
      next pending hpending =>
        have hstart := isClear_startOf (isClear_of_pending hpending) pending.target
        have hclear := (get?_of_followed_vacant hvacant).2 hstart
        rw [walkNames_put_link (by simp [hnone]) hclear hpending]
        exact followNames_put_of_clear (by simp [hnone]) hclear hvacant (Or.inr rfl)

theorem trace_put {tree : FileTree} {path : RawText} {location : Location} {content : Content}
    (h : (tree.trace path = .found location ∧ ∃ old, tree.get? location = some (.file old)) ∨
      tree.trace path = .vacant location false) :
    (tree.put location (.file content)).trace path = .found location := by
  unfold trace at h ⊢
  split_ifs at h ⊢
  · simp at h
  · simp at h
  · simp at h
  · exact followNames_put h

/-- The bytes written to a file are found there. -/
theorem trace_writeFile {tree later : FileTree} {path : RawText} {bytes : List UInt8}
    (h : tree.writeFile path bytes = .ok later) :
    ∃ location, later.trace path = .found location ∧
      later.get? location = some (.file (.bytes bytes)) := by
  unfold writeFile at h
  split at h
  next => simp at h
  next => simp at h
  next location htrace =>
    cases h
    exact ⟨location, trace_put (Or.inr htrace), get?_put _ _ _⟩
  next location htrace =>
    split at h
    next => simp at h
    next old _ hold =>
      cases h
      exact ⟨location, trace_put (Or.inl ⟨htrace, old, hold⟩), get?_put _ _ _⟩
    next => simp at h

section

variable {tree later : FileTree} {path : RawText}

theorem isPresent_writeFile {bytes : List UInt8} (h : tree.writeFile path bytes = .ok later) :
    later.isPresent path = true := by
  obtain ⟨location, htrace, hget⟩ := trace_writeFile h
  simp [isPresent, nodeAt?, htrace, hget]

/-- A text written to a file is the text read from it. -/
theorem readText_writeFile {text : String}
    (h : tree.writeFile path (Text.encode text) = .ok later) :
    later.readText path = .ok text := by
  obtain ⟨location, htrace, hget⟩ := trace_writeFile h
  have hbytes : later.readBytes path = .ok (Text.encode text) := by
    simp [readBytes, htrace, hget, Content.read]
  rw [readText, hbytes]
  simp [bind, Except.bind, Text.decode?_encode]

end

end FileTree

end CrossRef
