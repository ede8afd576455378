import CrossRef.FileTree.Trace
import CrossRef.Proofs.PathComponents

namespace CrossRef

namespace Path

/-- A name that a folder can hold. -/
def isItemName (name : RawText) : Bool :=
  !name.isEmpty && name.bytes ≠ [dot] && name.bytes ≠ [dot, dot] && !name.bytes.contains slash

section

variable {name : RawText} (hname : isItemName name = true)

include hname

theorem ne_nil_of_isItemName : name.bytes ≠ [] := by
  intro hempty
  simp [isItemName, RawText.isEmpty, hempty] at hname

theorem slash_not_mem_of_isItemName : slash ∉ name.bytes := by
  intro hmem
  simp [isItemName, hmem] at hname

theorem isVoid_of_isItemName : isVoid name.bytes = false := by
  have hne := ne_nil_of_isItemName hname
  have hdot : name.bytes ≠ [dot] := by
    intro hbytes
    simp [isItemName, hbytes] at hname
  simp [isVoid, hne, hdot]

/-- A name stands behind the segments of the folder's path, less the empty one behind a slash at its
end. -/
theorem segments_join (base : RawText) :
    ∃ front, segments (join base name) = front ++ [name.bytes] ∧
      (segments base = front ∨ segments base = front ++ [[]]) := by
  have hslash := slash_not_mem_of_isItemName hname
  have hhead : name.bytes.head? ≠ some slash := fun h => hslash (List.mem_of_head? h)
  have hsingle : name.bytes.splitOn slash = [name.bytes] := List.splitOn_eq_singleton hslash
  unfold join segments
  rw [if_neg hhead]
  split
  next hend =>
    rcases (Bool.or_eq_true _ _).mp hend with hempty | hlast
    · have hbase : base.bytes = [] := List.isEmpty_iff.mp hempty
      refine ⟨[], ?_, Or.inr (by rw [hbase, List.splitOn_nil, List.nil_append])⟩
      rw [RawText.bytes_append, hbase, List.nil_append, hsingle, List.nil_append]
    · obtain ⟨front, hfront⟩ := List.getLast?_eq_some_iff.mp (of_decide_eq_true hlast)
      refine ⟨front.splitOn slash, ?_, Or.inr ?_⟩
      · rw [RawText.bytes_append, hfront, List.append_assoc, List.singleton_append,
          List.splitOn_append_cons_self, hsingle]
      · rw [hfront, List.splitOn_append_cons_self, List.splitOn_nil]
  next =>
    have hjoined : (base ++ ⟨[slash]⟩ ++ name).bytes = base.bytes ++ slash :: name.bytes := by
      simp
    exact ⟨base.bytes.splitOn slash, by
      rw [hjoined, List.splitOn_append_cons_self, hsingle], Or.inl rfl⟩

theorem head?_join {base : RawText} (hbase : base.bytes ≠ []) :
    (join base name).bytes.head? = base.bytes.head? := by
  have hhead : name.bytes.head? ≠ some slash := fun h =>
    slash_not_mem_of_isItemName hname (List.mem_of_head? h)
  obtain ⟨b, rest, hlist⟩ := List.exists_cons_of_ne_nil hbase
  unfold join
  rw [if_neg hhead]
  split <;> simp [hlist]

/-- The file name of a path below a folder is the name in the folder. -/
theorem fileName?_join (base : RawText) : fileName? (join base name) = some name := by
  obtain ⟨front, hsegments, -⟩ := segments_join hname base
  have hproper : name.bytes ≠ [slash] ∧ name.bytes ≠ [dot] ∧ name.bytes ≠ [dot, dot] := by
    refine ⟨?_, ?_, ?_⟩
    · intro hbytes
      simp [isItemName, hbytes] at hname
    · intro hbytes
      simp [isItemName, hbytes] at hname
    · intro hbytes
      simp [isItemName, hbytes] at hname
  have hlast : (components (join base name)).getLast? = some name := by
    cases front with
    | nil =>
      rw [components_of_segments hsegments, componentsOf, if_neg (ne_nil_of_isItemName hname)]
      simp [named]
    | cons head rest =>
      have hnamed : named (rest ++ [name.bytes]) = named rest ++ [name] := by
        simp [named, isVoid_of_isItemName hname]
      rw [List.cons_append] at hsegments
      rw [components_of_segments hsegments, componentsOf, hnamed]
      split
      · simp [List.getLast?_cons, List.getLast?_append]
      · simp [List.getLast?_cons, List.getLast?_append]
  rw [fileName?, hlast]
  simp [hproper]

end

end Path

namespace FileTree

/-- What one name does: it leads on, it is a link, or the names end there, and not at a folder. -/
theorem walkNames_cons (tree : FileTree) (start : Location) (name : RawText) :
    (∃ next, ∀ rest, walkNames tree start (name :: rest) = walkNames tree next rest) ∨
    (∃ target, ∀ rest, walkNames tree start (name :: rest) = .inl ⟨start, target, rest⟩) ∨
    ∀ rest, ∃ trace, walkNames tree start (name :: rest) = .inr trace ∧
      ∀ here items, trace = .found here → tree.get? here ≠ some (.folder items) := by
  by_cases hidle : isIdle name = true
  · exact Or.inl ⟨start, fun rest => by rw [walkNames, if_pos hidle]⟩
  by_cases hup : name = ".."
  · exact Or.inl ⟨start.dropLast, fun rest => by rw [walkNames, if_neg hidle, if_pos hup]⟩
  by_cases hlong : isOverlong name = true
  · refine Or.inr (Or.inr fun rest => ⟨.failed .nameTooLong, ?_, by simp⟩)
    rw [walkNames, if_neg hidle, if_neg hup, if_pos hlong]
  have hstep (rest : List RawText) := by
    have hunfold := walkNames.eq_2 tree start name rest
    rwa [if_neg hidle, if_neg hup, if_neg hlong] at hunfold
  cases hget : tree.get? (start ++ [name]) with
  | none =>
    rw [hget] at hstep
    refine Or.inr (Or.inr fun rest => ⟨_, hstep rest, fun here items hfound => ?_⟩)
    split at hfound <;> cases hfound
  | some node =>
    rw [hget] at hstep
    cases node with
    | folder items => exact Or.inl ⟨start ++ [name], hstep⟩
    | link target => exact Or.inr (Or.inl ⟨target, hstep⟩)
    | file content =>
      refine Or.inr (Or.inr fun rest => ⟨_, hstep rest, fun here items hfound => ?_⟩)
      split at hfound
      · cases hfound
        simp [hget]
      · cases hfound

section

variable {tree : FileTree} {idle : List RawText} (hidle : ∀ name ∈ idle, isIdle name = true)

include hidle

theorem walkNames_idle (tree : FileTree) (here : Location) :
    walkNames tree here idle = .inr (.found here) := by
  induction idle with
  | nil => rfl
  | cons name rest ih =>
    obtain ⟨hname, hrest⟩ := List.forall_mem_cons.mp hidle
    rw [walkNames, if_pos hname]
    exact ih hrest

/-- Where names lead to a folder, the names put behind them lead on from this folder. -/
theorem walkNames_behind_folder {start here : Location} {names : List RawText}
    {items : List (RawText × FileTree)}
    (h : walkNames tree start (names ++ idle) = .inr (.found here))
    (hfolder : tree.get? here = some (.folder items)) (more : List RawText) :
    walkNames tree start (names ++ more) = walkNames tree here more := by
  induction names generalizing start with
  | nil =>
    rw [List.nil_append, walkNames_idle hidle] at h
    cases h
    rfl
  | cons name rest ih =>
    rw [List.cons_append] at h ⊢
    rcases walkNames_cons tree start name with ⟨next, hnext⟩ | ⟨target, hlink⟩ | hends
    · rw [hnext] at h ⊢
      exact ih h
    · rw [hlink] at h
      cases h
    · obtain ⟨trace, htrace, hother⟩ := hends (rest ++ idle)
      rw [htrace] at h
      exact absurd hfolder (hother here items (Sum.inr.inj h))

theorem walkNames_behind_link {start : Location} {names : List RawText} {pending : PendingLink}
    (h : walkNames tree start (names ++ idle) = .inl pending) (more : List RawText) :
    ∃ rest, pending.rest = rest ++ idle ∧
      walkNames tree start (names ++ more) =
        .inl ⟨pending.folder, pending.target, rest ++ more⟩ := by
  induction names generalizing start with
  | nil =>
    rw [List.nil_append, walkNames_idle hidle] at h
    cases h
  | cons name rest ih =>
    rw [List.cons_append] at h ⊢
    rcases walkNames_cons tree start name with ⟨next, hnext⟩ | ⟨target, hlink⟩ | hends
    · rw [hnext] at h ⊢
      exact ih h
    · rw [hlink] at h ⊢
      cases h
      exact ⟨rest, rfl, rfl⟩
    · obtain ⟨trace, htrace, _⟩ := hends (rest ++ idle)
      rw [htrace] at h
      cases h

theorem followNames_behind {fuel : Nat} {start here : Location} {names : List RawText}
    {items : List (RawText × FileTree)}
    (h : followNames tree fuel start (names ++ idle) = .found here)
    (hfolder : tree.get? here = some (.folder items)) {more : List RawText} {trace : Trace}
    (hmore : walkNames tree here more = .inr trace) :
    followNames tree fuel start (names ++ more) = trace := by
  induction fuel generalizing start names with
  | zero => simp [followNames] at h
  | succ fuel ih =>
    rw [followNames] at h ⊢
    split at h
    next last hlast =>
      subst h
      rw [walkNames_behind_folder hidle hlast hfolder more, hmore]
    next pending hpending =>
      obtain ⟨rest, hrest, hlink⟩ := walkNames_behind_link hidle hpending more
      rw [hrest, ← List.append_assoc] at h
      have hlater := ih h
      rw [List.append_assoc] at hlater
      rw [hlink]
      exact hlater

end

theorem followNames_of_trace {tree : FileTree} {path : RawText} {here : Location}
    (h : tree.trace path = .found here) :
    path.bytes ≠ [] ∧
      followNames tree linkLimit (startOf home path) (pathNames path) = .found here := by
  unfold trace at h
  split_ifs at h with hnul hlong hempty
  exact ⟨fun hnone => hempty (List.isEmpty_iff.mpr hnone), h⟩

/-- A path below a folder leads to the folder's own item, if it leads anywhere. -/
theorem trace_join {tree : FileTree} {path name : RawText} {here there : Location}
    {items inner : List (RawText × FileTree)} (h : tree.trace path = .found here)
    (hfolder : tree.get? here = some (.folder items)) (hname : Path.isItemName name = true)
    (hitem : tree.get? (here ++ [name]) = some (.folder inner))
    (hjoin : tree.trace (Path.join path name) = .found there) : there = here ++ [name] := by
  obtain ⟨hsome, hhere⟩ := followNames_of_trace h
  obtain ⟨_, hthere⟩ := followNames_of_trace hjoin
  obtain ⟨front, hsegments, hbase⟩ := Path.segments_join hname path
  have hstart : startOf home (Path.join path name) = startOf home path := by
    rw [startOf, startOf, Path.head?_join hname hsome]
  have hnames : pathNames (Path.join path name) = front.map RawText.mk ++ [name] := by
    rw [pathNames, hsegments, List.map_append, List.map_singleton]
  obtain ⟨idle, hidle, hpath⟩ : ∃ idle, (∀ name ∈ idle, isIdle name = true) ∧
      pathNames path = front.map RawText.mk ++ idle := by
    rcases hbase with hbase | hbase
    · exact ⟨[], by simp, by simp [pathNames, hbase]⟩
    · exact ⟨[⟨[]⟩], by simp [isIdle, RawText.isEmpty], by simp [pathNames, hbase]⟩
  rw [hpath] at hhere
  rw [hstart, hnames] at hthere
  have hlead : isIdle name = false ∧ name ≠ ".." := by
    simp only [Path.isItemName, Bool.and_eq_true, decide_eq_true_iff] at hname
    obtain ⟨⟨⟨hempty, hdot⟩, hup⟩, _⟩ := hname
    have hself : name ≠ "." := fun h => hdot (congrArg RawText.bytes h)
    exact ⟨by simpa [isIdle, hself] using hempty, fun h => hup (congrArg RawText.bytes h)⟩
  have hwalk : walkNames tree here [name] =
      .inr (if isOverlong name then .failed .nameTooLong else .found (here ++ [name])) := by
    rw [walkNames, if_neg (by simp [hlead.1]), if_neg hlead.2, hitem]
    split <;> rfl
  rw [followNames_behind hidle hhere hfolder hwalk] at hthere
  split at hthere
  · cases hthere
  · cases hthere
    rfl

end FileTree

end CrossRef
