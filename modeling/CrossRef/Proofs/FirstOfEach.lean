import Mathlib.Data.List.Basic

namespace CrossRef

/-- The entries whose key no earlier entry has. -/
def firstOfEach {α β : Type} [DecidableEq β] (key : α → β) : List α → List α
  | [] => []
  | x :: rest => x :: (firstOfEach key rest).filter (key · ≠ key x)

section

variable {α β : Type} [DecidableEq β] {key : α → β}

theorem firstOfEach_sublist (xs : List α) : (firstOfEach key xs).Sublist xs := by
  induction xs with
  | nil => exact .slnil
  | cons x rest ih => exact (List.filter_sublist.trans ih).cons_cons x

theorem mem_map_firstOfEach {xs : List α} {k : β} :
    k ∈ (firstOfEach key xs).map key ↔ k ∈ xs.map key := by
  constructor
  · exact fun h => ((firstOfEach_sublist xs).map key).subset h
  · intro h
    induction xs with
    | nil => exact h
    | cons x rest ih =>
      by_cases hk : k = key x
      · simp [firstOfEach, hk]
      · have hrest : k ∈ rest.map key := by simpa [hk] using h
        obtain ⟨y, hy, rfl⟩ := List.mem_map.mp (ih hrest)
        exact List.mem_map.mpr ⟨y, by simp [firstOfEach, hy, hk], rfl⟩

/-- In a sorted list the first entries are those before all others of their key. -/
theorem mem_firstOfEach_iff {r : α → α → Prop} (asymm : ∀ x y, r x y → ¬ r y x) {xs : List α}
    (h : xs.Pairwise r) {x : α} :
    x ∈ firstOfEach key xs ↔ x ∈ xs ∧ ∀ y ∈ xs, key y = key x → y = x ∨ r x y := by
  induction xs with
  | nil => simp [firstOfEach]
  | cons a rest ih =>
    obtain ⟨ha, hrest⟩ := List.pairwise_cons.mp h
    rw [firstOfEach, List.mem_cons, List.mem_filter, ih hrest, decide_eq_true_iff]
    constructor
    · rintro (rfl | ⟨⟨hx, hfirst⟩, hne⟩)
      · refine ⟨by simp, ?_⟩
        intro y hy _
        rcases List.mem_cons.mp hy with rfl | hy
        · exact Or.inl rfl
        · exact Or.inr (ha y hy)
      · refine ⟨by simp [hx], ?_⟩
        intro y hy heq
        rcases List.mem_cons.mp hy with rfl | hy
        · exact absurd heq.symm hne
        · exact hfirst y hy heq
    · rintro ⟨hx, hfirst⟩
      by_cases hxa : x = a
      · exact Or.inl hxa
      · have hx : x ∈ rest := (List.mem_cons.mp hx).resolve_left hxa
        refine Or.inr ⟨⟨hx, fun y hy heq => hfirst y (by simp [hy]) heq⟩, ?_⟩
        intro heq
        rcases hfirst a (by simp) heq.symm with rfl | hlt
        · exact hxa rfl
        · exact asymm a x (ha x hx) hlt

theorem firstOfEach_concat (xs : List α) (x : α) :
    firstOfEach key (xs ++ [x]) =
      if key x ∈ xs.map key then firstOfEach key xs else firstOfEach key xs ++ [x] := by
  induction xs with
  | nil => rfl
  | cons a rest ih =>
    rw [List.cons_append, firstOfEach, ih, firstOfEach]
    by_cases hrest : key x ∈ rest.map key
    · rw [if_pos hrest, if_pos (by simp [hrest])]
    · rw [if_neg hrest, List.filter_append]
      by_cases ha : key x = key a
      · simp [ha]
      · have hx : key x ∉ (a :: rest).map key := by simpa [ha] using hrest
        rw [if_neg hx]
        simp [ha]

theorem mem_firstOfEach_id {xs : List β} {x : β} : x ∈ firstOfEach id xs ↔ x ∈ xs := by
  have h : x ∈ (firstOfEach id xs).map id ↔ x ∈ xs.map id := mem_map_firstOfEach
  rwa [List.map_id, List.map_id] at h

theorem map_firstOfEach (xs : List α) :
    (firstOfEach key xs).map key = firstOfEach id (xs.map key) := by
  induction xs with
  | nil => rfl
  | cons x rest ih =>
    rw [firstOfEach, List.map_cons, List.map_cons, firstOfEach, ← ih, List.filter_map]
    rfl

end

theorem firstOfEach_flatMap_replicate {α β : Type} [DecidableEq β] (xs : List α) (key : α → β)
    (count : β → Nat) :
    firstOfEach id (xs.flatMap fun x => List.replicate (count (key x)) (key x)) =
      (firstOfEach id (xs.map key)).filter (count · ≠ 0) := by
  have repeated (n : Nat) (k : β) (rest : List β) :
      firstOfEach id (List.replicate (n + 1) k ++ rest) =
        k :: (firstOfEach id rest).filter (· ≠ k) := by
    induction n with
    | zero => rfl
    | succ n ih =>
      rw [List.replicate_succ, List.cons_append, firstOfEach, ih]
      simp [List.filter_filter]
  induction xs with
  | nil => rfl
  | cons x rest ih =>
    rw [List.flatMap_cons, List.map_cons, firstOfEach]
    cases hn : count (key x) with
    | zero =>
      have hgone : ∀ k ∈ firstOfEach id (rest.map key),
          (decide (count k ≠ 0) && decide (k ≠ key x)) = decide (count k ≠ 0) := by
        intro k _
        by_cases hk : k = key x
        · simp [hk, hn]
        · simp [hk]
      rw [List.replicate_zero, List.nil_append, ih, List.filter_cons_of_neg (by simp [hn]),
        List.filter_filter]
      exact (List.filter_congr hgone).symm
    | succ n =>
      rw [repeated, ih, List.filter_cons_of_pos (by simp [hn]), List.filter_filter,
        List.filter_filter]
      simp only [Bool.and_comm, id_eq]

end CrossRef
