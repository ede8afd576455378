import CrossRef.Report.Sorting
import Mathlib.Data.List.Perm.Basic
import Mathlib.Data.String.Basic

namespace CrossRef.Report

/-- A list sorted by a key, in which items of equal keys have kept their order. -/
structure StablySorted {α : Type} (key : α → String) (items sorted : List α) : Prop where
  perm : sorted.Perm items
  ordered : sorted.Pairwise fun a b => key a ≤ key b
  stable : ∀ k, sorted.filter (key · = k) = items.filter (key · = k)

/-- The order by a key: the one does not stand behind the other. -/
def notBehind {α : Type} (key : α → String) (a b : α) : Bool :=
  !decide (key b < key a)

section

variable {α : Type} {key : α → String}

theorem notBehind_iff {a b : α} : notBehind key a b = true ↔ key a ≤ key b := by
  rw [notBehind, Bool.not_eq_true', decide_eq_false_iff_not, not_lt]

theorem notBehind_trans (a b c : α) (hab : notBehind key a b = true)
    (hbc : notBehind key b c = true) : notBehind key a c = true :=
  notBehind_iff.mpr ((notBehind_iff.mp hab).trans (notBehind_iff.mp hbc))

theorem notBehind_total (a b : α) : (notBehind key a b || notBehind key b a) = true := by
  rw [Bool.or_eq_true, notBehind_iff, notBehind_iff]
  exact le_total (key a) (key b)

theorem stablySorted_mergeSort (key : α → String) (items : List α) :
    StablySorted key items (items.mergeSort (notBehind key)) := by
  have hperm := List.mergeSort_perm items (notBehind key)
  refine ⟨hperm, ?_, ?_⟩
  · exact (List.pairwise_mergeSort notBehind_trans notBehind_total items).imp notBehind_iff.mp
  · intro k
    -- The items of one key are in order as they stand, so sorting leaves them a sublist.
    have hequal : (items.filter (key · = k)).Pairwise (notBehind key · ·) := by
      refine List.pairwise_of_forall_mem_list fun a ha b hb => ?_
      rw [List.mem_filter, decide_eq_true_iff] at ha hb
      exact notBehind_iff.mpr (ha.2.trans hb.2.symm).le
    have hsub := List.sublist_mergeSort notBehind_trans notBehind_total hequal
      List.filter_sublist
    have hkept := hsub.filter (key · = k)
    simp only [List.filter_filter, Bool.and_self] at hkept
    exact (hkept.eq_of_length (hperm.filter (key · = k)).length_eq.symm).symm

theorem sortByKey_eq_mergeSort (key : α → String) (items : List α) :
    sortByKey key items = items.mergeSort (notBehind key) := by
  have hpairs : (items.mergeSort (notBehind key)).map (fun item => (key item, item)) =
      (items.map fun item => (key item, item)).mergeSort fun a b => !decide (b.1 < a.1) :=
    List.map_mergeSort fun _ _ _ _ => rfl
  rw [sortByKey, ← hpairs, List.map_map]
  exact List.map_id _

theorem stablySorted_sortByKey (key : α → String) (items : List α) :
    StablySorted key items (sortByKey key items) := by
  rw [sortByKey_eq_mergeSort]
  exact stablySorted_mergeSort key items

namespace StablySorted

variable {items sorted : List α}

theorem filter (h : StablySorted key items sorted) (p : α → Bool) :
    StablySorted key (items.filter p) (sorted.filter p) := by
  refine ⟨h.perm.filter p, h.ordered.filter p, ?_⟩
  intro k
  rw [List.filter_filter, List.filter_filter]
  simp only [Bool.and_comm (decide _)]
  rw [← List.filter_filter, ← List.filter_filter, h.stable k]

theorem map {β : Type} {key : β → String} {f : α → β} (h : StablySorted (key ∘ f) items sorted) :
    StablySorted key (items.map f) (sorted.map f) := by
  refine ⟨h.perm.map f, List.pairwise_map.mpr h.ordered, ?_⟩
  intro k
  rw [List.filter_map, List.filter_map]
  exact congrArg (List.map f) (h.stable k)

theorem congr {other : α → String} (h : StablySorted key items sorted)
    (hkeys : ∀ item ∈ items, other item = key item) : StablySorted other items sorted := by
  have hsorted : ∀ item ∈ sorted, other item = key item := fun item hitem =>
    hkeys item (h.perm.mem_iff.mp hitem)
  refine ⟨h.perm, ?_, ?_⟩
  · refine h.ordered.imp_of_mem fun ha hb hle => ?_
    rw [hsorted _ ha, hsorted _ hb]
    exact hle
  · intro k
    have hagree (xs : List α) (hxs : ∀ item ∈ xs, other item = key item) :
        xs.filter (other · = k) = xs.filter (key · = k) :=
      List.filter_congr fun item hitem => by rw [hxs item hitem]
    rw [hagree sorted hsorted, hagree items hkeys, h.stable k]

/-- There is one way to sort by a key without changing the order of equal keys. -/
theorem unique {other : List α} (h : StablySorted key items sorted)
    (ho : StablySorted key items other) : sorted = other := by
  induction sorted generalizing items other with
  | nil =>
    have hnone := ho.perm.trans h.perm.symm
    exact (List.perm_nil.mp hnone).symm
  | cons first rest ih =>
    cases other with
    | nil =>
      have hnone := h.perm.trans ho.perm.symm
      exact List.perm_nil.mp hnone
    | cons second others =>
      obtain ⟨hfirst, hrest⟩ := List.pairwise_cons.mp h.ordered
      obtain ⟨hsecond, hothers⟩ := List.pairwise_cons.mp ho.ordered
      have hperm : (first :: rest).Perm (second :: others) := h.perm.trans ho.perm.symm
      have hle : key first ≤ key second := by
        rcases List.mem_cons.mp (hperm.mem_iff.mpr List.mem_cons_self) with heq | hmem
        · rw [heq]
        · exact hfirst second hmem
      have hge : key second ≤ key first := by
        rcases List.mem_cons.mp (hperm.mem_iff.mp List.mem_cons_self) with heq | hmem
        · rw [heq]
        · exact hsecond first hmem
      have hkey : key second = key first := le_antisymm hge hle
      -- The first items have the least key, and stand first among the items of this key.
      have hheads := (h.stable (key first)).trans (ho.stable (key first)).symm
      rw [List.filter_cons_of_pos (by simp), List.filter_cons_of_pos (by simp [hkey])] at hheads
      have hsame : first = second := (List.cons.inj hheads).1
      subst hsame
      have hcut : StablySorted key others rest := by
        refine ⟨hperm.cons_inv, hrest, fun k => ?_⟩
        have hk := (h.stable k).trans (ho.stable k).symm
        rw [List.filter_cons, List.filter_cons] at hk
        split at hk
        · exact (List.cons.inj hk).2
        · exact hk
      rw [ih hcut ⟨.refl _, hothers, fun _ => rfl⟩]

end StablySorted

/-- What has the items of a list in the order of their keys, and the items of each key in the order
of the list, is the sorted list. -/
theorem sortByKey_eq_of_stable {items sorted : List α} (perm : sorted.Perm items)
    (ordered : sorted.Pairwise fun a b => key a ≤ key b)
    (stable : ∀ item ∈ items,
      sorted.filter (key · = key item) = items.filter (key · = key item)) :
    sortByKey key items = sorted := by
  refine (stablySorted_sortByKey key items).unique ⟨perm, ordered, fun k => ?_⟩
  by_cases hk : k ∈ items.map key
  · obtain ⟨item, hitem, rfl⟩ := List.mem_map.mp hk
    exact stable item hitem
  · have hitems : items.filter (key · = k) = [] := List.filter_eq_nil_iff.mpr fun item hitem heq =>
      hk (List.mem_map.mpr ⟨item, hitem, of_decide_eq_true heq⟩)
    rw [hitems, List.filter_eq_nil_iff]
    exact fun item hitem heq =>
      hk (List.mem_map.mpr ⟨item, perm.mem_iff.mp hitem, of_decide_eq_true heq⟩)

end

end CrossRef.Report
