import CrossRef.Proofs.FirstOfEach
import CrossRef.Proofs.Numbering
import Mathlib.Data.List.Induction

namespace CrossRef.Catalog

/-- The symbols at these places have the numbers behind `base`, in this order, and no other symbol
has a number. -/
structure NumberedInOrder (catalog : Catalog) (base : Nat) (places : List Place) : Prop where
  last : catalog.last.toNat = base + places.length
  numbered : ∀ i place, places[i]? = some place →
    ∃ decl, catalog.get? place = some decl ∧ decl.id.toNat = base + (i + 1)
  others : ∀ place decl, place ∉ places → catalog.get? place = some decl → decl.id = 0

theorem NumberedInOrder.id_ne_zero {catalog : Catalog} {base : Nat} {places : List Place}
    (h : catalog.NumberedInOrder base places) {place : Place} {decl : Declaration}
    (hm : place ∈ places) (hd : catalog.get? place = some decl) : decl.id ≠ 0 := by
  obtain ⟨i, hi⟩ := List.mem_iff_getElem?.mp hm
  obtain ⟨same, hs, hid⟩ := h.numbered i place hi
  cases Option.some.inj (hs.symm.trans hd)
  intro hzero
  simp [hzero] at hid

theorem last_addUse {catalog : Catalog} {target : Place} {used : Declaration}
    (hused : catalog.get? target = some used) (path : String) (site : UseSite) :
    (catalog.addUse target path site).1.last =
      if used.id = 0 then Identifier.next catalog.last else catalog.last := by
  rcases catalog.addUse_cases target path site with ⟨hnone, _⟩ | ⟨same, hs, hcase⟩
  · simp [hused] at hnone
  · cases Option.some.inj (hused.symm.trans hs)
    rcases hcase with ⟨hne, _, hlast⟩ | ⟨hzero, _, hlast⟩
    · rw [if_neg hne, hlast]
    · rw [if_pos hzero, hlast]

/-- A use of a symbol that has a number changes no number. -/
theorem NumberedInOrder.addUse_again {catalog : Catalog} {base : Nat} {places : List Place}
    (h : catalog.NumberedInOrder base places) {target : Place} {used : Declaration}
    (hused : catalog.get? target = some used) (hm : target ∈ places) (path : String)
    (site : UseSite) : (catalog.addUse target path site).1.NumberedInOrder base places := by
  have hne := h.id_ne_zero hm hused
  refine ⟨?_, ?_, ?_⟩
  · rw [last_addUse hused, if_neg hne]
    exact h.last
  · intro i place hi
    obtain ⟨decl, hd, hid⟩ := h.numbered i place hi
    rw [get?_addUse]
    by_cases hp : place = target
    · subst hp
      cases Option.some.inj (hused.symm.trans hd)
      rw [if_pos rfl, hused, Option.map_some, catalog.numberOnUse_of_issued hne]
      exact ⟨_, rfl, hid⟩
    · rw [if_neg hp]
      exact ⟨decl, hd, hid⟩
  · intro place decl hp hd
    have hne : place ≠ target := fun heq => hp (heq ▸ hm)
    rw [get?_addUse, if_neg hne] at hd
    exact h.others place decl hp hd

/-- The first use of a symbol puts it behind those that have a number. -/
theorem NumberedInOrder.addUse_first {catalog : Catalog} {base : Nat} {places : List Place}
    (h : catalog.NumberedInOrder base places) {target : Place} {used : Declaration}
    (hused : catalog.get? target = some used) (hm : target ∉ places) (path : String)
    (site : UseSite) (hn : base + (places ++ [target]).length < UInt64.size) :
    (catalog.addUse target path site).1.NumberedInOrder base (places ++ [target]) := by
  have hzero := h.others target used hm hused
  have hlast := h.last
  rw [List.length_append, List.length_singleton] at hn
  have hnext : (Identifier.next catalog.last).toNat = base + (places.length + 1) := by
    rw [next_toNat (by omega), hlast, Nat.add_assoc]
  refine ⟨?_, ?_, ?_⟩
  · rw [last_addUse hused, if_pos hzero, hnext, List.length_append, List.length_singleton]
  · intro i place hi
    rw [get?_addUse]
    by_cases hlt : i < places.length
    · rw [List.getElem?_append_left hlt] at hi
      have hp : place ≠ target := fun heq => hm (heq ▸ List.mem_of_getElem? hi)
      rw [if_neg hp]
      exact h.numbered i place hi
    · rw [List.getElem?_append_right (by omega), List.getElem?_singleton] at hi
      obtain ⟨hend, heq⟩ := Option.ite_none_right_eq_some.mp hi
      have hend : i = places.length := by omega
      cases Option.some.inj heq
      rw [if_pos rfl, hused, Option.map_some, catalog.numberOnUse_of_zero hzero, hend]
      exact ⟨_, rfl, hnext⟩
  · intro place decl hp hd
    rw [List.mem_append, List.mem_singleton, not_or] at hp
    rw [get?_addUse, if_neg hp.2] at hd
    exact h.others place decl hp.1 hd

theorem numberedInOrder_fresh {catalog : Catalog}
    (h : ∀ place decl, catalog.get? place = some decl → decl.id = 0) :
    catalog.NumberedInOrder catalog.last.toNat [] :=
  ⟨rfl, fun i place hi => by simp at hi, fun place decl _ hd => h place decl hd⟩

/-- Symbols are numbered in the order of their first uses. -/
theorem numberedInOrder_recordEach {catalog : Catalog}
    (h : ∀ place decl, catalog.get? place = some decl → decl.id = 0) (uses : List UseRecord)
    (hdeclared : ∀ use ∈ uses, ∃ decl, catalog.get? use.target = some decl)
    (hn : catalog.last.toNat + (firstOfEach id (uses.map (·.target))).length < UInt64.size) :
    (catalog.recordEach uses).NumberedInOrder catalog.last.toNat
      (firstOfEach id (uses.map (·.target))) := by
  -- The last use meets the catalog that the others leave, so the induction takes it off the end.
  induction uses using List.reverseRecOn with
  | nil => exact numberedInOrder_fresh h
  | append_singleton uses use ih =>
    obtain ⟨decl, hd⟩ := hdeclared use (by simp)
    obtain ⟨number, hget⟩ := get?_recordEach hd uses
    have hearlier := ih fun use hu => hdeclared use (by simp [hu])
    rw [List.map_append, List.map_singleton, firstOfEach_concat, List.map_id] at hn ⊢
    rw [recordEach, List.foldl_append]
    by_cases hm : use.target ∈ uses.map (·.target)
    · rw [id_eq, if_pos hm] at hn ⊢
      exact (hearlier hn).addUse_again hget (mem_firstOfEach_id.mpr hm) use.path use.site
    · rw [id_eq, if_neg hm] at hn ⊢
      have hfewer : catalog.last.toNat + (firstOfEach id (uses.map (·.target))).length <
          UInt64.size := by
        rw [List.length_append] at hn
        omega
      exact (hearlier hfewer).addUse_first hget (mt mem_firstOfEach_id.mp hm) use.path use.site hn

end CrossRef.Catalog
