import CrossRef.Proofs.Numbering
import CrossRef.Proofs.SearchTexts

namespace CrossRef

/-- A map of uses and what it is with one more site: the site is the last under its path, a path
that was not there is the last of all, and nothing else is changed. -/
def Uses.Gains (uses : Uses) (path : String) (site : UseSite) (later : Uses) : Prop :=
  (∃ before sites after, path ∉ before.map Prod.fst ∧ uses = before ++ (path, sites) :: after ∧
      later = before ++ (path, sites ++ [site]) :: after) ∨
    (path ∉ uses.map Prod.fst ∧ later = uses ++ [(path, [site])])

theorem Uses.gains_record (uses : Uses) (path : String) (site : UseSite) :
    uses.Gains path site (uses.record path site) := by
  induction uses with
  | nil => exact Or.inr ⟨by simp, rfl⟩
  | cons entry rest ih =>
    obtain ⟨key, sites⟩ := entry
    by_cases hkey : key = path
    · subst hkey
      exact Or.inl ⟨[], sites, rest, by simp, rfl, by simp [record]⟩
    · have hstep : record path site ((key, sites) :: rest) =
          (key, sites) :: record path site rest := if_neg hkey
      rw [hstep]
      rcases ih with ⟨before, found, after, hnew, hrest, hlater⟩ | ⟨hnew, hlater⟩
      · refine Or.inl ⟨(key, sites) :: before, found, after, ?_, ?_, ?_⟩
        · simp [hnew, Ne.symm hkey]
        · rw [hrest, List.cons_append]
        · rw [hlater, List.cons_append]
      · refine Or.inr ⟨by simp [hnew, Ne.symm hkey], ?_⟩
        rw [hlater, List.cons_append]

namespace Catalog

/-- A catalog before and after one use is recorded at a place, and whether a number was issued. The
symbol there gains the site, and the next number if it had none; all else is as it was. -/
structure RecordsUse (catalog : Catalog) (target : Place) (path : String) (site : UseSite)
    (later : Catalog) (issued : Bool) : Prop where
  others : ∀ place, place ≠ target → later.get? place = catalog.get? place
  labels : later.labels = catalog.labels
  families : later.families = catalog.families
  unknown : catalog.get? target = none → later = catalog
  known : ∀ decl, catalog.get? target = some decl → ∃ id uses,
    later.get? target = some { decl with id, uses } ∧ decl.uses.Gains path site uses ∧
      (decl.id ≠ 0 ∧ id = decl.id ∧ later.last = catalog.last ∨
        decl.id = 0 ∧ id = later.last ∧ later.last.toNat = catalog.last.toNat + 1)
  issued_iff : issued = true ↔ later.last ≠ catalog.last

section

variable {catalog : Catalog} (hroom : catalog.last.toNat + 1 < UInt64.size)

include hroom

theorem issued_addUse_iff (target : Place) (path : String) (site : UseSite) :
    (catalog.addUse target path site).2 = true ↔
      (catalog.addUse target path site).1.last ≠ catalog.last := by
  have hmoved : Identifier.next catalog.last ≠ catalog.last := by
    intro heq
    have hnat := next_toNat hroom
    rw [heq] at hnat
    omega
  rcases catalog.addUse_cases target path site with
    ⟨_, hsame⟩ | ⟨decl, _, ⟨_, hissued, hlast⟩ | ⟨_, hissued, hlast⟩⟩
  · simp [hsame]
  · simp [hissued, hlast]
  · simp [hissued, hlast, hmoved]

theorem get?_addUse_target (path : String) (site : UseSite) {target : Place} {decl : Declaration}
    (hdecl : catalog.get? target = some decl) :
    ∃ id, (catalog.addUse target path site).1.get? target =
        some { decl with id, uses := decl.uses.record path site } ∧
      (decl.id ≠ 0 ∧ id = decl.id ∧ (catalog.addUse target path site).1.last = catalog.last ∨
        decl.id = 0 ∧ id = (catalog.addUse target path site).1.last ∧
          (catalog.addUse target path site).1.last.toNat = catalog.last.toNat + 1) := by
  have hget := catalog.get?_addUse target target path site
  rw [if_pos rfl, hdecl, Option.map_some] at hget
  refine ⟨_, hget, ?_⟩
  rcases catalog.addUse_cases target path site with
    ⟨hnone, _⟩ | ⟨found, hfound, ⟨hid, _, hlast⟩ | ⟨hid, _, hlast⟩⟩
  · simp [hdecl] at hnone
  · cases Option.some.inj (hdecl.symm.trans hfound)
    exact Or.inl ⟨hid, catalog.numberOnUse_of_issued hid, hlast⟩
  · cases Option.some.inj (hdecl.symm.trans hfound)
    refine Or.inr ⟨hid, ?_, ?_⟩
    · rw [hlast, catalog.numberOnUse_of_zero hid]
    · rw [hlast, next_toNat hroom]

theorem recordsUse_addUse (target : Place) (path : String) (site : UseSite) :
    catalog.RecordsUse target path site (catalog.addUse target path site).1
      (catalog.addUse target path site).2 := by
  have houtline := catalog.outline_addUse target path site
  refine ⟨?_, labels_eq_of_outline houtline, families_eq_of_outline houtline, ?_, ?_,
    issued_addUse_iff hroom target path site⟩
  · intro place hne
    rw [get?_addUse, if_neg hne]
  · intro hnone
    simp [addUse, hnone]
  · intro decl hdecl
    obtain ⟨id, hget, hnumber⟩ := get?_addUse_target hroom path site hdecl
    exact ⟨id, _, hget, decl.uses.gains_record path site, hnumber⟩

end

/-- Each place is listed once, with the declaration that is found there, and searched by one needle;
and a use that is recorded at a place changes nothing but the uses of the symbol there and, if it
had none, its number. -/
theorem places_agree_and_addUse_changes_one (catalog : Catalog) :
    (catalog.symbols.map Prod.fst).Nodup ∧
      (∀ place decl, (place, decl) ∈ catalog.symbols ↔ catalog.get? place = some decl) ∧
      (catalog.needles.map (·.target)).Perm (catalog.symbols.map Prod.fst) ∧
      (catalog.last.toNat + 1 < UInt64.size → ∀ target path site,
        catalog.RecordsUse target path site (catalog.addUse target path site).1
          (catalog.addUse target path site).2) :=
  ⟨catalog.nodup_places, fun _ _ => mem_symbols_iff, catalog.needles_places_perm,
    fun h => recordsUse_addUse h⟩

/-- A view that nothing uses yet, and a package with a procedure that was used in one file. -/
def idleView : Catalog :=
  ⟨[⟨1, "a.sql", .sql, [⟨.view, "v", 0, 1, none, 0, []⟩],
      [⟨⟨.package, "p", 0, 2, none, 0, []⟩, [],
        [⟨.procedure, "q", 0, 3, none, 2, [("b.c", [⟨5, 7⟩])]⟩]⟩]⟩], 2⟩

theorem places_agree_and_addUse_changes_one_idleView :
    (idleView.addUse (.view 0 0) "b.c" ⟨5, 9⟩).2 = true ∧
      idleView.RecordsUse (.view 0 0) "b.c" ⟨5, 9⟩
        (idleView.addUse (.view 0 0) "b.c" ⟨5, 9⟩).1 true ∧
      idleView.RecordsUse (.routine 0 0 .procedure 0) "c.c" ⟨6, 1⟩
        (idleView.addUse (.routine 0 0 .procedure 0) "c.c" ⟨6, 1⟩).1 false ∧
      idleView.RecordsUse (.routine 0 0 .view 0) "c.c" ⟨6, 1⟩ idleView false := by
  obtain ⟨_, _, _, hrecords⟩ := places_agree_and_addUse_changes_one idleView
  have hroom : idleView.last.toNat + 1 < UInt64.size := by decide
  exact ⟨rfl, hrecords hroom (.view 0 0) "b.c" ⟨5, 9⟩,
    hrecords hroom (.routine 0 0 .procedure 0) "c.c" ⟨6, 1⟩,
    hrecords hroom (.routine 0 0 .view 0) "c.c" ⟨6, 1⟩⟩

end Catalog

end CrossRef
