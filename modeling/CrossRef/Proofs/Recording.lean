import CrossRef.Catalog.Use
import CrossRef.Proofs.Outline
import CrossRef.Proofs.UseMaps

namespace CrossRef

/-- A use that is to be recorded. -/
structure UseRecord where
  target : Place
  path : String
  site : UseSite

namespace Catalog

/-- The number a declaration has once it is used: the next one if it had none. -/
def numberOnUse (catalog : Catalog) (decl : Declaration) : Identifier :=
  if Identifier.isIssued decl.id then decl.id else Identifier.next catalog.last

theorem numberOnUse_of_issued (catalog : Catalog) {decl : Declaration} (h : decl.id ≠ 0) :
    catalog.numberOnUse decl = decl.id := by
  simp [numberOnUse, Identifier.isIssued, Identifier.none, h]

theorem numberOnUse_of_zero (catalog : Catalog) {decl : Declaration} (h : decl.id = 0) :
    catalog.numberOnUse decl = Identifier.next catalog.last := by
  simp [numberOnUse, Identifier.isIssued, Identifier.none, h]

theorem get?_addUse (catalog : Catalog) (target place : Place) (path : String) (site : UseSite) :
    (catalog.addUse target path site).1.get? place =
      if place = target then
        (catalog.get? place).map fun decl =>
          { decl with id := catalog.numberOnUse decl, uses := decl.uses.record path site }
      else catalog.get? place := by
  unfold addUse
  cases h : catalog.get? target with
  | none =>
    by_cases hp : place = target
    · simp [hp, h]
    · simp [hp]
  | some decl =>
    have keep (c : Catalog) (last : Identifier) :
        ({ c with last } : Catalog).get? place = c.get? place := by
      simp only [get?_eq_at?]
    simp only [keep, get?_modify]
    by_cases hp : place = target
    · subst hp
      cases hi : Identifier.isIssued decl.id <;> simp [h, numberOnUse, hi]
    · simp [hp]

theorem outline_addUse (catalog : Catalog) (target : Place) (path : String) (site : UseSite) :
    (catalog.addUse target path site).1.outline = catalog.outline := by
  unfold addUse
  cases h : catalog.get? target with
  | none => rfl
  | some decl => exact catalog.outline_modify target fun decl => rfl

/-- A use of nothing changes nothing, a first use issues the next number, a later use none. -/
theorem addUse_cases (catalog : Catalog) (target : Place) (path : String) (site : UseSite) :
    (catalog.get? target = none ∧ catalog.addUse target path site = (catalog, false)) ∨
      ∃ decl, catalog.get? target = some decl ∧
        ((decl.id ≠ 0 ∧ (catalog.addUse target path site).2 = false ∧
            (catalog.addUse target path site).1.last = catalog.last) ∨
          (decl.id = 0 ∧ (catalog.addUse target path site).2 = true ∧
            (catalog.addUse target path site).1.last = Identifier.next catalog.last)) := by
  unfold addUse
  cases h : catalog.get? target with
  | none => exact Or.inl ⟨rfl, rfl⟩
  | some decl =>
    refine Or.inr ⟨decl, rfl, ?_⟩
    by_cases hid : decl.id = 0
    · exact Or.inr ⟨hid, by simp [Identifier.isIssued, Identifier.none, hid]⟩
    · exact Or.inl ⟨hid, by simp [Identifier.isIssued, Identifier.none, hid]⟩

/-- Records uses, one after the other. -/
def recordEach (catalog : Catalog) (uses : List UseRecord) : Catalog :=
  uses.foldl (fun catalog use => (catalog.addUse use.target use.path use.site).1) catalog

theorem outline_recordEach (catalog : Catalog) (uses : List UseRecord) :
    (catalog.recordEach uses).outline = catalog.outline := by
  induction uses generalizing catalog with
  | nil => rfl
  | cons use rest ih => exact (ih _).trans (catalog.outline_addUse use.target use.path use.site)

/-- The uses that concern a place, in their order. -/
def sitesOf (place : Place) (uses : List UseRecord) : List (String × UseSite) :=
  (uses.filter (·.target = place)).map fun use => (use.path, use.site)

/-- A declaration receives its own uses, in their order, and nothing else. -/
theorem get?_recordEach {catalog : Catalog} {place : Place} {decl : Declaration}
    (h : catalog.get? place = some decl) (uses : List UseRecord) :
    ∃ id, (catalog.recordEach uses).get? place =
      some { decl with id, uses := decl.uses.recordSites (sitesOf place uses) } := by
  induction uses generalizing catalog decl with
  | nil => exact ⟨decl.id, h⟩
  | cons use rest ih =>
    have hstep := catalog.get?_addUse use.target place use.path use.site
    by_cases hp : place = use.target
    · rw [if_pos hp, h, Option.map_some] at hstep
      obtain ⟨id, hid⟩ := ih hstep
      refine ⟨id, hid.trans ?_⟩
      simp [sitesOf, Uses.recordSites, hp]
    · rw [if_neg hp, h] at hstep
      obtain ⟨id, hid⟩ := ih hstep
      refine ⟨id, hid.trans ?_⟩
      simp [sitesOf, Ne.symm hp]

theorem exists_of_get?_recordEach {catalog : Catalog} {uses : List UseRecord} {place : Place}
    {found : Declaration} (h : (catalog.recordEach uses).get? place = some found) :
    ∃ decl id, catalog.get? place = some decl ∧
      found = { decl with id, uses := decl.uses.recordSites (sitesOf place uses) } := by
  have hdeclared : ∃ decl, catalog.get? place = some decl := by
    induction uses generalizing catalog with
    | nil => exact ⟨found, h⟩
    | cons use rest ih =>
      obtain ⟨later, hl⟩ := ih h
      rw [get?_addUse] at hl
      split at hl
      next =>
        obtain ⟨decl, hd, _⟩ := Option.map_eq_some_iff.mp hl
        exact ⟨decl, hd⟩
      next => exact ⟨later, hl⟩
  obtain ⟨decl, hd⟩ := hdeclared
  obtain ⟨id, hid⟩ := get?_recordEach hd uses
  exact ⟨decl, id, hd, Option.some.inj (h.symm.trans hid)⟩

section

variable {f : RawText → Declaration → Declaration} (hid : ∀ key decl, (f key decl).id = decl.id)

include hid

/-- Where all declarations are changed in a way that agrees with a use and its counterpart, the
counterpart is recorded among the changed declarations. -/
theorem addUse_mapDecls (catalog : Catalog) (target : Place) {path : String} {site site' : UseSite}
    (huse : ∀ key decl id, f key { decl with id, uses := decl.uses.record path site } =
      { f key decl with id, uses := (f key decl).uses.record path site' }) :
    ((catalog.mapDecls f).addUse target path site').1 =
      (catalog.addUse target path site).1.mapDecls f := by
  unfold addUse
  rw [get?_mapDecls, get?_eq_at?]
  cases catalog.files[target.file]? with
  | none => rfl
  | some file =>
    rw [Option.bind_some, Option.bind_some]
    cases file.at? target with
    | none => rfl
    | some decl =>
      simp only [Option.map_some, hid]
      refine congrArg (fun changed : Catalog => Catalog.mk changed.files _)
        (catalog.mapDecls_modify target ?_)
      exact fun key decl => (huse key decl _).symm

theorem recordEach_mapDecls (catalog : Catalog) (uses : List UseRecord) (g : UseRecord → UseRecord)
    (htarget : ∀ use, (g use).target = use.target) (hpath : ∀ use, (g use).path = use.path)
    (huse : ∀ use key decl id,
      f key { decl with id, uses := decl.uses.record use.path use.site } =
        { f key decl with id, uses := (f key decl).uses.record use.path (g use).site }) :
    (catalog.mapDecls f).recordEach (uses.map g) = (catalog.recordEach uses).mapDecls f := by
  induction uses generalizing catalog with
  | nil => rfl
  | cons use rest ih =>
    have hstep := catalog.addUse_mapDecls hid use.target (huse use)
    rw [List.map_cons, recordEach, List.foldl_cons, htarget, hpath, hstep]
    exact ih _

end

end Catalog

end CrossRef
