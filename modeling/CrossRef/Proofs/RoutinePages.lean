import CrossRef.Proofs.LastParts
import CrossRef.Proofs.ListedPages

namespace CrossRef

/-- The kind of the routines that a page is for. -/
def Page.routineKind? : Page → Option Kind
  | .function => some .function
  | .procedure => some .procedure
  | _ => none

namespace Report

theorem lastName_shownName {catalog : Catalog} {place : Place} {decl : Declaration}
    (h : catalog.get? place = some decl) :
    lastName (catalog.shownName place) = lastName decl.name := by
  cases place with
  | view f i => simp [Catalog.shownName, Catalog.ownerOf?, h]
  | package f p => simp [Catalog.shownName, Catalog.ownerOf?, h]
  | routine f p kind i =>
    obtain ⟨owner, howner, _, _⟩ := Catalog.exists_owner h
    simp only [Catalog.shownName, howner, h, Option.map_some, Option.getD_some]
    exact lastName_behind_dot owner.decl.name decl.name

theorem filter_inside_ofKind {catalog : Catalog} (h : catalog.KindsFit) (owner : Place)
    (kind : Kind) :
    (ofKind catalog kind).filter (fun entry => owner.isInside kind entry.1) =
      catalog.symbols.filter fun entry => owner.isInside kind entry.1 := by
  rw [ofKind, List.filter_filter]
  refine List.filter_congr fun entry hentry => ?_
  cases hinside : owner.isInside kind entry.1 with
  | false => rfl
  | true =>
    have hkind := h entry.1 entry.2 (Catalog.mem_symbols_iff.mp hentry)
    rw [Place.kind_of_isInside hinside] at hkind
    simp [hkind]

/-- The routines of a page are in the order of the last parts of their names. Where no dot stands in
their names, this is the order of the names, and in each package that of the full page. -/
theorem run_routine_pages_by_last_name {n : Nat} {catalog : Catalog}
    (h : Catalog.Run .empty n catalog) (root : RawText) {page : Page} {kind : Kind}
    (hpage : page.routineKind? = some kind) :
    ∃ order, TellsEach catalog root order (rows catalog root page) ∧
      StablySorted (fun entry => Text.upper (lastName entry.2.name)) (ofKind catalog kind) order ∧
      ((∀ entry ∈ ofKind catalog kind, '.' ∉ entry.2.name.toList) →
        StablySorted (fun entry => Text.upper entry.2.name) (ofKind catalog kind) order ∧
        ∀ owner package, (owner, package) ∈ catalog.placedPackages →
          List.Forall₂ (fun entry => TellsOf catalog root s!"  {kind.name} {entry.2.name}" entry)
            (order.filter fun entry => owner.isInside kind entry.1)
            (routineRows catalog root package kind)) := by
  have hown := h.namesOwnFiles Catalog.namesOwnFiles_empty
  have hfits := h.kindsFit Catalog.kindsFit_empty
  have hkind : kind.isRoutine = true := by
    cases page <;> cases hpage <;> rfl
  have hrows : rows catalog root page = declarationRows catalog root kind := by
    cases page <;> cases hpage <;> rfl
  have hsorted := stablySorted_sortByKey (fun entry => Text.upper (if kind.isRoutine then
    lastName (catalog.shownName entry.1) else catalog.shownName entry.1)) (ofKind catalog kind)
  have hlast : StablySorted (fun entry => Text.upper (lastName entry.2.name))
      (ofKind catalog kind) _ := hsorted.congr fun entry hentry => by
    have hget := Catalog.mem_symbols_iff.mp (List.mem_of_mem_filter hentry)
    rw [if_pos hkind, lastName_shownName hget]
  refine ⟨_, hrows ▸ tellsEach_declarationRows hown root kind, hlast, fun hplain => ?_⟩
  have hnames : StablySorted (fun entry => Text.upper entry.2.name) (ofKind catalog kind) _ :=
    hlast.congr fun entry hentry => by rw [lastName_of_no_dot (hplain entry hentry)]
  refine ⟨hnames, fun owner package hpackage => ?_⟩
  obtain ⟨order, horder, htells⟩ := ownRows_routineRows hown root hpackage hkind
  have hinside := hnames.filter fun entry => owner.isInside kind entry.1
  rw [filter_inside_ofKind hfits] at hinside
  rw [hinside.unique horder]
  exact htells

/-- A package with two functions whose names have dots in them. -/
def dottedRoutines : Catalog :=
  (DeclarationRules.extract ⟨⟨true⟩, 0⟩ (Catalog.empty.addFile "./bank.pkb" .sql) 0
    ["create package body bank is", "function audit.total(a number) return number is",
      "function loan.rate(a number) return number is"] []).1

theorem run_routine_pages_by_last_name_dottedRoutines :
    Page.function.routineKind? = some .function ∧
    ∃ order, TellsEach dottedRoutines "." order (rows dottedRoutines "." .function) ∧
      order.map (·.2.name) = ["loan.rate", "audit.total"] := by
  have hrun : Catalog.Run .empty _ dottedRoutines :=
    (Catalog.Run.done.next (.addFile "./bank.pkb" .sql)).next (.extract ⟨⟨true⟩, 0⟩ 0 _ [])
  have hpage : Page.function.routineKind? = some .function := rfl
  obtain ⟨order, htells, hsorted, _⟩ := run_routine_pages_by_last_name hrun "." hpage
  refine ⟨hpage, order, htells, ?_⟩
  let total : Place × Declaration :=
    (.routine 0 0 .function 0, ⟨.function, "audit.total", 0, 2, none, 0, []⟩)
  let rate : Place × Declaration :=
    (.routine 0 0 .function 1, ⟨.function, "loan.rate", 0, 3, none, 0, []⟩)
  have hkind : ofKind dottedRoutines .function = [total, rate] := by decide +kernel
  rw [hkind] at hsorted
  have htotal : Text.upper (lastName total.2.name) = "TOTAL" := by decide +kernel
  have hrate : Text.upper (lastName rate.2.name) = "RATE" := by decide +kernel
  have hswapped : StablySorted (fun entry : Place × Declaration =>
      Text.upper (lastName entry.2.name)) [total, rate] [rate, total] := by
    refine ⟨.swap _ _ _, ?_, ?_⟩
    · rw [List.pairwise_pair, htotal, hrate]
      decide
    · intro k
      simp only [List.filter_cons, List.filter_nil, htotal, hrate]
      by_cases hk : "RATE" = k
      · simp [← hk]
      · simp [hk]
  rw [hsorted.unique hswapped]
  rfl

end Report

end CrossRef
