import CrossRef.Proofs.SearchOrder
import CrossRef.Store.Write

namespace CrossRef

namespace Catalog

/-- A package is listed before its routines. -/
theorem package_before_routine {catalog : Catalog} {before after : List (Place × Declaration)}
    {f p i : Nat} {kind : Kind} {decl : Declaration}
    (h : catalog.symbols = before ++ (.routine f p kind i, decl) :: after) :
    ∃ owner, (.package f p, owner) ∈ before := by
  have hmem : (.routine f p kind i, decl) ∈ catalog.symbols := by simp [h]
  obtain ⟨package, _, hpackage, _⟩ := exists_owner (mem_symbols_iff.mp hmem)
  have howner : (.package f p, package.decl) ∈ catalog.symbols := mem_symbols_iff.mpr hpackage
  have hsorted := catalog.symbols_sorted
  rw [h, List.map_append, List.map_cons, List.pairwise_append, List.pairwise_cons] at hsorted
  rw [h, List.mem_append, List.mem_cons] at howner
  rcases howner with hbefore | hsame | hafter
  · exact ⟨package.decl, hbefore⟩
  · cases hsame
  · have hlt := hsorted.2.1.1 (.package f p) (List.mem_map_of_mem hafter)
    simp [SearchedBefore, Place.file] at hlt

/-- The number of the symbol at a place, counted from one on. -/
def seqOf? (catalog : Catalog) (place : Place) : Option Nat :=
  ((catalog.symbols.zipIdx 1).find? (·.1.1 = place)).map (·.2)

theorem exists_find?_place {entries : List (Place × Declaration)} {place : Place}
    {decl : Declaration} (h : (place, decl) ∈ entries) :
    ∃ entry, (entries.zipIdx 1).find? (·.1.1 = place) = some entry := by
  obtain ⟨j, hj⟩ := List.mem_iff_getElem?.mp h
  have hm : ((place, decl), 1 + j) ∈ entries.zipIdx 1 := by
    rw [List.mk_mem_zipIdx_iff_le_and_getElem?_sub]
    exact ⟨by omega, by simpa using hj⟩
  exact Option.isSome_iff_exists.mp (List.find?_isSome.mpr ⟨_, hm, by simp⟩)

/-- The package of a routine is found among the symbols before the routine. -/
theorem find?_package {catalog : Catalog} {before after : List (Place × Declaration)} {f p i : Nat}
    {kind : Kind} {decl : Declaration}
    (h : catalog.symbols = before ++ (.routine f p kind i, decl) :: after) :
    ∃ entry, (before.zipIdx 1).find? (·.1.1 = .package f p) = some entry ∧
      catalog.seqOf? (.package f p) = some entry.2 := by
  obtain ⟨owner, howner⟩ := package_before_routine h
  obtain ⟨entry, hentry⟩ := exists_find?_place howner
  refine ⟨entry, hentry, ?_⟩
  rw [seqOf?, h, List.zipIdx_append, List.find?_append, hentry, Option.some_or, Option.map_some]

/-- The number of the package that the symbol at a place belongs to. -/
def packageSeq? (catalog : Catalog) : Place → Option Nat
  | .routine file owner _ _ => catalog.seqOf? (.package file owner)
  | _ => none

end Catalog

namespace Store

open Catalog

/-- The packages among the first symbols, each with its number. -/
def PackageSeqs.Note (packages : PackageSeqs) (listed : List (Place × Declaration)) : Prop :=
  ∀ f p, packages.lookup (f, p) = ((listed.zipIdx 1).find? (·.1.1 = .package f p)).map (·.2)

theorem PackageSeqs.Note.next {packages : PackageSeqs} {listed : List (Place × Declaration)}
    (h : packages.Note listed) {place : Place} (hnew : place ∉ listed.map Prod.fst)
    (decl : Declaration) :
    PackageSeqs.Note (notePackage packages place (listed.length + 1))
      (listed ++ [(place, decl)]) := by
  intro f p
  have hzip : (listed ++ [(place, decl)]).zipIdx 1 =
      listed.zipIdx 1 ++ [((place, decl), listed.length + 1)] := by
    rw [List.zipIdx_append, Nat.add_comm 1]
    rfl
  rw [hzip, List.find?_append]
  by_cases hplace : place = .package f p
  · subst hplace
    have hnone : (listed.zipIdx 1).find? (·.1.1 = .package f p) = none := by
      rw [List.find?_eq_none]
      rintro ⟨entry, n⟩ hentry heq
      apply hnew
      rw [← of_decide_eq_true heq]
      exact List.mem_map_of_mem (List.fst_mem_of_mem_zipIdx hentry)
    simp [notePackage, hnone]
  · have hold : (notePackage packages place (listed.length + 1)).lookup (f, p) =
        packages.lookup (f, p) := by
      unfold notePackage
      split
      next file index =>
        have hne : ((f, p) == (file, index)) = false := by
          simp only [beq_eq_false_iff_ne, ne_eq, Prod.mk.injEq]
          rintro ⟨rfl, rfl⟩
          exact hplace rfl
        rw [List.lookup_cons, hne]
      next => rfl
    rw [hold, h f p]
    simp [hplace]

theorem packageSeqOf_eq {catalog : Catalog} {listed rest : List (Place × Declaration)}
    {place : Place} {decl : Declaration} {packages : PackageSeqs}
    (hsplit : catalog.symbols = listed ++ (place, decl) :: rest) (h : packages.Note listed) :
    packageSeqOf packages place = catalog.packageSeq? place := by
  cases place with
  | view f i => rfl
  | package f i => rfl
  | routine f p kind i =>
    obtain ⟨entry, hfind, hseq⟩ := find?_package hsplit
    simp only [packageSeqOf, packageSeq?, h f p, hfind, hseq, Option.map_some]

/-- The statements for all symbols, each with the number of its own package. -/
theorem ofSymbols_eq_flatMap (catalog : Catalog) :
    Statement.ofSymbols catalog [] 1 catalog.symbols =
      (catalog.symbols.zipIdx 1).flatMap fun entry =>
        Statement.ofSymbol catalog entry.2 entry.1.2 (catalog.packageSeq? entry.1.1) := by
  have walk (rest : List (Place × Declaration)) : ∀ (listed : List (Place × Declaration)) packages,
      catalog.symbols = listed ++ rest → PackageSeqs.Note packages listed →
      Statement.ofSymbols catalog packages (listed.length + 1) rest =
        (rest.zipIdx (listed.length + 1)).flatMap fun entry =>
          Statement.ofSymbol catalog entry.2 entry.1.2 (catalog.packageSeq? entry.1.1) := by
    induction rest with
    | nil => intros; rfl
    | cons entry rest ih =>
      obtain ⟨place, decl⟩ := entry
      intro listed packages hsplit hnote
      have hnew : place ∉ listed.map Prod.fst := by
        have hnodup := catalog.nodup_places
        rw [hsplit, List.map_append, List.map_cons, List.nodup_append] at hnodup
        intro hm
        exact hnodup.2.2 place hm place (by simp) rfl
      have hrest := ih (listed ++ [(place, decl)]) _ (by simp [hsplit]) (hnote.next hnew decl)
      rw [List.length_append, List.length_singleton] at hrest
      rw [Statement.ofSymbols, packageSeqOf_eq hsplit hnote, hrest, List.zipIdx_cons,
        List.flatMap_cons]
  exact walk catalog.symbols [] [] rfl fun f p => rfl

end Store

end CrossRef
