import CrossRef.Proofs.FirstUses
import CrossRef.Proofs.SearchOrder
import CrossRef.Proofs.UsingLines
import Mathlib.Data.List.Flatten

namespace CrossRef

/-- A line that has the text of a symbol, by the positions of its file and of the line. -/
structure Hit where
  file : Nat
  line : Nat
  place : Place
  deriving DecidableEq

/-- Hits go by file and by line, and on one line as their symbols are searched. -/
def Hit.key (hit : Hit) : List Nat :=
  hit.file :: hit.line :: hit.place.searchKey

def Hit.Before (a b : Hit) : Prop :=
  a.key < b.key

theorem Hit.Before.asymm (a b : Hit) (h : a.Before b) : ¬ b.Before a :=
  lt_asymm h

namespace Resolution

def lineHits (needles : List Needle) (file : Nat) (entry : (String × LineReading) × Nat) :
    List Hit :=
  (needles.filter (·.occursIn (Text.upper entry.1.1))).map fun needle =>
    ⟨file, entry.2, needle.target⟩

def fileHits (headers : HeaderRules) (needles : List Needle) (source : Contents)
    (entry : IndexedFile × Nat) : List Hit :=
  (source entry.1.path).elim [] fun lines =>
    ((readFrom headers 0 false lines).filter fun entry =>
      !isComment entry.1.1 && !entry.1.2.isDeclaration).flatMap (lineHits needles entry.2)

theorem mem_fileHits {headers : HeaderRules} {needles : List Needle} {source : Contents}
    {entry : IndexedFile × Nat} {hit : Hit} :
    hit ∈ fileHits headers needles source entry ↔
      hit.file = entry.2 ∧ ∃ text lines, ⟨hit.place, text⟩ ∈ needles ∧
        source entry.1.path = some lines ∧ hit.line ∈ headers.usingPositions text lines := by
  obtain ⟨f, l, place⟩ := hit
  rw [fileHits]
  cases source entry.1.path with
  | none => simp
  | some lines =>
    simp only [Option.elim_some, List.mem_flatMap, List.mem_filter, lineHits, List.mem_map,
      Hit.mk.injEq, Option.some.injEq, HeaderRules.usingPositions]
    constructor
    · rintro ⟨⟨⟨line, reading⟩, n⟩, ⟨hm, hplain⟩, ⟨target, text⟩, ⟨hneedle, hoccurs⟩, rfl, rfl, rfl⟩
      have hpart := Text.occursIn_iff_isInfix.mp hoccurs
      exact ⟨rfl, text, lines, hneedle, rfl, ((line, reading), n),
        ⟨hm, by simpa [hpart] using hplain⟩, rfl⟩
    · rintro ⟨rfl, text, _, hneedle, rfl, ⟨⟨line, reading⟩, n⟩, ⟨hm, hplain⟩, rfl⟩
      obtain ⟨hc, hd, hpart⟩ := of_decide_eq_true hplain
      exact ⟨((line, reading), n), ⟨hm, by simp [hc, hd]⟩, ⟨place, text⟩,
        ⟨hneedle, Text.occursIn_iff_isInfix.mpr hpart⟩, rfl, rfl, rfl⟩

theorem fileHits_places (headers : HeaderRules) (needles : List Needle) (source : Contents)
    (entry : IndexedFile × Nat) :
    (fileHits headers needles source entry).map (·.place) =
      (recordsOf entry.1 (searchFile headers needles source entry.1)).map (·.target) := by
  rw [recordsOf_searchFile, fileHits]
  cases source entry.1.path with
  | none => rfl
  | some lines =>
    simp only [Option.elim_some, searchFrom_eq_walk, List.map_flatMap, List.map_map, lineHits,
      lineMentions]
    rfl

theorem fileHits_sorted {needles : List Needle}
    (h : (needles.map (·.target)).Pairwise Catalog.SearchedBefore) (headers : HeaderRules)
    (source : Contents) (entry : IndexedFile × Nat) :
    (fileHits headers needles source entry).Pairwise Hit.Before := by
  have onLine (item : (String × LineReading) × Nat) :
      (lineHits needles entry.2 item).Pairwise Hit.Before := by
    apply List.pairwise_map.mpr
    apply ((List.pairwise_map.mp h).sublist List.filter_sublist).imp
    intro a b hlt
    have hlt : a.target.searchKey < b.target.searchKey := hlt
    simp [Hit.Before, Hit.key, hlt]
  rw [fileHits]
  cases source entry.1.path with
  | none => exact .nil
  | some lines =>
    refine List.Pairwise.sublist (List.filter_sublist.flatMap _) ?_
    apply pairwise_flatMap_zipIdx _ 0 _ onLine
    intro a b hlt x hx y hy
    obtain ⟨_, _, rfl⟩ := List.mem_map.mp hx
    obtain ⟨_, _, rfl⟩ := List.mem_map.mp hy
    simp [Hit.Before, Hit.key, List.cons_lt_cons_iff, hlt]

end Resolution

namespace Catalog

/-- Whether a line uses a symbol. -/
def IsHit (headers : HeaderRules) (source : Contents) (catalog : Catalog) (hit : Hit) : Prop :=
  ∃ text file lines, catalog.searchText? hit.place = some text ∧
    catalog.files[hit.file]? = some file ∧ source file.path = some lines ∧
      hit.line ∈ headers.usingPositions text lines

/-- Whether a line is the first that uses a symbol. -/
def IsFirstHit (headers : HeaderRules) (source : Contents) (catalog : Catalog) (hit : Hit) : Prop :=
  catalog.IsHit headers source hit ∧
    ∀ other, catalog.IsHit headers source other → other.place = hit.place →
      other = hit ∨ hit.Before other

/-- All hits in their order. -/
def hits (headers : HeaderRules) (source : Contents) (catalog : Catalog) : List Hit :=
  catalog.files.zipIdx.flatMap (Resolution.fileHits headers catalog.needles source)

/-- The first hit of each symbol that is hit. -/
def firstHits (headers : HeaderRules) (source : Contents) (catalog : Catalog) : List Hit :=
  firstOfEach (·.place) (catalog.hits headers source)

variable {headers : HeaderRules} {source : Contents} {catalog : Catalog}

theorem mem_hits {hit : Hit} :
    hit ∈ catalog.hits headers source ↔ catalog.IsHit headers source hit := by
  simp only [hits, IsHit, List.mem_flatMap, Resolution.mem_fileHits, mem_needles_iff, Prod.exists,
    List.mem_zipIdx_iff_getElem?]
  constructor
  · rintro ⟨file, f, hf, rfl, text, lines, htext, hs, hline⟩
    exact ⟨text, file, lines, htext, hf, hs, hline⟩
  · rintro ⟨text, file, lines, htext, hf, hs, hline⟩
    exact ⟨file, hit.file, hf, rfl, text, lines, htext, hs, hline⟩

theorem hits_sorted (headers : HeaderRules) (source : Contents) (catalog : Catalog) :
    (catalog.hits headers source).Pairwise Hit.Before := by
  apply pairwise_flatMap_zipIdx
  · exact fun entry => Resolution.fileHits_sorted catalog.needles_sorted headers source entry
  · intro a b hlt x hx y hy
    have hx := (Resolution.mem_fileHits.mp hx).1
    have hy := (Resolution.mem_fileHits.mp hy).1
    simp [Hit.Before, Hit.key, List.cons_lt_cons_iff, hx, hy, hlt]

theorem mem_firstHits {hit : Hit} :
    hit ∈ catalog.firstHits headers source ↔ catalog.IsFirstHit headers source hit := by
  rw [firstHits, mem_firstOfEach_iff Hit.Before.asymm (catalog.hits_sorted headers source)]
  simp only [mem_hits, IsFirstHit]

theorem firstHits_sorted (headers : HeaderRules) (source : Contents) (catalog : Catalog) :
    (catalog.firstHits headers source).Pairwise Hit.Before :=
  (catalog.hits_sorted headers source).sublist (firstOfEach_sublist _)

theorem exists_firstHit {hit : Hit} (h : catalog.IsHit headers source hit) :
    ∃ first ∈ catalog.firstHits headers source, first.place = hit.place := by
  have hmem : hit.place ∈ (catalog.hits headers source).map (·.place) :=
    List.mem_map.mpr ⟨hit, mem_hits.mpr h, rfl⟩
  exact List.mem_map.mp (mem_map_firstOfEach.mpr hmem)

theorem hits_places {order : List Nat} (hp : order.Perm (List.range catalog.files.length)) :
    (catalog.hits headers source).map (·.place) =
      (catalog.recordsIn order headers source).map (·.target) := by
  have hfst := List.zipIdx_map_fst 0 catalog.files
  rw [recordsIn_of_perm headers source hp, hits, List.map_flatMap, List.map_flatMap]
  conv_rhs => rw [← hfst, List.flatMap_map]
  simp only [Resolution.fileHits_places]

theorem declared_of_recordsIn {order : List Nat}
    (hp : order.Perm (List.range catalog.files.length)) :
    ∀ use ∈ catalog.recordsIn order headers source,
      ∃ decl, catalog.get? use.target = some decl := by
  intro use hu
  have hm : use.target ∈ (catalog.hits headers source).map (·.place) := by
    rw [hits_places hp]
    exact List.mem_map_of_mem hu
  obtain ⟨hit, hh, hplace⟩ := List.mem_map.mp hm
  obtain ⟨text, _, _, htext, _⟩ := mem_hits.mp hh
  obtain ⟨decl, hd, _⟩ := Option.bind_eq_some_iff.mp (hplace ▸ htext)
  exact ⟨decl, hd⟩

/-- A search of all files numbers the symbols in the order of their first hits. -/
theorem numberedInOrder_resolveIn {order : List Nat}
    (hp : order.Perm (List.range catalog.files.length))
    (hfresh : ∀ place decl, catalog.get? place = some decl → decl.id = 0)
    (hn : catalog.last.toNat + (catalog.firstHits headers source).length < UInt64.size) :
    (catalog.resolveIn order headers source).1.NumberedInOrder catalog.last.toNat
      ((catalog.firstHits headers source).map (·.place)) := by
  have hplaces : (catalog.firstHits headers source).map (·.place) =
      firstOfEach id ((catalog.recordsIn order headers source).map (·.target)) := by
    rw [← hits_places hp, ← map_firstOfEach]
    rfl
  rw [← List.length_map (·.place), hplaces] at hn
  rw [resolveIn_fst, hplaces]
  exact numberedInOrder_recordEach hfresh _ (declared_of_recordsIn hp) hn

/-- Where no symbol has a number, a search of all files numbers the symbols that are hit one after
the other, in the order of their first hits, and no other symbol. -/
theorem resolveIn_numbers_by_first_hit (headers : HeaderRules) (source : Contents)
    (catalog : Catalog) {order : List Nat} (hp : order.Perm (List.range catalog.files.length))
    (hfresh : ∀ place decl, catalog.get? place = some decl → decl.id = 0)
    (hn : catalog.last.toNat + (catalog.firstHits headers source).length < UInt64.size) :
    (catalog.firstHits headers source).Pairwise Hit.Before ∧
      (∀ hit, hit ∈ catalog.firstHits headers source ↔ catalog.IsFirstHit headers source hit) ∧
      (∀ hit, catalog.IsHit headers source hit →
        ∃ first ∈ catalog.firstHits headers source, first.place = hit.place) ∧
      (∀ i hit, (catalog.firstHits headers source)[i]? = some hit →
        ∃ decl, (catalog.resolveIn order headers source).1.get? hit.place = some decl ∧
          decl.id.toNat = catalog.last.toNat + (i + 1)) ∧
      (∀ place decl, (catalog.resolveIn order headers source).1.get? place = some decl →
        (∀ hit, catalog.IsHit headers source hit → hit.place ≠ place) → decl.id = 0) ∧
      (catalog.resolveIn order headers source).1.last.toNat =
        catalog.last.toNat + (catalog.firstHits headers source).length := by
  have hnumbered := numberedInOrder_resolveIn hp hfresh hn
  refine ⟨catalog.firstHits_sorted headers source, fun _ => mem_firstHits,
    fun _ => exists_firstHit, ?_, ?_, ?_⟩
  · intro i hit hi
    exact hnumbered.numbered i hit.place (by rw [List.getElem?_map, hi]; rfl)
  · intro place decl hd hunused
    refine hnumbered.others place decl ?_ hd
    intro hm
    obtain ⟨hit, hh, hplace⟩ := List.mem_map.mp hm
    exact hunused hit (mem_firstHits.mp hh).1 hplace
  · rw [hnumbered.last, List.length_map]

/-- A package with a function in one file, a view in the next, and a file that may use them. -/
def packageThenView : Catalog :=
  ⟨[⟨1, "a.sql", .sql, [],
      [⟨⟨.package, "p", 0, 1, none, 0, []⟩, [⟨.function, "f", 0, 2, none, 0, []⟩], []⟩]⟩,
    ⟨2, "b.sql", .sql, [⟨.view, "v", 1, 1, none, 0, []⟩], []⟩,
    ⟨3, "c.c", .native, [], []⟩], 3⟩

theorem resolveIn_numbers_by_first_hit_packageThenView :
    let source : Contents := fun path => if path = "c.c" then some ["p.g()", "p.f(v)"] else none
    let first : List Hit := [⟨2, 0, .package 0 0⟩, ⟨2, 1, .view 1 0⟩,
      ⟨2, 1, .routine 0 0 .function 0⟩]
    packageThenView.firstHits ⟨true⟩ source = first ∧
      ∀ i hit, first[i]? = some hit →
        ∃ decl, (packageThenView.resolveIn [2, 0, 1] ⟨true⟩ source).1.get? hit.place = some decl ∧
          decl.id.toNat = 3 + (i + 1) := by
  intro source first
  have hp : [2, 0, 1].Perm (List.range packageThenView.files.length) := by decide
  have hzero : ∀ entry ∈ packageThenView.symbols, entry.2.id = 0 := by decide +kernel
  have hfirst : packageThenView.firstHits ⟨true⟩ source = first := by decide +kernel
  have hn : packageThenView.last.toNat + (packageThenView.firstHits ⟨true⟩ source).length <
      UInt64.size := by
    rw [hfirst]
    decide
  obtain ⟨_, _, _, hnumbered, _⟩ := resolveIn_numbers_by_first_hit ⟨true⟩ source packageThenView hp
    (fun place decl hd => hzero (place, decl) (mem_symbols_iff.mpr hd)) hn
  rw [hfirst] at hnumbered
  exact ⟨hfirst, hnumbered⟩

end Catalog

end CrossRef
