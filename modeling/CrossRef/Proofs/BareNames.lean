import CrossRef.Proofs.BlankLines
import CrossRef.Proofs.TextMentions

namespace CrossRef

namespace Text

theorem code_of_parenthesis {code : Nat} (h : Char.ofNat code = '(') : code = 0x28 := by
  rcases toNat_ofNat_or_nul code with hcode | hnul
  · rw [← hcode, h]
    rfl
  · have hother : Char.ofNat 0 ≠ '(' := by decide
    exact absurd (hnul ▸ h) hother

theorem upperRuns_behind_parenthesis : ∀ run ∈ upperRuns, 0x28 < run.image := by
  decide +kernel

theorem upperExpansions_no_parenthesis : ∀ entry ∈ upperExpansions, 0x28 ∉ entry.2 := by
  decide +kernel

theorem parenthesis_of_toUpper_ascii : ∀ n < 0x80, (Char.ofNat n).toUpper = '(' → n = 0x28 := by
  decide +kernel

theorem parenthesis_of_mem_upperChar {c d : Char} (h : d ∈ upperChar c) (hd : d = '(') :
    c = '(' := by
  cases upperOf_of_mem h with
  | ascii hascii =>
    rw [← Char.ofNat_toNat c] at hd ⊢
    rw [parenthesis_of_toUpper_ascii c.toNat hascii hd]
  | expanded hentry hcode =>
    rw [code_of_parenthesis hd] at hcode
    exact absurd hcode (upperExpansions_no_parenthesis _ hentry)
  | onRun hrun _ =>
    have hcode := code_of_parenthesis hd
    have hbehind := upperRuns_behind_parenthesis _ hrun
    omega
  | itself => exact hd

/-- Parentheses are neither lost nor made in upper case. -/
theorem parenthesis_mem_upper {text : String} :
    '(' ∈ (upper text).toList ↔ '(' ∈ text.toList := by
  rw [toList_upper, List.mem_flatMap]
  constructor
  · rintro ⟨c, hc, hupper⟩
    exact parenthesis_of_mem_upperChar hupper rfl ▸ hc
  · intro h
    exact ⟨'(', h, by decide⟩

end Text

theorem Header.parenthesis_mem_nameFrom {kind : Kind} {word : String} :
    '(' ∈ (nameFrom kind word).toList ↔ kind.isRoutine = false ∧ '(' ∈ word.toList := by
  have hbare := Text.bareName_bare word
  cases hkind : kind.isRoutine with
  | true => simp [nameFrom, hkind, hbare]
  | false => simp [nameFrom, hkind]

namespace Catalog

/-- The shown name of a symbol, made of bare names. -/
def bareShownName (catalog : Catalog) (target : Place) : String :=
  let name := Text.bareName (((catalog.get? target).map (·.name)).getD "")
  match catalog.ownerOf? target with
  | some package => Text.bareName package.decl.name ++ "." ++ name
  | none => name

theorem bareShownName_of_bare {catalog : Catalog} {target : Place}
    (h : '(' ∉ (catalog.shownName target).toList) :
    catalog.bareShownName target = catalog.shownName target := by
  unfold shownName at h
  unfold bareShownName shownName
  cases howner : catalog.ownerOf? target with
  | none =>
    rw [howner] at h
    exact Text.bareName_of_bare h
  | some package =>
    simp only [howner, String.toList_append, List.mem_append, not_or] at h
    obtain ⟨⟨hpackage, _⟩, hname⟩ := h
    simp only [Text.bareName_of_bare hpackage, Text.bareName_of_bare hname]

/-- All that a search adds to a symbol stands on searched lines with a property. -/
def AddsOnly (headers : HeaderRules) (source : Contents) (catalog later : Catalog) (place : Place)
    (p : String → Prop) : Prop :=
  ∃ decl found, catalog.get? place = some decl ∧ later.get? place = some found ∧
    ∀ key, ∃ added, found.uses.sites key = decl.uses.sites key ++ added ∧
      ∀ site ∈ added, ∃ file ∈ catalog.files, ∃ lines position line,
        file.key = key ∧ source file.path = some lines ∧ headers.Searches lines position line ∧
          p line ∧ site = ⟨file.id, lineNumber position⟩

/-- A symbol whose shown name has a parenthesis is not found where no parenthesis stands. -/
theorem addsOnly_parenthesis {headers : HeaderRules} {source : Contents} {catalog : Catalog}
    {order : List Nat} (hp : order.Perm (List.range catalog.files.length)) {place : Place}
    {decl : Declaration} (hdecl : catalog.get? place = some decl)
    (h : '(' ∈ (catalog.shownName place).toList) :
    catalog.AddsOnly headers source (catalog.resolveIn order headers source).1 place
      fun line => '(' ∈ line.toList := by
  obtain ⟨_, found, hown, hlater, hsites⟩ := sites_resolveIn hp (searchText?_eq_shownName hdecl)
  refine ⟨_, found, hown, hlater, fun key => ?_⟩
  obtain ⟨added, hadded, hmem⟩ := hsites key
  refine ⟨added, hadded, fun site hsite => ?_⟩
  obtain ⟨file, hfile, lines, position, line, hkey, hs, hline, htext, hsame⟩ :=
    (hmem site).mp hsite
  have hupper : '(' ∈ (Text.upper line).toList := by
    apply htext.subset
    rw [String.toList_append, List.mem_append]
    exact Or.inl (Text.parenthesis_mem_upper.mpr h)
  exact ⟨file, hfile, lines, position, line, hkey, hs, hline,
    Text.parenthesis_mem_upper.mp hupper, hsame⟩

end Catalog

/-- A declaration that extraction adds is named by a word of its line: a routine by this word as far
as its first parenthesis, a view or a package by all of it, so that a parenthesis is left in the
name. A search of all files finds every mention of the bare name of a symbol whose shown name has no
parenthesis. Where the shown name has one, no line without a parenthesis is found. -/
theorem DeclarationRules.extract_bare_names (rules : DeclarationRules) (catalog : Catalog)
    (index : Nat) (lines : List String) (docs : List DocBlock) :
    let made := (rules.extract catalog index lines docs).1
    ∀ place decl, made.get? place = some decl → catalog.get? place = none →
      (∃ position line word, lines[position]? = some line ∧ decl.line = lineNumber position ∧
        Header.Names (Text.tokens line) decl.kind word ∧
        decl.name = Header.nameFrom decl.kind word ∧
        ('(' ∈ decl.name.toList ↔ decl.kind.isRoutine = false ∧ '(' ∈ word.toList)) ∧
      ∀ (order : List Nat) (headers : HeaderRules) (source : Contents),
        order.Perm (List.range made.files.length) →
        let later := (made.resolveIn order headers source).1
        ('(' ∉ (made.shownName place).toList →
          ∀ file ∈ made.files, ∀ read, source file.path = some read →
          ∀ position line, headers.Searches read position line →
          ∀ front mention back, line = front ++ mention ++ back →
            Text.upper mention = Text.upper (made.bareShownName place) ++
              (if place.kind = .package then "." else "") →
            made.AddsSite later place file.key ⟨file.id, lineNumber position⟩) ∧
        ('(' ∈ (made.shownName place).toList →
          made.AddsOnly headers source later place fun line => '(' ∈ line.toList) := by
  intro made place decl hdecl hnew
  constructor
  · rcases (rules.grows_extract catalog index lines docs).adds hdecl with hold | ⟨_, hdeclares⟩
    · rw [hnew] at hold
      cases hold
    · obtain ⟨position, reading, header, hread, hheader, name, hname, rfl⟩ := hdeclares
      obtain ⟨line, word, hline, hnames, rfl⟩ := HeaderRules.names_of_walk hread hheader hname
      exact ⟨position, line, word, hline, rfl, hnames, rfl, Header.parenthesis_mem_nameFrom⟩
  · intro order headers source hp later
    constructor
    · intro hbare file hfile read hs position line hline front mention back h hmention
      rw [Catalog.bareShownName_of_bare hbare] at hmention
      exact Catalog.addsSite_of_mention hp hfile hs hline hdecl h hmention
    · exact Catalog.addsOnly_parenthesis hp hdecl

theorem DeclarationRules.extract_bare_names_columnList :
    let rules : DeclarationRules := ⟨⟨true⟩, 0⟩
    let catalog : Catalog := ⟨[⟨1, "a.sql", .sql, [], []⟩, ⟨2, "c.c", .native, [], []⟩], 2⟩
    let lines := ["create view v(a,b) as", "package body p is", "function f(x number)"]
    let made := (rules.extract catalog 0 lines []).1
    let source : Contents := fun path => if path = ↑"c.c" then some ["from v", "P.f"] else none
    let later := (made.resolveIn [1, 0] ⟨true⟩ source).1
    made.shownName (.view 0 0) = "v(a,b)" ∧
      made.AddsOnly ⟨true⟩ source later (.view 0 0) (fun line => '(' ∈ line.toList) ∧
      (later.get? (.view 0 0)).map (·.uses) = some [] ∧
      made.shownName (.routine 0 0 .function 0) = "p.f" ∧
      made.AddsSite later (.routine 0 0 .function 0) "c.c" ⟨2, 2⟩ := by
  intro rules catalog lines made source later
  have hmade : made = ⟨[⟨1, "a.sql", .sql, [⟨.view, "v(a,b)", 0, 1, none, 0, []⟩],
      [⟨⟨.package, "p", 0, 2, none, 0, []⟩, [⟨.function, "f", 0, 3, none, 0, []⟩], []⟩]⟩,
      ⟨2, "c.c", .native, [], []⟩], 2⟩ := by
    decide +kernel
  have hp : [1, 0].Perm (List.range made.files.length) := by
    rw [hmade]
    decide
  have hview : made.get? (.view 0 0) = some ⟨.view, "v(a,b)", 0, 1, none, 0, []⟩ := by
    rw [hmade]
    rfl
  have hroutine : made.get? (.routine 0 0 .function 0) =
      some ⟨.function, "f", 0, 3, none, 0, []⟩ := by
    rw [hmade]
    rfl
  have hlist : made.shownName (.view 0 0) = "v(a,b)" := by
    rw [hmade]
    rfl
  have hplain : made.shownName (.routine 0 0 .function 0) = "p.f" := by
    rw [hmade]
    decide
  have hfile : ⟨2, "c.c", .native, [], []⟩ ∈ made.files := by
    rw [hmade]
    decide
  have hline : HeaderRules.Searches ⟨true⟩ ["from v", "P.f"] 1 "P.f" :=
    ⟨rfl, by decide +kernel, _, rfl, by decide +kernel⟩
  have hmention : Text.upper "P.f" =
      Text.upper (made.bareShownName (.routine 0 0 .function 0)) ++ "" := by
    rw [Catalog.bareShownName_of_bare (by rw [hplain]; decide), hplain]
    decide +kernel
  obtain ⟨_, hviews⟩ := rules.extract_bare_names catalog 0 lines [] (.view 0 0) _ hview rfl
  obtain ⟨_, hroutines⟩ :=
    rules.extract_bare_names catalog 0 lines [] (.routine 0 0 .function 0) _ hroutine rfl
  refine ⟨hlist, ?_, by decide +kernel, hplain, ?_⟩
  · exact (hviews [1, 0] ⟨true⟩ source hp).2 (by rw [hlist]; decide)
  · exact (hroutines [1, 0] ⟨true⟩ source hp).1 (by rw [hplain]; decide) _ hfile _ rfl 1 _ hline
      "" "P.f" "" rfl hmention

end CrossRef
