import CrossRef.Proofs.LineWalk
import Mathlib.Data.List.TakeWhile

namespace CrossRef

namespace Text

/-- A word as far as its first parenthesis. -/
def bareName (word : String) : String :=
  String.ofList (word.toList.takeWhile (· ≠ '('))

theorem bareName_bare (word : String) : '(' ∉ (bareName word).toList := by
  intro h
  rw [bareName, String.toList_ofList] at h
  simpa using List.mem_takeWhile_imp h

theorem bareName_of_bare {word : String} (h : '(' ∉ word.toList) : bareName word = word := by
  have hall : word.toList.takeWhile (· ≠ '(') = word.toList := by
    apply List.takeWhile_eq_self_iff.mpr
    intro c hc
    exact decide_eq_true fun heq => h (heq ▸ hc)
  rw [bareName, hall, String.ofList_toList]

end Text

/-- The words of a line from which the declarations on it have their names. -/
inductive Header.Names (words : List String) : Kind → String → Prop
  | view {verb head word : String} {after : List String} :
    verb :: head :: word :: after <:+ words → viewVerbs.contains (Text.upper verb) = true →
      Text.equalIgnoringCase head "VIEW" = true → Names words .view word
  | package {first second word : String} {after : List String} :
    first :: second :: word :: after <:+ words → Text.equalIgnoringCase first "PACKAGE" = true →
      Text.equalIgnoringCase second "BODY" = true → Names words .package word
  | routine {keyword word : String} {after : List String} {kind : Kind} :
    words = keyword :: word :: after → routineKind? keyword = some kind → Names words kind word

/-- The name that a declaration of some kind has from its word: views and packages keep all of
it. -/
def Header.nameFrom (kind : Kind) (word : String) : String :=
  if kind.isRoutine then Text.bareName word else word

namespace Header

theorem Names.mem {words : List String} {kind : Kind} {word : String} (h : Names words kind word) :
    word ∈ words := by
  cases h with
  | view hwords _ _ => exact hwords.subset (by simp)
  | package hwords _ _ => exact hwords.subset (by simp)
  | routine hwords _ => simp [hwords]

theorem Names.behind {words : List String} {kind : Kind} {word : String}
    (h : Names words kind word) (hkind : kind.isRoutine = false) (first : String) :
    Names (first :: words) kind word := by
  have hlonger : words <:+ first :: words := List.suffix_cons first words
  cases h with
  | view hwords hverb hhead => exact .view (hwords.trans hlonger) hverb hhead
  | package hwords hfirst hsecond => exact .package (hwords.trans hlonger) hfirst hsecond
  | routine _ hroutine =>
    rw [isRoutine_of_routineKind? hroutine] at hkind
    cases hkind

theorem names_of_views {words : List String} {header : Header} {name : String}
    (h : header ∈ views words) (hname : header.name = some name) :
    Names words header.kind name := by
  rw [kind_of_views h]
  fun_induction views words with
  | case1 verb word rest ih =>
    rcases List.mem_append.mp h with h | h
    · split at h
      next hhead =>
        obtain ⟨hview, hverb⟩ := (Bool.and_eq_true _ _).mp hhead
        rw [List.mem_singleton.mp h] at hname
        obtain ⟨after, rfl⟩ := List.head?_eq_some_iff.mp hname
        exact .view (List.suffix_refl _) hverb hview
      next => simp at h
    · exact (ih h).behind rfl verb
  | case2 => simp at h

theorem names_of_packages {words : List String} {header : Header} {name : String}
    (h : header ∈ packages words) (hname : header.name = some name) :
    Names words header.kind name := by
  rw [(kind_of_packages h).1]
  fun_induction packages words with
  | case1 first second word rest ih =>
    rcases List.mem_append.mp h with h | h
    · split at h
      next hhead =>
        obtain ⟨hfirst, hsecond⟩ := (Bool.and_eq_true _ _).mp hhead
        rw [List.mem_singleton.mp h] at hname
        obtain rfl := Option.some.inj hname
        exact .package (List.suffix_refl _) hfirst hsecond
      next => simp at h
    · exact (ih h).behind rfl first
  | case2 => simp at h

/-- The name of a routine is a bare one. -/
theorem names_of_routine {words : List String} {header : Header} {name : String}
    (h : header ∈ routine words) (hname : header.name = some name) :
    header.kind.isRoutine = true ∧
      ∃ word, Names words header.kind word ∧ name = Text.bareName word := by
  unfold routine at h
  split at h
  next keyword word rest =>
    split at h
    next kind hkind =>
      rw [List.mem_singleton.mp h] at hname ⊢
      refine ⟨isRoutine_of_routineKind? hkind, word, .routine rfl hkind, ?_⟩
      simp only [routineName?] at hname
      split at hname
      next => simp at hname
      next => exact (Option.some.inj hname).symm
    next => simp at h
  next => simp at h

end Header

namespace HeaderRules

theorem names_of_readLine {headers : HeaderRules} {packageOpen : Bool} {line : String}
    {header : Header} {name : String} (h : header ∈ (headers.readLine packageOpen line).headers)
    (hname : header.name = some name) :
    ∃ word, Header.Names (Text.tokens line) header.kind word ∧
      name = Header.nameFrom header.kind word := by
  have whole (hkind : header.kind.isRoutine = false)
      (hnames : Header.Names (Text.tokens line) header.kind name) :
      ∃ word, Header.Names (Text.tokens line) header.kind word ∧
        name = Header.nameFrom header.kind word :=
    ⟨name, hnames, by simp [Header.nameFrom, hkind]⟩
  simp only [readLine, List.mem_append] at h
  rcases h with (h | h) | h
  · split at h
    next =>
      have hkind := Header.kind_of_views h
      exact whole (by rw [hkind]; rfl) (Header.names_of_views h hname)
    next => simp at h
  · have hkind := (Header.kind_of_packages h).1
    exact whole (by rw [hkind]; rfl) (Header.names_of_packages h hname)
  · split at h
    next =>
      obtain ⟨hkind, word, hnames, hbare⟩ := Header.names_of_routine h hname
      exact ⟨word, hnames, by simp [Header.nameFrom, hkind, hbare]⟩
    next => simp at h

theorem names_of_walk {headers : HeaderRules} {passedOver : String → Bool} {packageOpen : Bool}
    {lines : List String} {position : Nat} {reading : LineReading} {header : Header} {name : String}
    (h : (headers.walk passedOver packageOpen lines)[position]? = some reading)
    (hheader : header ∈ reading.headers) (hname : header.name = some name) :
    ∃ line word, lines[position]? = some line ∧
      Header.Names (Text.tokens line) header.kind word ∧
        name = Header.nameFrom header.kind word := by
  induction lines generalizing packageOpen position with
  | nil => simp [walk] at h
  | cons line rest ih =>
    cases position with
    | zero =>
      simp only [walk, List.getElem?_cons_zero, Option.some.injEq] at h
      subst h
      split at hheader
      next => simp at hheader
      next =>
        obtain ⟨word, hnames, hfrom⟩ := names_of_readLine hheader hname
        exact ⟨line, word, rfl, hnames, hfrom⟩
    | succ position => exact ih h

end HeaderRules

end CrossRef
