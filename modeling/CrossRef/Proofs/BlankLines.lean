import CrossRef.Doc.Scan
import CrossRef.Proofs.HeaderWords
import CrossRef.Proofs.Utf8
import CrossRef.Proofs.SearchTexts

namespace CrossRef

namespace Text

/-- The codes of the blank characters. -/
def blankCodes : List Nat :=
  [0x9, 0xa, 0xb, 0xc, 0xd, 0x20, 0x85, 0xa0, 0x1680, 0x2000, 0x2001, 0x2002, 0x2003, 0x2004,
    0x2005, 0x2006, 0x2007, 0x2008, 0x2009, 0x200a, 0x2028, 0x2029, 0x202f, 0x205f, 0x3000]

theorem mem_blankCodes {c : Char} (h : isBlank c = true) : c.toNat ∈ blankCodes := by
  simp only [isBlank, Bool.or_eq_true, Bool.and_eq_true, decide_eq_true_eq, beq_iff_eq] at h
  simp only [blankCodes, List.mem_cons, List.not_mem_nil, or_false]
  omega

theorem isBlank_ofNat {code : Nat} (h : code ∉ blankCodes) : isBlank (Char.ofNat code) = false := by
  rcases toNat_ofNat_or_nul code with hcode | hnul
  · by_contra hblank
    have hmem := mem_blankCodes (Bool.not_eq_false _ ▸ hblank)
    rw [hcode] at hmem
    exact h hmem
  · rw [hnul]
    decide

theorem upperRuns_beside_blank : ∀ run ∈ upperRuns, ∀ code ∈ blankCodes,
    code < run.image ∨ run.image + (run.last - run.first) < code := by
  decide +kernel

theorem upperExpansions_beside_blank : ∀ entry ∈ upperExpansions,
    entry.2 ≠ [] ∧ ∀ code ∈ entry.2, code ∉ blankCodes := by
  decide +kernel

theorem isBlank_toUpper_ascii :
    ∀ n < 0x80, isBlank (Char.ofNat n).toUpper = isBlank (Char.ofNat n) := by
  decide +kernel

theorem upperChar_blank : ∀ code ∈ blankCodes, upperChar (Char.ofNat code) = [Char.ofNat code] := by
  decide +kernel

/-- How the upper case of a character comes to have a character in it. -/
inductive UpperOf (c : Char) : Char → Prop
  | ascii : c.toNat < 0x80 → UpperOf c c.toUpper
  | expanded {codes : List Nat} {code : Nat} :
    (c.toNat, codes) ∈ upperExpansions → code ∈ codes → UpperOf c (Char.ofNat code)
  | onRun {run : CaseRun} {offset : Nat} :
    run ∈ upperRuns → offset ≤ run.last - run.first → UpperOf c (Char.ofNat (run.image + offset))
  | itself : UpperOf c c

theorem upperOf_of_mem {c d : Char} (h : d ∈ upperChar c) : UpperOf c d := by
  unfold upperChar at h
  split at h
  next hascii =>
    rw [List.mem_singleton.mp h]
    exact .ascii hascii
  next =>
    split at h
    next codes hcodes =>
      obtain ⟨before, after, hsplit, _⟩ := List.lookup_eq_some_iff.mp hcodes
      obtain ⟨code, hcode, rfl⟩ := List.mem_map.mp h
      exact .expanded (by simp [hsplit]) hcode
    next =>
      rw [List.mem_singleton.mp h]
      cases himage : imageIn upperRuns c.toNat with
      | none => exact .itself
      | some image =>
        obtain ⟨run, hrun, hon⟩ := List.exists_of_findSome?_eq_some himage
        obtain ⟨⟨hfirst, hlast, _⟩, heq⟩ := Option.ite_none_right_eq_some.mp hon
        rw [← Option.some.inj heq]
        exact .onRun hrun (by omega)

theorem upperChar_ne_nil (c : Char) : upperChar c ≠ [] := by
  unfold upperChar
  split
  next => simp
  next =>
    split
    next codes hcodes =>
      obtain ⟨before, after, hsplit, _⟩ := List.lookup_eq_some_iff.mp hcodes
      have hne := (upperExpansions_beside_blank (c.toNat, codes) (by simp [hsplit])).1
      simpa using hne
    next => simp

/-- The upper case of a character is blank if the character is. -/
theorem isBlank_of_mem_upperChar {c d : Char} (h : d ∈ upperChar c) : isBlank d = isBlank c := by
  by_cases hblank : isBlank c = true
  · have hself := upperChar_blank c.toNat (mem_blankCodes hblank)
    rw [Char.ofNat_toNat] at hself
    rw [hself] at h
    rw [List.mem_singleton.mp h]
  · have hink : isBlank c = false := by simpa using hblank
    cases upperOf_of_mem h with
    | ascii hascii =>
      have hsame := isBlank_toUpper_ascii c.toNat hascii
      rwa [Char.ofNat_toNat] at hsame
    | expanded hentry hcode =>
      rw [isBlank_ofNat ((upperExpansions_beside_blank _ hentry).2 _ hcode), hink]
    | onRun hrun hoffset =>
      rw [hink]
      apply isBlank_ofNat
      intro hcode
      have hbeside := upperRuns_beside_blank _ hrun _ hcode
      omega
    | itself => rfl

/-- A word: it has characters, and none of them is blank. -/
def IsWord (word : String) : Prop :=
  word.toList ≠ [] ∧ ∀ c ∈ word.toList, isBlank c = false

def IsBlankLine (line : String) : Prop :=
  ∀ c ∈ line.toList, isBlank c = true

instance (line : String) : Decidable (IsBlankLine line) :=
  decidable_of_iff (line.toList.all isBlank = true) List.all_eq_true

theorem IsWord.upper {word : String} (h : IsWord word) : IsWord (upper word) := by
  rw [IsWord, toList_upper]
  constructor
  · obtain ⟨c, hc⟩ := List.exists_mem_of_ne_nil _ h.1
    intro hnil
    exact upperChar_ne_nil c (List.flatMap_eq_nil_iff.mp hnil c hc)
  · intro d hd
    obtain ⟨c, hc, hd⟩ := List.mem_flatMap.mp hd
    rw [isBlank_of_mem_upperChar hd, h.2 c hc]

theorem IsWord.append {front back : String} (hfront : IsWord front) (hback : IsWord back) :
    IsWord (front ++ back) := by
  rw [IsWord, String.toList_append]
  exact ⟨List.append_ne_nil_of_left_ne_nil hfront.1 _,
    List.forall_mem_append.mpr ⟨hfront.2, hback.2⟩⟩

theorem IsBlankLine.upper {line : String} (h : IsBlankLine line) : IsBlankLine (upper line) := by
  intro d hd
  rw [toList_upper] at hd
  obtain ⟨c, hc, hd⟩ := List.mem_flatMap.mp hd
  rw [isBlank_of_mem_upperChar hd, h c hc]

theorem mem_of_mem_splitOnP {p : Char → Bool} {cs part : List Char} (h : part ∈ cs.splitOnP p)
    {c : Char} (hc : c ∈ part) : p c = false ∧ c ∈ cs := by
  induction cs generalizing part with
  | nil =>
    rw [List.splitOnP_nil, List.mem_singleton] at h
    simp [h] at hc
  | cons first rest ih =>
    rw [List.splitOnP_cons_eq_if_modifyHead] at h
    split at h
    next =>
      rcases List.mem_cons.mp h with rfl | h
      · simp at hc
      · obtain ⟨hp, hm⟩ := ih h hc
        exact ⟨hp, by simp [hm]⟩
    next hfirst =>
      cases hparts : rest.splitOnP p with
      | nil => simp [hparts] at h
      | cons head tail =>
        rw [hparts, List.modifyHead_cons] at h
        rw [hparts] at ih
        rcases List.mem_cons.mp h with rfl | h
        · rcases List.mem_cons.mp hc with rfl | hc
          · exact ⟨by simpa using hfirst, by simp⟩
          · obtain ⟨hp, hm⟩ := ih (List.mem_cons_self ..) hc
            exact ⟨hp, by simp [hm]⟩
        · obtain ⟨hp, hm⟩ := ih (List.mem_cons_of_mem _ h) hc
          exact ⟨hp, by simp [hm]⟩

theorem isWord_of_mem_tokens {line word : String} (h : word ∈ tokens line) : IsWord word := by
  obtain ⟨part, hpart, rfl⟩ := List.mem_map.mp h
  obtain ⟨hsplit, hne⟩ := List.mem_filter.mp hpart
  rw [IsWord, String.toList_ofList]
  exact ⟨of_decide_eq_true hne, fun c hc => (mem_of_mem_splitOnP hsplit hc).1⟩

theorem IsBlankLine.words {line : String} (h : IsBlankLine line) : words line.toList = [] := by
  apply List.eq_nil_iff_forall_not_mem.mpr
  intro part hpart
  obtain ⟨hsplit, hne⟩ := List.mem_filter.mp hpart
  obtain ⟨c, hc⟩ := List.exists_mem_of_ne_nil _ (of_decide_eq_true hne)
  obtain ⟨hink, hmem⟩ := mem_of_mem_splitOnP hsplit hc
  rw [h c hmem] at hink
  simp at hink

theorem IsBlankLine.opening? {line : String} (h : IsBlankLine line) :
    Doc.opening? line.toList = none := by
  have htrim : trimStart line.toList = [] := List.dropWhile_eq_nil_iff.mpr h
  rw [Doc.opening?, htrim]
  rfl

end Text

namespace Header

theorem isWord_of_routine {words : List String} (hwords : ∀ word ∈ words, Text.IsWord word)
    {header : Header} {name : String} (h : header ∈ routine words)
    (hname : header.name = some name) : Text.IsWord name := by
  unfold routine at h
  split at h
  next keyword word rest =>
    split at h
    next kind _ =>
      rw [List.mem_singleton.mp h] at hname
      have hword := hwords word (by simp)
      unfold routineName? at hname
      split at hname
      next => simp at hname
      next hne =>
        rw [← Option.some.inj hname, Text.IsWord, String.toList_ofList]
        exact ⟨hne, fun c hc => hword.2 c ((List.takeWhile_sublist _).subset hc)⟩
    next => simp at h
  next => simp at h

end Header

/-- What a line declares is named by a word. -/
theorem HeaderRules.isWord_of_readLine {headers : HeaderRules} {packageOpen : Bool} {line : String}
    {header : Header} {name : String} (h : header ∈ (headers.readLine packageOpen line).headers)
    (hname : header.name = some name) : Text.IsWord name := by
  have hwords : ∀ word ∈ Text.tokens line, Text.IsWord word := fun _ => Text.isWord_of_mem_tokens
  simp only [readLine, List.mem_append] at h
  rcases h with (h | h) | h
  · split at h
    next => exact hwords name (Header.names_of_views h hname).mem
    next => simp at h
  · exact hwords name (Header.names_of_packages h hname).mem
  · split at h
    next => exact Header.isWord_of_routine hwords h hname
    next => simp at h

theorem HeaderRules.isWord_of_walk {headers : HeaderRules} {passedOver : String → Bool}
    {packageOpen : Bool} {lines : List String} {reading : LineReading} {header : Header}
    {name : String} (h : reading ∈ headers.walk passedOver packageOpen lines)
    (hheader : header ∈ reading.headers) (hname : header.name = some name) : Text.IsWord name := by
  induction lines generalizing packageOpen with
  | nil => simp [walk] at h
  | cons line rest ih =>
    rcases List.mem_cons.mp h with rfl | h
    · split at hheader
      next => simp at hheader
      next => exact isWord_of_readLine hheader hname
    · exact ih h

namespace Text.IsBlankLine

variable {line : String} (h : IsBlankLine line)

include h

theorem isComment : isComment line = false := by
  rw [CrossRef.isComment, h.words]
  rfl

theorem isPassedOver : Extraction.isPassedOver line = true := by
  simp [Extraction.isPassedOver, h.words]

theorem readLine (headers : HeaderRules) (packageOpen : Bool) :
    headers.readLine packageOpen line = ⟨[], packageOpen⟩ :=
  headers.readLine_of_short packageOpen (by simp [h.words])

/-- No word stands on a blank line. -/
theorem lineMentions {needles : List Needle} (hwords : ∀ needle ∈ needles, IsWord needle.text)
    (number : UInt32) : Resolution.lineMentions needles line number = [] := by
  rw [Resolution.lineMentions, List.map_eq_nil_iff, List.filter_eq_nil_iff]
  intro needle hneedle hoccurs
  obtain ⟨hne, hink⟩ := hwords needle hneedle
  obtain ⟨c, hc⟩ := List.exists_mem_of_ne_nil _ hne
  have hc' := hink c hc
  have hpart := occursIn_iff_isInfix.mp hoccurs
  have hblank := h.upper c (hpart.subset hc)
  rw [hblank] at hc'
  simp at hc'

end Text.IsBlankLine

/-- Where all names are words, symbols are searched by words. -/
theorem Catalog.isWord_of_needles {catalog : Catalog}
    (h : ∀ place decl, catalog.get? place = some decl → Text.IsWord decl.name) :
    ∀ needle ∈ catalog.needles, Text.IsWord needle.text := by
  intro needle hneedle
  obtain ⟨decl, hd, htext⟩ := Option.bind_eq_some_iff.mp (mem_needles_iff.mp hneedle)
  have hdot : Text.IsWord "." := by simp [Text.IsWord, Text.isBlank]
  have hname := (h _ decl hd).upper
  split at htext
  next =>
    rw [← Option.some.inj htext]
    exact hname
  next =>
    rw [← Option.some.inj htext]
    exact hname.append hdot
  next f p kind i htarget =>
    rw [htarget] at hd htext
    obtain ⟨owner, howner, hpackage, _⟩ := exists_owner hd
    simp only [howner, Option.map_some, Option.some.injEq] at htext
    rw [← htext]
    exact ((h _ _ hpackage).upper.append hdot).append hname

end CrossRef
