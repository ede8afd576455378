import CrossRef.Proofs.DocSegments
import Mathlib.Data.List.DropRight

namespace CrossRef

namespace Text

/-- A text made of another by putting blanks before and behind it. -/
def Pads (padded core : List Char) : Prop :=
  ∃ front back, padded = front ++ core ++ back ∧ (∀ c ∈ front, isBlank c = true) ∧
    ∀ c ∈ back, isBlank c = true

/-- Texts that differ only in the blanks before and behind a part they have in common. -/
def SameInk (a b : List Char) : Prop :=
  ∃ core, Pads a core ∧ Pads b core

def Reindented (line other : String) : Prop :=
  SameInk line.toList other.toList

theorem words_cons_blank {c : Char} (hc : isBlank c = true) (cs : List Char) :
    words (c :: cs) = words cs := by
  have hsplit : (c :: cs).splitOnP isBlank = [] :: cs.splitOnP isBlank :=
    List.splitOnP_append_cons [] cs hc
  rw [words, hsplit, List.filter_cons_of_neg (by simp)]
  rfl

theorem words_behind_blanks {front : List Char} (hfront : ∀ c ∈ front, isBlank c = true)
    (cs : List Char) : words (front ++ cs) = words cs := by
  induction front with
  | nil => rfl
  | cons c front ih =>
    obtain ⟨hc, hrest⟩ := List.forall_mem_cons.mp hfront
    rw [List.cons_append, words_cons_blank hc, ih hrest]

theorem words_before_blanks {back : List Char} (hback : ∀ c ∈ back, isBlank c = true)
    (cs : List Char) : words (cs ++ back) = words cs := by
  cases back with
  | nil => rw [List.append_nil]
  | cons c back =>
    obtain ⟨hc, hrest⟩ := List.forall_mem_cons.mp hback
    have hnone : words back = [] := by
      have hblank := words_behind_blanks hrest []
      rwa [List.append_nil] at hblank
    have hparts : words (cs ++ c :: back) = words cs ++ words back := by
      rw [words, List.splitOnP_append_cons cs back hc, List.filter_append]
      rfl
    rw [hparts, hnone, List.append_nil]

theorem trimStart_behind_blanks {front : List Char} (hfront : ∀ c ∈ front, isBlank c = true)
    (cs : List Char) : trimStart (front ++ cs) = trimStart cs :=
  List.dropWhile_append_of_pos hfront

theorem trimEnd_before_blanks {back : List Char} (hback : ∀ c ∈ back, isBlank c = true)
    (cs : List Char) : trimEnd (cs ++ back) = trimEnd cs := by
  rw [trimEnd, List.reverse_append]
  exact congrArg List.reverse (trimStart_behind_blanks (by simpa using hback) cs.reverse)

theorem trimStart_before_blanks {back : List Char} (hback : ∀ c ∈ back, isBlank c = true)
    (cs : List Char) :
    trimStart (cs ++ back) = if trimStart cs = [] then [] else trimStart cs ++ back := by
  have hnone : trimStart back = [] := List.dropWhile_eq_nil_iff.mpr hback
  have happend : trimStart (cs ++ back) =
      if (trimStart cs).isEmpty then trimStart back else trimStart cs ++ back :=
    List.dropWhile_append
  simp only [happend, hnone, List.isEmpty_iff]

/-- A mark without blanks at the start of a text does not reach into the blanks behind it. -/
theorem isPrefixOf?_before_blanks {mark back : List Char} (hmark : ∀ c ∈ mark, isBlank c = false)
    (hback : ∀ c ∈ back, isBlank c = true) (cs : List Char) :
    mark.isPrefixOf? (cs ++ back) = (mark.isPrefixOf? cs).map (· ++ back) := by
  induction mark generalizing cs with
  | nil => simp [List.isPrefixOf?]
  | cons m mark ih =>
    obtain ⟨hm, hrest⟩ := List.forall_mem_cons.mp hmark
    cases cs with
    | nil =>
      cases back with
      | nil => rfl
      | cons c back =>
        have hne : (m == c) = false := by
          apply beq_false_of_ne
          rintro rfl
          rw [hback m List.mem_cons_self] at hm
          cases hm
        simp [List.isPrefixOf?, hne]
    | cons c cs =>
      rw [List.cons_append, List.isPrefixOf?, List.isPrefixOf?, ih hrest]
      split <;> rfl

theorem cutAt_behind_blanks {m : Char} {mark front : List Char} (hm : isBlank m = false)
    (hfront : ∀ c ∈ front, isBlank c = true) (cs : List Char) :
    cutAt (m :: mark) (front ++ cs) =
      (cutAt (m :: mark) cs).map fun parts => (front ++ parts.1, parts.2) := by
  induction front with
  | nil => simp
  | cons c front ih =>
    obtain ⟨hc, hrest⟩ := List.forall_mem_cons.mp hfront
    have hne : (m == c) = false := by
      apply beq_false_of_ne
      rintro rfl
      rw [hm] at hc
      cases hc
    rw [List.cons_append, cutAt, ih hrest]
    simp [List.isPrefixOf?, hne, Function.comp_def]

theorem cutAt_before_blanks {m : Char} {mark back : List Char}
    (hmark : ∀ c ∈ m :: mark, isBlank c = false) (hback : ∀ c ∈ back, isBlank c = true)
    (cs : List Char) :
    cutAt (m :: mark) (cs ++ back) =
      (cutAt (m :: mark) cs).map fun parts => (parts.1, parts.2 ++ back) := by
  induction cs with
  | nil =>
    have hblank : cutAt (m :: mark) (back ++ []) = _ :=
      cutAt_behind_blanks (hmark m List.mem_cons_self) hback []
    rw [List.append_nil] at hblank
    rw [List.nil_append, hblank]
    rfl
  | cons c cs ih =>
    have hstart := isPrefixOf?_before_blanks hmark hback (c :: cs)
    rw [List.cons_append] at hstart
    rw [List.cons_append, cutAt, cutAt, hstart, ih]
    cases (m :: mark).isPrefixOf? (c :: cs) with
    | some rest => rfl
    | none => simp [Function.comp_def]

/-- A text without blanks stands in a text with blanks around it only if it stands between them. -/
theorem Pads.infix_iff {padded core word : List Char} (h : Pads padded core)
    (hword : ∀ c ∈ word, isBlank c = false) : word <:+: padded ↔ word <:+: core := by
  obtain ⟨front, back, rfl, hfront, hback⟩ := h
  have nothing {part blanks : List Char} (hpart : part ⊆ word) (hin : part ⊆ blanks)
      (hblanks : ∀ c ∈ blanks, isBlank c = true) : part = [] := by
    rw [List.eq_nil_iff_forall_not_mem]
    intro c hc
    have hink := hword c (hpart hc)
    rw [hblanks c (hin hc)] at hink
    cases hink
  constructor
  · intro hinside
    have hcore : word <:+: front ++ core := by
      rcases List.infix_append_iff.mp hinside with hin | hin | ⟨left, right, rfl, hleft, hright⟩
      · exact hin
      · rw [nothing (List.Subset.refl _) hin.subset hback]
        exact List.nil_infix
      · rw [nothing (List.subset_append_right _ _) hright.subset hback, List.append_nil]
        exact hleft.isInfix
    rcases List.infix_append_iff.mp hcore with hin | hin | ⟨left, right, rfl, hleft, hright⟩
    · rw [nothing (List.Subset.refl _) hin.subset hfront]
      exact List.nil_infix
    · exact hin
    · rw [nothing (List.subset_append_left _ _) hleft.subset hfront, List.nil_append]
      exact hright.isInfix
  · intro hinside
    exact hinside.trans (List.infix_append front core back)

theorem Pads.upper {padded core : String} (h : Pads padded.toList core.toList) :
    Pads (upper padded).toList (upper core).toList := by
  obtain ⟨front, back, hpadded, hfront, hback⟩ := h
  have blanks {part : List Char} (hpart : ∀ c ∈ part, isBlank c = true) :
      ∀ d ∈ part.flatMap upperChar, isBlank d = true := by
    intro d hd
    obtain ⟨c, hc, hd⟩ := List.mem_flatMap.mp hd
    rw [isBlank_of_mem_upperChar hd, hpart c hc]
  refine ⟨front.flatMap upperChar, back.flatMap upperChar, ?_, blanks hfront, blanks hback⟩
  rw [toList_upper, toList_upper, hpadded, List.flatMap_append, List.flatMap_append]

namespace SameInk

variable {a b : List Char} (h : SameInk a b)

include h

theorem words : words a = words b := by
  have one {padded core : List Char} (hpads : Pads padded core) :
      Text.words padded = Text.words core := by
    obtain ⟨front, back, rfl, hfront, hback⟩ := hpads
    rw [words_before_blanks hback, words_behind_blanks hfront]
  obtain ⟨core, ha, hb⟩ := h
  rw [one ha, one hb]

theorem trim : trim a = trim b := by
  have one {padded core : List Char} (hpads : Pads padded core) :
      Text.trim padded = Text.trim core := by
    obtain ⟨front, back, rfl, hfront, hback⟩ := hpads
    rw [Text.trim, Text.trim, List.append_assoc, trimStart_behind_blanks hfront,
      trimStart_before_blanks hback]
    split
    next hnone => rw [hnone]
    next => exact trimEnd_before_blanks hback _
  obtain ⟨core, ha, hb⟩ := h
  rw [one ha, one hb]

theorem infix_iff {word : List Char} (hword : ∀ c ∈ word, isBlank c = false) :
    word <:+: a ↔ word <:+: b := by
  obtain ⟨core, ha, hb⟩ := h
  rw [ha.infix_iff hword, hb.infix_iff hword]

end SameInk

theorem pads_trim (cs : List Char) : Pads cs (trim cs) := by
  let inner := trimStart cs
  have hfront : cs.takeWhile isBlank ++ inner = cs := List.takeWhile_append_dropWhile
  have hback : trim cs ++ inner.rtakeWhile isBlank = inner :=
    List.rdropWhile_append_rtakeWhile
  refine ⟨cs.takeWhile isBlank, inner.rtakeWhile isBlank, ?_, ?_, ?_⟩
  · rw [List.append_assoc, hback, hfront]
  · exact fun c hc => List.mem_takeWhile_imp hc
  · exact fun c hc => List.mem_rtakeWhile_imp hc

theorem sameInk_iff_trim {a b : List Char} : SameInk a b ↔ trim a = trim b := by
  constructor
  · exact SameInk.trim
  · intro h
    exact ⟨trim a, pads_trim a, h ▸ pads_trim b⟩

instance (line other : String) : Decidable (Reindented line other) :=
  decidable_of_iff _ sameInk_iff_trim.symm

end Text

namespace Doc

open Text

theorem opening?_padded {front back : List Char} (hfront : ∀ c ∈ front, isBlank c = true)
    (hback : ∀ c ∈ back, isBlank c = true) (core : List Char) :
    opening? (front ++ core ++ back) = (opening? core).map (· ++ back) := by
  have hmark : ∀ c ∈ ['/', '*', '*'], isBlank c = false := by simp [isBlank]
  have hslash : isBlank '/' = false := by decide
  rw [opening?, opening?, List.append_assoc, trimStart_behind_blanks hfront,
    trimStart_before_blanks hback]
  split
  next hnone =>
    rw [hnone]
    rfl
  next =>
    rw [isPrefixOf?_before_blanks hmark hback]
    cases ['/', '*', '*'].isPrefixOf? (trimStart core) with
    | none => rfl
    | some rest =>
      -- A comment that is closed at once shows by a slash, and the blanks behind have none.
      have hhead : (rest ++ back).head? = some '/' ↔ rest.head? = some '/' := by
        cases rest with
        | cons c rest => rfl
        | nil =>
          rw [List.nil_append]
          refine ⟨fun hb => ?_, fun hn => by cases hn⟩
          rw [hback '/' (List.mem_of_head? hb)] at hslash
          cases hslash
      simp only [Option.map_some, Option.filter_some, ne_eq, hhead]
      split <;> rfl

section

variable {a b : List Char} (h : SameInk a b)

include h

theorem opening?_sameInk : Option.Rel SameInk (opening? a) (opening? b) := by
  obtain ⟨core, ⟨front, back, rfl, hfront, hback⟩, ⟨front', back', rfl, hfront', hback'⟩⟩ := h
  rw [opening?_padded hfront hback, opening?_padded hfront' hback']
  cases opening? core with
  | none => exact .none
  | some rest =>
    exact .some ⟨rest, ⟨[], back, rfl, by simp, hback⟩, ⟨[], back', rfl, by simp, hback'⟩⟩

theorem cutAt_sameInk :
    Option.Rel (fun x y => SameInk x.1 y.1) (cutAt endMark a) (cutAt endMark b) := by
  have hmark : ∀ c ∈ endMark, isBlank c = false := by simp [endMark, isBlank]
  have hstar : isBlank '*' = false := by decide
  obtain ⟨core, ⟨front, back, rfl, hfront, hback⟩, ⟨front', back', rfl, hfront', hback'⟩⟩ := h
  rw [endMark, cutAt_before_blanks hmark hback, cutAt_before_blanks hmark hback',
    cutAt_behind_blanks hstar hfront, cutAt_behind_blanks hstar hfront']
  cases cutAt ['*', '/'] core with
  | none => exact .none
  | some parts =>
    exact .some ⟨parts.1, ⟨front, [], by simp, hfront, by simp⟩,
      ⟨front', [], by simp, hfront', by simp⟩⟩

theorem noteLine_sameInk (entry : DocBlock) : noteLine entry a = noteLine entry b := by
  simp only [noteLine, Remark.ofLine, bareText, h.trim]

end

theorem bodyIn_reindented {line other : String} (h : Reindented line other)
    (current : Option DocBlock) :
    Option.Rel (fun x y => x.1 = y.1 ∧ SameInk x.2 y.2) (bodyIn current line)
      (bodyIn current other) := by
  cases current with
  | some entry => exact .some ⟨rfl, h⟩
  | none =>
    have hopens := opening?_sameInk h
    simp only [bodyIn]
    generalize opening? line.toList = opened at hopens ⊢
    generalize opening? other.toList = opened' at hopens ⊢
    cases hopens with
    | none => exact .none
    | some htext => exact .some ⟨rfl, htext⟩

/-- Blanks around lines change neither what doc blocks say nor where they end. -/
theorem scanFrom_reindented {lines others : List String}
    (h : List.Forall₂ Reindented lines others) (position : Nat) (current : Option DocBlock) :
    scanFrom position current lines = scanFrom position current others := by
  -- The induction is on both lists at once. A line leaves the same block open behind it or gives the
  -- same entry, since blanks do not count in its text or behind the end of the block.
  induction h generalizing position current with
  | nil => rfl
  | @cons line other rest others hline _ ih =>
    have hbody := bodyIn_reindented hline current
    rw [scanFrom_cons, scanFrom_cons]
    generalize bodyIn current line = body at hbody ⊢
    generalize bodyIn current other = body' at hbody ⊢
    cases hbody with
    | none => exact ih _ _
    | @some x y hparts =>
      obtain ⟨entry, text⟩ := x
      obtain ⟨entry', text'⟩ := y
      obtain ⟨rfl, htext⟩ := hparts
      have hcut := cutAt_sameInk htext
      dsimp only at htext ⊢
      generalize cutAt endMark text = cut at hcut ⊢
      generalize cutAt endMark text' = cut' at hcut ⊢
      cases hcut with
      | none =>
        rw [noteLine_sameInk htext]
        exact ih _ _
      | @some cutText cutText' hbefore =>
        dsimp only
        rw [noteLine_sameInk hbefore, ih]

end Doc

end CrossRef
