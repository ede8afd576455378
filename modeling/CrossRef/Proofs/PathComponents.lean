import CrossRef.Path
import CrossRef.Proofs.RawTexts
import Mathlib.Data.List.DropRight

namespace CrossRef.Path

/-- The names among segments that stand behind the first. -/
def named (parts : List (List UInt8)) : List RawText :=
  (parts.filter (!isVoid ·)).map RawText.mk

/-- The components by the first segment and the names behind it. -/
def componentsOf (head : List UInt8) (rest : List (List UInt8)) : List RawText :=
  if head = [] then (if rest = [] then [] else ⟨[slash]⟩ :: named rest)
  else RawText.mk head :: named rest

theorem components_of_segments {path : RawText} {head : List UInt8} {rest : List (List UInt8)}
    (h : segments path = head :: rest) : components path = componentsOf head rest := by
  unfold components componentsOf
  rw [h]
  cases head with
  | nil =>
    cases rest with
    | nil => rfl
    | cons part rest => rfl
  | cons c head => rfl

theorem exists_segments (path : RawText) : ∃ head rest, segments path = head :: rest :=
  List.exists_cons_of_ne_nil (List.splitOn_ne_nil slash path.bytes)

/-- No segment holds a slash. -/
theorem slash_not_mem (path : RawText) {part : List UInt8} (h : part ∈ segments path) :
    slash ∉ part :=
  Text.not_mem_of_mem_splitOn h

/-- Segments without slashes are the segments of the path they make. -/
theorem segments_ofSegments {parts : List (List UInt8)} (hsome : parts ≠ [])
    (h : ∀ part ∈ parts, slash ∉ part) : segments (ofSegments parts) = parts := by
  rw [segments, ofSegments, List.splitOn_intercalate slash h hsome]

theorem named_cons_void {part : List UInt8} (h : isVoid part) (parts : List (List UInt8)) :
    named (part :: parts) = named parts := by
  simp [named, h]

theorem named_cons {part : List UInt8} (h : isVoid part = false) (parts : List (List UInt8)) :
    named (part :: parts) = RawText.mk part :: named parts := by
  simp [named, h]

theorem named_reverse (parts : List (List UInt8)) :
    named parts.reverse = (named parts).reverse := by
  simp [named, List.filter_reverse]

theorem named_dropWhile (parts : List (List UInt8)) :
    named (parts.dropWhile isVoid) = named parts := by
  induction parts with
  | nil => rfl
  | cons part parts ih =>
    cases hpart : isVoid part with
    | true => rw [List.dropWhile_cons_of_pos hpart, ih, named_cons_void hpart]
    | false => rw [List.dropWhile_cons_of_neg (by simp [hpart])]

theorem named_dropTrailingVoid (parts : List (List UInt8)) :
    named (dropTrailingVoid parts) = named parts := by
  rw [dropTrailingVoid, named_reverse, named_dropWhile, named_reverse, List.reverse_reverse]

theorem named_dropNames (n : Nat) (parts : List (List UInt8)) :
    named (dropNames n parts) = (named parts).drop n := by
  fun_induction dropNames n parts with
  | case1 parts => exact named_dropWhile parts
  | case2 n => rfl
  | case3 n part parts hpart ih => rw [ih, named_cons_void hpart]
  | case4 n part parts hpart ih =>
    rw [ih, named_cons (by simpa using hpart), List.drop_succ_cons]

theorem dropNames_suffix (n : Nat) (parts : List (List UInt8)) : dropNames n parts <:+ parts := by
  fun_induction dropNames n parts with
  | case1 parts => exact List.dropWhile_suffix isVoid
  | case2 n => exact List.nil_suffix
  | case3 n part parts hpart ih => exact ih.trans (List.suffix_cons part parts)
  | case4 n part parts hpart ih => exact ih.trans (List.suffix_cons part parts)

/-- What remains behind some names begins with a name. -/
theorem head_dropNames {n : Nat} {parts rest : List (List UInt8)} {head : List UInt8}
    (h : dropNames n parts = head :: rest) : isVoid head = false := by
  fun_induction dropNames n parts with
  | case1 parts =>
    have hfirst := List.head?_dropWhile_not isVoid parts
    rw [h] at hfirst
    exact hfirst
  | case2 n => cases h
  | case3 n part parts hpart ih => exact ih h
  | case4 n part parts hpart ih => exact ih h

/-- The components of a path that begins with a name are its names. -/
theorem components_ofSegments {parts : List (List UInt8)} (hslash : ∀ part ∈ parts, slash ∉ part)
    (hhead : ∀ head rest, parts = head :: rest → isVoid head = false) :
    components (ofSegments parts) = named parts := by
  cases parts with
  | nil => rfl
  | cons head rest =>
    have hname := hhead head rest rfl
    have hsome : head ≠ [] := by
      rintro rfl
      cases hname
    rw [components_of_segments (segments_ofSegments (List.cons_ne_nil _ _) hslash), componentsOf,
      if_neg hsome, named_cons hname]

theorem isPrefix_dropTrailingVoid (parts : List (List UInt8)) : dropTrailingVoid parts <+: parts :=
  List.rdropWhile_prefix isVoid parts

theorem components_withoutTail (path : RawText) :
    components (withoutTail path) = components path := by
  obtain ⟨head, rest, hpath⟩ := exists_segments path
  have hslash : ∀ part ∈ head :: dropTrailingVoid rest, slash ∉ part := by
    intro part hpart
    apply slash_not_mem path
    rw [hpath]
    rcases List.mem_cons.mp hpart with rfl | hpart
    · exact List.mem_cons_self
    · exact List.mem_cons_of_mem head ((isPrefix_dropTrailingVoid rest).subset hpart)
  rw [components_of_segments hpath]
  unfold withoutTail
  rw [hpath]
  dsimp only
  split
  next honly =>
    simp only [Bool.and_eq_true, List.isEmpty_iff, Bool.not_eq_true', List.isEmpty_eq_false_iff]
      at honly
    obtain ⟨⟨hhead, hkept⟩, hrest⟩ := honly
    have hnone : named rest = [] := by rw [← named_dropTrailingVoid, hkept]; rfl
    rw [componentsOf, if_pos hhead, if_neg hrest, hnone]
    rfl
  next hmore =>
    rw [components_of_segments (segments_ofSegments (List.cons_ne_nil _ _) hslash), componentsOf,
      componentsOf, named_dropTrailingVoid]
    by_cases hhead : head = []
    · have hkept : dropTrailingVoid rest = [] ↔ rest = [] := by
        constructor
        · intro hkept
          simpa [hhead, hkept] using hmore
        · rintro rfl
          rfl
      simp only [hkept]
    · rw [if_neg hhead, if_neg hhead]

/-- What remains of a path behind the first names has the other names. -/
theorem components_behind {path : RawText} {head : List UInt8} {rest : List (List UInt8)}
    (hpath : segments path = head :: rest) (n : Nat) :
    components (ofSegments (dropTrailingVoid (dropNames n rest))) = (named rest).drop n := by
  have hkept := isPrefix_dropTrailingVoid (dropNames n rest)
  have hslash : ∀ part ∈ dropTrailingVoid (dropNames n rest), slash ∉ part := by
    intro part hpart
    apply slash_not_mem path
    rw [hpath]
    exact List.mem_cons_of_mem head ((dropNames_suffix n rest).subset (hkept.subset hpart))
  have hhead : ∀ first more, dropTrailingVoid (dropNames n rest) = first :: more →
      isVoid first = false := by
    intro first more heq
    obtain ⟨dropped, hdropped⟩ := hkept
    rw [heq] at hdropped
    exact head_dropNames hdropped.symm
  rw [components_ofSegments hslash hhead, named_dropTrailingVoid, named_dropNames]

/-- A path with any components has a first one, and behind it the names of its other segments. -/
theorem exists_components {path : RawText} {head : List UInt8} {rest : List (List UInt8)}
    (hpath : segments path = head :: rest) (hsome : components path ≠ []) :
    ∃ first, components path = first :: named rest := by
  rw [components_of_segments hpath, componentsOf] at hsome ⊢
  split
  next hempty =>
    split
    next hnone => exact absurd (by rw [if_pos hempty, if_pos hnone]) hsome
    next => exact ⟨⟨[slash]⟩, rfl⟩
  next => exact ⟨RawText.mk head, rfl⟩

/-- A root followed by what remains behind it of a path leads where the path leads. -/
theorem exists_stripRoot? {root path : RawText} (h : components root <+: components path) :
    ∃ rest, stripRoot? root path = some rest ∧
      components root ++ components rest = components path := by
  obtain ⟨head, rest, hpath⟩ := exists_segments path
  cases hroot : components root with
  | nil =>
    refine ⟨withoutTail path, by simp [stripRoot?, hroot], ?_⟩
    rw [components_withoutTail, List.nil_append]
  | cons name names =>
    rw [hroot] at h
    refine ⟨ofSegments (dropTrailingVoid (dropNames names.length rest)), ?_, ?_⟩
    · simp [stripRoot?, hroot, hpath, List.isPrefixOf_iff_prefix.mpr h]
    have hsome : components path ≠ [] := by
      intro hnone
      rw [hnone] at h
      exact List.cons_ne_nil name names (List.prefix_nil.mp h)
    obtain ⟨first, hall⟩ := exists_components hpath hsome
    rw [hall] at h
    obtain ⟨behind, heq⟩ := h
    have hnames : names ++ behind = named rest := (List.cons.inj heq).2
    rw [components_behind hpath, hall, ← heq, ← hnames, List.drop_left]

theorem stripRoot?_eq_none {root path : RawText} (h : ¬ components root <+: components path) :
    stripRoot? root path = none := by
  have hroot : components root ≠ [] := by
    intro hnone
    exact h (by rw [hnone]; exact List.nil_prefix)
  unfold stripRoot?
  split
  next hnone => exact absurd hnone hroot
  next => rw [if_neg fun hprefix => h (List.isPrefixOf_iff_prefix.mp hprefix)]

/-- A text parted at its slashes leaves texts, -/
theorem isText_of_mem_segments {path : RawText} (hpath : path.IsText) {part : List UInt8}
    (h : part ∈ segments path) : (RawText.mk part).IsText := by
  rw [hpath, segments, RawText.ofText, show slash = UInt8.ofNat '/'.toNat from rfl,
    Text.splitOn_encode (by decide)] at h
  obtain ⟨chars, _, rfl⟩ := List.mem_map.mp h
  exact RawText.isText_ofText (String.ofList chars)

/-- and texts joined with slashes are one. -/
theorem isText_ofSegments {parts : List (List UInt8)}
    (h : ∀ part ∈ parts, (RawText.mk part).IsText) : (ofSegments parts).IsText := by
  induction parts with
  | nil => decide
  | cons part rest ih =>
    obtain ⟨hpart, hrest⟩ := List.forall_mem_cons.mp h
    cases rest with
    | nil => rwa [ofSegments, List.intercalate_singleton]
    | cons next more =>
      have hmark : (RawText.mk [slash]).IsText := by decide
      rw [ofSegments, List.intercalate_cons_cons]
      exact (hpart.append hmark).append (ih hrest)

/-- What remains behind a root of a path that is a text is a text. -/
theorem isText_stripRoot? {root path rest : RawText} (hpath : path.IsText)
    (h : stripRoot? root path = some rest) : rest.IsText := by
  obtain ⟨head, parts, hsegments⟩ := exists_segments path
  have hall : ∀ part ∈ head :: parts, (RawText.mk part).IsText := by
    rw [← hsegments]
    exact fun part => isText_of_mem_segments hpath
  obtain ⟨hhead, hparts⟩ := List.forall_mem_cons.mp hall
  unfold stripRoot? at h
  rw [hsegments] at h
  split at h
  next =>
    cases h
    unfold withoutTail
    rw [hsegments]
    dsimp only
    split
    next => decide
    next =>
      apply isText_ofSegments
      refine List.forall_mem_cons.mpr ⟨hhead, fun part hpart => hparts part ?_⟩
      exact (isPrefix_dropTrailingVoid parts).subset hpart
  next names _ =>
    split at h
    next =>
      cases h
      refine isText_ofSegments fun part hpart => hparts part ?_
      exact (dropNames_suffix _ parts).subset ((isPrefix_dropTrailingVoid _).subset hpart)
    next => cases h

/-- A root followed by what is seen of a path below it leads where the path leads. -/
theorem components_relative {root : RawText} {path : String}
    (h : components root <+: components path) :
    components root ++ components (relative root path) = components path := by
  obtain ⟨rest, hrest, hcomponents⟩ := exists_stripRoot? h
  have htext := isText_stripRoot? (RawText.isText_ofText path) hrest
  rw [relative, hrest, Option.getD_some, ← htext, hcomponents]

theorem relative_elsewhere {root : RawText} {path : String}
    (h : ¬ components root <+: components path) : relative root path = path := by
  rw [relative, stripRoot?_eq_none h, Option.getD_none, RawText.text_ofText]

/-- What a segment is shown as, as a segment. -/
def shownSegment (part : List UInt8) : List UInt8 :=
  (RawText.ofText (RawText.mk part).text).bytes

/-- The segments of what a path is shown as are shown as the segments of the path. -/
theorem segments_text (path : RawText) :
    segments path.text = (segments path).map shownSegment := by
  have hslash : slash = UInt8.ofNat '/'.toNat := rfl
  rw [segments, segments, RawText.ofText, hslash, Text.splitOn_encode (by decide), RawText.text,
    String.toList_ofList, Text.splitOn_decodeLossy (by decide) (by decide), List.map_map]
  rfl

theorem decodeLossy_shownSegment (part : List UInt8) :
    Text.decodeLossy (shownSegment part) = Text.decodeLossy part := by
  rw [shownSegment, RawText.ofText, Text.decodeLossy_encode, RawText.text, String.toList_ofList]

theorem shownSegment_eq_nil_iff {part : List UInt8} : shownSegment part = [] ↔ part = [] := by
  rw [← Text.decodeLossy_eq_nil_iff, decodeLossy_shownSegment, Text.decodeLossy_eq_nil_iff]

/-- A segment names nothing if and only if what it is shown as names nothing. -/
theorem isVoid_shownSegment (part : List UInt8) : isVoid (shownSegment part) = isVoid part := by
  have hdot (bytes : List UInt8) : bytes = [dot] ↔ Text.decodeLossy bytes = ['.'] :=
    (Text.decodeLossy_eq_singleton_iff (c := '.') (by decide) (by decide)).symm
  rw [Bool.eq_iff_iff]
  simp [isVoid, hdot, decodeLossy_shownSegment, shownSegment_eq_nil_iff]

theorem named_shownSegment (parts : List (List UInt8)) :
    named (parts.map shownSegment) = (named parts).map fun name => RawText.ofText name.text := by
  have hvoid : ((!isVoid ·) ∘ shownSegment) = (!isVoid ·) := by
    funext part
    rw [Function.comp_apply, isVoid_shownSegment]
  rw [named, named, List.filter_map, hvoid, List.map_map, List.map_map]
  rfl

/-- The components of what a path is shown as are shown as the components of the path. -/
theorem components_text (path : RawText) :
    components path.text = (components path).map fun name => RawText.ofText name.text := by
  obtain ⟨head, rest, hpath⟩ := exists_segments path
  have htext : segments path.text = shownSegment head :: rest.map shownSegment := by
    rw [segments_text, hpath]
    rfl
  rw [components_of_segments hpath, components_of_segments htext]
  simp only [componentsOf, named_shownSegment, shownSegment_eq_nil_iff, List.map_eq_nil_iff]
  split
  next =>
    split
    next => rfl
    next =>
      rw [List.map_cons]
      congr 1
  next => rfl

theorem isText_of_mem_components {path : String} {name : RawText}
    (h : name ∈ components path) : name.IsText := by
  have hown := components_text path
  rw [RawText.text_ofText] at hown
  rw [hown] at h
  obtain ⟨_, _, rfl⟩ := List.mem_map.mp h
  exact RawText.isText_ofText _

/-- A path below a root whose names are texts is shown as a path below the root. -/
theorem components_prefix_text {root path : RawText}
    (hroot : ∀ name ∈ components root, name.IsText) (h : components root <+: components path) :
    components root <+: components path.text := by
  have hshown := h.map fun name => RawText.ofText name.text
  have hsame : (components root).map (fun name => RawText.ofText name.text) = components root :=
    (List.map_congr_left fun name hname => (hroot name hname).symm).trans (List.map_id' _)
  rwa [← components_text path, hsame] at hshown

end CrossRef.Path
