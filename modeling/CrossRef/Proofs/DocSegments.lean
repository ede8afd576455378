import CrossRef.Proofs.ShiftedLines

namespace CrossRef

namespace Text

theorem cutAt_eq_none_iff {mark text : List Char} :
    cutAt mark text = none ↔ ¬ mark <:+: text := by
  induction text with
  | nil => simp [cutAt]
  | cons c cs ih =>
    rw [cutAt, List.infix_cons_iff]
    cases hmark : mark.isPrefixOf? (c :: cs) with
    | some rest =>
      have hpart : mark <+: c :: cs := ⟨rest, List.append_eq_of_isPrefixOf?_eq_some hmark⟩
      simp [hpart]
    | none =>
      have hpart : ¬ mark <+: c :: cs := by
        rintro ⟨rest, hrest⟩
        rw [List.isPrefixOf?_eq_some_iff_append_eq.mpr hrest] at hmark
        simp at hmark
      simp [hpart, ih]

/-- A text is cut at the first place where the mark stands. -/
theorem cutAt_eq_some {mark text before after : List Char}
    (h : cutAt mark text = some (before, after)) :
    text = before ++ mark ++ after ∧
      ∀ front back, text = front ++ mark ++ back → before.length ≤ front.length := by
  induction text generalizing before with
  | nil =>
    rw [cutAt] at h
    split at h
    next hempty =>
      cases h
      simp [List.isEmpty_iff.mp hempty]
    next => simp at h
  | cons c cs ih =>
    rw [cutAt] at h
    cases hmark : mark.isPrefixOf? (c :: cs) with
    | some rest =>
      rw [hmark] at h
      cases h
      exact ⟨(List.append_eq_of_isPrefixOf?_eq_some hmark).symm, fun _ _ _ => Nat.zero_le _⟩
    | none =>
      rw [hmark] at h
      obtain ⟨⟨later, rest⟩, hcut, hcons⟩ := Option.map_eq_some_iff.mp h
      cases hcons
      obtain ⟨htext, hfirst⟩ := ih hcut
      refine ⟨by simp [htext], ?_⟩
      intro front back heq
      cases front with
      | nil =>
        have hsome : mark.isPrefixOf? (c :: cs) = some back :=
          List.isPrefixOf?_eq_some_iff_append_eq.mpr heq.symm
        rw [hmark] at hsome
        simp at hsome
      | cons d front =>
        have htail := hfirst front back (List.cons.inj heq).2
        simp only [List.length_cons]
        omega

end Text

namespace Doc

/-- The mark that ends a block. -/
def endMark : List Char :=
  ['*', '/']

/-- A block opens on a line that begins, behind blanks, with its mark and no slash behind that. -/
def IsOpening (line : List Char) : Prop :=
  ['/', '*', '*'] <+: Text.trimStart line ∧ ¬ ['/', '*', '*', '/'] <+: Text.trimStart line

instance (line : List Char) : Decidable (IsOpening line) :=
  inferInstanceAs (Decidable (_ ∧ _))

def lineAt (lines : List String) (position : Nat) : List Char :=
  (lines[position]?.getD "").toList

/-- What a line says in the block that opens at `first`: the line where the block opens says what
follows the mark. -/
def bodyAt (lines : List String) (first position : Nat) : List Char :=
  if position = first then (Text.trimStart (lineAt lines position)).drop 3
  else lineAt lines position

/-- The first position from `start` on that has a property. -/
def IsFirst (p : Nat → Prop) (start position : Nat) : Prop :=
  start ≤ position ∧ p position ∧ ∀ earlier, start ≤ earlier → earlier < position → ¬ p earlier

/-- The positions of the lines on which a block opens and ends. -/
structure Extent where
  first : Nat
  last : Nat
  deriving DecidableEq

/-- What the lines of a block say, its last line up to the mark that ends the block. -/
def Extent.bodies (lines : List String) (extent : Extent) : List (List Char) :=
  (List.range' extent.first (extent.last - extent.first)).map (bodyAt lines extent.first) ++
    ((Text.cutAt endMark (bodyAt lines extent.first extent.last)).map (·.1)).toList

def Extent.entry (lines : List String) (extent : Extent) : DocBlock :=
  { (extent.bodies lines).foldl noteLine .empty with line := lineNumber extent.last }

def OpensAt (lines : List String) (position : Nat) : Prop :=
  IsOpening (lineAt lines position)

def EndsAt (lines : List String) (first position : Nat) : Prop :=
  endMark <:+: bodyAt lines first position

/-- The blocks of the lines from a position on, and whether the last of the lines stand in a block
that does not end. -/
inductive Segmented (lines : List String) : Nat → List Extent → Bool → Prop
  | plain {position : Nat} : (∀ k, position ≤ k → ¬ OpensAt lines k) →
      Segmented lines position [] false
  | unclosed {position first : Nat} : IsFirst (OpensAt lines) position first →
      (∀ k, first ≤ k → ¬ EndsAt lines first k) → Segmented lines position [] true
  | block {position first last : Nat} {blocks : List Extent} {unclosed : Bool} :
      IsFirst (OpensAt lines) position first → IsFirst (EndsAt lines first) first last →
      Segmented lines (last + 1) blocks unclosed →
      Segmented lines position (⟨first, last⟩ :: blocks) unclosed

theorem IsFirst.unique {p : Nat → Prop} {start a b : Nat} (ha : IsFirst p start a)
    (hb : IsFirst p start b) : a = b := by
  obtain ⟨hsa, hpa, hbefore⟩ := ha
  obtain ⟨hsb, hpb, hbefore'⟩ := hb
  rcases Nat.lt_trichotomy a b with h | h | h
  · exact absurd hpa (hbefore' a hsa h)
  · exact h
  · exact absurd hpb (hbefore b hsb h)

theorem IsFirst.before {p : Nat → Prop} {start position : Nat} (h : IsFirst p (start + 1) position)
    (hstart : ¬ p start) : IsFirst p start position := by
  obtain ⟨hle, hp, hbefore⟩ := h
  refine ⟨by omega, hp, ?_⟩
  intro earlier hse hlt
  rcases Nat.eq_or_lt_of_le hse with rfl | hlater
  · exact hstart
  · exact hbefore earlier hlater hlt

namespace Segmented

variable {lines : List String} {position : Nat} {blocks : List Extent} {unclosed : Bool}

theorem before (h : Segmented lines (position + 1) blocks unclosed)
    (hplain : ¬ OpensAt lines position) : Segmented lines position blocks unclosed := by
  cases h with
  | plain hnone =>
    refine .plain ?_
    intro k hk
    rcases Nat.eq_or_lt_of_le hk with rfl | hlater
    · exact hplain
    · exact hnone k hlater
  | unclosed hfirst hopen => exact .unclosed (hfirst.before hplain) hopen
  | block hfirst hlast hrest => exact .block (hfirst.before hplain) hlast hrest

/-- The blocks of a list of lines are determined by the lines. -/
theorem unique {found : List Extent} {ending : Bool} (h : Segmented lines position blocks unclosed)
    (hfound : Segmented lines position found ending) : found = blocks ∧ ending = unclosed := by
  induction h generalizing found with
  | plain hnone =>
    cases hfound with
    | plain => exact ⟨rfl, rfl⟩
    | unclosed hfirst => exact absurd hfirst.2.1 (hnone _ hfirst.1)
    | block hfirst => exact absurd hfirst.2.1 (hnone _ hfirst.1)
  | unclosed hfirst hopen =>
    cases hfound with
    | plain hnone => exact absurd hfirst.2.1 (hnone _ hfirst.1)
    | unclosed => exact ⟨rfl, rfl⟩
    | block hfirst' hlast =>
      cases hfirst.unique hfirst'
      exact absurd hlast.2.1 (hopen _ hlast.1)
  | block hfirst hlast hrest ih =>
    cases hfound with
    | plain hnone => exact absurd hfirst.2.1 (hnone _ hfirst.1)
    | unclosed hfirst' hopen =>
      cases hfirst.unique hfirst'
      exact absurd hlast.2.1 (hopen _ hlast.1)
    | block hfirst' hlast' hrest' =>
      cases hfirst.unique hfirst'
      cases hlast.unique hlast'
      obtain ⟨rfl, rfl⟩ := ih hrest'
      exact ⟨rfl, rfl⟩

end Segmented

theorem opening?_eq_ite (line : List Char) :
    opening? line = if IsOpening line then some ((Text.trimStart line).drop 3) else none := by
  rw [opening?]
  cases hmark : ['/', '*', '*'].isPrefixOf? (Text.trimStart line) with
  | none =>
    have hplain : ¬ IsOpening line := by
      rintro ⟨⟨rest, hrest⟩, _⟩
      rw [List.isPrefixOf?_eq_some_iff_append_eq.mpr hrest] at hmark
      simp at hmark
    rw [if_neg hplain]
    rfl
  | some rest =>
    have hline : '/' :: '*' :: '*' :: rest = Text.trimStart line :=
      List.append_eq_of_isPrefixOf?_eq_some hmark
    have hopens : IsOpening line ↔ rest.head? ≠ some '/' := by
      rw [IsOpening, ← hline]
      cases rest <;> simp [eq_comm]
    by_cases hslash : rest.head? = some '/'
    · rw [if_neg (by simp [hopens, hslash])]
      simp [hslash]
    · rw [if_pos (by simp [hopens, hslash]), ← hline]
      simp [hslash]

theorem not_opensAt {lines : List String} {position : Nat} (h : lines.length ≤ position) :
    ¬ OpensAt lines position := by
  rw [OpensAt, lineAt, List.getElem?_eq_none h]
  decide

theorem not_endsAt {lines : List String} {position : Nat} (h : lines.length ≤ position)
    (first : Nat) : ¬ EndsAt lines first position := by
  have hbody : bodyAt lines first position = [] := by
    rw [bodyAt, lineAt, List.getElem?_eq_none h]
    split <;> rfl
  rw [EndsAt, hbody]
  decide

/-- The block that a line stands in, if it stands in one, and what it says there. -/
def bodyIn (current : Option DocBlock) (line : String) : Option (DocBlock × List Char) :=
  match current with
  | some entry => some (entry, line.toList)
  | none => (opening? line.toList).map fun text => (DocBlock.empty, text)

/-- The block that is open behind a line. -/
def openAfterLine (current : Option DocBlock) (line : String) : Option DocBlock :=
  match bodyIn current line with
  | none => none
  | some (entry, text) =>
    match Text.cutAt endMark text with
    | some _ => none
    | none => some (noteLine entry text)

theorem scanFrom_cons (position : Nat) (current : Option DocBlock) (line : String)
    (rest : List String) :
    scanFrom position current (line :: rest) =
      match bodyIn current line with
      | none => scanFrom (position + 1) none rest
      | some (entry, text) =>
        match Text.cutAt endMark text with
        | some (before, _) =>
          { noteLine entry before with line := lineNumber position } ::
            scanFrom (position + 1) none rest
        | none => scanFrom (position + 1) (some (noteLine entry text)) rest := rfl

theorem scanFrom_append (position : Nat) (current : Option DocBlock) (front back : List String) :
    scanFrom position current (front ++ back) = scanFrom position current front ++
      scanFrom (position + front.length) (front.foldl openAfterLine current) back := by
  induction front generalizing position current with
  | nil => rfl
  | cons line rest ih =>
    have hlength : position + (line :: rest).length = position + 1 + rest.length := by
      simp only [List.length_cons]
      omega
    rw [List.cons_append, scanFrom_cons, scanFrom_cons, List.foldl_cons, hlength, openAfterLine]
    cases bodyIn current line with
    | none => exact ih _ _
    | some body =>
      obtain ⟨entry, text⟩ := body
      dsimp only
      cases Text.cutAt endMark text with
      | some parts => simp [ih]
      | none => exact ih _ _

/-- The entry of the block that opens at `first` before the line at a position is read. -/
def openEntry (lines : List String) (first position : Nat) : DocBlock :=
  ((List.range' first (position - first)).map (bodyAt lines first)).foldl noteLine .empty

theorem openEntry_self (lines : List String) (first : Nat) :
    openEntry lines first first = .empty := by
  simp [openEntry]

theorem openEntry_succ (lines : List String) {first position : Nat} (h : first ≤ position) :
    openEntry lines first (position + 1) =
      noteLine (openEntry lines first position) (bodyAt lines first position) := by
  have hlength : position + 1 - first = position - first + 1 := by omega
  have hlast : first + (position - first) = position := by omega
  rw [openEntry, hlength, List.range'_1_concat, hlast, List.map_append, List.foldl_append]
  rfl

theorem entry_of_cutAt {lines : List String} {extent : Extent} {before after : List Char}
    (h : Text.cutAt endMark (bodyAt lines extent.first extent.last) = some (before, after)) :
    extent.entry lines = { noteLine (openEntry lines extent.first extent.last) before with
      line := lineNumber extent.last } := by
  rw [Extent.entry, Extent.bodies, h, List.foldl_append]
  rfl

/-- From a position on, inside the block `current` if there is one, the lines give these blocks,
and there is or is not a block that does not end. -/
def Scans (lines : List String) (position : Nat) (current : Option DocBlock)
    (blocks : List Extent) (unclosed : Bool) : Prop :=
  scanFrom position current (lines.drop position) = blocks.map (Extent.entry lines) ∧
    ((lines.drop position).foldl openAfterLine current).isSome = unclosed

section

variable {lines : List String} {position : Nat} {current : Option DocBlock}
  {blocks : List Extent} {unclosed : Bool} {line : String}
  (hline : lines[position]? = some line)

include hline

theorem drop_eq_cons : lines.drop position = line :: lines.drop (position + 1) := by
  obtain ⟨hlt, rfl⟩ := List.getElem?_eq_some_iff.mp hline
  exact List.drop_eq_getElem_cons hlt

theorem Scans.pass (hbody : bodyIn current line = none)
    (h : Scans lines (position + 1) none blocks unclosed) :
    Scans lines position current blocks unclosed := by
  rw [Scans, drop_eq_cons hline, scanFrom_cons, List.foldl_cons, openAfterLine, hbody]
  exact h

variable {entry : DocBlock} {text : List Char} (hbody : bodyIn current line = some (entry, text))

include hbody

theorem Scans.close {extent : Extent} {before after : List Char}
    (hcut : Text.cutAt endMark text = some (before, after))
    (hentry : extent.entry lines = { noteLine entry before with line := lineNumber position })
    (h : Scans lines (position + 1) none blocks unclosed) :
    Scans lines position current (extent :: blocks) unclosed := by
  rw [Scans, drop_eq_cons hline, scanFrom_cons, List.foldl_cons, openAfterLine, hbody]
  dsimp only
  rw [hcut, List.map_cons, hentry, ← h.1]
  exact ⟨rfl, h.2⟩

theorem Scans.goOn (hcut : Text.cutAt endMark text = none)
    (h : Scans lines (position + 1) (some (noteLine entry text)) blocks unclosed) :
    Scans lines position current blocks unclosed := by
  rw [Scans, drop_eq_cons hline, scanFrom_cons, List.foldl_cons, openAfterLine, hbody]
  dsimp only
  rw [hcut]
  exact h

end

theorem endsAt_of_cutAt {lines : List String} {first position : Nat}
    {parts : List Char × List Char}
    (h : Text.cutAt endMark (bodyAt lines first position) = some parts) :
    EndsAt lines first position := by
  by_contra hends
  rw [Text.cutAt_eq_none_iff.mpr hends] at h
  simp at h

/-- Reading the lines from a position on follows the blocks. The induction is on the number of
lines that are left; inside a block it carries that the block opened at `first`, that it has not
ended, and that its entry is made of what its lines have said so far. -/
theorem scans_segmented (lines : List String) (position : Nat) :
    (∃ blocks unclosed, Segmented lines position blocks unclosed ∧
      Scans lines position none blocks unclosed) ∧
    ∀ start first, IsFirst (OpensAt lines) start first → first < position →
      (∀ k, first ≤ k → k < position → ¬ EndsAt lines first k) →
      ∃ blocks unclosed, Segmented lines start blocks unclosed ∧
        Scans lines position (some (openEntry lines first position)) blocks unclosed := by
  induction hleft : lines.length - position generalizing position with
  | zero =>
    have hdrop : lines.drop position = [] := List.drop_of_length_le (by omega)
    constructor
    · refine ⟨[], false, .plain fun k hk => not_opensAt (by omega), ?_⟩
      rw [Scans, hdrop]
      exact ⟨rfl, rfl⟩
    · intro start first hfirst _ hopen
      refine ⟨[], true, .unclosed hfirst ?_, ?_⟩
      · intro k hk
        by_cases hlt : k < position
        · exact hopen k hk hlt
        · exact not_endsAt (by omega) first
      · rw [Scans, hdrop]
        exact ⟨rfl, rfl⟩
  | succ left ih =>
    have hlt : position < lines.length := by omega
    obtain ⟨houtside, hinside⟩ := ih (position + 1) (by omega)
    have hline : lines[position]? = some lines[position] := List.getElem?_eq_getElem hlt
    have hat : lineAt lines position = lines[position].toList := by rw [lineAt, hline]; rfl
    -- One line of a block that opened at `first`, which may be the line where it opens.
    have read (start first : Nat) (current : Option DocBlock)
        (hfirst : IsFirst (OpensAt lines) start first) (hle : first ≤ position)
        (hopen : ∀ k, first ≤ k → k < position → ¬ EndsAt lines first k)
        (hbody : bodyIn current lines[position] =
          some (openEntry lines first position, bodyAt lines first position)) :
        ∃ blocks unclosed, Segmented lines start blocks unclosed ∧
          Scans lines position current blocks unclosed := by
      cases hcut : Text.cutAt endMark (bodyAt lines first position) with
      | some parts =>
        obtain ⟨blocks, unclosed, hblocks, hscans⟩ := houtside
        have hlast : IsFirst (EndsAt lines first) first position :=
          ⟨hle, endsAt_of_cutAt hcut, hopen⟩
        have hentry : Extent.entry lines ⟨first, position⟩ = _ := entry_of_cutAt hcut
        exact ⟨_, _, .block hfirst hlast hblocks, hscans.close hline hbody hcut hentry⟩
      | none =>
        have hlater : ∀ k, first ≤ k → k < position + 1 → ¬ EndsAt lines first k := by
          intro k hk hkp
          by_cases hkp : k < position
          · exact hopen k hk hkp
          · cases (by omega : k = position)
            exact Text.cutAt_eq_none_iff.mp hcut
        obtain ⟨blocks, unclosed, hblocks, hscans⟩ := hinside start first hfirst (by omega) hlater
        rw [openEntry_succ lines hle] at hscans
        exact ⟨blocks, unclosed, hblocks, hscans.goOn hline hbody hcut⟩
    constructor
    · by_cases hopens : OpensAt lines position
      · have hfirst : IsFirst (OpensAt lines) position position :=
          ⟨Nat.le_refl _, hopens, fun k hk hkp => by omega⟩
        refine read position position none hfirst (Nat.le_refl _) (fun k hk hkp => by omega) ?_
        rw [OpensAt, hat] at hopens
        rw [bodyIn, opening?_eq_ite, if_pos hopens, openEntry_self, bodyAt, if_pos rfl, hat]
        rfl
      · obtain ⟨blocks, unclosed, hblocks, hscans⟩ := houtside
        refine ⟨blocks, unclosed, hblocks.before hopens, hscans.pass hline ?_⟩
        rw [OpensAt, hat] at hopens
        rw [bodyIn, opening?_eq_ite, if_neg hopens]
        rfl
    · intro start first hfirst hlt' hopen
      refine read start first _ hfirst (by omega) hopen ?_
      rw [bodyIn, bodyAt, if_neg (by omega), hat]

/-- The blocks of a file are those of its lines. -/
theorem scan_eq_of_segmented {lines : List String} {blocks : List Extent} {unclosed : Bool}
    (h : Segmented lines 0 blocks unclosed) :
    scan lines = blocks.map (Extent.entry lines) ∧
      (lines.foldl openAfterLine none).isSome = unclosed := by
  obtain ⟨⟨found, ending, hfound, hscans⟩, _⟩ := scans_segmented lines 0
  obtain ⟨rfl, rfl⟩ := h.unique hfound
  exact hscans

theorem exists_segmented (lines : List String) :
    ∃ blocks unclosed, Segmented lines 0 blocks unclosed :=
  let ⟨blocks, unclosed, h, _⟩ := (scans_segmented lines 0).1
  ⟨blocks, unclosed, h⟩

/-- Behind lines that leave no block open, other lines have the blocks they have alone. -/
theorem scan_append {front back : List String} {blocks : List Extent}
    (h : Segmented front 0 blocks false) :
    scan (front ++ back) = scan front ++ (scan back).map (DocBlock.shift front.length) := by
  have hclosed : front.foldl openAfterLine none = none := by
    simpa using (scan_eq_of_segmented h).2
  rw [scan, scanFrom_append, hclosed, scanFrom_shift]
  rfl

/-- Each block ends on a line behind those of the blocks before it. -/
theorem Segmented.lasts {lines : List String} {position : Nat} {blocks : List Extent}
    {unclosed : Bool} (h : Segmented lines position blocks unclosed) :
    (blocks.Pairwise fun a b => a.last < b.last) ∧
      ∀ block ∈ blocks, position ≤ block.last ∧ block.last < lines.length := by
  induction h with
  | plain => simp
  | unclosed => simp
  | @block position first last blocks unclosed hfirst hlast _ ih =>
    have hlt : last < lines.length := by
      by_contra hle
      exact not_endsAt (by omega) first hlast.2.1
    have hpast : position ≤ last := Nat.le_trans hfirst.1 hlast.1
    refine ⟨List.pairwise_cons.mpr ⟨fun later hl => ?_, ih.1⟩, ?_⟩
    · have hlater := (ih.2 later hl).1
      exact hlater
    · intro block hblock
      rcases List.mem_cons.mp hblock with rfl | hblock
      · exact ⟨hpast, hlt⟩
      · obtain ⟨hlater, hin⟩ := ih.2 block hblock
        exact ⟨by omega, hin⟩

/-- A block says what its lines say; of its last line it has what stands before the first mark that
ends a block. -/
theorem Segmented.bodies {lines : List String} {position : Nat} {blocks : List Extent}
    {unclosed : Bool} (h : Segmented lines position blocks unclosed) {block : Extent}
    (hblock : block ∈ blocks) :
    ∃ before after, bodyAt lines block.first block.last = before ++ endMark ++ after ∧
      (∀ front back, bodyAt lines block.first block.last = front ++ endMark ++ back →
        before.length ≤ front.length) ∧
      block.bodies lines = (List.range' block.first (block.last - block.first)).map
        (bodyAt lines block.first) ++ [before] := by
  induction h with
  | plain => simp at hblock
  | unclosed => simp at hblock
  | @block position first last blocks unclosed hfirst hlast _ ih =>
    rcases List.mem_cons.mp hblock with rfl | hblock
    · cases hcut : Text.cutAt endMark (bodyAt lines first last) with
      | none => exact absurd hlast.2.1 (Text.cutAt_eq_none_iff.mp hcut)
      | some parts =>
        obtain ⟨before, after⟩ := parts
        obtain ⟨hbody, hbefore⟩ := Text.cutAt_eq_some hcut
        exact ⟨before, after, hbody, hbefore, by rw [Extent.bodies, hcut]; rfl⟩
    · exact ih hblock

theorem toNat_line_entry {lines : List String} (hshort : lines.length < UInt32.size)
    {block : Extent} (h : block.last < lines.length) :
    (block.entry lines).line.toNat = block.last + 1 :=
  toNat_lineNumber (by omega)

/-- The blocks of a file are exactly the blocks of its lines, each with the number of the line that
ends it and with what its lines say. A block that does not end says nothing and hides those that
open behind it; lines that leave no block open can be read apart from those behind them. -/
theorem scan_matches_segments (lines : List String) (hshort : lines.length < UInt32.size) :
    (∃ blocks unclosed,
      (∀ found ending, Segmented lines 0 found ending ↔ found = blocks ∧ ending = unclosed) ∧
      scan lines = blocks.map (Extent.entry lines) ∧
      ∀ block ∈ blocks, (block.entry lines).line.toNat = block.last + 1 ∧
        ∃ before after, bodyAt lines block.first block.last = before ++ endMark ++ after ∧
          (∀ front back, bodyAt lines block.first block.last = front ++ endMark ++ back →
            before.length ≤ front.length) ∧
          block.bodies lines = (List.range' block.first (block.last - block.first)).map
            (bodyAt lines block.first) ++ [before]) ∧
    (scan lines).Pairwise (fun a b => a.line < b.line) ∧
    (∀ front opener back blocks, lines = front ++ opener :: back →
      Segmented front 0 blocks false → IsOpening opener.toList →
      (∀ k, ¬ EndsAt (opener :: back) 0 k) → scan lines = scan front) ∧
    ∀ front back blocks, lines = front ++ back → Segmented front 0 blocks false →
      scan lines = scan front ++ (scan back).map (DocBlock.shift front.length) ∧
      ∀ doc ∈ scan back, (doc.shift front.length).line.toNat = doc.line.toNat + front.length := by
  obtain ⟨blocks, unclosed, hblocks⟩ := exists_segmented lines
  have hscan := (scan_eq_of_segmented hblocks).1
  obtain ⟨hlasts, hwithin⟩ := hblocks.lasts
  refine ⟨⟨blocks, unclosed, ?_, hscan, ?_⟩, ?_, ?_, ?_⟩
  · intro found ending
    exact ⟨hblocks.unique, fun ⟨hfound, hending⟩ => hfound ▸ hending ▸ hblocks⟩
  · intro block hblock
    exact ⟨toNat_line_entry hshort (hwithin block hblock).2, hblocks.bodies hblock⟩
  · rw [hscan, List.pairwise_map]
    refine hlasts.imp_of_mem ?_
    intro a b ha hb hab
    rw [UInt32.lt_iff_toNat_lt, toNat_line_entry hshort (hwithin a ha).2,
      toNat_line_entry hshort (hwithin b hb).2]
    omega
  · rintro front opener back found rfl hfront hopens hopen
    have hfirst : IsFirst (OpensAt (opener :: back)) 0 0 :=
      ⟨Nat.le_refl _, hopens, fun k _ hk => by omega⟩
    have hnone := (scan_eq_of_segmented (.unclosed hfirst fun k _ => hopen k)).1
    rw [scan_append hfront, hnone]
    simp
  · rintro front back found rfl hfront
    refine ⟨scan_append hfront, ?_⟩
    intro doc hdoc
    obtain ⟨p, hp, hline⟩ := line_of_mem_scanFrom hdoc
    rw [List.length_append] at hshort
    have hnumber : doc.line.toNat = p + 1 := hline ▸ toNat_lineNumber (by omega)
    exact toNat_shiftLine (by omega)

/-- A comment that is closed at once, a block of two lines, and one that does not end. -/
theorem scan_matches_segments_beeView :
    let lines := ["/**/", "/** Bee view.", " * @view b */ x", "/** lost", "/** hidden"]
    lines.length < UInt32.size ∧
      ∃ blocks unclosed, Segmented lines 0 blocks unclosed ∧
        scan lines = blocks.map (Extent.entry lines) ∧
        scan lines = [⟨3, "b", some .view, "Bee view.", []⟩] := by
  intro lines
  have hshort : lines.length < UInt32.size := by decide
  obtain ⟨⟨blocks, unclosed, hunique, hscan, _⟩, _⟩ := scan_matches_segments lines hshort
  have hfound : scan lines = [⟨3, "b", some .view, "Bee view.", []⟩] := by decide +kernel
  exact ⟨hshort, blocks, unclosed, (hunique _ _).mpr ⟨rfl, rfl⟩, hscan, hfound⟩

end Doc

end CrossRef
