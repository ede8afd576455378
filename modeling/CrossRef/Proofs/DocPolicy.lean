import CrossRef.Proofs.FileGrowth
import CrossRef.Settings.Basic
import Mathlib.Algebra.Order.Group.Unbundled.Int
import Mathlib.Data.List.Induction

namespace CrossRef

/-- The window holds every distance between two lines that is less than the offset. -/
theorem ProcessSettings.lt_window_iff (process : ProcessSettings) {n : Nat}
    (h : n < UInt32.size - 1) :
    n < process.window.toNat ↔ n < process.blindOffset.toInt.natAbs := by
  have hwindow : process.window.toNat = min process.blindOffset.toInt.natAbs (UInt32.size - 1) := by
    rw [window, UInt32.toNat_ofNat_of_lt']
    have hsize : 0 < UInt32.size := by decide
    omega
  omega

namespace Doc

/-- The policy for one block, over numbers of any size: the block documents a declaration that it is
about, and one that it lies behind or before by fewer lines than the offset has. -/
def Documents (offset : Int) (kind : Kind) (name : String) (line : Int) (doc : DocBlock) : Prop :=
  let distance := (doc.line.toNat : Int) - line
  (doc.kind = some kind ∧ Text.equalIgnoringCase doc.name name = true) ∨
    (0 < distance ∧ distance < |offset|) ∨ (-|offset| < distance ∧ distance < 0)

instance (offset : Int) (kind : Kind) (name : String) (line : Int) :
    DecidablePred (Documents offset kind name line) := fun _ =>
  inferInstanceAs (Decidable (_ ∨ _))

/-- Goes over the blocks in their order and keeps the last that meets a condition. -/
def lastThat (p : DocBlock → Prop) [DecidablePred p] (docs : List DocBlock) : Option DocBlock :=
  docs.foldl (fun kept doc => if p doc then some doc else kept) none

theorem lastThat_concat (p : DocBlock → Prop) [DecidablePred p] (docs : List DocBlock)
    (doc : DocBlock) :
    lastThat p (docs ++ [doc]) = if p doc then some doc else lastThat p docs := by
  rw [lastThat, List.foldl_append]
  rfl

theorem isNear_iff (process : ProcessSettings) {line : UInt32} {doc : DocBlock}
    (hline : 0 < line) (hdoc : 0 < doc.line) :
    isNear process.window line doc = true ↔
      (0 < distance doc line ∧ distance doc line < |process.blindOffset.toInt|) ∨
        (-|process.blindOffset.toInt| < distance doc line ∧ distance doc line < 0) := by
  have hline' : 0 < line.toNat := UInt32.lt_iff_toNat_lt.mp hline
  have hdoc' : 0 < doc.line.toNat := UInt32.lt_iff_toNat_lt.mp hdoc
  have hlineMax := line.toNat_lt_size
  have hdocMax := doc.line.toNat_lt_size
  -- Two lines are never as far apart as the largest window, so its limit is not met.
  have hsmall : (distance doc line).natAbs < UInt32.size - 1 := by
    unfold distance
    omega
  have hwindow := process.lt_window_iff hsmall
  have habs : |process.blindOffset.toInt| = (process.blindOffset.toInt.natAbs : Int) :=
    Int.abs_eq_natAbs _
  rw [isNear, Bool.and_eq_true, decide_eq_true_iff, decide_eq_true_iff, hwindow, habs]
  omega

theorem belongs_iff (process : ProcessSettings) (kind : Kind) (name : String) {line : UInt32}
    {doc : DocBlock} (hline : 0 < line) (hdoc : 0 < doc.line) :
    belongs process.window kind name line doc = true ↔
      Documents process.blindOffset.toInt kind name line.toNat doc := by
  rw [belongs, Bool.or_eq_true, isNear_iff process hline hdoc, DocBlock.isAbout, Bool.and_eq_true,
    beq_iff_eq]
  rfl

section

variable (window : UInt32) (kind : Kind) (name : String) (line : UInt32)

theorem chooseAt?_concat (docs : List DocBlock) (doc : DocBlock) :
    chooseAt? (docs ++ [doc]) window kind name line =
      if belongs window kind name line doc then some (doc, docs.length)
      else chooseAt? docs window kind name line := by
  rw [chooseAt?, List.zipIdx_append, List.zipIdx_singleton, List.reverse_append,
    List.reverse_singleton, List.singleton_append, List.find?_cons, Nat.zero_add]
  dsimp only
  split
  next hbelongs => rw [if_pos hbelongs]
  next hbelongs =>
    rw [hbelongs]
    rfl

end

section

variable {process : ProcessSettings} {kind : Kind} {name : String} {line : UInt32}
  (hline : 0 < line)

include hline

/-- The search from the end finds the block that the policy keeps. -/
theorem choose?_eq_lastThat {docs : List DocBlock} (hdocs : ∀ doc ∈ docs, 0 < doc.line) :
    choose? docs process.window kind name line =
      lastThat (Documents process.blindOffset.toInt kind name line.toNat) docs := by
  induction docs using List.reverseRecOn with
  | nil => rfl
  | append_singleton docs doc ih =>
    obtain ⟨hbefore, hdoc⟩ := List.forall_mem_append.mp hdocs
    have hbelongs := belongs_iff process kind name hline (hdoc doc (List.mem_singleton_self doc))
    have hrest := ih hbefore
    rw [choose?, chooseAt?_concat, lastThat_concat, ← hrest]
    simp only [hbelongs]
    split <;> rfl

/-- The block that is chosen is the last of those the policy allows. -/
theorem chooseAt?_eq_some_iff {docs : List DocBlock} (hdocs : ∀ doc ∈ docs, 0 < doc.line)
    {found : DocBlock} {i : Nat} :
    chooseAt? docs process.window kind name line = some (found, i) ↔
      docs[i]? = some found ∧
        Documents process.blindOffset.toInt kind name line.toNat found ∧
        ∀ (j : Nat) later, i < j → docs[j]? = some later →
          ¬ Documents process.blindOffset.toInt kind name line.toNat later := by
  induction docs using List.reverseRecOn with
  | nil => simp [chooseAt?]
  | append_singleton docs doc ih =>
    obtain ⟨hbefore, hdoc⟩ := List.forall_mem_append.mp hdocs
    have hbelongs := belongs_iff process kind name hline (hdoc doc (List.mem_singleton_self doc))
    rw [chooseAt?_concat]
    by_cases hlast : Documents process.blindOffset.toInt kind name line.toNat doc
    · rw [if_pos (hbelongs.mpr hlast)]
      constructor
      · intro h
        cases h
        refine ⟨List.getElem?_concat_length, hlast, ?_⟩
        intro j later hj hlater
        rcases IndexedFile.getElem?_concat_some.mp hlater with hlater | ⟨rfl, _⟩
        · have := (List.getElem?_eq_some_iff.mp hlater).1
          omega
        · omega
      · rintro ⟨hfound, _, hnone⟩
        rcases IndexedFile.getElem?_concat_some.mp hfound with hfound | ⟨rfl, rfl⟩
        · have hi := (List.getElem?_eq_some_iff.mp hfound).1
          exact absurd hlast (hnone docs.length doc hi List.getElem?_concat_length)
        · rfl
    · rw [if_neg (fun h => hlast (hbelongs.mp h)), ih hbefore]
      constructor
      · rintro ⟨hfound, hmeets, hnone⟩
        refine ⟨IndexedFile.getElem?_concat_some.mpr (Or.inl hfound), hmeets, ?_⟩
        intro j later hj hlater
        rcases IndexedFile.getElem?_concat_some.mp hlater with hlater | ⟨_, rfl⟩
        · exact hnone j later hj hlater
        · exact hlast
      · rintro ⟨hfound, hmeets, hnone⟩
        rcases IndexedFile.getElem?_concat_some.mp hfound with hfound | ⟨_, rfl⟩
        · refine ⟨hfound, hmeets, fun j later hj hlater => ?_⟩
          exact hnone j later hj (IndexedFile.getElem?_concat_some.mpr (Or.inl hlater))
        · exact absurd hmeets hlast

end

/-- For every offset, the block chosen for a declaration is the one that a reading of all blocks in
their order keeps last, and none is chosen only if the policy allows none. -/
theorem choose?_follows_policy (process : ProcessSettings) (kind : Kind) (name : String)
    {line : UInt32} (hline : 0 < line) {docs : List DocBlock} (hdocs : ∀ doc ∈ docs, 0 < doc.line) :
    let policy := Documents process.blindOffset.toInt kind name line.toNat
    choose? docs process.window kind name line = lastThat policy docs ∧
    (choose? docs process.window kind name line = none ↔ ∀ doc ∈ docs, ¬ policy doc) ∧
    ∀ found (i : Nat), chooseAt? docs process.window kind name line = some (found, i) ↔
      docs[i]? = some found ∧ policy found ∧
        ∀ (j : Nat) later, i < j → docs[j]? = some later → ¬ policy later := by
  intro policy
  refine ⟨choose?_eq_lastThat hline hdocs, ?_, fun found i => chooseAt?_eq_some_iff hline hdocs⟩
  rw [choose?, Option.map_eq_none_iff, chooseAt?, List.find?_eq_none]
  constructor
  · intro hnone doc hdoc hpolicy
    obtain ⟨i, hi⟩ := List.mem_iff_getElem?.mp hdoc
    have hmem : (doc, i) ∈ docs.zipIdx.reverse :=
      List.mem_reverse.mpr (List.mem_zipIdx_iff_getElem?.mpr hi)
    exact hnone (doc, i) hmem ((belongs_iff process kind name hline (hdocs doc hdoc)).mpr hpolicy)
  · rintro hnone ⟨doc, i⟩ hmem hbelongs
    have hdoc := List.mem_of_getElem? (List.mem_zipIdx_iff_getElem?.mp (List.mem_reverse.mp hmem))
    exact hnone doc hdoc ((belongs_iff process kind name hline (hdocs doc hdoc)).mp hbelongs)

/-- With the offset of the largest size, a block on the first line documents a declaration on the
last line that can be, while a block that ends on the line of the declaration does not. -/
theorem choose?_follows_policy_farApart :
    let process : ProcessSettings := ⟨Int64.minValue, true⟩
    let far : DocBlock := ⟨1, "", none, "far", []⟩
    let beside : DocBlock := ⟨4294967295, "w", some .view, "beside", []⟩
    let policy := Documents (-9223372036854775808) .view "v" 4294967295
    process.window = 4294967295 ∧ policy far ∧ ¬ policy beside ∧
      choose? [far, beside] process.window .view "v" 4294967295 = lastThat policy [far, beside] ∧
      choose? [far, beside] process.window .view "v" 4294967295 = some far ∧
      chooseAt? [far, beside] process.window .view "v" 4294967295 = some (far, 0) := by
  intro process far beside policy
  have hdocs : ∀ doc ∈ [far, beside], 0 < doc.line := by decide
  have hline : (0 : UInt32) < 4294967295 := by decide
  obtain ⟨hkept, _, hlast⟩ := choose?_follows_policy process .view "v" hline hdocs
  have hfar : policy far := by decide
  have hbeside : ¬ policy beside := by decide
  refine ⟨by decide, hfar, hbeside, hkept, hkept.trans (by decide), ?_⟩
  refine (hlast far 0).mpr ⟨rfl, hfar, ?_⟩
  intro j later hj hlater
  match j with
  | 0 => omega
  | 1 => exact Option.some.inj hlater ▸ hbeside
  | j + 2 => cases hlater

end Doc

end CrossRef
