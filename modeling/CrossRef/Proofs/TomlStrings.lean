import CrossRef.Toml.Printer
import CrossRef.Toml.Scalar
import Mathlib.Data.List.Infix
import Mathlib.Tactic.SplitIfs

namespace CrossRef.Toml

theorem isPlain_of_not_control {c : Char} (hfeed : c ≠ '\n') (h : isControl c = false) :
    isPlain c = true := by
  by_cases htab : c = '\t'
  · simp [isPlain, htab]
  · simp only [isControl, hfeed, htab, Bool.or_eq_false_iff, Bool.and_eq_false_iff,
      decide_eq_false_iff_not, ne_eq, not_false_eq_true, decide_true, Bool.true_eq_false,
      or_false] at h
    simp only [isPlain, htab, decide_false, Bool.false_or, Bool.and_eq_true, decide_eq_true_eq,
      ne_eq, decide_not, Bool.not_eq_true', decide_eq_false_iff_not]
    omega

theorem charOfHex?_control : ∀ n < 0x80,
    charOfHex? ['0', '0', upperHexDigit (n / 16), upperHexDigit (n % 16)] =
      some (Char.ofNat n) := by
  decide +kernel

/-- A reader that takes each escape for the character it stands for. -/
structure TakesEscapes (read : List Char → Option (List Char × List Char)) : Prop where
  short : ∀ {c d : Char}, unescape? c = some d → ∀ rest,
    read ('\\' :: c :: rest) = consTo (some d) (read rest)
  code : ∀ a b c d rest,
    read ('\\' :: 'u' :: a :: b :: c :: d :: rest) = consTo (charOfHex? [a, b, c, d]) (read rest)

theorem TakesEscapes.control {read : List Char → Option (List Char × List Char)}
    (h : TakesEscapes read) {c : Char} (hc : c.toNat < 0x80) (rest : List Char) :
    read (escapeControl c ++ rest) = consTo (some c) (read rest) := by
  have ofCode {n : Nat} (hn : c.toNat = n) : c = Char.ofNat n := by rw [← hn, Char.ofNat_toNat]
  unfold escapeControl
  split_ifs with hback htab hfeed hform hreturn
  · rw [ofCode hback]
    exact h.short rfl rest
  · rw [htab]
    exact h.short rfl rest
  · rw [hfeed]
    exact h.short rfl rest
  · rw [ofCode hform]
    exact h.short rfl rest
  · rw [hreturn]
    exact h.short rfl rest
  · have hcode := h.code '0' '0' (upperHexDigit (c.toNat / 16)) (upperHexDigit (c.toNat % 16)) rest
    rwa [charOfHex?_control c.toNat hc, Char.ofNat_toNat] at hcode

theorem unescape?_ne {c d : Char} (h : unescape? c = some d) :
    c ≠ 'u' ∧ c ≠ 'U' ∧ c ≠ ' ' ∧ c ≠ '\t' ∧ c ≠ '\n' ∧ c ≠ '\r' := by
  refine ⟨?_, ?_, ?_, ?_, ?_, ?_⟩ <;> (rintro rfl; cases h)

theorem takesEscapes_readBasic : TakesEscapes readBasic where
  short := by
    intro c d h rest
    obtain ⟨hu, hU, _⟩ := unescape?_ne h
    rw [readBasic.eq_5, h]
    · exact fun _ _ _ _ _ heq => absurd heq hu
    · exact fun _ _ _ _ _ _ _ _ _ heq => absurd heq hU
  code := fun _ _ _ _ _ => by rw [readBasic]

theorem takesEscapes_readLongBasic : TakesEscapes (readLongBasic false) where
  short := by
    intro c d h rest
    obtain ⟨hu, hU, hblank, htab, hfeed, hreturn⟩ := unescape?_ne h
    have hends : endsLine (c :: rest) = false := by
      have hdrop : (c :: rest).dropWhile (fun c => c = ' ' || c = '\t') = c :: rest :=
        List.dropWhile_cons_of_neg (by simp [hblank, htab])
      rw [endsLine, hdrop]
      split
      next heq => exact absurd (List.cons.inj heq).1 hfeed
      next heq => exact absurd (List.cons.inj heq).1 hreturn
      next => rfl
    rw [readLongBasic.eq_8, h, hends]
    · rfl
    · exact fun _ _ _ _ _ heq => absurd heq hu
    · exact fun _ _ _ _ _ _ _ _ _ heq => absurd heq hU
  code := fun _ _ _ _ _ => by rw [readLongBasic]

theorem readBasic_plain {c : Char} (hquote : c ≠ '"') (hslash : c ≠ '\\')
    (hplain : isPlain c = true) (rest : List Char) :
    readBasic (c :: rest) = consTo (some c) (readBasic rest) := by
  rw [readBasic.eq_6, if_pos hplain]
  · exact hquote
  · exact fun _ _ _ _ _ heq => absurd heq hslash
  · exact fun _ _ _ _ _ _ _ _ _ heq => absurd heq hslash
  · exact fun _ _ heq => absurd heq hslash

theorem ne_return_of_plain {c : Char} (h : isPlain c = true ∨ c = '\n') : c ≠ '\r' := by
  rintro rfl
  rcases h with hplain | hfeed
  · cases hplain
  · cases hfeed

/-- A character that is no end of a long string and no escape stands for itself. -/
theorem readLongBasic_plain {c : Char} {rest : List Char} (hslash : c ≠ '\\')
    (hplain : isPlain c = true ∨ c = '\n') (hquote : c = '"' → ¬ ['"', '"'] <+: rest) :
    readLongBasic false (c :: rest) = consTo (some c) (readLongBasic false rest) := by
  rw [readLongBasic.eq_9, if_neg (by simp), if_pos (by simpa using hplain)]
  · rintro after hc rfl
    exact hquote hc ⟨_, rfl⟩
  · rintro after hc rfl
    exact hquote hc ⟨_, rfl⟩
  · rintro after hc rfl
    exact hquote hc ⟨_, rfl⟩
  · exact fun _ heq => absurd heq (ne_return_of_plain hplain)
  · exact fun _ _ _ _ _ heq => absurd heq hslash
  · exact fun _ _ _ _ _ _ _ _ _ heq => absurd heq hslash
  · exact fun _ _ heq => absurd heq hslash

theorem readLongLiteral_plain {c : Char} {rest : List Char} (hplain : isPlain c = true ∨ c = '\n')
    (hquote : c = '\'' → ¬ ['\'', '\''] <+: rest) :
    readLongLiteral (c :: rest) = consTo (some c) (readLongLiteral rest) := by
  rw [readLongLiteral.eq_6, if_pos (by simpa using hplain)]
  · rintro after hc rfl
    exact hquote hc ⟨_, rfl⟩
  · rintro after hc rfl
    exact hquote hc ⟨_, rfl⟩
  · rintro after hc rfl
    exact hquote hc ⟨_, rfl⟩
  · exact fun _ heq => absurd heq (ne_return_of_plain hplain)

theorem escapeControl_head (c : Char) : ∃ tail, escapeControl c = '\\' :: tail := by
  unfold escapeControl
  split_ifs <;> exact ⟨_, rfl⟩

/-- An escaped text starts with a backslash or with its own first character. -/
theorem escaped_head (long : Bool) (quotes run : Nat) (c : Char) (cs : List Char) :
    ∃ d tail, escaped long quotes run (c :: cs) = d :: tail ∧
      (d = '\\' ∨ (d = c ∧ c ≠ '\r' ∧ (c = '"' → run < quotes))) := by
  obtain ⟨tail, htail⟩ := escapeControl_head c
  rw [escaped]
  split_ifs with hquote hrun hslash hfeed hcontrol
  · exact ⟨_, _, rfl, Or.inr ⟨rfl, by simp [hquote], fun _ => hrun⟩⟩
  · exact ⟨_, _, rfl, Or.inl rfl⟩
  · exact ⟨_, _, rfl, Or.inl rfl⟩
  · obtain ⟨rfl, _⟩ : c = '\n' ∧ long = true := by simpa using hfeed
    exact ⟨_, _, rfl, Or.inr ⟨rfl, by simp, by simp⟩⟩
  · exact ⟨_, _, by rw [htail]; rfl, Or.inl rfl⟩
  · have hreturn : c ≠ '\r' := by
      rintro rfl
      exact hcontrol (by decide)
    exact ⟨_, _, rfl, Or.inr ⟨rfl, hreturn, fun heq => absurd heq hquote⟩⟩

theorem toNat_lt_of_escaped {c : Char} (h : (c = '\t' || c = '\n' || isControl c) = true) :
    c.toNat < 0x80 := by
  rcases (Bool.or_eq_true _ _).mp h with h | h
  · rcases (Bool.or_eq_true _ _).mp h with h | h
    · rw [of_decide_eq_true h]
      decide
    · rw [of_decide_eq_true h]
      decide
  · simp only [isControl, Bool.or_eq_true, Bool.and_eq_true, decide_eq_true_eq] at h
    omega

theorem isPlain_of_not_escaped {c : Char} (h : ¬ (c = '\t' || c = '\n' || isControl c) = true) :
    isPlain c = true := by
  simp only [Bool.or_eq_true, not_or, decide_eq_true_eq, Bool.not_eq_true] at h
  exact isPlain_of_not_control h.1.2 h.2

theorem readBasic_escaped (cs rest : List Char) :
    readBasic (escaped false 0 0 cs ++ '"' :: rest) = some (cs, rest) := by
  induction cs with
  | nil => rfl
  | cons c cs ih =>
    rw [escaped]
    split_ifs with hquote hrun hslash hfeed hcontrol
    · omega
    · rw [hquote, List.cons_append, List.cons_append, takesEscapes_readBasic.short rfl, ih]
      rfl
    · rw [hslash, List.cons_append, List.cons_append, takesEscapes_readBasic.short rfl, ih]
      rfl
    · simp at hfeed
    · rw [List.append_assoc, takesEscapes_readBasic.control (toNat_lt_of_escaped hcontrol), ih]
      rfl
    · rw [List.cons_append, readBasic_plain hquote hslash (isPlain_of_not_escaped hcontrol), ih]
      rfl

/-- Behind a quote no two quotes follow as they are, unless the text ends. -/
theorem not_quotes_of_escaped {run : Nat} {cs : List Char} (hcs : cs ≠ [])
    (hone : cs = ['"'] → 0 < run) (after : List Char) :
    ¬ ['"', '"'] <+: escaped true 2 (run + 1) cs ++ after := by
  obtain ⟨c, cs, rfl⟩ := List.exists_cons_of_ne_nil hcs
  rintro ⟨tail, htail⟩
  obtain ⟨d, others, hd, hhead⟩ := escaped_head true 2 (run + 1) c cs
  rw [hd] at htail
  obtain ⟨rfl, hothers⟩ := List.cons.inj htail
  obtain ⟨rfl, hrun⟩ : '"' = c ∧ run = 0 := by
    rcases hhead with hslash | ⟨hc, _, hrun⟩
    · cases hslash
    · have hlt := hrun hc.symm
      exact ⟨hc, by omega⟩
  subst hrun
  have hothers' : others = escaped true 2 2 cs := by
    rw [escaped, if_pos rfl, if_pos (by omega)] at hd
    exact (List.cons.inj hd).2.symm
  cases cs with
  | nil => exact absurd (hone rfl) (by omega)
  | cons e es =>
    obtain ⟨f, last, hf, hlast⟩ := escaped_head true 2 2 e es
    rw [hothers', hf] at hothers
    obtain ⟨rfl, _⟩ := List.cons.inj hothers
    rcases hlast with hslash | ⟨he, _, hrun⟩
    · cases hslash
    · exact absurd (hrun he.symm) (by omega)

section

variable {rest : List Char} (hends : ∀ after, rest ≠ '"' :: after)

include hends

/-- A long string ends with its first three quotes in a row, or two later if more follow. The cases
of a quote are split by the two characters behind it, which tell whether the string ends there. -/
theorem readLongBasic_escaped (run : Nat) (cs : List Char) :
    readLongBasic false (escaped true 2 run cs ++ '"' :: '"' :: '"' :: rest) = some (cs, rest) := by
  induction cs generalizing run with
  | nil =>
    rw [escaped, List.nil_append, readLongBasic.eq_4]
    · exact fun _ heq => hends _ heq
    · exact fun _ heq => hends _ heq
  | cons c cs ih =>
    rw [escaped]
    split_ifs with hquote hrun hslash hfeed hcontrol
    · subst hquote
      by_cases hnil : cs = []
      · rw [hnil, escaped]
        exact readLongBasic.eq_3 false _ fun _ heq => hends _ heq
      by_cases hone : cs = ['"'] ∧ run = 0
      · rw [hone.1, hone.2]
        rfl
      · have hmore : ¬ ['"', '"'] <+: escaped true 2 (run + 1) cs ++ '"' :: '"' :: '"' :: rest := by
          refine not_quotes_of_escaped hnil (fun heq => ?_) _
          by_contra hzero
          exact hone ⟨heq, by omega⟩
        rw [List.cons_append,
          readLongBasic_plain (by decide) (Or.inl (by decide)) fun _ => hmore, ih]
        rfl
    · rw [hquote, List.cons_append, List.cons_append, takesEscapes_readLongBasic.short rfl, ih]
      rfl
    · rw [hslash, List.cons_append, List.cons_append, takesEscapes_readLongBasic.short rfl, ih]
      rfl
    · obtain ⟨hfeed, _⟩ : c = '\n' ∧ True := by simpa using hfeed
      rw [List.cons_append, readLongBasic_plain hslash (Or.inr hfeed) fun heq => absurd heq hquote,
        ih]
      rfl
    · rw [List.append_assoc, takesEscapes_readLongBasic.control (toNat_lt_of_escaped hcontrol), ih]
      rfl
    · rw [List.cons_append, readLongBasic_plain hslash (Or.inl (isPlain_of_not_escaped hcontrol))
        fun heq => absurd heq hquote, ih]
      rfl

end

/-- Counts on from a run of a character and the longest one so far. -/
def runStep (c : Char) (state : Nat × Nat) (d : Char) : Nat × Nat :=
  if d = c then (state.1 + 1, max state.2 (state.1 + 1)) else (0, state.2)

theorem le_foldl_runStep (c : Char) (cs : List Char) (state : Nat × Nat) :
    state.2 ≤ (cs.foldl (runStep c) state).2 := by
  induction cs generalizing state with
  | nil => exact Nat.le_refl _
  | cons d cs ih =>
    have hstep : state.2 ≤ (runStep c state d).2 := by
      unfold runStep
      split
      next => exact Nat.le_max_left ..
      next => exact Nat.le_refl _
    exact hstep.trans (ih _)

theorem foldl_runStep_replicate (c : Char) (k : Nat) (state : Nat × Nat) :
    state.1 + (k + 1) ≤ ((List.replicate (k + 1) c).foldl (runStep c) state).2 := by
  induction k generalizing state with
  | zero =>
    rw [List.replicate_one, List.foldl_cons, List.foldl_nil, runStep, if_pos rfl]
    exact Nat.le_max_right ..
  | succ k ih =>
    have hmore := ih (runStep c state c)
    rw [List.replicate_succ, List.foldl_cons]
    rw [runStep, if_pos rfl] at hmore ⊢
    dsimp only at hmore
    omega

/-- No run of a character is longer than the longest. -/
theorem le_longestRun {c : Char} {cs : List Char} {k : Nat}
    (h : List.replicate (k + 1) c <:+: cs) : k + 1 ≤ longestRun c cs := by
  obtain ⟨front, back, rfl⟩ := h
  have hlongest : longestRun c (front ++ List.replicate (k + 1) c ++ back) =
      ((front ++ List.replicate (k + 1) c ++ back).foldl (runStep c) (0, 0)).2 := rfl
  rw [hlongest, List.foldl_append, List.foldl_append]
  have hrun := foldl_runStep_replicate c k (front.foldl (runStep c) (0, 0))
  have hback := le_foldl_runStep c back
    ((List.replicate (k + 1) c).foldl (runStep c) (front.foldl (runStep c) (0, 0)))
  omega

theorem readLiteral_plain {cs : List Char} (h : ∀ c ∈ cs, isPlain c = true ∧ c ≠ '\'')
    (rest : List Char) : readLiteral (cs ++ '\'' :: rest) = some (cs, rest) := by
  induction cs with
  | nil => rfl
  | cons c cs ih =>
    obtain ⟨hplain, hquote⟩ := h c List.mem_cons_self
    rw [List.cons_append, readLiteral.eq_3 c _ hquote, if_pos hplain,
      ih fun d hd => h d (List.mem_cons_of_mem _ hd)]
    rfl

/-- A long literal string ends like a long basic one; quotes in it stand as they are, at most two in
a row. -/
theorem readLongLiteral_text {rest : List Char} (hends : ∀ after, rest ≠ '\'' :: after)
    {cs : List Char} (hplain : ∀ c ∈ cs, isPlain c = true ∨ c = '\n')
    (hruns : ¬ ['\'', '\'', '\''] <:+: cs) :
    readLongLiteral (cs ++ '\'' :: '\'' :: '\'' :: rest) = some (cs, rest) := by
  induction cs with
  | nil =>
    rw [List.nil_append, readLongLiteral.eq_4]
    · exact fun _ heq => hends _ heq
    · exact fun _ heq => hends _ heq
  | cons c cs ih =>
    have hc := hplain c List.mem_cons_self
    have hcs := ih (fun d hd => hplain d (List.mem_cons_of_mem _ hd))
      fun hinner => hruns (hinner.trans (List.suffix_cons c cs).isInfix)
    by_cases hend : c = '\'' ∧ (cs = [] ∨ cs = ['\''])
    · obtain ⟨rfl, rfl | rfl⟩ := hend
      · exact readLongLiteral.eq_3 _ fun _ heq => hends _ heq
      · rfl
    · rw [List.cons_append, readLongLiteral_plain hc, hcs]
      · rfl
      · rintro rfl ⟨tail, htail⟩
        match cs, htail with
        | [], _ => exact hend ⟨rfl, Or.inl rfl⟩
        | [d], htail =>
          obtain ⟨rfl, _⟩ := List.cons.inj htail
          exact hend ⟨rfl, Or.inr rfl⟩
        | d :: e :: es, htail =>
          obtain ⟨rfl, hnext⟩ := List.cons.inj htail
          obtain ⟨rfl, _⟩ := List.cons.inj hnext
          exact hruns ⟨[], es, rfl⟩

theorem plain_of_literal {cs : List Char} (h : quotationOf cs = .literal) :
    ∀ c ∈ cs, isPlain c = true ∧ c ≠ '\'' := by
  unfold quotationOf at h
  dsimp only at h
  split_ifs at h with _ hliteral
  simp only [Bool.and_eq_true, Bool.not_eq_true', decide_eq_true_eq, List.any_eq_false,
    Bool.not_eq_true, List.contains_eq_mem, decide_eq_false_iff_not] at hliteral
  obtain ⟨⟨hcontrol, hsingles⟩, hfeed⟩ := hliteral
  intro c hc
  refine ⟨isPlain_of_not_control ?_ (hcontrol c hc), ?_⟩
  · rintro rfl
    exact hfeed hc
  · rintro rfl
    obtain ⟨front, back, rfl⟩ := List.append_of_mem hc
    have hrun : List.replicate (0 + 1) '\'' <:+: front ++ '\'' :: back := ⟨front, back, by simp⟩
    have hle := le_longestRun hrun
    omega

theorem plain_of_longLiteral {cs : List Char} (h : quotationOf cs = .longLiteral) :
    (∀ c ∈ cs, isControl c = false) ∧ ¬ ['\'', '\'', '\''] <:+: cs := by
  unfold quotationOf at h
  dsimp only at h
  split_ifs at h with _ _ _ hliteral
  simp only [Bool.and_eq_true, Bool.not_eq_true', decide_eq_true_eq, List.any_eq_false,
    Bool.not_eq_true] at hliteral
  refine ⟨hliteral.1, fun hrun => ?_⟩
  have hrun : List.replicate (2 + 1) '\'' <:+: cs := hrun
  have hle := le_longestRun hrun
  omega

theorem dropFirstNewline_of_head {cs : List Char}
    (h : ∀ c ∈ cs.head?, c ≠ '\n' ∧ c ≠ '\r') : dropFirstNewline cs = cs := by
  unfold dropFirstNewline
  split
  next => exact absurd rfl (h '\n' rfl).1
  next => exact absurd rfl (h '\r' rfl).2
  next => rfl

/-- The line feed before a long string that has one is dropped, and nothing else is. -/
theorem dropFirstNewline_start {cs body : List Char}
    (h : cs.contains '\n' = false → ∀ c ∈ body.head?, c ≠ '\n' ∧ c ≠ '\r') :
    dropFirstNewline ((if cs.contains '\n' then ['\n'] else []) ++ body) = body := by
  cases hfeed : cs.contains '\n' with
  | true => rfl
  | false => exact dropFirstNewline_of_head (h hfeed)

/-- Whether a string that stands before these characters ends there. -/
def endsString (rest : List Char) : Prop :=
  ∀ after, rest ≠ '"' :: after ∧ rest ≠ '\'' :: after

/-- A string in quotes of any form is read as the string. -/
theorem readString?_quoted (s : String) {rest : List Char} (h : endsString rest) :
    readString? (quoted s ++ rest) = some (s.toList, rest) := by
  unfold quoted
  generalize s.toList = cs
  dsimp only
  split
  next =>
    rw [List.cons_append, List.append_assoc, List.singleton_append, readString?.eq_2]
    · exact readBasic_escaped cs rest
    · intro after heq
      cases cs with
      | nil => exact (h after).1 (List.cons.inj heq).2
      | cons c cs =>
        obtain ⟨d, tail, hd, hhead⟩ := escaped_head false 0 0 c cs
        rw [hd] at heq
        obtain ⟨rfl, _⟩ := List.cons.inj heq
        rcases hhead with hslash | ⟨hc, _, hrun⟩
        · cases hslash
        · exact absurd (hrun hc.symm) (by omega)
  next hform =>
    have hplain := plain_of_literal hform
    rw [List.cons_append, List.append_assoc, List.singleton_append, readString?.eq_4]
    · exact readLiteral_plain hplain rest
    · intro after heq
      cases cs with
      | nil => exact (h after).2 (List.cons.inj heq).2
      | cons c cs => exact (hplain c List.mem_cons_self).2 (List.cons.inj heq).1
  next =>
    simp only [List.append_assoc, List.cons_append, List.nil_append]
    rw [readString?, dropFirstNewline_start, readLongBasic_escaped fun after => (h after).1]
    intro hfeed c hc
    cases cs with
    | nil =>
      cases hc
      decide
    | cons first cs =>
      obtain ⟨d, tail, hd, hhead⟩ := escaped_head true 2 0 first cs
      rw [hd] at hc
      cases hc
      rcases hhead with rfl | ⟨rfl, hreturn, _⟩
      · decide
      · refine ⟨?_, hreturn⟩
        rintro rfl
        simp at hfeed
  next hform =>
    obtain ⟨hcontrol, hruns⟩ := plain_of_longLiteral hform
    have hplain : ∀ c ∈ cs, isPlain c = true ∨ c = '\n' := by
      intro c hc
      by_cases hfeed : c = '\n'
      · exact Or.inr hfeed
      · exact Or.inl (isPlain_of_not_control hfeed (hcontrol c hc))
    simp only [List.append_assoc, List.cons_append, List.nil_append]
    rw [readString?, dropFirstNewline_start,
      readLongLiteral_text (fun after => (h after).2) hplain hruns]
    intro hfeed c hc
    cases cs with
    | nil =>
      cases hc
      decide
    | cons first cs =>
      cases hc
      refine ⟨?_, ?_⟩
      · rintro rfl
        simp at hfeed
      · rintro rfl
        exact absurd (hcontrol '\r' List.mem_cons_self) (by decide)

end CrossRef.Toml
