import CrossRef.Json.Printer
import CrossRef.Json.Reader
import Mathlib.Tactic.SplitIfs

namespace CrossRef.Json

theorem readText_bad_code {a b c d : Char} (h : hexNumber? [a, b, c, d] = none)
    (rest : List Char) : readText ('\\' :: 'u' :: a :: b :: c :: d :: rest) = none := by
  by_cases hcode : ∃ e f g i after, rest = '\\' :: 'u' :: e :: f :: g :: i :: after
  · obtain ⟨e, f, g, i, after, rfl⟩ := hcode
    rw [readText, h]
  · rw [readText.eq_4, h]
    exact fun e f g i after hrest => hcode ⟨e, f, g, i, after, hrest⟩

/-- A code that is not the first half of a character stands for itself, whatever follows. -/
theorem readText_code {a b c d : Char} {n : Nat} (h : hexNumber? [a, b, c, d] = some n)
    (hwhole : isFirstHalf n = false) (rest : List Char) :
    readText ('\\' :: 'u' :: a :: b :: c :: d :: rest) =
      (readText rest).map (sayFirst (whole? n)) := by
  by_cases hcode : ∃ e f g i after, rest = '\\' :: 'u' :: e :: f :: g :: i :: after
  · obtain ⟨e, f, g, i, after, rfl⟩ := hcode
    rw [readText, h]
    cases hnext : hexNumber? [e, f, g, i] with
    | some m => simp [hwhole]
    | none => rw [readText_bad_code hnext, Option.map_none]
  · rw [readText.eq_4, h]
    exact fun e f g i after hrest => hcode ⟨e, f, g, i, after, hrest⟩

theorem readText_unescape {c d : Char} (h : unescape? c = some d) (rest : List Char) :
    readText ('\\' :: c :: rest) = (readText rest).map (sayFirst (some d)) := by
  have hc : c ≠ 'u' := by
    rintro rfl
    cases h
  rw [readText.eq_5, h]
  · exact fun _ _ _ _ _ _ _ _ _ heq => absurd heq hc
  · exact fun _ _ _ _ _ heq => absurd heq hc

theorem readText_plain {c : Char} (hquote : c ≠ '"') (hslash : c ≠ '\\') (hprint : 0x20 ≤ c.toNat)
    (rest : List Char) : readText (c :: rest) = (readText rest).map (sayFirst (some c)) := by
  rw [readText.eq_6]
  · rw [if_neg (by omega)]
  · exact hquote
  · exact fun _ _ _ _ _ _ _ _ _ heq => absurd heq hslash
  · exact fun _ _ _ _ _ heq => absurd heq hslash
  · exact fun _ _ heq => absurd heq hslash

theorem hexNumber?_control :
    ∀ n < 0x20, hexNumber? ['0', '0', hexDigit (n / 16), hexDigit (n % 16)] = some n := by
  decide

/-- What a character is written as is read as the character. -/
theorem readText_escapeChar (c : Char) (rest : List Char) :
    readText (escapeChar c ++ rest) = (readText rest).map (sayFirst (some c)) := by
  have ofCode {n : Nat} (h : c.toNat = n) : c = Char.ofNat n := by rw [← h, Char.ofNat_toNat]
  unfold escapeChar
  split_ifs with hquote hslash hfeed hreturn htab hback hform hcontrol
  · subst hquote
    exact readText_unescape rfl rest
  · subst hslash
    exact readText_unescape rfl rest
  · subst hfeed
    exact readText_unescape rfl rest
  · subst hreturn
    exact readText_unescape rfl rest
  · subst htab
    exact readText_unescape rfl rest
  · rw [ofCode hback]
    exact readText_unescape rfl rest
  · rw [ofCode hform]
    exact readText_unescape rfl rest
  · have hwhole : whole? c.toNat = some c := by
      rw [whole?, if_neg, Char.ofNat_toNat]
      simp only [isFirstHalf, isSecondHalf, Bool.or_eq_true, Bool.and_eq_true, decide_eq_true_eq]
      omega
    have hfirst : isFirstHalf c.toNat = false := by
      simp only [isFirstHalf, Bool.and_eq_false_iff, decide_eq_false_iff_not]
      omega
    have hread := readText_code (hexNumber?_control c.toNat hcontrol) hfirst rest
    rwa [hwhole] at hread
  · exact readText_plain hquote hslash (by omega) rest

/-- A text is read as it is up to its closing quote. -/
theorem readText_quoted (cs rest : List Char) :
    readText (cs.flatMap escapeChar ++ '"' :: rest) = some (some cs, rest) := by
  induction cs with
  | nil => rfl
  | cons c cs ih =>
    rw [List.flatMap_cons, List.append_assoc, readText_escapeChar, ih]
    rfl

/-- Whether a number that stands before these characters ends there. -/
def endsNumber : List Char → Bool
  | [] => true
  | c :: _ => !(c.isDigit || c = '.' || c = 'e' || c = 'E')

theorem readFraction_end {rest : List Char} (h : endsNumber rest) :
    readFraction rest = some ([], rest) := by
  rw [readFraction]
  rintro after rfl
  cases h

theorem readExponent_end {rest : List Char} (h : endsNumber rest) :
    readExponent rest = some ([], rest) := by
  cases rest with
  | nil => rfl
  | cons c rest =>
    have hc : (c = 'e' || c = 'E') = false := by
      simp only [endsNumber, Bool.not_eq_true', Bool.or_eq_false_iff] at h
      simp [h]
    simp [readExponent, hc]

/-- Digits end where a number ends. -/
theorem spanDigits_append {digits rest : List Char} (hdigits : ∀ c ∈ digits, c.isDigit)
    (h : endsNumber rest) : spanDigits (digits ++ rest) = (digits, rest) := by
  have hhead : rest.takeWhile Char.isDigit = [] ∧ rest.dropWhile Char.isDigit = rest := by
    cases rest with
    | nil => exact ⟨rfl, rfl⟩
    | cons c rest =>
      have hc : ¬ c.isDigit := by
        simp only [endsNumber, Bool.not_eq_true', Bool.or_eq_false_iff] at h
        simp [h]
      exact ⟨List.takeWhile_cons_of_neg hc, List.dropWhile_cons_of_neg hc⟩
  rw [spanDigits, List.takeWhile_append_of_pos hdigits, List.dropWhile_append_of_pos hdigits,
    hhead.1, hhead.2, List.append_nil]

theorem isDigit_of_mem_digits {n : Nat} {c : Char} (h : c ∈ Nat.toDigits 10 n) : c.isDigit :=
  Nat.isDigit_of_mem_toDigits (by decide) (by decide) h

theorem digits_head (n : Nat) : ∃ c tail, Nat.toDigits 10 n = c :: tail ∧ c.isDigit := by
  obtain ⟨c, tail, hdigits⟩ := List.exists_cons_of_ne_nil (Nat.toDigits_ne_nil (n := n) (b := 10))
  exact ⟨c, tail, hdigits, isDigit_of_mem_digits (by rw [hdigits]; exact List.mem_cons_self)⟩

theorem ofDigits_digits (n : Nat) : ofDigits (Nat.toDigits 10 n) = n := by
  induction n using Nat.strongRecOn with
  | ind n ih =>
    rw [Nat.toDigits_eq_if (by decide)]
    split
    next h => exact (Nat.zero_add _).trans (Nat.toNat_digitChar_sub_48_of_lt_ten h)
    next h =>
      have hlast : (n % 10).digitChar.toNat - 0x30 = n % 10 :=
        Nat.toNat_digitChar_sub_48_of_lt_ten (by omega)
      have hfront := ih (n / 10) (by omega)
      simp only [ofDigits] at hfront
      simp only [ofDigits, List.foldl_append, List.foldl_cons, List.foldl_nil, hfront, hlast]
      omega

/-- No number but zero is written with a zero in front. -/
theorem head?_digits {n : Nat} (h : 0 < n) : (Nat.toDigits 10 n).head? ≠ some '0' := by
  induction n using Nat.strongRecOn with
  | ind n ih =>
    rw [Nat.toDigits_eq_if (by decide)]
    split
    next => simpa using Nat.ne_of_gt h
    next hlong =>
      rw [List.head?_append, Option.or_of_isSome (List.isSome_head?.2 Nat.toDigits_ne_nil)]
      exact ih (n / 10) (by omega) (by omega)

theorem readNumber_digits (n : Nat) {rest : List Char} (h : endsNumber rest) :
    readNumber (Nat.toDigits 10 n ++ rest) = some (.nat n, rest) := by
  have hsign : ∀ after, Nat.toDigits 10 n ++ rest ≠ '-' :: after := by
    intro after heq
    obtain ⟨c, digits, hdigits, hc⟩ := digits_head n
    rw [hdigits, List.cons_append, List.cons.injEq] at heq
    rw [heq.1] at hc
    cases hc
  have hzero : ¬ ((Nat.toDigits 10 n).length > 1 ∧ (Nat.toDigits 10 n).head? = some '0') := by
    rintro ⟨hlong, hhead⟩
    rcases Nat.eq_zero_or_pos n with rfl | hn
    · exact absurd hlong (by decide)
    · exact head?_digits hn hhead
  unfold readNumber
  split
  next sign unsigned hparts =>
    split at hparts
    next after heq => exact absurd heq (hsign after)
    next =>
      cases hparts
      rw [spanDigits_append (fun c hc => isDigit_of_mem_digits hc) h]
      simp [readFraction_end h, readExponent_end h, ofDigits_digits, Nat.toDigits_ne_nil, hzero]

end CrossRef.Json
