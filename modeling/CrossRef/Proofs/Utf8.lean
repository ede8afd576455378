import CrossRef.Text.Utf8
import Mathlib.Data.List.Basic
import Mathlib.Tactic.IntervalCases
import Mathlib.Tactic.SplitIfs

namespace CrossRef

namespace Text

theorem firstByte_ascii {n : Nat} (h : n < 0x80) :
    firstByte (UInt8.ofNat n) = .whole (Char.ofNat n) := by
  have hn : (UInt8.ofNat n).toNat = n := by
    rw [UInt8.toNat_ofNat']
    omega
  simp only [firstByte, hn, if_pos h]

theorem firstByte_two {k : Nat} (hlow : 2 ≤ k) (hhigh : k < 0x20) :
    firstByte (UInt8.ofNat (k + 0xc0)) = .opens ⟨k, 1, 0x80, 0xbf⟩ := by
  interval_cases k <;> rfl

theorem firstByte_three {k : Nat} (h : k < 0x10) :
    firstByte (UInt8.ofNat (k + 0xe0)) =
      .opens ⟨k, 2, if k = 0 then 0xa0 else 0x80, if k = 0xd then 0x9f else 0xbf⟩ := by
  interval_cases k <;> rfl

theorem firstByte_four {k : Nat} (h : k < 5) :
    firstByte (UInt8.ofNat (k + 0xf0)) =
      .opens ⟨k, 3, if k = 0 then 0x90 else 0x80, if k = 4 then 0x8f else 0xbf⟩ := by
  interval_cases k <;> rfl

theorem firstByte_invalid {n : Nat} (h : 0x80 ≤ n ∧ n < 0xc2 ∨ 0xf5 ≤ n ∧ n < 0x100) :
    firstByte (UInt8.ofNat n) = .invalid := by
  rcases h with ⟨hlow, hhigh⟩ | ⟨hlow, hhigh⟩
  · interval_cases n <;> rfl
  · interval_cases n <;> rfl

/-- What a byte means where a character starts, by the range it lies in. -/
theorem firstByte_cases (b : UInt8) :
    (b.toNat < 0x80 ∧ firstByte b = .whole (Char.ofNat b.toNat)) ∨ firstByte b = .invalid ∨
    (∃ k, 2 ≤ k ∧ k < 0x20 ∧ b.toNat = k + 0xc0 ∧ firstByte b = .opens ⟨k, 1, 0x80, 0xbf⟩) ∨
    (∃ k < 0x10, b.toNat = k + 0xe0 ∧ firstByte b =
      .opens ⟨k, 2, if k = 0 then 0xa0 else 0x80, if k = 0xd then 0x9f else 0xbf⟩) ∨
    ∃ k < 5, b.toNat = k + 0xf0 ∧ firstByte b =
      .opens ⟨k, 3, if k = 0 then 0x90 else 0x80, if k = 4 then 0x8f else 0xbf⟩ := by
  have hsize := b.toNat_lt
  have hbyte : b = UInt8.ofNat b.toNat := UInt8.ofNat_toNat.symm
  generalize b.toNat = n at hsize hbyte
  subst hbyte
  by_cases hascii : n < 0x80
  · exact .inl ⟨hascii, firstByte_ascii hascii⟩
  refine .inr ?_
  by_cases hinvalid : 0x80 ≤ n ∧ n < 0xc2 ∨ 0xf5 ≤ n ∧ n < 0x100
  · exact .inl (firstByte_invalid hinvalid)
  refine .inr ?_
  by_cases htwo : n < 0xe0
  · obtain ⟨k, rfl⟩ := Nat.exists_eq_add_of_le' (show 0xc0 ≤ n by omega)
    exact .inl ⟨k, by omega, by omega, rfl, firstByte_two (by omega) (by omega)⟩
  refine .inr ?_
  by_cases hthree : n < 0xf0
  · obtain ⟨k, rfl⟩ := Nat.exists_eq_add_of_le' (show 0xe0 ≤ n by omega)
    exact .inl ⟨k, by omega, rfl, firstByte_three (by omega)⟩
  · obtain ⟨k, rfl⟩ := Nat.exists_eq_add_of_le' (show 0xf0 ≤ n by omega)
    exact .inr ⟨k, by omega, rfl, firstByte_four (by omega)⟩

theorem of_firstByte_whole {b : UInt8} {c : Char} (h : firstByte b = .whole c) :
    b.toNat < 0x80 ∧ c = Char.ofNat b.toNat := by
  rcases firstByte_cases b with ⟨hb, hbyte⟩ | hbyte | ⟨_, _, _, _, hbyte⟩ | ⟨_, _, _, hbyte⟩ |
    ⟨_, _, _, hbyte⟩ <;> cases h.symm.trans hbyte
  exact ⟨hb, rfl⟩

/-- A byte in the range that the character asks for. -/
theorem decodeFrom_next {p : PartialChar} {k : Nat} (hk : k < 0x40) (hlow : p.low ≤ k + 0x80)
    (hhigh : k + 0x80 ≤ p.high) (bytes : List UInt8) :
    decodeFrom (some p) (UInt8.ofNat (k + 0x80) :: bytes) =
      if p.missing ≤ 1 then some (Char.ofNat (p.code * 0x40 + k)) :: decodeFrom none bytes
      else decodeFrom (some ⟨p.code * 0x40 + k, p.missing - 1, 0x80, 0xbf⟩) bytes := by
  have hbyte : (UInt8.ofNat (k + 0x80)).toNat = k + 0x80 := by
    rw [UInt8.toNat_ofNat']
    omega
  rw [decodeFrom, hbyte, if_pos ⟨hlow, hhigh⟩, Nat.add_sub_cancel]

/-- The bytes of a character are read as the character, whatever follows. -/
theorem decodeFrom_encodeChar (c : Char) (bytes : List UInt8) :
    decodeFrom none (String.utf8EncodeChar c ++ bytes) = some c :: decodeFrom none bytes := by
  have hself : Char.ofNat c.val.toNat = c := Char.ofNat_toNat c
  have hvalid : c.val.toNat < 0xd800 ∨ (0xdfff < c.val.toNat ∧ c.val.toNat < 0x110000) := c.valid
  unfold String.utf8EncodeChar
  generalize c.val.toNat = v at hself hvalid
  dsimp only
  split_ifs with hone htwo hthree
  · rw [List.singleton_append, decodeFrom, firstByte_ascii (by omega), ← hself]
  · have hcode : v / 64 % 32 * 64 + v % 64 = v := by omega
    rw [List.cons_append, decodeFrom, firstByte_two (by omega) (by omega), List.singleton_append]
    dsimp only
    rw [decodeFrom_next (by omega) (by dsimp only; omega) (by dsimp only; omega)]
    simp only [hcode, hself, Nat.le_refl, if_true]
  · have hcode : (v / 4096 % 16 * 64 + v / 64 % 64) * 64 + v % 64 = v := by omega
    have hlow : (if v / 4096 % 16 = 0 then 0xa0 else 0x80) ≤ v / 64 % 64 + 0x80 := by
      split <;> omega
    have hhigh : v / 64 % 64 + 0x80 ≤ if v / 4096 % 16 = 0xd then 0x9f else 0xbf := by
      split <;> omega
    rw [List.cons_append, decodeFrom, firstByte_three (by omega)]
    dsimp only [List.cons_append, List.nil_append]
    rw [decodeFrom_next (by omega) hlow hhigh, if_neg (by dsimp only; omega)]
    rw [decodeFrom_next (by omega) (by dsimp only; omega) (by dsimp only; omega)]
    simp [hcode, hself]
  · have hcode : ((v / 262144 % 8 * 64 + v / 4096 % 64) * 64 + v / 64 % 64) * 64 + v % 64 = v := by
      omega
    have hlow : (if v / 262144 % 8 = 0 then 0x90 else 0x80) ≤ v / 4096 % 64 + 0x80 := by
      split <;> omega
    have hhigh : v / 4096 % 64 + 0x80 ≤ if v / 262144 % 8 = 4 then 0x8f else 0xbf := by
      split <;> omega
    rw [List.cons_append, decodeFrom, firstByte_four (by omega)]
    dsimp only [List.cons_append, List.nil_append]
    rw [decodeFrom_next (by omega) hlow hhigh, if_neg (by dsimp only; omega)]
    rw [decodeFrom_next (by omega) (by dsimp only; omega) (by dsimp only; omega),
      if_neg (by dsimp only; omega)]
    rw [decodeFrom_next (by omega) (by dsimp only; omega) (by dsimp only; omega)]
    simp [hcode, hself]

/-- The bytes of a text are read as its characters. -/
theorem decodeFrom_encode (text : String) :
    decodeFrom none (encode text) = text.toList.map some := by
  unfold encode
  induction text.toList with
  | nil => rfl
  | cons c cs ih => rw [List.flatMap_cons, decodeFrom_encodeChar, ih, List.map_cons]

/-- The bytes of a text are the text. -/
theorem decode?_encode (text : String) : decode? (encode text) = some text.toList := by
  rw [decode?, decodeFrom_encode]
  induction text.toList with
  | nil => rfl
  | cons c cs ih => simp [List.mapM_cons, ih]

/-- Nothing is replaced in the bytes of a text. -/
theorem decodeLossy_encode (text : String) : decodeLossy (encode text) = text.toList := by
  rw [decodeLossy, decodeFrom_encode, List.map_map]
  exact List.map_id _

/-- A code that is none of a character is read as that of NUL. -/
theorem toNat_ofNat_or_nul (code : Nat) :
    (Char.ofNat code).toNat = code ∨ Char.ofNat code = Char.ofNat 0 := by
  by_cases hvalid : code.isValidChar
  · left
    rw [Char.ofNat, dif_pos hvalid]
    rfl
  · right
    rw [Char.ofNat, dif_neg hvalid]
    rfl

theorem toNat_ofNat_of_lt {n : Nat} (h : n < 0x80) : (Char.ofNat n).toNat = n := by
  rw [Char.ofNat, dif_pos (Or.inl (by omega))]
  rfl

/-- A character of which so much is read that its code is beyond those of one byte. -/
structure PartialChar.IsWide (p : PartialChar) : Prop where
  low : 0x80 ≤ p.low
  code : 2 ≤ p.code ∨ 2 ≤ p.missing ∧ (1 ≤ p.code ∨ 0x90 ≤ p.low)

theorem isWide_of_firstByte {b : UInt8} {p : PartialChar} (h : firstByte b = .opens p) :
    p.IsWide := by
  rcases firstByte_cases b with ⟨_, hb⟩ | hb | ⟨k, hlow, _, _, hb⟩ | ⟨k, _, _, hb⟩ |
    ⟨k, _, _, hb⟩ <;> cases h.symm.trans hb
  · exact ⟨Nat.le_refl 0x80, .inl hlow⟩
  · exact ⟨by dsimp only; split <;> omega, by dsimp only; split <;> omega⟩
  · exact ⟨by dsimp only; split <;> omega, by dsimp only; split <;> omega⟩

theorem PartialChar.IsWide.pending {p : PartialChar} (h : p.IsWide) :
    ∀ q, some p = some q → q.IsWide :=
  fun _ hq => Option.some.inj hq ▸ h

theorem PartialChar.IsWide.next {p : PartialChar} (h : p.IsWide) {b : UInt8}
    (hb : p.low ≤ b.toNat) (hmore : ¬ p.missing ≤ 1) :
    IsWide ⟨p.code * 0x40 + (b.toNat - 0x80), p.missing - 1, 0x80, 0xbf⟩ := by
  obtain ⟨hlow, hcode⟩ := h
  constructor
  · dsimp only
    omega
  · dsimp only
    omega

theorem firstByte_mark {mark : UInt8} (h : mark.toNat < 0x80) :
    firstByte mark = .whole (Char.ofNat mark.toNat) := by
  rw [firstByte, if_pos h]

/-- A byte below `0x80` is a character wherever it stands, and parts what is read before it from
what is read behind it. -/
theorem decodeFrom_cut {mark : UInt8} (hmark : mark.toNat < 0x80) (p : Option PartialChar)
    (hwide : ∀ q, p = some q → q.IsWide) (front back : List UInt8) :
    decodeFrom p (front ++ mark :: back) =
      decodeFrom p front ++ some (Char.ofNat mark.toNat) :: decodeFrom none back := by
  fun_induction decodeFrom p front with
  | case1 => simp [decodeFrom, firstByte_mark hmark]
  | case2 q =>
    have hq := (hwide q rfl).low
    have hrange : ¬(q.low ≤ mark.toNat ∧ mark.toNat ≤ q.high) := by omega
    simp [decodeFrom, firstByte_mark hmark, hrange]
  | case3 b bs c hb ih =>
    rw [List.cons_append, decodeFrom, hb]
    simp [ih]
  | case4 b bs q hb ih =>
    rw [List.cons_append, decodeFrom, hb]
    simpa using ih (isWide_of_firstByte hb).pending
  | case5 b bs hb ih =>
    rw [List.cons_append, decodeFrom, hb]
    simp [ih]
  | case6 q b bs hrange code hlast ih =>
    rw [List.cons_append, decodeFrom, if_pos hrange]
    simp [code, hlast, ih]
  | case7 q b bs hrange code hmore ih =>
    rw [List.cons_append, decodeFrom, if_pos hrange]
    dsimp only
    rw [if_neg hmore]
    exact ih ((hwide q rfl).next hrange.1 hmore).pending
  | case8 q b bs hrange c hb ih =>
    rw [List.cons_append, decodeFrom, if_neg hrange, hb]
    simp [ih]
  | case9 q b bs hrange r hb ih =>
    rw [List.cons_append, decodeFrom, if_neg hrange, hb]
    simpa using ih (isWide_of_firstByte hb).pending
  | case10 q b bs hrange hb ih =>
    rw [List.cons_append, decodeFrom, if_neg hrange, hb]
    simp [ih]

/-- A character below `0x80` that is read is a byte that was there. -/
theorem byte_of_mem_decodeFrom {c : Char} (hc : c.toNat < 0x80) (hnul : c.toNat ≠ 0)
    (p : Option PartialChar) (hwide : ∀ q, p = some q → q.IsWide) (bytes : List UInt8)
    (h : some c ∈ decodeFrom p bytes) : UInt8.ofNat c.toNat ∈ bytes := by
  have hwhole {b : UInt8} {d : Char} (hb : firstByte b = .whole d) (hd : some c = some d) :
      UInt8.ofNat c.toNat = b := by
    obtain ⟨hsmall, rfl⟩ := of_firstByte_whole hb
    rw [Option.some.inj hd, toNat_ofNat_of_lt hsmall, UInt8.ofNat_toNat]
  have hfar {q : PartialChar} {b : UInt8} (hq : q.IsWide) (hb : q.low ≤ b.toNat)
      (hlast : q.missing ≤ 1) :
      some c ≠ some (Char.ofNat (q.code * 0x40 + (b.toNat - 0x80))) := by
    intro heq
    obtain ⟨hlow, hcode⟩ := hq
    rcases toNat_ofNat_or_nul (q.code * 0x40 + (b.toNat - 0x80)) with hcode | hzero
    · rw [← Option.some.inj heq] at hcode
      omega
    · rw [← Option.some.inj heq] at hzero
      exact hnul (congrArg Char.toNat hzero)
  fun_induction decodeFrom p bytes with
  | case1 => simp at h
  | case2 q => simp at h
  | case3 b bs d hb ih =>
    rcases List.mem_cons.mp h with hd | h
    · rw [hwhole hb hd]
      exact List.mem_cons_self
    · exact List.mem_cons_of_mem b (ih (by simp) h)
  | case4 b bs q hb ih =>
    exact List.mem_cons_of_mem b (ih (isWide_of_firstByte hb).pending h)
  | case5 b bs hb ih => exact List.mem_cons_of_mem b (ih (by simp) (by simpa using h))
  | case6 q b bs hrange code hlast ih =>
    rcases List.mem_cons.mp h with hd | h
    · exact absurd hd (hfar (hwide q rfl) hrange.1 hlast)
    · exact List.mem_cons_of_mem b (ih (by simp) h)
  | case7 q b bs hrange code hmore ih =>
    exact List.mem_cons_of_mem b (ih ((hwide q rfl).next hrange.1 hmore).pending h)
  | case8 q b bs hrange d hb ih =>
    rcases List.mem_cons.mp ((List.mem_cons.mp h).resolve_left (by simp)) with hd | h
    · rw [hwhole hb hd]
      exact List.mem_cons_self
    · exact List.mem_cons_of_mem b (ih (by simp) h)
  | case9 q b bs hrange r hb ih =>
    exact List.mem_cons_of_mem b (ih (isWide_of_firstByte hb).pending (by simpa using h))
  | case10 q b bs hrange hb ih => exact List.mem_cons_of_mem b (ih (by simp) (by simpa using h))

theorem toNat_ofNat_of_valid {n : Nat} (h : n.isValidChar) : (Char.ofNat n).val.toNat = n := by
  rw [Char.ofNat, dif_pos h]
  rfl

/-- A byte by its number. -/
theorem ofNat_eq_byte (b : UInt8) {n : Nat} (h : n = b.toNat) : UInt8.ofNat n = b := by
  rw [h, UInt8.ofNat_toNat]

/-- The code of a character of which some bytes more are read. -/
def PartialChar.codeWith (p : PartialChar) (tail : List UInt8) : Nat :=
  tail.foldl (fun code b => code * 0x40 + (b.toNat - 0x80)) p.code

/-- Bytes that may stand behind those that are read of a character. -/
structure PartialChar.Completes (p : PartialChar) (tail : List UInt8) : Prop where
  length : tail.length = p.missing
  head : ∀ b ∈ tail.head?, p.low ≤ b.toNat ∧ b.toNat ≤ p.high
  later : ∀ b ∈ tail.tail, 0x80 ≤ b.toNat ∧ b.toNat ≤ 0xbf

/-- The bytes that were read of a character are those it is written with. -/
structure PartialChar.IsReadFrom (p : PartialChar) (front : List UInt8) : Prop where
  missing : 1 ≤ p.missing
  encode : ∀ tail, p.Completes tail →
    String.utf8EncodeChar (Char.ofNat (p.codeWith tail)) = front ++ tail

section

variable {n : Nat} {a b c d : UInt8}

theorem encodeChar_one (h : a.toNat < 0x80) :
    String.utf8EncodeChar (Char.ofNat a.toNat) = [a] := by
  unfold String.utf8EncodeChar
  rw [toNat_ofNat_of_valid (Or.inl (by omega))]
  dsimp only
  rw [if_pos (by omega), UInt8.ofNat_toNat]

theorem encodeChar_two (hn : 0x80 ≤ n ∧ n < 0x800) (ha : n / 0x40 + 0xc0 = a.toNat)
    (hb : n % 0x40 + 0x80 = b.toNat) : String.utf8EncodeChar (Char.ofNat n) = [a, b] := by
  unfold String.utf8EncodeChar
  rw [toNat_ofNat_of_valid (Or.inl (by omega))]
  dsimp only
  rw [if_neg (by omega), if_pos (by omega), ofNat_eq_byte a (by omega), ofNat_eq_byte b (by omega)]

theorem encodeChar_three (hvalid : n.isValidChar) (hn : 0x800 ≤ n ∧ n < 0x10000)
    (ha : n / 0x1000 + 0xe0 = a.toNat) (hb : n / 0x40 % 0x40 + 0x80 = b.toNat)
    (hc : n % 0x40 + 0x80 = c.toNat) : String.utf8EncodeChar (Char.ofNat n) = [a, b, c] := by
  unfold String.utf8EncodeChar
  rw [toNat_ofNat_of_valid hvalid]
  dsimp only
  rw [if_neg (by omega), if_neg (by omega), if_pos (by omega), ofNat_eq_byte a (by omega),
    ofNat_eq_byte b (by omega), ofNat_eq_byte c (by omega)]

theorem encodeChar_four (hn : 0x10000 ≤ n ∧ n < 0x110000) (ha : n / 0x40000 + 0xf0 = a.toNat)
    (hb : n / 0x1000 % 0x40 + 0x80 = b.toNat) (hc : n / 0x40 % 0x40 + 0x80 = c.toNat)
    (hd : n % 0x40 + 0x80 = d.toNat) : String.utf8EncodeChar (Char.ofNat n) = [a, b, c, d] := by
  unfold String.utf8EncodeChar
  rw [toNat_ofNat_of_valid (Or.inr ⟨by omega, by omega⟩)]
  dsimp only
  rw [if_neg (by omega), if_neg (by omega), if_neg (by omega), ofNat_eq_byte a (by omega),
    ofNat_eq_byte b (by omega), ofNat_eq_byte c (by omega), ofNat_eq_byte d (by omega)]

end

theorem isReadFrom_of_firstByte {a : UInt8} {p : PartialChar} (h : firstByte a = .opens p) :
    p.IsReadFrom [a] := by
  rcases firstByte_cases a with ⟨_, ha⟩ | ha | ⟨k, hlow, hhigh, hnumber, ha⟩ | ⟨k, hk, hnumber, ha⟩ |
    ⟨k, hk, hnumber, ha⟩ <;> cases h.symm.trans ha
  · refine ⟨Nat.le_refl 1, fun tail ⟨hlength, hhead, _⟩ => ?_⟩
    obtain ⟨b, rfl⟩ := List.length_eq_one_iff.mp hlength
    have hb := hhead b rfl
    dsimp only at hb
    simp only [PartialChar.codeWith, List.foldl_cons, List.foldl_nil]
    exact encodeChar_two (by omega) (by omega) (by omega)
  · refine ⟨Nat.le_succ 1, fun tail ⟨hlength, hhead, hlater⟩ => ?_⟩
    obtain ⟨b, c, rfl⟩ := List.length_eq_two.mp hlength
    have hb := hhead b rfl
    have hc := hlater c (List.mem_singleton_self c)
    dsimp only at hb
    simp only [PartialChar.codeWith, List.foldl_cons, List.foldl_nil]
    have hbounds : (k = 0 → 0xa0 ≤ b.toNat) ∧ (k = 0xd → b.toNat ≤ 0x9f) ∧ 0x80 ≤ b.toNat ∧
        b.toNat ≤ 0xbf := by
      split_ifs at hb <;> omega
    exact encodeChar_three (by unfold Nat.isValidChar; omega) (by omega) (by omega) (by omega)
      (by omega)
  · refine ⟨by simp, fun tail ⟨hlength, hhead, hlater⟩ => ?_⟩
    obtain ⟨b, c, d, rfl⟩ := List.length_eq_three.mp hlength
    have hb := hhead b rfl
    have hc := hlater c List.mem_cons_self
    have hd := hlater d (List.mem_cons_of_mem c (List.mem_singleton_self d))
    dsimp only at hb
    simp only [PartialChar.codeWith, List.foldl_cons, List.foldl_nil]
    have hbounds : (k = 0 → 0x90 ≤ b.toNat) ∧ (k = 4 → b.toNat ≤ 0x8f) ∧ 0x80 ≤ b.toNat ∧
        b.toNat ≤ 0xbf := by
      split_ifs at hb <;> omega
    exact encodeChar_four (by omega) (by omega) (by omega) (by omega) (by omega)

theorem PartialChar.IsReadFrom.next {p : PartialChar} {front : List UInt8} (h : p.IsReadFrom front)
    {b : UInt8} (hrange : p.low ≤ b.toNat ∧ b.toNat ≤ p.high) (hmore : ¬ p.missing ≤ 1) :
    IsReadFrom ⟨p.code * 0x40 + (b.toNat - 0x80), p.missing - 1, 0x80, 0xbf⟩ (front ++ [b]) := by
  refine ⟨by dsimp only; omega, fun tail ⟨hlength, hhead, hlater⟩ => ?_⟩
  have hcompletes : p.Completes (b :: tail) := by
    dsimp only at hlength hhead
    refine ⟨by rw [List.length_cons]; omega, by simpa using hrange, ?_⟩
    cases tail with
    | nil => simp
    | cons c tail => exact List.forall_mem_cons.mpr ⟨hhead c rfl, hlater⟩
  have hwhole := h.encode (b :: tail) hcompletes
  rw [PartialChar.codeWith, List.foldl_cons] at hwhole
  rw [PartialChar.codeWith, List.append_assoc, hwhole, List.singleton_append]

/-- What is read without a loss is written as it was. -/
theorem append_eq_of_decodeFrom (p : Option PartialChar) (bytes front : List UInt8)
    (cs : List Char) (hnone : p = none → front = []) (hsome : ∀ q, p = some q → q.IsReadFrom front)
    (h : decodeFrom p bytes = cs.map some) :
    front ++ bytes = cs.flatMap String.utf8EncodeChar := by
  fun_induction decodeFrom p bytes generalizing front cs with
  | case1 =>
    rw [hnone rfl, List.map_eq_nil_iff.mp h.symm]
    rfl
  | case2 q => cases cs <;> cases h
  | case3 b bs c hb ih =>
    cases cs with
    | nil => cases h
    | cons first rest =>
      obtain ⟨hc, hrest⟩ := List.cons.inj h
      cases hc
      have hbyte := of_firstByte_whole hb
      rw [hnone rfl, List.flatMap_cons, hbyte.2, encodeChar_one hbyte.1,
        ← ih [] rest (fun _ => rfl) (by simp) hrest]
      rfl
  | case4 b bs q hb ih =>
    rw [hnone rfl, List.nil_append]
    exact ih [b] cs (by simp) (fun r hr => Option.some.inj hr ▸ isReadFrom_of_firstByte hb) h
  | case5 b bs hb ih => cases cs <;> cases h
  | case6 q b bs hrange code hlast ih =>
    cases cs with
    | nil => cases h
    | cons first rest =>
      obtain ⟨hc, hrest⟩ := List.cons.inj h
      have hq := hsome q rfl
      have hmissing := hq.missing
      have hcompletes : q.Completes [b] := ⟨by simp; omega, by simpa using hrange, by simp⟩
      have hchar := hq.encode [b] hcompletes
      have hfirst : first = Char.ofNat code := (Option.some.inj hc).symm
      rw [List.flatMap_cons, ← ih [] rest (fun _ => rfl) (by simp) hrest, hfirst]
      rw [show Char.ofNat code = Char.ofNat (q.codeWith [b]) from rfl, hchar]
      simp
  | case7 q b bs hrange code hmore ih =>
    have hnext := (hsome q rfl).next hrange hmore
    rw [← ih (front ++ [b]) cs (by simp) (fun r hr => Option.some.inj hr ▸ hnext) h]
    simp
  | case8 q b bs hrange c hb ih => cases cs <;> cases h
  | case9 q b bs hrange r hb ih => cases cs <;> cases h
  | case10 q b bs hrange hb ih => cases cs <;> cases h

/-- What is read without a loss is the text of the bytes, and nothing else. -/
theorem decode?_eq_some_iff {bytes : List UInt8} {cs : List Char} :
    decode? bytes = some cs ↔ bytes = encode (String.ofList cs) := by
  constructor
  · intro h
    have hall : decodeFrom none bytes = cs.map some := by
      unfold decode? at h
      generalize decodeFrom none bytes = read at h
      induction read generalizing cs with
      | nil =>
        cases h
        rfl
      | cons first rest ih =>
        cases first with
        | none => simp at h
        | some c =>
          simp only [List.mapM_cons, id_eq, Option.pure_def, Option.bind_eq_bind,
            Option.bind_some, Option.bind_eq_some_iff, Option.some.injEq] at h
          obtain ⟨more, hmore, rfl⟩ := h
          rw [List.map_cons, ih hmore]
    have hwritten := append_eq_of_decodeFrom none bytes [] cs (fun _ => rfl) (by simp) hall
    rw [encode, String.toList_ofList]
    exact hwritten
  · rintro rfl
    rw [decode?_encode, String.toList_ofList]

/-- Only no bytes are read as nothing. -/
theorem decodeLossy_eq_nil_iff {bytes : List UInt8} : decodeLossy bytes = [] ↔ bytes = [] := by
  have hopen (p : Option PartialChar) (hp : p ≠ none) (rest : List UInt8) :
      decodeFrom p rest ≠ [] := by
    fun_induction decodeFrom p rest with
    | case7 q b bs hrange code hmore ih => exact ih (by simp)
    | _ => simp_all
  constructor
  · intro h
    have hnone := List.map_eq_nil_iff.mp h
    cases bytes with
    | nil => rfl
    | cons b bs =>
      rw [decodeFrom] at hnone
      split at hnone
      next => cases hnone
      next p hp => exact absurd hnone (hopen (some p) (by simp) bs)
      next => cases hnone
  · rintro rfl
    rfl

/-- Where a function of lists acts on the parts at a separator one by one, it acts so on all parts
that the separators leave. -/
theorem splitOn_of_cut {α β : Type} [BEq α] [LawfulBEq α] [BEq β] [LawfulBEq β] {a : α} {b : β}
    {f : List α → List β} (hcut : ∀ front back, f (front ++ a :: back) = f front ++ b :: f back)
    (hnone : ∀ xs, a ∉ xs → b ∉ f xs) (xs : List α) :
    (f xs).splitOn b = (xs.splitOn a).map f := by
  by_cases hmem : a ∈ xs
  · obtain ⟨front, back, rfl⟩ := List.append_of_mem hmem
    rw [hcut, List.splitOn_append_cons_self, List.splitOn_append_cons_self, List.map_append,
      splitOn_of_cut hcut hnone front, splitOn_of_cut hcut hnone back]
  · rw [List.splitOn_eq_singleton hmem, List.splitOn_eq_singleton (hnone xs hmem),
      List.map_singleton]
termination_by xs.length
decreasing_by
  all_goals
    subst_vars
    simp only [List.length_append, List.length_cons]
    omega

/-- No part that separators leave holds one. -/
theorem not_mem_of_mem_splitOn {α : Type} [BEq α] [LawfulBEq α] {a : α} {xs part : List α}
    (h : part ∈ xs.splitOn a) : a ∉ part := by
  by_cases hmem : a ∈ xs
  · obtain ⟨front, back, rfl⟩ := List.append_of_mem hmem
    rw [List.splitOn_append_cons_self] at h
    rcases List.mem_append.mp h with h | h
    · exact not_mem_of_mem_splitOn h
    · exact not_mem_of_mem_splitOn h
  · rw [List.splitOn_eq_singleton hmem] at h
    rwa [List.mem_singleton.mp h]
termination_by xs.length
decreasing_by
  all_goals
    subst_vars
    simp only [List.length_append, List.length_cons]
    omega

section

variable {c : Char} (hc : c.toNat < 0x80) (hnul : c.toNat ≠ 0)

include hc

theorem toNat_byte_of_lt : (UInt8.ofNat c.toNat).toNat = c.toNat := by
  rw [UInt8.toNat_ofNat']
  omega

theorem decodeLossy_cut (front back : List UInt8) :
    decodeLossy (front ++ UInt8.ofNat c.toNat :: back) =
      decodeLossy front ++ c :: decodeLossy back := by
  have hbyte := toNat_byte_of_lt hc
  rw [decodeLossy, decodeFrom_cut (by omega) none (by simp), hbyte, Char.ofNat_toNat]
  simp [decodeLossy]

theorem encodeChar_of_lt : String.utf8EncodeChar c = [UInt8.ofNat c.toNat] := by
  have hbyte := toNat_byte_of_lt hc
  have hone := encodeChar_one (a := UInt8.ofNat c.toNat) (by omega)
  rwa [hbyte, Char.ofNat_toNat] at hone

/-- A byte below `0x80` is written for its own character only. -/
theorem eq_of_byte_mem_encodeChar {d : Char}
    (h : UInt8.ofNat c.toNat ∈ String.utf8EncodeChar d) : d = c := by
  have hbyte := toNat_byte_of_lt hc
  unfold String.utf8EncodeChar at h
  dsimp only at h
  have hd : d.val.toNat < 0x110000 := by
    rcases d.valid with hlow | hhigh
    · exact Nat.lt_trans hlow (by decide)
    · exact hhigh.2
  have hfar {n : Nat} (hn : 0x80 ≤ n ∧ n < 0x100) : UInt8.ofNat c.toNat ≠ UInt8.ofNat n := by
    intro heq
    have hnat := congrArg UInt8.toNat heq
    rw [hbyte, UInt8.toNat_ofNat'] at hnat
    omega
  split_ifs at h with hone htwo hthree
  · have hnat := congrArg UInt8.toNat (List.mem_singleton.mp h)
    rw [hbyte, UInt8.toNat_ofNat'] at hnat
    apply Char.toNat_inj.mp
    rw [Char.toNat, hnat]
    omega
  all_goals
    simp only [List.mem_cons, List.not_mem_nil, or_false] at h
  · rcases h with h | h
    · exact absurd h (hfar (by omega))
    · exact absurd h (hfar (by omega))
  · rcases h with h | h | h
    · exact absurd h (hfar (by omega))
    · exact absurd h (hfar (by omega))
    · exact absurd h (hfar (by omega))
  · rcases h with h | h | h | h
    · exact absurd h (hfar (by omega))
    · exact absurd h (hfar (by omega))
    · exact absurd h (hfar (by omega))
    · exact absurd h (hfar (by omega))

include hnul

theorem byte_of_mem_decodeLossy {bytes : List UInt8} (h : c ∈ decodeLossy bytes) :
    UInt8.ofNat c.toNat ∈ bytes := by
  obtain ⟨read, hread, hself⟩ := List.mem_map.mp h
  cases read with
  | none =>
    rw [← hself] at hc
    exact absurd hc (by decide)
  | some d =>
    cases hself
    exact byte_of_mem_decodeFrom hc hnul none (by simp) bytes hread

/-- Bytes parted at a character of one byte are read as the parts of the text they are read as. -/
theorem splitOn_decodeLossy (bytes : List UInt8) :
    (decodeLossy bytes).splitOn c = (bytes.splitOn (UInt8.ofNat c.toNat)).map decodeLossy :=
  splitOn_of_cut (decodeLossy_cut hc) (fun _ => mt (byte_of_mem_decodeLossy hc hnul)) bytes

/-- Bytes that are read as one character of one byte are this byte. -/
theorem decodeLossy_eq_singleton_iff {bytes : List UInt8} :
    decodeLossy bytes = [c] ↔ bytes = [UInt8.ofNat c.toNat] := by
  constructor
  · intro h
    have hmem : UInt8.ofNat c.toNat ∈ bytes := byte_of_mem_decodeLossy hc hnul (by simp [h])
    obtain ⟨front, back, rfl⟩ := List.append_of_mem hmem
    rw [decodeLossy_cut hc] at h
    have hlength := congrArg List.length h
    simp only [List.length_append, List.length_cons, List.length_nil] at hlength
    have hfront : (decodeLossy front).length = 0 := by omega
    have hback : (decodeLossy back).length = 0 := by omega
    rw [decodeLossy_eq_nil_iff.mp (List.length_eq_zero_iff.mp hfront),
      decodeLossy_eq_nil_iff.mp (List.length_eq_zero_iff.mp hback), List.nil_append]
  · rintro rfl
    exact decodeLossy_cut hc [] []

omit hnul

/-- A text parted at a character of one byte is written as its parts are written. -/
theorem splitOn_encode (text : String) :
    (encode text).splitOn (UInt8.ofNat c.toNat) =
      (text.toList.splitOn c).map fun part => encode (String.ofList part) := by
  have hparts : (fun part => encode (String.ofList part)) =
      List.flatMap String.utf8EncodeChar := by
    funext part
    rw [encode, String.toList_ofList]
  rw [hparts, encode]
  refine splitOn_of_cut (fun front back => ?_) (fun cs hcs hmem => ?_) text.toList
  · rw [List.flatMap_append, List.flatMap_cons, encodeChar_of_lt hc, List.singleton_append]
  · obtain ⟨d, hd, hbyte⟩ := List.mem_flatMap.mp hmem
    exact hcs (eq_of_byte_mem_encodeChar hc hbyte ▸ hd)

end

end Text

end CrossRef
