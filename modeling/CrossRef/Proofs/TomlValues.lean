import CrossRef.Proofs.JsonScalars
import CrossRef.Proofs.TomlStrings
import CrossRef.Settings.Document

namespace CrossRef.Toml

theorem skipFiller_stop {c : Char} (h : c ∉ ['\n', '\r', '#', ' ', '\t']) (rest : List Char) :
    skipFiller false (c :: rest) = c :: rest := by
  simp only [List.mem_cons, List.not_mem_nil, or_false, not_or] at h
  obtain ⟨hfeed, hreturn, hcomment, hblank, htab⟩ := h
  rw [skipFiller.eq_4 false c rest hfeed fun _ heq => absurd heq hreturn]
  simp [hcomment, hblank, htab]

theorem quoted_head (s : String) : ∃ quote tail, quoted s = quote :: tail ∧
    (quote = '"' ∨ quote = '\'') := by
  unfold quoted
  dsimp only
  split
  next => exact ⟨_, _, rfl, Or.inl rfl⟩
  next => exact ⟨_, _, rfl, Or.inr rfl⟩
  next => exact ⟨_, _, rfl, Or.inl rfl⟩
  next => exact ⟨_, _, rfl, Or.inr rfl⟩

theorem quoted_append_ne (s : String) {c : Char} (hdouble : c ≠ '"') (hsingle : c ≠ '\'')
    (rest after : List Char) : quoted s ++ rest ≠ c :: after := by
  obtain ⟨quote, tail, hquoted, hquote⟩ := quoted_head s
  rw [hquoted]
  intro heq
  obtain ⟨rfl, _⟩ := List.cons.inj heq
  exact hquote.elim hdouble hsingle

theorem readValue_quoted (fuel : Nat) (s : String) {rest : List Char} (h : endsString rest) :
    readValue (fuel + 1) (quoted s ++ rest) = some (.str s, rest) := by
  rw [readValue.eq_4, readString?_quoted s h]
  · simp
  · exact quoted_append_ne s (by decide) (by decide) rest
  · exact quoted_append_ne s (by decide) (by decide) rest

theorem skipFiller_quoted (s : String) (rest : List Char) :
    skipFiller false (quoted s ++ rest) = quoted s ++ rest := by
  obtain ⟨quote, tail, hquoted, hquote⟩ := quoted_head s
  rw [hquoted]
  exact skipFiller_stop (by rcases hquote with rfl | rfl <;> decide) _

/-- A string among the items of an array, behind which the array ends or goes on. -/
theorem readItems_quoted (fuel : Nat) (s : String) {front rest : List Char} {c : Char}
    (hfront : skipFiller false (front ++ (quoted s ++ c :: rest)) = quoted s ++ c :: rest)
    (hc : c = ',' ∨ c = ']') :
    readItems (fuel + 2) (front ++ (quoted s ++ c :: rest)) =
      if c = ']' then some ([.str s], rest)
      else (readItems (fuel + 1) rest).map fun (items, rest) => (.str s :: items, rest) := by
  have hends : endsString (c :: rest) := by
    rcases hc with rfl | rfl <;> exact fun _ => ⟨by simp, by simp⟩
  have hstop : skipFiller false (c :: rest) = c :: rest :=
    skipFiller_stop (by rcases hc with rfl | rfl <;> decide) rest
  rw [readItems, hfront]
  split
  next heq => exact absurd heq (quoted_append_ne s (by decide) (by decide) _ _)
  next =>
    rw [readValue_quoted fuel s hends]
    dsimp only
    rw [hstop]
    rcases hc with rfl | rfl <;> rfl

/-- Items on lines of their own. -/
theorem readItems_lines {fuel : Nat} {items : List String} (h : items.length < fuel)
    (rest : List Char) :
    readItems fuel ('\n' :: (items.flatMap
        (fun item => "    ".toList ++ quoted item ++ [',', '\n']) ++ ']' :: rest)) =
      some (items.map .str, rest) := by
  induction items generalizing fuel with
  | nil =>
    obtain ⟨fuel, rfl⟩ := Nat.exists_eq_add_of_lt h
    simp [readItems, skipFiller]
  | cons item items ih =>
    rw [List.length_cons] at h
    obtain ⟨fuel, rfl⟩ : ∃ less, fuel = less + 2 := ⟨fuel - 2, by omega⟩
    have hlines : '\n' :: ((item :: items).flatMap
        (fun item => "    ".toList ++ quoted item ++ [',', '\n']) ++ ']' :: rest) =
        ('\n' :: "    ".toList) ++ (quoted item ++ ',' :: '\n' :: (items.flatMap
          (fun item => "    ".toList ++ quoted item ++ [',', '\n']) ++ ']' :: rest)) := by simp
    rw [hlines, readItems_quoted fuel item (skipFiller_quoted item _) (Or.inl rfl),
      if_neg (by decide), ih (by omega)]
    rfl

theorem length_le_flatMap {α β : Type} {f : α → List β} {xs : List α} (h : ∀ x ∈ xs, f x ≠ []) :
    xs.length ≤ (xs.flatMap f).length := by
  induction xs with
  | nil => exact Nat.zero_le _
  | cons x xs ih =>
    have hx := List.length_pos_iff.mpr (h x List.mem_cons_self)
    have hxs := ih fun later hl => h later (List.mem_cons_of_mem _ hl)
    rw [List.flatMap_cons, List.length_cons, List.length_append]
    omega

theorem length_le_stringList (items : List String) : items.length ≤ (stringList items).length := by
  unfold stringList
  split
  next => exact Nat.zero_le _
  next => simp
  next =>
    have hlines : items.length ≤
        (items.flatMap fun item => "    ".toList ++ quoted item ++ [',', '\n']).length :=
      length_le_flatMap (by simp)
    simp only [List.length_append, List.length_cons, List.length_nil] at hlines ⊢
    omega

theorem readValue_stringList {fuel : Nat} {items : List String} (h : items.length + 1 < fuel)
    (rest : List Char) :
    readValue fuel (stringList items ++ rest) = some (.arr false (items.map .str), rest) := by
  obtain ⟨fuel, rfl⟩ : ∃ less, fuel = less + 1 := ⟨fuel - 1, by omega⟩
  unfold stringList
  split
  next =>
    obtain ⟨fuel, rfl⟩ : ∃ less, fuel = less + 1 := ⟨fuel - 1, by omega⟩
    simp [readValue, readItems, skipFiller]
  next item =>
    rw [List.length_singleton] at h
    obtain ⟨fuel, rfl⟩ : ∃ less, fuel = less + 2 := ⟨fuel - 2, by omega⟩
    have hitem : readItems (fuel + 2) ([] ++ (quoted item ++ ']' :: rest)) =
        some ([.str item], rest) :=
      (readItems_quoted fuel item (skipFiller_quoted item _) (Or.inr rfl)).trans (if_pos rfl)
    rw [List.nil_append] at hitem
    rw [List.cons_append, List.append_assoc, List.singleton_append, readValue, hitem]
    rfl
  next =>
    have hlines := readItems_lines (show items.length < fuel by omega) rest
    simp only [List.cons_append, List.nil_append, List.append_assoc] at hlines ⊢
    rw [readValue, hlines]
    rfl

theorem digits?_of_digits {digits : List Char} (hne : digits ≠ [])
    (h : ∀ c ∈ digits, c.isDigit = true) : digits? Char.isDigit digits = some digits := by
  have hgroups : digits.splitOn '_' = [digits] := by
    rw [List.splitOn_eq_splitOnP]
    refine List.splitOnP_eq_singleton fun c hc => ?_
    by_contra hunder
    have hdigit := h c hc
    rw [eq_of_beq (by simpa using hunder : (c == '_') = true)] at hdigit
    cases hdigit
  have hall : digits.all Char.isDigit = true := List.all_eq_true.mpr h
  simp [digits?, hgroups, hne, hall]

theorem ofDigits_eq {digits : List Char} (h : ∀ c ∈ digits, c.isDigit = true) :
    ofDigits 10 digits = Json.ofDigits digits := by
  unfold ofDigits Json.ofDigits
  refine List.foldl_ext _ _ 0 fun n c hc => ?_
  have hdigit : ('0' ≤ c && c ≤ '9') = true := h c hc
  rw [hexValue?, if_pos hdigit]
  rfl

/-- The digits of a number are its whole part. -/
theorem wholePart?_digits (k : Nat) :
    wholePart? (Nat.toDigits 10 k) = some (Nat.toDigits 10 k) := by
  have hzero : (Nat.toDigits 10 k).length = 1 ∨ (Nat.toDigits 10 k).head? ≠ some '0' := by
    rcases Nat.eq_zero_or_pos k with rfl | hk
    · exact Or.inl rfl
    · exact Or.inr (Json.head?_digits hk)
  rw [wholePart?, digits?_of_digits Nat.toDigits_ne_nil fun c hc => Json.isDigit_of_mem_digits hc]
  simpa [Option.filter, or_iff_not_imp_left] using hzero

/-- The sign of a number that is written with one. -/
def signOf (negative : Bool) : List Char :=
  if negative then ['-'] else []

theorem splitSign_digits (negative : Bool) (k : Nat) :
    splitSign (signOf negative ++ Nat.toDigits 10 k) = (negative, Nat.toDigits 10 k) := by
  cases negative with
  | true => rfl
  | false =>
    obtain ⟨c, tail, hdigits, hc⟩ := Json.digits_head k
    rw [signOf, if_neg (by simp), List.nil_append, hdigits, splitSign]
    · rintro rest heq
      rw [(List.cons.inj heq).1] at hc
      cases hc
    · rintro rest heq
      rw [(List.cons.inj heq).1] at hc
      cases hc

theorem mem_signed {negative : Bool} {k : Nat} {c : Char}
    (h : c ∈ signOf negative ++ Nat.toDigits 10 k) : c = '-' ∨ c.isDigit = true := by
  rcases List.mem_append.mp h with h | h
  · cases negative with
    | true => exact Or.inl (List.mem_singleton.mp h)
    | false => simp [signOf] at h
  · exact Or.inr (Json.isDigit_of_mem_digits h)

theorem integer?_signed (negative : Bool) (k : Nat) :
    integer? (signOf negative ++ Nat.toDigits 10 k) =
      (some (if negative then -(k : Int) else k)).filter
        fun n => Int64.minValue.toInt ≤ n && n ≤ Int64.maxValue.toInt := by
  have hsecond {c d : Char} {rest : List Char}
      (h : signOf negative ++ Nat.toDigits 10 k = c :: d :: rest) : d = '-' ∨ d.isDigit = true := by
    have hmem : d ∈ c :: d :: rest := by simp
    rw [← h] at hmem
    exact mem_signed hmem
  have hvalue : ofDigits 10 (Nat.toDigits 10 k) = k := by
    rw [ofDigits_eq fun c hc => Json.isDigit_of_mem_digits hc, Json.ofDigits_digits]
  unfold integer?
  dsimp only
  split
  next heq => exact absurd (hsecond heq) (by decide)
  next heq => exact absurd (hsecond heq) (by decide)
  next heq => exact absurd (hsecond heq) (by decide)
  next =>
    rw [splitSign_digits]
    dsimp only
    rw [wholePart?_digits, Option.map_some, hvalue]

theorem toString_signed (n : Int) :
    ∃ negative k, (toString n).toList = signOf negative ++ Nat.toDigits 10 k ∧
      (if negative then -(k : Int) else k) = n := by
  rw [Int.toString_eq_repr, Int.repr_eq_if]
  split
  next h =>
    refine ⟨false, n.toNat, by simp [signOf], ?_⟩
    rw [if_neg (by simp)]
    omega
  next h =>
    refine ⟨true, (-n).toNat, by simp [signOf, String.toList_append], ?_⟩
    rw [if_pos rfl]
    omega

/-- A number is read as it is written. -/
theorem integer?_toString (n : Int64) : integer? (toString n.toInt).toList = some n.toInt := by
  obtain ⟨negative, k, hwritten, hn⟩ := toString_signed n.toInt
  have hlow : Int64.minValue.toInt ≤ n.toInt := n.le_toInt
  have hhigh : n.toInt ≤ Int64.maxValue.toInt := Int.le_of_lt_add_one n.toInt_lt
  rw [hwritten, integer?_signed, hn, Option.filter_some, if_pos]
  rw [decide_eq_true hlow, decide_eq_true hhigh]
  rfl

theorem readWord_whole (n : Int64) (rest : List Char) :
    readWord ((toString n.toInt).toList ++ '\n' :: rest) = some (.int n.toInt, '\n' :: rest) := by
  have hread := integer?_toString n
  have hword : ∀ c ∈ (toString n.toInt).toList, c = '-' ∨ c.isDigit = true := by
    obtain ⟨negative, k, hwritten, _⟩ := toString_signed n.toInt
    rw [hwritten]
    exact fun c hc => mem_signed hc
  generalize (toString n.toInt).toList = word at hread hword
  have hinside : ∀ c ∈ word, (!isDelimiter c) = true := by
    intro c hc
    rcases hword c hc with rfl | hdigit
    · decide
    · have hnone : [',', ']', '\x7d', '#', ' ', '\t', '\n', '\r'].all (!·.isDigit) = true := by
        decide
      by_contra hno
      have hmem : isDelimiter c = true := by simpa using hno
      have hc := List.all_eq_true.mp hnone c (List.contains_iff_mem.mp hmem)
      simp [hdigit] at hc
  have htake : (word ++ '\n' :: rest).takeWhile (!isDelimiter ·) = word := by
    rw [List.takeWhile_append_of_pos hinside, List.takeWhile_cons_of_neg (by decide),
      List.append_nil]
  have htrue : word ≠ "true".toList := by
    rintro rfl
    exact absurd (hword 't' (by decide)) (by decide)
  have hfalse : word ≠ "false".toList := by
    rintro rfl
    exact absurd (hword 'f' (by decide)) (by decide)
  unfold readWord
  dsimp only
  rw [htake, List.drop_left, if_neg htrue, if_neg hfalse, hread]

theorem readWord_flag (b : Bool) (rest : List Char) :
    readWord (flag b ++ '\n' :: rest) = some (.bool b, '\n' :: rest) := by
  cases b <;> rfl

theorem readValue_word {c : Char} (h : c ∉ ['[', '\x7b', '"', '\'']) (fuel : Nat)
    (rest : List Char) : readValue (fuel + 1) (c :: rest) = readWord (c :: rest) := by
  simp only [List.mem_cons, List.not_mem_nil, or_false, not_or] at h
  obtain ⟨hbracket, hbrace, hdouble, hsingle⟩ := h
  have hstring : readString? (c :: rest) = none := by
    rw [readString?.eq_5]
    · exact fun _ heq => hdouble (List.cons.inj heq).1
    · exact fun _ heq => hdouble (List.cons.inj heq).1
    · exact fun _ heq => hsingle (List.cons.inj heq).1
    · exact fun _ heq => hsingle (List.cons.inj heq).1
  rw [readValue.eq_4, hstring]
  · exact fun _ heq => hbracket (List.cons.inj heq).1
  · exact fun _ heq => hbrace (List.cons.inj heq).1

/-- The values that documents are written with. -/
inductive Plain
  | text (s : String)
  | texts (items : List String)
  | whole (n : Int64)
  | flag (b : Bool)
  deriving DecidableEq

namespace Plain

def written : Plain → List Char
  | text s => quoted s
  | texts items => stringList items
  | whole n => (toString n.toInt).toList
  | flag b => Toml.flag b

def toToml : Plain → Toml
  | text s => .str s
  | texts items => .arr false (items.map .str)
  | whole n => .int n.toInt
  | flag b => .bool b

theorem whole_head (n : Int64) : ∃ c tail, (whole n).written = c :: tail ∧
    c ∉ ['[', '\x7b', '"', '\'', ' ', '\t'] := by
  obtain ⟨negative, k, hwritten, _⟩ := toString_signed n.toInt
  rw [written, hwritten]
  cases negative with
  | true => exact ⟨_, _, rfl, by decide⟩
  | false =>
    obtain ⟨c, tail, hdigits, hc⟩ := Json.digits_head k
    have hnone : ['[', '\x7b', '"', '\'', ' ', '\t'].all (!·.isDigit) = true := by decide
    refine ⟨c, tail, hdigits, fun hmem => ?_⟩
    have hno := List.all_eq_true.mp hnone c hmem
    simp [hc] at hno

theorem written_head (value : Plain) :
    ∃ c tail, value.written = c :: tail ∧ c ≠ ' ' ∧ c ≠ '\t' := by
  cases value with
  | text s =>
    obtain ⟨quote, tail, hquoted, hquote⟩ := quoted_head s
    exact ⟨quote, tail, hquoted, by rcases hquote with rfl | rfl <;> decide⟩
  | texts items =>
    rw [written, stringList.eq_def]
    split <;> exact ⟨'[', _, rfl, by decide⟩
  | whole n =>
    obtain ⟨c, tail, hwritten, hc⟩ := whole_head n
    exact ⟨c, tail, hwritten, by simp_all⟩
  | flag b => cases b <;> exact ⟨_, _, rfl, by decide⟩

/-- A value at the end of a line is read as it is, given a step for each of its characters. -/
theorem readValue_written {fuel : Nat} {value : Plain} (h : value.written.length + 1 < fuel)
    (rest : List Char) :
    readValue fuel (value.written ++ '\n' :: rest) = some (value.toToml, '\n' :: rest) := by
  obtain ⟨fuel, rfl⟩ : ∃ less, fuel = less + 1 := ⟨fuel - 1, by omega⟩
  cases value with
  | text s => exact readValue_quoted fuel s fun _ => ⟨by simp, by simp⟩
  | texts items =>
    have hlength := length_le_stringList items
    rw [written] at h
    exact readValue_stringList (by omega) _
  | whole n =>
    obtain ⟨c, tail, hwritten, hc⟩ := whole_head n
    have hword := readWord_whole n rest
    rw [written] at hwritten
    rw [written]
    rw [hwritten] at hword ⊢
    exact (readValue_word (by simp_all) fuel _).trans hword
  | flag b =>
    have hword := readWord_flag b rest
    cases b with
    | true => exact (readValue_word (by decide) fuel _).trans hword
    | false => exact (readValue_word (by decide) fuel _).trans hword

theorem nesting_toToml (value : Plain) : value.toToml.nesting ≤ maxNesting := by
  have hitems (items : List String) : itemNesting (items.map .str) = 0 := by
    induction items with
    | nil => rfl
    | cons item items ih => simp [itemNesting, nesting, ih]
  cases value with
  | text s => exact Nat.zero_le _
  | texts items =>
    rw [toToml, nesting, hitems]
    decide
  | whole n => exact Nat.zero_le _
  | flag b => exact Nat.zero_le _

end Plain

end CrossRef.Toml
