import CrossRef.Proofs.JsonScalars
import Mathlib.Data.List.DropRight

namespace CrossRef.Json

/-- Whether a character may stand between the parts of a document. -/
def isGap (c : Char) : Bool :=
  c = ' ' || c = '\n' || c = '\t' || c = '\r'

mutual

/-- The texts of a value: its items and members stand in order, with any gaps between them. -/
inductive Writes : Json → List Char → Prop
  | null : Writes .null ['n', 'u', 'l', 'l']
  | yes : Writes (.bool true) ['t', 'r', 'u', 'e']
  | no : Writes (.bool false) ['f', 'a', 'l', 's', 'e']
  | nat (n : Nat) : Writes (.nat n) (Nat.toDigits 10 n)
  | str (s : String) : Writes (.str s) (quoted s)
  | noItems : Writes (.arr []) ['[', ']']
  | arr (gap : List Char) {items : List Json} {inner : List Char} :
    WritesItems items inner → gap.all isGap → Writes (.arr items) ('[' :: (inner ++ gap ++ [']']))
  | noMembers : Writes (.obj []) [openBrace, closeBrace]
  | obj (gap : List Char) {members : List (String × Json)} {inner : List Char} :
    WritesMembers members inner → gap.all isGap →
      Writes (.obj members) (openBrace :: (inner ++ gap ++ [closeBrace]))

inductive WritesItems : List Json → List Char → Prop
  | last (gap : List Char) {item : Json} {text : List Char} :
    gap.all isGap → Writes item text → WritesItems [item] (gap ++ text)
  | cons (gap : List Char) {item : Json} {items : List Json} {text texts : List Char} :
    gap.all isGap → Writes item text → WritesItems items texts →
      WritesItems (item :: items) (gap ++ text ++ ',' :: texts)

inductive WritesMembers : List (String × Json) → List Char → Prop
  | last (gap behind : List Char) {key : String} {value : Json} {text : List Char} :
    gap.all isGap → behind.all isGap → Writes value text →
      WritesMembers [(key, value)] (gap ++ quoted key ++ ':' :: (behind ++ text))
  | cons (gap behind : List Char) {key : String} {value : Json} {members : List (String × Json)}
      {text texts : List Char} :
    gap.all isGap → behind.all isGap → Writes value text → WritesMembers members texts →
      WritesMembers ((key, value) :: members)
        (gap ++ quoted key ++ ':' :: (behind ++ text ++ ',' :: texts))

end

theorem skipBlanks_gap {gap : List Char} (h : gap.all isGap) (cs : List Char) :
    skipBlanks (gap ++ cs) = skipBlanks cs :=
  List.dropWhile_append_of_pos (List.all_eq_true.1 h)

theorem skipBlanks_cons {c : Char} (h : isGap c = false) (cs : List Char) :
    skipBlanks (c :: cs) = c :: cs :=
  List.dropWhile_cons_of_neg (Bool.eq_false_iff.1 h)

theorem skipBlanks_skipBlanks (cs : List Char) : skipBlanks (skipBlanks cs) = skipBlanks cs :=
  List.dropWhile_idempotent _ cs

/-- Only what follows the gap in front of a value is read. -/
theorem readValue_congr {cs ds : List Char} (h : skipBlanks cs = skipBlanks ds) (fuel : Nat) :
    readValue fuel cs = readValue fuel ds := by
  cases fuel with
  | zero => rfl
  | succ fuel => rw [readValue, readValue, h]

theorem readItems_skipBlanks (fuel : Nat) (cs : List Char) :
    readItems fuel (skipBlanks cs) = readItems fuel cs := by
  cases fuel with
  | zero => rfl
  | succ fuel => rw [readItems, readItems, readValue_congr (skipBlanks_skipBlanks cs)]

theorem readMembers_skipBlanks (fuel : Nat) (cs : List Char) :
    readMembers fuel (skipBlanks cs) = readMembers fuel cs := by
  cases fuel with
  | zero => rfl
  | succ fuel => rw [readMembers, readMembers, skipBlanks_skipBlanks]

/-- A number ends where a gap or a mark between values begins. -/
theorem endsNumber_gap {gap : List Char} (h : gap.all isGap) (c : Char) (rest : List Char)
    (hc : endsNumber (c :: rest)) : endsNumber (gap ++ c :: rest) := by
  cases gap with
  | nil => exact hc
  | cons blank gap =>
    have hblank : isGap blank := (List.all_eq_true.1 h) blank List.mem_cons_self
    simp only [isGap, Bool.or_eq_true, decide_eq_true_eq] at hblank
    rcases hblank with ((rfl | rfl) | rfl) | rfl <;> rfl

theorem isGap_of_isDigit {c : Char} (h : c.isDigit) : isGap c = false := by
  by_contra hgap
  simp only [isGap, Bool.not_eq_false, Bool.or_eq_true, decide_eq_true_eq] at hgap
  rcases hgap with ((rfl | rfl) | rfl) | rfl <;> cases h

/-- The text of a value begins with neither a gap nor a closing bracket. -/
theorem Writes.head {value : Json} {text : List Char} (h : Writes value text) :
    ∃ c tail, text = c :: tail ∧ isGap c = false ∧ c ≠ ']' := by
  cases h with
  | nat n =>
    obtain ⟨c, digits, hdigits, hc⟩ := digits_head n
    refine ⟨c, digits, hdigits, isGap_of_isDigit hc, ?_⟩
    rintro rfl
    cases hc
  | _ => exact ⟨_, _, rfl, by decide, by decide⟩

theorem WritesItems.head {items : List Json} {text : List Char} (h : WritesItems items text)
    (rest : List Char) : ∃ c tail, skipBlanks (text ++ rest) = c :: tail ∧ c ≠ ']' := by
  cases h with
  | last gap hgap hitem =>
    obtain ⟨c, tail, rfl, hc, hne⟩ := hitem.head
    refine ⟨c, tail ++ rest, ?_, hne⟩
    rw [List.append_assoc, skipBlanks_gap hgap]
    exact skipBlanks_cons hc _
  | @cons gap _ _ _ texts hgap hitem hitems =>
    obtain ⟨c, tail, rfl, hc, hne⟩ := hitem.head
    refine ⟨c, tail ++ (',' :: texts ++ rest), ?_, hne⟩
    rw [List.append_assoc, List.append_assoc, skipBlanks_gap hgap]
    exact skipBlanks_cons hc _

theorem skipBlanks_quoted (gap : List Char) (h : gap.all isGap) (key : String) (rest : List Char) :
    skipBlanks (gap ++ quoted key ++ rest) =
      '"' :: (key.toList.flatMap escapeChar ++ '"' :: rest) := by
  rw [List.append_assoc, skipBlanks_gap h, quoted, List.cons_append, skipBlanks_cons rfl,
    List.append_assoc, List.singleton_append]

theorem WritesMembers.head {members : List (String × Json)} {text : List Char}
    (h : WritesMembers members text) (rest : List Char) :
    ∃ tail, skipBlanks (text ++ rest) = '"' :: tail := by
  cases h with
  | last gap behind hgap =>
    exact ⟨_, by rw [List.append_assoc]; exact skipBlanks_quoted gap hgap _ _⟩
  | cons gap behind hgap =>
    exact ⟨_, by rw [List.append_assoc]; exact skipBlanks_quoted gap hgap _ _⟩

theorem readValue_digits (n : Nat) (fuel : Nat) {rest : List Char} (h : endsNumber rest) :
    readValue (fuel + 1) (Nat.toDigits 10 n ++ rest) = some (.nat n, rest) := by
  obtain ⟨c, tail, hdigits, hc⟩ := digits_head n
  have hskip : skipBlanks (Nat.toDigits 10 n ++ rest) = Nat.toDigits 10 n ++ rest := by
    rw [hdigits]
    exact skipBlanks_cons (isGap_of_isDigit hc) _
  have hother (d : Char) (after : List Char) (hd : d.isDigit = false) :
      Nat.toDigits 10 n ++ rest ≠ d :: after := by
    intro heq
    rw [hdigits, List.cons_append, List.cons.injEq] at heq
    rw [heq.1, hd] at hc
    cases hc
  rw [readValue, hskip]
  split
  case h_7 => exact readNumber_digits n h
  all_goals
    rename_i heq
    exact absurd heq (hother _ _ rfl)

theorem readValue_quoted (s : String) (fuel : Nat) (rest : List Char) :
    readValue (fuel + 1) (quoted s ++ rest) = some (.str s, rest) := by
  have hskip := skipBlanks_quoted [] rfl s rest
  rw [List.nil_append] at hskip
  rw [readValue, hskip]
  simp only [readText_quoted, Option.map_some, ofText, String.ofList_toList]

section Steps

variable {before behind cs rest after : List Char} {key : String} {value : Json} {fuel : Nat}

theorem readValue_arr {items : List Json} (hsome : ∀ tail, skipBlanks cs ≠ ']' :: tail)
    (hitems : readItems fuel cs = some (items, rest)) :
    readValue (fuel + 1) ('[' :: cs) = some (.arr items, rest) := by
  have hopen : skipBlanks ('[' :: cs) = '[' :: cs := skipBlanks_cons rfl cs
  rw [← readItems_skipBlanks] at hitems
  rw [readValue, hopen]
  simp only [hitems, Option.map_some]

theorem readValue_obj {members : List (String × Json)}
    (hsome : ∀ tail, skipBlanks cs ≠ '\x7d' :: tail)
    (hmembers : readMembers fuel cs = some (some members, rest)) :
    readValue (fuel + 1) (openBrace :: cs) = some (.obj members, rest) := by
  have hopen : skipBlanks (openBrace :: cs) = '\x7b' :: cs := skipBlanks_cons rfl cs
  rw [← readMembers_skipBlanks] at hmembers
  rw [readValue, hopen]
  simp only [hmembers, Option.map_some, ofMembers]

theorem readItems_last (hbefore : before.all isGap)
    (hvalue : readValue fuel cs = some (value, rest)) (hclose : skipBlanks rest = ']' :: after) :
    readItems (fuel + 1) (before ++ cs) = some ([value], after) := by
  rw [readItems, readValue_congr (skipBlanks_gap hbefore cs), hvalue]
  simp only [hclose]

theorem readItems_more {items : List Json} {more : List Char} (hbefore : before.all isGap)
    (hvalue : readValue fuel cs = some (value, rest)) (hcomma : skipBlanks rest = ',' :: more)
    (hmore : readItems fuel more = some (items, after)) :
    readItems (fuel + 1) (before ++ cs) = some (value :: items, after) := by
  rw [readItems, readValue_congr (skipBlanks_gap hbefore cs), hvalue]
  simp only [hcomma, hmore, Option.map_some]

theorem readMembers_last (hbefore : before.all isGap) (hbehind : behind.all isGap)
    (hvalue : readValue fuel cs = some (value, rest))
    (hclose : skipBlanks rest = closeBrace :: after) :
    readMembers (fuel + 1) (before ++ quoted key ++ ':' :: (behind ++ cs)) =
      some (some [(key, value)], after) := by
  have hcolon : skipBlanks (':' :: (behind ++ cs)) = ':' :: (behind ++ cs) := skipBlanks_cons rfl _
  rw [readMembers, skipBlanks_quoted before hbefore]
  simp only [readText_quoted, hcolon, readValue_congr (skipBlanks_gap hbehind cs), hvalue, hclose]
  simp [closeBrace, consMember]

theorem readMembers_more {members : List (String × Json)} {more : List Char}
    (hbefore : before.all isGap) (hbehind : behind.all isGap)
    (hvalue : readValue fuel cs = some (value, rest)) (hcomma : skipBlanks rest = ',' :: more)
    (hmore : readMembers fuel more = some (some members, after)) :
    readMembers (fuel + 1) (before ++ quoted key ++ ':' :: (behind ++ cs)) =
      some (some ((key, value) :: members), after) := by
  have hcolon : skipBlanks (':' :: (behind ++ cs)) = ':' :: (behind ++ cs) := skipBlanks_cons rfl _
  rw [readMembers, skipBlanks_quoted before hbefore]
  simp only [readText_quoted, hcolon, readValue_congr (skipBlanks_gap hbehind cs), hvalue, hcomma,
    hmore]
  simp [consMember]

end Steps

-- Each reader is given twice as many steps as the text has characters: a value costs one step for
-- itself and one for its place among the items or members, and it has a mark of its own for each.
mutual

theorem readValue_writes {value : Json} {text : List Char} (h : Writes value text) (fuel : Nat)
    (hfuel : 2 * text.length ≤ fuel) (rest : List Char) (hrest : endsNumber rest) :
    readValue fuel (text ++ rest) = some (value, rest) := by
  obtain ⟨fuel, rfl⟩ : ∃ k, fuel = k + 1 := by
    obtain ⟨c, tail, rfl, -⟩ := h.head
    exact ⟨fuel - 1, by simp only [List.length_cons] at hfuel; omega⟩
  cases h with
  | null => rfl
  | yes => rfl
  | no => rfl
  | nat n => exact readValue_digits n fuel hrest
  | str s => exact readValue_quoted s fuel rest
  | noItems => rfl
  | noMembers => rfl
  | @arr gap items inner hitems hgap =>
    simp only [List.length_cons, List.length_append] at hfuel
    have hread := readItems_writes hitems hgap fuel (by omega) rest
    obtain ⟨c, tail, hhead, hc⟩ := hitems.head (gap ++ ']' :: rest)
    have htext : '[' :: (inner ++ gap ++ [']']) ++ rest = '[' :: (inner ++ gap ++ ']' :: rest) := by
      simp
    rw [htext]
    refine readValue_arr ?_ hread
    intro other heq
    rw [List.append_assoc, hhead] at heq
    exact hc (List.cons.inj heq).1
  | @obj gap members inner hmembers hgap =>
    simp only [List.length_cons, List.length_append] at hfuel
    have hread := readMembers_writes hmembers hgap fuel (by omega) rest
    obtain ⟨tail, hhead⟩ := hmembers.head (gap ++ closeBrace :: rest)
    have htext : openBrace :: (inner ++ gap ++ [closeBrace]) ++ rest =
        openBrace :: (inner ++ gap ++ closeBrace :: rest) := by
      simp
    rw [htext]
    refine readValue_obj ?_ hread
    intro other heq
    rw [List.append_assoc, hhead] at heq
    cases heq

theorem readItems_writes {items : List Json} {text gap : List Char} (h : WritesItems items text)
    (hgap : gap.all isGap) (fuel : Nat) (hfuel : 2 * text.length + 1 ≤ fuel) (rest : List Char) :
    readItems fuel (text ++ gap ++ ']' :: rest) = some (items, rest) := by
  obtain ⟨fuel, rfl⟩ : ∃ k, fuel = k + 1 := ⟨fuel - 1, by omega⟩
  cases h with
  | @last before item text hbefore hitem =>
    simp only [List.length_append] at hfuel
    have hread := readValue_writes hitem fuel (by omega) (gap ++ ']' :: rest)
      (endsNumber_gap hgap ']' rest rfl)
    rw [List.append_assoc, List.append_assoc]
    exact readItems_last hbefore hread (skipBlanks_gap hgap _)
  | @cons before item items text texts hbefore hitem hitems =>
    simp only [List.length_cons, List.length_append] at hfuel
    have hread := readValue_writes hitem fuel (by omega) (',' :: (texts ++ gap ++ ']' :: rest)) rfl
    have hmore := readItems_writes hitems hgap fuel (by omega) rest
    have htext : before ++ text ++ ',' :: texts ++ gap ++ ']' :: rest =
        before ++ (text ++ ',' :: (texts ++ gap ++ ']' :: rest)) := by simp
    rw [htext]
    exact readItems_more hbefore hread rfl hmore

theorem readMembers_writes {members : List (String × Json)} {text gap : List Char}
    (h : WritesMembers members text) (hgap : gap.all isGap) (fuel : Nat)
    (hfuel : 2 * text.length + 1 ≤ fuel) (rest : List Char) :
    readMembers fuel (text ++ gap ++ closeBrace :: rest) = some (some members, rest) := by
  obtain ⟨fuel, rfl⟩ : ∃ k, fuel = k + 1 := ⟨fuel - 1, by omega⟩
  cases h with
  | @last before behind key value text hbefore hbehind hvalue =>
    simp only [List.length_cons, List.length_append] at hfuel
    have hread := readValue_writes hvalue fuel (by omega) (gap ++ closeBrace :: rest)
      (endsNumber_gap hgap closeBrace rest rfl)
    have htext : before ++ quoted key ++ ':' :: (behind ++ text) ++ gap ++ closeBrace :: rest =
        before ++ quoted key ++ ':' :: (behind ++ (text ++ (gap ++ closeBrace :: rest))) := by simp
    rw [htext]
    exact readMembers_last hbefore hbehind hread (skipBlanks_gap hgap _)
  | @cons before behind key value members text texts hbefore hbehind hvalue hmembers =>
    simp only [List.length_cons, List.length_append] at hfuel
    have hread := readValue_writes hvalue fuel (by omega)
      (',' :: (texts ++ gap ++ closeBrace :: rest)) rfl
    have hmore := readMembers_writes hmembers hgap fuel (by omega) rest
    have htext : before ++ quoted key ++ ':' :: (behind ++ text ++ ',' :: texts) ++ gap ++
          closeBrace :: rest =
        before ++ quoted key ++
          ':' :: (behind ++ (text ++ ',' :: (texts ++ gap ++ closeBrace :: rest))) := by simp
    rw [htext]
    exact readMembers_more hbefore hbehind hread rfl hmore

end

/-- A text of a value with nothing behind it is read as the value. -/
theorem parse?_writes {value : Json} {text : List Char} (h : Writes value text) :
    parse? (String.ofList text) = some value := by
  have hread := readValue_writes h (2 * text.length + 2) (by omega) [] rfl
  rw [List.append_nil] at hread
  simp only [parse?, String.toList_ofList, hread]
  rfl

mutual

/-- Whether a value is made of texts, whole numbers and names alone. -/
def isPlain : Json → Bool
  | .number _ | .broken _ => false
  | .arr items => arePlain items
  | .obj members => arePlainMembers members
  | .null | .bool _ | .nat _ | .str _ => true

def arePlain : List Json → Bool
  | [] => true
  | item :: items => item.isPlain && arePlain items

def arePlainMembers : List (String × Json) → Bool
  | [] => true
  | (_, value) :: members => value.isPlain && arePlainMembers members

end

mutual

theorem writes_compact (value : Json) (h : value.isPlain) : Writes value (compact value) := by
  cases value with
  | null => exact .null
  | bool b =>
    cases b with
    | false => exact .no
    | true => exact .yes
  | nat n =>
    rw [compact, Nat.toString_eq_ofList_toDigits, String.toList_ofList]
    exact .nat n
  | str s => exact .str s
  | number written => cases h
  | broken written => cases h
  | arr items =>
    cases items with
    | nil => exact .noItems
    | cons item items =>
      have hitems := writesItems_compact (item :: items) (List.cons_ne_nil _ _) h
      have harr := Writes.arr [] hitems rfl
      rwa [List.append_nil] at harr
  | obj members =>
    cases members with
    | nil => exact .noMembers
    | cons member members =>
      have hmembers := writesMembers_compact (member :: members) (List.cons_ne_nil _ _) h
      have hobj := Writes.obj [] hmembers rfl
      rwa [List.append_nil] at hobj

theorem writesItems_compact (items : List Json) (hsome : items ≠ []) (h : arePlain items) :
    WritesItems items (compactItems items) := by
  match items with
  | [] => exact absurd rfl hsome
  | [item] => exact .last [] rfl (writes_compact item (Bool.and_eq_true_iff.1 h).1)
  | item :: next :: items =>
    obtain ⟨hitem, hitems⟩ := Bool.and_eq_true_iff.1 h
    exact .cons [] rfl (writes_compact item hitem)
      (writesItems_compact (next :: items) (List.cons_ne_nil _ _) hitems)

theorem writesMembers_compact (members : List (String × Json)) (hsome : members ≠ [])
    (h : arePlainMembers members) : WritesMembers members (compactMembers members) := by
  match members with
  | [] => exact absurd rfl hsome
  | [(key, value)] =>
    exact .last [] [] rfl rfl
      (writes_compact value (Bool.and_eq_true_iff.1 h).1)
  | (key, value) :: next :: members =>
    obtain ⟨hvalue, hmembers⟩ := Bool.and_eq_true_iff.1 h
    exact .cons [] [] rfl rfl (writes_compact value hvalue)
      (writesMembers_compact (next :: members) (List.cons_ne_nil _ _) hmembers)

end

theorem isGap_newline (depth : Nat) : (newline depth).all isGap := by
  simp [newline, isGap]

mutual

theorem writes_pretty (depth : Nat) (value : Json) (h : value.isPlain) :
    Writes value (pretty depth value) := by
  cases value with
  | arr items =>
    cases items with
    | nil => exact .noItems
    | cons item items =>
      have hitems := writesItems_pretty (depth + 1) (item :: items) (List.cons_ne_nil _ _) h
      exact .arr _ hitems (isGap_newline depth)
  | obj members =>
    cases members with
    | nil => exact .noMembers
    | cons member members =>
      have hmembers := writesMembers_pretty (depth + 1) (member :: members) (List.cons_ne_nil _ _) h
      exact .obj _ hmembers (isGap_newline depth)
  | _ => exact writes_compact _ h

theorem writesItems_pretty (depth : Nat) (items : List Json) (hsome : items ≠ [])
    (h : arePlain items) : WritesItems items (prettyItems depth items) := by
  match items with
  | [] => exact absurd rfl hsome
  | [item] =>
    exact .last _ (isGap_newline depth) (writes_pretty depth item (Bool.and_eq_true_iff.1 h).1)
  | item :: next :: items =>
    obtain ⟨hitem, hitems⟩ := Bool.and_eq_true_iff.1 h
    exact .cons _ (isGap_newline depth) (writes_pretty depth item hitem)
      (writesItems_pretty depth (next :: items) (List.cons_ne_nil _ _) hitems)

theorem writesMembers_pretty (depth : Nat) (members : List (String × Json)) (hsome : members ≠ [])
    (h : arePlainMembers members) : WritesMembers members (prettyMembers depth members) := by
  match members with
  | [] => exact absurd rfl hsome
  | [(key, value)] =>
    exact .last _ [' '] (isGap_newline depth) rfl
      (writes_pretty depth value (Bool.and_eq_true_iff.1 h).1)
  | (key, value) :: next :: members =>
    obtain ⟨hvalue, hmembers⟩ := Bool.and_eq_true_iff.1 h
    exact .cons _ [' '] (isGap_newline depth) rfl (writes_pretty depth value hvalue)
      (writesMembers_pretty depth (next :: members) (List.cons_ne_nil _ _) hmembers)

end

/-- Both forms of a plain value are read as the value. -/
theorem parse?_render {value : Json} (h : value.isPlain) (laidOut : Bool) :
    parse? (value.render laidOut) = some value := by
  cases laidOut with
  | false => exact parse?_writes (writes_compact value h)
  | true => exact parse?_writes (writes_pretty 0 value h)

end CrossRef.Json
