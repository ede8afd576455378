import CrossRef.Proofs.TomlValues

namespace CrossRef.Toml

/-- A key that stands bare. -/
def IsBareKey (key : String) : Prop :=
  key.toList ≠ [] ∧ key.toList.all isBareKeyChar = true

instance (key : String) : Decidable (IsBareKey key) :=
  inferInstanceAs (Decidable (_ ∧ _))

theorem IsBareKey.head {key : String} (h : IsBareKey key) :
    ∃ c tail, key.toList = c :: tail ∧
      c ∉ [' ', '\t', '\n', '\r', '#', '[', '"', '\''] := by
  obtain ⟨c, tail, hkey⟩ := List.exists_cons_of_ne_nil h.1
  have hnone : [' ', '\t', '\n', '\r', '#', '[', '"', '\''].all (!isBareKeyChar ·) = true := by
    decide
  refine ⟨c, tail, hkey, fun hmem => ?_⟩
  have hc := List.all_eq_true.mp h.2 c (by simp [hkey])
  have hno := List.all_eq_true.mp hnone c hmem
  simp [hc] at hno

theorem IsBareKey.append_ne {key : String} (h : IsBareKey key) {c : Char}
    (hc : c ∈ [' ', '\t', '\n', '\r', '#', '[', '"', '\'']) (rest after : List Char) :
    key.toList ++ rest ≠ c :: after := by
  obtain ⟨first, tail, hkey, hfirst⟩ := h.head
  rw [hkey]
  intro heq
  exact hfirst ((List.cons.inj heq).1 ▸ hc)

theorem skipBlanks_stop {c : Char} (hblank : c ≠ ' ') (htab : c ≠ '\t') (rest : List Char) :
    skipBlanks (c :: rest) = c :: rest :=
  List.dropWhile_cons_of_neg (by simp [hblank, htab])

theorem readKey_bare {key : String} (h : IsBareKey key) {c : Char} (hc : isBareKeyChar c = false)
    (rest : List Char) : readKey (key.toList ++ c :: rest) = some (key, c :: rest) := by
  have htake : (key.toList ++ c :: rest).takeWhile isBareKeyChar = key.toList := by
    rw [List.takeWhile_append_of_pos (List.all_eq_true.mp h.2),
      List.takeWhile_cons_of_neg (by simp [hc]), List.append_nil]
  rw [readKey.eq_3, htake]
  · split
    next hnil => exact absurd hnil h.1
    next => rw [List.drop_left, String.ofList_toList]
  · exact h.append_ne (by decide) _
  · exact h.append_ne (by decide) _

/-- A bare key with no dot behind it is a path of its own. -/
theorem readPath_bare {key : String} (h : IsBareKey key) {c d : Char} {rest after : List Char}
    (hc : isBareKeyChar c = false) (hafter : skipBlanks (c :: rest) = d :: after) (hd : d ≠ '.') :
    readPath maxNesting (key.toList ++ c :: rest) = some ([key], d :: after) := by
  obtain ⟨first, tail, hkey, hfirst⟩ := h.head
  have hskip : skipBlanks (key.toList ++ c :: rest) = key.toList ++ c :: rest := by
    rw [hkey]
    exact skipBlanks_stop (by simp_all) (by simp_all) _
  rw [maxNesting, readPath, hskip, readKey_bare h hc]
  dsimp only
  rw [hafter]
  split
  next heq => exact absurd (List.cons.inj heq).1 hd
  next => rfl

/-- The text of a line, with blank lines before it perhaps, reads as a statement, whatever
follows. -/
def Reads (text : List Char) (statement : Statement) : Prop :=
  ∀ rest, ∃ c cs after, skipFiller false (text ++ rest) = c :: cs ∧
    readStatement (c :: cs) = some (statement, after) ∧ endOfLine? after = some rest

theorem Reads.behind_blanks {text : List Char} {statement : Statement} (h : Reads text statement)
    (gap : Nat) : Reads (List.replicate gap '\n' ++ text) statement := by
  induction gap with
  | zero => exact h
  | succ gap ih => exact ih

theorem Reads.ne_nil {text : List Char} {statement : Statement} (h : Reads text statement) :
    text ≠ [] := by
  rintro rfl
  obtain ⟨c, cs, after, hskip, _⟩ := h []
  simp [skipFiller] at hskip

theorem reads_headerLine {name : String} (h : IsBareKey name) :
    Reads (headerLine name) (.table [name]) := by
  intro rest
  have hpath : readPath maxNesting (name.toList ++ ']' :: '\n' :: rest) =
      some ([name], ']' :: '\n' :: rest) :=
    readPath_bare h (by decide) (skipBlanks_stop (by decide) (by decide) _) (by decide)
  refine ⟨'[', name.toList ++ ']' :: '\n' :: rest, '\n' :: rest, ?_, ?_, rfl⟩
  · rw [headerLine, List.cons_append, List.append_assoc]
    exact skipFiller_stop (by decide) _
  · rw [readStatement.eq_2, hpath]
    · rfl
    · exact h.append_ne (by decide) _

theorem reads_entryLine {key : String} (h : IsBareKey key) (value : Plain) :
    Reads (entryLine key value.written) (.entry [key] value.toToml) := by
  intro rest
  have hline : entryLine key value.written ++ rest =
      key.toList ++ ' ' :: '=' :: ' ' :: (value.written ++ '\n' :: rest) := by simp [entryLine]
  have hpath : readPath maxNesting
      (key.toList ++ ' ' :: '=' :: ' ' :: (value.written ++ '\n' :: rest)) =
      some ([key], '=' :: ' ' :: (value.written ++ '\n' :: rest)) :=
    readPath_bare h (by decide) rfl (by decide)
  have hskip : skipBlanks (' ' :: (value.written ++ '\n' :: rest)) =
      value.written ++ '\n' :: rest := by
    obtain ⟨c, tail, hwritten, hblank, htab⟩ := value.written_head
    rw [hwritten]
    exact skipBlanks_stop hblank htab _
  have hfuel : value.written.length + 1 <
      2 * (' ' :: (value.written ++ '\n' :: rest)).length + 2 := by
    simp only [List.length_cons, List.length_append]
    omega
  have hvalue := Plain.readValue_written hfuel rest
  obtain ⟨first, tail, hkey, hfirst⟩ := h.head
  refine ⟨first, tail ++ ' ' :: '=' :: ' ' :: (value.written ++ '\n' :: rest), '\n' :: rest, ?_, ?_,
    rfl⟩
  · rw [hline, hkey]
    exact skipFiller_stop (by simp_all) _
  · rw [← List.cons_append, ← hkey, readStatement.eq_3, hpath]
    · simp only [hskip, hvalue, if_pos value.nesting_toToml]
    · exact fun after => h.append_ne (by decide) _ _
    · exact h.append_ne (by decide) _

/-- Lines are read one by one. -/
theorem readStatements_lines {fuel : Nat} {lines : List (List Char × Statement)}
    (h : ∀ line ∈ lines, Reads line.1 line.2) (hfuel : lines.length < fuel) :
    readStatements fuel (lines.flatMap (·.1)) = some (lines.map (·.2)) := by
  induction lines generalizing fuel with
  | nil =>
    obtain ⟨fuel, rfl⟩ := Nat.exists_eq_add_of_lt hfuel
    simp [readStatements, skipFiller]
  | cons line lines ih =>
    rw [List.length_cons] at hfuel
    obtain ⟨fuel, rfl⟩ : ∃ less, fuel = less + 1 := ⟨fuel - 1, by omega⟩
    obtain ⟨c, cs, after, hskip, hread, hend⟩ := h line List.mem_cons_self (lines.flatMap (·.1))
    have hrest := ih (fun later hl => h later (List.mem_cons_of_mem _ hl)) (by omega : _ < fuel)
    rw [List.flatMap_cons, readStatements, hskip]
    simp [hread, hend, hrest]

theorem lookup_eq_none {name : String} {members : Members} (h : name ∉ members.map (·.1)) :
    members.lookup name = none := by
  rw [List.lookup_eq_none_iff]
  intro member hmember
  rw [bne_iff_ne]
  rintro rfl
  exact h (List.mem_map_of_mem hmember)

theorem lookup_concat {name : String} {front : Members} (h : name ∉ front.map (·.1))
    (value : Toml) : (front ++ [(name, value)]).lookup name = some value := by
  rw [List.lookup_append, lookup_eq_none h]
  simp

theorem put_concat {name : String} {front : Members} (h : name ∉ front.map (·.1))
    (old value : Toml) : put name value (front ++ [(name, old)]) = front ++ [(name, value)] := by
  induction front with
  | nil => simp [put]
  | cons member front ih =>
    rw [List.map_cons, List.mem_cons, not_or] at h
    rw [List.cons_append, put, if_neg (Ne.symm h.1), ih h.2, List.cons_append]

section

variable {name : String} {front : Members} (hname : name ∉ front.map (·.1))

include hname

theorem Draft.add_table (current : List String) :
    Draft.add ⟨front, current⟩ (.table [name]) =
      some ⟨front ++ [(name, .table .header [])], [name]⟩ := by
  simp [Draft.add, openTable, within, lookup_eq_none hname]

theorem Draft.add_entry {inner : Members} {key : String} (hkey : key ∉ inner.map (·.1))
    (value : Toml) :
    Draft.add ⟨front ++ [(name, .table .header inner)], [name]⟩ (.entry [key] value) =
      some ⟨front ++ [(name, .table .header (inner ++ [(key, value)]))], [name]⟩ := by
  have hnew : inner.any (·.1 = key) = false := by
    rw [List.any_eq_false]
    intro member hmember heq
    exact hkey (List.mem_map.mpr ⟨member, hmember, of_decide_eq_true heq⟩)
  have hadd : addEntry [key] value inner = some (inner ++ [(key, value)]) := by
    simp [addEntry, within, addKey, hnew]
  simp [Draft.add, within, lookup_concat hname, hadd, put_concat hname]

/-- Entries go to the table of the last header, in their order. -/
theorem Draft.add_entries {inner : Members} {entries : List (String × Plain)}
    (hkeys : (inner.map (·.1) ++ entries.map (·.1)).Nodup) :
    (entries.map fun entry => Statement.entry [entry.1] entry.2.toToml).foldlM Draft.add
        ⟨front ++ [(name, .table .header inner)], [name]⟩ =
      some ⟨front ++ [(name, .table .header
        (inner ++ entries.map fun entry => (entry.1, entry.2.toToml)))], [name]⟩ := by
  induction entries generalizing inner with
  | nil => simp
  | cons entry entries ih =>
    obtain ⟨key, value⟩ := entry
    have hkey : key ∉ inner.map (·.1) := by
      intro hmem
      exact (List.nodup_append.mp hkeys).2.2 key hmem key List.mem_cons_self rfl
    have hrest : ((inner ++ [(key, value.toToml)]).map (·.1) ++ entries.map (·.1)).Nodup := by
      simpa using hkeys
    rw [List.map_cons, List.foldlM_cons, Draft.add_entry hname hkey]
    simpa using ih hrest

end

/-- A table of a document: the blank lines before its header, its name, and what its keys are set
to. -/
structure Section where
  gap : Nat
  name : String
  entries : List (String × Plain)

namespace Section

/-- The lines of a table with what they say. -/
def lines (part : Section) : List (List Char × Statement) :=
  (List.replicate part.gap '\n' ++ headerLine part.name, .table [part.name]) ::
    part.entries.map fun entry =>
      (entryLine entry.1 entry.2.written, .entry [entry.1] entry.2.toToml)

def written (part : Section) : List Char :=
  part.lines.flatMap (·.1)

def member (part : Section) : String × Toml :=
  (part.name, .table .header (part.entries.map fun entry => (entry.1, entry.2.toToml)))

/-- All names in a table stand bare, and no key is set twice. -/
structure IsNamed (part : Section) : Prop where
  name : IsBareKey part.name
  keys : ∀ entry ∈ part.entries, IsBareKey entry.1
  distinct : (part.entries.map (·.1)).Nodup

theorem reads_lines {part : Section} (h : part.IsNamed) :
    ∀ line ∈ part.lines, Reads line.1 line.2 := by
  intro line hline
  rcases List.mem_cons.mp hline with rfl | hline
  · exact (reads_headerLine h.name).behind_blanks part.gap
  · obtain ⟨entry, hentry, rfl⟩ := List.mem_map.mp hline
    exact reads_entryLine (h.keys entry hentry) entry.2

theorem foldlM_lines {part : Section} (h : part.IsNamed) {front : Members}
    (hname : part.name ∉ front.map (·.1)) (current : List String) :
    (part.lines.map (·.2)).foldlM Draft.add ⟨front, current⟩ =
      some ⟨front ++ [part.member], [part.name]⟩ := by
  have hstatements : part.lines.map (·.2) = .table [part.name] ::
      part.entries.map fun entry => Statement.entry [entry.1] entry.2.toToml := by simp [lines]
  rw [hstatements, List.foldlM_cons, Draft.add_table hname]
  exact Draft.add_entries hname (by simpa using h.distinct)

end Section

theorem assemble_sections {parts : List Section} (h : ∀ part ∈ parts, part.IsNamed)
    (hnames : (parts.map Section.name).Nodup) :
    assemble ((parts.flatMap Section.lines).map (·.2)) = some (parts.map Section.member) := by
  -- The tables already there are carried along: a new one must not have the name of any of them.
  have hfold (front : Members) (current : List String)
      (hfront : (front.map (·.1) ++ parts.map Section.name).Nodup) :
      ∃ last, ((parts.flatMap Section.lines).map (·.2)).foldlM Draft.add ⟨front, current⟩ =
        some ⟨front ++ parts.map Section.member, last⟩ := by
    induction parts generalizing front current with
    | nil => exact ⟨current, by simp⟩
    | cons part parts ih =>
      rw [List.map_cons] at hnames hfront
      have hname : part.name ∉ front.map (·.1) := by
        intro hmem
        exact (List.nodup_append.mp hfront).2.2 part.name hmem part.name List.mem_cons_self rfl
      have hrest : ((front ++ [part.member]).map (·.1) ++ parts.map Section.name).Nodup := by
        simpa [Section.member] using hfront
      obtain ⟨last, hlast⟩ := ih (fun later hl => h later (List.mem_cons_of_mem _ hl))
        (List.nodup_cons.mp hnames).2 _ [part.name] hrest
      refine ⟨last, ?_⟩
      rw [List.flatMap_cons, List.map_append, List.foldlM_append,
        Section.foldlM_lines (h part List.mem_cons_self) hname, Option.bind_eq_bind,
        Option.bind_some, hlast]
      simp
  obtain ⟨last, hlast⟩ := hfold [] [] (by simpa using hnames)
  rw [assemble, hlast]
  rfl

theorem parse?_unmarked {text : String} (h : ∀ c ∈ text.toList.head?, c.toNat ≠ 0xfeff) :
    parse? text = (readStatements (text.toList.length + 1) text.toList).bind assemble := by
  unfold parse?
  cases htext : text.toList with
  | nil => rfl
  | cons c rest => simp [h c (by simp [htext])]

theorem Section.written_head (part : Section) :
    ∃ c cs, part.written = c :: cs ∧ c.toNat ≠ 0xfeff := by
  obtain ⟨gap, name, entries⟩ := part
  cases gap with
  | zero => exact ⟨'[', _, rfl, by decide⟩
  | succ gap => exact ⟨'\n', _, rfl, by decide⟩

/-- The tables of a document are the tables it is written from. -/
theorem parse?_sections {parts : List Section} (h : ∀ part ∈ parts, part.IsNamed)
    (hnames : (parts.map Section.name).Nodup) :
    parse? (String.ofList (parts.flatMap Section.written)) = some (parts.map Section.member) := by
  have hreads : ∀ line ∈ parts.flatMap Section.lines, Reads line.1 line.2 := by
    intro line hline
    obtain ⟨part, hpart, hline⟩ := List.mem_flatMap.mp hline
    exact Section.reads_lines (h part hpart) line hline
  have hlength : (parts.flatMap Section.lines).length ≤
      ((parts.flatMap Section.lines).flatMap (·.1)).length :=
    length_le_flatMap fun line hline => (hreads line hline).ne_nil
  have htext : parts.flatMap Section.written = (parts.flatMap Section.lines).flatMap (·.1) :=
    List.flatMap_assoc.symm
  have hread := readStatements_lines hreads (Nat.lt_succ_of_le hlength)
  rw [← htext] at hread
  have hmark : ∀ c ∈ (parts.flatMap Section.written).head?, c.toNat ≠ 0xfeff := by
    cases parts with
    | nil => simp
    | cons part parts =>
      obtain ⟨c, cs, hwritten, hc⟩ := part.written_head
      simpa [hwritten] using hc
  rw [parse?_unmarked (by simpa using hmark), String.toList_ofList, hread, Option.bind_some,
    assemble_sections h hnames]

end CrossRef.Toml
