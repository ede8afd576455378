import CrossRef.Proofs.BlankLines
import CrossRef.Proofs.RawTexts
import CrossRef.Proofs.UsingLines

namespace CrossRef

/-- The number of a line once `k` lines are put before it. -/
def shiftLine (k : Nat) (line : UInt32) : UInt32 :=
  line + UInt32.ofNat k

theorem lineNumber_add (position k : Nat) :
    lineNumber (position + k) = shiftLine k (lineNumber position) := by
  rw [lineNumber, lineNumber, shiftLine, UInt32.ofNat_add, UInt32.add_assoc, UInt32.add_assoc,
    UInt32.add_comm (UInt32.ofNat k)]

theorem shiftLine_zero (line : UInt32) : shiftLine 0 line = line :=
  UInt32.add_zero line

theorem toNat_shiftLine {k : Nat} {line : UInt32} (h : line.toNat + k < UInt32.size) :
    (shiftLine k line).toNat = line.toNat + k := by
  rw [UInt32.size] at h
  rw [shiftLine, UInt32.toNat_add, UInt32.toNat_ofNat']
  omega

def DocBlock.shift (k : Nat) (doc : DocBlock) : DocBlock :=
  { doc with line := shiftLine k doc.line }

def Mention.shift (k : Nat) (mention : Mention) : Mention :=
  { mention with line := shiftLine k mention.line }

def UseSite.shift (k : Nat) (site : UseSite) : UseSite :=
  { site with line := shiftLine k site.line }

namespace Doc

theorem scanFrom_shift (position k : Nat) (current : Option DocBlock) (lines : List String) :
    scanFrom (position + k) current lines =
      (scanFrom position current lines).map (DocBlock.shift k) := by
  induction lines generalizing position current with
  | nil => rfl
  | cons line rest ih =>
    have hnext : position + k + 1 = position + 1 + k := Nat.add_right_comm ..
    unfold scanFrom
    rw [hnext]
    dsimp only
    split
    next => exact ih _ _
    next entry text _ =>
      split
      next before _ _ =>
        rw [List.map_cons, ih]
        simp [DocBlock.shift, lineNumber_add]
      next => exact ih _ _

theorem scanFrom_blank {blanks : List String} (h : ∀ line ∈ blanks, Text.IsBlankLine line)
    (position : Nat) (lines : List String) :
    scanFrom position none (blanks ++ lines) = scanFrom (position + blanks.length) none lines := by
  induction blanks generalizing position with
  | nil => rfl
  | cons line rest ih =>
    have hline := (h line (by simp)).opening?
    rw [List.cons_append, scanFrom]
    simp only [hline, Option.map_none]
    rw [ih (fun line hl => h line (by simp [hl])), List.length_cons, Nat.add_assoc, Nat.add_comm 1]

/-- Blank lines in front of a file move its blocks and nothing else. -/
theorem scan_behind {blanks : List String} (h : ∀ line ∈ blanks, Text.IsBlankLine line)
    (lines : List String) :
    scan (blanks ++ lines) = (scan lines).map (DocBlock.shift blanks.length) := by
  rw [scan, scanFrom_blank h, scanFrom_shift]
  rfl

theorem line_of_mem_scanFrom {position : Nat} {current : Option DocBlock} {lines : List String}
    {doc : DocBlock} (h : doc ∈ scanFrom position current lines) :
    ∃ p, p < position + lines.length ∧ doc.line = lineNumber p := by
  induction lines generalizing position current with
  | nil => simp [scanFrom] at h
  | cons line rest ih =>
    have later (current : Option DocBlock) (h : doc ∈ scanFrom (position + 1) current rest) :
        ∃ p, p < position + (line :: rest).length ∧ doc.line = lineNumber p := by
      obtain ⟨p, hp, hline⟩ := ih h
      exact ⟨p, by rw [List.length_cons]; omega, hline⟩
    unfold scanFrom at h
    dsimp only at h
    split at h
    next => exact later _ h
    next =>
      split at h
      next =>
        rcases List.mem_cons.mp h with rfl | h
        · exact ⟨position, by simp, rfl⟩
        · exact later _ h
      next => exact later _ h

theorem mem_of_choose? {docs : List DocBlock} {window : UInt32} {kind : Kind} {name : String}
    {line : UInt32} {doc : DocBlock} (h : choose? docs window kind name line = some doc) :
    doc ∈ docs := by
  obtain ⟨entry, hfind, rfl⟩ := Option.map_eq_some_iff.mp h
  exact List.fst_mem_of_mem_zipIdx (List.mem_reverse.mp (List.mem_of_find?_eq_some hfind))

/-- A block and a declaration that move alike stay as near as they were, as long as no number
passes the last one. -/
theorem belongs_shift {k : Nat} {doc : DocBlock} {line : UInt32}
    (hdoc : doc.line.toNat + k < UInt32.size) (hline : line.toNat + k < UInt32.size)
    (window : UInt32) (kind : Kind) (name : String) :
    belongs window kind name (shiftLine k line) (doc.shift k) =
      belongs window kind name line doc := by
  have hdistance : distance (doc.shift k) (shiftLine k line) = distance doc line := by
    rw [distance, distance, DocBlock.shift, toNat_shiftLine hdoc, toNat_shiftLine hline]
    omega
  rw [belongs, belongs, isNear, isNear, hdistance]
  rfl

theorem choose?_shift {k : Nat} {docs : List DocBlock} {line : UInt32}
    (hdocs : ∀ doc ∈ docs, doc.line.toNat + k < UInt32.size)
    (hline : line.toNat + k < UInt32.size) (window : UInt32) (kind : Kind) (name : String) :
    choose? (docs.map (DocBlock.shift k)) window kind name (shiftLine k line) =
      (choose? docs window kind name line).map (DocBlock.shift k) := by
  have hfind : ∀ entry ∈ docs.zipIdx.reverse,
      belongs window kind name (shiftLine k line) (entry.1.shift k) =
        belongs window kind name line entry.1 := by
    intro entry hentry
    have hmem := List.fst_mem_of_mem_zipIdx (List.mem_reverse.mp hentry)
    exact belongs_shift (hdocs entry.1 hmem) hline window kind name
  have hsame := congrArg List.head? (List.filter_congr hfind)
  rw [List.head?_filter, List.head?_filter] at hsame
  rw [choose?, choose?, chooseAt?, chooseAt?, List.zipIdx_map, ← List.map_reverse, List.find?_map,
    Option.map_map, Option.map_map]
  exact congrArg (Option.map fun entry : DocBlock × Nat => entry.1.shift k) hsame

end Doc

/-- Sites that move down, each with the file that its key and its number name. -/
def Uses.shift (inUses : String → Identifier → Nat) (uses : Uses) : Uses :=
  uses.map fun entry =>
    (entry.1, entry.2.map fun site => site.shift (inUses entry.1 site.fileId))

/-- A declaration of the file at a path once `k path` lines are put in front of the file at each
path: its own line and that of its doc block move with its file, and each use with the file that
uses it. -/
def Declaration.shift (k : RawText → Nat) (inUses : String → Identifier → Nat) (path : RawText)
    (decl : Declaration) : Declaration :=
  { decl with
    line := shiftLine (k path) decl.line
    doc := decl.doc.map (DocBlock.shift (k path))
    uses := decl.uses.shift inUses }

/-- The path of the file with a key and a number. -/
def Catalog.pathOf (catalog : Catalog) (key : String) (id : Identifier) : RawText :=
  ((catalog.files.find? fun file => file.key = key ∧ file.id = id).map (·.path)).getD ↑key

/-- The catalog of files in front of which lines are put. Nothing but the numbers of lines
changes. -/
def Catalog.shift (k : RawText → Nat) (catalog : Catalog) : Catalog :=
  catalog.mapDecls (Declaration.shift k fun key id => k (catalog.pathOf key id))

/-- No two files have one key and one number, unless they have one path too. -/
def Catalog.TellsFilesApart (catalog : Catalog) : Prop :=
  ∀ file ∈ catalog.files, ∀ other ∈ catalog.files,
    file.key = other.key → file.id = other.id → file.path = other.path

theorem Catalog.pathOf_of_mem {catalog : Catalog} (h : catalog.TellsFilesApart)
    {file : IndexedFile} (hfile : file ∈ catalog.files) :
    catalog.pathOf file.key file.id = file.path := by
  have hsome :
      (catalog.files.find? fun other => other.key = file.key ∧ other.id = file.id).isSome :=
    List.find?_isSome.mpr ⟨file, hfile, by simp⟩
  obtain ⟨found, hfound⟩ := Option.isSome_iff_exists.mp hsome
  have hsame := List.find?_some hfound
  obtain ⟨hkey, hid⟩ := of_decide_eq_true hsame
  rw [pathOf, hfound]
  exact h found (List.mem_of_find?_eq_some hfound) file hfile hkey hid

/-- Paths that are texts are told apart by their keys alone. -/
theorem Catalog.tellsFilesApart_of_texts {catalog : Catalog}
    (h : ∀ file ∈ catalog.files, file.path.IsText) : catalog.TellsFilesApart := by
  intro file hfile other hother hkey _
  exact (h file hfile).eq_of_text (h other hother) hkey

theorem Uses.record_shift (inUses : String → Identifier → Nat) (uses : Uses) (key : String)
    (site : UseSite) :
    (uses.record key site).shift inUses =
      (uses.shift inUses).record key (site.shift (inUses key site.fileId)) := by
  induction uses with
  | nil => rfl
  | cons entry rest ih =>
    obtain ⟨first, found⟩ := entry
    by_cases hk : first = key
    · simp [record, shift, hk]
    · have ih : shift inUses (record key site rest) =
          record key (site.shift (inUses key site.fileId)) (shift inUses rest) := ih
      rw [record, if_neg hk]
      simp only [shift, List.map_cons] at ih ⊢
      rw [ih, record, if_neg hk]

namespace Extraction

section

variable {rules : DeclarationRules} {docs docs' : List DocBlock} {index : Nat}
  {k : RawText → Nat} {inUses : String → Identifier → Nat} {path : RawText} {count : Nat}
  (hchoose : ∀ position < count, ∀ kind name,
    Doc.choose? docs' rules.window kind name (lineNumber (position + k path)) =
      (Doc.choose? docs rules.window kind name (lineNumber position)).map (DocBlock.shift (k path)))

include hchoose

theorem addLine_shift (state : State) (line : String) {position : Nat} (hp : position < count) :
    addLine rules docs' index (state.mapDecls (Declaration.shift k inUses path)) line
        (position + k path) =
      (addLine rules docs index state line position).mapDecls
        (Declaration.shift k inUses path) := by
  have hnew (kind : Kind) (name : String) (doc : Option DocBlock) :
      Declaration.shift k inUses path ⟨kind, name, index, lineNumber position, doc, 0, []⟩ =
        ⟨kind, name, index, lineNumber (position + k path), doc.map (DocBlock.shift (k path)), 0,
          []⟩ := by
    rw [lineNumber_add]
    rfl
  have fold (headers : List Header) (state : State) :
      headers.foldl (addHeader docs' rules.window index (lineNumber (position + k path)))
          (state.mapDecls (Declaration.shift k inUses path)) =
        (headers.foldl (addHeader docs rules.window index (lineNumber position)) state).mapDecls
          (Declaration.shift k inUses path) := by
    induction headers generalizing state with
    | nil => rfl
    | cons header rest ih =>
      rw [List.foldl_cons, addHeader_mapDecls hnew (hchoose position hp), ih, List.foldl_cons]
  unfold addLine
  split
  next => rfl
  next =>
    exact fold (rules.headers.readLine state.packageOpen line).headers
      { state with packageOpen := (rules.headers.readLine state.packageOpen line).packageOpen }

theorem foldl_addLine_shift (lines : List String) {position : Nat}
    (hp : position + lines.length ≤ count) (state : State) :
    (lines.zipIdx (position + k path)).foldl
        (fun state entry => addLine rules docs' index state entry.1 entry.2)
        (state.mapDecls (Declaration.shift k inUses path)) =
      ((lines.zipIdx position).foldl
        (fun state entry => addLine rules docs index state entry.1 entry.2) state).mapDecls
        (Declaration.shift k inUses path) := by
  induction lines generalizing position state with
  | nil => rfl
  | cons line rest ih =>
    rw [List.length_cons] at hp
    have hnext : position + k path + 1 = position + 1 + k path := Nat.add_right_comm ..
    rw [List.zipIdx_cons, List.foldl_cons, addLine_shift hchoose state line (by omega), hnext,
      ih (by omega), List.zipIdx_cons, List.foldl_cons]

end

/-- A file with blank lines in front declares what it declared, that much further down. -/
theorem addLines_behind {rules : DeclarationRules} {docs docs' : List DocBlock}
    {k : RawText → Nat} {inUses : String → Identifier → Nat} {path : RawText}
    {blanks lines : List String}
    (hblank : ∀ line ∈ blanks, Text.IsBlankLine line) (hk : k path = blanks.length)
    (hchoose : ∀ position < lines.length, ∀ kind name,
      Doc.choose? docs' rules.window kind name (lineNumber (position + k path)) =
        (Doc.choose? docs rules.window kind name (lineNumber position)).map
          (DocBlock.shift (k path))) (index : Nat) (file : IndexedFile) :
    addLines rules docs' index (file.mapDecls (Declaration.shift k inUses path)) (blanks ++ lines) =
      (addLines rules docs index file lines).mapDecls (Declaration.shift k inUses path) := by
  have passed (entries : List (String × Nat)) (h : ∀ entry ∈ entries, Text.IsBlankLine entry.1)
      (state : State) :
      entries.foldl (fun state entry => addLine rules docs' index state entry.1 entry.2) state =
        state := by
    induction entries with
    | nil => rfl
    | cons entry rest ih =>
      have hfirst := (h entry (by simp)).isPassedOver
      rw [List.foldl_cons, addLine, if_pos hfirst]
      exact ih fun entry he => h entry (by simp [he])
  have hrest : (lines.zipIdx (0 + k path)).foldl
        (fun state entry => addLine rules docs' index state entry.1 entry.2)
        (State.mapDecls (Declaration.shift k inUses path) ⟨file, .zero, false⟩) = _ :=
    foldl_addLine_shift hchoose lines (by omega) ⟨file, .zero, false⟩
  rw [Nat.zero_add, hk] at hrest
  rw [addLines, List.zipIdx_append, List.foldl_append, Nat.zero_add,
    passed _ (fun entry he => hblank entry.1 (List.fst_mem_of_mem_zipIdx he))]
  exact hrest

end Extraction

namespace Resolution

theorem searchFrom_shift (headers : HeaderRules) (needles : List Needle) (position k : Nat)
    (packageOpen : Bool) (lines : List String) :
    searchFrom headers needles (position + k) packageOpen lines =
      ((searchFrom headers needles position packageOpen lines).1.map (Mention.shift k),
        (searchFrom headers needles position packageOpen lines).2) := by
  induction lines generalizing position packageOpen with
  | nil => rfl
  | cons line rest ih =>
    have hnext : position + k + 1 = position + 1 + k := Nat.add_right_comm ..
    have hline : lineMentions needles line (lineNumber (position + k)) =
        (lineMentions needles line (lineNumber position)).map (Mention.shift k) := by
      simp only [lineMentions, lineNumber_add, List.map_map]
      rfl
    simp only [searchFrom, hnext, ih, hline]
    split
    next => rfl
    next =>
      split
      next => rfl
      next => rw [List.map_append]

section

variable (headers : HeaderRules) {needles : List Needle}
  (hwords : ∀ needle ∈ needles, Text.IsWord needle.text)

include hwords

theorem searchFrom_blank {blanks : List String} (h : ∀ line ∈ blanks, Text.IsBlankLine line)
    (position : Nat) (packageOpen : Bool) (lines : List String) :
    searchFrom headers needles position packageOpen (blanks ++ lines) =
      searchFrom headers needles (position + blanks.length) packageOpen lines := by
  induction blanks generalizing position with
  | nil => rfl
  | cons line rest ih =>
    have hline := h line (by simp)
    have hrest := ih (fun line hl => h line (by simp [hl])) (position + 1)
    rw [Nat.add_assoc, Nat.add_comm 1] at hrest
    simp only [List.cons_append, searchFrom, hline.isComment, hline.readLine,
      hline.lineMentions hwords, LineReading.isDeclaration, hrest]
    rfl

theorem mentions_behind {blanks : List String} (h : ∀ line ∈ blanks, Text.IsBlankLine line)
    (lines : List String) :
    (searchLines headers needles (blanks ++ lines)).mentions =
      (searchLines headers needles lines).mentions.map (Mention.shift blanks.length) := by
  unfold searchLines
  split
  next => rfl
  next =>
    rw [searchFrom_blank headers hwords h, searchFrom_shift]

end

end Resolution

end CrossRef
