import CrossRef.Proofs.DocSegments

namespace CrossRef

namespace Text

theorem head?_trimStart {cs : List Char} {c : Char} (h : (trimStart cs).head? = some c) :
    isBlank c = false := by
  have hfirst := List.head?_dropWhile_not isBlank cs
  rw [trimStart] at h
  rw [h] at hfirst
  simpa using hfirst

theorem trimEnd_isPrefix (cs : List Char) : trimEnd cs <+: cs := by
  have hsuffix : cs.reverse.dropWhile isBlank <:+ cs.reverse := List.dropWhile_suffix _
  have hprefix := List.reverse_prefix.mpr hsuffix
  rwa [List.reverse_reverse] at hprefix

/-- A trimmed text begins with no blank. -/
theorem head?_trim {cs : List Char} {c : Char} (h : (trim cs).head? = some c) :
    isBlank c = false := by
  obtain ⟨rest, hrest⟩ := trimEnd_isPrefix (trimStart cs)
  have hfirst : (trimStart cs).head? = some c := by
    rw [trim] at h
    rw [← hrest, List.head?_append, h]
    rfl
  exact head?_trimStart hfirst

/-- A trimmed text ends with no blank. -/
theorem getLast?_trim {cs : List Char} {c : Char} (h : (trim cs).getLast? = some c) :
    isBlank c = false := by
  rw [trim, trimEnd, List.getLast?_reverse] at h
  exact head?_trimStart h

/-- A text that neither begins nor ends with a blank. -/
def IsTrimmed (cs : List Char) : Prop :=
  (∀ c, cs.head? = some c → isBlank c = false) ∧ ∀ c, cs.getLast? = some c → isBlank c = false

theorem isTrimmed_trim (cs : List Char) : IsTrimmed (trim cs) :=
  ⟨fun _ => head?_trim, fun _ => getLast?_trim⟩

/-- Trimmed texts that are not empty stay trimmed when they are joined. -/
theorem isTrimmed_intercalate {parts : List String} (sep : String)
    (h : ∀ part ∈ parts, part ≠ "" ∧ IsTrimmed part.toList) :
    IsTrimmed (sep.intercalate parts).toList := by
  constructor
  · intro c hc
    cases parts with
    | nil => simp at hc
    | cons part rest =>
      obtain ⟨hsome, hfirst, _⟩ := h part (by simp)
      have hfront : ∃ back, sep.intercalate (part :: rest) = part ++ back := by
        cases rest with
        | nil => exact ⟨"", by simp⟩
        | cons next rest => exact ⟨_, by rw [String.intercalate_cons_cons, String.append_assoc]⟩
      obtain ⟨back, hback⟩ := hfront
      have hhead : part.toList.head?.isSome = true := by
        simpa using hsome
      rw [hback, String.toList_append, List.head?_append, Option.or_of_isSome hhead] at hc
      exact hfirst c hc
  · intro c hc
    rcases parts.eq_nil_or_concat with rfl | ⟨rest, part, rfl⟩
    · simp at hc
    · obtain ⟨hsome, _, hlast⟩ := h part (by simp)
      have hbehind : ∃ front, sep.intercalate (rest ++ [part]) = front ++ part := by
        by_cases hrest : rest = []
        · exact ⟨"", by simp [hrest]⟩
        · exact ⟨_, by rw [String.intercalate_append_of_ne_nil hrest (by simp),
            String.intercalate_singleton]⟩
      obtain ⟨front, hfront⟩ := hbehind
      have hend : part.toList.getLast?.isSome = true := by
        simpa using hsome
      rw [List.concat_eq_append, hfront, String.toList_append, List.getLast?_append,
        Option.or_of_isSome hend] at hc
      exact hlast c hc

end Text

namespace Doc

/-- The texts of a block: what its lines say once blanks and stars around it are taken away, as far
as they say anything. -/
def texts (bodies : List (List Char)) : List (List Char) :=
  (bodies.map bareText).filter (· ≠ [])

def isTagged (text : List Char) : Bool :=
  text.head? = some '@'

/-- The tag of a text in small letters, and the words behind it. -/
def tag? : List Char → Option (String × List String)
  | '@' :: tagged =>
    match (Text.words tagged).map String.ofList with
    | [] => none
    | tag :: rest => some (Text.lower tag, rest)
  | _ => none

/-- The tags that name an object. -/
def objectTags : List (String × Kind) :=
  [("view", .view), ("pkg", .package), ("package", .package), ("function", .function),
    ("procedure", .procedure)]

/-- The object that a text names. Its name is the word behind the tag, if there is one. -/
def object? (text : List Char) : Option (Kind × String) :=
  (tag? text).bind fun (tag, rest) => (objectTags.lookup tag).map (·, rest.head?.getD "")

/-- A parameter as its words describe it. -/
def noteOf? : List String → Option ParamNote
  | typeName :: name :: _ => some ⟨name, typeName⟩
  | [name] => some ⟨name, ""⟩
  | [] => none

/-- The parameter that a text describes. -/
def param? (text : List Char) : Option ParamNote :=
  (tag? text).bind fun (tag, rest) => if tag = "param" then noteOf? rest else none

theorem objectTags_param : objectTags.lookup "param" = none := by
  decide

/-- A tag adds the object and the parameter that it names, and nothing else. -/
theorem note_ofTag (entry : DocBlock) (tag : String) (rest : List String) :
    note entry (.ofTag tag rest) =
      { entry with
        kind := (objectTags.lookup tag).or entry.kind
        name := ((objectTags.lookup tag).map fun _ => rest.head?.getD "").getD entry.name
        params := entry.params ++ (if tag = "param" then noteOf? rest else none).toList } := by
  unfold Remark.ofTag
  split
  case h_6 =>
    rw [objectTags_param, if_pos rfl]
    match rest with
    | [] => simp [note, noteOf?]
    | [name] => rfl
    | typeName :: name :: others => rfl
  case h_7 hview hpkg hpackage hfunction hprocedure hparam =>
    have hnone : objectTags.lookup tag = none := by
      rw [List.lookup_eq_none_iff]
      simpa [objectTags] using ⟨hview, hpkg, hpackage, hfunction, hprocedure⟩
    rw [hnone, if_neg (by simpa using hparam)]
    simp [note]
  all_goals simp [note, objectTags, List.lookup_cons]

theorem ofLine_tagged {body : List Char} (h : isTagged (bareText body) = true) :
    Remark.ofLine body = match tag? (bareText body) with
      | some (tag, rest) => .ofTag tag rest
      | none => .nothing := by
  obtain ⟨tagged, htext⟩ := List.head?_eq_some_iff.mp (of_decide_eq_true h)
  cases hwords : (Text.words tagged).map String.ofList <;>
    simp [Remark.ofLine, htext, tag?, hwords]

theorem ofLine_untagged {body : List Char} (hsome : bareText body ≠ [])
    (h : isTagged (bareText body) = false) :
    Remark.ofLine body = .prose (String.ofList (bareText body)) := by
  unfold Remark.ofLine
  split
  next hnil => exact absurd hnil hsome
  next htext => simp [isTagged, htext] at h
  next => rfl

/-- A tagged text replaces the object by the one it names, and adds the parameter it describes. -/
theorem noteLine_tagged (entry : DocBlock) {body : List Char}
    (h : isTagged (bareText body) = true) :
    noteLine entry body =
      { entry with
        kind := ((object? (bareText body)).map (·.1)).or entry.kind
        name := ((object? (bareText body)).map (·.2)).getD entry.name
        params := entry.params ++ (param? (bareText body)).toList } := by
  rw [noteLine, ofLine_tagged h, object?, param?]
  cases tag? (bareText body) with
  | none => simp [note]
  | some found =>
    obtain ⟨tag, rest⟩ := found
    simp [note_ofTag, Function.comp_def]

/-- The untagged texts as they stand in the description. -/
def prose (texts : List (List Char)) : List String :=
  (texts.filter (!isTagged ·)).map String.ofList

/-- What a block says with these texts. -/
structure Tells (texts : List (List Char)) (doc : DocBlock) : Prop where
  description : doc.description = " ".intercalate (prose texts)
  kind : doc.kind = (texts.filterMap object?).getLast?.map (·.1)
  name : doc.name = ((texts.filterMap object?).getLast?.map (·.2)).getD ""
  params : doc.params = texts.filterMap param?

theorem ne_nil_of_mem_texts {bodies : List (List Char)} {text : List Char}
    (h : text ∈ texts bodies) : text ≠ [] := by
  simpa using (List.mem_filter.mp h).2

theorem intercalate_eq_empty {parts : List String} (h : ∀ part ∈ parts, part ≠ "") (sep : String) :
    sep.intercalate parts = "" ↔ parts = [] := by
  constructor
  · intro hempty
    match parts with
    | [] => rfl
    | [part] =>
      rw [String.intercalate_singleton] at hempty
      exact absurd hempty (h part (by simp))
    | part :: next :: parts =>
      rw [String.intercalate_cons_cons, String.append_assoc] at hempty
      exact absurd (String.append_eq_empty_iff.mp hempty).1 (h part (by simp))
  · rintro rfl
    rfl

theorem ne_empty_of_mem_prose {texts : List (List Char)} (hsome : ∀ text ∈ texts, text ≠ [])
    {part : String} (h : part ∈ prose texts) : part ≠ "" := by
  obtain ⟨text, htext, rfl⟩ := List.mem_map.mp h
  have hne := hsome text (List.mem_filter.mp htext).1
  simpa using hne

theorem tag?_of_untagged {text : List Char} (h : isTagged text = false) : tag? text = none := by
  unfold tag?
  split
  next => simp [isTagged] at h
  next => rfl

/-- The description goes on with a text behind a blank, unless it is empty. -/
theorem Tells.addProse {texts : List (List Char)} {doc : DocBlock} (h : Tells texts doc)
    (hsome : ∀ text ∈ texts, text ≠ []) {text : List Char} (hplain : isTagged text = false) :
    Tells (texts ++ [text]) (note doc (.prose (String.ofList text))) := by
  have htag := tag?_of_untagged hplain
  have hobjects : (texts ++ [text]).filterMap object? = texts.filterMap object? := by
    simp [object?, htag]
  have hparams : (texts ++ [text]).filterMap param? = texts.filterMap param? := by
    simp [param?, htag]
  have hprose : prose (texts ++ [text]) = prose texts ++ [String.ofList text] := by
    simp [prose, hplain]
  refine ⟨?_, ?_, ?_, ?_⟩
  · have hempty := intercalate_eq_empty (fun part => ne_empty_of_mem_prose hsome) " "
    change (if doc.description.isEmpty then String.ofList text
      else doc.description ++ " " ++ String.ofList text) = " ".intercalate (prose (texts ++ [text]))
    rw [hprose, h.description]
    by_cases hnone : prose texts = []
    · have hdesc : (" ".intercalate (prose texts)).isEmpty = true := by
        simpa using hempty.mpr hnone
      rw [if_pos hdesc, hnone, List.nil_append, String.intercalate_singleton]
    · have hdesc : ¬ (" ".intercalate (prose texts)).isEmpty = true := by
        simpa using fun heq => hnone (hempty.mp heq)
      rw [if_neg hdesc, String.intercalate_append_of_ne_nil hnone (by simp),
        String.intercalate_singleton]
  · rw [hobjects]
    exact h.kind
  · rw [hobjects]
    exact h.name
  · rw [hparams]
    exact h.params

theorem Tells.addTagged {texts : List (List Char)} {doc : DocBlock} (h : Tells texts doc)
    {body : List Char} (htagged : isTagged (bareText body) = true) :
    Tells (texts ++ [bareText body]) (noteLine doc body) := by
  have hprose : prose (texts ++ [bareText body]) = prose texts := by
    simp [prose, htagged]
  have last {α : Type} (f : List Char → Option α) :
      ((texts ++ [bareText body]).filterMap f).getLast? =
        (f (bareText body)).or (texts.filterMap f).getLast? := by
    cases hf : f (bareText body) <;> simp [hf]
  rw [noteLine_tagged doc htagged]
  refine ⟨?_, ?_, ?_, ?_⟩
  · rw [hprose]
    exact h.description
  · rw [last, h.kind]
    cases object? (bareText body) <;> rfl
  · rw [last, h.name]
    cases object? (bareText body) <;> rfl
  · rw [h.params]
    cases hparam : param? (bareText body) <;> simp [hparam]

/-- The entry of a block says what the texts of the block say. -/
theorem tells_foldl_noteLine (bodies : List (List Char)) :
    Tells (texts bodies) (bodies.foldl noteLine .empty) := by
  induction bodies using List.reverseRecOn with
  | nil => exact ⟨rfl, rfl, rfl, rfl⟩
  | append_singleton bodies body ih =>
    rw [List.foldl_append, List.foldl_cons, List.foldl_nil]
    by_cases hnone : bareText body = []
    · have htexts : texts (bodies ++ [body]) = texts bodies := by
        simp [texts, hnone]
      have hnothing : Remark.ofLine body = .nothing := by
        rw [Remark.ofLine, hnone]
      rw [htexts, noteLine, hnothing]
      exact ih
    · have htexts : texts (bodies ++ [body]) = texts bodies ++ [bareText body] := by
        simp [texts, hnone]
      rw [htexts]
      cases htagged : isTagged (bareText body) with
      | true => exact ih.addTagged htagged
      | false =>
        rw [noteLine, ofLine_untagged hnone htagged]
        exact ih.addProse (fun text => ne_nil_of_mem_texts) htagged

theorem Tells.isBare_iff {texts : List (List Char)} {doc : DocBlock} (h : Tells texts doc)
    (hsome : ∀ text ∈ texts, text ≠ []) :
    doc.isBare = true ↔
      ∀ text ∈ texts, isTagged text = true ∧ object? text = none ∧ param? text = none := by
  have hprose : doc.description = "" ↔ ∀ text ∈ texts, isTagged text = true := by
    rw [h.description, intercalate_eq_empty (fun part => ne_empty_of_mem_prose hsome)]
    simp [prose]
  have hobject : doc.kind = none ↔ ∀ text ∈ texts, object? text = none := by
    rw [h.kind]
    simp
  have hname (hnone : doc.kind = none) : doc.name = "" := by
    have hlast : (texts.filterMap object?).getLast? = none := by
      rw [h.kind] at hnone
      simpa using hnone
    rw [h.name, hlast]
    rfl
  have hparam : doc.params = [] ↔ ∀ text ∈ texts, param? text = none := by
    rw [h.params]
    simp
  have hbare : doc.isBare = true ↔
      doc.description = "" ∧ doc.name = "" ∧ doc.kind = none ∧ doc.params = [] := by
    simp [DocBlock.isBare, and_assoc]
  rw [hbare]
  constructor
  · rintro ⟨hdescription, _, hkind, hparams⟩ text htext
    exact ⟨hprose.mp hdescription text htext, hobject.mp hkind text htext,
      hparam.mp hparams text htext⟩
  · intro hall
    have hkind := hobject.mpr fun text htext => (hall text htext).2.1
    exact ⟨hprose.mpr fun text htext => (hall text htext).1, hname hkind, hkind,
      hparam.mpr fun text htext => (hall text htext).2.2⟩

theorem isTrimmed_description {bodies : List (List Char)} {doc : DocBlock}
    (h : Tells (texts bodies) doc) : Text.IsTrimmed doc.description.toList := by
  rw [h.description]
  refine Text.isTrimmed_intercalate " " ?_
  intro part hpart
  refine ⟨ne_empty_of_mem_prose (fun text => ne_nil_of_mem_texts) hpart, ?_⟩
  obtain ⟨text, htext, rfl⟩ := List.mem_map.mp hpart
  obtain ⟨body, _, rfl⟩ := List.mem_map.mp (List.mem_filter.mp (List.mem_filter.mp htext).1).1
  rw [String.toList_ofList]
  exact Text.isTrimmed_trim _

theorem tells_entry (lines : List String) (block : Extent) :
    Tells (texts (block.bodies lines)) (block.entry lines) :=
  let ⟨hdescription, hkind, hname, hparams⟩ := tells_foldl_noteLine (block.bodies lines)
  ⟨hdescription, hkind, hname, hparams⟩

/-- The entry of each block says what the texts of the block say: those without a tag are its
description, the last object named by a tag is its object, and its parameters stand in order. -/
theorem scan_tells_texts {lines : List String} {blocks : List Extent} {unclosed : Bool}
    (h : Segmented lines 0 blocks unclosed) :
    List.Forall₂ (fun block doc =>
      let said := texts (block.bodies lines)
      Tells said doc ∧ Text.IsTrimmed doc.description.toList ∧
      ((∀ text ∈ said, object? text = none) → doc.kind = none ∧ doc.name = "") ∧
      (doc.isBare = true ↔
        ∀ text ∈ said, isTagged text = true ∧ object? text = none ∧ param? text = none))
      blocks (scan lines) := by
  rw [(scan_eq_of_segmented h).1, List.forall₂_map_right_iff, List.forall₂_same]
  intro block _
  have htells := tells_entry lines block
  refine ⟨htells, isTrimmed_description htells, ?_, htells.isBare_iff fun _ => ne_nil_of_mem_texts⟩
  intro hnone
  have hobjects : (texts (block.bodies lines)).filterMap object? = [] :=
    List.filterMap_eq_nil_iff.mpr hnone
  rw [htells.kind, htells.name, hobjects]
  exact ⟨rfl, rfl⟩

/-- A block that names two objects, the second in capitals, and describes a parameter. -/
theorem scan_tells_texts_twoObjects :
    let lines := ["/** First.", " * @view a", " ** second", "@param NUMBER p_x", "* @PKG b */"]
    ∃ blocks unclosed, Segmented lines 0 blocks unclosed ∧
      List.Forall₂ (fun block doc => Tells (texts (block.bodies lines)) doc) blocks (scan lines) ∧
      scan lines = [⟨5, "b", some .package, "First. second", [⟨"p_x", "NUMBER"⟩]⟩] := by
  intro lines
  obtain ⟨blocks, unclosed, hblocks⟩ := exists_segmented lines
  have htells := (scan_tells_texts hblocks).imp fun _ _ hsaid => hsaid.1
  exact ⟨blocks, unclosed, hblocks, htells, by decide +kernel⟩

end Doc

end CrossRef
