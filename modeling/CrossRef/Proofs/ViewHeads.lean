import CrossRef.Proofs.UsingLines

namespace CrossRef

/-- Whether two words are the head of a view. -/
def isViewHead (pair : String × String) : Bool :=
  Header.viewVerbs.contains (Text.upper pair.1) && Text.equalIgnoringCase pair.2 "VIEW"

/-- Whether the head of a view stands among the words of a line. -/
def hasViewHead (line : String) : Bool :=
  ((Text.tokens line).zip (Text.tokens line).tail).any isViewHead

namespace Header

theorem isEmpty_views (words : List String) :
    (views words).isEmpty = !(words.zip words.tail).any isViewHead := by
  fun_induction views words with
  | case1 verb word rest ih =>
    rw [List.tail_cons] at ih
    rw [List.tail_cons, List.zip_cons_cons, List.any_cons, Bool.not_or, ← ih, isViewHead,
      Bool.and_comm (viewVerbs.contains _)]
    cases hhead : Text.equalIgnoringCase word "VIEW" && viewVerbs.contains (Text.upper verb) with
    | false => rfl
    | true => rfl
  | case2 words hshort =>
    rcases words with _ | ⟨verb, _ | ⟨word, rest⟩⟩
    · rfl
    · rfl
    · exact absurd rfl (hshort verb word rest)

theorem kind_of_routine {words : List String} {header : Header} (h : header ∈ routine words) :
    header.kind ≠ .view := by
  unfold routine at h
  split at h
  next keyword word rest =>
    split at h
    next kind hkind =>
      have hroutine := isRoutine_of_routineKind? hkind
      rw [List.mem_singleton.mp h]
      rintro rfl
      cases hroutine
    next => simp at h
  next => simp at h

end Header

theorem zip_map_zip {α β γ : Type} (xs : List α) (ys : List β) (f : α × β → γ) :
    xs.zip ((xs.zip ys).map f) = (xs.zip ys).map fun entry => (entry.1, f entry) := by
  induction xs generalizing ys with
  | nil => rfl
  | cons x xs ih =>
    cases ys with
    | nil => rfl
    | cons y ys => simp [ih]

/-- What is read on a line where views count, from what is read there where they do not. -/
def LineReading.addViews (line : String) (reading : LineReading) : LineReading :=
  ⟨Header.views (Text.tokens line) ++ reading.headers, reading.packageOpen⟩

theorem LineReading.isDeclaration_addViews (line : String) (reading : LineReading) :
    (reading.addViews line).isDeclaration = (hasViewHead line || reading.isDeclaration) := by
  have hviews := Header.isEmpty_views (Text.tokens line)
  rw [← hasViewHead] at hviews
  cases hhead : hasViewHead line with
  | false =>
    rw [hhead, Bool.not_false, List.isEmpty_iff] at hviews
    simp [addViews, isDeclaration, hviews]
  | true =>
    rw [hhead, Bool.not_true] at hviews
    have hsome : Header.views (Text.tokens line) ≠ [] := by simpa using hviews
    simp [addViews, isDeclaration, hsome]

namespace HeaderRules

theorem readLine_with_views (packageOpen : Bool) (line : String) :
    readLine ⟨true⟩ packageOpen line = (readLine ⟨false⟩ packageOpen line).addViews line := by
  simp [readLine, LineReading.addViews]

theorem kind_of_readLine_without_views {packageOpen : Bool} {line : String} {header : Header}
    (h : header ∈ (readLine ⟨false⟩ packageOpen line).headers) : header.kind ≠ .view := by
  simp only [readLine, Bool.false_eq_true, ↓reduceIte, List.nil_append, List.mem_append] at h
  rcases h with h | h
  · simp [(Header.kind_of_packages h).1]
  · split at h
    next => exact Header.kind_of_routine h
    next => simp at h

/-- Package bodies are opened by the same lines whether views count or not. -/
theorem walk_with_views (passedOver : String → Bool) (packageOpen : Bool) (lines : List String) :
    walk ⟨true⟩ passedOver packageOpen lines =
      (lines.zip (walk ⟨false⟩ passedOver packageOpen lines)).map fun entry =>
        if passedOver entry.1 then entry.2 else entry.2.addViews entry.1 := by
  induction lines generalizing packageOpen with
  | nil => rfl
  | cons line rest ih =>
    by_cases hpassed : passedOver line = true
    · simp [walk, hpassed, ih]
    · simp [walk, hpassed, ih, readLine_with_views, LineReading.addViews]

/-- Where views count, a text is used on the lines on which it is used where they do not, except
those with the head of a view. -/
theorem usingPositions_with_views (text : String) (lines : List String) :
    usingPositions ⟨true⟩ text lines = (usingPositions ⟨false⟩ text lines).filter fun position =>
      !(lines[position]?).any hasViewHead := by
  have hwalk := walk_with_views isComment false lines
  simp only [usingPositions, hwalk, zip_map_zip, List.zipIdx_map, List.filter_map, List.map_map,
    List.filter_filter, Function.comp_def, Prod.map]
  refine congrArg (List.map _) (List.filter_congr ?_)
  rintro ⟨⟨line, reading⟩, position⟩ hentry
  have hget := List.mem_zipIdx_iff_getElem?.mp hentry
  have hline : lines[position]? = some line := (List.getElem?_zip_eq_some.mp hget).1
  by_cases hcomment : isComment line = true
  · simp [hcomment]
  · simp only [hcomment, hline, Bool.false_eq_true, ↓reduceIte,
      LineReading.isDeclaration_addViews, Option.any_some]
    cases hasViewHead line with
    | false => simp
    | true => simp

end HeaderRules

end CrossRef
