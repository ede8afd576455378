import CrossRef.Extraction
import CrossRef.Resolution

namespace CrossRef

/-- Reads lines one after the other and keeps track of an open package body. A line that is passed
over declares nothing and opens nothing. -/
def HeaderRules.walk (headers : HeaderRules) (passedOver : String → Bool) (packageOpen : Bool) :
    List String → List LineReading
  | [] => []
  | line :: rest =>
    let reading := if passedOver line then ⟨[], packageOpen⟩ else headers.readLine packageOpen line
    reading :: headers.walk passedOver reading.packageOpen rest

theorem HeaderRules.length_walk (headers : HeaderRules) (passedOver : String → Bool)
    (packageOpen : Bool) (lines : List String) :
    (headers.walk passedOver packageOpen lines).length = lines.length := by
  induction lines generalizing packageOpen with
  | nil => rfl
  | cons line rest ih => simp [walk, ih]

/-- Every head takes at least two words. -/
theorem HeaderRules.readLine_of_short (headers : HeaderRules) (packageOpen : Bool) {line : String}
    (h : (Text.words line.toList).length < 2) :
    headers.readLine packageOpen line = ⟨[], packageOpen⟩ := by
  have hl : (Text.tokens line).length < 2 := by simpa [Text.tokens] using h
  unfold readLine
  match htokens : Text.tokens line with
  | [] => simp [Header.views, Header.packages, Header.routine]
  | [word] => simp [Header.views, Header.packages, Header.routine]
  | first :: second :: rest =>
    rw [htokens] at hl
    simp only [List.length_cons] at hl
    omega

namespace Header

theorem kind_of_views {words : List String} {header : Header} (h : header ∈ views words) :
    header.kind = .view := by
  fun_induction views words with
  | case1 verb word rest ih =>
    rcases List.mem_append.mp h with h | h
    · split at h
      next => rw [List.mem_singleton.mp h]
      next => simp at h
    · exact ih h
  | case2 => simp at h

theorem kind_of_packages {words : List String} {header : Header} (h : header ∈ packages words) :
    header.kind = .package ∧ header.name ≠ none := by
  fun_induction packages words with
  | case1 first second name rest ih =>
    rcases List.mem_append.mp h with h | h
    · split at h
      next =>
        rw [List.mem_singleton.mp h]
        simp
      next => simp at h
    · exact ih h
  | case2 => simp at h

theorem isRoutine_of_routineKind? {keyword : String} {kind : Kind}
    (h : routineKind? keyword = some kind) : kind.isRoutine = true := by
  unfold routineKind? at h
  split at h
  next =>
    rw [← Option.some.inj h]
    rfl
  next =>
    split at h
    next =>
      rw [← Option.some.inj h]
      rfl
    next => simp at h

end Header

/-- The routines of a line come last, and only where a package body is open, by an earlier line or
by a head in front of them. -/
theorem HeaderRules.headers_readLine (headers : HeaderRules) (packageOpen : Bool) (line : String) :
    ∃ outer routines, (headers.readLine packageOpen line).headers = outer ++ routines ∧
      (∀ header ∈ outer, header.kind.isRoutine = false) ∧
      ((headers.readLine packageOpen line).packageOpen = true →
        packageOpen = true ∨ ∃ header ∈ outer, header.kind = .package ∧ header.name ≠ none) ∧
      ((headers.readLine packageOpen line).packageOpen = false → routines = []) := by
  refine ⟨_, _, rfl, ?_, ?_, ?_⟩
  · intro header hheader
    rcases List.mem_append.mp hheader with hview | hpackage
    · split at hview
      next =>
        rw [Header.kind_of_views hview]
        rfl
      next => simp at hview
    · rw [(Header.kind_of_packages hpackage).1]
      rfl
  · intro hopen
    rcases (Bool.or_eq_true _ _).mp hopen with hopen | hopen
    · exact Or.inl hopen
    · have hsome : Header.packages (Text.tokens line) ≠ [] := by simpa using hopen
      obtain ⟨header, hheader⟩ := List.exists_mem_of_ne_nil _ hsome
      exact Or.inr ⟨header, List.mem_append_right _ hheader, Header.kind_of_packages hheader⟩
  · intro hclosed
    have hclosed : (packageOpen || !(Header.packages (Text.tokens line)).isEmpty) = false := hclosed
    rw [hclosed]
    rfl

/-- It makes no difference whether lines of fewer than two words are read or passed over. -/
theorem HeaderRules.walk_isPassedOver (headers : HeaderRules) (packageOpen : Bool)
    (lines : List String) :
    headers.walk Extraction.isPassedOver packageOpen lines =
      headers.walk isComment packageOpen lines := by
  induction lines generalizing packageOpen with
  | nil => rfl
  | cons line rest ih =>
    have hread : (if Extraction.isPassedOver line then ⟨[], packageOpen⟩
        else headers.readLine packageOpen line) =
        if isComment line then ⟨[], packageOpen⟩ else headers.readLine packageOpen line := by
      by_cases hshort : (Text.words line.toList).length < 2
      · simp [Extraction.isPassedOver, hshort, headers.readLine_of_short packageOpen hshort]
      · simp [Extraction.isPassedOver, hshort]
    simp only [walk, hread, ih]

namespace Extraction

theorem packageOpen_addHeader (docs : List DocBlock) (window : UInt32) (index : Nat) (line : UInt32)
    (state : State) (header : Header) :
    (addHeader docs window index line state header).packageOpen = state.packageOpen := by
  obtain ⟨kind, name⟩ := header
  cases name with
  | none => rfl
  | some name =>
    cases kind with
    | view => rfl
    | package => rfl
    | function =>
      simp only [addHeader]
      split <;> rfl
    | procedure =>
      simp only [addHeader]
      split <;> rfl

/-- Adds the declarations of a line that was read. -/
def addReading (rules : DeclarationRules) (docs : List DocBlock) (index : Nat) (state : State)
    (reading : LineReading) (position : Nat) : State :=
  reading.headers.foldl (addHeader docs rules.window index (lineNumber position))
    { state with packageOpen := reading.packageOpen }

theorem packageOpen_addReading (rules : DeclarationRules) (docs : List DocBlock) (index : Nat)
    (state : State) (reading : LineReading) (position : Nat) :
    (addReading rules docs index state reading position).packageOpen = reading.packageOpen := by
  have fold (hs : List Header) (state : State) :
      (hs.foldl (addHeader docs rules.window index (lineNumber position)) state).packageOpen =
        state.packageOpen := by
    induction hs generalizing state with
    | nil => rfl
    | cons header rest ih => rw [List.foldl_cons, ih, packageOpen_addHeader]
  exact fold reading.headers _

theorem addLines_eq_walk (rules : DeclarationRules) (docs : List DocBlock) (index : Nat)
    (file : IndexedFile) (lines : List String) :
    addLines rules docs index file lines =
      (rules.headers.walk isPassedOver false lines).zipIdx.foldl
        (fun state entry => addReading rules docs index state entry.1 entry.2)
        ⟨file, .zero, false⟩ := by
  have fold (lines : List String) (n : Nat) (state : State) :
      (lines.zipIdx n).foldl
          (fun state entry => addLine rules docs index state entry.1 entry.2) state =
        ((rules.headers.walk isPassedOver state.packageOpen lines).zipIdx n).foldl
          (fun state entry => addReading rules docs index state entry.1 entry.2) state := by
    induction lines generalizing n state with
    | nil => rfl
    | cons line rest ih =>
      have hstep : addLine rules docs index state line n = addReading rules docs index state
          (if isPassedOver line then ⟨[], state.packageOpen⟩
            else rules.headers.readLine state.packageOpen line) n := by
        unfold addLine
        split <;> rfl
      simp only [List.zipIdx_cons, List.foldl_cons, HeaderRules.walk, hstep, ih,
        packageOpen_addReading]
  exact fold lines 0 ⟨file, .zero, false⟩

end Extraction

namespace Resolution

/-- Lines with what was read on them and their positions. -/
def readFrom (headers : HeaderRules) (position : Nat) (packageOpen : Bool) (lines : List String) :
    List ((String × LineReading) × Nat) :=
  (lines.zip (headers.walk isComment packageOpen lines)).zipIdx position

theorem readFrom_cons (headers : HeaderRules) (position : Nat) (packageOpen : Bool) (line : String)
    (rest : List String) :
    readFrom headers position packageOpen (line :: rest) =
      let reading := if isComment line then ⟨[], packageOpen⟩ else headers.readLine packageOpen line
      ((line, reading), position) :: readFrom headers (position + 1) reading.packageOpen rest := rfl

theorem searchFrom_eq_walk (headers : HeaderRules) (needles : List Needle) (position : Nat)
    (packageOpen : Bool) (lines : List String) :
    searchFrom headers needles position packageOpen lines =
      (((readFrom headers position packageOpen lines).filter fun entry =>
          !isComment entry.1.1 && !entry.1.2.isDeclaration).flatMap fun entry =>
            lineMentions needles entry.1.1 (lineNumber entry.2),
        ((readFrom headers position packageOpen lines).filter (·.1.2.isDeclaration)).length) := by
  induction lines generalizing position packageOpen with
  | nil => rfl
  | cons line rest ih =>
    rw [readFrom_cons, searchFrom]
    by_cases hc : isComment line = true
    · simp [hc, ih, LineReading.isDeclaration]
    · by_cases hd : (headers.readLine packageOpen line).isDeclaration = true
      · simp [hc, hd, ih]
      · simp [hc, hd, ih]

end Resolution

end CrossRef
