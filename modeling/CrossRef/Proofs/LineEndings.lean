import CrossRef.Proofs.WrittenTexts

namespace CrossRef

/-- What a line ends with. -/
inductive LineEnding
  | feed
  | returnFeed
  deriving DecidableEq

def LineEnding.text : LineEnding → String
  | .feed => "\n"
  | .returnFeed => "\r\n"

namespace Text

/-- The text of lines that have each an ending of their own, and of what stands behind them. -/
def joinEnded (ended : List (String × LineEnding)) (last : String) : String :=
  String.join (ended.map fun line => line.1 ++ line.2.text) ++ last

/-- The lines of such a text. What stands behind the last ending is one unless it is empty. -/
def linesOf (ended : List (String × LineEnding)) (last : String) : List String :=
  ended.map Prod.fst ++ if last = "" then [] else [last]

/-- A line that can be told from its ending: it holds no line feed, and before a bare line feed it
has no carriage return at its end. -/
def IsEnded (line : String × LineEnding) : Prop :=
  '\n' ∉ line.1.toList ∧ (line.2 = .feed → line.1.toList.getLast? ≠ some '\r')

theorem toList_joinEnded_cons (line : String) (ending : LineEnding)
    (ended : List (String × LineEnding)) (last : String) :
    (joinEnded ((line, ending) :: ended) last).toList =
      line.toList ++ (ending.text.toList ++ (joinEnded ended last).toList) := by
  simp [joinEnded, String.toList_join]

/-- The text up to the first line feed is a line, and the rest is read on. -/
theorem splitLines_feed {front : List Char} (h : '\n' ∉ front) (rest : List Char) :
    splitLines (front ++ '\n' :: rest) = dropReturn front :: splitLines rest := by
  have hfront : front.splitOn '\n' = [front] := List.splitOn_eq_singleton h
  have hparts : (front ++ '\n' :: rest).splitOn '\n' = front :: rest.splitOn '\n' := by
    rw [List.splitOn_eq_splitOnP] at hfront ⊢
    rw [List.splitOnP_append_cons front rest (by simp), hfront]
    rfl
  have hne : rest.splitOn '\n' ≠ [] := List.splitOn_ne_nil '\n' rest
  simp only [splitLines, hparts, List.dropLast_cons_of_ne_nil hne, List.map_cons,
    List.getLast?_cons_of_ne_nil hne, List.cons_append]

theorem splitLines_last {last : List Char} (h : '\n' ∉ last) :
    splitLines last = if last = [] then [] else [last] := by
  have hparts : last.splitOn '\n' = [last] := List.splitOn_eq_singleton h
  by_cases hlast : last = []
  · simp [splitLines, hlast]
  · simp [splitLines, hparts, hlast]

/-- With either ending, the line is what is left in front of it. -/
theorem IsEnded.splitLines {line : String} {ending : LineEnding} (h : IsEnded (line, ending))
    (rest : List Char) :
    splitLines (line.toList ++ (ending.text.toList ++ rest)) = line.toList :: splitLines rest := by
  obtain ⟨hfeed, hreturn⟩ := h
  cases ending with
  | feed =>
    have hkept : dropReturn line.toList = line.toList := if_neg (hreturn rfl)
    have htext : LineEnding.feed.text.toList ++ rest = '\n' :: rest := rfl
    rw [htext, splitLines_feed hfeed, hkept]
  | returnFeed =>
    have hdropped : dropReturn (line.toList ++ ['\r']) = line.toList := by simp [dropReturn]
    have htext : line.toList ++ (LineEnding.returnFeed.text.toList ++ rest) =
        (line.toList ++ ['\r']) ++ '\n' :: rest := by simp [LineEnding.text]
    have hboth : '\n' ∉ line.toList ++ ['\r'] := by simpa using hfeed
    rw [htext, splitLines_feed hboth, hdropped]

/-- The lines are read back, whatever their endings. -/
theorem splitLines_joinEnded {ended : List (String × LineEnding)} {last : String}
    (h : ∀ line ∈ ended, IsEnded line) (hlast : '\n' ∉ last.toList) :
    (splitLines (joinEnded ended last).toList).map String.ofList = linesOf ended last := by
  induction ended with
  | nil =>
    have hjoin : joinEnded [] last = last := by simp [joinEnded]
    rw [hjoin, splitLines_last hlast]
    by_cases hempty : last = ""
    · simp [linesOf, hempty]
    · simp [linesOf, hempty]
  | cons line rest ih =>
    obtain ⟨hfirst, hothers⟩ := List.forall_mem_cons.mp h
    rw [toList_joinEnded_cons, hfirst.splitLines, List.map_cons, ih hothers, String.ofList_toList]
    rfl

/-- A character in front of an ended line makes the line longer, unless it is the carriage return of
its ending. -/
theorem IsEnded.cons {line : String} {ending : LineEnding} (h : IsEnded (line, ending)) {c : Char}
    (hc : c ≠ '\n') :
    ∃ longer, IsEnded longer ∧
      longer.1.toList ++ longer.2.text.toList = c :: (line.toList ++ ending.text.toList) := by
  obtain ⟨hfeed, hreturn⟩ := h
  by_cases hjoined : c = '\r' ∧ line = "" ∧ ending = .feed
  · obtain ⟨rfl, rfl, rfl⟩ := hjoined
    exact ⟨("", .returnFeed), ⟨by simp, by simp⟩, rfl⟩
  · refine ⟨(String.ofList (c :: line.toList), ending), ⟨?_, ?_⟩, by simp⟩
    · simpa [Ne.symm hc] using hfeed
    · intro hending hend
      rw [String.toList_ofList, List.getLast?_cons] at hend
      cases hlast : line.toList.getLast? with
      | none =>
        have hempty : line = "" := by simpa using hlast
        exact hjoined ⟨by simpa [hlast] using hend, hempty, hending⟩
      | some d => exact hreturn hending (by simpa [hlast] using hend)

/-- Every text is made of ended lines and of what stands behind them. -/
theorem exists_joinEnded (text : List Char) :
    ∃ ended last, text = (joinEnded ended last).toList ∧ (∀ line ∈ ended, IsEnded line) ∧
      '\n' ∉ last.toList := by
  induction text with
  | nil => exact ⟨[], "", rfl, by simp, by simp⟩
  | cons c rest ih =>
    obtain ⟨ended, last, hrest, hended, hlast⟩ := ih
    by_cases hc : c = '\n'
    · refine ⟨("", .feed) :: ended, last, ?_, List.forall_mem_cons.mpr ⟨?_, hended⟩, hlast⟩
      · rw [toList_joinEnded_cons, hrest, hc]
        rfl
      · exact ⟨by simp, by simp⟩
    cases ended with
    | nil =>
      have hrest : rest = last.toList := by simpa [joinEnded] using hrest
      refine ⟨[], String.ofList (c :: rest), by simp [joinEnded], by simp, ?_⟩
      simpa [Ne.symm hc, hrest] using hlast
    | cons line others =>
      obtain ⟨hline, hothers⟩ := List.forall_mem_cons.mp hended
      obtain ⟨longer, hlonger, hchars⟩ := hline.cons hc
      refine ⟨longer :: others, last, ?_, List.forall_mem_cons.mpr ⟨hlonger, hothers⟩, hlast⟩
      rw [toList_joinEnded_cons, ← List.append_assoc, hchars, hrest, toList_joinEnded_cons]
      simp

theorem feed_not_mem_linesOf {ended : List (String × LineEnding)} {last line : String}
    (h : ∀ line ∈ ended, IsEnded line) (hlast : '\n' ∉ last.toList)
    (hline : line ∈ linesOf ended last) : '\n' ∉ line.toList := by
  rcases List.mem_append.mp hline with hline | hline
  · obtain ⟨entry, hentry, rfl⟩ := List.mem_map.mp hline
    exact (h entry hentry).1
  · split at hline
    next => simp at hline
    next =>
      rw [List.mem_singleton.mp hline]
      exact hlast

theorem exists_encode_of_isValidUTF8 {bytes : List UInt8} (h : bytes.toByteArray.IsValidUTF8) :
    ∃ text, bytes = encode text := by
  obtain ⟨chars, hchars⟩ := h
  refine ⟨String.ofList chars, ?_⟩
  rw [encode, String.toList_ofList]
  exact List.toByteArray_inj.mp hchars

end Text

namespace FileTree

/-- The lines of a file do not hang on how they are ended: lines without line feeds and without
carriage returns at their ends are read back from a file that ends each of them with a line feed or
with both, and the last of them perhaps with nothing. No line of a file holds a line feed, and where
the bytes are a text they are those of the lines with their endings, so that nothing is replaced. -/
theorem contents_whatever_endings {tree : FileTree} {path : String} {bytes : List UInt8}
    (h : tree.readBytes path = .ok bytes) :
    (∀ ended last,
      (∀ line ∈ last :: ended.map Prod.fst,
        '\n' ∉ line.toList ∧ line.toList.getLast? ≠ some '\r') →
      bytes = Text.encode (Text.joinEnded ended last) →
        tree.contents path = some (Text.linesOf ended last)) ∧
    ∃ found, tree.contents path = some found ∧ (∀ line ∈ found, '\n' ∉ line.toList) ∧
      (bytes.toByteArray.IsValidUTF8 → ∃ ended last,
        bytes = Text.encode (Text.joinEnded ended last) ∧ found = Text.linesOf ended last) := by
  have hcontents : tree.contents path = some (Contents.linesOfBytes bytes) := by
    simp [contents, h, Except.toOption]
  have hread {ended : List (String × LineEnding)} {last : String}
      (hended : ∀ line ∈ ended, Text.IsEnded line) (hlast : '\n' ∉ last.toList)
      (htext : Text.decodeLossy bytes = (Text.joinEnded ended last).toList) :
      Contents.linesOfBytes bytes = Text.linesOf ended last := by
    rw [Contents.linesOfBytes, htext, Text.splitLines_joinEnded hended hlast]
  refine ⟨?_, Contents.linesOfBytes bytes, hcontents, ?_, ?_⟩
  · intro ended last hlines hbytes
    obtain ⟨hlast, hended⟩ := List.forall_mem_cons.mp hlines
    rw [hcontents, hread ?_ hlast.1 (by rw [hbytes, Text.decodeLossy_encode])]
    intro line hline
    have hfirst := hended line.1 (List.mem_map_of_mem hline)
    exact ⟨hfirst.1, fun _ => hfirst.2⟩
  · obtain ⟨ended, last, htext, hended, hlast⟩ := Text.exists_joinEnded (Text.decodeLossy bytes)
    rw [hread hended hlast htext]
    exact fun line => Text.feed_not_mem_linesOf hended hlast
  · intro hvalid
    obtain ⟨text, hbytes⟩ := Text.exists_encode_of_isValidUTF8 hvalid
    obtain ⟨ended, last, htext, hended, hlast⟩ := Text.exists_joinEnded text.toList
    have hjoined : text = Text.joinEnded ended last := String.toList_inj.mp htext
    refine ⟨ended, last, by rw [hbytes, hjoined], hread hended hlast ?_⟩
    rw [hbytes, Text.decodeLossy_encode, htext]

/-- A file whose first line ends with both, whose second with a line feed alone, and whose third
with nothing. -/
def mixedEndings : FileTree :=
  blank.put (home ++ (["a.sql"] : Location)) (.file (.bytes [0xc3, 0xa9, 0x0d, 0x0a, 0x0a, 0x62]))

theorem contents_whatever_endings_mixed :
    mixedEndings.contents "./a.sql" = some ["é", "", "b"] ∧
      ∃ ended last, [0xc3, 0xa9, 0x0d, 0x0a, 0x0a, 0x62] =
          Text.encode (Text.joinEnded ended last) ∧ ["é", "", "b"] = Text.linesOf ended last := by
  have hread : mixedEndings.readBytes "./a.sql" =
      .ok [0xc3, 0xa9, 0x0d, 0x0a, 0x0a, 0x62] := by decide +kernel
  obtain ⟨hlines, found, hfound, _, hvalid⟩ := contents_whatever_endings hread
  have hbytes : ([0xc3, 0xa9, 0x0d, 0x0a, 0x0a, 0x62] : List UInt8) =
      Text.encode (Text.joinEnded [("é", .returnFeed), ("", .feed)] "b") := by decide +kernel
  have hmixed := hlines [("é", .returnFeed), ("", .feed)] "b" (by decide +kernel) hbytes
  have hutf : ([0xc3, 0xa9, 0x0d, 0x0a, 0x0a, 0x62] : List UInt8).toByteArray.IsValidUTF8 :=
    ⟨['é', '\r', '\n', '\n', 'b'], by decide +kernel⟩
  obtain ⟨ended, last, hended, hlast⟩ := hvalid hutf
  have hsame : found = ["é", "", "b"] := Option.some.inj (hfound.symm.trans hmixed)
  exact ⟨hmixed, ended, last, hended, hsame ▸ hlast⟩

end FileTree

end CrossRef
