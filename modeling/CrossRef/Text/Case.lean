import CrossRef.Text.UpperRuns
import CrossRef.Text.LowerRuns
import CrossRef.Text.CaseContext

namespace CrossRef.Text

/-- The full upper case of a character, which may be several characters. -/
def upperChar (c : Char) : List Char :=
  if c.toNat < 0x80 then [c.toUpper]
  else match upperExpansions.lookup c.toNat with
    | some codes => codes.map Char.ofNat
    | none => [((imageIn upperRuns c.toNat).map Char.ofNat).getD c]

/-- The upper case of a text is the upper case of its characters, one after the other. -/
def upper (s : String) : String :=
  String.ofList (s.toList.flatMap upperChar)

theorem toList_upper (s : String) : (upper s).toList = s.toList.flatMap upperChar := by
  simp [upper]

theorem upper_append (s t : String) : upper (s ++ t) = upper s ++ upper t := by
  simp [upper, String.ofList_append]

/-- The full lower case of a character that stands alone. -/
def lowerChar (c : Char) : List Char :=
  if c.toNat < 0x80 then [c.toLower]
  else match lowerExpansions.lookup c.toNat with
    | some codes => codes.map Char.ofNat
    | none => [((imageIn lowerRuns c.toNat).map Char.ofNat).getD c]

/-- Whether the text goes on with a letter once the ignorable characters are passed. -/
def meetsLetter (cs : List Char) : Bool :=
  match cs.dropWhile fun c => inRanges caseIgnorableRanges c.toNat with
  | [] => false
  | c :: _ => inRanges casedRanges c.toNat

/-- Lower-cases `cs`, which follows the characters of `before`, nearest first.
A capital sigma at the end of a word takes its final form. -/
def lowerAfter (before : List Char) : List Char → List Char
  | [] => []
  | c :: cs =>
    if c = 'Σ' then
      (if meetsLetter before && !meetsLetter cs then 'ς' else 'σ') :: lowerAfter (c :: before) cs
    else lowerChar c ++ lowerAfter (c :: before) cs

def lower (s : String) : String :=
  String.ofList (lowerAfter [] s.toList)

end CrossRef.Text
