import CrossRef.Text.CaseRun
import CrossRef.Text.HiddenRanges

namespace CrossRef.Text

/-- Whether a character shows itself where it stands alone. -/
def isVisible (c : Char) : Bool :=
  !inRanges hiddenRanges c.toNat

/-- The code of a character between braces. -/
def codeEscape (c : Char) : List Char :=
  ['\\', 'u', Char.ofNat 0x7b] ++ Nat.toDigits 16 c.toNat ++ [Char.ofNat 0x7d]

/-- A character in a quoted text: quotes and backslashes are escaped, as is what does not show. -/
def visibleChar (c : Char) : List Char :=
  if c = '"' || c = '\'' || c = '\\' then ['\\', c]
  else if c = '\n' then ['\\', 'n']
  else if c = '\r' then ['\\', 'r']
  else if c = '\t' then ['\\', 't']
  else if c.toNat = 0 then ['\\', '0']
  else if isVisible c then [c]
  else codeEscape c

/-- A text in quotes that shows every character of it. -/
def visible (s : String) : String :=
  String.ofList ('"' :: (s.toList.flatMap visibleChar ++ ['"']))

end CrossRef.Text
