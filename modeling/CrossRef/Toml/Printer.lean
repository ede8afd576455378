namespace CrossRef.Toml

/-- The length of the longest run of a character. -/
def longestRun (c : Char) (cs : List Char) : Nat :=
  let step := fun (state : Nat × Nat) (d : Char) =>
    if d = c then (state.1 + 1, max state.2 (state.1 + 1)) else (0, state.2)
  (cs.foldl step (0, 0)).2

/-- Control characters that no form of string can hold as they are. -/
def isControl (c : Char) : Bool :=
  (c.toNat < 0x20 && c ≠ '\t' && c ≠ '\n') || c.toNat = 0x7f

def upperHexDigit (n : Nat) : Char :=
  if n < 10 then Char.ofNat (0x30 + n) else Char.ofNat (0x37 + n)

/-- A control character as a backslash escape. -/
def escapeControl (c : Char) : List Char :=
  if c.toNat = 8 then ['\\', 'b']
  else if c = '\t' then ['\\', 't']
  else if c = '\n' then ['\\', 'n']
  else if c.toNat = 12 then ['\\', 'f']
  else if c = '\r' then ['\\', 'r']
  else ['\\', 'u', '0', '0', upperHexDigit (c.toNat / 16), upperHexDigit (c.toNat % 16)]

/-- The text of a string between double quotes. At most `quotes` double quotes in a row stand as
they are, `run` of which have been written; line feeds stand as they are in a long string. -/
def escaped (long : Bool) (quotes : Nat) : Nat → List Char → List Char
  | _, [] => []
  | run, c :: cs =>
    if c = '"' then
      if run < quotes then c :: escaped long quotes (run + 1) cs
      else '\\' :: c :: escaped long quotes 0 cs
    else if c = '\\' then '\\' :: '\\' :: escaped long quotes 0 cs
    else if c = '\n' && long then c :: escaped long quotes 0 cs
    else if c = '\t' || c = '\n' || isControl c then
      escapeControl c ++ escaped long quotes 0 cs
    else c :: escaped long quotes 0 cs

/-- The forms a string can be written in. -/
inductive Quotation
  | basic
  | literal
  | longBasic
  | longLiteral
  deriving DecidableEq

/-- The first form, in the order of preference, that holds the text without escapes; a form with
escapes where there is none. -/
def quotationOf (cs : List Char) : Quotation :=
  let control := cs.any isControl
  let backslash := cs.contains '\\'
  let lineFeed := cs.contains '\n'
  let doubles := longestRun '"' cs
  let singles := longestRun '\'' cs
  if !control && !backslash && doubles = 0 && !lineFeed then .basic
  else if !control && singles = 0 && !lineFeed then .literal
  else if !control && !backslash && doubles ≤ 2 then .longBasic
  else if !control && singles ≤ 2 then .longLiteral
  else if lineFeed then .longBasic
  else .basic

/-- A string in quotes. A long string with a line feed starts on a new line. -/
def quoted (s : String) : List Char :=
  let cs := s.toList
  let start := if cs.contains '\n' then ['\n'] else []
  match quotationOf cs with
  | .basic => '"' :: (escaped false 0 0 cs ++ ['"'])
  | .literal => '\'' :: (cs ++ ['\''])
  | .longBasic => ['"', '"', '"'] ++ start ++ escaped true 2 0 cs ++ ['"', '"', '"']
  | .longLiteral => ['\'', '\'', '\''] ++ start ++ cs ++ ['\'', '\'', '\'']

/-- A list of strings: two or more stand on lines of their own. -/
def stringList : List String → List Char
  | [] => ['[', ']']
  | [item] => '[' :: (quoted item ++ [']'])
  | items => ['[', '\n'] ++ items.flatMap (fun item => "    ".toList ++ quoted item ++ [',', '\n']) ++ [']']

end CrossRef.Toml
