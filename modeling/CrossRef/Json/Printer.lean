import CrossRef.Json.Value

namespace CrossRef.Json

def openBrace : Char := Char.ofNat 0x7b

def closeBrace : Char := Char.ofNat 0x7d

def hexDigit (n : Nat) : Char :=
  if n < 10 then Char.ofNat (0x30 + n) else Char.ofNat (0x57 + n)

/-- How a character stands in a string: quotes, backslashes and control characters are escaped. -/
def escapeChar (c : Char) : List Char :=
  if c = '"' then ['\\', '"']
  else if c = '\\' then ['\\', '\\']
  else if c = '\n' then ['\\', 'n']
  else if c = '\r' then ['\\', 'r']
  else if c = '\t' then ['\\', 't']
  else if c.toNat = 8 then ['\\', 'b']
  else if c.toNat = 12 then ['\\', 'f']
  else if c.toNat < 0x20 then
    ['\\', 'u', '0', '0', hexDigit (c.toNat / 16), hexDigit (c.toNat % 16)]
  else [c]

def quoted (s : String) : List Char :=
  '"' :: (s.toList.flatMap escapeChar ++ ['"'])

mutual

/-- A value without any blank. -/
def compact : Json → List Char
  | .null => "null".toList
  | .bool true => "true".toList
  | .bool false => "false".toList
  | .nat n => (toString n).toList
  | .number written => written.toList
  | .str s => quoted s
  | .broken written => written.toList
  | .arr items => '[' :: (compactItems items ++ [']'])
  | .obj members => openBrace :: (compactMembers members ++ [closeBrace])

def compactItems : List Json → List Char
  | [] => []
  | [item] => compact item
  | item :: items => compact item ++ ',' :: compactItems items

def compactMembers : List (String × Json) → List Char
  | [] => []
  | [(key, value)] => quoted key ++ ':' :: compact value
  | (key, value) :: members => quoted key ++ ':' :: (compact value ++ ',' :: compactMembers members)

end

/-- A line feed and two blanks for each level. -/
def newline (depth : Nat) : List Char :=
  '\n' :: List.replicate (2 * depth) ' '

mutual

/-- A value with each item and member on a line of its own. -/
def pretty (depth : Nat) : Json → List Char
  | .arr [] => ['[', ']']
  | .arr items => '[' :: (prettyItems (depth + 1) items ++ newline depth ++ [']'])
  | .obj [] => [openBrace, closeBrace]
  | .obj members => openBrace :: (prettyMembers (depth + 1) members ++ newline depth ++ [closeBrace])
  | .null => compact .null
  | .bool b => compact (.bool b)
  | .nat n => compact (.nat n)
  | .number written => compact (.number written)
  | .str s => compact (.str s)
  | .broken written => compact (.broken written)

def prettyItems (depth : Nat) : List Json → List Char
  | [] => []
  | [item] => newline depth ++ pretty depth item
  | item :: items => newline depth ++ pretty depth item ++ ',' :: prettyItems depth items

def prettyMembers (depth : Nat) : List (String × Json) → List Char
  | [] => []
  | [(key, value)] => newline depth ++ quoted key ++ ':' :: ' ' :: pretty depth value
  | (key, value) :: members =>
    newline depth ++ quoted key ++ ':' :: ' ' :: (pretty depth value ++
      ',' :: prettyMembers depth members)

end

/-- The text of a value, on one line or laid out. -/
def render (laidOut : Bool) (value : Json) : String :=
  String.ofList (if laidOut then pretty 0 value else compact value)

end CrossRef.Json
