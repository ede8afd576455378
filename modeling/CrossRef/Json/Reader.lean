import CrossRef.Json.Value

namespace CrossRef.Json

def skipBlanks (cs : List Char) : List Char :=
  cs.dropWhile fun c => c = ' ' || c = '\n' || c = '\t' || c = '\r'

def hexValue? (c : Char) : Option Nat :=
  if '0' ≤ c && c ≤ '9' then some (c.toNat - 0x30)
  else if 'a' ≤ c && c ≤ 'f' then some (c.toNat - 0x57)
  else if 'A' ≤ c && c ≤ 'F' then some (c.toNat - 0x37)
  else none

/-- The value of hexadecimal digits. -/
def hexNumber? (digits : List Char) : Option Nat :=
  digits.foldlM (fun n c => (hexValue? c).map (n * 16 + ·)) 0

/-- What a backslash and a letter stand for. -/
def unescape? : Char → Option Char
  | '"' => some '"'
  | '\\' => some '\\'
  | '/' => some '/'
  | 'b' => some (Char.ofNat 8)
  | 'f' => some (Char.ofNat 12)
  | 'n' => some '\n'
  | 'r' => some '\r'
  | 't' => some '\t'
  | _ => none

/-- What a string says, with the text behind it; nothing if it holds half a character. -/
abbrev Said := Option (List Char) × List Char

/-- Puts a character in front of what a string says. -/
def sayFirst (c : Option Char) (said : Said) : Said :=
  match c, said with
  | some c, (some cs, rest) => (some (c :: cs), rest)
  | _, (_, rest) => (none, rest)

/-- The first and the second half of a character beyond the sixteen-bit range. -/
def isFirstHalf (n : Nat) : Bool :=
  0xd800 ≤ n && n < 0xdc00

def isSecondHalf (n : Nat) : Bool :=
  0xdc00 ≤ n && n < 0xe000

/-- The character of a code, unless it is half of one. -/
def whole? (n : Nat) : Option Char :=
  if isFirstHalf n || isSecondHalf n then none else some (Char.ofNat n)

/-- The character of two halves. -/
def joinHalves (first second : Nat) : Char :=
  Char.ofNat (0x10000 + (first - 0xd800) * 0x400 + (second - 0xdc00))

/-- Reads a string behind its opening quote. The halves of a character must stand together, or the
string says nothing. -/
def readText : List Char → Option Said
  | [] => none
  | '"' :: rest => some (some [], rest)
  | '\\' :: 'u' :: a :: b :: c :: d :: '\\' :: 'u' :: e :: f :: g :: h :: rest =>
    match hexNumber? [a, b, c, d], hexNumber? [e, f, g, h] with
    | some n, some m =>
      if isFirstHalf n && isSecondHalf m then
        (readText rest).map (sayFirst (some (joinHalves n m)))
      else (readText ('\\' :: 'u' :: e :: f :: g :: h :: rest)).map (sayFirst (whole? n))
    | _, _ => none
  | '\\' :: 'u' :: a :: b :: c :: d :: rest =>
    match hexNumber? [a, b, c, d] with
    | some n => (readText rest).map (sayFirst (whole? n))
    | none => none
  | '\\' :: c :: rest =>
    match unescape? c with
    | some c => (readText rest).map (sayFirst (some c))
    | none => none
  | c :: rest =>
    if c.toNat < 0x20 then none
    else (readText rest).map (sayFirst (some c))

def spanDigits (cs : List Char) : List Char × List Char :=
  (cs.takeWhile Char.isDigit, cs.dropWhile Char.isDigit)

def ofDigits (digits : List Char) : Nat :=
  digits.foldl (fun n c => n * 10 + (c.toNat - 0x30)) 0

/-- Reads a fraction, if the text goes on with one. -/
def readFraction : List Char → Option (List Char × List Char)
  | '.' :: rest =>
    match spanDigits rest with
    | ([], _) => none
    | (digits, rest) => some ('.' :: digits, rest)
  | rest => some ([], rest)

/-- Reads an exponent, if the text goes on with one. -/
def readExponent : List Char → Option (List Char × List Char)
  | e :: rest =>
    if e = 'e' || e = 'E' then
      let (sign, rest) := match rest with
        | '+' :: rest => (['+'], rest)
        | '-' :: rest => (['-'], rest)
        | rest => ([], rest)
      match spanDigits rest with
      | ([], _) => none
      | (digits, rest) => some (e :: (sign ++ digits), rest)
    else some ([], e :: rest)
  | [] => some ([], [])

/-- Reads a number. Its whole part has no leading zero. -/
def readNumber (cs : List Char) : Option (Json × List Char) := do
  let (sign, rest) := match cs with
    | '-' :: rest => (['-'], rest)
    | rest => ([], rest)
  let (digits, rest) := spanDigits rest
  if digits.isEmpty || (digits.length > 1 && digits.head? = some '0') then none
  let (fraction, rest) ← readFraction rest
  let (exponent, rest) ← readExponent rest
  if sign.isEmpty && fraction.isEmpty && exponent.isEmpty then
    some (.nat (ofDigits digits), rest)
  else some (.number (String.ofList (sign ++ digits ++ fraction ++ exponent)), rest)

/-- What stands in a text before the rest of it. -/
def writtenBefore (rest cs : List Char) : String :=
  String.ofList (cs.take (cs.length - rest.length))

/-- The value of a string, which is read from `cs` up to `rest`. -/
def ofText (cs rest : List Char) : Option (List Char) → Json
  | some said => .str (String.ofList said)
  | none => .broken (writtenBefore rest cs)

/-- The value of an object, all of whose keys must be whole. -/
def ofMembers (cs rest : List Char) : Option (List (String × Json)) → Json
  | some members => .obj members
  | none => .broken (writtenBefore rest cs)

/-- Puts a member in front of others. -/
def consMember (key : Option (List Char)) (value : Json) (members : Option (List (String × Json))) :
    Option (List (String × Json)) := do
  some ((String.ofList (← key), value) :: (← members))

mutual

/-- Reads a value in at most `fuel` steps and gives the text behind it. -/
def readValue : Nat → List Char → Option (Json × List Char)
  | 0, _ => none
  | fuel + 1, cs =>
    match skipBlanks cs with
    | 'n' :: 'u' :: 'l' :: 'l' :: rest => some (.null, rest)
    | 't' :: 'r' :: 'u' :: 'e' :: rest => some (.bool true, rest)
    | 'f' :: 'a' :: 'l' :: 's' :: 'e' :: rest => some (.bool false, rest)
    | '"' :: rest =>
      (readText rest).map fun (said, after) => (ofText ('"' :: rest) after said, after)
    | '[' :: rest =>
      match skipBlanks rest with
      | ']' :: rest => some (.arr [], rest)
      | rest => (readItems fuel rest).map fun (items, rest) => (.arr items, rest)
    | '\x7b' :: rest =>
      match skipBlanks rest with
      | '\x7d' :: rest => some (.obj [], rest)
      | first =>
        (readMembers fuel first).map fun (members, after) =>
          (ofMembers ('\x7b' :: rest) after members, after)
    | rest => readNumber rest

/-- Reads the items of an array that is not empty. -/
def readItems : Nat → List Char → Option (List Json × List Char)
  | 0, _ => none
  | fuel + 1, cs =>
    match readValue fuel cs with
    | none => none
    | some (item, rest) =>
      match skipBlanks rest with
      | ']' :: rest => some ([item], rest)
      | ',' :: rest => (readItems fuel rest).map fun (items, rest) => (item :: items, rest)
      | _ => none

/-- Reads the members of an object that is not empty; there are none if a key is broken. -/
def readMembers : Nat → List Char → Option (Option (List (String × Json)) × List Char)
  | 0, _ => none
  | fuel + 1, cs =>
    match skipBlanks cs with
    | '"' :: rest =>
      match readText rest with
      | none => none
      | some (key, rest) =>
        match skipBlanks rest with
        | ':' :: rest =>
          match readValue fuel rest with
          | none => none
          | some (value, rest) =>
            match skipBlanks rest with
            | '\x7d' :: rest => some (consMember key value (some []), rest)
            | ',' :: rest =>
              (readMembers fuel rest).map fun (members, rest) =>
                (consMember key value members, rest)
            | _ => none
        | _ => none
    | _ => none

end

/-- Reads a text that is one value with nothing but blanks around it. -/
def parse? (text : String) : Option Json := do
  let cs := text.toList
  let (value, rest) ← readValue (2 * cs.length + 2) cs
  if (skipBlanks rest).isEmpty then some value else none

end CrossRef.Json
