import CrossRef.Toml.Scalar
import CrossRef.Toml.Table

namespace CrossRef.Toml

def skipBlanks (cs : List Char) : List Char :=
  cs.dropWhile fun c => c = ' ' || c = '\t'

/-- Skips blanks, line ends and comments; `comment` tells of being in one. -/
def skipFiller (comment : Bool) : List Char → List Char
  | [] => []
  | '\n' :: rest => skipFiller false rest
  | '\r' :: '\n' :: rest => skipFiller false rest
  | c :: rest =>
    if comment then if isPlain c then skipFiller true rest else c :: rest
    else if c = '#' then skipFiller true rest
    else if c = ' ' || c = '\t' then skipFiller false rest
    else c :: rest

def isBareKeyChar (c : Char) : Bool :=
  c.isAlphanum || c = '_' || c = '-'

/-- Reads a key that stands bare or in quotes. -/
def readKey (cs : List Char) : Option (String × List Char) :=
  let named (found : List Char × List Char) := (String.ofList found.1, found.2)
  match cs with
  | '"' :: rest => (readBasic rest).map named
  | '\'' :: rest => (readLiteral rest).map named
  | cs =>
    match cs.takeWhile isBareKeyChar with
    | [] => none
    | key => some (String.ofList key, cs.drop key.length)

/-- Reads at most `limit` keys with dots between them. -/
def readPath : Nat → List Char → Option (List String × List Char)
  | 0, _ => none
  | limit + 1, cs =>
    match readKey (skipBlanks cs) with
    | none => none
    | some (key, rest) =>
      match skipBlanks rest with
      | '.' :: rest => (readPath limit rest).map fun (keys, rest) => (key :: keys, rest)
      | rest => some ([key], rest)

mutual

/-- Reads a value in at most `fuel` steps and gives the text behind it. -/
def readValue : Nat → List Char → Option (Toml × List Char)
  | 0, _ => none
  | fuel + 1, cs =>
    match cs with
    | '[' :: rest => (readItems fuel rest).map fun (items, rest) => (.arr false items, rest)
    | '\x7b' :: rest =>
      match skipBlanks rest with
      | '\x7d' :: rest => some (.table .inline [], rest)
      | rest => (readInline fuel [] rest).map fun (members, rest) => (.table .inline members, rest)
    | cs =>
      match readString? cs with
      | some (text, rest) => some (.str (String.ofList text), rest)
      | none => readWord cs

/-- Reads the items of an array up to its closing bracket. -/
def readItems : Nat → List Char → Option (List Toml × List Char)
  | 0, _ => none
  | fuel + 1, cs =>
    match skipFiller false cs with
    | ']' :: rest => some ([], rest)
    | cs =>
      match readValue fuel cs with
      | none => none
      | some (item, rest) =>
        match skipFiller false rest with
        | ']' :: rest => some ([item], rest)
        | ',' :: rest => (readItems fuel rest).map fun (items, rest) => (item :: items, rest)
        | _ => none

/-- Reads the entries of a table between braces, behind those of `members`. -/
def readInline : Nat → Members → List Char → Option (Members × List Char)
  | 0, _, _ => none
  | fuel + 1, members, cs =>
    match readPath maxNesting cs with
    | some (path, '=' :: rest) =>
      match readValue fuel (skipBlanks rest) with
      | none => none
      | some (value, rest) =>
        match addEntry path value members with
        | none => none
        | some members =>
          match skipBlanks rest with
          | '\x7d' :: rest => some (members, rest)
          | ',' :: rest => readInline fuel members rest
          | _ => none
    | _ => none

end

/-- The text behind the end of a line, which only blanks and a comment may precede. -/
def endOfLine? (cs : List Char) : Option (List Char) :=
  let rest := match skipBlanks cs with
    | '#' :: comment => comment.dropWhile isPlain
    | rest => rest
  match rest with
  | [] => some []
  | '\n' :: rest => some rest
  | '\r' :: '\n' :: rest => some rest
  | _ => none

/-- Reads a header or an entry. -/
def readStatement (cs : List Char) : Option (Statement × List Char) :=
  match cs with
  | '[' :: '[' :: rest =>
    match readPath maxNesting rest with
    | some (path, ']' :: ']' :: rest) => some (.row path, rest)
    | _ => none
  | '[' :: rest =>
    match readPath maxNesting rest with
    | some (path, ']' :: rest) => some (.table path, rest)
    | _ => none
  | cs =>
    match readPath maxNesting cs with
    | some (path, '=' :: rest) =>
      match readValue (2 * rest.length + 2) (skipBlanks rest) with
      | some (value, rest) =>
        if value.nesting ≤ maxNesting then some (.entry path value, rest) else none
      | none => none
    | _ => none

/-- Reads a document line by line. -/
def readStatements : Nat → List Char → Option (List Statement)
  | 0, _ => none
  | fuel + 1, cs =>
    match skipFiller false cs with
    | [] => some []
    | cs => do
      let (statement, rest) ← readStatement cs
      let rest ← endOfLine? rest
      (readStatements fuel rest).map (statement :: ·)

/-- Reads a document, which may start with a byte order mark. -/
def parse? (text : String) : Option Members :=
  let cs := match text.toList with
    | c :: rest => if c.toNat = 0xfeff then rest else c :: rest
    | [] => []
  (readStatements (cs.length + 1) cs).bind assemble

end CrossRef.Toml
