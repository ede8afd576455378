import CrossRef.Double
import CrossRef.Toml.Value

namespace CrossRef.Toml

/-- Whether a character may stand in a comment or, apart from quotes and backslashes, in a
string. -/
def isPlain (c : Char) : Bool :=
  c = '\t' || (0x20 ≤ c.toNat && c.toNat ≠ 0x7f)

def hexValue? (c : Char) : Option Nat :=
  if '0' ≤ c && c ≤ '9' then some (c.toNat - 0x30)
  else if 'a' ≤ c && c ≤ 'f' then some (c.toNat - 0x57)
  else if 'A' ≤ c && c ≤ 'F' then some (c.toNat - 0x37)
  else none

/-- The character with this hexadecimal code. Surrogates are no characters. -/
def charOfHex? (digits : List Char) : Option Char := do
  let n ← digits.foldlM (fun n c => (hexValue? c).map (n * 16 + ·)) 0
  if n < 0xd800 || (0xe000 ≤ n && n < 0x110000) then some (Char.ofNat n) else none

def unescape? : Char → Option Char
  | 'b' => some (Char.ofNat 8)
  | 't' => some '\t'
  | 'n' => some '\n'
  | 'f' => some (Char.ofNat 12)
  | 'r' => some '\r'
  | '"' => some '"'
  | '\\' => some '\\'
  | _ => none

/-- A text with a character in front, if both are there. -/
def consTo (c : Option Char) (found : Option (List Char × List Char)) :
    Option (List Char × List Char) :=
  match c, found with
  | some c, some (cs, rest) => some (c :: cs, rest)
  | _, _ => none

/-- Reads a basic string behind its opening quote. -/
def readBasic : List Char → Option (List Char × List Char)
  | [] => none
  | '"' :: rest => some ([], rest)
  | '\\' :: 'u' :: a :: b :: c :: d :: rest => consTo (charOfHex? [a, b, c, d]) (readBasic rest)
  | '\\' :: 'U' :: a :: b :: c :: d :: e :: f :: g :: h :: rest =>
    consTo (charOfHex? [a, b, c, d, e, f, g, h]) (readBasic rest)
  | '\\' :: c :: rest => consTo (unescape? c) (readBasic rest)
  | c :: rest => if isPlain c then consTo (some c) (readBasic rest) else none

/-- Reads a literal string behind its opening quote. -/
def readLiteral : List Char → Option (List Char × List Char)
  | [] => none
  | '\'' :: rest => some ([], rest)
  | c :: rest => if isPlain c then consTo (some c) (readLiteral rest) else none

/-- Whether the line ends behind at most some blanks. -/
def endsLine (cs : List Char) : Bool :=
  match cs.dropWhile fun c => c = ' ' || c = '\t' with
  | '\n' :: _ => true
  | '\r' :: '\n' :: _ => true
  | _ => false

/-- Reads a long basic string. A backslash at the end of a line drops all blanks that follow, which
`skip` tells of. Up to two quotes may stand before the closing ones. -/
def readLongBasic (skip : Bool) : List Char → Option (List Char × List Char)
  | [] => none
  | '"' :: '"' :: '"' :: '"' :: '"' :: rest => some (['"', '"'], rest)
  | '"' :: '"' :: '"' :: '"' :: rest => some (['"'], rest)
  | '"' :: '"' :: '"' :: rest => some ([], rest)
  | '\r' :: '\n' :: rest =>
    if skip then readLongBasic true rest else consTo (some '\n') (readLongBasic false rest)
  | '\\' :: 'u' :: a :: b :: c :: d :: rest =>
    consTo (charOfHex? [a, b, c, d]) (readLongBasic false rest)
  | '\\' :: 'U' :: a :: b :: c :: d :: e :: f :: g :: h :: rest =>
    consTo (charOfHex? [a, b, c, d, e, f, g, h]) (readLongBasic false rest)
  | '\\' :: c :: rest =>
    if endsLine (c :: rest) then readLongBasic true rest
    else consTo (unescape? c) (readLongBasic false rest)
  | c :: rest =>
    if skip && (c = ' ' || c = '\t' || c = '\n') then readLongBasic true rest
    else if isPlain c || c = '\n' then consTo (some c) (readLongBasic false rest)
    else none

/-- Reads a long literal string. Up to two quotes may stand before the closing ones. -/
def readLongLiteral : List Char → Option (List Char × List Char)
  | [] => none
  | '\'' :: '\'' :: '\'' :: '\'' :: '\'' :: rest => some (['\'', '\''], rest)
  | '\'' :: '\'' :: '\'' :: '\'' :: rest => some (['\''], rest)
  | '\'' :: '\'' :: '\'' :: rest => some ([], rest)
  | '\r' :: '\n' :: rest => consTo (some '\n') (readLongLiteral rest)
  | c :: rest => if isPlain c || c = '\n' then consTo (some c) (readLongLiteral rest) else none

/-- A long string may start on the line after its quotes. -/
def dropFirstNewline : List Char → List Char
  | '\n' :: rest => rest
  | '\r' :: '\n' :: rest => rest
  | rest => rest

/-- Reads a string of any form. -/
def readString? : List Char → Option (List Char × List Char)
  | '"' :: '"' :: '"' :: rest => readLongBasic false (dropFirstNewline rest)
  | '"' :: rest => readBasic rest
  | '\'' :: '\'' :: '\'' :: rest => readLongLiteral (dropFirstNewline rest)
  | '\'' :: rest => readLiteral rest
  | _ => none

/-- Digits of a base, which single underscores may part. -/
def digits? (isDigit : Char → Bool) (cs : List Char) : Option (List Char) :=
  let groups := cs.splitOn '_'
  if groups.all fun g => !g.isEmpty && g.all isDigit then some groups.flatten else none

def ofDigits (base : Nat) (digits : List Char) : Nat :=
  digits.foldl (fun n c => n * base + (hexValue? c).getD 0) 0

def splitSign : List Char → Bool × List Char
  | '-' :: rest => (true, rest)
  | '+' :: rest => (false, rest)
  | rest => (false, rest)

/-- Decimal digits without a leading zero. -/
def wholePart? (cs : List Char) : Option (List Char) :=
  (digits? Char.isDigit cs).filter fun digits => digits.length = 1 || digits.head? ≠ some '0'

/-- A whole number in the range of sixty-four bits with a sign. -/
def integer? (cs : List Char) : Option Int :=
  let value : Option Int := match cs with
    | '0' :: 'x' :: rest => (digits? (hexValue? · |>.isSome) rest).map (ofDigits 16 ·)
    | '0' :: 'o' :: rest => (digits? (fun c => '0' ≤ c && c ≤ '7') rest).map (ofDigits 8 ·)
    | '0' :: 'b' :: rest => (digits? (fun c => c = '0' || c = '1') rest).map (ofDigits 2 ·)
    | cs =>
      let (negative, body) := splitSign cs
      (wholePart? body).map fun digits =>
        let n : Int := ofDigits 10 digits
        if negative then -n else n
  value.filter fun n => Int64.minValue.toInt ≤ n && n ≤ Int64.maxValue.toInt

/-- Whether the number of these digits times a power of ten has no double near it. -/
def exceedsDouble (digits : List Char) (exponent : Int) : Bool :=
  let n := ofDigits 10 digits
  if n = 0 || digits.length + exponent ≤ 308 then false
  else if exponent < 0 then Double.limit * Nat.pow 10 exponent.natAbs ≤ n
  else exponent > 400 || Double.limit ≤ n * Nat.pow 10 exponent.natAbs

/-- The digits of a fraction behind its point, if there is one. -/
def fractionPart? : List Char → Option (List Char)
  | [] => some []
  | _ :: digits => digits? Char.isDigit digits

/-- The power of ten behind its mark, if there is one. -/
def exponentPart? : List Char → Option Int
  | [] => some 0
  | _ :: power =>
    let (negative, body) := splitSign power
    (digits? Char.isDigit body).map fun digits =>
      let n : Int := ofDigits 10 digits
      if negative then -n else n

/-- A number with a fraction or an exponent, or one of the special ones. A positive one must be
finite. -/
def isFloat (cs : List Char) : Bool :=
  let (negative, body) := splitSign cs
  if body = "inf".toList || body = "nan".toList then true
  else
    let mantissa := body.takeWhile fun c => c ≠ 'e' && c ≠ 'E'
    let exponent := body.drop mantissa.length
    let whole := mantissa.takeWhile (· ≠ '.')
    let fraction := mantissa.drop whole.length
    match wholePart? whole, fractionPart? fraction, exponentPart? exponent with
    | some whole, some digits, some power =>
      !(fraction.isEmpty && exponent.isEmpty) &&
        (negative || !exceedsDouble (whole ++ digits) (power - digits.length))
    | _, _, _ => false

def isNumberIn (low high width : Nat) (cs : List Char) : Bool :=
  cs.length = width && cs.all Char.isDigit && low ≤ ofDigits 10 cs && ofDigits 10 cs ≤ high

def daysIn (year month : Nat) : Nat :=
  if month = 2 then
    if year % 4 = 0 && (year % 100 ≠ 0 || year % 400 = 0) then 29 else 28
  else if month = 4 || month = 6 || month = 9 || month = 11 then 30
  else 31

def isDate (cs : List Char) : Bool :=
  match cs.splitOn '-' with
  | [year, month, day] =>
    isNumberIn 0 9999 4 year && isNumberIn 1 12 2 month &&
      isNumberIn 1 (daysIn (ofDigits 10 year) (ofDigits 10 month)) 2 day
  | _ => false

def isClock (cs : List Char) : Bool :=
  match cs.splitOn ':' with
  | [hour, minute, second] =>
    let whole := second.takeWhile (· ≠ '.')
    let fraction := second.drop whole.length
    isNumberIn 0 23 2 hour && isNumberIn 0 59 2 minute && isNumberIn 0 60 2 whole &&
      (fraction.isEmpty || (fraction.length > 1 && (fraction.drop 1).all Char.isDigit))
  | _ => false

def isOffset (cs : List Char) : Bool :=
  match cs.splitOn ':' with
  | [hour, minute] => isNumberIn 0 23 2 hour && isNumberIn 0 59 2 minute
  | _ => false

/-- A time of day, with or without its offset. -/
def isZonedClock (cs : List Char) : Bool :=
  let clock := cs.takeWhile fun c => c ≠ 'Z' && c ≠ 'z' && c ≠ '+' && c ≠ '-'
  isClock clock && match cs.drop clock.length with
    | [] => true
    | c :: rest => if c = 'Z' || c = 'z' then rest.isEmpty else isOffset rest

/-- A date with a time, or one of both alone. -/
def isMoment (cs : List Char) : Bool :=
  isDate cs || isClock cs ||
    (isDate (cs.take 10) && match cs.drop 10 with
      | c :: rest => (c = 'T' || c = 't') && isZonedClock rest
      | [] => false)

/-- Where a number, a date or a word ends. -/
def isDelimiter (c : Char) : Bool :=
  [',', ']', '\x7d', '#', ' ', '\t', '\n', '\r'].contains c

/-- Reads a value that is one word. A date and a time may also be parted by a blank. -/
def readWord (cs : List Char) : Option (Toml × List Char) :=
  let word := cs.takeWhile (!isDelimiter ·)
  let rest := cs.drop word.length
  if word = "true".toList then some (.bool true, rest)
  else if word = "false".toList then some (.bool false, rest)
  else match integer? word with
    | some n => some (.int n, rest)
    | none =>
      if isDate word then
        match rest with
        | ' ' :: after =>
          let clock := after.takeWhile (!isDelimiter ·)
          if isZonedClock clock then
            some (.moment (String.ofList (word ++ ' ' :: clock)), after.drop clock.length)
          else some (.moment (String.ofList word), rest)
        | _ => some (.moment (String.ofList word), rest)
      else if isMoment word then some (.moment (String.ofList word), rest)
      else if isFloat word then some (.fraction (String.ofList word), rest)
      else none

end CrossRef.Toml
