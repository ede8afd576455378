import CrossRef.Double
import CrossRef.Json.Reader

namespace CrossRef.Json

/-- Takes digits onto a number as long as it fits in sixty-four bits, and gives the digits left. -/
def takeDigits (n : Nat) : List Char → Nat × List Char
  | [] => (n, [])
  | digit :: digits =>
    let next := n * 10 + (digit.toNat - 0x30)
    if next < UInt64.size then takeDigits next digits else (n, digit :: digits)

/-- Whether the product of the doubles nearest to a number and to a power of ten is finite. -/
def isFiniteProduct (n : Nat) (exponent : Int) : Bool :=
  n = 0 || exponent ≤ 0 ||
    (exponent ≤ 308 &&
      Double.nearest n * Double.nearest (Nat.pow 10 exponent.toNat) < Double.limit)

/-- The power of ten behind its mark, if there is one. -/
def exponentOf : List Char → Int
  | _ :: '-' :: digits => -(ofDigits digits : Int)
  | _ :: '+' :: digits => ofDigits digits
  | _ :: digits => ofDigits digits
  | [] => 0

/-- Whether a written number can be kept as a double. Digits that no longer fit in sixty-four bits
count only by their places. -/
def isFinite (written : List Char) : Bool :=
  let (whole, rest) := spanDigits (written.dropWhile (· = '-'))
  let (fraction, rest) := match rest with
    | '.' :: rest => spanDigits rest
    | rest => ([], rest)
  let (n, dropped) := takeDigits 0 whole
  let (n, left) := takeDigits n fraction
  let places : Int := (dropped.length : Int) + left.length - fraction.length
  isFiniteProduct n (places + exponentOf rest)

mutual

/-- How many brackets and braces the innermost value stands in. -/
def depth : Json → Nat
  | .arr items => itemDepth items + 1
  | .obj members => memberDepth members + 1
  | _ => 0

def itemDepth : List Json → Nat
  | [] => 0
  | item :: items => max item.depth (itemDepth items)

def memberDepth : List (String × Json) → Nat
  | [] => 0
  | (_, value) :: members => max value.depth (memberDepth members)

end

mutual

/-- Whether a value can be kept whatever it is for: all its texts are whole, all its numbers
finite. -/
def isKeepable : Json → Bool
  | .nat n => isFinite (Nat.toDigits 10 n)
  | .number written => isFinite written.toList
  | .broken _ => false
  | .arr items => areKeepable items
  | .obj members => areKeepableMembers members
  | _ => true

def areKeepable : List Json → Bool
  | [] => true
  | item :: items => item.isKeepable && areKeepable items

def areKeepableMembers : List (String × Json) → Bool
  | [] => true
  | (_, value) :: members => value.isKeepable && areKeepableMembers members

end

end CrossRef.Json
