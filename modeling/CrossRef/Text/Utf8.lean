namespace CrossRef.Text

/-- A character of which some bytes have been read: what is known of its code, how many bytes
are missing, and the range the next one must lie in. -/
structure PartialChar where
  code : Nat
  missing : Nat
  low : Nat
  high : Nat

/-- What a byte means where a character starts. -/
inductive FirstByte
  | whole (c : Char)
  | opens (p : PartialChar)
  | invalid

/-- Reads the first byte of a character. The range of the second byte shuts out overlong forms,
surrogates and codes beyond the last. -/
def firstByte (b : UInt8) : FirstByte :=
  let n := b.toNat
  if n < 0x80 then .whole (Char.ofNat n)
  else if n < 0xc2 then .invalid
  else if n < 0xe0 then .opens ⟨n - 0xc0, 1, 0x80, 0xbf⟩
  else if n = 0xe0 then .opens ⟨0, 2, 0xa0, 0xbf⟩
  else if n = 0xed then .opens ⟨0xd, 2, 0x80, 0x9f⟩
  else if n < 0xf0 then .opens ⟨n - 0xe0, 2, 0x80, 0xbf⟩
  else if n = 0xf0 then .opens ⟨0, 3, 0x90, 0xbf⟩
  else if n < 0xf4 then .opens ⟨n - 0xf0, 3, 0x80, 0xbf⟩
  else if n = 0xf4 then .opens ⟨4, 3, 0x80, 0x8f⟩
  else .invalid

/-- Reads bytes as UTF-8. Each longest start of a character that cannot be completed gives
`none`. -/
def decodeFrom : Option PartialChar → List UInt8 → List (Option Char)
  | none, [] => []
  | some _, [] => [none]
  | none, b :: bs =>
    match firstByte b with
    | .whole c => some c :: decodeFrom none bs
    | .opens p => decodeFrom (some p) bs
    | .invalid => none :: decodeFrom none bs
  | some p, b :: bs =>
    if p.low ≤ b.toNat ∧ b.toNat ≤ p.high then
      let code := p.code * 0x40 + (b.toNat - 0x80)
      if p.missing ≤ 1 then some (Char.ofNat code) :: decodeFrom none bs
      else decodeFrom (some ⟨code, p.missing - 1, 0x80, 0xbf⟩) bs
    else
      match firstByte b with
      | .whole c => none :: some c :: decodeFrom none bs
      | .opens q => none :: decodeFrom (some q) bs
      | .invalid => none :: none :: decodeFrom none bs

/-- The text of some bytes, with U+FFFD for what is not UTF-8. -/
def decodeLossy (bytes : List UInt8) : List Char :=
  (decodeFrom none bytes).map (·.getD (Char.ofNat 0xfffd))

/-- The text of some bytes, if all of them are UTF-8. -/
def decode? (bytes : List UInt8) : Option (List Char) :=
  (decodeFrom none bytes).mapM id

/-- The bytes of a text. -/
def encode (s : String) : List UInt8 :=
  s.toList.flatMap String.utf8EncodeChar

end CrossRef.Text
