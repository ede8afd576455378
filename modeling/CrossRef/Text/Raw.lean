import CrossRef.Text.Utf8

namespace CrossRef

/-- A name or a path as a system holds it: bytes, which need not be those of a text. -/
structure RawText where
  bytes : List UInt8
  deriving DecidableEq

namespace RawText

/-- The bytes of a text. -/
def ofText (text : String) : RawText :=
  ⟨Text.encode text⟩

instance : Coe String RawText :=
  ⟨ofText⟩

instance : Append RawText :=
  ⟨fun a b => ⟨a.bytes ++ b.bytes⟩⟩

@[simp]
theorem bytes_append (a b : RawText) : (a ++ b).bytes = a.bytes ++ b.bytes :=
  rfl

/-- How the bytes are shown. What is not UTF-8 is replaced, so that others may be shown alike. -/
def text (raw : RawText) : String :=
  String.ofList (Text.decodeLossy raw.bytes)

/-- The text that has these bytes, if there is one. -/
def text? (raw : RawText) : Option String :=
  (Text.decode? raw.bytes).map String.ofList

def isEmpty (raw : RawText) : Bool :=
  raw.bytes.isEmpty

def size (raw : RawText) : Nat :=
  raw.bytes.length

end RawText

end CrossRef
