import CrossRef.Error

namespace CrossRef.Store

/-- What may be done with the file of a store. -/
inductive Access
  | read
  | write
  /-- Reading and writing, and making the file if it is missing. -/
  | create
  /-- Everything, but without a file. -/
  | memory
  deriving DecidableEq

namespace Access

def all : List Access :=
  [.read, .write, .create, .memory]

def name : Access → String
  | .read => "ro"
  | .write => "rw"
  | .create => "rwc"
  | .memory => "memory"

def ofName? (text : String) : Option Access :=
  all.find? (·.name = text)

/-- How much of a file an access needs. -/
def rank : Access → Nat
  | .read => 1
  | .write => 2
  | .create => 3
  | .memory => 0

/-- Whether one access may replace another: none asks for more of a file than the one before it. -/
def mayReplace (new old : Access) : Bool :=
  old = .memory || new.rank ≤ old.rank

end Access

/-- Where a store is kept, and how it is to be opened. -/
structure Address where
  /-- The path of the file. -/
  file : RawText
  access : Access
  /-- The file is taken to be one that never changes. -/
  frozen : Bool
  /-- The name of the medium that keeps files. -/
  medium : String

namespace Address

/-- The digit of a byte in the base sixteen. -/
def hexDigit? (b : UInt8) : Option Nat :=
  let n := b.toNat
  if 0x30 ≤ n && n < 0x3a then some (n - 0x30)
  else if 0x41 ≤ n && n < 0x47 then some (n - 0x37)
  else if 0x61 ≤ n && n < 0x67 then some (n - 0x57)
  else none

/-- The bytes that a part of an address stands for: a percent sign and two digits stand for the byte
of that number, and the byte zero ends the part. -/
def unescape : List UInt8 → List UInt8
  | [] => []
  | [a] => [a]
  | [a, b] => [a, b]
  | a :: b :: c :: rest =>
    match if a = 0x25 then hexDigit? b else none, hexDigit? c with
    | some high, some low =>
      if high * 16 + low = 0 then [] else UInt8.ofNat (high * 16 + low) :: unescape rest
    | _, _ => a :: unescape (b :: c :: rest)

/-- The text of a part of an address. -/
def partText (part : List UInt8) : String :=
  String.ofList (Text.decodeLossy (unescape part))

/-- The bytes before and behind the first mark. -/
def cut (mark : Char) (bytes : List UInt8) : List UInt8 × List UInt8 :=
  let isMark (b : UInt8) : Bool := b.toNat = mark.toNat
  (bytes.takeWhile (!isMark ·), (bytes.dropWhile (!isMark ·)).drop 1)

/-- The names and values behind the question mark of an address; one without a name does not
count. -/
def options (query : List UInt8) : List (String × String) :=
  ((query.splitOn 0x26).map fun option =>
    let (name, value) := cut '=' option
    (partText name, partText value)).filter fun option => !option.1.isEmpty

/-- Whether a word says yes, or a number: one of thirty-one bits whose last byte is not zero. -/
def saysYes (text : String) : Bool :=
  match text.toList.takeWhile Char.isDigit with
  | [] => ["on", "yes", "true"].contains (text.map Char.toLower)
  | digits =>
    let n := digits.foldl (fun n c => n * 10 + (c.toNat - 0x30)) 0
    n < 0x80000000 && n % 256 ≠ 0

/-- Takes an option of an address into account. -/
def set (address : Address) : String × String → Except StoreError Address
  | ("vfs", value) => .ok { address with medium := value }
  | ("cache", value) =>
    if value = "shared" || value = "private" then .ok address else .error (.unknownSharing value)
  | ("mode", value) =>
    match Access.ofName? value with
    | none => .error (.unknownAccess value)
    | some access =>
      if access.mayReplace address.access then .ok { address with access }
      else .error (.widerAccess value)
  | _ => .ok address

/-- The media that keep files, and the one that keeps none. -/
def fileMedia : List String :=
  ["unix", "unix-none", "unix-dotfile", "unix-excl"]

def memoryMedium : String :=
  "memdb"

/-- The address of a plain path. -/
def ofPath (path : RawText) : Address :=
  ⟨path, .create, false, "unix"⟩

/-- The part of an address behind the name of the machine, which must be this one. -/
def behindHost : List UInt8 → Except StoreError (List UInt8)
  | 0x2f :: 0x2f :: rest =>
    let host := rest.takeWhile (· ≠ 0x2f)
    if host.isEmpty || host = Text.encode "localhost" then .ok (rest.drop host.length)
    else .error (.foreignHost (String.ofList (Text.decodeLossy host)))
  | rest => .ok rest

/-- Reads an address behind its scheme: a path, then options behind a question mark; what stands
behind a hash sign does not count. -/
def ofBody (body : List UInt8) : Except StoreError Address := do
  let (body, _) := cut '#' (← behindHost body)
  let (file, query) := cut '?' body
  let options := options query
  let address ← options.foldlM set (ofPath ⟨unescape file⟩)
  if fileMedia.contains address.medium || address.medium = memoryMedium then
    .ok { address with frozen := (options.lookup "immutable").any saysYes }
  else .error (.unknownMedium address.medium)

/-- Reads what a user gives for a store: an address that starts with its scheme, or a path. -/
def parse (path : RawText) : Except StoreError Address :=
  match path.bytes.findIdx? (· = 0) with
  | some position => .error (.nulInPath position)
  | none =>
    match (Text.encode "file:").isPrefixOf? path.bytes with
    | some body => ofBody body
    | none => .ok (ofPath path)

/-- Whether the address names no file. -/
def isNameless (address : Address) : Bool :=
  address.access = .memory || address.file.isEmpty || address.file = ":memory:"

/-- Whether the store has no file of its own. -/
def isPrivate (address : Address) : Bool :=
  address.isNameless || address.medium = memoryMedium

/-- Whether the store may be changed. -/
def isWritable (address : Address) : Bool :=
  address.access ≠ .read && (address.isNameless || !address.frozen)

end Address

end CrossRef.Store
