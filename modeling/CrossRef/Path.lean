import CrossRef.Text.Raw

namespace CrossRef.Path

/-- The byte between the names of a path, -/
def slash : UInt8 := 0x2f

/-- and the one that alone names nothing. -/
def dot : UInt8 := 0x2e

/-- The parts of a path between its slashes. -/
def segments (path : RawText) : List (List UInt8) :=
  path.bytes.splitOn slash

/-- Behind the first segment of a path, an empty segment and a dot name nothing. -/
def isVoid (segment : List UInt8) : Bool :=
  segment.isEmpty || segment == [dot]

/-- The names a path leads through. A leading slash and a leading dot count as names of their
own, so paths that differ only in repeated slashes, inner dots or a trailing slash have equal
components. -/
def components (path : RawText) : List RawText :=
  let named (rest : List (List UInt8)) := (rest.filter (!isVoid ·)).map RawText.mk
  match segments path with
  | [] => []
  | [[]] => []
  | [] :: rest => ⟨[slash]⟩ :: named rest
  | head :: rest => ⟨head⟩ :: named rest

/-- Two paths lead to the same place when their components agree. -/
def same (a b : RawText) : Bool :=
  components a == components b

def ofSegments (parts : List (List UInt8)) : RawText :=
  ⟨[slash].intercalate parts⟩

def dropTrailingVoid (parts : List (List UInt8)) : List (List UInt8) :=
  (parts.reverse.dropWhile isVoid).reverse

/-- The segments behind the first `n` names, without the void ones next to the cut. -/
def dropNames : Nat → List (List UInt8) → List (List UInt8)
  | 0, parts => parts.dropWhile isVoid
  | _ + 1, [] => []
  | n + 1, part :: parts => if isVoid part then dropNames (n + 1) parts else dropNames n parts

/-- A path written without the void segments at its end. -/
def withoutTail (path : RawText) : RawText :=
  match segments path with
  | [] => ⟨[]⟩
  | head :: rest =>
    let kept := dropTrailingVoid rest
    if head.isEmpty && kept.isEmpty && !rest.isEmpty then ⟨[slash]⟩ else ofSegments (head :: kept)

/-- What remains of `path` behind `root`, as it is written, if its components start with those of
the root. -/
def stripRoot? (root path : RawText) : Option RawText :=
  match components root with
  | [] => some (withoutTail path)
  | names =>
    if names.isPrefixOf (components path) then
      some (ofSegments (dropTrailingVoid (dropNames (names.length - 1) (segments path).tail)))
    else none

/-- The path as seen from the root; a path that lies elsewhere stays as it is written. -/
def relative (root : RawText) (path : String) : String :=
  ((stripRoot? root path).getD path).text

/-- The last component, unless it is the root or a dot name. -/
def fileName? (path : RawText) : Option RawText :=
  (components path).getLast?.filter fun name =>
    name.bytes ≠ [slash] ∧ name.bytes ≠ [dot] ∧ name.bytes ≠ [dot, dot]

/-- The path without its last component. The root and the empty path have no parent. -/
def parent? (path : RawText) : Option RawText :=
  match segments path with
  | [] => none
  | head :: rest =>
    match rest.reverse.dropWhile isVoid with
    | [] => if head.isEmpty then none else some ⟨[]⟩
    | _ :: before =>
      let kept := (before.dropWhile isVoid).reverse
      some (if head.isEmpty && kept.isEmpty then ⟨[slash]⟩ else ofSegments (head :: kept))

/-- A path below a base; an absolute path forgets the base. -/
def join (base path : RawText) : RawText :=
  if path.bytes.head? = some slash then path
  else if base.isEmpty || base.bytes.getLast? = some slash then base ++ path
  else base ++ ⟨[slash]⟩ ++ path

end CrossRef.Path
