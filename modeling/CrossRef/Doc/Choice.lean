import CrossRef.Doc.Block

namespace CrossRef.Doc

/-- How many lines a block lies behind a declaration; negative if it lies before it. -/
def distance (doc : DocBlock) (line : UInt32) : Int :=
  (doc.line.toNat : Int) - (line.toNat : Int)

/-- A block lies near a declaration if it is less than `window` lines away on either side. A block
that ends on the line of the declaration is not near. -/
def isNear (window line : UInt32) (doc : DocBlock) : Bool :=
  distance doc line ≠ 0 && (distance doc line).natAbs < window.toNat

/-- Whether a block belongs to a declaration: it is about it, or lies near it. -/
def belongs (window : UInt32) (kind : Kind) (name : String) (line : UInt32)
    (doc : DocBlock) : Bool :=
  doc.isAbout kind name || isNear window line doc

/-- The last block that belongs to a declaration, with its position. -/
def chooseAt? (docs : List DocBlock) (window : UInt32) (kind : Kind) (name : String)
    (line : UInt32) : Option (DocBlock × Nat) :=
  docs.zipIdx.reverse.find? fun (doc, _) => belongs window kind name line doc

/-- The block that documents a declaration. -/
def choose? (docs : List DocBlock) (window : UInt32) (kind : Kind) (name : String)
    (line : UInt32) : Option DocBlock :=
  (chooseAt? docs window kind name line).map (·.1)

end CrossRef.Doc
