import CrossRef.Kind
import CrossRef.Text.Ascii
import CrossRef.Text.Search

namespace CrossRef

/-- A parameter that a doc block describes. -/
structure ParamNote where
  name : String
  typeName : String
  deriving DecidableEq

/-- What a doc block says. Its line is the one that holds the end of the block; its name is empty
and its kind absent if it names no object. -/
structure DocBlock where
  line : UInt32
  name : String
  kind : Option Kind
  description : String
  params : List ParamNote
  deriving DecidableEq

namespace DocBlock

def empty : DocBlock :=
  ⟨0, "", none, "", []⟩

/-- The first sentence of the description: all of it if it has no full stop. -/
def short (doc : DocBlock) : String :=
  match Text.cutAt ['.'] doc.description.toList with
  | some (before, _) => String.ofList (before ++ ['.'])
  | none => doc.description

/-- Whether the block says nothing at all. -/
def isBare (doc : DocBlock) : Bool :=
  doc.description.isEmpty && doc.name.isEmpty && doc.kind.isNone && doc.params.isEmpty

/-- Whether the block is about the symbol of this kind and name. -/
def isAbout (doc : DocBlock) (kind : Kind) (name : String) : Bool :=
  doc.kind == some kind && Text.equalIgnoringCase doc.name name

end DocBlock

end CrossRef
