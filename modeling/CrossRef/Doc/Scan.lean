import CrossRef.Doc.Block
import CrossRef.Text.Blank

namespace CrossRef

/-- The number of the line at a position that counts from zero. -/
def lineNumber (position : Nat) : UInt32 :=
  UInt32.ofNat position + 1

namespace Doc

/-- A line of a block without blanks and stars around its text. -/
def bareText (line : List Char) : List Char :=
  Text.trim ((Text.trim line).dropWhile (· = '*'))

/-- What a line of a block adds to its entry. -/
inductive Remark
  | nothing
  | prose (text : String)
  | subject (kind : Kind) (name : String)
  | param (param : ParamNote)

/-- The words behind a tag that names an object or a parameter; any other tag says nothing. -/
def Remark.ofTag (tag : String) (rest : List String) : Remark :=
  match tag with
  | "view" => .subject .view (rest.head?.getD "")
  | "pkg" | "package" => .subject .package (rest.head?.getD "")
  | "function" => .subject .function (rest.head?.getD "")
  | "procedure" => .subject .procedure (rest.head?.getD "")
  | "param" =>
    match rest with
    | typeName :: name :: _ => .param ⟨name, typeName⟩
    | [name] => .param ⟨name, ""⟩
    | [] => .nothing
  | _ => .nothing

/-- Reads a line of a block. A text that starts with an at sign is a tag, in any case. -/
def Remark.ofLine (line : List Char) : Remark :=
  match bareText line with
  | [] => .nothing
  | '@' :: tagged =>
    match (Text.words tagged).map String.ofList with
    | [] => .nothing
    | tag :: rest => .ofTag (Text.lower tag) rest
  | text => .prose (String.ofList text)

/-- Adds a remark to an entry. A later subject replaces an earlier one. -/
def note (entry : DocBlock) : Remark → DocBlock
  | .nothing => entry
  | .prose text =>
    { entry with
      description := if entry.description.isEmpty then text else entry.description ++ " " ++ text }
  | .subject kind name => { entry with kind := some kind, name }
  | .param param => { entry with params := entry.params ++ [param] }

def noteLine (entry : DocBlock) (line : List Char) : DocBlock :=
  note entry (.ofLine line)

/-- The text behind the opening of a block. A comment that is closed at once opens none. -/
def opening? (line : List Char) : Option (List Char) :=
  (['/', '*', '*'].isPrefixOf? (Text.trimStart line)).filter (·.head? ≠ some '/')

/-- Reads the lines from a position on, inside the block `current` if there is one. A block that is
never closed is dropped. -/
def scanFrom (position : Nat) (current : Option DocBlock) : List String → List DocBlock
  | [] => []
  | line :: rest =>
    let body := match current with
      | some entry => some (entry, line.toList)
      | none => (opening? line.toList).map fun text => (DocBlock.empty, text)
    match body with
    | none => scanFrom (position + 1) none rest
    | some (entry, text) =>
      match Text.cutAt ['*', '/'] text with
      | some (before, _) =>
        { noteLine entry before with line := lineNumber position } ::
          scanFrom (position + 1) none rest
      | none => scanFrom (position + 1) (some (noteLine entry text)) rest

/-- The doc blocks of a file. -/
def scan (lines : List String) : List DocBlock :=
  scanFrom 0 none lines

end Doc

end CrossRef
