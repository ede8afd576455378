import CrossRef.Error
import CrossRef.Text.Ascii

namespace CrossRef

/-- The pages of the index. -/
inductive Page
  | filePath
  | file
  | view
  | package
  | packageFull
  | function
  | procedure
  deriving DecidableEq

namespace Page

def all : List Page :=
  [.filePath, .file, .view, .package, .packageFull, .function, .procedure]

def name : Page → String
  | .filePath => "filepath"
  | .file => "file"
  | .view => "view"
  | .package => "package"
  | .packageFull => "package_full"
  | .function => "function"
  | .procedure => "procedure"

def title : Page → String
  | .filePath => "File Index (by path)"
  | .file => "File Index"
  | .view => "View Index"
  | .package => "Package Index"
  | .packageFull => "Full Package Listing"
  | .function => "Function Index"
  | .procedure => "Procedure Index"

/-- Reads the name of a page, in any case. -/
def parse (text : String) : Except Error Page :=
  match all.find? fun page => Text.equalIgnoringCase page.name text with
  | some page => .ok page
  | none => .error (.unknownPage text)

theorem mem_all (page : Page) : page ∈ all := by
  cases page <;> simp [all]

end Page

end CrossRef
