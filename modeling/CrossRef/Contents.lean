import CrossRef.Path
import CrossRef.Text.Lines

namespace CrossRef

/-- Gives the lines of the file at a path, or nothing where the file cannot be read. -/
abbrev Contents := RawText → Option (List String)

namespace Contents

/-- The lines of a file's bytes. What is not UTF-8 is replaced. -/
def linesOfBytes (bytes : List UInt8) : List String :=
  (Text.splitLines (Text.decodeLossy bytes)).map String.ofList

/-- A source that holds the lines of some paths. Paths are looked up by their components. -/
def ofTable (table : List (RawText × List String)) : Contents :=
  fun path => (table.find? fun (key, _) => Path.same key path).map (·.2)

/-- Why a path is not found in a table of lines. -/
def missingMessage (path : RawText) : String :=
  path.text ++ " not in source map"

end Contents

end CrossRef
