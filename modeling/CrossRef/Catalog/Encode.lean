import CrossRef.Catalog.Basic
import CrossRef.Json.Value

namespace CrossRef

def ParamNote.toJson (param : ParamNote) : Json :=
  .obj [("name", .str param.name), ("type", .str param.typeName)]

def Kind.toJson (kind : Kind) : Json :=
  .str kind.name

def DocBlock.toJson (doc : DocBlock) : Json :=
  .obj
    [("line", .nat doc.line.toNat), ("name", .str doc.name),
      ("kind", (doc.kind.map Kind.toJson).getD .null),
      ("description", .str doc.description), ("params", .arr (doc.params.map ParamNote.toJson))]

def UseSite.toJson (site : UseSite) : Json :=
  .obj [("file_id", .nat site.fileId.toNat), ("line", .nat site.line.toNat)]

def Uses.toJson (uses : Uses) : Json :=
  .obj (uses.map fun (path, found) => (path, .arr (found.map UseSite.toJson)))

def Declaration.members (decl : Declaration) : List (String × Json) :=
  [("kind", decl.kind.toJson), ("name", .str decl.name), ("file", .nat decl.file),
    ("line", .nat decl.line.toNat), ("doc", (decl.doc.map DocBlock.toJson).getD .null),
    ("id", .nat decl.id.toNat), ("where_used", decl.uses.toJson)]

def Declaration.toJson (decl : Declaration) : Json :=
  .obj decl.members

/-- A package is its declaration with two more members. -/
def Package.toJson (package : Package) : Json :=
  .obj (package.decl.members ++
    [("functions", .arr (package.functions.map Declaration.toJson)),
      ("procedures", .arr (package.procedures.map Declaration.toJson))])

def IndexedFile.toJson (file : IndexedFile) : Json :=
  .obj
    [("id", .nat file.id.toNat), ("path", .str file.key), ("kind", .str file.kind.name),
      ("views", .arr (file.views.map Declaration.toJson)),
      ("packages", .arr (file.packages.map Package.toJson))]

/-- The catalog as a JSON value, which tells the files apart if their paths are texts. -/
def Catalog.toJson (catalog : Catalog) : Json :=
  .obj
    [("files", .arr (catalog.files.map IndexedFile.toJson)),
      ("ids", .obj [("last", .nat catalog.last.toNat)])]

end CrossRef
