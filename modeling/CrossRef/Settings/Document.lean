import CrossRef.Settings.Basic
import CrossRef.Toml.Printer
import CrossRef.Toml.Reader

namespace CrossRef

namespace Toml

def flag (b : Bool) : List Char :=
  (if b then "true" else "false").toList

/-- A line that sets a key. -/
def entryLine (key : String) (value : List Char) : List Char :=
  key.toList ++ " = ".toList ++ value ++ ['\n']

def headerLine (name : String) : List Char :=
  '[' :: (name.toList ++ [']', '\n'])

def text? : Toml → Option String
  | .str s => some s
  | _ => none

def bool? : Toml → Option Bool
  | .bool b => some b
  | _ => none

def word? : Toml → Option Int64
  | .int n => some (Int64.ofInt n)
  | _ => none

def texts? : Toml → Option (List String)
  | .arr _ items => items.mapM text?
  | _ => none

/-- The values of these keys in a table, or the first items of an array in their place. A key that
is missing gives `none`; a date or a time counts as a table that has none of them. -/
def fields? (names : List String) : Toml → Option (List (Option Toml))
  | .table _ members => some (names.map fun name => members.lookup name)
  | .arr _ items => some (names.mapIdx fun i _ => items[i]?)
  | .moment _ => some (names.map fun _ => none)
  | _ => none

/-- The value of a field, or the standard one where it is missing. -/
def orStandard (standard : α) (read? : Toml → Option α) : Option Toml → Option α
  | none => some standard
  | some value => read? value

end Toml

namespace GeneralSettings

def render (general : GeneralSettings) : List Char :=
  Toml.entryLine "title" (Toml.quoted general.title)

def ofToml? (value : Toml) : Option GeneralSettings := do
  match ← value.fields? ["title"] with
  | [title] => some ⟨← Toml.orStandard standard.title Toml.text? title⟩
  | _ => none

end GeneralSettings

namespace FileSettings

def render (files : FileSettings) : List Char :=
  Toml.entryLine "root" (Toml.quoted files.root.text) ++
    Toml.entryLine "ignore_dirs" (Toml.stringList files.ignoreDirs) ++
    Toml.entryLine "sql_extensions" (Toml.stringList files.sqlExtensions) ++
    Toml.entryLine "native_extensions" (Toml.stringList files.nativeExtensions)

def ofToml? (value : Toml) : Option FileSettings := do
  match ← value.fields? ["root", "ignore_dirs", "sql_extensions", "native_extensions"] with
  | [root, ignoreDirs, sqlExtensions, nativeExtensions] =>
    some
      { root := ← Toml.orStandard standard.root (·.text?.map RawText.ofText) root
        ignoreDirs := ← Toml.orStandard standard.ignoreDirs Toml.texts? ignoreDirs
        sqlExtensions := ← Toml.orStandard standard.sqlExtensions Toml.texts? sqlExtensions
        nativeExtensions :=
          ← Toml.orStandard standard.nativeExtensions Toml.texts? nativeExtensions }
  | _ => none

end FileSettings

namespace ProcessSettings

def render (process : ProcessSettings) : List Char :=
  Toml.entryLine "blind_offset" (toString process.blindOffset.toInt).toList ++
    Toml.entryLine "parallel" (Toml.flag process.parallel)

def ofToml? (value : Toml) : Option ProcessSettings := do
  match ← value.fields? ["blind_offset", "parallel"] with
  | [blindOffset, parallel] =>
    some ⟨← Toml.orStandard standard.blindOffset Toml.word? blindOffset,
      ← Toml.orStandard standard.parallel Toml.bool? parallel⟩
  | _ => none

end ProcessSettings

namespace PageSettings

def render (pages : PageSettings) : List Char :=
  Page.all.flatMap fun page => Toml.entryLine page.name (Toml.flag (pages.isEnabled page))

def ofToml? (value : Toml) : Option PageSettings := do
  let flag (page : Page) := Toml.orStandard (standard.isEnabled page) Toml.bool?
  match ← value.fields? (Page.all.map Page.name) with
  | [filePath, file, view, package, packageFull, function, procedure] =>
    some
      { filePath := ← flag .filePath filePath
        file := ← flag .file file
        view := ← flag .view view
        package := ← flag .package package
        packageFull := ← flag .packageFull packageFull
        function := ← flag .function function
        procedure := ← flag .procedure procedure }
  | _ => none

end PageSettings

namespace Settings

/-- The document that holds all settings, of which the root is a text. -/
def render (settings : Settings) : String :=
  String.ofList
    (Toml.headerLine "general" ++ settings.general.render ++
      '\n' :: (Toml.headerLine "files" ++ settings.files.render ++
      '\n' :: (Toml.headerLine "process" ++ settings.process.render ++
      '\n' :: (Toml.headerLine "pages" ++ settings.pages.render))))

/-- The settings a table describes; what it does not mention is standard. -/
def ofMembers? (members : Toml.Members) : Option Settings := do
  some
    { general := ← Toml.orStandard .standard GeneralSettings.ofToml? (members.lookup "general")
      files := ← Toml.orStandard .standard FileSettings.ofToml? (members.lookup "files")
      process := ← Toml.orStandard .standard ProcessSettings.ofToml? (members.lookup "process")
      pages := ← Toml.orStandard .standard PageSettings.ofToml? (members.lookup "pages") }

/-- Reads settings from a document. -/
def parse (text : String) : Except Error Settings :=
  match (Toml.parse? text).bind ofMembers? with
  | some settings => .ok settings
  | none => .error .malformedSettings

end Settings

end CrossRef
