import CrossRef.Settings.Page
import CrossRef.Text.Case
import CrossRef.Text.Raw

namespace CrossRef

structure GeneralSettings where
  title : String
  deriving DecidableEq

/-- Which files are read, from where, and as what. -/
structure FileSettings where
  root : RawText
  ignoreDirs : List String
  sqlExtensions : List String
  nativeExtensions : List String
  deriving DecidableEq

structure ProcessSettings where
  /-- How many lines a doc block may lie from the declaration it belongs to, whatever the sign. -/
  blindOffset : Int64
  parallel : Bool
  deriving DecidableEq

/-- The pages that are written. Views are collected only if theirs is. -/
structure PageSettings where
  filePath : Bool
  file : Bool
  view : Bool
  package : Bool
  packageFull : Bool
  function : Bool
  procedure : Bool
  deriving DecidableEq

structure Settings where
  general : GeneralSettings
  files : FileSettings
  process : ProcessSettings
  pages : PageSettings
  deriving DecidableEq

namespace GeneralSettings

def standard : GeneralSettings :=
  ⟨"sqlxref"⟩

end GeneralSettings

namespace FileSettings

def standard : FileSettings :=
  { root := "."
    ignoreDirs := ["RCS", "CVS", ".svn", ".git"]
    sqlExtensions := ["sql", "pkg", "pkb", "pks", "pls"]
    nativeExtensions := ["c", "cpp", "h"] }

end FileSettings

namespace ProcessSettings

def standard : ProcessSettings :=
  ⟨0, true⟩

/-- The doc window in lines: the size of the offset, at most the largest line number. -/
def window (process : ProcessSettings) : UInt32 :=
  UInt32.ofNat (min process.blindOffset.toInt.natAbs (UInt32.size - 1))

end ProcessSettings

namespace PageSettings

def standard : PageSettings :=
  { filePath := true, file := true, view := false, package := true, packageFull := true,
    function := true, procedure := true }

def isEnabled (pages : PageSettings) : Page → Bool
  | .filePath => pages.filePath
  | .file => pages.file
  | .view => pages.view
  | .package => pages.package
  | .packageFull => pages.packageFull
  | .function => pages.function
  | .procedure => pages.procedure

/-- The enabled pages in page order. -/
def enabled (pages : PageSettings) : List Page :=
  Page.all.filter pages.isEnabled

end PageSettings

namespace Settings

def standard : Settings :=
  ⟨.standard, .standard, .standard, .standard⟩

/-- The extensions that both lists name, sorted and without repetitions. -/
def sharedExtensions (files : FileSettings) : List String :=
  ((files.nativeExtensions.filter files.sqlExtensions.contains).mergeSort
    fun a b => !decide (b < a)).eraseDups

/-- What does not stop a run but is hardly meant. -/
def warnings (settings : Settings) : List String :=
  let shared := sharedExtensions settings.files
  let process := settings.process
  (if shared.isEmpty then [] else
    ["extensions listed as both sql and native (treated as sql): " ++ ", ".intercalate shared]) ++
  (if settings.files.sqlExtensions.isEmpty then
    ["no sql extensions configured; nothing will be extracted"] else []) ++
  (if process.blindOffset < 0 then
    [s!"negative blind_offset {process.blindOffset.toInt} used as {process.window}"] else [])

/-- Where settings are looked for when no path is given. -/
def defaultPath : String :=
  "sqlxref.toml"

/-- The files in which the settings of a project are looked for, the most special first. -/
def candidates (project : Option String) : List String :=
  let named := match project with
    | none => []
    | some name =>
      if name.isEmpty then []
      else
        let exact := name ++ ".toml"
        let small := Text.lower name ++ ".toml"
        if small = exact then [exact] else [exact, small]
  named ++ [defaultPath]

end Settings

end CrossRef
