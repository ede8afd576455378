import CrossRef.FileTree.Access
import CrossRef.Settings.Document

namespace CrossRef.Settings

/-- The first file below a base that may hold the settings of a project. -/
def discover? (tree : FileTree) (base : RawText) (project : Option String) : Option RawText :=
  ((candidates project).map fun (name : String) => Path.join base name).find? tree.isFile

/-- The settings in a file, nothing if the file is not there. -/
def load (tree : FileTree) (path : RawText) : Except Error (Option Settings) :=
  if tree.isPresent path then
    match tree.readText path with
    | .error cause => .error (.file cause)
    | .ok text => (parse text).map some
  else .ok none

/-- Writes settings to a file. One that is there is replaced only by force, and a root that is no
text cannot be written. -/
def write (tree : FileTree) (path : RawText) (settings : Settings) (force : Bool) :
    Except Error FileTree :=
  if tree.isPresent path && !force then .error (.settingsExist path.text)
  else if settings.files.root.text?.isNone then .error .pathNotText
  else (tree.writeFile path (Text.encode settings.render)).mapError .file

end CrossRef.Settings
