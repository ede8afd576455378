import CrossRef.Text.Raw

namespace CrossRef

/-- Why the file system refuses a request. -/
inductive FileError
  | notFound
  | notDirectory
  | isDirectory
  | alreadyExists
  | unreadable
  | notText
  | linkLoop
  | nameTooLong
  | nulInName
  deriving DecidableEq

def FileError.message : FileError → String
  | .notFound => "No such file or directory (os error 2)"
  | .notDirectory => "Not a directory (os error 20)"
  | .isDirectory => "Is a directory (os error 21)"
  | .alreadyExists => "File exists (os error 17)"
  | .unreadable => "Input/output error (os error 5)"
  | .notText => "stream did not contain valid UTF-8"
  | .linkLoop => "Too many levels of symbolic links (os error 40)"
  | .nameTooLong => "File name too long (os error 36)"
  | .nulInName => "file name contained an unexpected NUL byte"

/-- Why the store refuses a request. -/
inductive StoreError
  | nulInPath (position : Nat)
  /-- The address of a store names a machine. -/
  | foreignHost (host : String)
  | unknownAccess (value : String)
  | unknownSharing (value : String)
  | widerAccess (value : String)
  | unknownMedium (value : String)
  | cannotOpen (path : String)
  /-- The file that changes are noted in cannot be made. -/
  | noJournal
  | readOnly
  | notDatabase
  | unreadable
  | nestedTransaction
  | nothingToCommit
  | nothingToRollBack
  | busy
  /-- A column that tells rows apart would hold a value twice. -/
  | notUnique (column : String)
  | missingReference
  | unreadableKind (text : String)
  deriving DecidableEq

def invalidKindMessage (text : String) : String :=
  "Invalid symbol kind: " ++ text

def StoreError.message (error : StoreError) : String :=
  "Storage error: " ++ match error with
    | .nulInPath position => s!"nul byte found in provided data at position: {position}"
    | .foreignHost host => "invalid uri authority: " ++ host
    | .unknownAccess value => "no such access mode: " ++ value
    | .unknownSharing value => "no such cache mode: " ++ value
    | .widerAccess value => "access mode not allowed: " ++ value
    | .unknownMedium value => "no such vfs: " ++ value
    | .cannotOpen path => "unable to open database file: " ++ path
    | .noJournal => "unable to open database file"
    | .readOnly => "attempt to write a readonly database"
    | .notDatabase => "file is not a database"
    | .unreadable => "disk I/O error"
    | .nestedTransaction => "cannot start a transaction within a transaction"
    | .nothingToCommit => "cannot commit - no transaction is active"
    | .nothingToRollBack => "cannot rollback - no transaction is active"
    | .busy => "database is locked"
    | .notUnique column => "UNIQUE constraint failed: " ++ column
    | .missingReference => "FOREIGN KEY constraint failed"
    | .unreadableKind text =>
      "Conversion error from type Text at index: 2, " ++ invalidKindMessage text

/-- Why an operation of the program fails. -/
inductive Error
  | rootNotFound (root : RawText)
  | invalidKind (text : String)
  | unknownPage (text : String)
  | malformedCatalog
  | malformedSettings
  | settingsExist (path : String)
  | settingsMissing (path : String)
  /-- A path that is no text is to be written as one. -/
  | pathNotText
  | file (cause : FileError)
  | store (cause : StoreError)
  deriving DecidableEq

def Error.message : Error → String
  | .rootNotFound root => "Root directory not found: " ++ root.text
  | .invalidKind text => invalidKindMessage text
  | .unknownPage text => s!"unknown page '{text}'"
  | .malformedCatalog => "JSON error"
  | .malformedSettings => "TOML parse error"
  | .settingsExist path => s!"config already exists at {path} (use --force to overwrite)"
  | .settingsMissing path => "config file not found: " ++ path
  | .pathNotText => "path contains invalid UTF-8 characters"
  | .file cause => cause.message
  | .store cause => cause.message

end CrossRef
