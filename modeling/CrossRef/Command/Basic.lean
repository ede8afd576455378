import CrossRef.Kind
import CrossRef.Settings.Page

namespace CrossRef

/-- What a user says about the source tree and its settings. -/
structure SourceOptions where
  /-- The settings file. -/
  config : Option String
  /-- The project whose settings file is looked for. -/
  project : Option String
  root : Option String
  blindOffset : Option Int64
  sequential : Bool
  deriving DecidableEq

/-- What a user asks for. -/
inductive Command
  | index (options : SourceOptions) (database : String) (json : Option String)
  | init (path : String) (root : Option String) (force : Bool)
  | list (page : Option Page) (options : SourceOptions)
  | whereUsed (name : String) (database : String) (kind : Option Kind)
  | stats (database : String)
  deriving DecidableEq

end CrossRef
