import CrossRef.Command.Reading

namespace CrossRef

/-- The commands by name. -/
inductive Verb
  | index
  | init
  | list
  | whereUsed
  | stats
  deriving DecidableEq

namespace Verb

def all : List Verb :=
  [.index, .init, .list, .whereUsed, .stats]

def name : Verb → String
  | .index => "index"
  | .init => "init"
  | .list => "list"
  | .whereUsed => "where-used"
  | .stats => "stats"

def ofName? (text : String) : Option Verb :=
  all.find? (·.name = text)

def sourceOptions : List Argument :=
  [.config, .project, .root, .blindOffset, .sequential]

/-- The switches that every command takes. -/
def commonOptions : List Argument :=
  [.verbose, .help]

def form : Verb → Form
  | .index => ⟨sourceOptions ++ [.database, .json] ++ commonOptions, []⟩
  | .init => ⟨[.path, .root, .force] ++ commonOptions, []⟩
  | .list => ⟨sourceOptions ++ commonOptions, [.page]⟩
  | .whereUsed => ⟨[.database, .kind] ++ commonOptions, [.name]⟩
  | .stats => ⟨[.database] ++ commonOptions, []⟩

end Verb

namespace Reading

def text? (reading : Reading) (argument : Argument) : Option String :=
  match reading.given.lookup argument with
  | some (.text text) => some text
  | _ => none

def sourceOptions (reading : Reading) : SourceOptions :=
  { config := reading.text? .config
    project := reading.text? .project
    root := reading.text? .root
    blindOffset := match reading.given.lookup .blindOffset with
      | some (.number number) => some number
      | _ => none
    sequential := reading.has .sequential }

/-- The store that a command works on. -/
def database (reading : Reading) : String :=
  (reading.text? .database).getD "sqlxref.db"

/-- The command that the arguments of a verb make up. -/
def command (reading : Reading) : Verb → Except ArgumentError Command
  | .index => .ok (.index reading.sourceOptions reading.database (reading.text? .json))
  | .init =>
    .ok (.init ((reading.text? .path).getD "sqlxref.toml") (reading.text? .root)
      (reading.has .force))
  | .list =>
    let page := match reading.given.lookup .page with
      | some (.page page) => some page
      | _ => none
    .ok (.list page reading.sourceOptions)
  | .whereUsed =>
    let kind := match reading.given.lookup .kind with
      | some (.kind kind) => some kind
      | _ => none
    match reading.text? .name with
    | some name => .ok (.whereUsed name reading.database kind)
    | none => .error (.missingWord .name)
  | .stats => .ok (.stats reading.database)

end Reading

namespace Command

/-- Reads the arguments behind a verb. -/
def parseVerb (verb : Verb) (pieces : List String) : Except Stop Command := do
  let form := verb.form
  let stray (_ : Reading) (word : String) : ArgumentError := .unexpected word false
  let reading ← pieces.foldlM (Reading.step form stray) (.start form)
  let reading ← reading.settle
  (reading.command verb).mapError .refused

/-- The arguments before any verb. -/
def topForm : Form :=
  ⟨[.verbose, .help, .version], []⟩

def isCommandName (word : String) : Bool :=
  word = "help" || (Verb.ofName? word).isSome

/-- A word that is no verb. A verb behind two dashes is none either. -/
def topStray (reading : Reading) (word : String) : ArgumentError :=
  if reading.wordsOnly && isCommandName word then .unexpected word false else .unknownCommand word

/-- Asks for help on a command, which must be one. -/
def parseHelp : List String → Except Stop Command
  | [] => .error .help
  | [word] => if isCommandName word then .error .help else .error (.refused (.unknownCommand word))
  | word :: other :: _ =>
    .error (.refused (.unknownCommand (if isCommandName word then other else word)))

/-- Reads a command line from a verb on, or what stands before it. -/
def parseFrom (reading : Reading) : List String → Except Stop Command
  | [] => .error (if reading.given.isEmpty then .nothing else .refused .missingCommand)
  | piece :: rest =>
    match if reading.wordsOnly then none else Verb.ofName? piece with
    | some verb => parseVerb verb rest
    | none =>
      if !reading.wordsOnly && piece = "help" then parseHelp rest
      else do parseFrom (← reading.step topForm topStray piece) rest

/-- Reads a command line. -/
def parse (pieces : List String) : Except Stop Command :=
  parseFrom (.start topForm) pieces

end Command

end CrossRef
