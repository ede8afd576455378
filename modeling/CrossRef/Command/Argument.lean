import CrossRef.Command.Basic
import CrossRef.Palette
import CrossRef.Text.Integer
import CrossRef.Text.Terminal

namespace CrossRef

/-- The switches, options and plain words of the command line. -/
inductive Argument
  | config
  | project
  | root
  | blindOffset
  | sequential
  | database
  | json
  | path
  | force
  | page
  | name
  | kind
  | verbose
  | help
  | version
  deriving DecidableEq

/-- Why a command line is refused. -/
inductive ArgumentError
  | missingValue (argument : Argument)
  | invalidValue (argument : Argument) (value reason : String)
  | repeated (argument : Argument)
  /-- An argument that has no place; `asWord` tells that it could stand as a plain word. -/
  | unexpected (text : String) (asWord : Bool)
  | unexpectedValue (argument : Argument) (value : String)
  | unknownCommand (text : String)
  | missingCommand
  | missingWord (argument : Argument)
  deriving DecidableEq

/-- What an argument says. -/
inductive ArgumentValue
  | given
  | text (text : String)
  | number (number : Int64)
  | page (page : Page)
  | kind (kind : Kind)
  deriving DecidableEq

namespace Argument

/-- The name behind two dashes; a plain word has none. -/
def long? : Argument → Option String
  | .config => some "config"
  | .project => some "project"
  | .root => some "root"
  | .blindOffset => some "blind-offset"
  | .sequential => some "sequential"
  | .database => some "database"
  | .json => some "json"
  | .path => some "path"
  | .force => some "force"
  | .page | .name => none
  | .kind => some "kind"
  | .verbose => some "verbose"
  | .help => some "help"
  | .version => some "version"

/-- The letter behind one dash. -/
def short? : Argument → Option Char
  | .config => some 'c'
  | .project => some 'p'
  | .root => some 'r'
  | .blindOffset => some 'b'
  | .database => some 'd'
  | .force => some 'f'
  | .kind => some 'k'
  | .verbose => some 'v'
  | .help => some 'h'
  | .version => some 'V'
  | .sequential | .json | .path | .page | .name => none

/-- A switch takes no value. -/
def isSwitch : Argument → Bool
  | .sequential | .force | .verbose | .help | .version => true
  | _ => false

/-- Whether the value may start with a dash. -/
def takesDashes : Argument → Bool
  | .blindOffset => true
  | _ => false

/-- How an argument is shown to the user. -/
def label : Argument → String
  | .config => "--config <CONFIG>"
  | .project => "--project <PROJECT>"
  | .root => "--root <ROOT>"
  | .blindOffset => "--blind-offset <BLIND_OFFSET>"
  | .sequential => "--sequential"
  | .database => "--database <DATABASE>"
  | .json => "--json <JSON>"
  | .path => "--path <PATH>"
  | .force => "--force"
  | .page => "[PAGE]"
  | .name => "<NAME>"
  | .kind => "--kind <KIND>"
  | .verbose => "--verbose"
  | .help => "--help"
  | .version => "--version"

/-- Reads the value of an argument. A path must not be empty. -/
def readValue (argument : Argument) (value : String) : Except ArgumentError ArgumentValue :=
  match argument with
  | .config | .root | .database | .json | .path =>
    if value.isEmpty then .error (.missingValue argument) else .ok (.text value)
  | .blindOffset =>
    match Text.readInteger value with
    | .ok number => .ok (.number number)
    | .error fault => .error (.invalidValue argument value fault.message)
  | .page =>
    match Page.parse value with
    | .ok found => .ok (.page found)
    | .error error => .error (.invalidValue argument value error.message)
  | .kind =>
    match Kind.parse? value with
    | some found => .ok (.kind found)
    | none => .error (.invalidValue argument value (Error.invalidKind value).message)
  | _ => .ok (.text value)

end Argument

namespace ArgumentError

/-- What is wrong, in its colour. -/
def wrong (text : String) : String :=
  Ink.paint [33] text

/-- What can be typed as it stands, in its manner. -/
def literal (text : String) : String :=
  Ink.paint [1] text

/-- The message of an error, painted. A reason is quoted as it is. -/
def message : ArgumentError → String
  | .missingValue argument =>
    let argument := literal argument.label
    s!"a value is required for '{argument}' but none was supplied"
  | .invalidValue argument value reason =>
    let argument := literal argument.label
    let value := wrong value
    s!"invalid value '{value}' for '{argument}': {reason}"
  | .repeated argument =>
    let argument := wrong argument.label
    s!"the argument '{argument}' cannot be used multiple times"
  | .unexpected text asWord =>
    let found := wrong text
    let word := literal ("-- " ++ text)
    let tip := s!"\n\n  tip: to pass '{found}' as a value, use '{word}'"
    s!"unexpected argument '{found}' found" ++ if asWord then tip else ""
  | .unexpectedValue argument value =>
    let argument := literal argument.label
    let value := wrong value
    s!"unexpected value '{value}' for '{argument}' found; no more were expected"
  | .unknownCommand text =>
    let text := wrong text
    s!"unrecognized subcommand '{text}'"
  | .missingCommand => "'sqlxref' requires a subcommand but one was not provided"
  | .missingWord argument =>
    s!"the following required arguments were not provided:\n  {argument.label}"

/-- What the user is told of an error where colours do not show. -/
def complaint (error : ArgumentError) : String :=
  let help := literal "--help"
  Text.bare ("error: " ++ error.message ++ s!"\n\nFor more information, try '{help}'.\n")

end ArgumentError

end CrossRef
