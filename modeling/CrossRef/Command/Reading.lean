import CrossRef.Command.Argument
import CrossRef.Text.Search

namespace CrossRef

/-- Why the reading of a command line ends before there is a command. -/
inductive Stop
  | refused (error : ArgumentError)
  | help
  | version
  /-- Nothing was asked for at all. -/
  | nothing
  deriving DecidableEq

/-- The arguments a command takes. -/
structure Form where
  options : List Argument
  /-- The plain words, in order. -/
  words : List Argument

/-- A command line while it is read. -/
structure Reading where
  given : List (Argument × ArgumentValue)
  /-- The argument read last, whose value may be still to come. It is checked when the next one
  is met. -/
  pending : Option (Argument × Option String)
  /-- Behind two dashes there are plain words only. -/
  wordsOnly : Bool
  /-- The plain words still to come. -/
  words : List Argument

namespace Reading

def start (form : Form) : Reading :=
  ⟨[], none, false, form.words⟩

def refuse (error : ArgumentError) : Except Stop α :=
  .error (.refused error)

def has (reading : Reading) (argument : Argument) : Bool :=
  (reading.given.lookup argument).isSome

/-- Takes the value of an argument. No argument is given twice. -/
def take (reading : Reading) (argument : Argument) : Option String → Except Stop Reading
  | none => refuse (.missingValue argument)
  | some value =>
    if reading.has argument then refuse (.repeated argument)
    else
      match argument.readValue value with
      | .ok read => .ok { reading with given := reading.given ++ [(argument, read)] }
      | .error error => refuse error

/-- Takes the pending argument. -/
def settle (reading : Reading) : Except Stop Reading :=
  match reading.pending with
  | none => .ok reading
  | some (argument, value) => { reading with pending := none }.take argument value

/-- Turns a switch on. -/
def turnOn (reading : Reading) (argument : Argument) : Except Stop Reading := do
  let reading ← reading.settle
  match argument with
  | .help => .error .help
  | .version => .error .version
  | _ =>
    if reading.has argument then refuse (.repeated argument)
    else .ok { reading with given := reading.given ++ [(argument, .given)] }

/-- Meets an option, with its value if it is attached. -/
def meet (reading : Reading) (argument : Argument) (attached : Option String) :
    Except Stop Reading := do
  let reading ← reading.settle
  match attached with
  | some value => reading.take argument (some value)
  | none => .ok { reading with pending := some (argument, none) }

/-- Reads what stands behind two dashes: a name, and a value behind an equals sign. -/
def readLong (form : Form) (reading : Reading) (body : List Char) : Except Stop Reading :=
  let (name, attached) := match Text.cutAt ['='] body with
    | some (name, value) => (String.ofList name, some (String.ofList value))
    | none => (String.ofList body, none)
  match form.options.find? (·.long? = some name) with
  | none => refuse (.unexpected ("--" ++ name) (!form.words.isEmpty))
  | some argument =>
    if argument.isSwitch then
      match attached with
      | some value => refuse (.unexpectedValue argument value)
      | none => reading.turnOn argument
    else reading.meet argument attached

/-- The value attached to a letter, if any; an equals sign before it does not count. -/
def attachedToLetter : List Char → Option String
  | [] => none
  | '=' :: value => some (String.ofList value)
  | value => some (String.ofList value)

/-- Reads letters behind one dash: switches, until an option takes the rest as its value. -/
def readShort (form : Form) (reading : Reading) : List Char → Except Stop Reading
  | [] => .ok reading
  | letter :: rest =>
    match form.options.find? (·.short? = some letter) with
    | none => refuse (.unexpected (String.ofList ['-', letter]) (!form.words.isEmpty))
    | some argument =>
      if argument.isSwitch then do readShort form (← reading.turnOn argument) rest
      else reading.meet argument (attachedToLetter rest)

/-- The option that waits for its value. -/
def awaiting? (reading : Reading) : Option Argument :=
  match reading.pending with
  | some (argument, none) => if reading.wordsOnly then none else some argument
  | _ => none

/-- Reads a plain word: the value of the option that waits for one, else the next of the words. -/
def readWord (stray : Reading → String → ArgumentError) (reading : Reading) (word : String) :
    Except Stop Reading :=
  match reading.awaiting? with
  | some argument => .ok { reading with pending := some (argument, some word) }
  | none =>
    match reading.words with
    | [] => refuse (stray reading word)
    | argument :: words => do
      let reading ← reading.settle
      .ok { reading with pending := some (argument, some word), words }

/-- Reads one piece of the command line. A word that has no place is reported by `stray`. -/
def step (form : Form) (stray : Reading → String → ArgumentError) (reading : Reading)
    (piece : String) : Except Stop Reading :=
  if reading.wordsOnly || reading.awaiting?.any (·.takesDashes) then readWord stray reading piece
  else
    match piece.toList with
    | ['-', '-'] => .ok { reading with wordsOnly := true }
    | '-' :: '-' :: body => readLong form reading body
    | '-' :: letter :: rest => readShort form reading (letter :: rest)
    | _ => readWord stray reading piece

end Reading

end CrossRef
