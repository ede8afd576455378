import CrossRef.Kind
import CrossRef.Text.Ascii
import CrossRef.Text.Blank

namespace CrossRef

/-- The head of a declaration. It has no name if nothing follows its keyword. -/
structure Header where
  kind : Kind
  name : Option String
  deriving DecidableEq

namespace Header

/-- The words that make the word VIEW behind them the head of a view. -/
def viewVerbs : List String :=
  ["CREATE", "REPLACE", "FORCE"]

/-- The heads of views, anywhere on a line. -/
def views : List String → List Header
  | verb :: word :: rest =>
    (if Text.equalIgnoringCase word "VIEW" && viewVerbs.contains (Text.upper verb) then
      [⟨.view, rest.head?⟩] else []) ++ views (word :: rest)
  | _ => []

/-- The heads of package bodies, anywhere on a line. -/
def packages : List String → List Header
  | first :: second :: name :: rest =>
    (if Text.equalIgnoringCase first "PACKAGE" && Text.equalIgnoringCase second "BODY" then
      [⟨.package, some name⟩] else []) ++ packages (second :: name :: rest)
  | _ => []

/-- The kind of routine a keyword declares. The keyword of a procedure is in capitals only. -/
def routineKind? (keyword : String) : Option Kind :=
  if Text.equalIgnoringCase keyword "FUNCTION" then some .function
  else if keyword = "PROCEDURE" then some .procedure
  else none

/-- The name of a routine is the text before its parameter list. -/
def routineName? (word : String) : Option String :=
  match word.toList.takeWhile (· ≠ '(') with
  | [] => none
  | name => some (String.ofList name)

/-- The head of a routine, at the start of a line. -/
def routine : List String → List Header
  | keyword :: word :: _ =>
    match routineKind? keyword with
    | some kind => [⟨kind, routineName? word⟩]
    | none => []
  | _ => []

end Header

/-- Whether a line is a comment from its first word on. -/
def isComment (line : String) : Bool :=
  match (Text.words line.toList).head? with
  | some word => [['-', '-'], ['/', '/'], ['#', '#']].any (·.isPrefixOf word)
  | none => false

/-- How the heads of declarations are found: whether views count at all. -/
structure HeaderRules where
  withViews : Bool

/-- What a line declares, and whether a package body is open behind it. -/
structure LineReading where
  headers : List Header
  packageOpen : Bool

/-- Reads a line of a file in which a package body is open or not. Routines count only in a file
that has opened a package body. -/
def HeaderRules.readLine (headers : HeaderRules) (packageOpen : Bool) (line : String) :
    LineReading :=
  let words := Text.tokens line
  let views := if headers.withViews then Header.views words else []
  let packages := Header.packages words
  let packageOpen := packageOpen || !packages.isEmpty
  let routines := if packageOpen then Header.routine words else []
  ⟨views ++ packages ++ routines, packageOpen⟩

/-- A line with a head, even one without a name, is a declaration. -/
def LineReading.isDeclaration (reading : LineReading) : Bool :=
  !reading.headers.isEmpty

end CrossRef
