import CrossRef.Store.Query
import CrossRef.Store.Write

namespace CrossRef.Store

/-- A store that is open: its contents as the user sees them and, while a transaction is open, the
contents to go back to. -/
structure Connection where
  tables : Tables
  before : Option Tables
  /-- Whether the contents may be changed. -/
  writable : Bool
  deriving DecidableEq

/-- Why the medium of a store refuses a statement, and whether an open transaction ends by it. -/
structure Refusal where
  cause : StoreError
  endsTransaction : Bool

/-- What happens around a store while a catalog is saved. -/
structure Circumstances where
  /-- What the medium does at each statement, by the number of the statement. -/
  refusals : Nat → Option Refusal
  /-- Whether another reader holds the store in the end. -/
  locked : Bool

def Circumstances.calm : Circumstances :=
  ⟨fun _ => none, false⟩

namespace Connection

def ofTables (tables : Tables) (writable : Bool) : Connection :=
  ⟨tables, none, writable⟩

def inTransaction (connection : Connection) : Bool :=
  connection.before.isSome

/-- The contents that others see: those before the open transaction. -/
def committed (connection : Connection) : Tables :=
  connection.before.getD connection.tables

/-- Opens a transaction; there is never more than one. -/
def start (connection : Connection) : Except StoreError Connection :=
  if connection.inTransaction then .error .nestedTransaction
  else .ok { connection with before := some connection.tables }

/-- Ends the transaction and keeps its changes. While another reader holds the store (`locked`) the
request is refused and the transaction stays open. -/
def commit (connection : Connection) (locked : Bool) : Except StoreError Connection :=
  if !connection.inTransaction then .error .nothingToCommit
  else if locked then .error .busy
  else .ok { connection with before := none }

/-- Ends the transaction and drops its changes. -/
def rollBack (connection : Connection) : Except StoreError Connection :=
  match connection.before with
  | none => .error .nothingToRollBack
  | some tables => .ok { connection with tables, before := none }

/-- Drops the changes of an open transaction and the transaction itself. -/
def giveUp (connection : Connection) : Connection :=
  { connection with tables := connection.committed, before := none }

/-- Executes a statement, unless the medium refuses it. A statement that is refused leaves the
contents as they are, but not always the transaction. -/
def execute (connection : Connection) (refusal : Option Refusal) (statement : Statement) :
    Connection × Except StoreError Unit :=
  match refusal with
  | some refusal =>
    (if refusal.endsTransaction then connection.giveUp else connection, .error refusal.cause)
  | none =>
    if !connection.writable then (connection, .error .readOnly)
    else
      match statement.apply connection.tables with
      | .ok tables => ({ connection with tables }, .ok ())
      | .error error => (connection, .error error)

/-- Executes statements as far as the first that is refused; what was changed by then stays. The
statements are numbered from `number` on. -/
def executeAll (refusals : Nat → Option Refusal) (connection : Connection) (number : Nat) :
    List Statement → Connection × Except StoreError Unit
  | [] => (connection, .ok ())
  | statement :: rest =>
    match connection.execute (refusals number) statement with
    | (changed, .ok _) => changed.executeAll refusals (number + 1) rest
    | (stopped, .error error) => (stopped, .error error)

def clear (connection : Connection) : Except StoreError Connection :=
  match connection.executeAll Circumstances.calm.refusals 0 Statement.clearing with
  | (cleared, .ok _) => .ok cleared
  | (_, .error error) => .error error

/-- Replaces the contents by a catalog in one transaction, and gives the number of its symbols. If a
statement is refused the transaction is rolled back. -/
def saveIn (circumstances : Circumstances) (connection : Connection) (catalog : Catalog)
    (root : RawText) : Connection × Except StoreError Nat :=
  match connection.start with
  | .error error => (connection, .error error)
  | .ok opened =>
    match opened.executeAll circumstances.refusals 0 (Statement.saving catalog root) with
    | (written, .ok _) =>
      match written.commit circumstances.locked with
      | .ok done => (done, .ok catalog.symbols.length)
      | .error error => (written, .error error)
    | (stopped, .error error) =>
      match stopped.rollBack with
      | .ok old => (old, .error error)
      | .error failure => (stopped, .error failure)

/-- Saves a catalog on a medium that refuses nothing. -/
def save (connection : Connection) (catalog : Catalog) (root : RawText) (locked : Bool) :
    Connection × Except StoreError Nat :=
  connection.saveIn { Circumstances.calm with locked } catalog root

/-- Overwrites the kind of a stored symbol from outside, and tells how many rows that changed. -/
def setKind (connection : Connection) (seq : Int) (kind : String) :
    Except StoreError (Connection × Nat) :=
  if connection.writable then
    let (tables, changed) := connection.tables.setKind seq kind
    .ok ({ connection with tables, before := connection.before.map fun old =>
            (old.setKind seq kind).1 }, changed)
  else .error .readOnly

end Connection

end CrossRef.Store
