import CrossRef.FileTree.Trace
import CrossRef.FileTree.Work

namespace CrossRef

namespace FileTree

/-- The location of the file beside another whose name goes on with an ending. -/
def beside (location : Location) (ending : RawText) : Location :=
  location.dropLast ++ [location.getLastD "" ++ ending]

/-- Where a store notes what its file held before a change, -/
def journalOf (location : Location) : Location :=
  beside location "-journal"

/-- and where it may note the changes themselves. -/
def logOf (location : Location) : Location :=
  beside location "-wal"

/-- Whether something stands at a location, through links, that is not an empty file. -/
def isOccupied (tree : FileTree) (location : Location) : Bool :=
  match tree.followNames linkLimit location.dropLast [location.getLastD ""] with
  | .found real =>
    match tree.get? real with
    | some (.file content) => content.read.toOption.any (!·.isEmpty)
    | node => node.isSome
  | _ => false

/-- Whether the notes of a journal are to be taken back: it does not start with a zero. -/
def isHot (content : Content) : Bool :=
  (content.read.toOption.bind List.head?).any (· ≠ 0)

/-- Settles what is left of an earlier change. A journal beside an empty store is dropped; beside
another its notes, which are those of no store, are taken back and dropped, which needs a file that
can be read and a store that can be written. -/
def settleJournal (location : Location) (fresh writable : Bool) : Work StoreError Unit := do
  let journal := journalOf location
  if (← get).isOccupied journal then
    match (← get).get? journal with
    | some (.file content) =>
      if fresh || isHot content then
        if writable then modify (·.erase journal) else throw .readOnly
    | some (.link _) =>
      if !writable then throw .readOnly
      else if fresh then modify (·.erase journal)
      else throw .noJournal
    | _ => if !fresh then throw .unreadable

/-- Settles a log of changes, which is used up or dropped. -/
def settleLog (location : Location) (fresh : Bool) : Work StoreError Unit := do
  let log := logOf location
  if (← get).isOccupied log then
    match (← get).get? log with
    | some (.file _) => modify (·.erase log)
    | some (.link _) => if fresh then modify (·.erase log) else throw .noJournal
    | _ => if fresh then throw .unreadable else throw .noJournal

/-- Opens the journal of a change. It must be a file; once the change is made it is gone. -/
def useJournal (location : Location) : Work StoreError Unit := do
  let journal := journalOf location
  if isOverlong (journal.getLastD "") then throw .noJournal
  match (← get).get? journal with
  | none => return
  | some (.file content) =>
    if content = .unreadable then throw .noJournal else modify (·.erase journal)
  | some _ => throw .noJournal

end FileTree

end CrossRef
