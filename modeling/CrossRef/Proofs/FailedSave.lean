import CrossRef.Store.Connection

namespace CrossRef.Store

theorem Connection.start_eq_ok {connection opened : Connection}
    (h : connection.start = .ok opened) :
    connection.before = none ∧ opened = { connection with before := some connection.tables } := by
  unfold start at h
  split at h
  next => cases h
  next hclosed =>
    have hbefore : connection.before = none := by
      simpa [inTransaction] using hclosed
    exact ⟨hbefore, (Except.ok.inj h).symm⟩

/-- A connection that, while nothing is kept, can go back to the contents `old`: it is in a
transaction that started from them, or the transaction is gone and the contents are back. -/
def Connection.GoesBackTo (old : Tables) (writable : Bool) (connection : Connection) : Prop :=
  connection.writable = writable ∧
    (connection.before = some old ∨ connection.before = none ∧ connection.tables = old)

namespace Connection

variable {old : Tables} {writable : Bool} {connection : Connection}

theorem GoesBackTo.execute (h : connection.GoesBackTo old writable)
    (hopen : connection.before = some old) (refusal : Option Refusal) (statement : Statement) :
    (connection.execute refusal statement).1.GoesBackTo old writable ∧
      ((connection.execute refusal statement).2 = .ok () →
        (connection.execute refusal statement).1.before = some old) := by
  obtain ⟨hwritable, _⟩ := h
  unfold Connection.execute
  cases refusal with
  | some refusal =>
    refine ⟨?_, fun hok => by cases hok⟩
    by_cases hends : refusal.endsTransaction = true
    · have hold : connection.giveUp.tables = old := by simp [giveUp, committed, hopen]
      simp only [hends, ↓reduceIte]
      exact ⟨hwritable, Or.inr ⟨rfl, hold⟩⟩
    · simp only [hends, Bool.false_eq_true, ↓reduceIte]
      exact ⟨hwritable, Or.inl hopen⟩
  | none =>
    dsimp only
    split
    next => exact ⟨⟨hwritable, Or.inl hopen⟩, fun hok => by cases hok⟩
    next =>
      split
      next tables _ => exact ⟨⟨hwritable, Or.inl hopen⟩, fun _ => hopen⟩
      next => exact ⟨⟨hwritable, Or.inl hopen⟩, fun hok => by cases hok⟩

theorem GoesBackTo.executeAll (h : connection.GoesBackTo old writable)
    (hopen : connection.before = some old) (refusals : Nat → Option Refusal) (number : Nat)
    (statements : List Statement) :
    (connection.executeAll refusals number statements).1.GoesBackTo old writable := by
  induction statements generalizing connection number with
  | nil => exact h
  | cons statement rest ih =>
    obtain ⟨hstep, hstill⟩ := h.execute hopen (refusals number) statement
    rw [Connection.executeAll]
    -- Only a statement that succeeded is followed by another, and then the transaction is open yet.
    split
    next changed result heq =>
      rw [heq] at hstep hstill
      exact ih hstep (hstill rfl) (number + 1)
    next stopped error heq =>
      rw [heq] at hstep
      exact hstep

/-- Rolling back brings the old contents back, or finds that they are back already. -/
theorem GoesBackTo.rollBack (h : connection.GoesBackTo old writable) :
    connection.rollBack = .ok ⟨old, none, writable⟩ ∨
      connection.rollBack = .error .nothingToRollBack ∧ connection = ⟨old, none, writable⟩ := by
  obtain ⟨hwritable, hopen | ⟨hgone, htables⟩⟩ := h
  · refine Or.inl ?_
    simp only [Connection.rollBack, hopen, hwritable]
  · refine Or.inr ⟨?_, ?_⟩
    · simp only [Connection.rollBack, hgone]
    · rw [← htables, ← hgone, ← hwritable]

/-- The transaction or one of the statements that save a catalog is refused. -/
def FailsToWrite (circumstances : Circumstances) (connection : Connection) (catalog : Catalog)
    (root : RawText) : Prop :=
  (∃ error, connection.start = .error error) ∨
    ∃ opened stopped error, connection.start = .ok opened ∧
      opened.executeAll circumstances.refusals 0 (Statement.saving catalog root) =
        (stopped, .error error)

/-- A save that fails before its changes are to be kept leaves the connection as it was: the
contents, and whether a transaction is open. -/
theorem saveIn_unchanged_of_failsToWrite {circumstances : Circumstances} {connection : Connection}
    {catalog : Catalog} {root : RawText}
    (h : connection.FailsToWrite circumstances catalog root) :
    ∃ error, connection.saveIn circumstances catalog root = (connection, .error error) := by
  rcases h with ⟨error, hstart⟩ | ⟨opened, stopped, error, hstart, hstopped⟩
  · exact ⟨error, by rw [saveIn, hstart]⟩
  obtain ⟨hclosed, hopened⟩ := start_eq_ok hstart
  have hbegun : opened.GoesBackTo connection.tables connection.writable := by
    rw [hopened]
    exact ⟨rfl, Or.inl rfl⟩
  have hback := hbegun.executeAll (by rw [hopened]) circumstances.refusals 0
    (Statement.saving catalog root)
  rw [hstopped] at hback
  have hsame : (⟨connection.tables, none, connection.writable⟩ : Connection) = connection := by
    rw [← hclosed]
  rcases hback.rollBack with hrolled | ⟨hrefused, hstill⟩
  · refine ⟨error, ?_⟩
    simp only [saveIn, hstart, hstopped, hrolled, hsame]
  · refine ⟨.nothingToRollBack, ?_⟩
    simp only [saveIn, hstart, hstopped, hrefused]
    exact congrArg (·, _) (hstill.trans hsame)

/-- A store that holds a file, and a catalog with a view whose file it does not know. -/
def oneFile : Tables :=
  ⟨some "old", [⟨1, 0, "a.sql", "sql"⟩], [], [], [], 4⟩

def strayView : Catalog :=
  ⟨[⟨1, "b.sql", .sql, [⟨.view, "v", 7, 1, none, 0, []⟩], []⟩], 1⟩

theorem saveIn_unchanged_of_failsToWrite_strayView :
    let connection := ofTables oneFile true
    let full : Circumstances := ⟨fun n => if n = 6 then some ⟨.unreadable, true⟩ else none, false⟩
    (∃ opened stopped, connection.start = .ok opened ∧
      opened.executeAll (fun _ => none) 0 (Statement.saving strayView "new") =
        (stopped, .error .missingReference) ∧ stopped.tables.root = some "new") ∧
      (∃ error, connection.saveIn .calm strayView "new" = (connection, .error error)) ∧
      ∃ error, connection.saveIn full strayView "new" = (connection, .error error) := by
  intro connection full
  have hopened : connection.start = .ok ⟨oneFile, some oneFile, true⟩ := rfl
  have hstray : (executeAll (fun _ => none) ⟨oneFile, some oneFile, true⟩ 0
      (Statement.saving strayView "new")) =
      (⟨⟨some "new", [⟨1, 0, "b.sql", "sql"⟩], [], [], [], 4⟩, some oneFile, true⟩,
        .error .missingReference) := rfl
  have hfull : (executeAll full.refusals ⟨oneFile, some oneFile, true⟩ 0
      (Statement.saving strayView "new")) = (connection, .error .unreadable) := rfl
  refine ⟨⟨_, _, hopened, hstray, rfl⟩, ?_, ?_⟩
  · exact saveIn_unchanged_of_failsToWrite (Or.inr ⟨_, _, _, hopened, hstray⟩)
  · exact saveIn_unchanged_of_failsToWrite (Or.inr ⟨_, _, _, hopened, hfull⟩)

end Connection

end CrossRef.Store
