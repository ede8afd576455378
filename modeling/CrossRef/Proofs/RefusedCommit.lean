import CrossRef.Proofs.SavedUses

namespace CrossRef.Store

/-- A catalog to be saved, and what happens around the store meanwhile. -/
structure SaveRequest where
  circumstances : Circumstances
  catalog : Catalog
  root : RawText

namespace Connection

/-- Saves one catalog after the other, whether or not those before it were saved, and gives the
outcomes. -/
def saveAll (connection : Connection) :
    List SaveRequest → Connection × List (Except StoreError Nat)
  | [] => (connection, [])
  | request :: rest =>
    let (next, outcome) :=
      connection.saveIn request.circumstances request.catalog request.root
    let (last, outcomes) := next.saveAll rest
    (last, outcome :: outcomes)

/-- Statements that are all accepted change the contents and nothing else. -/
theorem executeAll_eq_ok {refusals : Nat → Option Refusal} {connection done : Connection}
    {statements : List Statement} {number : Nat}
    (h : connection.executeAll refusals number statements = (done, .ok ())) :
    done = { connection with tables := done.tables } := by
  induction statements generalizing connection number with
  | nil =>
    cases h
    rfl
  | cons statement rest ih =>
    rw [executeAll] at h
    split at h
    next changed result hstep =>
      obtain ⟨tables, _, rfl⟩ := execute_eq_ok hstep
      have hrest := ih h
      exact hrest
    next => cases h

theorem saveIn_of_inTransaction {connection : Connection} (h : connection.inTransaction = true)
    (circumstances : Circumstances) (catalog : Catalog) (root : RawText) :
    connection.saveIn circumstances catalog root = (connection, .error .nestedTransaction) := by
  have hstart : connection.start = .error .nestedTransaction := by
    rw [start, if_pos h]
  rw [saveIn, hstart]

/-- While a transaction is open nothing is saved, however often it is asked for. -/
theorem saveAll_of_inTransaction {connection : Connection} (h : connection.inTransaction = true)
    (requests : List SaveRequest) :
    connection.saveAll requests =
      (connection, requests.map fun _ => .error .nestedTransaction) := by
  induction requests with
  | nil => rfl
  | cons request rest ih =>
    rw [saveAll, saveIn_of_inTransaction h]
    dsimp only
    rw [ih, List.map_cons]

/-- Once all rows are accepted it is the last step that decides whether they are kept. -/
theorem saveIn_of_executeAll {circumstances : Circumstances} {connection written : Connection}
    {catalog : Catalog} {root : RawText} (hclosed : connection.before = none)
    (hrows : executeAll circumstances.refusals { connection with before := some connection.tables }
      0 (Statement.saving catalog root) = (written, .ok ())) :
    connection.saveIn circumstances catalog root =
      if circumstances.locked then (written, .error .busy)
      else ({ written with before := none }, .ok catalog.symbols.length) := by
  have hstart : connection.start = .ok { connection with before := some connection.tables } := by
    simp [start, inTransaction, hclosed]
  have hopen : written.inTransaction = true := by
    rw [executeAll_eq_ok hrows]
    rfl
  simp only [saveIn, hstart, hrows, commit, hopen, Bool.not_true, Bool.false_eq_true, ↓reduceIte]
  cases circumstances.locked <;> rfl

/-- If all rows are accepted but the changes cannot be kept, as another reader holds the store, the
transaction stays open. The store then answers with the catalog that was not saved, others still see
what was there before, and nothing can be saved any more until the transaction is rolled back, which
brings everything back. -/
theorem saveIn_left_open_if_locked {circumstances : Circumstances}
    {connection written : Connection} {catalog : Catalog} {root : RawText}
    (hclosed : connection.before = none)
    (hrows : executeAll circumstances.refusals { connection with before := some connection.tables }
      0 (Statement.saving catalog root) = (written, .ok ()))
    (hlocked : circumstances.locked = true) :
    connection.saveIn circumstances catalog root = (written, .error .busy) ∧
      written.inTransaction = true ∧
      (∃ saved, connection.saveIn { circumstances with locked := false } catalog root =
          (saved, .ok catalog.symbols.length) ∧ written.tables = saved.tables) ∧
      (∀ i place decl, catalog.symbols[i]? = some (place, decl) →
        written.tables.usesOf ((i + 1 : Nat) : Int) =
          decl.uses.flat.map fun use => ⟨use.1, use.2.fileId, use.2.line⟩) ∧
      written.committed = connection.tables ∧
      (∀ requests, written.saveAll requests =
        (written, requests.map fun _ => .error .nestedTransaction)) ∧
      written.rollBack = .ok connection := by
  have hwritten : written = ⟨written.tables, some connection.tables, connection.writable⟩ :=
    executeAll_eq_ok hrows
  have hopen : written.inTransaction = true := by
    rw [hwritten]
    rfl
  have hrefused := saveIn_of_executeAll hclosed hrows
  rw [if_pos hlocked] at hrefused
  -- The same rows are accepted where nobody else reads.
  have hkept : connection.saveIn { circumstances with locked := false } catalog root =
      ({ written with before := none }, .ok catalog.symbols.length) :=
    saveIn_of_executeAll hclosed hrows
  refine ⟨hrefused, hopen, ⟨_, hkept, rfl⟩, ?_, ?_, ?_, ?_⟩
  · intro i place decl hi
    exact usesOf_saveIn hkept hi
  · rw [hwritten]
    rfl
  · exact saveAll_of_inTransaction hopen
  · rw [hwritten, rollBack]
    show Except.ok _ = Except.ok connection
    rw [← hclosed]

/-- A catalog with a view that is used on the third line of its file. -/
def usedView : Catalog :=
  ⟨[⟨1, "a.sql", .sql, [⟨.view, "v", 0, 1, none, 2, [("a.sql", [⟨1, 3⟩])]⟩], []⟩], 2⟩

theorem saveIn_left_open_if_locked_usedView :
    let connection := ofTables .empty true
    let watched : Circumstances := { Circumstances.calm with locked := true }
    let left := (connection.saveIn watched usedView ".").1
    (connection.saveIn watched usedView ".").2 = .error .busy ∧
      left.inTransaction = true ∧
      connection.tables.counts = ⟨0, 0, 0, 0, 0⟩ ∧ left.tables.counts = ⟨1, 1, 1, 0, 1⟩ ∧
      left.tables.usesOf 1 = [⟨"a.sql", 1, 3⟩] ∧
      left.saveAll [⟨.calm, usedView, "."⟩] = (left, [.error .nestedTransaction]) ∧
      left.rollBack = .ok connection := by
  intro connection watched left
  have hrows : executeAll watched.refusals { connection with before := some connection.tables }
      0 (Statement.saving usedView ".") =
        (⟨Tables.ofCatalog usedView "." 0, some .empty, true⟩, .ok ()) := by
    decide +kernel
  obtain ⟨hsave, hopen, _, huses, _, hlater, hback⟩ := saveIn_left_open_if_locked rfl hrows rfl
  have hleft : left = ⟨Tables.ofCatalog usedView "." 0, some .empty, true⟩ :=
    congrArg Prod.fst hsave
  rw [hleft]
  exact ⟨congrArg Prod.snd hsave, hopen, rfl, by decide +kernel, huses 0 (.view 0 0) _ rfl,
    hlater [_], hback⟩

end Connection

end CrossRef.Store
