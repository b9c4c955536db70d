import DeliveryIntelligence.Backfill.Process

set_option autoImplicit false

/-!
# What the counters of the backfills count

A checkpoint counts its pages and its inserted records, and a page reports what it inserted and
what was there already. Along every sequence of `persist_page` calls, over any keys and with other
rows written in between, these counters agree with the rows of the raw table and with the calls
that committed (`Accounted`).
-/

namespace Backfill

open Postgres RawEvents

/-! ## The counters of one call -/

/-- The rows of the raw table that came from a backfill. -/
def backfillRows (events : RawTable) : Nat :=
  (events.rows.filter fun entry => entry.2.source = .backfill).length

/-- `pages_completed` of a key, 0 without a checkpoint. -/
def pagesCompleted (key : CheckpointKey) (checkpoints : CheckpointTable) : Int :=
  (checkpoints.lookup key).elim 0 (·.pagesCompleted)

/-- The sum of `records_inserted` over all checkpoints. -/
def recordsInserted (checkpoints : CheckpointTable) : Int :=
  Table.total (·.recordsInserted) checkpoints

/-- A new row of a backfill is one more, any other insert leaves the number. -/
theorem backfillRows_insertRow {row : RawEvent} {events events' : RawTable}
    {returned : Option Nat} (h : insertRow row events = .ok (events', returned)) :
    backfillRows events'
      = backfillRows events + if returned.isSome ∧ row.source = .backfill then 1 else 0 := by
  rcases insertRow_cases h with ⟨rfl, rfl, -⟩ | ⟨rfl, rfl, hmissing⟩
  · simp
  · unfold backfillRows
    rw [Table.rows_insert_new hmissing]
    by_cases hsource : row.source = .backfill
    · simp [hsource]
    · simp [hsource]

/-- The loop over the records of a page counts the rows it adds. -/
theorem insertRecords_counts {generated : Nat → Generated} {records : List BackfillRecord}
    {events final : RawTable} {inserted : Nat}
    (h : insertRecords generated records events = .ok (final, inserted)) :
    backfillRows final = backfillRows events + inserted ∧ inserted ≤ records.length := by
  induction records generalizing generated events final inserted with
  | nil =>
      cases h
      exact ⟨rfl, le_rfl⟩
  | cons record rest ih =>
      obtain ⟨⟨events', returned⟩, hrow, h⟩ := bind_eq_ok h
      obtain ⟨⟨last, count⟩, hrest, h⟩ := bind_eq_ok h
      cases h
      obtain ⟨hrows, hle⟩ := ih hrest
      have hone := backfillRows_insertRow hrow
      have hsource : (record.row (generated 0)).source = .backfill := rfl
      simp only [hsource, and_true] at hone
      rw [List.length_cons]
      constructor
      · rw [hrows, hone]
        omega
      · split
        · omega
        · omega

/-- The upsert adds one page and the inserted records to the counters of its key. -/
theorem advanceCheckpoint_counts {key : CheckpointKey} {cursor : Option String}
    {status : CheckpointStatus} {inserted : Nat} {checkpoints checkpoints' : CheckpointTable}
    {returned : Option BackfillCheckpoint}
    (h : advanceCheckpoint key cursor status inserted checkpoints = .ok (checkpoints', returned)) :
    recordsInserted checkpoints' = recordsInserted checkpoints + inserted
    ∧ ∀ k, pagesCompleted k checkpoints'
        = pagesCompleted k checkpoints + if k = key then 1 else 0 := by
  rw [advanceCheckpoint_eq h]
  cases hold : checkpoints.lookup key with
  | none =>
      refine ⟨Table.total_insert_new hold _ _, fun k => ?_⟩
      by_cases hk : k = key
      · subst hk
        simp [pagesCompleted, hold, advancedRow]
      · simp [pagesCompleted, hk, AList.lookup_insert_ne hk]
  | some old =>
      constructor
      · have hexchange := Table.total_insert hold
          (advancedRow cursor status inserted (some old)) (·.recordsInserted)
        have hrow : (advancedRow cursor status inserted (some old)).recordsInserted
            = old.recordsInserted + inserted := rfl
        unfold recordsInserted
        omega
      · intro k
        by_cases hk : k = key
        · subst hk
          simp [pagesCompleted, hold, advancedRow]
        · simp [pagesCompleted, hk, AList.lookup_insert_ne hk]

/-- A committed page counts every record of it, as inserted or as a duplicate. -/
theorem persistPage_counts {generated : Nat → Generated} {key : BackfillRunKey}
    {records : List BackfillRecord} {nextCursor : Option String} {completed : Bool}
    {tables tables' : BackfillTables} {outcome : PageWriteOutcome}
    (h : persistPage generated key records nextCursor completed tables = .ok (outcome, tables')) :
    backfillRows tables'.events = backfillRows tables.events + outcome.inserted
    ∧ recordsInserted tables'.checkpoints = recordsInserted tables.checkpoints + outcome.inserted
    ∧ (∀ k, pagesCompleted k tables'.checkpoints
        = pagesCompleted k tables.checkpoints + if k = key.parameters then 1 else 0)
    ∧ outcome.inserted + outcome.duplicates = records.length := by
  obtain ⟨_, -, h⟩ := bind_eq_ok h
  obtain ⟨⟨events, inserted⟩, hinsert, h⟩ := bind_eq_ok h
  obtain ⟨⟨checkpoints, row⟩, hadvance, h⟩ := bind_eq_ok h
  obtain ⟨hrows, hle⟩ := insertRecords_counts (mapError_eq_ok hinsert)
  obtain ⟨hrecords, hpages⟩ := advanceCheckpoint_counts (mapError_eq_ok hadvance)
  cases row with
  | none => cases h
  | some checkpoint =>
      cases h
      refine ⟨hrows, hrecords, hpages, ?_⟩
      show inserted + (records.length - inserted) = records.length
      omega

/-! ## Sequences of calls -/

/-- A call of `persist_page` as its caller sees it. -/
structure PersistCall where
  key : BackfillRunKey
  records : List BackfillRecord
  nextCursor : Option String
  completed : Bool
  reply : Except BackfillError PageWriteOutcome

/-- A call with the outcome of its transaction, if that committed. -/
structure PersistEntry extends PersistCall where
  committed : Option PageWriteOutcome

def PersistEntry.inserted (entry : PersistEntry) : Nat := entry.committed.elim 0 (·.inserted)

/-- A write to the tables: a page, or a row of the warehouse consumer. -/
inductive TableWrite
  | persistPage (key : BackfillRunKey) (records : List BackfillRecord)
      (nextCursor : Option String) (completed : Bool) (choice : PageChoice)
  | webhook (row : RawEvent) (hsource : row.source = .webhook)

/-- The outcome of a transaction that commits, whether or not its caller hears of it. -/
def committedOutcome (key : BackfillRunKey) (records : List BackfillRecord)
    (nextCursor : Option String) (completed : Bool) (choice : PageChoice)
    (tables : BackfillTables) : Option PageWriteOutcome :=
  match persistPage choice.generated key records nextCursor completed tables, choice.fault with
  | .error _, _ => none
  | .ok _, .beforeCommit => none
  | .ok (outcome, _), .afterCommit => some outcome
  | .ok (outcome, _), .none => some outcome

namespace TableWrite

def run (tables : BackfillTables) : TableWrite → BackfillTables
  | .persistPage key records nextCursor completed choice =>
      (persistAct key records nextCursor completed choice tables).2
  | .webhook row _ => otherInsert row tables

def entry (tables : BackfillTables) : TableWrite → List PersistEntry
  | .persistPage key records nextCursor completed choice =>
      [{ key, records, nextCursor, completed
         reply := (persistAct key records nextCursor completed choice tables).1
         committed := committedOutcome key records nextCursor completed choice tables }]
  | .webhook _ _ => []

end TableWrite

/-- The tables after a sequence of writes. -/
def runWrites (writes : List TableWrite) (tables : BackfillTables) : BackfillTables :=
  writes.foldl TableWrite.run tables

/-- The calls of `persist_page` of a sequence, each in the state it met. -/
def entries : List TableWrite → BackfillTables → List PersistEntry
  | [], _ => []
  | write :: writes, tables => write.entry tables ++ entries writes (write.run tables)

/-- The committed calls of a key. -/
def committedCalls (key : CheckpointKey) (calls : List PersistEntry) : List PersistEntry :=
  calls.filter fun entry => entry.committed.isSome && decide (entry.key.parameters = key)

/-- The counters of the tables agree with the calls that were made. -/
structure Accounted (tables : BackfillTables) (calls : List PersistEntry) : Prop where
  rows : (backfillRows tables.events : Int)
    = (tables.checkpoints.rows.map fun entry => entry.2.recordsInserted).sum
  pages : ∀ key, pagesCompleted key tables.checkpoints = (committedCalls key calls).length
  inserted : backfillRows tables.events = (calls.map PersistEntry.inserted).sum
  outcomes : ∀ entry ∈ calls, ∀ outcome, entry.committed = some outcome →
    outcome.inserted + outcome.duplicates = entry.records.length
  replies : ∀ entry ∈ calls, ∀ outcome, entry.reply = .ok outcome →
    entry.committed = some outcome

/-- A transaction changes nothing and reports an error, or commits its page and reports no other
outcome than that. -/
theorem committedOutcome_cases (key : BackfillRunKey) (records : List BackfillRecord)
    (nextCursor : Option String) (completed : Bool) (choice : PageChoice)
    (tables : BackfillTables) :
    (committedOutcome key records nextCursor completed choice tables = none
      ∧ ∃ e, persistAct key records nextCursor completed choice tables = (.error e, tables))
    ∨ ∃ outcome tables',
        committedOutcome key records nextCursor completed choice tables = some outcome
        ∧ persistPage choice.generated key records nextCursor completed tables
          = .ok (outcome, tables')
        ∧ (persistAct key records nextCursor completed choice tables).2 = tables'
        ∧ ∀ told, (persistAct key records nextCursor completed choice tables).1 = .ok told →
            told = outcome := by
  unfold committedOutcome persistAct
  cases hpage : persistPage choice.generated key records nextCursor completed tables with
  | error e => exact Or.inl ⟨rfl, e, rfl⟩
  | ok result =>
      obtain ⟨outcome, tables'⟩ := result
      cases choice.fault with
      | beforeCommit => exact Or.inl ⟨rfl, _, rfl⟩
      | afterCommit =>
          refine Or.inr ⟨outcome, tables', rfl, rfl, rfl, fun told htold => ?_⟩
          cases htold
      | none => exact Or.inr ⟨outcome, tables', rfl, rfl, rfl, fun told htold => by
          cases htold
          rfl⟩

theorem accounted_empty : Accounted emptyTables [] where
  rows := rfl
  pages key := rfl
  inserted := rfl
  outcomes entry hentry := by cases hentry
  replies entry hentry := by cases hentry

/-- A call keeps the account where the tables move by what it committed. -/
theorem Accounted.call {tables tables' : BackfillTables} {calls : List PersistEntry}
    (h : Accounted tables calls) {entry : PersistEntry}
    (hrows : backfillRows tables'.events = backfillRows tables.events + entry.inserted)
    (hrecords : recordsInserted tables'.checkpoints
      = recordsInserted tables.checkpoints + entry.inserted)
    (hpages : ∀ k, pagesCompleted k tables'.checkpoints = pagesCompleted k tables.checkpoints
      + if entry.committed.isSome ∧ entry.key.parameters = k then 1 else 0)
    (houtcome : ∀ outcome, entry.committed = some outcome →
      outcome.inserted + outcome.duplicates = entry.records.length)
    (hreply : ∀ outcome, entry.reply = .ok outcome → entry.committed = some outcome) :
    Accounted tables' (calls ++ [entry]) where
  rows := by
    have hbefore : (backfillRows tables.events : Int) = recordsInserted tables.checkpoints :=
      h.rows
    show (backfillRows tables'.events : Int) = recordsInserted tables'.checkpoints
    rw [hrows, hrecords, ← hbefore]
    push_cast
    rfl
  pages k := by
    rw [hpages, h.pages, committedCalls, committedCalls, List.filter_append]
    by_cases hcounts : entry.committed.isSome ∧ entry.key.parameters = k
    · simp [hcounts]
    · rw [if_neg hcounts]
      simp [hcounts]
  inserted := by
    rw [hrows, h.inserted, List.map_append, List.sum_append]
    simp
  outcomes other hother := by
    rcases List.mem_append.mp hother with hold | hnew
    · exact h.outcomes other hold
    · rw [List.mem_singleton.mp hnew]
      exact houtcome
  replies other hother := by
    rcases List.mem_append.mp hother with hold | hnew
    · exact h.replies other hold
    · rw [List.mem_singleton.mp hnew]
      exact hreply

/-- One write keeps the account. -/
theorem Accounted.step {tables : BackfillTables} {calls : List PersistEntry}
    (h : Accounted tables calls) (write : TableWrite) :
    Accounted (write.run tables) (calls ++ write.entry tables) := by
  cases write with
  | webhook row hsource =>
      -- a row of another source
      show Accounted (otherInsert row tables) (calls ++ [])
      rw [List.append_nil]
      unfold otherInsert
      split
      · rename_i events returned hinsert
        have hrows := backfillRows_insertRow hinsert
        rw [if_neg (by simp [hsource]), Nat.add_zero] at hrows
        exact ⟨hrows ▸ h.rows, h.pages, hrows ▸ h.inserted, h.outcomes, h.replies⟩
      · exact h
  | persistPage key records nextCursor completed choice =>
      simp only [TableWrite.run, TableWrite.entry]
      rcases committedOutcome_cases key records nextCursor completed choice tables with
        ⟨hnone, e, hact⟩ | ⟨outcome, tables', hsome, hpage, htables, htold⟩
      · -- an aborted transaction is an entry that counts nothing
        rw [hact, hnone]
        refine h.call rfl (add_zero _).symm (fun k => (add_zero _).symm) ?_ ?_
        · intro outcome houtcome
          cases houtcome
        · intro outcome houtcome
          cases houtcome
      · obtain ⟨hrows, hrecords, hpages, hcount⟩ := persistPage_counts hpage
        rw [htables, hsome]
        refine h.call hrows hrecords (fun k => ?_) ?_ ?_
        · rw [hpages]
          by_cases hk : key.parameters = k
          · simp [hk]
          · simp [hk, Ne.symm hk]
        · intro outcome' houtcome
          cases houtcome
          exact hcount
        · intro outcome' houtcome
          rw [htold outcome' houtcome]

/-- A sequence of writes keeps the account. -/
theorem Accounted.run {tables : BackfillTables} {calls : List PersistEntry}
    (h : Accounted tables calls) (writes : List TableWrite) :
    Accounted (runWrites writes tables) (calls ++ entries writes tables) := by
  induction writes generalizing tables calls with
  | nil =>
      rw [entries, List.append_nil]
      exact h
  | cons write writes ih =>
      rw [entries, ← List.append_assoc]
      exact ih (h.step write)

end Backfill
