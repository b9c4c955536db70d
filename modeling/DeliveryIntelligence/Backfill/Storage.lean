import DeliveryIntelligence.Backfill.Models
import DeliveryIntelligence.Common.RawEvents

set_option autoImplicit false

/-!
# Transactional raw inserts and cursor advancement

`backfill/storage.py` over `raw.github_events` and `raw.backfill_checkpoints`. The bookkeeping
column `updated_at` is left out: no statement reads it. `persistPage_ok` says everything a
committed page does.
-/

namespace Backfill

open Datetime Postgres RawEvents

/-! ## The checkpoint table -/

/-- The primary key of `raw.backfill_checkpoints`. -/
structure CheckpointKey where
  repositoryId : Int
  resource : String
  scope : String
  windowStart : Timestamp
  windowEnd : Timestamp
  deriving DecidableEq

/-- `_key_parameters`: PostgreSQL keeps the instants of the window. -/
def RunKeyFields.parameters (key : RunKeyFields) : CheckpointKey where
  repositoryId := key.repositoryId
  resource := key.resource
  scope := key.scope
  windowStart := key.window.windowStart.instant
  windowEnd := key.window.windowEnd.instant

abbrev CheckpointTable := Table CheckpointKey BackfillCheckpoint

/-- A row with its key; the type of `status` admits only the two allowed values. -/
def checkpointConstraints : List (Constraint (CheckpointKey × BackfillCheckpoint)) :=
  [ bigintColumn "repository_id" (·.1.repositoryId)
  , textColumn "resource" (·.1.resource)
  , textColumn "scope" (·.1.scope)
  , nullable (textColumn "cursor" id) (·.2.cursor)
  , integerColumn "pages_completed" (·.2.pagesCompleted)
  , bigintColumn "records_inserted" (·.2.recordsInserted)
  , positiveCheck "backfill_checkpoints_repository_id_positive" (·.1.repositoryId)
  , nonemptyCheck "backfill_checkpoints_resource_nonempty" (·.1.resource)
  , nonemptyCheck "backfill_checkpoints_scope_nonempty" (·.1.scope)
  , ⟨.check "backfill_checkpoints_window_valid",
      fun row => decide (row.1.windowStart < row.1.windowEnd)⟩
  , ⟨.check "backfill_checkpoints_pages_nonnegative",
      fun row => decide (0 ≤ row.2.pagesCompleted)⟩
  , ⟨.check "backfill_checkpoints_records_nonnegative",
      fun row => decide (0 ≤ row.2.recordsInserted)⟩
  , ⟨.check "backfill_checkpoints_completion_has_no_cursor",
      fun row => row.2.status != .completed || row.2.cursor.isNone⟩ ]

/-- The tables the backfills write. -/
structure BackfillTables where
  events : RawTable
  checkpoints : CheckpointTable

/-- `_LOAD_CHECKPOINT` -/
def loadCheckpoint (key : BackfillRunKey) (tables : BackfillTables) :
    Option BackfillCheckpoint :=
  tables.checkpoints.lookup key.parameters

/-- `_ADVANCE_CHECKPOINT` -/
def advanceCheckpoint (key : CheckpointKey) (cursor : Option String) (status : CheckpointStatus)
    (inserted : Nat) (checkpoints : CheckpointTable) :
    Except Error (CheckpointTable × Option BackfillCheckpoint) := do
  let new : BackfillCheckpoint := ⟨cursor, status, 1, inserted⟩
  enforce checkpointConstraints (key, new)
  let (checkpoints', returned) := checkpoints.upsert key new fun old =>
    some { cursor := new.cursor
           status := new.status
           pagesCompleted := old.pagesCompleted + 1
           recordsInserted := old.recordsInserted + new.recordsInserted }
  match returned with
  | none => return (checkpoints', none)
  | some row => do
      enforce checkpointConstraints (key, row)
      return (checkpoints', some row)

/-! ## Persisting a page -/

/-- The row of `_INSERT_RECORD`. -/
def BackfillRecord.row (record : BackfillRecord) (generated : Generated) : RawEvent where
  eventId := generated.eventId
  source := .backfill
  sourceRecordKey := record.sourceRecordKey
  deliveryId := none
  eventName := record.eventName
  action := record.action
  repositoryId := record.repositoryId
  installationId := record.installationId
  occurredAt := record.occurredAt.map Aware.instant
  receivedAt := none
  ingestedAt := generated.ingestedAt
  payload := record.payload
  kafkaPartition := none
  kafkaOffset := none

/-- The loop over the records of a page; `generated n` are the column defaults of the `n`-th
one. The second component counts the rows that are new. -/
def insertRecords (generated : Nat → Generated) :
    List BackfillRecord → RawTable → Except Error (RawTable × Nat)
  | [], events => .ok (events, 0)
  | record :: rest, events => do
      let (events', returned) ← insertRow (record.row (generated 0)) events
      let (final, inserted) ← insertRecords (fun n => generated (n + 1)) rest events'
      return (final, inserted + if returned.isSome then 1 else 0)

/-- The checks of `persist_page` before its transaction. -/
def checkPage (key : BackfillRunKey) (records : List BackfillRecord)
    (nextCursor : Option String) (completed : Bool) : Except BackfillError Unit :=
  if completed && nextCursor.isSome then
    .error (.valueError "completed checkpoint cannot retain a cursor")
  else if !completed && nextCursor.all (· == "") then
    .error (.valueError "in-progress checkpoint requires a next cursor")
  else if records.any fun record => record.repositoryId != key.repositoryId then
    .error (.valueError "record repository does not match checkpoint repository")
  else .ok ()

/-- `CheckpointStatus.COMPLETED if completed else CheckpointStatus.IN_PROGRESS` -/
def statusOf (completed : Bool) : CheckpointStatus :=
  if completed then .completed else .inProgress

/-- `persist_page`: commit idempotent records and checkpoint progress atomically. -/
def persistPage (generated : Nat → Generated) (key : BackfillRunKey)
    (records : List BackfillRecord) (nextCursor : Option String) (completed : Bool)
    (tables : BackfillTables) : Except BackfillError (PageWriteOutcome × BackfillTables) := do
  checkPage key records nextCursor completed
  let (events, inserted) ← (insertRecords generated records tables.events).mapError .database
  let (checkpoints, row) ← (advanceCheckpoint key.parameters nextCursor (statusOf completed)
    inserted tables.checkpoints).mapError .database
  match row with
  | none => .error (.runtimeError "checkpoint upsert returned no durable state")
  | some checkpoint =>
      -- Records that are not new are duplicates.
      return (⟨inserted, records.length - inserted, checkpoint⟩, ⟨events, checkpoints⟩)

/-! ## What a committed page does -/

/-- The record has its row. -/
def Stored (events : RawTable) (record : BackfillRecord) : Prop :=
  ∃ row, events.lookup (.backfill, record.sourceRecordKey) = some row

theorem Stored.mono {events events' : RawTable} {record : BackfillRecord}
    (h : Stored events record) (hext : Extends events events') : Stored events' record := by
  obtain ⟨row, hrow⟩ := h
  exact ⟨row, hext _ _ hrow⟩

theorem insertRecords_ok {generated : Nat → Generated} {records : List BackfillRecord}
    {events final : RawTable} {inserted : Nat}
    (h : insertRecords generated records events = .ok (final, inserted)) :
    Extends events final ∧ ∀ record ∈ records, Stored final record := by
  induction records generalizing generated events final inserted with
  | nil =>
      cases h
      exact ⟨Extends.refl _, fun record hmem => nomatch hmem⟩
  | cons record rest ih =>
      obtain ⟨⟨events', returned⟩, hrow, h⟩ := bind_eq_ok h
      obtain ⟨⟨last, count⟩, hrest, h⟩ := bind_eq_ok h
      cases h
      obtain ⟨hext, hstored, -, -⟩ := insertRow_ok hrow
      obtain ⟨hext', hall⟩ := ih hrest
      refine ⟨hext.trans hext', fun other hmem => ?_⟩
      rcases List.mem_cons.mp hmem with rfl | hin
      · exact Stored.mono hstored hext'
      · exact hall other hin

/-- The row a page leaves under its key: the first page of a traversal, or one more. -/
def advancedRow (cursor : Option String) (status : CheckpointStatus) (inserted : Nat) :
    Option BackfillCheckpoint → BackfillCheckpoint
  | none => ⟨cursor, status, 1, inserted⟩
  | some old => ⟨cursor, status, old.pagesCompleted + 1, old.recordsInserted + inserted⟩

/-- The upsert stores the advanced row and returns it. -/
theorem advanceCheckpoint_eq {key : CheckpointKey} {cursor : Option String}
    {status : CheckpointStatus} {inserted : Nat} {checkpoints checkpoints' : CheckpointTable}
    {returned : Option BackfillCheckpoint}
    (h : advanceCheckpoint key cursor status inserted checkpoints = .ok (checkpoints', returned)) :
    checkpoints'
      = checkpoints.insert key (advancedRow cursor status inserted (checkpoints.lookup key)) := by
  obtain ⟨_, -, h⟩ := bind_eq_ok h
  simp only at h
  generalize hup : checkpoints.upsert key _ _ = up at h
  obtain ⟨t, stored⟩ := up
  have htable : t = checkpoints' := by
    cases stored with
    | none =>
        cases h
        rfl
    | some row =>
        obtain ⟨_, -, h⟩ := bind_eq_ok h
        cases h
        rfl
  subst htable
  cases stored with
  | none =>
      obtain ⟨-, old, -, hnone⟩ := Table.upsert_eq_none hup
      cases hnone
  | some row =>
      obtain ⟨rfl, hwhy⟩ := Table.upsert_eq_some hup
      rcases hwhy with ⟨hmissing, rfl⟩ | ⟨old, hold, hrow⟩
      · rw [hmissing]
        rfl
      · rw [hold, ← Option.some.inj hrow]
        rfl

/-- The upsert writes the row of its key and no other. -/
theorem advanceCheckpoint_ok {key : CheckpointKey} {cursor : Option String}
    {status : CheckpointStatus} {inserted : Nat} {checkpoints checkpoints' : CheckpointTable}
    {returned : Option BackfillCheckpoint}
    (h : advanceCheckpoint key cursor status inserted checkpoints = .ok (checkpoints', returned)) :
    ∃ row : BackfillCheckpoint, row.cursor = cursor ∧ row.status = status
      ∧ checkpoints'.lookup key = some row
      ∧ ∀ other, other ≠ key → checkpoints'.lookup other = checkpoints.lookup other := by
  have hinsert := advanceCheckpoint_eq h
  subst hinsert
  have hrow : (advancedRow cursor status inserted (checkpoints.lookup key)).cursor = cursor
      ∧ (advancedRow cursor status inserted (checkpoints.lookup key)).status = status := by
    cases checkpoints.lookup key with
    | none => exact ⟨rfl, rfl⟩
    | some old => exact ⟨rfl, rfl⟩
  exact ⟨_, hrow.1, hrow.2, AList.lookup_insert _, fun other hne => AList.lookup_insert_ne hne⟩

theorem mapError_eq_ok {ε ε' α : Type} {f : ε → ε'} {x : Except ε α} {a : α}
    (h : x.mapError f = .ok a) : x = .ok a := by
  cases x with
  | error e => cases h
  | ok b =>
      cases h
      rfl

theorem mapError_eq_error {ε ε' α : Type} {f : ε → ε'} {x : Except ε α} {e : ε'}
    (h : x.mapError f = .error e) : ∃ cause, x = .error cause ∧ f cause = e := by
  cases x with
  | error cause =>
      cases h
      exact ⟨cause, rfl, rfl⟩
  | ok b => cases h

/-- A committed page: the raw rows only grow and include every record, and the checkpoint of
the key, and no other, shows the cursor and the status of the page. -/
structure PageCommitted (key : BackfillRunKey) (records : List BackfillRecord)
    (nextCursor : Option String) (completed : Bool) (tables tables' : BackfillTables) : Prop where
  events : Extends tables.events tables'.events
  stored : ∀ record ∈ records, Stored tables'.events record
  checkpoint : ∃ row : BackfillCheckpoint, row.cursor = nextCursor
    ∧ row.status = statusOf completed ∧ tables'.checkpoints.lookup key.parameters = some row
  others : ∀ other, other ≠ key.parameters →
    tables'.checkpoints.lookup other = tables.checkpoints.lookup other

theorem persistPage_ok {generated : Nat → Generated} {key : BackfillRunKey}
    {records : List BackfillRecord} {nextCursor : Option String} {completed : Bool}
    {tables tables' : BackfillTables} {outcome : PageWriteOutcome}
    (h : persistPage generated key records nextCursor completed tables = .ok (outcome, tables')) :
    PageCommitted key records nextCursor completed tables tables' := by
  obtain ⟨_, -, h⟩ := bind_eq_ok h
  obtain ⟨⟨events, inserted⟩, hinsert, h⟩ := bind_eq_ok h
  obtain ⟨⟨checkpoints, row⟩, hadvance, h⟩ := bind_eq_ok h
  have htables : (⟨events, checkpoints⟩ : BackfillTables) = tables' := by
    cases row with
    | none => cases h
    | some checkpoint =>
        cases h
        rfl
  subst htables
  obtain ⟨hext, hstored⟩ := insertRecords_ok (mapError_eq_ok hinsert)
  obtain ⟨stored, hcursor, hstatus, hlookup, hothers⟩ :=
    advanceCheckpoint_ok (mapError_eq_ok hadvance)
  exact ⟨hext, hstored, ⟨stored, hcursor, hstatus, hlookup⟩, hothers⟩

/-- The checks raise `ValueError`, the statements errors of the database, and a missing row of the
upsert a `RuntimeError`. -/
theorem persistPage_error {generated : Nat → Generated} {key : BackfillRunKey}
    {records : List BackfillRecord} {nextCursor : Option String} {completed : Bool}
    {tables : BackfillTables} {e : BackfillError}
    (h : persistPage generated key records nextCursor completed tables = .error e) :
    (∃ message, e = .valueError message) ∨ (∃ cause, e = .database cause)
      ∨ ∃ message, e = .runtimeError message := by
  rcases bind_eq_error h with hcheck | ⟨_, -, h⟩
  · unfold checkPage at hcheck
    split_ifs at hcheck <;> exact Or.inl ⟨_, (Except.error.inj hcheck).symm⟩
  rcases bind_eq_error h with hinsert | ⟨⟨events, inserted⟩, -, h⟩
  · obtain ⟨cause, -, hcause⟩ := mapError_eq_error hinsert
    exact Or.inr (Or.inl ⟨cause, hcause.symm⟩)
  rcases bind_eq_error h with hadvance | ⟨⟨checkpoints, row⟩, -, h⟩
  · obtain ⟨cause, -, hcause⟩ := mapError_eq_error hadvance
    exact Or.inr (Or.inl ⟨cause, hcause.symm⟩)
  cases row with
  | none => exact Or.inr (Or.inr ⟨_, (Except.error.inj h).symm⟩)
  | some checkpoint => cases h

end Backfill
