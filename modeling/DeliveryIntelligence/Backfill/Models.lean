import DeliveryIntelligence.Common.Datetime
import DeliveryIntelligence.Common.Json
import DeliveryIntelligence.Common.Python

set_option autoImplicit false

/-!
# Run keys, checkpoints and records of the backfills

`backfill/models.py` and the summary of `backfill/github.py`. What a constructor checks is a
field of the structure it returns, so a key or a record that breaks it cannot be built.
-/

namespace Backfill

open Datetime Postgres

/-- How a backfill may fail. -/
inductive BackfillError
  | valueError (message : String)
  | graphQLDataError (message : String)
  | restDataError (message : String)
  | runtimeError (message : String)
  /-- a statement is rejected by the database -/
  | database (error : Postgres.Error)
  /-- any other exception of the API client or the database driver -/
  | external
  | interrupted
  deriving DecidableEq, Repr

/-- Lifecycle of one bounded resource traversal. -/
inductive CheckpointStatus
  | inProgress
  | completed
  deriving DecidableEq, Repr

/-- A half-open time window; both ends are timezone-aware. -/
structure Window where
  windowStart : Aware
  windowEnd : Aware

/-- `_in_window` -/
def Window.contains (window : Window) (value : Aware) : Prop :=
  window.windowStart.instant ≤ value.instant ∧ value.instant < window.windowEnd.instant

instance (window : Window) (value : Aware) : Decidable (window.contains value) :=
  inferInstanceAs (Decidable (_ ∧ _))

theorem Window.contains_congr {window window' : Window} {value : Aware}
    (hstart : window.windowStart.instant = window'.windowStart.instant)
    (hend : window.windowEnd.instant = window'.windowEnd.instant) :
    window.contains value ↔ window'.contains value := by
  unfold Window.contains
  rw [hstart, hend]

/-- The arguments of `BackfillRunKey`. -/
structure RunKeyFields where
  repositoryId : Int
  resource : String
  scope : String
  window : Window

/-- Identity of one repository resource traversal and time window. -/
structure BackfillRunKey extends RunKeyFields where
  repositoryId_pos : 0 < repositoryId
  texts_nonempty : Python.hasText resource = true ∧ Python.hasText scope = true
  window_ordered : window.windowStart.instant < window.windowEnd.instant

/-- `BackfillRunKey.__post_init__`: the check of `tzinfo` has nothing to reject here. -/
def BackfillRunKey.postInit (f : RunKeyFields) : Except BackfillError BackfillRunKey :=
  if hid : 0 < f.repositoryId then
    if htext : Python.hasText f.resource = true ∧ Python.hasText f.scope = true then
      if hwindow : f.window.windowStart.instant < f.window.windowEnd.instant then
        .ok ⟨f, hid, htext, hwindow⟩
      else .error (.valueError "backfill window_start must precede window_end")
    else .error (.valueError "resource and scope must be nonempty")
  else .error (.valueError "repository_id must be positive")

theorem BackfillRunKey.postInit_ok {f : RunKeyFields} {key : BackfillRunKey}
    (h : BackfillRunKey.postInit f = .ok key) : key.toRunKeyFields = f := by
  unfold BackfillRunKey.postInit at h
  split at h
  · split at h
    · split at h
      · cases h
        rfl
      · cases h
    · cases h
  · cases h

/-- Durable cursor and progress counters for one run key. -/
structure BackfillCheckpoint where
  cursor : Option String
  status : CheckpointStatus
  pagesCompleted : Int
  recordsInserted : Int
  deriving DecidableEq, Repr

/-- `checkpoint is not None and checkpoint.status is CheckpointStatus.COMPLETED` -/
def isCompleted : Option BackfillCheckpoint → Bool
  | none => false
  | some checkpoint => checkpoint.status == .completed

/-- The arguments of `BackfillRecord`. -/
structure RecordFields where
  sourceRecordKey : String
  eventName : String
  action : String
  repositoryId : Int
  installationId : Int
  occurredAt : Option Aware
  payload : Json

/-- One append-only GitHub resource snapshot ready for raw storage. -/
structure BackfillRecord extends RecordFields where
  identities_pos : 0 < repositoryId ∧ 0 < installationId
  texts_nonempty : Python.hasText sourceRecordKey = true ∧ Python.hasText eventName = true
    ∧ Python.hasText action = true

/-- `BackfillRecord.__post_init__` -/
def BackfillRecord.postInit (f : RecordFields) : Except BackfillError BackfillRecord :=
  if hid : 0 < f.repositoryId ∧ 0 < f.installationId then
    if htext : Python.hasText f.sourceRecordKey = true ∧ Python.hasText f.eventName = true
        ∧ Python.hasText f.action = true then
      .ok ⟨f, hid, htext⟩
    else .error (.valueError "backfill record identity and routing fields must be nonempty")
  else .error (.valueError "GitHub repository and installation identities must be positive")

/-- Durable result of inserting one API page and advancing its cursor. -/
structure PageWriteOutcome where
  inserted : Nat
  duplicates : Nat
  checkpoint : BackfillCheckpoint

/-- Work performed by one invocation. -/
structure BackfillSummary where
  pagesPersisted : Nat
  recordsInserted : Nat
  duplicatesAbsorbed : Nat
  deriving DecidableEq, Repr

def BackfillSummary.zero : BackfillSummary := ⟨0, 0, 0⟩

/-- Combine nested and repository traversal evidence. -/
def BackfillSummary.plus (a b : BackfillSummary) : BackfillSummary where
  pagesPersisted := a.pagesPersisted + b.pagesPersisted
  recordsInserted := a.recordsInserted + b.recordsInserted
  duplicatesAbsorbed := a.duplicatesAbsorbed + b.duplicatesAbsorbed

/-- `_summary` -/
def PageWriteOutcome.summary (outcome : PageWriteOutcome) : BackfillSummary where
  pagesPersisted := 1
  recordsInserted := outcome.inserted
  duplicatesAbsorbed := outcome.duplicates

end Backfill
