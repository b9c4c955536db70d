import DeliveryIntelligence.AnalyticsRefresh.Models

set_option autoImplicit false

/-!
# The refresh ledger

The row of `ops.analytics_refresh_runs` for one Airflow run and the seven statements of
`analytics_refresh/storage.py` that write it. A statement maps the row (`none` before the
insert) to the row it leaves and the value of its `RETURNING`; a statement that breaks a
column type or a `CHECK` constraint is an error and is rolled back. A statement without a
returned row is committed, and the storage raises `ValueError` afterwards.

`created_at` and `updated_at` are left out: no statement reads them. The `CHECK` on the values
of `status` is the type `RunStatus`.
-/

namespace AnalyticsRefresh

open Postgres

/-- A row of `ops.analytics_refresh_runs`. -/
structure RefreshRun where
  runId : String
  dagId : String
  dagRunId : String
  logicalDate : Timestamp
  dataIntervalStart : Timestamp
  dataIntervalEnd : Timestamp
  startedAt : Timestamp
  finishedAt : Option Timestamp
  status : RunStatus
  sourceRelation : String
  sourceMaxIngestedAt : Option Timestamp
  sourceDelaySeconds : Option Int
  sourceFreshnessSummary : Option Json
  dbtInvocationId : Option String
  dbtResultSummary : Option Json
  dbtSucceededCount : Int
  dbtFailedCount : Int
  dbtSkippedCount : Int
  dbtWarningCount : Int
  dbtErrorCount : Int
  errorCategory : Option String
  errorSummary : Option String

/-! ## Constraints of the schema -/

/-- `analytics_refresh_runs_terminal_timestamp_valid` -/
def RefreshRun.terminalTimestampValid (row : RefreshRun) : Bool :=
  match row.status with
  | .running => row.finishedAt.isNone
  | .succeeded => row.finishedAt.isSome
  | .failed => row.finishedAt.isSome

/-- `analytics_refresh_runs_timestamp_order_valid` -/
def RefreshRun.timestampOrderValid (row : RefreshRun) : Bool :=
  row.finishedAt.all fun finishedAt => decide (row.startedAt ≤ finishedAt)

/-- `analytics_refresh_runs_error_state_valid` -/
def RefreshRun.errorStateValid (row : RefreshRun) : Bool :=
  row.status == .failed || (row.errorCategory.isNone && row.errorSummary.isNone)

/-- `analytics_refresh_runs_counts_nonnegative` -/
def RefreshRun.countsNonnegative (row : RefreshRun) : Bool :=
  decide (0 ≤ row.dbtSucceededCount ∧ 0 ≤ row.dbtFailedCount ∧ 0 ≤ row.dbtSkippedCount
    ∧ 0 ≤ row.dbtWarningCount ∧ 0 ≤ row.dbtErrorCount)

def refreshRunConstraints : List (Constraint RefreshRun) :=
  [ textColumn "run_id" (·.runId)
  , textColumn "dag_id" (·.dagId)
  , textColumn "dag_run_id" (·.dagRunId)
  , textColumn "source_relation" (·.sourceRelation)
  , nullable (bigintColumn "source_delay_seconds" id) (·.sourceDelaySeconds)
  , nullable (jsonbColumn "source_freshness_summary" id) (·.sourceFreshnessSummary)
  , nullable (textColumn "dbt_invocation_id" id) (·.dbtInvocationId)
  , nullable (jsonbColumn "dbt_result_summary" id) (·.dbtResultSummary)
  , integerColumn "dbt_succeeded_count" (·.dbtSucceededCount)
  , integerColumn "dbt_failed_count" (·.dbtFailedCount)
  , integerColumn "dbt_skipped_count" (·.dbtSkippedCount)
  , integerColumn "dbt_warning_count" (·.dbtWarningCount)
  , integerColumn "dbt_error_count" (·.dbtErrorCount)
  , nullable (textColumn "error_category" id) (·.errorCategory)
  , nullable (textColumn "error_summary" id) (·.errorSummary)
  , nonemptyCheck "analytics_refresh_runs_run_id_nonempty" (·.runId)
  , nonemptyCheck "analytics_refresh_runs_dag_id_nonempty" (·.dagId)
  , nonemptyCheck "analytics_refresh_runs_dag_run_id_nonempty" (·.dagRunId)
  , nonemptyCheck "analytics_refresh_runs_source_relation_nonempty" (·.sourceRelation)
  , ⟨.check "analytics_refresh_runs_interval_valid",
      fun row => decide (row.dataIntervalStart ≤ row.dataIntervalEnd)⟩
  , ⟨.check "analytics_refresh_runs_terminal_timestamp_valid",
      RefreshRun.terminalTimestampValid⟩
  , ⟨.check "analytics_refresh_runs_timestamp_order_valid", RefreshRun.timestampOrderValid⟩
  , ⟨.check "analytics_refresh_runs_source_delay_nonnegative",
      fun row => row.sourceDelaySeconds.all fun delay => decide (0 ≤ delay)⟩
  , ⟨.check "analytics_refresh_runs_counts_nonnegative", RefreshRun.countsNonnegative⟩
  , ⟨.check "analytics_refresh_runs_error_state_valid", RefreshRun.errorStateValid⟩ ]

/-! ## Statements -/

/-- The row after a statement and the run id it returns. -/
abbrev Statement := Option RefreshRun → Except Error (Option RefreshRun × Option String)

/-- `UPDATE ops.analytics_refresh_runs SET .. WHERE run_id = .. AND status IN guard RETURNING
run_id` -/
def updateRun (guard : List RunStatus) (set : RefreshRun → Except Error RefreshRun) : Statement
  | none => .ok (none, none)
  | some row =>
      if row.status ∈ guard then do
        let new ← set row
        enforce refreshRunConstraints new
        return (some new, some new.runId)
      else .ok (some row, none)

section

variable (sha256Hex : String → String) {dagId dagRunId : String}

/-- The `VALUES` of `_BEGIN_RUN`. -/
def newRun (identity : RefreshRunIdentity dagId dagRunId) (startedAt : Timestamp)
    (sourceRelation : String) : RefreshRun where
  runId := runId sha256Hex dagId dagRunId
  dagId := dagId
  dagRunId := dagRunId
  logicalDate := identity.logicalDate
  dataIntervalStart := identity.dataIntervalStart
  dataIntervalEnd := identity.dataIntervalEnd
  startedAt := startedAt
  finishedAt := none
  status := .running
  sourceRelation := sourceRelation
  sourceMaxIngestedAt := none
  sourceDelaySeconds := none
  sourceFreshnessSummary := none
  dbtInvocationId := none
  dbtResultSummary := none
  dbtSucceededCount := 0
  dbtFailedCount := 0
  dbtSkippedCount := 0
  dbtWarningCount := 0
  dbtErrorCount := 0
  errorCategory := none
  errorSummary := none

/-- `_BEGIN_RUN`: the proposed row is checked before the conflict is looked up. -/
def beginRunStatement (identity : RefreshRunIdentity dagId dagRunId) (startedAt : Timestamp)
    (sourceRelation : String) : Statement := fun ledger => do
  let new := newRun sha256Hex identity startedAt sourceRelation
  enforce refreshRunConstraints new
  match ledger with
  | none => return (some new, some new.runId)
  -- `ON CONFLICT .. DO UPDATE .. WHERE`: the three key columns stay.
  | some row =>
      updateRun [.running, .failed]
        (fun row => .ok { new with
          runId := row.runId
          dagId := row.dagId
          dagRunId := row.dagRunId })
        (some row)

end

/-- `_RECORD_SOURCE` -/
def recordSourceStatement (summary : DbtResultSummary) : Statement :=
  updateRun [.running] fun row => .ok { row with
    sourceFreshnessSummary := some summary.artifact
    dbtInvocationId := summary.invocationId.or row.dbtInvocationId }

/-- `_RECORD_WATERMARK` -/
def recordWatermarkStatement (watermark : SourceWatermark) : Statement :=
  updateRun [.running] fun row => .ok { row with
    sourceMaxIngestedAt := watermark.maximumIngestedAt
    sourceDelaySeconds := watermark.delaySeconds }

/-- `_RECORD_BUILD` -/
def recordBuildStatement (summary : DbtResultSummary) : Statement :=
  updateRun [.running] fun row => .ok { row with
    dbtInvocationId := summary.invocationId
    dbtResultSummary := some summary.artifact
    dbtSucceededCount := summary.succeeded
    dbtFailedCount := summary.failed
    dbtSkippedCount := summary.skipped
    dbtWarningCount := summary.warnings
    dbtErrorCount := summary.errors }

/-- `_RESUME_BUILD` -/
def resumeBuildStatement : Statement :=
  updateRun [.running, .failed] fun row => .ok { row with
    status := .running
    finishedAt := none
    errorCategory := none
    errorSummary := none }

/-- `_FINISH_SUCCESS` -/
def finishSuccessStatement (finishedAt : Timestamp) : Statement :=
  updateRun [.running, .succeeded] fun row => .ok { row with
    status := .succeeded
    finishedAt := some finishedAt }

/-- `_FINISH_FAILURE`; `COALESCE` is `Option.or`, and the parameters of a missing summary are
null. -/
def finishFailureStatement (finishedAt : Timestamp) (category errorSummary : String)
    (summary : Option DbtResultSummary) : Statement :=
  updateRun [.running, .failed] fun row => do
    -- Of two failures the first one keeps its category and summary.
    let stored ← varchar 1000 "error_summary" (row.errorSummary.getD errorSummary)
    return { row with
      status := .failed
      -- `GREATEST`
      finishedAt := some (max finishedAt row.startedAt)
      dbtInvocationId := (summary.bind (·.invocationId)).or row.dbtInvocationId
      dbtResultSummary := (summary.map (·.artifact)).or row.dbtResultSummary
      dbtSucceededCount := (summary.map (·.succeeded)).getD row.dbtSucceededCount
      dbtFailedCount := (summary.map (·.failed)).getD row.dbtFailedCount
      dbtSkippedCount := (summary.map (·.skipped)).getD row.dbtSkippedCount
      dbtWarningCount := (summary.map (·.warnings)).getD row.dbtWarningCount
      dbtErrorCount := (summary.map (·.errors)).getD row.dbtErrorCount
      errorCategory := row.errorCategory.or (some category)
      errorSummary := some stored }

/-! ## Storage calls -/

/-- Why a storage call raises. -/
inductive Failure
  | valueError (message : String)
  | database (error : Error)
  /-- the transaction aborts for a reason outside the statement -/
  | aborted
  deriving DecidableEq, Repr

/-- A storage call on the ledger row of one Airflow run. -/
inductive Call (dagId dagRunId : String)
  | beginRun (identity : RefreshRunIdentity dagId dagRunId) (startedAt : Timestamp)
      (sourceRelation : String)
  | recordSource (summary : DbtResultSummary)
  | recordWatermark (watermark : SourceWatermark)
  | recordBuild (summary : DbtResultSummary)
  | resumeBuild
  | finishSuccess (finishedAt : Timestamp)
  | finishFailure (finishedAt : Timestamp) (category errorSummary : String)
      (summary : Option DbtResultSummary)

section

variable (sha256Hex : String → String) {dagId dagRunId : String}

def Call.statement : Call dagId dagRunId → Statement
  | .beginRun identity startedAt sourceRelation =>
      beginRunStatement sha256Hex identity startedAt sourceRelation
  | .recordSource summary => recordSourceStatement summary
  | .recordWatermark watermark => recordWatermarkStatement watermark
  | .recordBuild summary => recordBuildStatement summary
  | .resumeBuild => resumeBuildStatement
  | .finishSuccess finishedAt => finishSuccessStatement finishedAt
  | .finishFailure finishedAt category errorSummary summary =>
      finishFailureStatement finishedAt category errorSummary summary

/-- The message a call raises when its statement returns no row. -/
def Call.rejection : Call dagId dagRunId → String
  | .beginRun _ _ _ => "a succeeded analytics refresh run cannot be restarted"
  | _ => "analytics refresh state transition was rejected"

/-- The row a call leaves and the run id it returns, or why it raises. The transaction of
`_execute_one` is over when the returned row is examined. -/
def Call.run (c : Call dagId dagRunId) (ledger : Option RefreshRun) :
    Option RefreshRun × Except Failure String :=
  match c.statement sha256Hex ledger with
  | .error e => (ledger, .error (.database e))
  | .ok (ledger', none) => (ledger', .error (.valueError c.rejection))
  | .ok (ledger', some id) => (ledger', .ok id)

end

/-- A call and whether its transaction aborts for a reason the statement does not explain. -/
structure Attempt (dagId dagRunId : String) where
  call : Call dagId dagRunId
  aborts : Bool

section

variable (sha256Hex : String → String) {dagId dagRunId : String}

def Attempt.run (a : Attempt dagId dagRunId) (ledger : Option RefreshRun) :
    Option RefreshRun × Except Failure String :=
  if a.aborts then (ledger, .error .aborted) else a.call.run sha256Hex ledger

/-- The row after a sequence of attempts. -/
def runAll (attempts : List (Attempt dagId dagRunId)) (ledger : Option RefreshRun) :
    Option RefreshRun :=
  attempts.foldl (fun ledger a => (a.run sha256Hex ledger).1) ledger

end

end AnalyticsRefresh
