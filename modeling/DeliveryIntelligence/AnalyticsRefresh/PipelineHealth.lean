import DeliveryIntelligence.AnalyticsRefresh.Ledger
import DeliveryIntelligence.Common.Datetime
import DeliveryIntelligence.Library.DataTests

set_option autoImplicit false

/-!
# The health mart

`fct_pipeline_health_runs` over the ledger of all runs, with the data tests `_github__marts.yml`
declares for it. Whatever was attempted on the ledger, all of them pass but the uniqueness of
`dag_run_id`, which the table does not promise across DAGs (`pipeline_health_tested`).
-/

namespace AnalyticsRefresh

open Postgres Query

/-- A row of `fct_pipeline_health_runs`. -/
structure PipelineHealthRun where
  runId : String
  dagRunId : String
  logicalDate : Timestamp
  dataIntervalStart : Timestamp
  dataIntervalEnd : Timestamp
  startedAt : Timestamp
  finishedAt : Option Timestamp
  durationSeconds : Option Int
  runStatus : RunStatus
  sourceRelation : String
  sourceWatermark : Option Timestamp
  sourceDelaySeconds : Option Int
  dbtInvocationId : Option String
  dbtSucceededCount : Int
  dbtFailedCount : Int
  dbtSkippedCount : Int
  dbtWarningCount : Int
  dbtErrorCount : Int
  errorCategory : Option String
  errorSummary : Option String
  isLatestSuccessfulRun : Truth

/-- `latest_success` -/
def latestSuccessFinishedAt (runs : List RefreshRun) : Option Timestamp :=
  maximum compare ((runs.filter fun run => run.status = .succeeded).map (·.finishedAt))

/-- The final `select`, for one run. -/
def pipelineHealthRun (latestSuccess : Option Timestamp) (run : RefreshRun) :
    PipelineHealthRun where
  runId := run.runId
  dagRunId := run.dagRunId
  logicalDate := run.logicalDate
  dataIntervalStart := run.dataIntervalStart
  dataIntervalEnd := run.dataIntervalEnd
  startedAt := run.startedAt
  finishedAt := run.finishedAt
  -- `floor(extract(epoch from ..))::bigint`
  durationSeconds := run.finishedAt.map fun finishedAt =>
    (finishedAt - run.startedAt) / Datetime.microsPerSecond
  runStatus := run.status
  sourceRelation := run.sourceRelation
  sourceWatermark := run.sourceMaxIngestedAt
  sourceDelaySeconds := run.sourceDelaySeconds
  dbtInvocationId := run.dbtInvocationId
  dbtSucceededCount := run.dbtSucceededCount
  dbtFailedCount := run.dbtFailedCount
  dbtSkippedCount := run.dbtSkippedCount
  dbtWarningCount := run.dbtWarningCount
  dbtErrorCount := run.dbtErrorCount
  errorCategory := run.errorCategory
  errorSummary := run.errorSummary
  isLatestSuccessfulRun :=
    both (some (run.status = .succeeded)) (equal run.finishedAt latestSuccess)

def fctPipelineHealthRuns (runs : List RefreshRun) : List PipelineHealthRun :=
  runs.map (pipelineHealthRun (latestSuccessFinishedAt runs))

/-! ## The declared tests -/

/-- The uniqueness of `dag_run_id`. -/
def uniqueDagRunId : DataTest (List PipelineHealthRun) := unique "dag_run_id" (some ·.dagRunId)

/-- The tests of `_github__marts.yml` on the model. -/
def pipelineHealthTests : List (DataTest (List PipelineHealthRun)) :=
  [ expressionIsTrue "duration_seconds is null or duration_seconds >= 0" fun run =>
      either (some run.durationSeconds.isNone) (atMost (some 0) run.durationSeconds)
  , expressionIsTrue "finished_at is null or finished_at >= started_at" fun run =>
      either (some run.finishedAt.isNone) (atMost (some run.startedAt) run.finishedAt)
  , notNull "run_id" (some ·.runId)
  , unique "run_id" (some ·.runId)
  , notNull "dag_run_id" (some ·.dagRunId)
  , uniqueDagRunId
  , notNull "logical_date" (some ·.logicalDate)
  , notNull "data_interval_start" (some ·.dataIntervalStart)
  , notNull "data_interval_end" (some ·.dataIntervalEnd)
  , notNull "started_at" (some ·.startedAt)
  , notNull "run_status" (some ·.runStatus)
  , acceptedValues "run_status" (some ·.runStatus.text) ["running", "succeeded", "failed"]
  , notNull "source_relation" (some ·.sourceRelation)
  , notNull "dbt_succeeded_count" (some ·.dbtSucceededCount)
  , notNull "dbt_failed_count" (some ·.dbtFailedCount)
  , notNull "dbt_skipped_count" (some ·.dbtSkippedCount)
  , notNull "dbt_warning_count" (some ·.dbtWarningCount)
  , notNull "dbt_error_count" (some ·.dbtErrorCount)
  , notNull "is_latest_successful_run" (·.isLatestSuccessfulRun) ]

/-! ## The latest successful run -/

section

variable {runs : List RefreshRun} {run : RefreshRun}

theorem exists_finishedAt (hvalid : run.Valid) (hs : run.status = .succeeded) :
    ∃ finishedAt, run.finishedAt = some finishedAt := by
  rw [← Option.ne_none_iff_exists']
  intro hnone
  have hrunning := (finished_iff (enforce_iff_valid.mpr hvalid)).mp hnone
  rw [hs] at hrunning
  cases hrunning

/-- The end of a succeeded run is one of those the latest success is taken from. -/
theorem mem_successes (hrun : run ∈ runs) (hs : run.status = .succeeded) {finishedAt : Timestamp}
    (hend : run.finishedAt = some finishedAt) :
    some finishedAt
      ∈ (runs.filter fun run => run.status = .succeeded).map (·.finishedAt) :=
  List.mem_map.mpr ⟨run, List.mem_filter.mpr ⟨hrun, decide_eq_true hs⟩, hend⟩

/-- The flag of a run is never unknown. -/
theorem isLatest_isSome (hvalid : ∀ run ∈ runs, run.Valid) (hrun : run ∈ runs) :
    (pipelineHealthRun (latestSuccessFinishedAt runs) run).isLatestSuccessfulRun.isSome := by
  unfold pipelineHealthRun
  by_cases hs : run.status = .succeeded
  · obtain ⟨finishedAt, hend⟩ := exists_finishedAt (hvalid run hrun) hs
    obtain ⟨latest, hlatest⟩ := exists_maximum (mem_successes hrun hs hend)
    have hsuccess : latestSuccessFinishedAt runs = some latest := hlatest
    rw [hsuccess, hend, decide_eq_true hs]
    rfl
  · rw [decide_eq_false hs]
    rfl

theorem isLatest_iff (hvalid : ∀ run ∈ runs, run.Valid) (hrun : run ∈ runs) :
    (pipelineHealthRun (latestSuccessFinishedAt runs) run).isLatestSuccessfulRun = some true
      ↔ run.status = .succeeded ∧ ∀ other ∈ runs, other.status = .succeeded →
        holds (atMost other.finishedAt run.finishedAt) = true := by
  have hflag : (pipelineHealthRun (latestSuccessFinishedAt runs) run).isLatestSuccessfulRun
        = some true
      ↔ run.status = .succeeded
        ∧ holds (equal run.finishedAt (latestSuccessFinishedAt runs)) = true := by
    rw [show ∀ t : Truth, t = some true ↔ holds t = true from fun t => by simp [holds]]
    simp [pipelineHealthRun]
  rw [hflag]
  constructor
  · rintro ⟨hs, hequal⟩
    obtain ⟨latest, hend, hlatest⟩ := holds_equal.mp hequal
    refine ⟨hs, fun other hother hs' => ?_⟩
    obtain ⟨finishedAt, hend'⟩ := exists_finishedAt (hvalid other hother) hs'
    exact holds_atMost.mpr ⟨finishedAt, latest, hend', hend,
      (isGreatest_maximum hlatest).2 (mem_successes hother hs' hend')⟩
  · rintro ⟨hs, hall⟩
    refine ⟨hs, ?_⟩
    obtain ⟨finishedAt, hend⟩ := exists_finishedAt (hvalid run hrun) hs
    obtain ⟨latest, hlatest⟩ := exists_maximum (mem_successes hrun hs hend)
    -- the latest end is that of some succeeded run, which this one does not precede
    obtain ⟨hmem, hgreatest⟩ := isGreatest_maximum hlatest
    obtain ⟨other, hother, hend'⟩ := List.mem_map.mp hmem
    obtain ⟨hother, hs'⟩ := List.mem_filter.mp hother
    obtain ⟨x, y, hx, hy, hle⟩ := holds_atMost.mp (hall other hother (of_decide_eq_true hs'))
    rw [hend'] at hx
    rw [hend] at hy
    cases hx
    cases hy
    have hge : finishedAt ≤ latest := hgreatest (mem_successes hrun hs hend)
    exact holds_equal.mpr ⟨latest, hend.trans (congrArg some (le_antisymm hge hle)), hlatest⟩

end

/-! ## The tests pass -/

theorem started_le_of_mem {run : RefreshRun} (hvalid : run.Valid) :
    ∀ finishedAt ∈ run.finishedAt, run.startedAt ≤ finishedAt := by
  intro finishedAt hend
  have horder := hvalid.state.order
  unfold RefreshRun.timestampOrderValid at horder
  rw [Option.mem_def.mp hend] at horder
  exact of_decide_eq_true horder

/-- `value is null or condition` is not false if the condition holds of the value. -/
theorem either_isNone_ne_false {value : Option Int} {condition : Truth}
    (h : ∀ v ∈ value, condition = some true) :
    either (some value.isNone) condition ≠ some false := by
  cases value with
  | none => exact fun hfalse => nomatch hfalse
  | some v =>
      rw [h v rfl]
      exact fun hfalse => nomatch hfalse

section

variable {runs : List RefreshRun}

theorem nonneg_duration (hvalid : ∀ run ∈ runs, run.Valid) :
    ∀ row ∈ fctPipelineHealthRuns runs,
      either (some row.durationSeconds.isNone) (atMost (some 0) row.durationSeconds)
        ≠ some false := by
  intro row hrow
  obtain ⟨run, hrun, rfl⟩ := List.mem_map.mp hrow
  refine either_isNone_ne_false fun seconds hseconds => ?_
  obtain ⟨finishedAt, hend, rfl⟩ := Option.map_eq_some_iff.mp hseconds
  have hle := started_le_of_mem (hvalid run hrun) finishedAt hend
  have hnonneg : 0 ≤ (finishedAt - run.startedAt) / Datetime.microsPerSecond :=
    Int.ediv_nonneg (sub_nonneg.mpr hle) (by decide)
  rw [Option.mem_def.mp hseconds]
  exact congrArg some (decide_eq_true hnonneg)

theorem ordered_end (hvalid : ∀ run ∈ runs, run.Valid) :
    ∀ row ∈ fctPipelineHealthRuns runs,
      either (some row.finishedAt.isNone) (atMost (some row.startedAt) row.finishedAt)
        ≠ some false := by
  intro row hrow
  obtain ⟨run, hrun, rfl⟩ := List.mem_map.mp hrow
  refine either_isNone_ne_false fun finishedAt hend => ?_
  have hle := started_le_of_mem (hvalid run hrun) finishedAt hend
  rw [Option.mem_def.mp hend]
  exact congrArg some (decide_eq_true hle)

theorem status_accepted (row : PipelineHealthRun) :
    row.runStatus.text ∈ ["running", "succeeded", "failed"] := by
  cases row.runStatus with
  | running => decide
  | succeeded => decide
  | failed => decide

theorem flag_known (hvalid : ∀ run ∈ runs, run.Valid) :
    ∀ row ∈ fctPipelineHealthRuns runs, row.isLatestSuccessfulRun.isSome := by
  intro row hrow
  obtain ⟨run, hrun, rfl⟩ := List.mem_map.mp hrow
  exact isLatest_isSome hvalid hrun

/-- A column the mart takes over from the ledger has the repetitions it has there. -/
theorem map_fctPipelineHealthRuns {α : Type} {column : PipelineHealthRun → α}
    {source : RefreshRun → α}
    (hsource : ∀ latest run, column (pipelineHealthRun latest run) = source run) :
    (fctPipelineHealthRuns runs).map column = runs.map source := by
  rw [fctPipelineHealthRuns, List.map_map]
  exact List.map_congr_left fun run _ => hsource _ run

end

/-! ## The ledger the mart is built from -/

section

variable {table : RunsTable}

theorem RunsKept.mem_rows (h : RunsKept table) {run : RefreshRun}
    (hrun : run ∈ table.rows.map Prod.snd) : table.lookup run.runId = some run := by
  obtain ⟨⟨k, row⟩, hentry, rfl⟩ := List.mem_map.mp hrun
  have hlookup := Table.mem_rows.mp hentry
  rw [h.keyed k row hlookup]
  exact hlookup

theorem RunsKept.valid_rows (h : RunsKept table) :
    ∀ run ∈ table.rows.map Prod.snd, run.Valid :=
  fun _ hrun => h.valid _ _ (h.mem_rows hrun)

theorem RunsKept.nodup_runId (h : RunsKept table) :
    ((table.rows.map Prod.snd).map (·.runId)).Nodup := by
  have hkeys : (table.rows.map Prod.snd).map (·.runId) = table.rows.map Prod.fst := by
    rw [List.map_map]
    exact List.map_congr_left fun entry hentry => h.keyed _ _ (Table.mem_rows.mp hentry)
  rw [hkeys]
  exact Table.nodup_fst_rows table

/-- The names of a run tell its run id, so a `dag_run_id` is repeated exactly across DAGs. -/
theorem RunsKept.nodup_dagRunId_iff (h : RunsKept table) :
    ((table.rows.map Prod.snd).map (·.dagRunId)).Nodup
      ↔ ∀ run ∈ table.rows.map Prod.snd, ∀ other ∈ table.rows.map Prod.snd,
        run.dagRunId = other.dagRunId → run.dagId = other.dagId := by
  rw [nodup_map_iff_of_key h.nodup_runId]
  refine forall₂_congr fun run hrun => forall₂_congr fun other hother => ?_
  refine forall_congr' fun hsame => ?_
  constructor
  · intro hid
    have hrow := h.mem_rows hrun
    rw [hid, h.mem_rows hother] at hrow
    cases hrow
    rfl
  · intro hdag
    exact h.names _ _ run other (h.mem_rows hrun) (h.mem_rows hother) hdag hsame

end

/-- **The declared tests.** Behind any attempts of any runs the tests of the health mart pass,
except that `dag_run_id` is unique exactly if no two DAGs use one `dag_run_id`; and the flag marks
the succeeded runs that no other succeeded run ended after. -/
theorem pipeline_health_tested (sha256Hex : String → String) (attempts : List RunAttempt) :
    let runs := (runTable sha256Hex attempts).rows.map Prod.snd
    let model := fctPipelineHealthRuns runs
    (∀ test ∈ pipelineHealthTests, test.name ≠ uniqueDagRunId.name → test.passes model)
    ∧ (uniqueDagRunId.passes model
        ↔ ∀ run ∈ runs, ∀ other ∈ runs, run.dagRunId = other.dagRunId → run.dagId = other.dagId)
    ∧ ∀ run ∈ runs,
        (pipelineHealthRun (latestSuccessFinishedAt runs) run).isLatestSuccessfulRun = some true
          ↔ run.status = .succeeded ∧ ∀ other ∈ runs, other.status = .succeeded →
            holds (atMost other.finishedAt run.finishedAt) = true := by
  intro runs model
  have hkept : RunsKept (runTable sha256Hex attempts) := kept_runTable attempts
  have hvalid : ∀ run ∈ runs, run.Valid := hkept.valid_rows
  refine ⟨?_, ?_, fun run hrun => isLatest_iff hvalid hrun⟩
  · have hids : (model.map (·.runId)).Nodup := by
      have hmap : model.map (·.runId) = runs.map (·.runId) :=
        map_fctPipelineHealthRuns fun _ _ => rfl
      rw [hmap]
      exact hkept.nodup_runId
    simp only [pipelineHealthTests, List.forall_mem_cons, List.not_mem_nil, IsEmpty.forall_iff,
      implies_true, and_true, true_and, expressionIsTrue_passes_iff, notNull_passes_iff,
      unique_some_passes_iff, acceptedValues_passes_iff, Option.isSome_some, Option.mem_def,
      Option.some.injEq, forall_eq']
    exact ⟨fun _ => nonneg_duration hvalid, fun _ => ordered_end hvalid, fun _ => hids,
      fun hname => absurd rfl hname, fun _ row _ => status_accepted row,
      fun _ => flag_known hvalid⟩
  · unfold uniqueDagRunId
    rw [unique_some_passes_iff, map_fctPipelineHealthRuns fun _ _ => rfl]
    exact hkept.nodup_dagRunId_iff

end AnalyticsRefresh
