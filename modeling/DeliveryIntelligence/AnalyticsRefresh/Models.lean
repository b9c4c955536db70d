import DeliveryIntelligence.Common.Json
import DeliveryIntelligence.Common.Python

set_option autoImplicit false

/-!
# Refresh runs: states, identities and summaries

`analytics_refresh/models.py`. The checks of the `__post_init__` methods are fields of the
structures, so that a rejected value cannot be built.
-/

namespace AnalyticsRefresh

open Postgres

/-- Durable analytics refresh states. -/
inductive RunStatus
  | running
  | succeeded
  | failed
  deriving DecidableEq, Repr

/-- The value of a `RunStatus`. -/
def RunStatus.text : RunStatus → String
  | .running => "running"
  | .succeeded => "succeeded"
  | .failed => "failed"

/-- `_ALLOWED_TRANSITIONS` -/
def allowedTransitions : RunStatus → List RunStatus
  | .running => [.running, .succeeded, .failed]
  | .failed => [.running, .failed]
  | .succeeded => [.succeeded]

/-- Reject state regressions while allowing retry and idempotent writes. -/
def validateTransition (current target : RunStatus) : Except String Unit :=
  if target ∈ allowedTransitions current then .ok ()
  else .error s!"invalid analytics refresh transition: {current.text} -> {target.text}"

/-- `RefreshRunIdentity` of the Airflow run `dagRunId` of `dagId`. Its timestamps are
timezone-aware, so they stand for instants. -/
structure RefreshRunIdentity (dagId dagRunId : String) where
  logicalDate : Timestamp
  dataIntervalStart : Timestamp
  dataIntervalEnd : Timestamp
  names_nonempty : Python.hasText dagId = true ∧ Python.hasText dagRunId = true
  interval_ordered : dataIntervalStart ≤ dataIntervalEnd

/-- `RefreshRunIdentity.run_id`; `sha256Hex` is the hex digest of `hashlib.sha256`. -/
def runId (sha256Hex : String → String) (dagId dagRunId : String) : String :=
  "analytics-refresh-" ++ sha256Hex (dagId ++ String.singleton (Char.ofNat 0) ++ dagRunId)

/-- Newest raw ingestion timestamp and its age at refresh start. -/
structure SourceWatermark where
  maximumIngestedAt : Option Timestamp
  delaySeconds : Option Int
  delay_nonneg : ∀ delay ∈ delaySeconds, 0 ≤ delay

/-- Sanitized bounded dbt artifact summary safe for the ops ledger. -/
structure DbtResultSummary where
  invocationId : Option String
  succeeded : Int
  failed : Int
  skipped : Int
  warnings : Int
  errors : Int
  artifact : Json
  counts_nonneg : 0 ≤ succeeded ∧ 0 ≤ failed ∧ 0 ≤ skipped ∧ 0 ≤ warnings ∧ 0 ≤ errors

end AnalyticsRefresh
