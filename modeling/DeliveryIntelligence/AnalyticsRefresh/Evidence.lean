import DeliveryIntelligence.AnalyticsRefresh.Service

set_option autoImplicit false

/-!
# The evidence of a build

The columns of the dbt result are written by `_RECORD_BUILD` and `_FINISH_FAILURE` and reset by
`_BEGIN_RUN` only: `_RESUME_BUILD` keeps them, and `COALESCE` does for a failure without a
summary. So a call of `build` leaves the evidence of its own command exactly if it stores it, or
the row held the same evidence before (`evidence_own_iff`).
-/

namespace AnalyticsRefresh

open Postgres Python

/-- The columns of the dbt result. -/
structure Evidence where
  dbtResultSummary : Option Json
  dbtSucceededCount : Int
  dbtFailedCount : Int
  dbtSkippedCount : Int
  dbtWarningCount : Int
  dbtErrorCount : Int

def RefreshRun.evidence (row : RefreshRun) : Evidence :=
  ⟨row.dbtResultSummary, row.dbtSucceededCount, row.dbtFailedCount, row.dbtSkippedCount,
    row.dbtWarningCount, row.dbtErrorCount⟩

def DbtResultSummary.evidence (summary : DbtResultSummary) : Evidence :=
  ⟨some summary.artifact, summary.succeeded, summary.failed, summary.skipped, summary.warnings,
    summary.errors⟩

def noEvidence : Evidence := ⟨none, 0, 0, 0, 0, 0⟩

/-- The summary a dbt command returned or failed with. -/
def ownSummary : Except Raised ArtifactSummary → Option ArtifactSummary
  | .ok summary => some summary
  | .error error => error.summary

/-- The columns are those of the summary, or null and zero without one. -/
def EvidenceOf (summary : Option ArtifactSummary) (row : RefreshRun) : Prop :=
  match summary with
  | none => row.evidence = noEvidence
  | some found => ∃ stored, found.stored = some stored ∧ row.evidence = stored.evidence

/-- The result has a summary, and it fits the columns it is stored in. -/
def Stores (result : Except Raised ArtifactSummary) : Prop :=
  (∃ summary, ownSummary result = some summary ∧ summary.Fits)
    ∧ ∀ error, result = .error error → FailureFits error error.summary

/-! ## The statements of a build -/

section

variable (sha256Hex : String → String) (describe : Failure → List Nat) (dagId dagRunId : String)
  {row : RefreshRun}

theorem perform_resumeBuild (hvalid : row.Valid) (hopen : row.status ≠ .succeeded) :
    perform sha256Hex describe (some (.resumeBuild : Call dagId dagRunId)) (some row)
      = (some row.resumed, .ok ()) := by
  have hguard := RunStatus.mem_of_ne_succeeded hopen
  have hrun : resumeBuildStatement (some row) = .ok (some row.resumed, some row.runId) :=
    updateRun_of_valid hguard rfl (valid_resumed hvalid)
  exact perform_of_ok hrun

/-- On a running row the summary of a build is stored if it fits; any other one leaves the row and
raises. -/
theorem recordBuild_running (hvalid : row.Valid) (hs : row.status = .running)
    (summary : ArtifactSummary) :
    (summary.Fits ∧ ∃ stored, summary.stored = some stored
      ∧ recordBuild sha256Hex describe dagId dagRunId summary (some row)
        = (some (row.withBuild stored), .ok ()))
    ∨ ¬ summary.Fits ∧ ∃ message,
      recordBuild sha256Hex describe dagId dagRunId summary (some row)
        = (some row, .error (.other message)) := by
  rcases perform_summary_cases Call.recordBuild row.withBuild hs (fun _ => rfl) summary with
    ⟨stored, hstored, hnew, hrun⟩ | ⟨hnot, message, hrun⟩
  · have hfits : stored.Fits := (valid_withBuild_iff hvalid).mp hnew
    exact Or.inl ⟨⟨stored, hstored, hfits⟩, stored, hstored, hrun⟩
  · refine Or.inr ⟨?_, message, hrun⟩
    rintro ⟨stored, hstored, hfits⟩
    exact hnot stored hstored ((valid_withBuild_iff hvalid).mpr hfits)

theorem evidenceOf_congr {summary : Option ArtifactSummary} {row new : RefreshRun}
    (h : new.evidence = row.evidence) : EvidenceOf summary new ↔ EvidenceOf summary row := by
  unfold EvidenceOf
  rw [h]

/-- A failure changes the evidence to that of the summary it stores, if there is one. -/
theorem evidence_persistFailure (hvalid : row.Valid) (hs : row.status = .running) (error : Raised)
    (finishedAt : Timestamp) :
    ∃ new, (persistFailure sha256Hex describe dagId dagRunId error true finishedAt (some row)).1
        = some new
      ∧ ((∃ summary stored, error.summary = some summary ∧ summary.stored = some stored
          ∧ FailureFits error error.summary ∧ new.evidence = stored.evidence)
        ∨ ¬ (error.summary.isSome ∧ FailureFits error error.summary)
          ∧ new.evidence = row.evidence) := by
  rcases persistFailure_running sha256Hex describe dagId dagRunId hvalid hs error true finishedAt
    rfl with ⟨hfits, stored, parameters, -, hparameters, hrun, -⟩ | ⟨hfits, message, hrun⟩
  · refine ⟨_, congrArg Prod.fst hrun, ?_⟩
    rw [if_pos rfl] at hfits hparameters
    cases hsummary : error.summary with
    | none =>
        rw [hsummary] at hparameters
        cases hparameters
        exact Or.inr ⟨fun h => Bool.false_ne_true h.1, rfl⟩
    | some summary =>
        rw [hsummary] at hparameters hfits
        obtain ⟨parameter, hparameter, rfl⟩ := Option.map_eq_some_iff.mp hparameters
        exact Or.inl ⟨summary, parameter, rfl, hparameter, hfits, rfl⟩
  · refine ⟨row, congrArg Prod.fst hrun, Or.inr ⟨fun h => ?_, rfl⟩⟩
    rw [if_pos rfl] at hfits
    exact hfits h.2

/-- **One build**: the row holds the evidence of the call exactly if the call stores it, or the row
held it before. -/
theorem build_evidence_iff (hvalid : row.Valid) (hopen : row.status ≠ .succeeded)
    (result : Except Raised ArtifactSummary) (finishedAt : Timestamp) :
    ∃ new, (build sha256Hex describe dagId dagRunId result finishedAt (some row)).1 = some new
      ∧ (EvidenceOf (ownSummary result) new
        ↔ Stores result ∨ EvidenceOf (ownSummary result) row) := by
  have hresumed := valid_resumed hvalid
  unfold build
  rw [Effect.guarded_andThen_of_ok _ _
    (perform_resumeBuild sha256Hex describe dagId dagRunId hvalid hopen)]
  cases result with
  | error error =>
      obtain ⟨new, hnew, hcases⟩ :=
        evidence_persistFailure sha256Hex describe dagId dagRunId hresumed rfl error finishedAt
      refine ⟨new, ?_, ?_⟩
      · rw [Effect.guarded_of_error _ rfl, Effect.andThen_raise_fst]
        exact hnew
      · rcases hcases with ⟨summary, stored, hsummary, hstored, hfits, hevidence⟩
          | ⟨hnot, hevidence⟩
        · have hown : EvidenceOf error.summary new := by
            rw [hsummary]
            exact ⟨stored, hstored, hevidence⟩
          refine iff_of_true hown (Or.inl ⟨⟨summary, hsummary, hfits.summary summary hsummary⟩, ?_⟩)
          intro other hother
          cases hother
          exact hfits
        · refine (evidenceOf_congr hevidence).trans (or_iff_right ?_).symm
          rintro ⟨⟨summary, hsummary, -⟩, hfits⟩
          exact hnot ⟨Option.isSome_iff_exists.mpr ⟨summary, hsummary⟩, hfits error rfl⟩
  | ok summary =>
      rcases recordBuild_running sha256Hex describe dagId dagRunId hresumed rfl summary with
        ⟨hfits, stored, hstored, hrun⟩ | ⟨hfits, message, hrun⟩
      · refine ⟨_, congrArg Prod.fst (Effect.guarded_of_ok _ hrun), ?_⟩
        exact iff_of_true ⟨stored, hstored, rfl⟩
          (Or.inl ⟨⟨summary, rfl, hfits⟩, fun _ h => nomatch h⟩)
      · -- the exception of `record_build` carries no summary, so the columns stay
        obtain ⟨new, hnew, hcases⟩ := evidence_persistFailure sha256Hex describe dagId dagRunId
          hresumed rfl (.other message) finishedAt
        have hbody : Effect.ofExcept (.ok summary) (recordBuild sha256Hex describe dagId dagRunId)
            (some row.resumed) = (some row.resumed, .error (.other message)) := hrun
        refine ⟨new, ?_, ?_⟩
        · rw [Effect.guarded_of_error _ hbody, Effect.andThen_raise_fst]
          exact hnew
        · rcases hcases with ⟨_, _, h, -⟩ | ⟨-, hevidence⟩
          · cases h
          · refine (evidenceOf_congr hevidence).trans (or_iff_right ?_).symm
            rintro ⟨⟨_, h, hother⟩, -⟩
            cases h
            exact hfits hother

end

/-! ## Runs -/

section

variable (sha256Hex : String → String) (describe : Failure → List Nat) {dagId dagRunId : String}

/-- After each build of the run the row holds the evidence of its own command. -/
def OwnEvidence (calls : List (ServiceCall dagId dagRunId)) : Prop :=
  ∀ before result finishedAt, before ++ [.build result finishedAt] <+: calls →
    ∀ row ∈ runCalls sha256Hex describe (before ++ [.build result finishedAt]) none,
      EvidenceOf (ownSummary result) row

/-- Each build of the run stores the evidence of its command, or meets a row that holds it. -/
def Replaced (calls : List (ServiceCall dagId dagRunId)) : Prop :=
  ∀ before result finishedAt, before ++ [.build result finishedAt] <+: calls →
    ∀ row ∈ runCalls sha256Hex describe before none,
      Stores result ∨ EvidenceOf (ownSummary result) row

/-- Without a row there is nothing to fail. -/
theorem persistFailure_none (dagId dagRunId : String) (error : Raised)
    (includeResultSummary : Bool) (finishedAt : Timestamp) :
    (persistFailure sha256Hex describe dagId dagRunId error includeResultSummary finishedAt
      none).1 = none := by
  unfold persistFailure
  cases text (sanitizeError error.text) with
  | none => rfl
  | some errorSummary =>
      cases storedSummary (if includeResultSummary then error.summary else none) with
      | none => rfl
      | some stored => rfl

/-- A build without a row to resume leaves none. -/
theorem build_none (result : Except Raised ArtifactSummary) (finishedAt : Timestamp) :
    (build sha256Hex describe dagId dagRunId result finishedAt none).1 = none := by
  have hresume : perform sha256Hex describe (some (.resumeBuild : Call dagId dagRunId)) none
      = (none, .error (.other (describe
        (.valueError "analytics refresh state transition was rejected")))) := rfl
  unfold build
  rw [Effect.guarded_of_error _ (Effect.andThen_of_error _ hresume), Effect.andThen_raise_fst]
  exact persistFailure_none sha256Hex describe dagId dagRunId _ true finishedAt

/-- **The evidence of the builds** of a run is that of the latest command after each of them,
exactly if each of them stores its evidence or meets a row that holds it. -/
theorem evidence_own_iff (calls : List (ServiceCall dagId dagRunId)) :
    OwnEvidence sha256Hex describe calls ↔ Replaced sha256Hex describe calls := by
  unfold OwnEvidence Replaced
  refine forall_congr' fun before => forall_congr' fun result => forall_congr' fun finishedAt =>
    forall_congr' fun _ => ?_
  have hopen : Unsucceeded (runCalls sha256Hex describe before none) :=
    unsucceeded_runCalls before fun _ h => nomatch h
  have hstep : runCalls sha256Hex describe (before ++ [.build result finishedAt]) none
      = (build sha256Hex describe dagId dagRunId result finishedAt
        (runCalls sha256Hex describe before none)).1 := List.foldl_concat _ _ _ _
  rw [hstep]
  cases hrow : runCalls sha256Hex describe before none with
  | none =>
      rw [build_none]
      exact iff_of_true (fun _ h => nomatch h) fun _ h => nomatch h
  | some row =>
      obtain ⟨hvalid, hstatus⟩ := hopen row hrow
      obtain ⟨new, hnew, hiff⟩ :=
        build_evidence_iff sha256Hex describe dagId dagRunId hvalid hstatus result finishedAt
      rw [hnew]
      constructor
      · intro h other hother
        cases hother
        exact hiff.mp (h new rfl)
      · intro h other hother
        cases hother
        exact hiff.mpr (h row rfl)

end

/-- A summary of one succeeded model. -/
def firstSummary : ArtifactSummary where
  invocationId := none
  counts := ⟨1, 0, 0, 0, 0⟩
  artifact := .dict []

/-- The watermark of an empty table. -/
def noWatermark : SourceWatermark where
  maximumIngestedAt := none
  delaySeconds := none
  delay_nonneg _ h := nomatch h

/-- A run whose first build succeeds and whose second one times out. -/
def retriedBuild : List (ServiceCall "analytics_refresh" "scheduled__2026-07-25") :=
  [ .source firstIdentity 0 "raw.github_events" (.ok noWatermark)
      (.ok firstSummary) 1
  , .build (.ok firstSummary) 2
  , .build (.error (.refreshError "dbt_build_failed" (codePoints "timed out") none)) 3 ]

/-- The evidence of the first build outlives the second one, which has none. -/
theorem evidence_outlives_retry :
    (∃ row, runCalls (fun _ => "0") (fun _ => []) retriedBuild none = some row
        ∧ row.status = .failed ∧ row.dbtSucceededCount = 1)
      ∧ ¬ OwnEvidence (fun _ => "0") (fun _ => []) retriedBuild := by
  have hrun : ∃ row, runCalls (fun _ => "0") (fun _ => []) retriedBuild none = some row
      ∧ row.status = .failed ∧ row.dbtSucceededCount = 1 := by
    refine ⟨_, rfl, rfl, rfl⟩
  obtain ⟨row, hrow, hstatus, hcount⟩ := hrun
  refine ⟨⟨row, hrow, hstatus, hcount⟩, fun hown => ?_⟩
  have hnone : row.evidence = noEvidence := hown
    [ .source firstIdentity 0 "raw.github_events" (.ok noWatermark)
        (.ok firstSummary) 1
    , .build (.ok firstSummary) 2 ]
    (.error (.refreshError "dbt_build_failed" (codePoints "timed out") none)) 3
    List.prefix_rfl row hrow
  have hzero : row.dbtSucceededCount = 0 := congrArg Evidence.dbtSucceededCount hnone
  omega

end AnalyticsRefresh
