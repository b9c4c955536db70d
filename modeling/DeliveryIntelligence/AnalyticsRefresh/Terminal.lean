import DeliveryIntelligence.AnalyticsRefresh.StateMachine
import DeliveryIntelligence.Library.Runs

set_option autoImplicit false

/-!
# The end of a run

What the two statements that end a run do. A succeeded row keeps every column under any further
attempts exactly if no `finish_success` among them brings another end (`succeeded_frozen_iff`). A
running row can be ended at a clock reading exactly if the reading is not before its start
(`finishes_iff`): `_FINISH_FAILURE` takes the later of the two, `_FINISH_SUCCESS` does not.
-/

namespace AnalyticsRefresh

open Postgres

variable {dagId dagRunId : String}

/-! ## A succeeded row -/

/-- The attempt is a `finish_success` that reaches the table, at a time that is not the stored
end and not before the start. -/
def Attempt.MovesEnd (row : RefreshRun) (a : Attempt dagId dagRunId) : Prop :=
  a.aborts = false ∧ ∃ finishedAt, a.call = .finishSuccess finishedAt
    ∧ row.startedAt ≤ finishedAt ∧ row.finishedAt ≠ some finishedAt

/-- The statements of all calls but `finish_success` pass a succeeded row over, or fail. -/
theorem statement_succeeded (sha256Hex : String → String) {row : RefreshRun}
    (hs : row.status = .succeeded) {c : Call dagId dagRunId}
    (hc : ∀ finishedAt, c ≠ .finishSuccess finishedAt) :
    c.statement sha256Hex (some row) = .ok (some row, none)
      ∨ ∃ e, c.statement sha256Hex (some row) = .error e := by
  have hrunning : row.status ∉ [RunStatus.running] := by rw [hs]; decide
  have hopen : row.status ∉ [RunStatus.running, .failed] := by rw [hs]; decide
  cases c with
  | beginRun identity startedAt sourceRelation =>
      -- the proposed row may be rejected before the conflict is looked up
      simp only [Call.statement, beginRunStatement_some]
      cases enforce refreshRunConstraints (newRun sha256Hex identity startedAt sourceRelation) with
      | error e => exact Or.inr ⟨e, rfl⟩
      | ok u =>
          left
          rw [updateRun_of_guard hopen]
          rfl
  | recordSource summary =>
      left
      unfold Call.statement recordSourceStatement
      exact updateRun_of_guard hrunning
  | recordWatermark watermark =>
      left
      unfold Call.statement recordWatermarkStatement
      exact updateRun_of_guard hrunning
  | recordBuild summary =>
      left
      unfold Call.statement recordBuildStatement
      exact updateRun_of_guard hrunning
  | resumeBuild =>
      left
      unfold Call.statement resumeBuildStatement
      exact updateRun_of_guard hopen
  | finishSuccess finishedAt => exact absurd rfl (hc finishedAt)
  | finishFailure finishedAt category errorSummary summary =>
      left
      unfold Call.statement finishFailureStatement
      exact updateRun_of_guard hopen

/-- One attempt keeps a succeeded row as it is unless it moves the end. -/
theorem run_succeeded_iff (sha256Hex : String → String) {row : RefreshRun} (hvalid : row.Valid)
    (hs : row.status = .succeeded) (a : Attempt dagId dagRunId) :
    (a.run sha256Hex (some row)).1 = some row ↔ ¬ a.MovesEnd row := by
  unfold Attempt.run
  by_cases haborts : a.aborts = true
  · rw [if_pos haborts]
    exact iff_of_true rfl fun h => Bool.false_ne_true (h.1.symm.trans haborts)
  rw [if_neg haborts]
  unfold Call.run
  by_cases hfinish : ∃ finishedAt, a.call = .finishSuccess finishedAt
  · obtain ⟨finishedAt, hcall⟩ := hfinish
    have hguard : row.status ∈ [RunStatus.running, .succeeded] := by rw [hs]; decide
    have hne : row.status ≠ .failed := by rw [hs]; decide
    have hmoves : a.MovesEnd row
        ↔ row.startedAt ≤ finishedAt ∧ row.finishedAt ≠ some finishedAt := by
      constructor
      · rintro ⟨-, t, ht, hle, hother⟩
        cases hcall.symm.trans ht
        exact ⟨hle, hother⟩
      · rintro ⟨hle, hother⟩
        exact ⟨Bool.eq_false_of_not_eq_true haborts, finishedAt, hcall, hle, hother⟩
    have hstatement : a.call.statement sha256Hex = finishSuccessStatement finishedAt := by
      rw [hcall]
      rfl
    rw [hstatement, hmoves]
    by_cases hle : row.startedAt ≤ finishedAt
    · have hrun : finishSuccessStatement finishedAt (some row)
          = .ok (some (row.finishedAgain finishedAt), some row.runId) :=
        updateRun_of_valid hguard rfl ((valid_finishedAgain hvalid hne).mpr hle)
      simp only [hrun, hle, true_and, not_not]
      constructor
      · intro hsame
        exact (congrArg RefreshRun.finishedAt (Option.some.inj hsame)).symm
      · intro hend
        cases row
        simp_all [RefreshRun.finishedAgain]
    -- before the start the constraint rejects the row
    · obtain ⟨e, he⟩ : ∃ e, finishSuccessStatement finishedAt (some row) = .error e :=
        updateRun_of_not_valid hguard rfl fun h => hle ((valid_finishedAgain hvalid hne).mp h)
      rw [he]
      exact iff_of_true rfl fun h => hle h.1
  · have hother : ¬ a.MovesEnd row := by
      rintro ⟨-, finishedAt, hcall, -⟩
      exact hfinish ⟨finishedAt, hcall⟩
    refine iff_of_true ?_ hother
    rcases statement_succeeded sha256Hex hs (c := a.call)
      (fun finishedAt hcall => hfinish ⟨finishedAt, hcall⟩) with hkeep | ⟨e, he⟩
    · rw [hkeep]
    · rw [he]

/-- **A succeeded run is frozen** in every state that further attempts reach exactly if none of
them moves its end. -/
theorem succeeded_frozen_iff (sha256Hex : String → String) {row : RefreshRun}
    (hstored : Stored (some row)) (hs : row.status = .succeeded)
    (attempts : List (Attempt dagId dagRunId)) :
    (∀ before, before <+: attempts → runAll sha256Hex before (some row) = some row)
      ↔ ∀ a ∈ attempts, ¬ a.MovesEnd row := by
  have hvalid : row.Valid := enforce_iff_valid.mp (hstored row rfl)
  have hrun : Runs.Never (fun ledger a => (Attempt.run sha256Hex a ledger).1)
        (fun a _ => a.MovesEnd row) attempts (some row)
      ↔ ∀ before, before <+: attempts → runAll sha256Hex before (some row) = some row :=
    Runs.never_iff (I := fun _ => True) (P := fun ledger => ledger = some row)
      (fun _ _ _ => trivial)
      (fun ledger a _ hledger => by rw [hledger]; exact run_succeeded_iff sha256Hex hvalid hs a)
      attempts trivial rfl
  rw [← hrun]
  exact Runs.never_const_iff

def finishAttempt (finishedAt : Timestamp) : Attempt "analytics_refresh" "scheduled__2026-07-25" :=
  ⟨.finishSuccess finishedAt, false⟩

/-- The row of a run that was begun at 0 and finished at 1. -/
def finishedRun : RefreshRun :=
  (newRun (fun _ => "0") firstIdentity 0 "raw.github_events").finishedAgain 1

theorem runAll_finishedRun :
    runAll (fun _ => "0") [firstAttempt, finishAttempt 1] none = some finishedRun := rfl

/-- A repeated `finish_success` moves the end of the run. -/
theorem finished_twice :
    runAll (fun _ => "0") [firstAttempt, finishAttempt 1] none = some finishedRun
      ∧ finishedRun.status = .succeeded
      ∧ runAll (fun _ => "0") [finishAttempt 2] (some finishedRun)
        = some (finishedRun.finishedAgain 2)
      ∧ finishedRun.finishedAgain 2 ≠ finishedRun :=
  ⟨runAll_finishedRun, rfl, rfl, fun h => absurd (congrArg RefreshRun.finishedAt h) (by decide)⟩

/-- The same end again, an end before the start and a late failure change nothing. -/
theorem succeeded_frozen_iff_repeated :
    finishedRun.status = .succeeded
      ∧ ∀ before, before <+: [finishAttempt 1, finishAttempt (-1), failingAttempt "late"] →
        runAll (fun _ => "0") before (some finishedRun) = some finishedRun := by
  have hstored : Stored (some finishedRun) := by
    intro row hrow
    cases hrow
    decide
  refine ⟨rfl, (succeeded_frozen_iff (fun _ => "0") hstored rfl _).mpr ?_⟩
  intro a ha
  simp only [List.mem_cons, List.not_mem_nil, or_false] at ha
  rintro ⟨-, finishedAt, hcall, hle, hother⟩
  rcases ha with rfl | rfl | rfl
  · cases hcall
    exact hother rfl
  · cases hcall
    exact absurd hle (by decide)
  · cases hcall

/-! ## A running row -/

/-- The statement ends the run, not before its start. -/
def Finishes (statement : Statement) (row : RefreshRun) : Prop :=
  ∃ new, statement (some row) = .ok (some new, some new.runId) ∧ new.status ≠ .running
    ∧ ∃ finishedAt, new.finishedAt = some finishedAt ∧ new.startedAt ≤ finishedAt

/-- **Clock skew.** Both statements end a running row at a clock reading, not before its start,
exactly if the reading is not before the start. -/
theorem finishes_iff (sha256Hex : String → String) (attempts : List (Attempt dagId dagRunId))
    {row : RefreshRun} (hrow : runAll sha256Hex attempts none = some row)
    (hs : row.status = .running) (t : Timestamp) :
    (Finishes (finishSuccessStatement t) row
        ∧ ∀ category errorSummary summary, ReportFits category errorSummary summary →
          Finishes (finishFailureStatement t category errorSummary summary) row)
      ↔ row.startedAt ≤ t := by
  have hstored : Stored (runAll sha256Hex attempts none) :=
    (explained_runAll sha256Hex attempts none [] (fun row hrow => nomatch hrow)
      (fun row hrow => nomatch hrow)).1
  have hvalid : row.Valid := enforce_iff_valid.mp (hstored row hrow)
  have hguard : row.status ∈ [RunStatus.running, .succeeded] := by rw [hs]; decide
  have hne : row.status ≠ .failed := by rw [hs]; decide
  constructor
  · rintro ⟨⟨new, hnew, -, -⟩, -⟩
    by_contra hle
    obtain ⟨e, he⟩ : ∃ e, finishSuccessStatement t (some row) = .error e :=
      updateRun_of_not_valid hguard rfl fun h => hle ((valid_finishedAgain hvalid hne).mp h)
    rw [he] at hnew
    cases hnew
  · intro hle
    refine ⟨⟨row.finishedAgain t, ?_, RunStatus.noConfusion, t, rfl, hle⟩, ?_⟩
    · exact updateRun_of_valid hguard rfl ((valid_finishedAgain hvalid hne).mpr hle)
    · intro category errorSummary summary hfits
      obtain ⟨stored, -, hrun, -⟩ := finishFailure_of_fits hvalid hs t hfits
      exact ⟨_, hrun, RunStatus.noConfusion, max t row.startedAt, rfl, le_max_right _ _⟩

/-- A run begun at 0 that cannot succeed at -1, while it can fail. -/
theorem skewed_success_rejected :
    ∃ row, runAll (fun _ => "0") [firstAttempt] none = some row ∧ row.status = .running
      ∧ finishSuccessStatement (-1) (some row)
        = .error (.check "analytics_refresh_runs_timestamp_order_valid")
      ∧ Finishes (finishFailureStatement (-1) "unexpected_error" "late" none) row
      ∧ ¬ Finishes (finishSuccessStatement (-1)) row := by
  refine ⟨newRun (fun _ => "0") firstIdentity 0 "raw.github_events", rfl, rfl, rfl, ?_, ?_⟩
  · exact ⟨_, rfl, by decide, 0, rfl, le_refl 0⟩
  · rintro ⟨new, hnew, -⟩
    cases hnew

/-- At its start and after it, the run can be ended either way. -/
theorem finishes_iff_later :
    Finishes (finishSuccessStatement 3) (newRun (fun _ => "0") firstIdentity 0 "raw.github_events")
      ∧ ∀ category errorSummary summary, ReportFits category errorSummary summary →
        Finishes (finishFailureStatement 3 category errorSummary summary)
          (newRun (fun _ => "0") firstIdentity 0 "raw.github_events") :=
  (finishes_iff (fun _ => "0") [firstAttempt] rfl rfl 3).mpr (by decide)

end AnalyticsRefresh
