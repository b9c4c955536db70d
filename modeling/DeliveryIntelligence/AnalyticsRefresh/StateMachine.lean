import DeliveryIntelligence.AnalyticsRefresh.Constraints

set_option autoImplicit false

/-!
# The ledger as a state machine

What one storage call can do to the row is said once, in `Written`. From it follow, for every
sequence of attempts on one Airflow run, that status changes respect the transition table and
that a failed row keeps the report of the first failure since the last restart
(`Explained`). The relation between status, end time and error columns needs no induction of
its own: every stored row has passed the constraints of the schema (`Stored`).
-/

namespace AnalyticsRefresh

open Postgres

variable {sha256Hex : String → String} {dagId dagRunId : String}

/-! ## What the calls report -/

/-- The arguments a failed run is explained with. -/
structure ErrorReport where
  category : String
  errorSummary : String
  deriving DecidableEq

/-- `begin_run` and `resume_build` put the run back to running. -/
def Call.restarts : Call dagId dagRunId → Bool
  | .beginRun _ _ _ => true
  | .resumeBuild => true
  | _ => false

/-- The report a `finish_failure` call carries. -/
def Call.failure : Call dagId dagRunId → Option ErrorReport
  | .finishFailure _ category errorSummary _ => some ⟨category, errorSummary⟩
  | _ => none

/-- The calls after the most recent restart. -/
def sinceRestart (calls : List (Call dagId dagRunId)) : List (Call dagId dagRunId) :=
  (calls.reverse.takeWhile fun c => !c.restarts).reverse

/-- The report of the first failure after the most recent restart. -/
def firstFailure (calls : List (Call dagId dagRunId)) : Option ErrorReport :=
  (sinceRestart calls).findSome? Call.failure

/-- The calls of a sequence of attempts that return normally. -/
def returned (sha256Hex : String → String) :
    List (Attempt dagId dagRunId) → Option RefreshRun → List (Call dagId dagRunId)
  | [], _ => []
  | a :: rest, ledger =>
      let after := returned sha256Hex rest (a.run sha256Hex ledger).1
      match (a.run sha256Hex ledger).2 with
      | .ok _ => a.call :: after
      | .error _ => after

/-- A restart forgets the reports before it. -/
theorem firstFailure_restart (calls : List (Call dagId dagRunId)) {c : Call dagId dagRunId}
    (h : c.restarts = true) : firstFailure (calls ++ [c]) = none := by
  have hnone : sinceRestart (calls ++ [c]) = [] := by
    unfold sinceRestart
    rw [List.reverse_append, List.reverse_singleton, List.singleton_append]
    simp [h]
  simp [firstFailure, hnone]

/-- Any other call adds its report unless there is one already. -/
theorem firstFailure_append (calls : List (Call dagId dagRunId)) {c : Call dagId dagRunId}
    (h : c.restarts = false) :
    firstFailure (calls ++ [c]) = (firstFailure calls).or c.failure := by
  have hkeep : sinceRestart (calls ++ [c]) = sinceRestart calls ++ [c] := by
    unfold sinceRestart
    rw [List.reverse_append, List.reverse_singleton, List.singleton_append]
    simp [h]
  unfold firstFailure
  rw [hkeep, List.findSome?_append]
  cases hf : c.failure with
  | none => simp [hf]
  | some report => simp [hf]

/-! ## What one call writes -/

/-- The row `new` is what the call writes over `ledger`. -/
inductive Written (c : Call dagId dagRunId) (ledger : Option RefreshRun) (new : RefreshRun) :
    Prop
  | restarted (hc : c.restarts = true) (guard : ∀ old ∈ ledger, old.status ≠ .succeeded)
      (status : new.status = .running)
  | recorded (old : RefreshRun) (hc : c.restarts = false) (hf : c.failure = none)
      (before : ledger = some old) (guard : old.status = .running)
      (status : new.status = .running)
  | succeeded (old : RefreshRun) (hc : c.restarts = false) (hf : c.failure = none)
      (before : ledger = some old) (guard : old.status ≠ .failed)
      (status : new.status = .succeeded)
  | failed (old : RefreshRun) (report : ErrorReport) (stored : String)
      (hc : c.restarts = false) (hf : c.failure = some report) (before : ledger = some old)
      (guard : old.status ≠ .succeeded) (status : new.status = .failed)
      (category : new.errorCategory = old.errorCategory.or (some report.category))
      (fits : varchar 1000 "error_summary" (old.errorSummary.getD report.errorSummary)
        = .ok stored)
      (summary : new.errorSummary = some stored)

/-- A guarded update either finds no row and changes nothing, or stores one that passed the
constraints. -/
theorem updateRun_ok {guard : List RunStatus} {set : RefreshRun → Except Error RefreshRun}
    {ledger ledger' : Option RefreshRun} {id : Option String}
    (h : updateRun guard set ledger = .ok (ledger', id)) :
    (id = none ∧ ledger' = ledger)
    ∨ ∃ old new, id = some new.runId ∧ ledger = some old ∧ old.status ∈ guard
        ∧ set old = .ok new ∧ enforce refreshRunConstraints new = .ok () ∧ ledger' = some new := by
  cases ledger with
  | none =>
      cases h
      exact Or.inl ⟨rfl, rfl⟩
  | some old =>
      simp only [updateRun] at h
      by_cases hguard : old.status ∈ guard
      · rw [if_pos hguard] at h
        obtain ⟨new, hset, hrest⟩ := bind_eq_ok h
        obtain ⟨_, hpass, hret⟩ := bind_eq_ok hrest
        cases hret
        exact Or.inr ⟨old, new, rfl, rfl, hguard, hset, hpass, rfl⟩
      · rw [if_neg hguard] at h
        cases h
        exact Or.inl ⟨rfl, rfl⟩

/-- An update whose new row is a function of the old one. -/
theorem updateRun_pure {guard : List RunStatus} {set : RefreshRun → RefreshRun}
    {ledger ledger' : Option RefreshRun} {id : Option String}
    (h : updateRun guard (fun row => .ok (set row)) ledger = .ok (ledger', id)) :
    (id = none ∧ ledger' = ledger)
    ∨ ∃ old, id = some (set old).runId ∧ ledger = some old ∧ old.status ∈ guard
        ∧ enforce refreshRunConstraints (set old) = .ok () ∧ ledger' = some (set old) := by
  rcases updateRun_ok h with hnone | ⟨old, new, hid, hold, hguard, hset, hpass, hnew⟩
  · exact Or.inl hnone
  · cases hset
    exact Or.inr ⟨old, hid, hold, hguard, hpass, hnew⟩

/-- Such an update writes as `Written` says if every row that meets the guard is changed so. -/
theorem updateRun_written {c : Call dagId dagRunId} {guard : List RunStatus}
    {set : RefreshRun → RefreshRun} {ledger ledger' : Option RefreshRun} {id : Option String}
    (h : updateRun guard (fun row => .ok (set row)) ledger = .ok (ledger', id))
    (hwritten : ∀ old, ledger = some old → old.status ∈ guard → Written c ledger (set old)) :
    (id = none ∧ ledger' = ledger)
    ∨ ∃ new, id = some new.runId ∧ ledger' = some new
        ∧ enforce refreshRunConstraints new = .ok () ∧ Written c ledger new := by
  rcases updateRun_pure h with hnone | ⟨old, hid, hold, hguard, hpass, hnew⟩
  · exact Or.inl hnone
  · exact Or.inr ⟨set old, hid, hnew, hpass, hwritten old hold hguard⟩

/-- The statement of a call writes as `Written` says, or returns nothing and keeps the row. -/
theorem statement_ok {c : Call dagId dagRunId} {ledger ledger' : Option RefreshRun}
    {id : Option String} (h : c.statement sha256Hex ledger = .ok (ledger', id)) :
    (id = none ∧ ledger' = ledger)
    ∨ ∃ new, id = some new.runId ∧ ledger' = some new
        ∧ enforce refreshRunConstraints new = .ok () ∧ Written c ledger new := by
  have hrunning : ∀ {s : RunStatus}, s ∈ [RunStatus.running] → s = .running := by
    intro s hs
    exact List.mem_singleton.mp hs
  have hnot_succeeded : ∀ {s : RunStatus}, s ∈ [RunStatus.running, .failed] → s ≠ .succeeded := by
    intro s hs heq
    subst heq
    exact absurd hs (by decide)
  cases c with
  | beginRun identity startedAt sourceRelation =>
      obtain ⟨_, hpass, hrest⟩ := bind_eq_ok h
      -- `_BEGIN_RUN` inserts the row of a new run and updates that of an old one
      cases ledger with
      | none =>
          cases hrest
          exact Or.inr ⟨_, rfl, rfl, hpass, .restarted rfl (fun old hold => nomatch hold) rfl⟩
      | some row =>
          -- the conflicting row is restarted, unless it has succeeded
          refine updateRun_written hrest fun old hold hguard => ?_
          refine .restarted rfl (fun row hrow => ?_) rfl
          cases hold
          cases hrow
          exact hnot_succeeded hguard
  | recordSource summary =>
      refine updateRun_written h fun old hold hguard => ?_
      have hrun := hrunning hguard
      exact .recorded old rfl rfl hold hrun hrun
  | recordWatermark watermark =>
      refine updateRun_written h fun old hold hguard => ?_
      have hrun := hrunning hguard
      exact .recorded old rfl rfl hold hrun hrun
  | recordBuild summary =>
      refine updateRun_written h fun old hold hguard => ?_
      have hrun := hrunning hguard
      exact .recorded old rfl rfl hold hrun hrun
  | resumeBuild =>
      refine updateRun_written h fun old hold hguard => ?_
      refine .restarted rfl (fun row hrow => ?_) rfl
      cases hold
      cases hrow
      exact hnot_succeeded hguard
  | finishSuccess finishedAt =>
      refine updateRun_written h fun old hold hguard => ?_
      have hnot_failed : old.status ≠ .failed := by
        intro heq
        rw [heq] at hguard
        exact absurd hguard (by decide)
      exact .succeeded old rfl rfl hold hnot_failed rfl
  | finishFailure finishedAt category errorSummary summary =>
      rcases updateRun_ok h with hnone | ⟨old, new, hid, hold, hguard, hset, hpass, hnew⟩
      · exact Or.inl hnone
      -- the assignment to `error_summary` may fail, so the new row is no function of the old one
      · obtain ⟨stored, hfits, hrow⟩ := bind_eq_ok hset
        cases hrow
        exact Or.inr ⟨_, hid, hnew, hpass,
          .failed old ⟨category, errorSummary⟩ stored rfl rfl hold (hnot_succeeded hguard) rfl rfl
            hfits rfl⟩

/-- A call that raises keeps the row; a call that returns writes one. -/
theorem run_cases (sha256Hex : String → String) (a : Attempt dagId dagRunId)
    (ledger : Option RefreshRun) :
    (∃ failure, a.run sha256Hex ledger = (ledger, .error failure))
    ∨ ∃ new, a.run sha256Hex ledger = (some new, .ok new.runId)
        ∧ enforce refreshRunConstraints new = .ok () ∧ Written a.call ledger new := by
  unfold Attempt.run
  by_cases haborts : a.aborts = true
  · exact Or.inl ⟨.aborted, if_pos haborts⟩
  rw [if_neg haborts]
  unfold Call.run
  cases hs : a.call.statement sha256Hex ledger with
  | error e => exact Or.inl ⟨.database e, rfl⟩
  | ok result =>
      obtain ⟨ledger', id⟩ := result
      rcases statement_ok hs with ⟨rfl, rfl⟩ | ⟨new, rfl, rfl, hpass, hwritten⟩
      · exact Or.inl ⟨_, rfl⟩
      · exact Or.inr ⟨new, rfl, hpass, hwritten⟩

/-! ## Every stored row passed the constraints -/

/-- The row, if there is one, satisfies the constraints of the schema. -/
def Stored (ledger : Option RefreshRun) : Prop :=
  ∀ row ∈ ledger, enforce refreshRunConstraints row = .ok ()

/-! ## The report of a failed row -/

/-- The columns that explain the row: its report is the first one in `calls` since the last
restart. A summary is stored as its `varchar(1000)` column stores it. -/
def Explained (calls : List (Call dagId dagRunId)) (row : RefreshRun) : Prop :=
  match row.status with
  | .running => firstFailure calls = none
  | .failed => ∃ report stored, firstFailure calls = some report
      ∧ row.errorCategory = some report.category
      ∧ varchar 1000 "error_summary" report.errorSummary = .ok stored
      ∧ row.errorSummary = some stored
  | .succeeded => True

/-- One call keeps the row explained. -/
theorem explained_written {calls : List (Call dagId dagRunId)} {c : Call dagId dagRunId}
    {ledger : Option RefreshRun} {new : RefreshRun} (hstored : Stored ledger)
    (h : ∀ row ∈ ledger, Explained calls row) (hw : Written c ledger new) :
    Explained (calls ++ [c]) new := by
  unfold Explained
  cases hw with
  | restarted hc guard status =>
      rw [status]
      exact firstFailure_restart calls hc
  | recorded old hc hf before guard status =>
      -- no failure before, and the call reports none
      have hold : firstFailure calls = none := by
        have hexp := h old before
        unfold Explained at hexp
        rwa [guard] at hexp
      rw [status]
      show firstFailure (calls ++ [c]) = none
      rw [firstFailure_append calls hc, hold, hf]
      rfl
  | succeeded old hc hf before guard status => rw [status]; trivial
  | failed old report stored hc hf before guard status category fits summary =>
      have hexp := h old before
      unfold Explained at hexp
      rw [status]
      show ∃ report stored, _
      rw [firstFailure_append calls hc, hf, category, summary]
      cases hs : old.status with
      | running =>
          -- the first failure since the restart: both columns were null
          obtain ⟨hcat, hsum⟩ := no_error (hstored old before) (by rw [hs]; decide)
          rw [hs] at hexp
          rw [hsum] at fits
          refine ⟨report, stored, ?_, by rw [hcat]; rfl, fits, rfl⟩
          rw [show firstFailure calls = none from hexp]
          rfl
      | failed =>
          -- a later failure: `COALESCE` keeps the columns of the first one
          rw [hs] at hexp
          obtain ⟨first, kept, hfirst, hcat, hkept, hsum⟩ := hexp
          rw [hsum] at fits
          have hsame : stored = kept := by
            have hlen : kept.toList.length ≤ 1000 := length_le_of_varchar hkept
            rw [Option.getD_some, varchar_of_length_le hlen] at fits
            exact (Except.ok.inj fits).symm
          exact ⟨first, kept, by rw [hfirst]; rfl, by rw [hcat]; rfl, hkept, by rw [hsame]⟩
      | succeeded => exact absurd hs guard

/-- A sequence of attempts keeps the row stored and explained. -/
theorem explained_runAll (sha256Hex : String → String)
    (attempts : List (Attempt dagId dagRunId)) (ledger : Option RefreshRun)
    (calls : List (Call dagId dagRunId)) (hstored : Stored ledger)
    (h : ∀ row ∈ ledger, Explained calls row) :
    Stored (runAll sha256Hex attempts ledger)
    ∧ ∀ row ∈ runAll sha256Hex attempts ledger,
        Explained (calls ++ returned sha256Hex attempts ledger) row := by
  -- on the attempts; `calls` grows by every attempt that returns
  induction attempts generalizing ledger calls with
  | nil =>
      rw [show returned sha256Hex ([] : List (Attempt dagId dagRunId)) ledger = [] from rfl,
        List.append_nil]
      exact ⟨hstored, h⟩
  | cons a attempts ih =>
      show Stored (runAll sha256Hex attempts (a.run sha256Hex ledger).1)
        ∧ ∀ row ∈ runAll sha256Hex attempts (a.run sha256Hex ledger).1, _
      rcases run_cases sha256Hex a ledger with
        ⟨failure, hrun⟩ | ⟨new, hrun, hpass, hwritten⟩
      · have hreturned : returned sha256Hex (a :: attempts) ledger
            = returned sha256Hex attempts ledger := by simp [returned, hrun]
        rw [hrun, hreturned]
        exact ih ledger calls hstored h
      · have hreturned : returned sha256Hex (a :: attempts) ledger
            = a.call :: returned sha256Hex attempts (some new) := by simp [returned, hrun]
        rw [hrun, hreturned, List.append_cons]
        refine ih (some new) (calls ++ [a.call]) ?_ ?_
        · intro row hrow
          cases hrow
          exact hpass
        · intro row hrow
          cases hrow
          exact explained_written hstored h hwritten

/-! ## The transition table -/

/-- Every status change a call writes is an allowed transition. -/
theorem validateTransition_written {c : Call dagId dagRunId} {old new : RefreshRun}
    (h : Written c (some old) new) : validateTransition old.status new.status = .ok () := by
  cases h with
  | restarted hc guard status =>
      have hold := guard old rfl
      rw [status]
      cases hs : old.status with
      | running => rfl
      | failed => rfl
      | succeeded => exact absurd hs hold
  | recorded old' hc hf before guard status =>
      cases before
      rw [guard, status]
      rfl
  | succeeded old' hc hf before guard status =>
      cases before
      rw [status]
      cases hs : old.status with
      | running => rfl
      | failed => exact absurd hs guard
      | succeeded => rfl
  | failed old' report stored hc hf before guard status category fits summary =>
      cases before
      rw [status]
      cases hs : old.status with
      | running => rfl
      | failed => rfl
      | succeeded => exact absurd hs guard

/-! ## The ledger of one run -/

/-- What holds of the row `ledger` after the calls `calls` returned normally. -/
structure LedgerInvariant (calls : List (Call dagId dagRunId)) (row : RefreshRun) : Prop where
  finished : row.finishedAt = none ↔ row.status = .running
  error_only_failed : row.status ≠ .failed → row.errorCategory = none ∧ row.errorSummary = none
  report : row.status = .failed →
    ∃ report stored, firstFailure calls = some report
      ∧ row.errorCategory = some report.category
      ∧ varchar 1000 "error_summary" report.errorSummary = .ok stored
      ∧ row.errorSummary = some stored

/-- **The ledger state machine.** After any attempts on one run, the row satisfies the
invariant, the next attempt changes its status along an allowed transition only, and if it
raises the row is as it was. -/
theorem ledger_state_machine (sha256Hex : String → String)
    (attempts : List (Attempt dagId dagRunId)) (next : Attempt dagId dagRunId) :
    (∀ row, runAll sha256Hex attempts none = some row →
      LedgerInvariant (returned sha256Hex attempts none) row)
    ∧ (∀ old new, runAll sha256Hex attempts none = some old →
        (next.run sha256Hex (some old)).1 = some new →
        validateTransition old.status new.status = .ok ())
    ∧ ∀ failure, (next.run sha256Hex (runAll sha256Hex attempts none)).2 = .error failure →
        (next.run sha256Hex (runAll sha256Hex attempts none)).1
          = runAll sha256Hex attempts none := by
  obtain ⟨hstored, hexplained⟩ :=
    explained_runAll sha256Hex attempts none []
      (fun row hrow => nomatch hrow) (fun row hrow => nomatch hrow)
  refine ⟨fun row hrow => ?_, fun old new hold hnew => ?_, fun failure hfailure => ?_⟩
  · have hpass := hstored row hrow
    refine ⟨finished_iff hpass, no_error hpass, fun hs => ?_⟩
    have hexp := hexplained row hrow
    unfold Explained at hexp
    rwa [hs] at hexp
  · rcases run_cases sha256Hex next (some old) with
      ⟨failure, hrun⟩ | ⟨row, hrun, -, hwritten⟩
    · rw [hrun] at hnew
      cases hnew
      -- an attempt that raises changes no status, and every status may keep itself
      cases hs : old.status with
      | running => rfl
      | failed => rfl
      | succeeded => rfl
    · rw [hrun] at hnew
      cases hnew
      exact validateTransition_written hwritten
  · rcases run_cases sha256Hex next (runAll sha256Hex attempts none) with
      ⟨failure', hrun⟩ | ⟨row, hrun, -, -⟩
    · rw [hrun]
    · rw [hrun] at hfailure
      cases hfailure

/-! ## A summary longer than its column -/

def firstIdentity : RefreshRunIdentity "analytics_refresh" "scheduled__2026-07-25" :=
  ⟨0, 0, 0, by decide, le_refl 0⟩

def firstAttempt : Attempt "analytics_refresh" "scheduled__2026-07-25" :=
  ⟨.beginRun firstIdentity 0 "raw.github_events", false⟩

def failingAttempt (errorSummary : String) :
    Attempt "analytics_refresh" "scheduled__2026-07-25" :=
  ⟨.finishFailure 1 "dbt_build_failed" errorSummary none, false⟩

/-- The failed row shows what the column stored of the summary that was passed. -/
theorem failingAttempt_stores {errorSummary stored : String}
    (hstored : varchar 1000 "error_summary" errorSummary = .ok stored)
    (hfits : fitsText stored = true) :
    ∃ row, runAll (fun _ => "0") [firstAttempt, failingAttempt errorSummary] none = some row
      ∧ row.status = .failed
      ∧ firstFailure (returned (fun _ => "0") [firstAttempt, failingAttempt errorSummary] none)
          = some ⟨"dbt_build_failed", errorSummary⟩
      ∧ row.errorSummary = some stored := by
  let begun : RefreshRun :=
    newRun (fun _ => "0") firstIdentity 0 "raw.github_events"
  have hfirst : firstAttempt.run (fun _ => "0") none = (some begun, .ok begun.runId) := rfl
  have hvalid : begun.Valid := enforce_iff_valid.mp (by decide)
  have hnew : (begun.failedAt 1 "dbt_build_failed" stored none).Valid :=
    (valid_failedAt_iff hvalid).mpr ⟨by decide, hfits, fun _ h => nomatch h⟩
  let row : RefreshRun := begun.failedAt 1 "dbt_build_failed" stored none
  have hrow : finishFailureStatement 1 "dbt_build_failed" errorSummary none (some begun)
      = .ok (some row, some row.runId) :=
    (finishFailure_set hvalid rfl hstored 1 "dbt_build_failed" none).trans
      (updateRun_of_valid (by decide) rfl hnew)
  have hsecond : (failingAttempt errorSummary).run (fun _ => "0") (some begun)
      = (some row, .ok row.runId) := by
    unfold Attempt.run
    rw [show (failingAttempt errorSummary).aborts = false from rfl, if_neg Bool.false_ne_true]
    unfold Call.run
    rw [show (failingAttempt errorSummary).call.statement (fun _ => "0") (some begun)
      = .ok (some row, some row.runId) from hrow]
  refine ⟨row, ?_, rfl, ?_, rfl⟩
  · simp [runAll, hfirst, hsecond]
  · have hreturned : returned (fun _ => "0") [firstAttempt, failingAttempt errorSummary] none
        = [firstAttempt.call, (failingAttempt errorSummary).call] := by
      simp [returned, hfirst, hsecond]
    rw [hreturned]
    rfl

def longSummary : List Char := List.replicate 1000 'x'

/-- A trailing blank beyond the column is dropped from the summary of a failed row. -/
theorem trailing_blank_is_dropped :
    let passed := String.ofList (longSummary ++ [' '])
    ∃ row, runAll (fun _ => "0") [firstAttempt, failingAttempt passed] none = some row
      ∧ row.status = .failed
      ∧ firstFailure (returned (fun _ => "0") [firstAttempt, failingAttempt passed] none)
          = some ⟨"dbt_build_failed", passed⟩
      ∧ row.errorSummary ≠ some passed := by
  have hstored : varchar 1000 "error_summary" (String.ofList (longSummary ++ [' ']))
      = .ok (String.ofList longSummary) :=
    varchar_of_blank_tail List.length_replicate (by simp) (by simp)
  have hfits : fitsText (String.ofList longSummary) = true := by
    unfold fitsText longSummary
    rw [String.toList_ofList, List.all_replicate]
    decide
  obtain ⟨row, hrow, hfailed, hreport, hsummary⟩ := failingAttempt_stores hstored hfits
  refine ⟨row, hrow, hfailed, hreport, fun heq => ?_⟩
  rw [hsummary, Option.some.injEq, String.ofList_inj] at heq
  have hlength := congrArg List.length heq
  rw [List.length_append, List.length_singleton] at hlength
  omega

end AnalyticsRefresh
