import DeliveryIntelligence.AnalyticsRefresh.Service

set_option autoImplicit false

/-!
# The refresh DAG

`airflow/dags/analytics_refresh.py`: three tasks one after the other, each with two retries, and a
callback for a run that failed. An attempt runs its step of the service to the end, or is lost with
its worker after some of its storage calls; Airflow retries both the same. Over any number of runs
of one identity `dag_runs` says what the ledger holds behind each of them.
-/

namespace AnalyticsRefresh

open Postgres Python

/-! ## Tasks -/

/-- `retries` of `default_args`. -/
def retries : Nat := 2

/-- What one attempt of `record_and_check_source` meets. -/
structure SourceStep where
  startedAt : Timestamp
  sourceRelation : String
  watermark : Except Raised SourceWatermark
  result : Except Raised ArtifactSummary
  finishedAt : Timestamp

/-- What one attempt of `dbt_build` meets. -/
structure BuildStep where
  result : Except Raised ArtifactSummary
  finishedAt : Timestamp

section

variable (dagId dagRunId : String)

/-- The storage calls of `record_and_check_source`. -/
def sourceCalls : Call dagId dagRunId → Bool
  | .beginRun _ _ _ => true
  | .recordWatermark _ => true
  | .recordSource _ => true
  | .finishFailure _ _ _ _ => true
  | _ => false

/-- The storage calls of `build`. -/
def buildCalls : Call dagId dagRunId → Bool
  | .resumeBuild => true
  | .recordBuild _ => true
  | .finishFailure _ _ _ _ => true
  | _ => false

/-- The storage call of `succeed`. -/
def successCalls : Call dagId dagRunId → Bool
  | .finishSuccess _ => true
  | _ => false

variable {dagId dagRunId}

/-- An attempt of a task whose step makes these storage calls. -/
inductive TaskAttempt (Step : Type) (makes : Call dagId dagRunId → Bool)
  | ends (step : Step)
  | lost (calls : List (Call dagId dagRunId)) (made : ∀ c ∈ calls, makes c = true)

variable (dagId dagRunId) in
/-- A run of the DAG: the attempts Airflow makes of its tasks, and whether the callback of a failed
run gets through, with the exception of its context and the clock. -/
structure DagRun where
  identity : RefreshRunIdentity dagId dagRunId
  source : List (TaskAttempt SourceStep (sourceCalls dagId dagRunId))
  build : List (TaskAttempt BuildStep (buildCalls dagId dagRunId))
  success : List (TaskAttempt Timestamp (successCalls dagId dagRunId))
  bounded : source.length ≤ retries + 1 ∧ build.length ≤ retries + 1
    ∧ success.length ≤ retries + 1
  callback : Option (Option Raised × Timestamp)

section

variable (sha256Hex : String → String) (describe : Failure → List Nat)

/-- `succeed` -/
def succeed (dagId dagRunId : String) (finishedAt : Timestamp) : Effect :=
  perform sha256Hex describe (some (.finishSuccess finishedAt : Call dagId dagRunId))

/-- The error `_persist_dag_failure` stores. -/
def callbackError (exception : Option Raised) : Raised :=
  exception.getD (.other (codePoints "Airflow DAG run failed"))

/-- `_persist_dag_failure` -/
def persistDagFailure (dagId dagRunId : String) (exception : Option Raised)
    (finishedAt : Timestamp) : Effect :=
  persistFailure sha256Hex describe dagId dagRunId (callbackError exception) true finishedAt

section

variable {Step : Type} {makes : Call dagId dagRunId → Bool}

/-- The row behind an attempt, and whether the attempt succeeded. -/
def TaskAttempt.run (effect : Step → Effect) (attempt : TaskAttempt Step makes)
    (ledger : Option RefreshRun) : Option RefreshRun × Bool :=
  match attempt with
  | .ends step =>
      let (ledger', result) := effect step ledger
      (ledger', result.isOk)
  | .lost calls _ => (calls.foldl (fun ledger c => (c.run sha256Hex ledger).1) ledger, false)

/-- The task ends with the first attempt that succeeds. -/
def runTask (effect : Step → Effect) :
    List (TaskAttempt Step makes) → Option RefreshRun → Option RefreshRun × Bool
  | [], ledger => (ledger, false)
  | attempt :: attempts, ledger =>
      match attempt.run sha256Hex effect ledger with
      | (ledger', true) => (ledger', true)
      | (ledger', false) => runTask effect attempts ledger'

/-- The task ends with this step: its attempt succeeds, and none of those before it did. -/
def EndsWith (effect : Step → Effect) (attempts : List (TaskAttempt Step makes))
    (ledger : Option RefreshRun) (step : Step) (after : Option RefreshRun) : Prop :=
  ∃ failed rest before, attempts = failed ++ .ends step :: rest
    ∧ runTask sha256Hex effect failed ledger = (before, false)
    ∧ effect step before = (after, .ok ())

end

variable (r : DagRun dagId dagRunId)

def DagRun.sourceEffect (step : SourceStep) : Effect :=
  recordAndCheckSource sha256Hex describe r.identity step.startedAt step.sourceRelation
    step.watermark step.result step.finishedAt

def DagRun.buildEffect (_ : DagRun dagId dagRunId) (step : BuildStep) : Effect :=
  AnalyticsRefresh.build sha256Hex describe dagId dagRunId step.result step.finishedAt

/-- `first >> second` -/
def downstream (first second : Option RefreshRun → Option RefreshRun × Bool)
    (ledger : Option RefreshRun) : Option RefreshRun × Bool :=
  if (first ledger).2 then second (first ledger).1 else first ledger

/-- `source_check >> build >> success` -/
def DagRun.runTasks : Option RefreshRun → Option RefreshRun × Bool :=
  downstream (runTask sha256Hex (r.sourceEffect sha256Hex describe) r.source)
    (downstream (runTask sha256Hex (r.buildEffect sha256Hex describe) r.build)
      (runTask sha256Hex (succeed sha256Hex describe dagId dagRunId) r.success))

/-- The row behind a run, and whether the run succeeded. -/
def DagRun.run (ledger : Option RefreshRun) : Option RefreshRun × Bool :=
  let (ledger', succeeded) := r.runTasks sha256Hex describe ledger
  match succeeded, r.callback with
  | false, some (exception, finishedAt) =>
      ((persistDagFailure sha256Hex describe dagId dagRunId exception finishedAt ledger').1, false)
  | _, _ => (ledger', succeeded)

/-- The row behind runs of one identity, the later ones after the first was cleared. -/
def runDags (runs : List (DagRun dagId dagRunId)) (ledger : Option RefreshRun) :
    Option RefreshRun :=
  runs.foldl (fun ledger r => (r.run sha256Hex describe ledger).1) ledger

end

/-! ## Effects that return -/

section

variable {sha256Hex : String → String} {describe : Failure → List Nat}
  {ledger ledger' : Option RefreshRun}

theorem perform_ok {call : Option (Call dagId dagRunId)}
    (h : perform sha256Hex describe call ledger = (ledger', .ok ())) :
    ∃ c id, call = some c ∧ c.statement sha256Hex ledger = .ok (ledger', some id) := by
  cases call with
  | none => cases h
  | some c =>
      cases hs : c.statement sha256Hex ledger with
      | error e =>
          rw [perform_of_error hs] at h
          cases h
      | ok result =>
          obtain ⟨written, id⟩ := result
          simp only [perform, Call.run, hs] at h
          cases id with
          | none => cases h
          | some id =>
              cases h
              exact ⟨c, id, rfl, hs⟩

/-- A storage call that raises leaves the row. -/
theorem perform_error {call : Option (Call dagId dagRunId)} {error : Raised}
    (h : perform sha256Hex describe call ledger = (ledger', .error error)) : ledger' = ledger := by
  cases call with
  | none =>
      cases h
      rfl
  | some c =>
      cases hs : c.statement sha256Hex ledger with
      | error e =>
          rw [perform_of_error hs] at h
          cases h
          rfl
      | ok result =>
          obtain ⟨written, id⟩ := result
          rcases statement_ok hs with ⟨rfl, rfl⟩ | ⟨new, rfl, rfl, -, -⟩
          · rw [perform_of_rejected hs] at h
            cases h
            rfl
          · rw [perform_of_ok hs] at h
            cases h

theorem Effect.andThen_ok {first second : Effect}
    (h : first.andThen second ledger = (ledger', .ok ())) :
    ∃ middle, first ledger = (middle, .ok ()) ∧ second middle = (ledger', .ok ()) := by
  cases hfirst : first ledger with
  | mk middle result =>
      cases result with
      | ok u => exact ⟨middle, rfl, (Effect.andThen_of_ok second hfirst).symm.trans h⟩
      | error error =>
          rw [Effect.andThen_of_error second hfirst] at h
          cases h

/-- Behind the handler the exception is raised again. -/
theorem Effect.guarded_ok {body : Effect} {handler : Raised → Effect}
    (h : body.guarded handler ledger = (ledger', .ok ())) : body ledger = (ledger', .ok ()) := by
  cases hbody : body ledger with
  | mk middle result =>
      cases result with
      | ok u =>
          rw [Effect.guarded_of_ok handler hbody] at h
          exact h
      | error error =>
          rw [Effect.guarded_of_error handler hbody] at h
          obtain ⟨other, hother⟩ := Effect.andThen_raise_snd (handler error) middle error
          rw [h] at hother
          cases hother

theorem Effect.ofExcept_ok {α : Type} {result : Except Raised α} {next : α → Effect}
    (h : Effect.ofExcept result next ledger = (ledger', .ok ())) :
    ∃ a, result = .ok a ∧ next a ledger = (ledger', .ok ()) := by
  cases result with
  | ok a => exact ⟨a, rfl, h⟩
  | error error => cases h

/-! ## Effects and invariants -/

variable {I : Option RefreshRun → Prop}

theorem keeps_perform_of {call : Option (Call dagId dagRunId)}
    (h : ∀ c ∈ call, (perform sha256Hex describe (some c)).Keeps I) :
    (perform sha256Hex describe call).Keeps I := by
  cases call with
  | none => exact fun _ hledger => hledger
  | some c => exact h c rfl

theorem keeps_persistFailure_of {makes : Call dagId dagRunId → Bool}
    (hmakes : ∀ finishedAt category errorSummary summary,
      makes (.finishFailure finishedAt category errorSummary summary) = true)
    (h : ∀ c, makes c = true → (perform sha256Hex describe (some c)).Keeps I) (error : Raised)
    (includeResultSummary : Bool) (finishedAt : Timestamp) :
    (persistFailure sha256Hex describe dagId dagRunId error includeResultSummary
      finishedAt).Keeps I := by
  refine keeps_perform_of fun c hc => h c ?_
  obtain ⟨errorSummary, -, hrest⟩ := Option.bind_eq_some_iff.mp hc
  obtain ⟨stored, -, hcall⟩ := Option.bind_eq_some_iff.mp hrest
  cases hcall
  exact hmakes _ _ _ _

/-- The steps keep what their storage calls keep. -/
theorem keeps_source_of
    (h : ∀ c, sourceCalls dagId dagRunId c = true → (perform sha256Hex describe (some c)).Keeps I)
    (identity : RefreshRunIdentity dagId dagRunId) (step : SourceStep) :
    (recordAndCheckSource sha256Hex describe identity step.startedAt step.sourceRelation
      step.watermark step.result step.finishedAt).Keeps I := by
  have hrecord : ∀ summary : ArtifactSummary,
      (recordSource sha256Hex describe dagId dagRunId summary).Keeps I := by
    intro summary
    refine keeps_perform_of fun c hc => h c ?_
    obtain ⟨stored, -, rfl⟩ := Option.map_eq_some_iff.mp hc
    rfl
  have hpersist : ∀ error, (persistFailure sha256Hex describe dagId dagRunId error false
      step.finishedAt).Keeps I := fun error =>
    keeps_persistFailure_of (fun _ _ _ _ => rfl) h error false step.finishedAt
  refine .andThen (h _ rfl) (.guarded (.andThen (.ofExcept _ fun _ => h _ rfl)
    (.ofExcept _ hrecord)) fun error => ?_)
  unfold sourceHandler
  cases error.summary with
  | none => exact hpersist error
  | some summary => exact (hrecord summary).andThen (hpersist error)

theorem keeps_build_of
    (h : ∀ c, buildCalls dagId dagRunId c = true → (perform sha256Hex describe (some c)).Keeps I)
    (step : BuildStep) :
    (build sha256Hex describe dagId dagRunId step.result step.finishedAt).Keeps I := by
  refine .guarded (.andThen (h _ rfl) (.ofExcept _ fun summary => ?_)) fun error =>
    keeps_persistFailure_of (fun _ _ _ _ => rfl) h error true step.finishedAt
  refine keeps_perform_of fun c hc => h c ?_
  obtain ⟨stored, -, rfl⟩ := Option.map_eq_some_iff.mp hc
  rfl

section

variable {Step : Type} {makes : Call dagId dagRunId → Bool}

/-- An attempt that fails leaves the rest of the task to the attempts after it. -/
theorem runTask_of_false {effect : Step → Effect} {attempt : TaskAttempt Step makes}
    (hrun : attempt.run sha256Hex effect ledger = (ledger', false))
    (attempts : List (TaskAttempt Step makes)) :
    runTask sha256Hex effect (attempt :: attempts) ledger
      = runTask sha256Hex effect attempts ledger' := by
  rw [runTask, hrun]

theorem endsWith_of_false {effect : Step → Effect} {attempt : TaskAttempt Step makes}
    (hrun : attempt.run sha256Hex effect ledger = (ledger', false))
    {attempts : List (TaskAttempt Step makes)} {step : Step} {after : Option RefreshRun}
    (h : EndsWith sha256Hex effect attempts ledger' step after) :
    EndsWith sha256Hex effect (attempt :: attempts) ledger step after := by
  obtain ⟨failed, rest, before, rfl, hfailed, hstep⟩ := h
  exact ⟨attempt :: failed, rest, before, rfl, (runTask_of_false hrun failed).trans hfailed, hstep⟩

/-- A task keeps what its storage calls and its steps keep, and where it succeeds, it ends with a
step of one of its attempts, in such a state. -/
theorem runTask_spec (effect : Step → Effect)
    (hcalls : ∀ c, makes c = true → (perform sha256Hex describe (some c)).Keeps I)
    (hsteps : ∀ step, (effect step).Keeps I) (attempts : List (TaskAttempt Step makes))
    (hledger : I ledger) :
    I (runTask sha256Hex effect attempts ledger).1
    ∧ ((runTask sha256Hex effect attempts ledger).2 = true →
      ∃ step before, I before
        ∧ effect step before = ((runTask sha256Hex effect attempts ledger).1, .ok ())
        ∧ EndsWith sha256Hex effect attempts ledger step
          (runTask sha256Hex effect attempts ledger).1) := by
  induction attempts generalizing ledger with
  | nil => exact ⟨hledger, fun h => nomatch h⟩
  | cons attempt attempts ih =>
      have hnext : ∀ ledger', I ledger' →
          attempt.run sha256Hex effect ledger = (ledger', false) →
          I (runTask sha256Hex effect (attempt :: attempts) ledger).1
          ∧ ((runTask sha256Hex effect (attempt :: attempts) ledger).2 = true →
            ∃ step before, I before
              ∧ effect step before
                = ((runTask sha256Hex effect (attempt :: attempts) ledger).1, .ok ())
              ∧ EndsWith sha256Hex effect (attempt :: attempts) ledger step
                (runTask sha256Hex effect (attempt :: attempts) ledger).1) := by
        intro ledger' hkept hrun
        rw [runTask_of_false hrun]
        obtain ⟨hend, hsucceeds⟩ := ih hkept
        refine ⟨hend, fun htrue => ?_⟩
        obtain ⟨step, before, hbefore, heffect, hends⟩ := hsucceeds htrue
        exact ⟨step, before, hbefore, heffect, endsWith_of_false hrun hends⟩
      cases attempt with
      | lost calls made =>
          refine hnext _ ?_ rfl
          clear hnext ih
          induction calls generalizing ledger with
          | nil => exact hledger
          | cons c calls ihcalls =>
              have hfirst : I (c.run sha256Hex ledger).1 := by
                have hkeep := hcalls c (made c List.mem_cons_self) ledger hledger
                have hsame : (perform sha256Hex describe (some c) ledger).1
                    = (c.run sha256Hex ledger).1 := by
                  simp only [perform]
                  split <;> rename_i heq <;> rw [heq]
                rwa [hsame] at hkeep
              exact ihcalls hfirst fun d hd => made d (List.mem_cons_of_mem _ hd)
      | ends step =>
          have hkept := hsteps step ledger hledger
          cases hstep : effect step ledger with
          | mk ledger' result =>
              rw [hstep] at hkept
              cases result with
              | error error =>
                  refine hnext ledger' hkept ?_
                  simp only [TaskAttempt.run, hstep]
                  rfl
              | ok u =>
                  have hrun : runTask sha256Hex effect (.ends step :: attempts) ledger
                      = (ledger', true) := by
                    simp only [runTask, TaskAttempt.run, hstep]
                    rfl
                  rw [hrun]
                  exact ⟨hkept, fun _ => ⟨step, ledger, hledger, hstep,
                    [], attempts, ledger, rfl, rfl, hstep⟩⟩

end

end

/-! ## The row of one identity -/

section

variable {sha256Hex : String → String} {describe : Failure → List Nat}
  {ledger ledger' : Option RefreshRun}

/-- The row is valid and has the keys of the run. -/
def OfRun (sha256Hex : String → String) (dagId dagRunId : String) (ledger : Option RefreshRun) :
    Prop :=
  ∀ row ∈ ledger, row.Valid ∧ row.runId = runId sha256Hex dagId dagRunId ∧ row.dagId = dagId
    ∧ row.dagRunId = dagRunId

/-- No statement changes the keys of a row, and a new row has those of the run. -/
theorem keys_of_statement {c : Call dagId dagRunId} {id : Option String}
    (h : c.statement sha256Hex ledger = .ok (ledger', id)) :
    ∀ new ∈ ledger', (ledger = none ∧ new.runId = runId sha256Hex dagId dagRunId
        ∧ new.dagId = dagId ∧ new.dagRunId = dagRunId)
      ∨ ∃ old ∈ ledger, new.runId = old.runId ∧ new.dagId = old.dagId
        ∧ new.dagRunId = old.dagRunId := by
  have hpure : ∀ {guard : List RunStatus} {set : RefreshRun → RefreshRun},
      (∀ old, (set old).runId = old.runId ∧ (set old).dagId = old.dagId
        ∧ (set old).dagRunId = old.dagRunId) →
      updateRun guard (fun row => .ok (set row)) ledger = .ok (ledger', id) →
      ∀ new ∈ ledger', ∃ old ∈ ledger, new.runId = old.runId ∧ new.dagId = old.dagId
        ∧ new.dagRunId = old.dagRunId := by
    intro guard set hset hupdate new hnew
    rcases updateRun_pure hupdate with ⟨-, rfl⟩ | ⟨old, -, hold, -, -, rfl⟩
    · exact ⟨new, hnew, rfl, rfl, rfl⟩
    · cases hnew
      exact ⟨old, hold, hset old⟩
  intro new hnew
  cases c with
  | beginRun identity startedAt sourceRelation =>
      obtain ⟨_, -, hrest⟩ := bind_eq_ok h
      cases ledger with
      | none =>
          cases hrest
          cases hnew
          exact Or.inl ⟨rfl, rfl, rfl, rfl⟩
      | some old =>
          refine Or.inr (hpure ?_ hrest new hnew)
          exact fun _ => ⟨rfl, rfl, rfl⟩
  | recordSource summary =>
      refine Or.inr (hpure ?_ h new hnew)
      exact fun _ => ⟨rfl, rfl, rfl⟩
  | recordWatermark watermark =>
      refine Or.inr (hpure ?_ h new hnew)
      exact fun _ => ⟨rfl, rfl, rfl⟩
  | recordBuild summary =>
      refine Or.inr (hpure ?_ h new hnew)
      exact fun _ => ⟨rfl, rfl, rfl⟩
  | resumeBuild =>
      refine Or.inr (hpure ?_ h new hnew)
      exact fun _ => ⟨rfl, rfl, rfl⟩
  | finishSuccess finishedAt =>
      refine Or.inr (hpure ?_ h new hnew)
      exact fun _ => ⟨rfl, rfl, rfl⟩
  | finishFailure finishedAt category errorSummary summary =>
      rcases updateRun_ok h with ⟨-, rfl⟩ | ⟨old, written, -, hold, -, hset, -, rfl⟩
      · exact Or.inr ⟨new, hnew, rfl, rfl, rfl⟩
      · obtain ⟨stored, -, hrow⟩ := bind_eq_ok hset
        cases hrow
        cases hnew
        exact Or.inr ⟨old, hold, rfl, rfl, rfl⟩

theorem keeps_ofRun (c : Call dagId dagRunId) :
    (perform sha256Hex describe (some c)).Keeps (OfRun sha256Hex dagId dagRunId) := by
  intro ledger hledger
  cases hs : c.statement sha256Hex ledger with
  | error e =>
      rw [perform_of_error hs]
      exact hledger
  | ok result =>
      obtain ⟨ledger', id⟩ := result
      have hkeys := keys_of_statement hs
      rcases statement_ok hs with ⟨rfl, rfl⟩ | ⟨new, rfl, rfl, hpass, -⟩
      · rw [perform_of_rejected hs]
        exact hledger
      · rw [perform_of_ok hs]
        intro row hrow
        cases hrow
        refine ⟨enforce_iff_valid.mp hpass, ?_⟩
        rcases hkeys new rfl with ⟨-, hsame⟩ | ⟨old, hold, hid, hdag, hrun⟩
        · exact hsame
        · obtain ⟨-, hid', hdag', hrun'⟩ := hledger old hold
          exact ⟨hid.trans hid', hdag.trans hdag', hrun.trans hrun'⟩

/-- No successful end yet. -/
def Startable (sha256Hex : String → String) (dagId dagRunId : String)
    (ledger : Option RefreshRun) : Prop :=
  OfRun sha256Hex dagId dagRunId ledger ∧ ∀ row ∈ ledger, row.status ≠ .succeeded

theorem keeps_startable {c : Call dagId dagRunId} (hc : ∀ t, c ≠ .finishSuccess t) :
    (perform sha256Hex describe (some c)).Keeps (Startable sha256Hex dagId dagRunId) := by
  rintro ledger ⟨hrun, hstatus⟩
  refine ⟨keeps_ofRun c ledger hrun, ?_⟩
  have hkeeps : (perform sha256Hex describe (some c)).Keeps Unsucceeded := by
    refine keeps_perform fun d hd => ?_
    cases hd
    exact hc
  exact fun row hrow => (hkeeps ledger (fun row hrow => ⟨(hrun row hrow).1, hstatus row hrow⟩)
    row hrow).2

theorem ne_finishSuccess_of_source {c : Call dagId dagRunId}
    (hc : sourceCalls dagId dagRunId c = true) (t : Timestamp) : c ≠ .finishSuccess t := by
  rintro rfl
  cases hc

theorem ne_finishSuccess_of_build {c : Call dagId dagRunId}
    (hc : buildCalls dagId dagRunId c = true) (t : Timestamp) : c ≠ .finishSuccess t := by
  rintro rfl
  cases hc

/-! ## What a task that succeeds leaves -/

/-- A call that returns stores the row it sets; one that does not keeps the old one. -/
theorem statement_some {c : Call dagId dagRunId} {row : RefreshRun} {id : Option String}
    (guard : List RunStatus) (set : RefreshRun → RefreshRun)
    (hset : c.statement sha256Hex (some row)
      = updateRun guard (fun row => .ok (set row)) (some row))
    (h : c.statement sha256Hex (some row) = .ok (ledger', id)) :
    (id = none ∧ ledger' = some row) ∨ (∃ id', id = some id') ∧ ledger' = some (set row) := by
  rcases updateRun_pure (hset.symm.trans h) with hsame | ⟨old, hid, hold, -, -, hnew⟩
  · exact Or.inl hsame
  · cases hold
    exact Or.inr ⟨⟨_, hid⟩, hnew⟩

/-- The row of a source step: whatever was there before, it is begun anew. -/
def sourceRow (sha256Hex : String → String) (identity : RefreshRunIdentity dagId dagRunId)
    (step : SourceStep) (watermark : SourceWatermark) (freshness : DbtResultSummary) :
    RefreshRun :=
  ((newRun sha256Hex identity step.startedAt step.sourceRelation).withWatermark
    watermark).withSource freshness

theorem source_ok {identity : RefreshRunIdentity dagId dagRunId} {step : SourceStep}
    (hrun : OfRun sha256Hex dagId dagRunId ledger)
    (h : recordAndCheckSource sha256Hex describe identity step.startedAt step.sourceRelation
      step.watermark step.result step.finishedAt ledger = (ledger', .ok ())) :
    ∃ watermark summary freshness, step.watermark = .ok watermark ∧ step.result = .ok summary
      ∧ summary.stored = some freshness
      ∧ ledger' = some (sourceRow sha256Hex identity step watermark freshness) := by
  obtain ⟨begun, hbegin, hbody⟩ := Effect.andThen_ok h
  obtain ⟨observed, hwatermark, hsource⟩ := Effect.andThen_ok (Effect.guarded_ok hbody)
  obtain ⟨watermark, hread, hrecord⟩ := Effect.ofExcept_ok hwatermark
  obtain ⟨summary, hresult, hfreshness⟩ := Effect.ofExcept_ok hsource
  have hbegun : begun = some (newRun sha256Hex identity step.startedAt step.sourceRelation) := by
    obtain ⟨c, id, hcall, hstatement⟩ := perform_ok hbegin
    cases hcall
    obtain ⟨_, -, hrest⟩ := bind_eq_ok hstatement
    cases ledger with
    | none =>
        cases hrest
        rfl
    | some old =>
        obtain ⟨-, hid, hdag, hdagRun⟩ := hrun old rfl
        rcases updateRun_pure hrest with ⟨hnone, -⟩ | ⟨found, -, hfound, -, -, rfl⟩
        · cases hnone
        · cases hfound
          rw [hid, hdag, hdagRun]
          rfl
  obtain ⟨c, id, hcall, hstatement⟩ := perform_ok hrecord
  cases hcall
  obtain ⟨c', id', hcall', hstatement'⟩ := perform_ok hfreshness
  obtain ⟨freshness, hstored, rfl⟩ := Option.map_eq_some_iff.mp hcall'
  refine ⟨watermark, summary, freshness, hread, hresult, hstored, ?_⟩
  rw [hbegun] at hstatement
  rcases statement_some [.running] (RefreshRun.withWatermark · watermark) rfl hstatement with
    ⟨hnone, -⟩ | ⟨-, rfl⟩
  · cases hnone
  rcases statement_some [.running] (RefreshRun.withSource · freshness) rfl hstatement' with
    ⟨hnone, -⟩ | ⟨-, rfl⟩
  · cases hnone
  rfl

/-- Only the columns of a build and of the state differ from the row. -/
def Rebuilds (row : RefreshRun) (ledger : Option RefreshRun) : Prop :=
  ∃ row', ledger = some row' ∧ ∀ built, row'.resumed.withBuild built = row.withBuild built

theorem keeps_rebuilds (row : RefreshRun) {c : Call dagId dagRunId}
    (hc : buildCalls dagId dagRunId c = true) :
    (perform sha256Hex describe (some c)).Keeps (Rebuilds row) := by
  rintro ledger ⟨row', rfl, hsame⟩
  cases hs : c.statement sha256Hex (some row') with
  | error e =>
      rw [perform_of_error hs]
      exact ⟨row', rfl, hsame⟩
  | ok result =>
      obtain ⟨ledger', id⟩ := result
      have hwritten : Rebuilds row ledger' := by
        cases c with
        | resumeBuild =>
            rcases statement_some [.running, .failed] RefreshRun.resumed rfl hs with
              ⟨-, rfl⟩ | ⟨-, rfl⟩
            · exact ⟨row', rfl, hsame⟩
            · exact ⟨_, rfl, hsame⟩
        | recordBuild summary =>
            rcases statement_some [.running] (RefreshRun.withBuild · summary) rfl hs with
              ⟨-, rfl⟩ | ⟨-, rfl⟩
            · exact ⟨row', rfl, hsame⟩
            · exact ⟨_, rfl, hsame⟩
        | finishFailure finishedAt category errorSummary summary =>
            have hupdate : finishFailureStatement finishedAt category errorSummary summary
                (some row') = .ok (ledger', id) := hs
            unfold finishFailureStatement at hupdate
            rcases updateRun_ok hupdate with ⟨-, rfl⟩ | ⟨old, new, -, hold, -, hset, -, rfl⟩
            · exact ⟨row', rfl, hsame⟩
            · cases hold
              obtain ⟨stored, -, hrow⟩ := bind_eq_ok hset
              cases hrow
              exact ⟨_, rfl, hsame⟩
        | _ => cases hc
      cases id with
      | none =>
          rcases statement_ok hs with ⟨-, rfl⟩ | ⟨new, hid, -, -, -⟩
          · rw [perform_of_rejected hs]
            exact hwritten
          · cases hid
      | some id =>
          rw [perform_of_ok hs]
          exact hwritten

theorem build_ok {row : RefreshRun} {step : BuildStep} (hrow : Rebuilds row ledger)
    (h : build sha256Hex describe dagId dagRunId step.result step.finishedAt ledger
      = (ledger', .ok ())) :
    ∃ summary built, step.result = .ok summary ∧ summary.stored = some built
      ∧ ledger' = some (row.withBuild built) := by
  obtain ⟨middle, hresume, hrest⟩ := Effect.andThen_ok (Effect.guarded_ok h)
  obtain ⟨summary, hresult, hrecord⟩ := Effect.ofExcept_ok hrest
  obtain ⟨row', rfl, hsame⟩ := hrow
  obtain ⟨c, id, hcall, hstatement⟩ := perform_ok hresume
  cases hcall
  obtain ⟨c', id', hcall', hstatement'⟩ := perform_ok hrecord
  obtain ⟨built, hstored, rfl⟩ := Option.map_eq_some_iff.mp hcall'
  rcases statement_some [.running, .failed] RefreshRun.resumed rfl hstatement with
    ⟨hnone, -⟩ | ⟨-, rfl⟩
  · cases hnone
  rcases statement_some [.running] (RefreshRun.withBuild · built) rfl hstatement' with
    ⟨hnone, -⟩ | ⟨-, rfl⟩
  · cases hnone
  exact ⟨summary, built, hresult, hstored, congrArg some (hsame built)⟩

/-- Only the state differs from the row. -/
def Refinishes (row : RefreshRun) (ledger : Option RefreshRun) : Prop :=
  ∃ row', ledger = some row' ∧ ∀ t, row'.finishedAgain t = row.finishedAgain t

theorem keeps_refinishes (row : RefreshRun) {c : Call dagId dagRunId}
    (hc : successCalls dagId dagRunId c = true) :
    (perform sha256Hex describe (some c)).Keeps (Refinishes row) := by
  rintro ledger ⟨row', rfl, hsame⟩
  cases c with
  | finishSuccess finishedAt =>
      cases hs : (Call.finishSuccess finishedAt : Call dagId dagRunId).statement sha256Hex
          (some row') with
      | error e =>
          rw [perform_of_error hs]
          exact ⟨row', rfl, hsame⟩
      | ok result =>
          obtain ⟨ledger', id⟩ := result
          rcases statement_some [.running, .succeeded] (RefreshRun.finishedAgain · finishedAt)
            rfl hs with ⟨rfl, rfl⟩ | ⟨⟨id', rfl⟩, rfl⟩
          · rw [perform_of_rejected hs]
            exact ⟨row', rfl, hsame⟩
          · rw [perform_of_ok hs]
            exact ⟨_, rfl, hsame⟩
  | _ => cases hc

theorem succeed_ok {row : RefreshRun} {t : Timestamp} (hrow : Refinishes row ledger)
    (h : succeed sha256Hex describe dagId dagRunId t ledger = (ledger', .ok ())) :
    ledger' = some (row.finishedAgain t) := by
  obtain ⟨row', rfl, hsame⟩ := hrow
  obtain ⟨c, id, hcall, hstatement⟩ := perform_ok h
  cases hcall
  rcases statement_some [.running, .succeeded] (RefreshRun.finishedAgain · t) rfl hstatement with
    ⟨hnone, -⟩ | ⟨-, rfl⟩
  · cases hnone
  exact congrArg some (hsame t)

end

/-! ## A run that fails -/

section

variable {sha256Hex : String → String} {describe : Failure → List Nat}
  {ledger ledger' : Option RefreshRun}

/-- Nothing but `finish_success` writes over a succeeded row. -/
theorem keeps_succeeded {row : RefreshRun} (hs : row.status = .succeeded)
    {c : Call dagId dagRunId} (hc : ∀ t, c ≠ .finishSuccess t) :
    (perform sha256Hex describe (some c)).Keeps (· = some row) := by
  rintro ledger rfl
  rcases statement_succeeded sha256Hex hs hc with hkeep | ⟨e, he⟩
  · rw [perform_of_rejected hkeep]
  · rw [perform_of_error he]

theorem source_succeeded {row : RefreshRun} (hs : row.status = .succeeded)
    (identity : RefreshRunIdentity dagId dagRunId) (step : SourceStep) :
    recordAndCheckSource sha256Hex describe identity step.startedAt step.sourceRelation
      step.watermark step.result step.finishedAt (some row) ≠ (ledger', .ok ()) := by
  intro h
  obtain ⟨begun, hbegin, -⟩ := Effect.andThen_ok h
  obtain ⟨c, id, hcall, hstatement⟩ := perform_ok hbegin
  cases hcall
  have hne : ∀ t, (Call.beginRun identity step.startedAt step.sourceRelation
      : Call dagId dagRunId) ≠ .finishSuccess t := fun _ h => nomatch h
  rcases statement_succeeded sha256Hex hs hne with hkeep | ⟨e, he⟩
  · rw [hkeep] at hstatement
    cases hstatement
  · rw [he] at hstatement
    cases hstatement

/-- A cleared run that had succeeded fails, and leaves its row. -/
theorem DagRun.run_of_succeeded (r : DagRun dagId dagRunId) {row : RefreshRun}
    (hs : row.status = .succeeded) :
    r.run sha256Hex describe (some row) = (some row, false) := by
  have hcalls : ∀ c, sourceCalls dagId dagRunId c = true →
      (perform sha256Hex describe (some c)).Keeps (· = some row) :=
    fun c hc => keeps_succeeded hs (ne_finishSuccess_of_source hc)
  obtain ⟨hkept, hends⟩ := runTask_spec (r.sourceEffect sha256Hex describe) hcalls
    (fun step => keeps_source_of hcalls r.identity step) r.source rfl
  have htask : runTask sha256Hex (r.sourceEffect sha256Hex describe) r.source (some row)
      = (some row, false) := by
    refine Prod.ext hkept ?_
    by_contra htrue
    obtain ⟨step, before, rfl, hend, -⟩ := hends (Bool.eq_true_of_not_eq_false htrue)
    exact source_succeeded hs r.identity step hend
  have htasks : r.runTasks sha256Hex describe (some row) = (some row, false) := by
    unfold DagRun.runTasks downstream
    rw [htask, if_neg Bool.false_ne_true]
  unfold DagRun.run
  rw [htasks]
  cases hcallback : r.callback with
  | none => rfl
  | some found =>
      obtain ⟨exception, finishedAt⟩ := found
      have hpersist : (persistDagFailure sha256Hex describe dagId dagRunId exception finishedAt
          (some row)).1 = some row :=
        keeps_persistFailure_of (fun _ _ _ _ => rfl) hcalls _ true finishedAt _ rfl
      dsimp only
      rw [hpersist]

/-- The error the callback stores when its context has no exception. -/
theorem failureFits_callbackError :
    FailureFits (callbackError none) (callbackError none).summary where
  category := by decide
  text := by
    apply fitsCodes_sanitizeError
    exact (fitsCodes_codePoints _).trans (by decide)
  summary _ h := nomatch h

/-- Over a failed row `finish_failure` writes another failed one. -/
theorem keeps_failed (finishedAt : Timestamp) (category errorSummary : String)
    (summary : Option DbtResultSummary) :
    (perform sha256Hex describe (some (.finishFailure finishedAt category errorSummary summary
      : Call dagId dagRunId))).Keeps fun ledger => ∀ row ∈ ledger, row.status = .failed := by
  intro ledger hfailed
  cases hs : (Call.finishFailure finishedAt category errorSummary summary
      : Call dagId dagRunId).statement sha256Hex ledger with
  | error e =>
      rw [perform_of_error hs]
      exact hfailed
  | ok result =>
      obtain ⟨ledger', id⟩ := result
      rcases statement_ok hs with ⟨rfl, rfl⟩ | ⟨new, rfl, rfl, -, hwritten⟩
      · rw [perform_of_rejected hs]
        exact hfailed
      · rw [perform_of_ok hs]
        intro row hrow
        cases hrow
        cases hwritten with
        | restarted hc guard status => cases hc
        | recorded old hc hf before guard status => cases hf
        | succeeded old hc hf before guard status => cases hf
        | failed old report stored hc hf before guard status category fits summary =>
            exact status

/-- A callback that gets through leaves no running row, and a succeeded one only where it was. -/
theorem persistDagFailure_spec (hstored : ∀ row ∈ ledger, row.Valid) {exception : Option Raised}
    (hfits : FailureFits (callbackError exception) (callbackError exception).summary)
    (finishedAt : Timestamp) :
    ∀ row ∈ (persistDagFailure sha256Hex describe dagId dagRunId exception finishedAt ledger).1,
      row.status = .failed ∨ row.status = .succeeded ∧ ledger = some row := by
  cases ledger with
  | none =>
      intro row hrow
      have hkeeps : (persistDagFailure sha256Hex describe dagId dagRunId exception finishedAt
          none).1 = none := by
        refine keeps_perform_of (I := (· = none)) (fun c hc => ?_) none rfl
        obtain ⟨errorSummary, -, hrest⟩ := Option.bind_eq_some_iff.mp hc
        obtain ⟨stored, -, hcall⟩ := Option.bind_eq_some_iff.mp hrest
        cases hcall
        rintro _ rfl
        rw [perform_of_rejected rfl]
      rw [hkeeps] at hrow
      cases hrow
  | some old =>
      have hvalid := hstored old rfl
      cases hs : old.status with
      | running =>
          rcases persistFailure_running sha256Hex describe dagId dagRunId hvalid hs
            (callbackError exception) true finishedAt rfl with
            ⟨-, stored, parameters, -, -, hrun, -⟩ | ⟨hnot, -⟩
          · intro row hrow
            unfold persistDagFailure at hrow
            rw [hrun] at hrow
            cases hrow
            exact Or.inl rfl
          · exact absurd hfits hnot
      | succeeded =>
          have hkeeps : (persistDagFailure sha256Hex describe dagId dagRunId exception finishedAt
              (some old)).1 = some old :=
            keeps_persistFailure_of (fun _ _ _ _ => rfl)
              (fun c hc => keeps_succeeded hs (ne_finishSuccess_of_source hc)) _ true finishedAt _
              rfl
          intro row hrow
          rw [hkeeps] at hrow
          cases hrow
          exact Or.inr ⟨hs, rfl⟩
      | failed =>
          have hkeeps : ∀ row ∈ (persistDagFailure sha256Hex describe dagId dagRunId exception
              finishedAt (some old)).1, row.status = .failed := by
            refine keeps_perform_of (I := fun ledger => ∀ row ∈ ledger, row.status = .failed)
              (fun c hc => ?_) (some old) fun row hrow => ?_
            · obtain ⟨errorSummary, -, hrest⟩ := Option.bind_eq_some_iff.mp hc
              obtain ⟨stored, -, hcall⟩ := Option.bind_eq_some_iff.mp hrest
              cases hcall
              exact keeps_failed finishedAt _ errorSummary stored
            · cases hrow
              exact hs
          exact fun row hrow => Or.inl (hkeeps row hrow)

end

/-! ## Runs of the DAG -/

/-- The row is that of the steps the tasks of the run ended with, each of them on the row the one
before it left. -/
structure DagRun.Recorded (sha256Hex : String → String) (describe : Failure → List Nat)
    (r : DagRun dagId dagRunId) (ledger : Option RefreshRun) (source : SourceStep)
    (build : BuildStep) (finishedAt : Timestamp) (row : RefreshRun) : Prop where
  ends : ∃ checked built,
    EndsWith sha256Hex (r.sourceEffect sha256Hex describe) r.source ledger source checked
    ∧ EndsWith sha256Hex (r.buildEffect sha256Hex describe) r.build checked build built
    ∧ EndsWith sha256Hex (succeed sha256Hex describe dagId dagRunId) r.success built finishedAt
      (some row)
  row_eq : ∃ watermark summary freshness result built, source.watermark = .ok watermark
    ∧ source.result = .ok summary ∧ summary.stored = some freshness
    ∧ build.result = .ok result ∧ result.stored = some built
    ∧ row = ((sourceRow sha256Hex r.identity source watermark freshness).withBuild
        built).finishedAgain finishedAt

/-- A worker was lost behind a storage call of `persist_success`. -/
def DagRun.LostSuccess (r : DagRun dagId dagRunId) : Prop :=
  ∃ calls made, .lost calls made ∈ r.success ∧ calls ≠ []

section

variable (sha256Hex : String → String) (describe : Failure → List Nat)

/-- An attempt to end the run that raises leaves the row. -/
theorem ledger_of_success_false
    {attempts : List (TaskAttempt Timestamp (successCalls dagId dagRunId))}
    {ledger : Option RefreshRun}
    (hlost : ∀ calls made, .lost calls made ∈ attempts → calls = [])
    (hfails : (runTask sha256Hex (succeed sha256Hex describe dagId dagRunId) attempts ledger).2
      = false) :
    (runTask sha256Hex (succeed sha256Hex describe dagId dagRunId) attempts ledger).1 = ledger := by
  induction attempts generalizing ledger with
  | nil => rfl
  | cons attempt attempts ih =>
      have hrest : ∀ calls made, .lost calls made ∈ attempts → calls = [] :=
        fun calls made hmem => hlost calls made (List.mem_cons_of_mem _ hmem)
      cases attempt with
      | lost calls made =>
          obtain rfl := hlost calls made List.mem_cons_self
          exact ih hrest hfails
      | ends t =>
          cases hstep : succeed sha256Hex describe dagId dagRunId t ledger with
          | mk ledger' result =>
              cases result with
              | ok u =>
                  simp only [runTask, TaskAttempt.run, hstep] at hfails
                  cases hfails
              | error error =>
                  obtain rfl := perform_error hstep
                  have hsame : runTask sha256Hex (succeed sha256Hex describe dagId dagRunId)
                      (.ends t :: attempts) ledger' = runTask sha256Hex
                        (succeed sha256Hex describe dagId dagRunId) attempts ledger' := by
                    simp only [runTask, TaskAttempt.run, hstep]
                    rfl
                  rw [hsame] at hfails ⊢
                  exact ih hrest hfails

theorem downstream_of_true {first second : Option RefreshRun → Option RefreshRun × Bool}
    {ledger : Option RefreshRun} (h : (first ledger).2 = true) :
    downstream first second ledger = second (first ledger).1 := if_pos h

theorem downstream_of_false {first second : Option RefreshRun → Option RefreshRun × Bool}
    {ledger : Option RefreshRun} (h : (first ledger).2 = false) :
    downstream first second ledger = first ledger := if_neg (by rw [h]; decide)

theorem Effect.Keeps.and {J : Option RefreshRun → Prop} {K : Option RefreshRun → Prop}
    {effect : Effect} (h : effect.Keeps J) (h' : effect.Keeps K) :
    effect.Keeps fun ledger => J ledger ∧ K ledger :=
  fun ledger hboth => ⟨h ledger hboth.1, h' ledger hboth.2⟩

/-- Behind `persist_success`, where it succeeds the row with one of its ends. -/
theorem success_spec (r : DagRun dagId dagRunId) {row : RefreshRun}
    (hrow : OfRun sha256Hex dagId dagRunId (some row)) :
    let after := runTask sha256Hex (succeed sha256Hex describe dagId dagRunId) r.success (some row)
    OfRun sha256Hex dagId dagRunId after.1
    ∧ (after.2 = true → ∃ finishedAt, after.1 = some (row.finishedAgain finishedAt)
        ∧ EndsWith sha256Hex (succeed sha256Hex describe dagId dagRunId) r.success (some row)
          finishedAt after.1) := by
  intro after
  have hkeeps : ∀ c, successCalls dagId dagRunId c = true →
      (perform sha256Hex describe (some c)).Keeps fun ledger =>
        OfRun sha256Hex dagId dagRunId ledger ∧ Refinishes row ledger :=
    fun c hc => (keeps_ofRun c).and (keeps_refinishes row hc)
  obtain ⟨⟨hafter, -⟩, hends⟩ := runTask_spec (succeed sha256Hex describe dagId dagRunId) hkeeps
    (fun finishedAt => hkeeps (.finishSuccess finishedAt) rfl) r.success
    ⟨hrow, row, rfl, fun _ => rfl⟩
  refine ⟨hafter, fun htrue => ?_⟩
  obtain ⟨finishedAt, before, ⟨-, hbefore⟩, hend, hlast⟩ := hends htrue
  exact ⟨finishedAt, succeed_ok hbefore hend, hlast⟩

/-- Behind `dbt_build` and `persist_success`, started from a running row. -/
theorem build_spec (r : DagRun dagId dagRunId) {row : RefreshRun}
    (hrow : OfRun sha256Hex dagId dagRunId (some row)) (hresumed : row.resumed = row) :
    let after := downstream (runTask sha256Hex (r.buildEffect sha256Hex describe) r.build)
      (runTask sha256Hex (succeed sha256Hex describe dagId dagRunId) r.success) (some row)
    OfRun sha256Hex dagId dagRunId after.1
    ∧ (after.2 = true → ∃ build result built finishedAt,
        build.result = .ok result ∧ result.stored = some built
        ∧ after.1 = some ((row.withBuild built).finishedAgain finishedAt)
        ∧ EndsWith sha256Hex (r.buildEffect sha256Hex describe) r.build (some row) build
          (some (row.withBuild built))
        ∧ EndsWith sha256Hex (succeed sha256Hex describe dagId dagRunId) r.success
          (some (row.withBuild built)) finishedAt after.1) := by
  intro after
  have hkeeps : ∀ c, buildCalls dagId dagRunId c = true →
      (perform sha256Hex describe (some c)).Keeps fun ledger =>
        OfRun sha256Hex dagId dagRunId ledger ∧ Rebuilds row ledger :=
    fun c hc => (keeps_ofRun c).and (keeps_rebuilds row hc)
  obtain ⟨⟨hbuild, -⟩, hends⟩ := runTask_spec (r.buildEffect sha256Hex describe) hkeeps
    (fun step => keeps_build_of hkeeps step) r.build
    ⟨hrow, row, rfl, fun built => congrArg (RefreshRun.withBuild · built) hresumed⟩
  cases htask : (runTask sha256Hex (r.buildEffect sha256Hex describe) r.build (some row)).2 with
  | false =>
      have hafter : after = _ := downstream_of_false htask
      rw [hafter]
      exact ⟨hbuild, fun htrue => absurd (htask.symm.trans htrue) Bool.false_ne_true⟩
  | true =>
      have hafter : after = _ := downstream_of_true htask
      obtain ⟨build, before, ⟨-, hbefore⟩, hend, hlast⟩ := hends htask
      obtain ⟨result, built, hresult, hbuilt, hrow'⟩ := build_ok hbefore hend
      rw [hrow'] at hbuild hafter hlast
      obtain ⟨hkept, hsucceeds⟩ := success_spec sha256Hex describe r hbuild
      rw [hafter]
      refine ⟨hkept, fun htrue => ?_⟩
      obtain ⟨finishedAt, hfinished, hlast'⟩ := hsucceeds htrue
      exact ⟨build, result, built, finishedAt, hresult, hbuilt, hfinished, hlast, hlast'⟩

/-- Behind the tasks: a valid row of the run, and where they succeeded the one they recorded. -/
theorem runTasks_spec (r : DagRun dagId dagRunId) {ledger : Option RefreshRun}
    (hledger : OfRun sha256Hex dagId dagRunId ledger) :
    let after := r.runTasks sha256Hex describe ledger
    OfRun sha256Hex dagId dagRunId after.1
    ∧ (after.2 = true → ∃ source build finishedAt row, after.1 = some row
        ∧ r.Recorded sha256Hex describe ledger source build finishedAt row) := by
  intro after
  have hkeeps : ∀ c, sourceCalls dagId dagRunId c = true →
      (perform sha256Hex describe (some c)).Keeps (OfRun sha256Hex dagId dagRunId) :=
    fun c _ => keeps_ofRun c
  obtain ⟨hsource, hends⟩ := runTask_spec (r.sourceEffect sha256Hex describe) hkeeps
    (fun step => keeps_source_of hkeeps r.identity step) r.source hledger
  cases htask : (runTask sha256Hex (r.sourceEffect sha256Hex describe) r.source ledger).2 with
  | false =>
      have hafter : after = _ := downstream_of_false htask
      rw [hafter]
      exact ⟨hsource, fun htrue => absurd (htask.symm.trans htrue) Bool.false_ne_true⟩
  | true =>
      have hafter : after = _ := downstream_of_true htask
      obtain ⟨source, before, hbefore, hend, hlast⟩ := hends htask
      obtain ⟨watermark, summary, freshness, hwatermark, hsummary, hfreshness, hrow⟩ :=
        source_ok hbefore hend
      rw [hrow] at hsource hafter hlast
      obtain ⟨hkept, hsucceeds⟩ := build_spec sha256Hex describe r hsource rfl
      rw [hafter]
      refine ⟨hkept, fun htrue => ?_⟩
      obtain ⟨build, result, built, finishedAt, hresult, hbuilt, hfinished, hbuild, hfinish⟩ :=
        hsucceeds htrue
      rw [hfinished] at hfinish
      exact ⟨source, build, finishedAt, _, hfinished, ⟨_, _, hlast, hbuild, hfinish⟩, watermark,
        summary, freshness, result, built, hwatermark, hsummary, hfreshness, hresult, hbuilt, rfl⟩

/-- The tasks of a run that failed leave no succeeded row, unless a worker was lost behind
`finish_success`. -/
theorem unsucceeded_runTasks (r : DagRun dagId dagRunId) {ledger : Option RefreshRun}
    (hledger : Startable sha256Hex dagId dagRunId ledger) (hlost : ¬ r.LostSuccess)
    (hfails : (r.runTasks sha256Hex describe ledger).2 = false) :
    ∀ row ∈ (r.runTasks sha256Hex describe ledger).1, row.status ≠ .succeeded := by
  have hsourceKeeps : ∀ c, sourceCalls dagId dagRunId c = true →
      (perform sha256Hex describe (some c)).Keeps (Startable sha256Hex dagId dagRunId) :=
    fun c hc => keeps_startable (ne_finishSuccess_of_source hc)
  have hbuildKeeps : ∀ c, buildCalls dagId dagRunId c = true →
      (perform sha256Hex describe (some c)).Keeps (Startable sha256Hex dagId dagRunId) :=
    fun c hc => keeps_startable (ne_finishSuccess_of_build hc)
  obtain ⟨hsource, -⟩ := runTask_spec (r.sourceEffect sha256Hex describe) hsourceKeeps
    (fun step => keeps_source_of hsourceKeeps r.identity step) r.source hledger
  obtain ⟨hbuild, -⟩ := runTask_spec (r.buildEffect sha256Hex describe) hbuildKeeps
    (fun step => keeps_build_of hbuildKeeps step) r.build hsource
  unfold DagRun.runTasks at hfails ⊢
  cases hfirst : (runTask sha256Hex (r.sourceEffect sha256Hex describe) r.source ledger).2 with
  | false =>
      rw [downstream_of_false hfirst]
      exact hsource.2
  | true =>
      rw [downstream_of_true hfirst] at hfails ⊢
      cases hsecond : (runTask sha256Hex (r.buildEffect sha256Hex describe) r.build
          (runTask sha256Hex (r.sourceEffect sha256Hex describe) r.source ledger).1).2 with
      | false =>
          rw [downstream_of_false hsecond]
          exact hbuild.2
      | true =>
          rw [downstream_of_true hsecond] at hfails ⊢
          rw [ledger_of_success_false sha256Hex describe (fun calls made hmem => ?_) hfails]
          · exact hbuild.2
          · by_contra hne
            exact hlost ⟨calls, made, hmem, hne⟩

/-! ## The ledger behind the runs -/

theorem run_of_true (r : DagRun dagId dagRunId) {ledger : Option RefreshRun}
    (h : (r.runTasks sha256Hex describe ledger).2 = true) :
    r.run sha256Hex describe ledger = r.runTasks sha256Hex describe ledger := by
  unfold DagRun.run
  cases hrun : r.runTasks sha256Hex describe ledger with
  | mk after succeeded =>
      rw [hrun] at h
      cases h
      rfl

theorem run_of_false (r : DagRun dagId dagRunId) {ledger : Option RefreshRun}
    (h : (r.runTasks sha256Hex describe ledger).2 = false) :
    r.run sha256Hex describe ledger
      = match r.callback with
        | none => r.runTasks sha256Hex describe ledger
        | some (exception, finishedAt) =>
            ((persistDagFailure sha256Hex describe dagId dagRunId exception finishedAt
              (r.runTasks sha256Hex describe ledger).1).1, false) := by
  unfold DagRun.run
  cases hrun : r.runTasks sha256Hex describe ledger with
  | mk after succeeded =>
      rw [hrun] at h
      cases h
      cases r.callback <;> rfl

theorem ofRun_run (r : DagRun dagId dagRunId) {ledger : Option RefreshRun}
    (hledger : OfRun sha256Hex dagId dagRunId ledger) :
    OfRun sha256Hex dagId dagRunId (r.run sha256Hex describe ledger).1 := by
  obtain ⟨htasks, -⟩ := runTasks_spec sha256Hex describe r hledger
  have hkeeps : ∀ c, sourceCalls dagId dagRunId c = true →
      (perform sha256Hex describe (some c)).Keeps (OfRun sha256Hex dagId dagRunId) :=
    fun c _ => keeps_ofRun c
  cases hend : (r.runTasks sha256Hex describe ledger).2 with
  | true =>
      rw [run_of_true sha256Hex describe r hend]
      exact htasks
  | false =>
      rw [run_of_false sha256Hex describe r hend]
      cases r.callback with
      | none => exact htasks
      | some found =>
          exact keeps_persistFailure_of (fun _ _ _ _ => rfl) hkeeps _ true found.2 _ htasks

theorem ofRun_runDags (runs : List (DagRun dagId dagRunId)) :
    OfRun sha256Hex dagId dagRunId (runDags sha256Hex describe runs none) := by
  induction runs using List.reverseRecOn with
  | nil => exact fun _ h => nomatch h
  | append_singleton runs r ih =>
      unfold runDags
      rw [List.foldl_concat]
      exact ofRun_run sha256Hex describe r ih

/-- **The ledger and the DAG.** Behind any runs of one identity, a further run: fails and changes
nothing if the row had succeeded; leaves, if it succeeds, a valid succeeded row of nothing but its
own last steps, whatever the attempts before them did; and leaves, if it fails and its callback
gets through with an error that can be stored, no running row, and a succeeded one only if a worker
was lost behind `finish_success`. -/
theorem dag_runs (runs : List (DagRun dagId dagRunId)) (r : DagRun dagId dagRunId) :
    let ledger := runDags sha256Hex describe runs none
    let after := r.run sha256Hex describe ledger
    (∀ row, ledger = some row → row.status = .succeeded → after = (ledger, false))
    ∧ (after.2 = true → ∃ source build finishedAt row, after.1 = some row
        ∧ r.Recorded sha256Hex describe ledger source build finishedAt row ∧ row.Valid)
    ∧ (after.2 = false → (∀ row ∈ ledger, row.status ≠ .succeeded) →
        ∀ exception finishedAt, r.callback = some (exception, finishedAt) →
        (∀ error ∈ exception, FailureFits error error.summary) →
        ∀ row ∈ after.1, row.status = .failed ∨ row.status = .succeeded ∧ r.LostSuccess) := by
  intro ledger after
  have hledger : OfRun sha256Hex dagId dagRunId ledger := ofRun_runDags sha256Hex describe runs
  obtain ⟨htasks, hrecorded⟩ := runTasks_spec sha256Hex describe r hledger
  refine ⟨fun row hrow hs => ?_, ?_⟩
  · show r.run sha256Hex describe ledger = (ledger, false)
    rw [hrow]
    exact r.run_of_succeeded hs
  cases hend : (r.runTasks sha256Hex describe ledger).2 with
  | true =>
      have hafter : after = r.runTasks sha256Hex describe ledger :=
        run_of_true sha256Hex describe r hend
      rw [hafter]
      refine ⟨fun _ => ?_, fun hfalse => absurd (hend.symm.trans hfalse) (by decide)⟩
      obtain ⟨source, build, finishedAt, row, hrow, hsteps⟩ := hrecorded hend
      exact ⟨source, build, finishedAt, row, hrow, hsteps, (htasks row hrow).1⟩
  | false =>
      have hafter : after = _ := run_of_false sha256Hex describe r hend
      rw [hafter]
      refine ⟨fun htrue => ?_, fun _ hopen exception finishedAt hcallback hfits row hrow => ?_⟩
      · cases hcallback : r.callback with
        | none =>
            rw [hcallback] at htrue
            exact absurd (hend.symm.trans htrue) (by decide)
        | some found =>
            rw [hcallback] at htrue
            cases htrue
      · rw [hcallback] at hrow
        have hstored : FailureFits (callbackError exception) (callbackError exception).summary := by
          cases exception with
          | none => exact failureFits_callbackError
          | some error => exact hfits error rfl
        rcases persistDagFailure_spec (fun row hrow => (htasks row hrow).1) hstored finishedAt row
          hrow with hfailed | ⟨hs, hbefore⟩
        · exact Or.inl hfailed
        · refine Or.inr ⟨hs, ?_⟩
          by_contra hlost
          exact unsucceeded_runTasks sha256Hex describe r ⟨hledger, hopen⟩ hlost hend row hbefore hs

end

end

end AnalyticsRefresh
