import DeliveryIntelligence.AnalyticsRefresh.Evidence
import DeliveryIntelligence.AnalyticsRefresh.Summaries

set_option autoImplicit false

/-!
# Failed steps on the ledger

A step that raises because of its dbt command leaves a failed row with a category of its own and
a text, exactly if everything the command wrote can be read and stored (`failure_recorded_iff`):
an exception `parse_dbt_artifact` does not expect is stored as unexpected, and a NUL character or
a lone surrogate in the summary or in the text makes the exception handler itself raise.
-/

namespace AnalyticsRefresh

open Postgres Python

/-- The categories of a failure of the step. -/
def DbtStep.categories (step : DbtStep) : List String :=
  [step.category, "artifact_missing", "artifact_invalid"]

/-- The row is failed, with a category of the step and a text. -/
def FailureRecorded (step : DbtStep) (ledger : Option RefreshRun) : Prop :=
  ∃ row, ledger = some row ∧ row.status = .failed
    ∧ (∃ category ∈ step.categories, row.errorCategory = some category)
    ∧ ∃ errorSummary, row.errorSummary = some errorSummary ∧ errorSummary ≠ ""
      ∧ errorSummary.toList.length ≤ 1000

/-! ## What a step can store -/

/-- The step can store the result, an error under one of its categories. -/
def ResultFits (step : DbtStep) : Except Raised ArtifactSummary → Prop
  | .ok summary => summary.FitsStep step
  | .error error => error.category ∈ step.categories ∧ fitsCodes (sanitizeError error.text)
      ∧ ∀ summary ∈ error.summary, summary.FitsStep step

/-- Nothing but a decoding error of `json.loads` comes out of reading the artifact. -/
def Artifact.Readable (reading : Reading) : Artifact → Prop
  | .file contents => ∃ text, reading.readText contents = .ok text
      ∧ ∀ message, reading.loads text ≠ .error (.other message)
  | _ => True

/-- The artifact can be read, and what is taken from it and the text of a failure can be stored. -/
def OutcomeFits (reading : Reading) (settings : AnalyticsRefreshSettings) (step : DbtStep)
    (outcome : Outcome) : Prop :=
  match outcome.execution with
  | .raised message => fitsCodes (sanitizeError (sanitizeError message))
  | .completed result =>
      outcome.artifact.Readable reading ∧ outcome.artifact.FitsStep reading settings step
      ∧ (result.returncode ≠ 0 → fitsCodes (sanitizeError (failureMessage result)))

/-! ## What the runner raises -/

section

variable (reading : Reading) (maxFailures maxMessageChars : Nat)

theorem addResult_error {tally : Tally} {value : Value} {error : Raised}
    (h : addResult reading maxFailures maxMessageChars tally value = .error error) :
    error = .refreshError "artifact_invalid"
      (codePoints "dbt artifact contains a non-object result") none := by
  unfold addResult at h
  split at h
  · dsimp only at h
    split at h <;> cases h
  · cases h
    rfl

theorem foldlM_addResult_error {results : List Value} {tally : Tally} {error : Raised}
    (h : results.foldlM (addResult reading maxFailures maxMessageChars) tally = .error error) :
    error = .refreshError "artifact_invalid"
      (codePoints "dbt artifact contains a non-object result") none := by
  induction results generalizing tally with
  | nil => cases h
  | cons value results ih =>
      rw [List.foldlM_cons] at h
      rcases bind_eq_error h with hfirst | ⟨tally', -, hrest⟩
      · exact addResult_error reading maxFailures maxMessageChars hfirst
      · exact ih hrest

/-- A text with the name of the artifact fits if the rest of it does. -/
theorem fitsCodes_named (step : DbtStep) {lead : String} (hlead : fitsText lead = true) :
    fitsCodes (sanitizeError (codePoints (lead ++ step.artifactName))) = true := by
  apply fitsCodes_sanitizeError
  rw [fitsCodes_codePoints]
  unfold fitsText at hlead ⊢
  rw [String.toList_append, List.all_append, hlead]
  cases step <;> decide

/-- The errors of `parseDocument` are categorized ones. -/
theorem parseDocument_error (step : DbtStep) {document : Value} {error : Raised}
    (h : parseDocument reading maxFailures maxMessageChars step.artifactName document
      = .error error) :
    ∃ message, error = .refreshError "artifact_invalid" message none
      ∧ fitsCodes (sanitizeError message) = true := by
  have hnoList : fitsText "dbt artifact has no result list: " = true := by simp [fitsText]
  have hnoObject : fitsText "dbt artifact contains a non-object result" = true := by
    simp [fitsText]
  unfold parseDocument at h
  split at h
  · split at h
    · rcases bind_eq_error h with hresults | ⟨tally, -, hreturn⟩
      · refine ⟨_, foldlM_addResult_error reading maxFailures maxMessageChars hresults, ?_⟩
        exact fitsCodes_sanitizeError ((fitsCodes_codePoints _).trans hnoObject)
      · cases hreturn
    · cases h
      exact ⟨_, rfl, fitsCodes_named step hnoList⟩
  · cases h
    exact ⟨_, rfl, fitsCodes_named step hnoList⟩

/-- What the parser does with the artifact of a step. -/
theorem parseDbtArtifact_cases (step : DbtStep) (artifact : Artifact) :
    (∃ summary, parseDbtArtifact reading maxFailures maxMessageChars step.artifactName artifact
        = .ok summary ∧ artifact.Readable reading)
    ∨ (∃ message, parseDbtArtifact reading maxFailures maxMessageChars step.artifactName artifact
        = .error (.other message) ∧ ¬ artifact.Readable reading)
    ∨ ∃ category message,
        parseDbtArtifact reading maxFailures maxMessageChars step.artifactName artifact
          = .error (.refreshError category message none)
        ∧ category ∈ step.categories ∧ fitsCodes (sanitizeError message) = true
        ∧ artifact.Readable reading := by
  have hmissing : "artifact_missing" ∈ step.categories :=
    List.mem_cons_of_mem _ List.mem_cons_self
  have hinvalid : "artifact_invalid" ∈ step.categories :=
    List.mem_cons_of_mem _ (List.mem_cons_of_mem _ List.mem_cons_self)
  have hinvalidText := fitsCodes_named step
    (by simp [fitsText] : fitsText "dbt artifact is invalid: " = true)
  cases artifact with
  | missing =>
      exact Or.inr (Or.inr ⟨_, _, rfl, hmissing, fitsCodes_named step (by simp [fitsText]),
        trivial⟩)
  | unreadable => exact Or.inr (Or.inr ⟨_, _, rfl, hinvalid, hinvalidText, trivial⟩)
  | file contents =>
      cases htext : reading.readText contents with
      | error message =>
          refine Or.inr (Or.inl ⟨message, by simp only [parseDbtArtifact, htext], ?_⟩)
          rintro ⟨text, hread, -⟩
          cases htext.symm.trans hread
      | ok text =>
          have hreadable : (∀ message, reading.loads text ≠ .error (.other message)) →
              (Artifact.file contents).Readable reading := fun h => ⟨text, htext, h⟩
          simp only [parseDbtArtifact, htext]
          cases hloads : reading.loads text with
          | error error =>
              cases error with
              | decode =>
                  refine Or.inr (Or.inr ⟨_, _, rfl, hinvalid, hinvalidText, ?_⟩)
                  refine hreadable fun message hother => ?_
                  cases hloads.symm.trans hother
              | other message =>
                  refine Or.inr (Or.inl ⟨message, rfl, ?_⟩)
                  rintro ⟨text', hread, hnot⟩
                  cases htext.symm.trans hread
                  exact hnot message hloads
          | ok document =>
              have hok : (Artifact.file contents).Readable reading := by
                refine hreadable fun message hother => ?_
                cases hloads.symm.trans hother
              dsimp only
              cases hparse : parseDocument reading maxFailures maxMessageChars step.artifactName
                document with
              | ok summary => exact Or.inl ⟨summary, rfl, hok⟩
              | error error =>
                  obtain ⟨message, rfl, hmessage⟩ :=
                    parseDocument_error reading maxFailures maxMessageChars step hparse
                  exact Or.inr (Or.inr ⟨_, message, rfl, hinvalid, hmessage, hok⟩)

end

/-- The result of the runner can be stored exactly if what the command left can be. -/
theorem resultFits_runDbt_iff (reading : Reading) (settings : AnalyticsRefreshSettings)
    (step : DbtStep) (outcome : Outcome) :
    ResultFits step (runDbt reading settings step outcome)
      ↔ OutcomeFits reading settings step outcome := by
  have hown : step.category ∈ step.categories := List.mem_cons_self
  unfold OutcomeFits runDbt
  cases outcome.execution with
  | raised message =>
      exact ⟨fun h => h.2.1, fun h => ⟨hown, h, fun _ h => nomatch h⟩⟩
  | completed result =>
      rw [← parseDbtArtifact_fits_iff]
      rcases parseDbtArtifact_cases reading settings.artifactMaxFailures
        settings.artifactMessageMaxChars step outcome.artifact with
        ⟨summary, hparse, hreadable⟩ | ⟨message, hparse, hnot⟩
        | ⟨category, message, hparse, hcategory, htext, hreadable⟩
      · simp only [hparse]
        have hsummary : (∀ found, (.ok summary : Except Raised ArtifactSummary) = .ok found →
            found.FitsStep step) ↔ summary.FitsStep step :=
          ⟨fun h => h summary rfl, fun h found hfound => by cases hfound; exact h⟩
        rw [hsummary]
        by_cases hzero : result.returncode = 0
        · rw [if_pos hzero]
          exact ⟨fun h => ⟨hreadable, h, fun hne => absurd hzero hne⟩, fun h => h.2.1⟩
        · rw [if_neg hzero]
          constructor
          · rintro ⟨-, htext, hfits⟩
            exact ⟨hreadable, hfits summary rfl, fun _ => htext⟩
          · rintro ⟨-, hfits, htext⟩
            refine ⟨hown, htext hzero, fun found hfound => ?_⟩
            cases hfound
            exact hfits
      · -- the exception is none of the step's own
        simp only [hparse]
        refine iff_of_false (fun h => ?_) fun h => hnot h.1
        have hcategory : "unexpected_error" ∈ step.categories := h.1
        revert hcategory
        cases step <;> decide
      · simp only [hparse]
        have hsummary : ∀ found, (.error (.refreshError category message none) :
            Except Raised ArtifactSummary) = .ok found → found.FitsStep step :=
          fun _ h => nomatch h
        by_cases hzero : result.returncode = 0
        · rw [if_pos hzero]
          exact iff_of_true ⟨hcategory, htext, fun _ h => nomatch h⟩
            ⟨hreadable, hsummary, fun hne => absurd hzero hne⟩
        · rw [if_neg hzero]
          exact ⟨fun h => ⟨hreadable, hsummary, fun _ => h.2.1⟩,
            fun h => ⟨hown, h.2.2 hzero, fun _ h => nomatch h⟩⟩

/-! ## The statements of a source step -/

section

variable (sha256Hex : String → String) (describe : Failure → List Nat) (dagId dagRunId : String)

/-- A run is begun or restarted with parameters that fit their columns. -/
theorem perform_beginRun {ledger : Option RefreshRun} (hledger : Unsucceeded ledger)
    {identity : RefreshRunIdentity dagId dagRunId} {startedAt : Timestamp} {sourceRelation : String}
    (hnew : (newRun sha256Hex identity startedAt sourceRelation).Valid) :
    ∃ row, perform sha256Hex describe (some (.beginRun identity startedAt sourceRelation)) ledger
        = (some row, .ok ()) ∧ row.Valid ∧ row.status = .running := by
  have henforce := enforce_iff_valid.mpr hnew
  cases ledger with
  | none =>
      have hrun : beginRunStatement sha256Hex identity startedAt sourceRelation none
          = .ok (some (newRun sha256Hex identity startedAt sourceRelation),
            some (runId sha256Hex dagId dagRunId)) := by
        show (enforce refreshRunConstraints _ >>= fun _ => _) = _
        rw [henforce]
        rfl
      exact ⟨_, perform_of_ok hrun, hnew, rfl⟩
  | some row =>
      obtain ⟨hvalid, hopen⟩ := hledger row rfl
      let restarted := (newRun sha256Hex identity startedAt sourceRelation).withKeysOf row
      have hrestarted : restarted.Valid := by
        obtain ⟨⟨_, _, _, hrelation⟩, ⟨_, _, _, hrelationText⟩, hinterval⟩ := hnew.keys
        obtain ⟨⟨hrun, hdag, hdagRun, _⟩, ⟨hrunText, hdagText, hdagRunText, _⟩, _⟩ := hvalid.keys
        exact ⟨⟨⟨hrun, hdag, hdagRun, hrelation⟩,
          ⟨hrunText, hdagText, hdagRunText, hrelationText⟩, hinterval⟩,
          ⟨hnew.source.delay, hnew.source.freshness⟩,
          ⟨hnew.build.invocation, hnew.build.summary, hnew.build.counts⟩,
          ⟨hnew.state.terminal, hnew.state.order, hnew.state.error, hnew.state.errorTexts⟩⟩
      have hguard := RunStatus.mem_of_ne_succeeded hopen
      have hrun : beginRunStatement sha256Hex identity startedAt sourceRelation (some row)
          = .ok (some restarted, some restarted.runId) := by
        have hupdate : updateRun [.running, .failed] (fun old => .ok
            ((newRun sha256Hex identity startedAt sourceRelation).withKeysOf old)) (some row)
            = .ok (some restarted, some restarted.runId) :=
          updateRun_of_valid hguard rfl hrestarted
        rw [beginRunStatement_some, henforce]
        exact hupdate
      exact ⟨restarted, perform_of_ok hrun, hrestarted, rfl⟩

variable {row : RefreshRun}

theorem perform_recordWatermark (hvalid : row.Valid) (hs : row.status = .running)
    {watermark : SourceWatermark} (hfits : ∀ delay ∈ watermark.delaySeconds, fitsBigint delay) :
    perform sha256Hex describe (some (.recordWatermark watermark : Call dagId dagRunId)) (some row)
        = (some (row.withWatermark watermark), .ok ())
      ∧ (row.withWatermark watermark).Valid := by
  have hguard : row.status ∈ [RunStatus.running] := by rw [hs]; decide
  have hnew : (row.withWatermark watermark).Valid :=
    ⟨⟨hvalid.keys.texts, hvalid.keys.nonempty, hvalid.keys.interval⟩,
      ⟨fun delay hdelay => ⟨hfits delay hdelay, watermark.delay_nonneg delay hdelay⟩,
        hvalid.source.freshness⟩,
      ⟨hvalid.build.invocation, hvalid.build.summary, hvalid.build.counts⟩,
      ⟨hvalid.state.terminal, hvalid.state.order, hvalid.state.error, hvalid.state.errorTexts⟩⟩
  have hrun : recordWatermarkStatement watermark (some row)
      = .ok (some (row.withWatermark watermark), some row.runId) :=
    updateRun_of_valid hguard rfl hnew
  exact ⟨perform_of_ok hrun, hnew⟩

/-- On a running row the summary of a source is stored if it fits; any other one leaves the row and
raises. -/
theorem recordSource_running (hvalid : row.Valid) (hs : row.status = .running)
    (summary : ArtifactSummary) :
    (summary.FitsSource ∧ ∃ stored,
      recordSource sha256Hex describe dagId dagRunId summary (some row)
        = (some (row.withSource stored), .ok ()) ∧ (row.withSource stored).Valid)
    ∨ ¬ summary.FitsSource ∧ ∃ message,
      recordSource sha256Hex describe dagId dagRunId summary (some row)
        = (some row, .error (.other message)) := by
  rcases perform_summary_cases Call.recordSource row.withSource hs (fun _ => rfl) summary with
    ⟨stored, hstored, hnew, hrun⟩ | ⟨hnot, message, hrun⟩
  · exact Or.inl ⟨⟨stored, hstored, (valid_withSource_iff hvalid).mp hnew⟩, stored, hrun, hnew⟩
  · refine Or.inr ⟨?_, message, hrun⟩
    rintro ⟨stored, hstored, hfits⟩
    exact hnot stored hstored ((valid_withSource_iff hvalid).mpr hfits)

/-- A failure is recorded exactly if its category is one of the step and its parameters fit. -/
theorem persistFailure_recorded_iff (hvalid : row.Valid) (hs : row.status = .running)
    (step : DbtStep) (error : Raised) (includeResultSummary : Bool) (finishedAt : Timestamp) :
    FailureRecorded step (persistFailure sha256Hex describe dagId dagRunId error
        includeResultSummary finishedAt (some row)).1
      ↔ error.category ∈ step.categories ∧ fitsCodes (sanitizeError error.text)
        ∧ ∀ summary ∈ (if includeResultSummary then error.summary else none), summary.Fits := by
  have hcategories : ∀ category ∈ step.categories, fitsText category = true := by
    cases step <;> decide
  rcases persistFailure_running sha256Hex describe dagId dagRunId hvalid hs error
    includeResultSummary finishedAt rfl with
    ⟨hfits, stored, parameters, htext, -, hrun, -⟩ | ⟨hfits, message, hrun⟩
  · rw [hrun]
    have hlength := length_text htext
    obtain ⟨hne, hle⟩ := sanitizeError_length error.text
    constructor
    · rintro ⟨new, hnew, -, ⟨category, hmem, hcategory⟩, -⟩
      cases hnew
      obtain rfl : error.category = category := Option.some.inj hcategory
      exact ⟨hmem, hfits.text, hfits.summary⟩
    · rintro ⟨hmem, -⟩
      refine ⟨_, rfl, rfl, ⟨error.category, hmem, rfl⟩, stored, rfl, ?_, hlength.le.trans hle⟩
      rintro rfl
      exact hne (List.length_eq_zero_iff.mp hlength.symm)
  · rw [hrun]
    refine iff_of_false ?_ fun h => hfits ⟨hcategories _ h.1, h.2.1, h.2.2⟩
    rintro ⟨new, hnew, hstatus, -⟩
    cases hnew
    rw [hs] at hstatus
    cases hstatus

/-- What an effect that raises leaves. -/
theorem forall_error_iff {ending : Option RefreshRun × Except Raised Unit} {P : Prop}
    (h : ∃ error, ending.2 = .error error) : (∀ error, ending.2 = .error error → P) ↔ P :=
  ⟨fun hall => hall _ h.choose_spec, fun hP _ _ => hP⟩

theorem unexpected_not_mem (step : DbtStep) : "unexpected_error" ∉ step.categories := by
  cases step <;> decide

/-- A command that succeeded leaves no failure of the step where its summary is stored, and one
that is none of the step's own where it is not. -/
theorem ok_recorded_iff (hvalid : row.Valid) (hs : row.status = .running) (step : DbtStep)
    {record : ArtifactSummary → Effect} {handler : Raised → Effect} {summary : ArtifactSummary}
    {Fits : Prop}
    (hrecord : (Fits ∧ ∃ new, record summary (some row) = (some new, .ok ()))
      ∨ ¬ Fits ∧ ∃ message, record summary (some row) = (some row, .error (.other message)))
    (includeResultSummary : Bool) (finishedAt : Timestamp)
    (hhandler : ∀ message, handler (.other message) = persistFailure sha256Hex describe dagId
      dagRunId (.other message) includeResultSummary finishedAt) :
    (∀ error, ((Effect.ofExcept (.ok summary) record).guarded handler (some row)).2
        = .error error →
      FailureRecorded step ((Effect.ofExcept (.ok summary) record).guarded handler (some row)).1)
      ↔ Fits := by
  rcases hrecord with ⟨hfits, new, hrun⟩ | ⟨hfits, message, hrun⟩
  · have hbody : Effect.ofExcept (.ok summary) record (some row) = (some new, .ok ()) := hrun
    rw [Effect.guarded_of_ok _ hbody]
    exact iff_of_true (fun _ h => nomatch h) hfits
  · have hbody : Effect.ofExcept (.ok summary) record (some row)
        = (some row, .error (.other message)) := hrun
    rw [Effect.guarded_of_error _ hbody, forall_error_iff (Effect.andThen_raise_snd _ _ _),
      Effect.andThen_raise_fst, hhandler]
    refine iff_of_false (fun hrecorded => ?_) hfits
    have hcategory := ((persistFailure_recorded_iff sha256Hex describe dagId dagRunId hvalid hs step
      (.other message) includeResultSummary finishedAt).mp hrecorded).1
    exact unexpected_not_mem step hcategory

/-- A source step behind dbt, on a running row. -/
theorem source_recorded_iff (hvalid : row.Valid) (hs : row.status = .running)
    (result : Except Raised ArtifactSummary) (finishedAt : Timestamp) :
    (∀ error, ((Effect.ofExcept result (recordSource sha256Hex describe dagId dagRunId)).guarded
          (sourceHandler sha256Hex describe dagId dagRunId finishedAt) (some row)).2
        = .error error →
      FailureRecorded .source
        ((Effect.ofExcept result (recordSource sha256Hex describe dagId dagRunId)).guarded
          (sourceHandler sha256Hex describe dagId dagRunId finishedAt) (some row)).1)
      ↔ ResultFits .source result := by
  cases result with
  | ok summary =>
      refine ok_recorded_iff sha256Hex describe dagId dagRunId hvalid hs .source ?_ false finishedAt
        fun _ => rfl
      rcases recordSource_running sha256Hex describe dagId dagRunId hvalid hs summary with
        ⟨hfits, stored, hrun, -⟩ | hraises
      · exact Or.inl ⟨hfits, _, hrun⟩
      · exact Or.inr hraises
  | error error =>
      have hbody : Effect.ofExcept (.error error) (recordSource sha256Hex describe dagId dagRunId)
          (some row) = (some row, .error error) := rfl
      rw [Effect.guarded_of_error _ hbody, forall_error_iff (Effect.andThen_raise_snd _ _ _),
        Effect.andThen_raise_fst]
      have hpersist : ∀ old : RefreshRun, old.Valid → old.status = .running →
          (FailureRecorded .source
              (persistFailure sha256Hex describe dagId dagRunId error false finishedAt (some old)).1
            ↔ error.category ∈ DbtStep.source.categories ∧ fitsCodes (sanitizeError error.text)) := by
        intro old hold hrunning
        refine (persistFailure_recorded_iff sha256Hex describe dagId dagRunId hold hrunning .source
          error false finishedAt).trans (and_congr_right fun _ => and_iff_left ?_)
        exact fun _ h => nomatch h
      have hfits : ResultFits .source (.error error)
          ↔ (error.category ∈ DbtStep.source.categories ∧ fitsCodes (sanitizeError error.text))
            ∧ ∀ summary ∈ error.summary, summary.FitsSource := and_assoc.symm
      rw [hfits]
      unfold sourceHandler
      cases hsummary : error.summary with
      | none =>
          refine (hpersist row hvalid hs).trans (and_iff_left ?_).symm
          exact fun _ h => nomatch h
      | some summary =>
          have hsome : (∀ found ∈ some summary, found.FitsSource) ↔ summary.FitsSource :=
            ⟨fun h => h summary rfl, fun h _ hfound => by cases hfound; exact h⟩
          rw [hsome]
          dsimp only
          rcases recordSource_running sha256Hex describe dagId dagRunId hvalid hs summary with
            ⟨hstored, stored, hrun, hnew⟩ | ⟨hstored, message, hrun⟩
          · rw [Effect.andThen_of_ok _ hrun]
            exact (hpersist _ hnew hs).trans (and_iff_left hstored).symm
          -- the handler has raised before the failure is stored
          · rw [Effect.andThen_of_error _ hrun]
            refine iff_of_false ?_ fun h => hstored h.2
            rintro ⟨new, hnew, hstatus, -⟩
            cases hnew
            rw [hs] at hstatus
            cases hstatus

/-- A build behind dbt, on a running row. -/
theorem build_recorded_iff (hvalid : row.Valid) (hs : row.status = .running)
    (result : Except Raised ArtifactSummary) (finishedAt : Timestamp) :
    (∀ error, ((Effect.ofExcept result (recordBuild sha256Hex describe dagId dagRunId)).guarded
          (fun error => persistFailure sha256Hex describe dagId dagRunId error true finishedAt)
          (some row)).2 = .error error →
      FailureRecorded .build
        ((Effect.ofExcept result (recordBuild sha256Hex describe dagId dagRunId)).guarded
          (fun error => persistFailure sha256Hex describe dagId dagRunId error true finishedAt)
          (some row)).1)
      ↔ ResultFits .build result := by
  cases result with
  | ok summary =>
      refine ok_recorded_iff sha256Hex describe dagId dagRunId hvalid hs .build ?_ true finishedAt
        fun _ => rfl
      rcases recordBuild_running sha256Hex describe dagId dagRunId hvalid hs summary with
        ⟨hfits, stored, -, hrun⟩ | hraises
      · exact Or.inl ⟨hfits, _, hrun⟩
      · exact Or.inr hraises
  | error error =>
      have hbody : Effect.ofExcept (.error error) (recordBuild sha256Hex describe dagId dagRunId)
          (some row) = (some row, .error error) := rfl
      rw [Effect.guarded_of_error _ hbody, forall_error_iff (Effect.andThen_raise_snd _ _ _),
        Effect.andThen_raise_fst]
      exact persistFailure_recorded_iff sha256Hex describe dagId dagRunId hvalid hs .build error true
        finishedAt

end

/-! ## Steps -/

section

variable {dagId dagRunId : String}

def ServiceCall.step : ServiceCall dagId dagRunId → DbtStep
  | .source .. => .source
  | .build .. => .build

/-- The result of the dbt command. -/
def ServiceCall.result : ServiceCall dagId dagRunId → Except Raised ArtifactSummary
  | .source _ _ _ _ result _ => result
  | .build result _ => result

/-- The step gets as far as its dbt command: a source step has a row and a watermark that fit their
columns, a build has a row to resume. -/
def ServiceCall.Starts (sha256Hex : String → String) (ledger : Option RefreshRun) :
    ServiceCall dagId dagRunId → Prop
  | .source identity startedAt sourceRelation watermark _ _ =>
      (newRun sha256Hex identity startedAt sourceRelation).Valid
      ∧ ∃ found, watermark = .ok found ∧ ∀ delay ∈ found.delaySeconds, fitsBigint delay
  | .build _ _ => ledger.isSome

/-- **A step that raises records its failure**, exactly if the artifact of its command can be read
and what is stored of the command fits. -/
theorem failure_recorded_iff (sha256Hex : String → String) (describe : Failure → List Nat)
    (reading : Reading) (settings : AnalyticsRefreshSettings) {ledger : Option RefreshRun}
    (hledger : Unsucceeded ledger) (call : ServiceCall dagId dagRunId)
    (hstarts : call.Starts sha256Hex ledger) (outcome : Outcome)
    (hresult : call.result = runDbt reading settings call.step outcome) :
    (∀ error, (call.run sha256Hex describe ledger).2 = .error error →
        FailureRecorded call.step (call.run sha256Hex describe ledger).1)
      ↔ OutcomeFits reading settings call.step outcome := by
  rw [← resultFits_runDbt_iff, ← hresult]
  cases call with
  | source identity startedAt sourceRelation watermark result finishedAt =>
      obtain ⟨hnew, found, rfl, hfound⟩ := hstarts
      obtain ⟨row, hbegin, hvalid, hs⟩ :=
        perform_beginRun sha256Hex describe dagId dagRunId hledger hnew
      obtain ⟨hwatermark, hvalid'⟩ :=
        perform_recordWatermark sha256Hex describe dagId dagRunId hvalid hs hfound
      have hrun : (ServiceCall.source identity startedAt sourceRelation (.ok found) result
            finishedAt).run sha256Hex describe ledger
          = (Effect.ofExcept result (recordSource sha256Hex describe dagId dagRunId)).guarded
            (sourceHandler sha256Hex describe dagId dagRunId finishedAt)
            (some (row.withWatermark found)) :=
        (Effect.andThen_of_ok _ hbegin).trans (Effect.guarded_andThen_of_ok _ _ hwatermark)
      rw [hrun]
      exact source_recorded_iff sha256Hex describe dagId dagRunId hvalid' hs result finishedAt
  | build result finishedAt =>
      obtain ⟨row, rfl⟩ := Option.isSome_iff_exists.mp hstarts
      obtain ⟨hvalid, hopen⟩ := hledger row rfl
      have hrun : (ServiceCall.build result finishedAt).run sha256Hex describe (some row)
          = (Effect.ofExcept result (recordBuild sha256Hex describe dagId dagRunId)).guarded
            (fun error => persistFailure sha256Hex describe dagId dagRunId error true finishedAt)
            (some row.resumed) :=
        Effect.guarded_andThen_of_ok _ _
          (perform_resumeBuild sha256Hex describe dagId dagRunId hvalid hopen)
      rw [hrun]
      exact build_recorded_iff sha256Hex describe dagId dagRunId (valid_resumed hvalid) rfl result
        finishedAt

end

/-- The settings of the examples. -/
def sampleSettings : AnalyticsRefreshSettings := ⟨10, 500, by decide, by decide⟩

/-- The command finds three stale sources, says so and fails. -/
def staleSources (stderr : List Nat) : Outcome where
  execution := .completed ⟨1, [], stderr⟩
  artifact := .file (failedRunFile 3)

/-- The first step of a run whose command does so. -/
def firstCheck (stderr : List Nat) : ServiceCall "analytics_refresh" "scheduled__2026-07-25" :=
  .source firstIdentity 0 "raw.github_events" (.ok noWatermark)
    (runDbt (failedRunReading 3) sampleSettings .source (staleSources stderr)) 1

theorem readText_failedRunFile :
    (failedRunReading 3).readText (failedRunFile 3) = .ok (failedRunText 3) :=
  congrArg Except.ok (by decide +kernel)

/-- The three results of the artifact can be stored. -/
theorem documentFits_failedRun :
    DocumentFits (failedRunReading 3) sampleSettings .source (failedRun 3)
      (List.replicate 3 errorResult) where
  invocationId _ h := nomatch h
  failures rawResult hlisted := by
    have hmem : rawResult ∈ List.replicate 3 errorResult :=
      List.mem_of_mem_filter (List.mem_of_mem_take hlisted)
    obtain rfl := List.eq_of_mem_replicate hmem
    exact ⟨by decide +kernel, by decide +kernel, by decide +kernel⟩
  counts h := nomatch h

theorem outcomeFits_staleSources :
    OutcomeFits (failedRunReading 3) sampleSettings .source
      (staleSources (codePoints "Database Error")) := by
  refine ⟨⟨_, readText_failedRunFile, fun message hother => ?_⟩, ?_, fun _ => by decide +kernel⟩
  · rw [loads_failedRunText] at hother
    cases hother
  · intro text members rawResults htext hloads hresults
    cases readText_failedRunFile.symm.trans htext
    cases (loads_failedRunText 3).symm.trans hloads
    have hget : get (failedRun 3) "results"
        = some (.list ((List.replicate 3 errorResult).map Value.dict)) := rfl
    have hdicts : (List.replicate 3 errorResult).map Value.dict = rawResults.map Value.dict :=
      Value.list.inj (Option.some.inj (hget.symm.trans hresults))
    rw [← List.map_injective_iff.mpr (fun _ _ h => Value.dict.inj h) hdicts]
    exact documentFits_failedRun

/-- A check that finds three stale sources is recorded as failed. -/
theorem failure_recorded_iff_stale :
    FailureRecorded .source
      ((firstCheck (codePoints "Database Error")).run (fun _ => "0") (fun _ => []) none).1 := by
  have hnone : Unsucceeded none := by
    intro row hrow
    cases hrow
  have hdelay : ∀ delay ∈ (none : Option Int), fitsBigint delay := by
    intro delay hdelay
    cases hdelay
  have hstarts : (firstCheck (codePoints "Database Error")).Starts (fun _ => "0") none :=
    ⟨enforce_iff_valid.mp rfl, _, rfl, hdelay⟩
  exact (failure_recorded_iff (fun _ => "0") (fun _ => []) (failedRunReading 3) sampleSettings hnone
    (firstCheck (codePoints "Database Error")) hstarts (staleSources (codePoints "Database Error"))
    rfl).mpr outcomeFits_staleSources _ rfl

/-- A NUL character on the standard error leaves the row running. -/
theorem nul_leaves_running :
    (∃ error, ((firstCheck [0]).run (fun _ => "0") (fun _ => []) none).2 = .error error)
      ∧ (∃ row, ((firstCheck [0]).run (fun _ => "0") (fun _ => []) none).1 = some row
        ∧ row.status = .running)
      ∧ ¬ FailureRecorded .source ((firstCheck [0]).run (fun _ => "0") (fun _ => []) none).1 := by
  have hrun : ∃ row, ((firstCheck [0]).run (fun _ => "0") (fun _ => []) none).1 = some row
      ∧ row.status = .running := ⟨_, rfl, rfl⟩
  refine ⟨⟨_, rfl⟩, hrun, ?_⟩
  obtain ⟨row, hrow, hstatus⟩ := hrun
  rintro ⟨other, hother, hfailed, -⟩
  cases hrow.symm.trans hother
  rw [hstatus] at hfailed
  cases hfailed

end AnalyticsRefresh
