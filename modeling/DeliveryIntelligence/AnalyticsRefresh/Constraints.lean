import DeliveryIntelligence.AnalyticsRefresh.Storage

set_option autoImplicit false

/-!
# Rows the table accepts

The constraints of the schema by groups of columns (`enforce_iff_valid`), guarded updates of a row
that meets the guard, and for each statement the row it leaves and when that row is valid.
-/

namespace AnalyticsRefresh

open Postgres

variable {dagId dagRunId : String}

/-! ## Rows the table accepts -/

/-- The columns that identify a run. -/
structure RefreshRun.KeysValid (row : RefreshRun) : Prop where
  texts : fitsText row.runId ∧ fitsText row.dagId ∧ fitsText row.dagRunId
    ∧ fitsText row.sourceRelation
  nonempty : nonempty row.runId ∧ nonempty row.dagId ∧ nonempty row.dagRunId
    ∧ nonempty row.sourceRelation
  interval : row.dataIntervalStart ≤ row.dataIntervalEnd

/-- The columns of the source observation. -/
structure RefreshRun.SourceValid (row : RefreshRun) : Prop where
  delay : ∀ delay ∈ row.sourceDelaySeconds, fitsBigint delay ∧ 0 ≤ delay
  freshness : ∀ summary ∈ row.sourceFreshnessSummary, summary.fitsJsonb

/-- The columns of the last dbt invocation. -/
structure RefreshRun.BuildValid (row : RefreshRun) : Prop where
  invocation : ∀ id ∈ row.dbtInvocationId, fitsText id
  summary : ∀ summary ∈ row.dbtResultSummary, summary.fitsJsonb
  counts : ∀ count ∈ [row.dbtSucceededCount, row.dbtFailedCount, row.dbtSkippedCount,
    row.dbtWarningCount, row.dbtErrorCount], fitsInteger count ∧ 0 ≤ count

/-- The columns of the state. -/
structure RefreshRun.StateValid (row : RefreshRun) : Prop where
  terminal : row.terminalTimestampValid
  order : row.timestampOrderValid
  error : row.errorStateValid
  errorTexts : (∀ category ∈ row.errorCategory, fitsText category)
    ∧ ∀ summary ∈ row.errorSummary, fitsText summary

structure RefreshRun.Valid (row : RefreshRun) : Prop where
  keys : row.KeysValid
  source : row.SourceValid
  build : row.BuildValid
  state : row.StateValid

theorem enforce_iff_valid {row : RefreshRun} :
    enforce refreshRunConstraints row = .ok () ↔ row.Valid := by
  rw [enforce_iff]
  simp only [refreshRunConstraints, List.forall_mem_cons, List.not_mem_nil, IsEmpty.forall_iff,
    implies_true, and_true, textColumn, nullable, bigintColumn, jsonbColumn, integerColumn,
    nonemptyCheck, RefreshRun.countsNonnegative, Option.all_eq_true, decide_eq_true_eq, id]
  constructor
  · rintro ⟨hrun, hdag, hdagRun, hrelation, hbigint, hfreshness, hinvocation, hsummary,
      hsucceeded, hfailed, hskipped, hwarning, herror, hcategory, htext, hrunText, hdagText,
      hdagRunText, hrelationText, hinterval, hterminal, horder, hdelay, hcounts, hstate⟩
    refine ⟨⟨⟨hrun, hdag, hdagRun, hrelation⟩, ⟨hrunText, hdagText, hdagRunText, hrelationText⟩,
      hinterval⟩, ⟨fun delay h => ⟨hbigint delay h, hdelay delay h⟩, hfreshness⟩,
      ⟨hinvocation, hsummary, ?_⟩, ⟨hterminal, horder, hstate, hcategory, htext⟩⟩
    simp only [List.forall_mem_cons, List.not_mem_nil, IsEmpty.forall_iff, implies_true, and_true]
    exact ⟨⟨hsucceeded, hcounts.1⟩, ⟨hfailed, hcounts.2.1⟩, ⟨hskipped, hcounts.2.2.1⟩,
      ⟨hwarning, hcounts.2.2.2.1⟩, herror, hcounts.2.2.2.2⟩
  · rintro ⟨⟨⟨hrun, hdag, hdagRun, hrelation⟩, ⟨hrunText, hdagText, hdagRunText, hrelationText⟩,
      hinterval⟩, ⟨hdelay, hfreshness⟩, ⟨hinvocation, hsummary, hcounts⟩,
      ⟨hterminal, horder, hstate, hcategory, htext⟩⟩
    simp only [List.forall_mem_cons, List.not_mem_nil, IsEmpty.forall_iff, implies_true,
      and_true] at hcounts
    obtain ⟨hsucceeded, hfailed, hskipped, hwarning, herror⟩ := hcounts
    exact ⟨hrun, hdag, hdagRun, hrelation, fun delay h => (hdelay delay h).1, hfreshness,
      hinvocation, hsummary, hsucceeded.1, hfailed.1, hskipped.1, hwarning.1, herror.1, hcategory,
      htext, hrunText, hdagText, hdagRunText, hrelationText, hinterval, hterminal, horder,
      fun delay h => (hdelay delay h).2,
      ⟨hsucceeded.2, hfailed.2, hskipped.2, hwarning.2, herror.2⟩, hstate⟩

/-- A row that has not succeeded is one a step may begin or resume. -/
theorem RunStatus.mem_of_ne_succeeded {status : RunStatus} (h : status ≠ .succeeded) :
    status ∈ [RunStatus.running, .failed] := by
  cases status with
  | running => decide
  | failed => decide
  | succeeded => exact absurd rfl h

theorem finished_iff {row : RefreshRun} (h : enforce refreshRunConstraints row = .ok ()) :
    row.finishedAt = none ↔ row.status = .running := by
  have hterminal := (enforce_iff_valid.mp h).state.terminal
  unfold RefreshRun.terminalTimestampValid at hterminal
  cases hs : row.status with
  | running => simpa [hs] using hterminal
  | succeeded =>
      have hsome : row.finishedAt.isSome = true := by simpa [hs] using hterminal
      simp [Option.ne_none_iff_isSome.mpr hsome]
  | failed =>
      have hsome : row.finishedAt.isSome = true := by simpa [hs] using hterminal
      simp [Option.ne_none_iff_isSome.mpr hsome]

theorem no_error {row : RefreshRun} (h : enforce refreshRunConstraints row = .ok ())
    (hs : row.status ≠ .failed) : row.errorCategory = none ∧ row.errorSummary = none := by
  simpa [RefreshRun.errorStateValid, hs] using (enforce_iff_valid.mp h).state.error

/-! ## Statements the table accepts -/

section

variable {guard : List RunStatus} {set : RefreshRun → Except Error RefreshRun}
  {row new : RefreshRun}

theorem updateRun_some (guard : List RunStatus) (set : RefreshRun → Except Error RefreshRun)
    (row : RefreshRun) :
    updateRun guard set (some row)
      = if row.status ∈ guard then
          set row >>= fun new => enforce refreshRunConstraints new >>= fun _ =>
            pure (some new, some new.runId)
        else .ok (some row, none) := rfl

/-- A guarded update of a row that meets the guard stores the new row if it is valid. -/
theorem updateRun_of_valid (hguard : row.status ∈ guard) (hset : set row = .ok new)
    (hvalid : new.Valid) : updateRun guard set (some row) = .ok (some new, some new.runId) := by
  rw [updateRun_some, if_pos hguard, hset]
  show (enforce refreshRunConstraints new >>= fun _ => pure (some new, some new.runId)) = _
  rw [enforce_iff_valid.mpr hvalid]
  rfl

theorem updateRun_of_not_valid (hguard : row.status ∈ guard) (hset : set row = .ok new)
    (hvalid : ¬ new.Valid) : ∃ e, updateRun guard set (some row) = .error e := by
  rw [updateRun_some, if_pos hguard, hset]
  show ∃ e, (enforce refreshRunConstraints new >>= fun _ => pure (some new, some new.runId)) = .error e
  cases henforce : enforce refreshRunConstraints new with
  | ok u => exact absurd (enforce_iff_valid.mp henforce) hvalid
  | error e => exact ⟨e, rfl⟩

theorem updateRun_of_guard (hguard : row.status ∉ guard) :
    updateRun guard set (some row) = .ok (some row, none) := by
  rw [updateRun_some, if_neg hguard]

end

/-- The row under the keys of an old one, as `_BEGIN_RUN` stores it on a conflict. -/
def RefreshRun.withKeysOf (new row : RefreshRun) : RefreshRun :=
  { new with runId := row.runId, dagId := row.dagId, dagRunId := row.dagRunId }

theorem beginRunStatement_some (sha256Hex : String → String)
    (identity : RefreshRunIdentity dagId dagRunId) (startedAt : Timestamp)
    (sourceRelation : String) (row : RefreshRun) :
    beginRunStatement sha256Hex identity startedAt sourceRelation (some row)
      = enforce refreshRunConstraints (newRun sha256Hex identity startedAt sourceRelation)
          >>= fun _ => updateRun [.running, .failed]
            (fun old => .ok ((newRun sha256Hex identity startedAt sourceRelation).withKeysOf old))
            (some row) := rfl

/-! ## The rows the statements leave -/

/-- The parameters of a summary fit the types of their columns. -/
structure DbtResultSummary.Fits (summary : DbtResultSummary) : Prop where
  invocation : ∀ id ∈ summary.invocationId, fitsText id
  artifact : summary.artifact.fitsJsonb
  counts : ∀ count ∈ [summary.succeeded, summary.failed, summary.skipped, summary.warnings,
    summary.errors], fitsInteger count

/-- The parameters of a failure fit the types of their columns. -/
structure ReportFits (category errorSummary : String) (summary : Option DbtResultSummary) :
    Prop where
  category : fitsText category
  errorSummary : ∃ stored, varchar 1000 "error_summary" errorSummary = .ok stored
    ∧ fitsText stored
  summary : ∀ found ∈ summary, found.Fits

/-- The row `_RECORD_WATERMARK` leaves. -/
def RefreshRun.withWatermark (row : RefreshRun) (watermark : SourceWatermark) : RefreshRun :=
  { row with
    sourceMaxIngestedAt := watermark.maximumIngestedAt
    sourceDelaySeconds := watermark.delaySeconds }

/-- The row `_RECORD_SOURCE` leaves. -/
def RefreshRun.withSource (row : RefreshRun) (summary : DbtResultSummary) : RefreshRun :=
  { row with
    sourceFreshnessSummary := some summary.artifact
    dbtInvocationId := summary.invocationId.or row.dbtInvocationId }

theorem valid_withSource_iff {row : RefreshRun} (hvalid : row.Valid) {summary : DbtResultSummary} :
    (row.withSource summary).Valid
      ↔ (∀ id ∈ summary.invocationId, fitsText id) ∧ summary.artifact.fitsJsonb := by
  constructor
  · rintro ⟨-, ⟨-, hartifact⟩, ⟨hinvocation, -, -⟩, -⟩
    exact ⟨fun id hid => hinvocation id (Option.or_eq_some_iff.mpr (Or.inl hid)),
      hartifact summary.artifact rfl⟩
  · rintro ⟨hinvocation, hartifact⟩
    refine ⟨⟨hvalid.keys.texts, hvalid.keys.nonempty, hvalid.keys.interval⟩,
      ⟨hvalid.source.delay, ?_⟩, ⟨?_, hvalid.build.summary, hvalid.build.counts⟩,
      ⟨hvalid.state.terminal, hvalid.state.order, hvalid.state.error, hvalid.state.errorTexts⟩⟩
    · intro artifact h
      cases h
      exact hartifact
    · intro id hid
      have hor : summary.invocationId.or row.dbtInvocationId = some id := hid
      rcases Option.or_eq_some_iff.mp hor with hnew | ⟨-, hold⟩
      · exact hinvocation id hnew
      · exact hvalid.build.invocation id hold

/-- The row `_RESUME_BUILD` leaves. -/
def RefreshRun.resumed (row : RefreshRun) : RefreshRun :=
  { row with status := .running, finishedAt := none, errorCategory := none, errorSummary := none }

theorem valid_resumed {row : RefreshRun} (hvalid : row.Valid) : row.resumed.Valid :=
  ⟨⟨hvalid.keys.texts, hvalid.keys.nonempty, hvalid.keys.interval⟩,
    ⟨hvalid.source.delay, hvalid.source.freshness⟩,
    ⟨hvalid.build.invocation, hvalid.build.summary, hvalid.build.counts⟩,
    ⟨rfl, rfl, rfl, ⟨fun _ h => (nomatch h), fun _ h => (nomatch h)⟩⟩⟩

/-- The row `_RECORD_BUILD` leaves. -/
def RefreshRun.withBuild (row : RefreshRun) (summary : DbtResultSummary) : RefreshRun :=
  { row with
    dbtInvocationId := summary.invocationId
    dbtResultSummary := some summary.artifact
    dbtSucceededCount := summary.succeeded
    dbtFailedCount := summary.failed
    dbtSkippedCount := summary.skipped
    dbtWarningCount := summary.warnings
    dbtErrorCount := summary.errors }

theorem valid_withBuild_iff {row : RefreshRun} (hvalid : row.Valid) {summary : DbtResultSummary} :
    (row.withBuild summary).Valid ↔ summary.Fits := by
  constructor
  · rintro ⟨-, -, ⟨hinvocation, hartifact, hcounts⟩, -⟩
    exact ⟨hinvocation, hartifact summary.artifact rfl, fun count h => (hcounts count h).1⟩
  · rintro ⟨hinvocation, hartifact, hcounts⟩
    obtain ⟨hs, hf, hk, hw, he⟩ := summary.counts_nonneg
    refine ⟨⟨hvalid.keys.texts, hvalid.keys.nonempty, hvalid.keys.interval⟩,
      ⟨hvalid.source.delay, hvalid.source.freshness⟩, ⟨hinvocation, ?_, ?_⟩,
      ⟨hvalid.state.terminal, hvalid.state.order, hvalid.state.error, hvalid.state.errorTexts⟩⟩
    · intro artifact h
      cases h
      exact hartifact
    · simp only [List.forall_mem_cons, List.not_mem_nil, IsEmpty.forall_iff, implies_true,
        and_true] at hcounts ⊢
      exact ⟨⟨hcounts.1, hs⟩, ⟨hcounts.2.1, hf⟩, ⟨hcounts.2.2.1, hk⟩, ⟨hcounts.2.2.2.1, hw⟩,
        hcounts.2.2.2.2, he⟩

/-- The row with another end. -/
def RefreshRun.finishedAgain (row : RefreshRun) (finishedAt : Timestamp) : RefreshRun :=
  { row with status := .succeeded, finishedAt := some finishedAt }

/-- Of a row without an error every end not before its start makes a valid succeeded row. -/
theorem valid_finishedAgain {row : RefreshRun} (hvalid : row.Valid) (hs : row.status ≠ .failed)
    {finishedAt : Timestamp} :
    (row.finishedAgain finishedAt).Valid ↔ row.startedAt ≤ finishedAt := by
  obtain ⟨hcategory, hsummary⟩ := no_error (enforce_iff_valid.mpr hvalid) hs
  constructor
  · intro hnew
    have horder : decide (row.startedAt ≤ finishedAt) = true := hnew.state.order
    exact of_decide_eq_true horder
  · intro hle
    refine ⟨⟨hvalid.keys.texts, hvalid.keys.nonempty, hvalid.keys.interval⟩,
      ⟨hvalid.source.delay, hvalid.source.freshness⟩,
      ⟨hvalid.build.invocation, hvalid.build.summary, hvalid.build.counts⟩, ?_⟩
    refine ⟨rfl, decide_eq_true hle, ?_, hvalid.state.errorTexts⟩
    show (RunStatus.succeeded == .failed || (row.errorCategory.isNone && row.errorSummary.isNone))
      = true
    rw [hcategory, hsummary]
    rfl

/-- The row `_FINISH_FAILURE` leaves of a running one. -/
def RefreshRun.failedAt (row : RefreshRun) (finishedAt : Timestamp) (category stored : String)
    (summary : Option DbtResultSummary) : RefreshRun :=
  { row with
    status := .failed
    finishedAt := some (max finishedAt row.startedAt)
    dbtInvocationId := (summary.bind (·.invocationId)).or row.dbtInvocationId
    dbtResultSummary := (summary.map (·.artifact)).or row.dbtResultSummary
    dbtSucceededCount := (summary.map (·.succeeded)).getD row.dbtSucceededCount
    dbtFailedCount := (summary.map (·.failed)).getD row.dbtFailedCount
    dbtSkippedCount := (summary.map (·.skipped)).getD row.dbtSkippedCount
    dbtWarningCount := (summary.map (·.warnings)).getD row.dbtWarningCount
    dbtErrorCount := (summary.map (·.errors)).getD row.dbtErrorCount
    errorCategory := some category
    errorSummary := some stored }

/-- The columns of the last invocation take the values of a summary that fits, and of no other. -/
theorem buildValid_failedAt_iff {row : RefreshRun} (hvalid : row.BuildValid)
    {finishedAt : Timestamp} {category stored : String} {summary : Option DbtResultSummary} :
    (row.failedAt finishedAt category stored summary).BuildValid
      ↔ ∀ found ∈ summary, found.Fits := by
  cases summary with
  | none =>
      exact iff_of_true ⟨hvalid.invocation, hvalid.summary, hvalid.counts⟩ fun _ h => nomatch h
  | some found =>
      constructor
      · rintro ⟨hinvocation, hartifact, hcounts⟩ _ hfound
        cases hfound
        refine ⟨fun id hid => hinvocation id ?_, hartifact found.artifact rfl,
          fun count hcount => (hcounts count hcount).1⟩
        exact Option.or_eq_some_iff.mpr (Or.inl hid)
      · intro hfits
        obtain ⟨hinvocation, hartifact, hcounts⟩ := hfits found rfl
        obtain ⟨hs, hf, hk, hw, he⟩ := found.counts_nonneg
        refine ⟨fun id hid => ?_, fun artifact h => ?_, ?_⟩
        · have hor : found.invocationId.or row.dbtInvocationId = some id := hid
          rcases Option.or_eq_some_iff.mp hor with hnew | ⟨-, hold⟩
          · exact hinvocation id hnew
          · exact hvalid.invocation id hold
        · cases h
          exact hartifact
        · simp only [List.forall_mem_cons, List.not_mem_nil, IsEmpty.forall_iff, implies_true,
            and_true] at hcounts ⊢
          exact ⟨⟨hcounts.1, hs⟩, ⟨hcounts.2.1, hf⟩, ⟨hcounts.2.2.1, hk⟩, ⟨hcounts.2.2.2.1, hw⟩,
            hcounts.2.2.2.2, he⟩

/-- A failure makes a valid row exactly if its parameters fit. -/
theorem valid_failedAt_iff {row : RefreshRun} (hvalid : row.Valid) {finishedAt : Timestamp}
    {category stored : String} {summary : Option DbtResultSummary} :
    (row.failedAt finishedAt category stored summary).Valid
      ↔ fitsText category ∧ fitsText stored ∧ ∀ found ∈ summary, found.Fits := by
  constructor
  · intro hnew
    exact ⟨hnew.state.errorTexts.1 category rfl, hnew.state.errorTexts.2 stored rfl,
      (buildValid_failedAt_iff hvalid.build).mp hnew.build⟩
  · rintro ⟨hcategory, htext, hsummary⟩
    refine ⟨⟨hvalid.keys.texts, hvalid.keys.nonempty, hvalid.keys.interval⟩,
      ⟨hvalid.source.delay, hvalid.source.freshness⟩,
      (buildValid_failedAt_iff hvalid.build).mpr hsummary, ⟨rfl, ?_, rfl, ?_, ?_⟩⟩
    · exact decide_eq_true (le_max_right finishedAt row.startedAt)
    · intro found hfound
      cases hfound
      exact hcategory
    · intro found hfound
      cases hfound
      exact htext

/-- The row `_FINISH_FAILURE` writes over a running one. -/
theorem finishFailure_set {row : RefreshRun} (hvalid : row.Valid) (hs : row.status = .running)
    {errorSummary stored : String}
    (hstored : varchar 1000 "error_summary" errorSummary = .ok stored) (finishedAt : Timestamp)
    (category : String) (summary : Option DbtResultSummary) :
    finishFailureStatement finishedAt category errorSummary summary (some row)
      = updateRun [.running, .failed]
        (fun _ => .ok (row.failedAt finishedAt category stored summary)) (some row) := by
  obtain ⟨hcategory, hsummary⟩ := no_error (enforce_iff_valid.mpr hvalid) (by rw [hs]; decide)
  unfold finishFailureStatement
  rw [updateRun_some, updateRun_some]
  -- both columns were null, so `COALESCE` takes the parameters
  rw [hsummary, hcategory, Option.getD_none, hstored]
  rfl

/-- A failure that fits its columns is stored on a running row, whatever the clock says. -/
theorem finishFailure_of_fits {row : RefreshRun} (hvalid : row.Valid) (hs : row.status = .running)
    (finishedAt : Timestamp) {category errorSummary : String}
    {summary : Option DbtResultSummary} (hfits : ReportFits category errorSummary summary) :
    ∃ stored, varchar 1000 "error_summary" errorSummary = .ok stored
      ∧ finishFailureStatement finishedAt category errorSummary summary (some row)
        = .ok (some (row.failedAt finishedAt category stored summary), some row.runId)
      ∧ (row.failedAt finishedAt category stored summary).Valid := by
  obtain ⟨stored, hstored, htext⟩ := hfits.errorSummary
  have hnew : (row.failedAt finishedAt category stored summary).Valid :=
    (valid_failedAt_iff hvalid).mpr ⟨hfits.category, htext, hfits.summary⟩
  have hguard : row.status ∈ [RunStatus.running, .failed] := by rw [hs]; decide
  refine ⟨stored, hstored, ?_, hnew⟩
  rw [finishFailure_set hvalid hs hstored]
  exact updateRun_of_valid hguard rfl hnew

end AnalyticsRefresh
