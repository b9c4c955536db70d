import DeliveryIntelligence.AnalyticsRefresh.Runner
import DeliveryIntelligence.AnalyticsRefresh.Terminal

set_option autoImplicit false

/-!
# The refresh service

`analytics_refresh/service.py`: the two steps that run dbt, each with the result of its command.
An exception handler stores the failure before it raises the exception again, and may raise
another one instead.
-/

namespace AnalyticsRefresh

open Postgres Python

/-! ## Texts and summaries as parameters -/

/-- A text PostgreSQL accepts: without lone surrogates and NUL characters. -/
def fitsCodes (codePoints : List Nat) : Bool := (text codePoints).any fitsText

theorem length_text {codePoints : List Nat} {s : String} (h : text codePoints = some s) :
    s.toList.length = codePoints.length := by
  unfold text at h
  split at h
  · obtain rfl := Option.some.inj h
    rw [String.toList_ofList, List.length_map]
  · cases h

/-- The code points of a text PostgreSQL accepts. -/
theorem fitsCodes_iff {message : List Nat} :
    fitsCodes message = true ↔ ∀ n ∈ message, n.isValidChar ∧ n ≠ 0 := by
  unfold fitsCodes text
  by_cases hvalid : (message.all fun n => decide n.isValidChar) = true
  · have hchars : ∀ n ∈ message, n.isValidChar :=
      fun n hn => of_decide_eq_true (List.all_eq_true.mp hvalid n hn)
    rw [if_pos hvalid, Option.any_some]
    unfold fitsText
    rw [String.toList_ofList, List.all_map, List.all_eq_true]
    refine forall₂_congr fun n hn => ?_
    rw [Function.comp_apply, bne_iff_ne, and_iff_right (hchars n hn)]
    refine not_congr ⟨fun h => ?_, fun h => by rw [h]⟩
    have htoNat : (Char.ofNat n).toNat = n := by
      rw [Char.ofNat, dif_pos (hchars n hn)]
      rfl
    rw [← htoNat, h]
    rfl
  · rw [if_neg hvalid]
    refine iff_of_false Bool.false_ne_true fun hall => hvalid ?_
    exact List.all_eq_true.mpr fun n hn => decide_eq_true (hall n hn).1

/-- What fits before the sanitizer fits after it. -/
theorem fitsCodes_sanitizeError {message : List Nat} (h : fitsCodes message = true) :
    fitsCodes (sanitizeError message) = true := by
  rw [fitsCodes_iff] at h ⊢
  exact forall_mem_sanitizeError (by decide) h

theorem fitsCodes_codePoints (s : String) : fitsCodes (codePoints s) = fitsText s := by
  have hvalid : ((codePoints s).all fun n => decide n.isValidChar) = true := by
    unfold codePoints
    rw [List.all_map, List.all_eq_true]
    exact fun c _ => decide_eq_true c.valid
  have htext : text (codePoints s) = some s := by
    unfold text
    rw [if_pos hvalid]
    unfold codePoints
    rw [List.map_map]
    have hid : Char.ofNat ∘ Char.toNat = id := funext fun c => Char.ofNat_toNat c
    rw [hid, List.map_id, String.ofList_toList]
  unfold fitsCodes
  rw [htext, Option.any_some]

/-- The parameters of a summary; there are none where a text has a lone surrogate. -/
def ArtifactSummary.stored (summary : ArtifactSummary) : Option DbtResultSummary :=
  match summary.invocationId.map text, summary.artifact.toJson with
  | some none, _ => none
  | _, none => none
  | invocationId, some artifact => some
      { invocationId := invocationId.join
        succeeded := summary.counts.succeeded
        failed := summary.counts.failed
        skipped := summary.counts.skipped
        warnings := summary.counts.warnings
        errors := summary.counts.errors
        artifact := artifact
        counts_nonneg := by omega }

/-- The parameters of a summary that may be missing. -/
def storedSummary : Option ArtifactSummary → Option (Option DbtResultSummary)
  | none => some none
  | some summary => summary.stored.map some

/-! ## Effects -/

/-- What a step does to the ledger and how it ends. -/
abbrev Effect := Option RefreshRun → Option RefreshRun × Except Raised Unit

def Effect.raise (error : Raised) : Effect := fun ledger => (ledger, .error error)

/-- A computation that does not touch the ledger, and what follows. -/
def Effect.ofExcept {α : Type} (result : Except Raised α) (next : α → Effect) : Effect :=
  match result with
  | .ok a => next a
  | .error error => raise error

def Effect.andThen (first second : Effect) : Effect := fun ledger =>
  match first ledger with
  | (ledger', .ok ()) => second ledger'
  | (ledger', .error error) => (ledger', .error error)

/-- `try: body` with `except Exception as error: handler; raise` -/
def Effect.guarded (body : Effect) (handler : Raised → Effect) : Effect := fun ledger =>
  match body ledger with
  | (ledger', .ok ()) => (ledger', .ok ())
  | (ledger', .error error) => (handler error).andThen (raise error) ledger'

section

variable (sha256Hex : String → String) (describe : Failure → List Nat) {dagId dagRunId : String}

/-- A storage call. There is none if one of its parameters has a lone surrogate, which no driver
can send; `describe` is the text of the exception. -/
def perform (call : Option (Call dagId dagRunId)) : Effect := fun ledger =>
  match call with
  | none => (ledger, .error (.other (describe (.database (.invalidInput "text")))))
  | some call =>
      match call.run sha256Hex ledger with
      | (ledger', .ok _) => (ledger', .ok ())
      | (ledger', .error failure) => (ledger', .error (.other (describe failure)))

/-- `record_source` -/
def recordSource (dagId dagRunId : String) (summary : ArtifactSummary) : Effect :=
  perform sha256Hex describe
    (summary.stored.map fun stored => (.recordSource stored : Call dagId dagRunId))

/-- `record_build` -/
def recordBuild (dagId dagRunId : String) (summary : ArtifactSummary) : Effect :=
  perform sha256Hex describe
    (summary.stored.map fun stored => (.recordBuild stored : Call dagId dagRunId))

/-- `_persist_failure` -/
def persistFailure (dagId dagRunId : String) (error : Raised) (includeResultSummary : Bool)
    (finishedAt : Timestamp) : Effect :=
  let summary := if includeResultSummary then error.summary else none
  perform sha256Hex describe (do
    let errorSummary ← text (sanitizeError error.text)
    let stored ← storedSummary summary
    some (.finishFailure finishedAt error.category errorSummary stored : Call dagId dagRunId))

/-- A call of the service on one Airflow run, with the readings of the clock and the results of
the watermark query and of the dbt command. -/
inductive ServiceCall (dagId dagRunId : String)
  | source (identity : RefreshRunIdentity dagId dagRunId) (startedAt : Timestamp)
      (sourceRelation : String) (watermark : Except Raised SourceWatermark)
      (result : Except Raised ArtifactSummary) (finishedAt : Timestamp)
  | build (result : Except Raised ArtifactSummary) (finishedAt : Timestamp)

/-- The exception handler of `record_and_check_source`. -/
def sourceHandler (dagId dagRunId : String) (finishedAt : Timestamp) (error : Raised) : Effect :=
  match error.summary with
  -- an exception of `record_source` leaves the handler at once
  | some summary => (recordSource sha256Hex describe dagId dagRunId summary).andThen
      (persistFailure sha256Hex describe dagId dagRunId error false finishedAt)
  | none => persistFailure sha256Hex describe dagId dagRunId error false finishedAt

/-- Start idempotently, capture the watermark, and run dbt freshness. -/
def recordAndCheckSource (identity : RefreshRunIdentity dagId dagRunId) (startedAt : Timestamp)
    (sourceRelation : String) (watermark : Except Raised SourceWatermark)
    (result : Except Raised ArtifactSummary) (finishedAt : Timestamp) : Effect :=
  (perform sha256Hex describe (some (.beginRun identity startedAt sourceRelation))).andThen
    (((Effect.ofExcept watermark fun watermark =>
        perform sha256Hex describe (some (.recordWatermark watermark : Call dagId dagRunId))).andThen
      (Effect.ofExcept result (recordSource sha256Hex describe dagId dagRunId))).guarded
      (sourceHandler sha256Hex describe dagId dagRunId finishedAt))

/-- Run the contracted dbt build and persist its bounded result summary. -/
def build (dagId dagRunId : String) (result : Except Raised ArtifactSummary)
    (finishedAt : Timestamp) : Effect :=
  ((perform sha256Hex describe (some (.resumeBuild : Call dagId dagRunId))).andThen
    (Effect.ofExcept result (recordBuild sha256Hex describe dagId dagRunId))).guarded
    fun error => persistFailure sha256Hex describe dagId dagRunId error true finishedAt

def ServiceCall.run : ServiceCall dagId dagRunId → Effect
  | .source identity startedAt sourceRelation watermark result finishedAt =>
      recordAndCheckSource sha256Hex describe identity startedAt sourceRelation watermark result
        finishedAt
  | .build result finishedAt =>
      AnalyticsRefresh.build sha256Hex describe dagId dagRunId result finishedAt

/-- The row after a sequence of calls. -/
def runCalls (calls : List (ServiceCall dagId dagRunId)) (ledger : Option RefreshRun) :
    Option RefreshRun :=
  calls.foldl (fun ledger call => (call.run sha256Hex describe ledger).1) ledger

end

/-! ## Effects one after the other -/

section

variable {ledger ledger' : Option RefreshRun} {error : Raised}

theorem Effect.andThen_of_ok {first : Effect} (second : Effect)
    (h : first ledger = (ledger', .ok ())) : first.andThen second ledger = second ledger' := by
  unfold Effect.andThen
  rw [h]

theorem Effect.andThen_of_error {first : Effect} (second : Effect)
    (h : first ledger = (ledger', .error error)) :
    first.andThen second ledger = (ledger', .error error) := by
  unfold Effect.andThen
  rw [h]

theorem Effect.guarded_of_ok {body : Effect} (handler : Raised → Effect)
    (h : body ledger = (ledger', .ok ())) : body.guarded handler ledger = (ledger', .ok ()) := by
  unfold Effect.guarded
  rw [h]

theorem Effect.guarded_of_error {body : Effect} (handler : Raised → Effect)
    (h : body ledger = (ledger', .error error)) :
    body.guarded handler ledger = (handler error).andThen (raise error) ledger' := by
  unfold Effect.guarded
  rw [h]

/-- A body that starts with an effect that returns. -/
theorem Effect.guarded_andThen_of_ok {first : Effect} (second : Effect)
    (handler : Raised → Effect) (h : first ledger = (ledger', .ok ())) :
    (first.andThen second).guarded handler ledger = second.guarded handler ledger' := by
  unfold Effect.guarded
  rw [andThen_of_ok second h]

/-- An exception that is raised again keeps what the handler did. -/
theorem Effect.andThen_raise_fst (effect : Effect) (ledger : Option RefreshRun) (error : Raised) :
    (effect.andThen (raise error) ledger).1 = (effect ledger).1 := by
  unfold Effect.andThen
  split
  · rename_i heq
    rw [heq]
    rfl
  · rename_i heq
    rw [heq]

/-- It leaves with that exception, or with one of the handler. -/
theorem Effect.andThen_raise_snd (effect : Effect) (ledger : Option RefreshRun) (error : Raised) :
    ∃ other, (effect.andThen (raise error) ledger).2 = .error other := by
  unfold Effect.andThen
  split
  · exact ⟨error, rfl⟩
  · exact ⟨_, rfl⟩

end

/-! ## Effects and invariants -/

def Effect.Keeps (I : Option RefreshRun → Prop) (effect : Effect) : Prop :=
  ∀ ledger, I ledger → I (effect ledger).1

section

variable {I : Option RefreshRun → Prop}

theorem Effect.Keeps.raise (error : Raised) : (Effect.raise error).Keeps I := fun _ h => h

theorem Effect.Keeps.ofExcept {α : Type} (result : Except Raised α) {next : α → Effect}
    (h : ∀ a, (next a).Keeps I) : (Effect.ofExcept result next).Keeps I := by
  cases result with
  | ok a => exact h a
  | error error => exact .raise error

theorem Effect.Keeps.andThen {first second : Effect} (hfirst : first.Keeps I)
    (hsecond : second.Keeps I) : (first.andThen second).Keeps I := by
  intro ledger h
  have hmiddle := hfirst ledger h
  unfold Effect.andThen
  split
  · rename_i ledger' heq
    rw [heq] at hmiddle
    exact hsecond ledger' hmiddle
  · rename_i ledger' error heq
    rw [heq] at hmiddle
    exact hmiddle

theorem Effect.Keeps.guarded {body : Effect} {handler : Raised → Effect} (hbody : body.Keeps I)
    (hhandler : ∀ error, (handler error).Keeps I) : (body.guarded handler).Keeps I := by
  intro ledger h
  have hmiddle := hbody ledger h
  unfold Effect.guarded
  split
  · rename_i ledger' heq
    rw [heq] at hmiddle
    exact hmiddle
  · rename_i ledger' error heq
    rw [heq] at hmiddle
    exact ((hhandler error).andThen (.raise error)) ledger' hmiddle

end

/-! ## Storage calls on a row -/

section

variable {sha256Hex : String → String} {describe : Failure → List Nat} {dagId dagRunId : String}

/-- A row that is not finished successfully, and which the table accepts. -/
def Unsucceeded (ledger : Option RefreshRun) : Prop :=
  ∀ row ∈ ledger, row.Valid ∧ row.status ≠ .succeeded

theorem perform_of_ok {c : Call dagId dagRunId} {ledger ledger' : Option RefreshRun} {id : String}
    (h : c.statement sha256Hex ledger = .ok (ledger', some id)) :
    perform sha256Hex describe (some c) ledger = (ledger', .ok ()) := by
  simp only [perform, Call.run, h]

theorem perform_of_error {c : Call dagId dagRunId} {ledger : Option RefreshRun} {e : Error}
    (h : c.statement sha256Hex ledger = .error e) :
    perform sha256Hex describe (some c) ledger
      = (ledger, .error (.other (describe (.database e)))) := by
  simp only [perform, Call.run, h]

theorem perform_of_none {ledger : Option RefreshRun} :
    perform sha256Hex describe (none : Option (Call dagId dagRunId)) ledger
      = (ledger, .error (.other (describe (.database (.invalidInput "text"))))) := rfl

/-- A statement with a summary writes a running row if the summary has parameters and the table
accepts the row; otherwise it keeps the old one and raises. -/
theorem perform_summary_cases (call : DbtResultSummary → Call dagId dagRunId)
    (leaves : DbtResultSummary → RefreshRun) {row : RefreshRun} (hs : row.status = .running)
    (hstatement : ∀ stored, (call stored).statement sha256Hex (some row)
      = updateRun [.running] (fun _ => .ok (leaves stored)) (some row))
    (summary : ArtifactSummary) :
    (∃ stored, summary.stored = some stored ∧ (leaves stored).Valid
      ∧ perform sha256Hex describe (summary.stored.map call) (some row)
        = (some (leaves stored), .ok ()))
    ∨ (∀ stored, summary.stored = some stored → ¬ (leaves stored).Valid)
      ∧ ∃ message, perform sha256Hex describe (summary.stored.map call) (some row)
        = (some row, .error (.other message)) := by
  have hguard : row.status ∈ [RunStatus.running] := by rw [hs]; decide
  cases hstored : summary.stored with
  | none =>
      refine Or.inr ⟨fun stored h => ?_, _, perform_of_none⟩
      cases h
  | some stored =>
      by_cases hnew : (leaves stored).Valid
      · refine Or.inl ⟨stored, rfl, hnew, ?_⟩
        exact perform_of_ok ((hstatement stored).trans (updateRun_of_valid hguard rfl hnew))
      · refine Or.inr ⟨fun other h => ?_, ?_⟩
        · cases h
          exact hnew
        · obtain ⟨e, he⟩ : ∃ e, updateRun [.running] (fun _ => .ok (leaves stored)) (some row)
              = .error e := updateRun_of_not_valid hguard rfl hnew
          exact ⟨_, perform_of_error ((hstatement stored).trans he)⟩

/-- A statement without a row it may write leaves the ledger and raises. -/
theorem perform_of_rejected {c : Call dagId dagRunId} {ledger : Option RefreshRun}
    (h : c.statement sha256Hex ledger = .ok (ledger, none)) :
    perform sha256Hex describe (some c) ledger
      = (ledger, .error (.other (describe (.valueError c.rejection)))) := by
  simp only [perform, Call.run, h]

/-- What a call other than `finish_success` writes has not succeeded. -/
theorem status_of_statement {c : Call dagId dagRunId} (hc : ∀ t, c ≠ .finishSuccess t)
    {ledger ledger' : Option RefreshRun} {id : Option String}
    (h : c.statement sha256Hex ledger = .ok (ledger', id))
    (hledger : ∀ row ∈ ledger, row.status ≠ .succeeded) :
    ∀ row ∈ ledger', row.status ≠ .succeeded := by
  have hpure : ∀ {guard : List RunStatus} {set : RefreshRun → RefreshRun},
      (∀ old, old.status ∈ guard → (set old).status ≠ .succeeded) →
      updateRun guard (fun row => .ok (set row)) ledger = .ok (ledger', id) →
      ∀ row ∈ ledger', row.status ≠ .succeeded := by
    intro guard set hset hupdate
    rcases updateRun_pure hupdate with ⟨-, rfl⟩ | ⟨old, -, -, hguard, -, rfl⟩
    · exact hledger
    · intro row hrow
      cases hrow
      exact hset old hguard
  have hrunning : ∀ old : RefreshRun, old.status ∈ [RunStatus.running] →
      old.status ≠ .succeeded := by
    intro old hold
    rw [List.mem_singleton.mp hold]
    decide
  cases c with
  | beginRun identity startedAt sourceRelation =>
      obtain ⟨_, -, hrest⟩ := bind_eq_ok h
      cases ledger with
      | none =>
          cases hrest
          intro row hrow
          cases hrow
          exact RunStatus.noConfusion
      | some old =>
          refine hpure ?_ hrest
          exact fun _ _ => RunStatus.noConfusion
  | recordSource summary =>
      refine hpure ?_ h
      exact hrunning
  | recordWatermark watermark =>
      refine hpure ?_ h
      exact hrunning
  | recordBuild summary =>
      refine hpure ?_ h
      exact hrunning
  | resumeBuild =>
      refine hpure ?_ h
      exact fun _ _ => RunStatus.noConfusion
  | finishSuccess t => exact absurd rfl (hc t)
  | finishFailure finishedAt category errorSummary summary =>
      rcases updateRun_ok h with ⟨-, rfl⟩ | ⟨old, new, -, -, -, hset, -, rfl⟩
      · exact hledger
      · obtain ⟨stored, -, hrow⟩ := bind_eq_ok hset
        cases hrow
        intro row hrow
        cases hrow
        exact RunStatus.noConfusion

/-- A storage call of a step keeps the row unsucceeded. -/
theorem keeps_perform {call : Option (Call dagId dagRunId)}
    (hcall : ∀ c ∈ call, ∀ t, c ≠ .finishSuccess t) :
    (perform sha256Hex describe call).Keeps Unsucceeded := by
  intro ledger hledger
  cases call with
  | none => exact hledger
  | some c =>
      cases hs : c.statement sha256Hex ledger with
      | error e =>
          rw [perform_of_error hs]
          exact hledger
      | ok result =>
          obtain ⟨ledger', id⟩ := result
          have hstatus := status_of_statement (hcall c rfl) hs fun row hrow => (hledger row hrow).2
          rcases statement_ok hs with ⟨rfl, rfl⟩ | ⟨new, rfl, rfl, hpass, -⟩
          · rw [perform_of_rejected hs]
            exact hledger
          · rw [perform_of_ok hs]
            intro row hrow
            cases hrow
            exact ⟨enforce_iff_valid.mp hpass, hstatus new rfl⟩

theorem keeps_persistFailure (error : Raised) (includeResultSummary : Bool)
    (finishedAt : Timestamp) :
    (persistFailure sha256Hex describe dagId dagRunId error includeResultSummary
      finishedAt).Keeps Unsucceeded := by
  refine keeps_perform fun c hc t heq => ?_
  obtain ⟨errorSummary, -, hrest⟩ := Option.bind_eq_some_iff.mp hc
  obtain ⟨stored, -, hcall⟩ := Option.bind_eq_some_iff.mp hrest
  rw [heq] at hcall
  cases hcall

/-- A call of the service keeps the row unsucceeded. -/
theorem keeps_serviceCall (call : ServiceCall dagId dagRunId) :
    (call.run sha256Hex describe).Keeps Unsucceeded := by
  have hmap : ∀ {summary : Option DbtResultSummary} {f : DbtResultSummary → Call dagId dagRunId},
      (∀ stored t, f stored ≠ .finishSuccess t) →
      (perform sha256Hex describe (summary.map f)).Keeps Unsucceeded := by
    intro summary f hf
    refine keeps_perform fun c hc t => ?_
    obtain ⟨stored, -, rfl⟩ := Option.map_eq_some_iff.mp hc
    exact hf stored t
  have hcall : ∀ {c : Call dagId dagRunId}, (∀ t, c ≠ .finishSuccess t) →
      (perform sha256Hex describe (some c)).Keeps Unsucceeded := by
    intro c hc
    refine keeps_perform fun d hd => ?_
    cases hd
    exact hc
  cases call with
  | source identity startedAt sourceRelation watermark result finishedAt =>
      have hrecord : ∀ summary : ArtifactSummary,
          (recordSource sha256Hex describe dagId dagRunId summary).Keeps Unsucceeded :=
        fun summary => hmap fun _ _ h => nomatch h
      refine .andThen (hcall fun _ h => nomatch h) (.guarded (.andThen
        (.ofExcept watermark fun _ => hcall fun _ h => nomatch h)
        (.ofExcept result hrecord)) fun error => ?_)
      unfold sourceHandler
      cases hsummary : error.summary with
      | none => exact keeps_persistFailure error false finishedAt
      | some summary => exact (hrecord summary).andThen (keeps_persistFailure error false finishedAt)
  | build result finishedAt =>
      exact .guarded (.andThen (hcall fun _ h => nomatch h)
        (.ofExcept result fun summary => hmap fun _ _ h => nomatch h))
        fun error => keeps_persistFailure error true finishedAt

theorem unsucceeded_runCalls (calls : List (ServiceCall dagId dagRunId))
    {ledger : Option RefreshRun} (h : Unsucceeded ledger) :
    Unsucceeded (runCalls sha256Hex describe calls ledger) := by
  induction calls generalizing ledger with
  | nil => exact h
  | cons call calls ih => exact ih (keeps_serviceCall call ledger h)

/-! ## Storing a failure -/

/-- The summary has parameters that fit their columns. -/
def ArtifactSummary.Fits (summary : ArtifactSummary) : Prop :=
  ∃ stored, summary.stored = some stored ∧ stored.Fits

/-- The parameters of a failure fit their columns. -/
structure FailureFits (error : Raised) (summary : Option ArtifactSummary) : Prop where
  category : fitsText error.category
  text : fitsCodes (sanitizeError error.text)
  summary : ∀ found ∈ summary, found.Fits

theorem varchar_of_text {message : List Nat} {s : String}
    (h : text (sanitizeError message) = some s) : varchar 1000 "error_summary" s = .ok s := by
  refine varchar_of_length_le ?_
  rw [length_text h]
  exact (sanitizeError_length message).2

/-- A summary that fits has parameters. -/
theorem isSome_storedSummary {summary : Option ArtifactSummary}
    (h : ∀ found ∈ summary, found.Fits) : (storedSummary summary).isSome := by
  cases summary with
  | none => rfl
  | some found =>
      obtain ⟨stored, hstored, -⟩ := h found rfl
      have hsummary : storedSummary (some found) = found.stored.map some := rfl
      rw [hsummary, hstored]
      rfl

/-- A summary fits if its parameters do. -/
theorem fits_storedSummary_iff {summary : Option ArtifactSummary}
    {parameters : Option DbtResultSummary} (h : storedSummary summary = some parameters) :
    (∀ found ∈ summary, found.Fits) ↔ ∀ found ∈ parameters, found.Fits := by
  cases summary with
  | none =>
      cases h
      exact iff_of_true (fun _ h => nomatch h) fun _ h => nomatch h
  | some found =>
      obtain ⟨parameter, hparameter, rfl⟩ := Option.map_eq_some_iff.mp h
      constructor
      · rintro hall _ hmem
        cases hmem
        obtain ⟨other, hother, hfits⟩ := hall found rfl
        cases hother.symm.trans hparameter
        exact hfits
      · rintro hall _ hmem
        cases hmem
        exact ⟨parameter, hparameter, hall parameter rfl⟩

/-- A failure with parameters fits if they do. -/
theorem failureFits_iff {error : Raised} {summary : Option ArtifactSummary} {stored : String}
    {parameters : Option DbtResultSummary} (htext : text (sanitizeError error.text) = some stored)
    (hsummary : storedSummary summary = some parameters) :
    FailureFits error summary
      ↔ fitsText error.category ∧ fitsText stored ∧ ∀ found ∈ parameters, found.Fits := by
  have hcodes : fitsCodes (sanitizeError error.text) = fitsText stored := by
    unfold fitsCodes
    rw [htext]
    rfl
  rw [← hcodes, ← fits_storedSummary_iff hsummary]
  exact ⟨fun h => ⟨h.category, h.text, h.summary⟩, fun ⟨hc, ht, hs⟩ => ⟨hc, ht, hs⟩⟩

/-- On a running row a failure that fits is stored; any other one leaves the row and raises. -/
theorem persistFailure_running (sha256Hex : String → String) (describe : Failure → List Nat)
    (dagId dagRunId : String) {row : RefreshRun} (hvalid : row.Valid) (hs : row.status = .running)
    (error : Raised) (includeResultSummary : Bool) (finishedAt : Timestamp)
    {summary : Option ArtifactSummary}
    (hsummary : (if includeResultSummary then error.summary else none) = summary) :
    (FailureFits error summary ∧ ∃ stored parameters,
      text (sanitizeError error.text) = some stored ∧ storedSummary summary = some parameters
      ∧ persistFailure sha256Hex describe dagId dagRunId error includeResultSummary finishedAt
          (some row)
        = (some (row.failedAt finishedAt error.category stored parameters), .ok ())
      ∧ (row.failedAt finishedAt error.category stored parameters).Valid)
    ∨ ¬ FailureFits error summary ∧ ∃ message,
      persistFailure sha256Hex describe dagId dagRunId error includeResultSummary finishedAt
        (some row) = (some row, .error (.other message)) := by
  unfold persistFailure
  simp only [hsummary]
  cases htext : text (sanitizeError error.text) with
  | none =>
      refine Or.inr ⟨fun hfits => ?_, _, perform_of_none⟩
      have hany : (none : Option String).any fitsText = true := htext ▸ hfits.text
      cases hany
  | some stored =>
      cases hstored : storedSummary summary with
      | none =>
          refine Or.inr ⟨fun hfits => ?_, _, perform_of_none⟩
          have hsome := isSome_storedSummary hfits.summary
          rw [hstored] at hsome
          cases hsome
      | some parameters =>
          have hfits := failureFits_iff htext hstored
          have hguard : row.status ∈ [RunStatus.running, .failed] := by rw [hs]; decide
          have hset := finishFailure_set hvalid hs (varchar_of_text htext) finishedAt
            error.category parameters
          by_cases hnew : (row.failedAt finishedAt error.category stored parameters).Valid
          · refine Or.inl ⟨hfits.mpr ((valid_failedAt_iff hvalid).mp hnew), stored, parameters, rfl,
              rfl, ?_, hnew⟩
            exact perform_of_ok (hset.trans (updateRun_of_valid hguard rfl hnew))
          · refine Or.inr ⟨fun h => hnew ((valid_failedAt_iff hvalid).mpr (hfits.mp h)), ?_⟩
            obtain ⟨e, he⟩ : ∃ e, updateRun [.running, .failed]
                (fun _ => .ok (row.failedAt finishedAt error.category stored parameters)) (some row)
                = .error e := updateRun_of_not_valid hguard rfl hnew
            exact ⟨_, perform_of_error (hset.trans he)⟩

end

end AnalyticsRefresh
