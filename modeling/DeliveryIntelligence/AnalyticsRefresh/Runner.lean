import DeliveryIntelligence.AnalyticsRefresh.Models
import DeliveryIntelligence.AnalyticsRefresh.Sanitizer
import DeliveryIntelligence.Common.PythonJson

set_option autoImplicit false

/-!
# The dbt runner

`analytics_refresh/runner.py`: the artifact of a dbt command is parsed into bounded metadata, and
a failed command raises a categorized error with the summary, if the artifact has one. Strings are
given by their code points. The argument lists of the commands are left out; `unlink` removes the
old artifact before a command, so what is read is what the command wrote.
-/

namespace AnalyticsRefresh

open Python

/-! ## What the runner runs on -/

/-- An exception of `json.loads`. -/
inductive LoadsError
  /-- `json.JSONDecodeError` -/
  | decode
  /-- any other one, with its text -/
  | other (message : List Nat)

/-- The standard library. -/
structure Reading where
  /-- `read_text(encoding="utf-8")`, with the text of a `UnicodeDecodeError` -/
  readText : List UInt8 → Except (List Nat) (List Nat)
  loads : List Nat → Except LoadsError Value
  /-- `repr` of a list or a dictionary -/
  repr : Value → List Nat
  lower : List Nat → List Nat

/-- `AnalyticsRefreshSettings`, as far as the runner reads it. -/
structure AnalyticsRefreshSettings where
  artifactMaxFailures : Nat
  artifactMessageMaxChars : Nat
  maxFailures_bounds : 1 ≤ artifactMaxFailures ∧ artifactMaxFailures ≤ 25
  messageMaxChars_bounds : 100 ≤ artifactMessageMaxChars ∧ artifactMessageMaxChars ≤ 1000

/-- The artifact after the command. -/
inductive Artifact
  | missing
  /-- an `OSError` other than `FileNotFoundError` -/
  | unreadable
  | file (contents : List UInt8)

structure CompletedProcess where
  returncode : Int
  stdout : List Nat
  stderr : List Nat

/-- What the executor does. -/
inductive Execution
  /-- `OSError` or `SubprocessError` with its text -/
  | raised (message : List Nat)
  | completed (result : CompletedProcess)

/-- What a dbt command leaves. -/
structure Outcome where
  execution : Execution
  artifact : Artifact

/-! ## Summaries and errors -/

/-- The dictionary `counts`. -/
structure Counts where
  succeeded : Nat
  failed : Nat
  skipped : Nat
  warnings : Nat
  errors : Nat
  deriving DecidableEq

/-- `DbtResultSummary` before it is stored. -/
structure ArtifactSummary where
  invocationId : Option (List Nat)
  counts : Counts
  artifact : Value

/-- What a step of a refresh raises. -/
inductive Raised
  | refreshError (category : String) (message : List Nat) (summary : Option ArtifactSummary)
  /-- any other exception, with its text -/
  | other (message : List Nat)

/-- `str(error)` -/
def Raised.text : Raised → List Nat
  | .refreshError _ message _ => message
  | .other message => message

def Raised.summary : Raised → Option ArtifactSummary
  | .refreshError _ _ summary => summary
  | .other _ => none

/-- The category `_persist_failure` stores. -/
def Raised.category : Raised → String
  | .refreshError category _ _ => category
  | .other _ => "unexpected_error"

/-! ## Results -/

/-- `str(value)`; `json.loads` returns no integer with too many digits for it. -/
def Reading.str (reading : Reading) : Value → List Nat
  | .none => codePoints "None"
  | .bool true => codePoints "True"
  | .bool false => codePoints "False"
  | .int n => codePoints (toString n)
  | .float repr => codePoints repr
  | .str text => text
  | value => reading.repr value

/-- The truth value of a value. -/
def truth : Value → Bool
  | .none => false
  | .bool value => value
  | .int n => n != 0
  | .float repr => repr != "0.0" && repr != "-0.0"
  | .str text => !text.isEmpty
  | .list items => !items.isEmpty
  | .dict members => !members.isEmpty

/-- The keys of `counts`. -/
inductive Bucket
  | succeeded
  | failed
  | skipped
  | warnings
  | errors
  deriving DecidableEq

/-- `_status_bucket` -/
def statusBucket (status : List Nat) : Bucket :=
  if status ∈ [codePoints "success", codePoints "pass"] then .succeeded
  else if status ∈ [codePoints "fail", codePoints "failed"] then .failed
  else if status ∈ [codePoints "skip", codePoints "skipped"] then .skipped
  else if status ∈ [codePoints "warn", codePoints "warning"] then .warnings
  else .errors

/-- `bucket in {"failed", "warnings", "errors"}` -/
def Bucket.isReported : Bucket → Bool
  | .succeeded => false
  | .failed => true
  | .skipped => false
  | .warnings => true
  | .errors => true

/-- `counts[bucket] += 1` -/
def Counts.add (counts : Counts) : Bucket → Counts
  | .succeeded => { counts with succeeded := counts.succeeded + 1 }
  | .failed => { counts with failed := counts.failed + 1 }
  | .skipped => { counts with skipped := counts.skipped + 1 }
  | .warnings => { counts with warnings := counts.warnings + 1 }
  | .errors => { counts with errors := counts.errors + 1 }

/-- An entry of `failures`. -/
structure FailureDetail where
  uniqueId : List Nat
  status : List Nat
  message : List Nat

/-- The two accumulators of the loop over the results. -/
structure Tally where
  counts : Counts
  failures : List FailureDetail

section

variable (reading : Reading) (maxFailures maxMessageChars : Nat)

/-- `str(raw_result.get("status", "error")).lower()` -/
def resultStatus (rawResult : List (List Nat × Value)) : List Nat :=
  reading.lower (((get rawResult "status").map reading.str).getD (codePoints "error"))

/-- The entry of a result. -/
def failureDetail (rawResult : List (List Nat × Value)) : FailureDetail :=
  let status := resultStatus reading rawResult
  let message :=
    match get rawResult "message" with
    | some value => if truth value then reading.str value else status
    | none => status
  { uniqueId := (((get rawResult "unique_id").map reading.str).getD (codePoints "unknown")).take 200
    status := status.take 50
    message := (sanitizeError message).take maxMessageChars }

/-- One turn of the loop. -/
def addResult (tally : Tally) : Value → Except Raised Tally
  | .dict rawResult =>
      let bucket := statusBucket (resultStatus reading rawResult)
      let counts := tally.counts.add bucket
      if bucket.isReported && decide (tally.failures.length < maxFailures) then
        .ok ⟨counts, tally.failures ++ [failureDetail reading maxMessageChars rawResult]⟩
      else .ok ⟨counts, tally.failures⟩
  | _ => .error (.refreshError "artifact_invalid"
      (codePoints "dbt artifact contains a non-object result") none)

def FailureDetail.value (detail : FailureDetail) : Value :=
  .dict [(codePoints "unique_id", .str detail.uniqueId), (codePoints "status", .str detail.status),
    (codePoints "message", .str detail.message)]

def Counts.value (counts : Counts) : Value :=
  .dict [(codePoints "succeeded", .int counts.succeeded), (codePoints "failed", .int counts.failed),
    (codePoints "skipped", .int counts.skipped), (codePoints "warnings", .int counts.warnings),
    (codePoints "errors", .int counts.errors)]

/-- The dictionary `artifact` of a summary. -/
def artifactValue (name : String) (invocationId : Option (List Nat)) (tally : Tally) : Value :=
  .dict
    [ (codePoints "artifact", .str (codePoints name))
    , (codePoints "invocation_id", (invocationId.map Value.str).getD .none)
    , (codePoints "counts", tally.counts.value)
    , (codePoints "failures", .list (tally.failures.map FailureDetail.value))
    , (codePoints "results_truncated", .bool (decide (maxFailures ≤ tally.failures.length))) ]

/-- `metadata.get("invocation_id")` where both are what they should be. -/
def invocationIdOf (document : List (List Nat × Value)) : Option (List Nat) :=
  match get document "metadata" with
  | some (.dict metadata) =>
      match get metadata "invocation_id" with
      | some (.str invocationId) => some invocationId
      | _ => none
  | _ => none

/-- `parse_dbt_artifact` from the parsed document on. -/
def parseDocument (name : String) (document : Value) : Except Raised ArtifactSummary :=
  match document with
  | .dict members =>
      match get members "results" with
      | some (.list results) => do
          let tally ← results.foldlM (addResult reading maxFailures maxMessageChars)
            ⟨⟨0, 0, 0, 0, 0⟩, []⟩
          return {
            invocationId := invocationIdOf members
            counts := tally.counts
            artifact := artifactValue maxFailures name (invocationIdOf members) tally }
      | _ => .error (.refreshError "artifact_invalid"
          (codePoints ("dbt artifact has no result list: " ++ name)) none)
  | _ => .error (.refreshError "artifact_invalid"
      (codePoints ("dbt artifact has no result list: " ++ name)) none)

/-- Parse only bounded metadata, counts, and sanitized failing-node messages. -/
def parseDbtArtifact (name : String) : Artifact → Except Raised ArtifactSummary
  | .missing => .error (.refreshError "artifact_missing"
      (codePoints ("dbt artifact is missing: " ++ name)) none)
  | .unreadable => .error (.refreshError "artifact_invalid"
      (codePoints ("dbt artifact is invalid: " ++ name)) none)
  | .file contents =>
      match reading.readText contents with
      -- `UnicodeDecodeError` is a `ValueError`, which nothing here catches
      | .error message => .error (.other message)
      | .ok text =>
          match reading.loads text with
          | .error .decode => .error (.refreshError "artifact_invalid"
              (codePoints ("dbt artifact is invalid: " ++ name)) none)
          | .error (.other message) => .error (.other message)
          | .ok document => parseDocument reading maxFailures maxMessageChars name document

end

/-! ## The commands -/

/-- The two dbt commands of a refresh. -/
inductive DbtStep
  | source
  | build
  deriving DecidableEq

def DbtStep.artifactName : DbtStep → String
  | .source => "sources.json"
  | .build => "run_results.json"

/-- The category of a failed command. -/
def DbtStep.category : DbtStep → String
  | .source => "source_freshness_failed"
  | .build => "dbt_build_failed"

/-- `sanitize_error(result.stderr or result.stdout or f"dbt exited {result.returncode}")` -/
def failureMessage (result : CompletedProcess) : List Nat :=
  sanitizeError
    (if result.stderr ≠ [] then result.stderr
    else if result.stdout ≠ [] then result.stdout
    else codePoints s!"dbt exited {result.returncode}")

/-- `DbtRunner._run` -/
def runDbt (reading : Reading) (settings : AnalyticsRefreshSettings) (step : DbtStep)
    (outcome : Outcome) : Except Raised ArtifactSummary :=
  match outcome.execution with
  | .raised message => .error (.refreshError step.category (sanitizeError message) none)
  | .completed result =>
      match parseDbtArtifact reading settings.artifactMaxFailures settings.artifactMessageMaxChars
          step.artifactName outcome.artifact with
      | .ok summary =>
          if result.returncode = 0 then .ok summary
          else .error (.refreshError step.category (failureMessage result) (some summary))
      | .error (.refreshError category message summary) =>
          if result.returncode = 0 then .error (.refreshError category message summary)
          else .error (.refreshError step.category (failureMessage result) none)
      | .error (.other message) => .error (.other message)

end AnalyticsRefresh
