import DeliveryIntelligence.Backfill.Process

set_option autoImplicit false

/-!
# The REST backfill

`backfill/rest_backfill.py`: workflow runs, deployments and the statuses of each deployment,
traversed by page number. `while True` is a recursion with fuel; an invocation that runs out
of fuel is interrupted.
-/

namespace Backfill

open Datetime Program

/-! ## Reading responses -/

/-- `GET path` with query parameters. -/
structure RestRequest where
  path : String
  params : List (String × Json)

/-- The page number in the cursor of a checkpoint in progress. -/
def pageOfCursor (cursor : Option String) : Except BackfillError Int :=
  match cursor with
  | none => .error (.restDataError "in-progress REST checkpoint is missing its next page")
  | some cursor =>
      match Python.int cursor with
      | none => .error (.restDataError "REST checkpoint cursor is not a page number")
      | some page =>
          if page ≤ 0 then .error (.restDataError "REST checkpoint page must be positive")
          else .ok page

/-- `_next_page` -/
def nextPage (checkpoint : Option BackfillCheckpoint) : Except BackfillError Int :=
  match checkpoint with
  | none => .ok 1
  | some checkpoint => pageOfCursor checkpoint.cursor

/-- `_required_object_payload` -/
def requiredObjectPayload (payload : Json) (name : String) : Except BackfillError Json :=
  if isObject payload then .ok payload
  else .error (.restDataError (name ++ " must be a JSON object"))

/-- `_required_array_payload` -/
def requiredArrayPayload (payload : Json) (name : String) : Except BackfillError (List Json) :=
  match payload with
  | .array nodes =>
      if nodes.all isObject then .ok nodes
      else .error (.restDataError (name ++ " must be an array of objects"))
  | _ => .error (.restDataError (name ++ " must be an array of objects"))

/-- `_required_object_list` -/
def requiredObjectList (container : Json) (name : String) : Except BackfillError (List Json) :=
  match getMember container name with
  | .array nodes =>
      if nodes.all isObject then .ok nodes
      else .error (.restDataError ("GitHub REST response has invalid " ++ name))
  | _ => .error (.restDataError ("GitHub REST response has invalid " ++ name))

/-- `_required_object` -/
def requiredRestObject (container : Json) (name : String) : Except BackfillError Json :=
  if isObject (getMember container name) then .ok (getMember container name)
  else .error (.restDataError ("GitHub REST response is missing " ++ name))

/-- `_required_string` -/
def requiredRestString (container : Json) (name : String) : Except BackfillError String :=
  match nonemptyString container name with
  | some value => .ok value
  | none => .error (.restDataError ("GitHub REST response is missing " ++ name))

/-- `_required_nonnegative_int`: only a number without a fraction is read as an `int`. -/
def requiredNonnegativeInt (container : Json) (name : String) : Except BackfillError Int :=
  match getMember container name with
  | .number value 0 =>
      if value < 0 then .error (.restDataError ("GitHub REST response has invalid " ++ name))
      else .ok value
  | _ => .error (.restDataError ("GitHub REST response has invalid " ++ name))

/-- `_required_positive_int` -/
def requiredPositiveInt (container : Json) (name : String) : Except BackfillError Int := do
  let value ← requiredNonnegativeInt container name
  if value = 0 then .error (.restDataError ("GitHub REST response has invalid " ++ name))
  else return value

/-- `_aware_datetime` -/
def restAwareDatetime (readers : Readers) (container : Json) (name : String) :
    Except BackfillError Aware :=
  match readers.awareDatetime (getMember container name) with
  | some value => .ok value
  | none => .error (.restDataError ("GitHub REST response has invalid " ++ name))

/-- `_github_timestamp` -/
def githubTimestamp (value : Aware) : String := Python.replace "+00:00" "Z" value.isoformat

/-- `GitHubRestBackfill.__init__` -/
def GitHubRestBackfill.init (repository : String) (repositoryId installationId pageSize : Int) :
    Except BackfillError Settings :=
  Settings.init "GitHub REST page_size must be between 1 and 100" repository repositoryId
    installationId pageSize

/-- `_repository_path` -/
def Settings.repositoryPath (settings : Settings) : String :=
  "repos/" ++ settings.owner ++ "/" ++ settings.name

/-! ## Records -/

section

variable (readers : Readers) (settings : Settings)

/-- `_validate_workflow_repository` -/
def validateWorkflowRepository (node : Json) : Except BackfillError Unit := do
  let repository ← requiredRestObject node "repository"
  if equalsInt (getMember repository "id") settings.repositoryId then
    if equalsText (getMember repository "full_name") settings.repository then return ()
    else .error (.restDataError "workflow-run repository name does not match configuration")
  else .error (.restDataError "workflow-run repository id does not match configuration")

/-- `_workflow_run_record` -/
def workflowRunRecord (node : Json) : Except BackfillError BackfillRecord := do
  let runId ← requiredPositiveInt node "id"
  let attempt ← requiredPositiveInt node "run_attempt"
  let createdAt ← restAwareDatetime readers node "created_at"
  let updatedAt ← restAwareDatetime readers node "updated_at"
  let status ← requiredRestString node "status"
  validateWorkflowRepository settings node
  BackfillRecord.postInit
    { sourceRecordKey :=
        s!"github_rest:workflow_run:{runId}:{attempt}:" ++ updatedAt.isoformat
      eventName := "workflow_run"
      -- Both branches of the source give the same text.
      action := if readers.lower status = "completed" then "completed" else readers.lower status
      repositoryId := settings.repositoryId
      installationId := settings.installationId
      occurredAt := some createdAt
      payload := .object (settings.payload "workflow_run" node) }

/-- `_deployment_record` -/
def deploymentRecord (node : Json) (createdAt : Aware) : Except BackfillError BackfillRecord := do
  let deploymentId ← requiredPositiveInt node "id"
  BackfillRecord.postInit
    { sourceRecordKey := s!"github_rest:deployment:{deploymentId}"
      eventName := "deployment"
      action := "created"
      repositoryId := settings.repositoryId
      installationId := settings.installationId
      occurredAt := some createdAt
      payload := .object (settings.payload "deployment" node) }

/-- `_deployment_status_record` -/
def deploymentStatusRecord (deploymentId : Int) (node : Json) :
    Except BackfillError BackfillRecord := do
  let statusId ← requiredPositiveInt node "id"
  let state ← requiredRestString node "state"
  let occurredAt ← restAwareDatetime readers node "created_at"
  BackfillRecord.postInit
    { sourceRecordKey := s!"github_rest:deployment_status:{statusId}"
      eventName := "deployment_status"
      action := readers.lower state
      repositoryId := settings.repositoryId
      installationId := settings.installationId
      occurredAt := some occurredAt
      payload := .object (settings.payload "deployment_status" node
        ++ [("deployment_id", .number deploymentId 0)]) }

/-- `_run_key` -/
def Settings.runKey (resource scope : String) (window : Window) :
    Except BackfillError BackfillRunKey :=
  BackfillRunKey.postInit
    { repositoryId := settings.repositoryId, resource, scope, window }

/-! ## Traversals -/

/-- `_persist_page` -/
def persistNumberedPage (key : BackfillRunKey) (records : List BackfillRecord) (page : Int)
    (completed : Bool) : Job RestRequest PageWriteOutcome := do
  if completed then Job.persistPage key records none true
  else
    match Python.str (page + 1) with
    | some cursor => Job.persistPage key records (some cursor) false
    | none => .raise (.valueError "Exceeds the limit (4300 digits) for integer string conversion")

/-- The workflow runs of a response that lie in the window. -/
def windowRecords (window : Window) : List Json → Except BackfillError (List BackfillRecord)
  | [] => .ok []
  | node :: rest => do
      let createdAt ← restAwareDatetime readers node "created_at"
      if window.contains createdAt then do
        let record ← workflowRunRecord readers settings node
        let records ← windowRecords window rest
        return record :: records
      else windowRecords window rest

/-- `_MAX_FILTERED_WORKFLOW_RUNS` -/
def maxFilteredWorkflowRuns : Int := 1000

/-- What `_run_workflow_runs` reads from a response: the total count, the nodes and the
records. -/
def workflowRunsResponse (window : Window) (payload : Json) :
    Except BackfillError (Int × List Json × List BackfillRecord) := do
  let response ← requiredObjectPayload payload "workflow-run response"
  let totalCount ← requiredNonnegativeInt response "total_count"
  if totalCount > maxFilteredWorkflowRuns then
    .error (.restDataError ("workflow-run window exceeds GitHub's 1,000-result filtered-search "
      ++ "cap; use a smaller time window"))
  else do
    let nodes ← requiredObjectList response "workflow_runs"
    let records ← windowRecords readers settings window nodes
    return (totalCount, nodes, records)

/-- The loop of `_run_workflow_runs`. -/
def workflowRunsLoop (window : Window) (key : BackfillRunKey) (page : Int)
    (summary : BackfillSummary) : Nat → Job RestRequest BackfillSummary
  | 0 => .raise .interrupted
  | fuel + 1 => do
      let payload ← Job.request
        { path := settings.repositoryPath ++ "/actions/runs"
          params :=
            [ ("created", .string (githubTimestamp window.windowStart ++ ".."
                ++ githubTimestamp window.windowEnd))
            , ("exclude_pull_requests", .bool false)
            , ("per_page", .number settings.pageSize 0)
            , ("page", .number page 0) ] }
      let (totalCount, nodes, records) ←
        Prog.ofExcept (workflowRunsResponse readers settings window payload)
      let completed := decide (page * settings.pageSize ≥ totalCount)
      let outcome ← persistNumberedPage key records page completed
      let summary := summary.plus outcome.summary
      if completed then return summary
      else if nodes.isEmpty then
        -- By now the empty page is persisted, and the checkpoint names the next page.
        .raise (.restDataError "workflow-run pagination ended before total_count")
      else workflowRunsLoop window key (page + 1) summary fuel

/-- `_run_workflow_runs` -/
def runWorkflowRuns (window : Window) (fuel : Nat) : Job RestRequest BackfillSummary := do
  let key ← Prog.ofExcept (settings.runKey "workflow_runs" "repository" window)
  let checkpoint ← Job.loadCheckpoint key
  if isCompleted checkpoint then return .zero
  else do
    let page ← Prog.ofExcept (nextPage checkpoint)
    workflowRunsLoop readers settings window key page .zero fuel

/-- The records of the statuses of one deployment. -/
def statusRecords (deploymentId : Int) : List Json → Except BackfillError (List BackfillRecord)
  | [] => .ok []
  | node :: rest => do
      let record ← deploymentStatusRecord readers settings deploymentId node
      let records ← statusRecords deploymentId rest
      return record :: records

/-- The loop of `_run_deployment_statuses`. -/
def statusesLoop (deploymentId : Int) (key : BackfillRunKey) (page : Int)
    (summary : BackfillSummary) : Nat → Job RestRequest BackfillSummary
  | 0 => .raise .interrupted
  | fuel + 1 => do
      let payload ← Job.request
        { path := s!"{settings.repositoryPath}/deployments/{deploymentId}/statuses"
          params := [("per_page", .number settings.pageSize 0), ("page", .number page 0)] }
      let nodes ← Prog.ofExcept (requiredArrayPayload payload "deployment-status response")
      let records ← Prog.ofExcept (statusRecords readers settings deploymentId nodes)
      let completed := decide ((nodes.length : Int) < settings.pageSize)
      let outcome ← persistNumberedPage key records page completed
      let summary := summary.plus outcome.summary
      if completed then return summary
      else statusesLoop deploymentId key (page + 1) summary fuel

/-- `_run_deployment_statuses` -/
def runDeploymentStatuses (deploymentId : Int) (window : Window) (fuel : Nat) :
    Job RestRequest BackfillSummary := do
  let key ← Prog.ofExcept
    (settings.runKey "deployment_statuses" (toString deploymentId) window)
  let checkpoint ← Job.loadCheckpoint key
  if isCompleted checkpoint then return .zero
  else do
    let page ← Prog.ofExcept (nextPage checkpoint)
    statusesLoop readers settings deploymentId key page .zero fuel

/-- The loop over the deployments of a response: each one in the window is traversed for its
statuses before its record is made. -/
def deploymentRecords (window : Window) (fuel : Nat) (summary : BackfillSummary) :
    List Json → Job RestRequest (List BackfillRecord × BackfillSummary)
  | [] => pure ([], summary)
  | node :: rest => do
      let createdAt ← Prog.ofExcept (restAwareDatetime readers node "created_at")
      if window.contains createdAt then do
        let deploymentId ← Prog.ofExcept (requiredPositiveInt node "id")
        let statuses ← runDeploymentStatuses readers settings deploymentId window fuel
        let record ← Prog.ofExcept (deploymentRecord settings node createdAt)
        let (records, summary) ← deploymentRecords window fuel (summary.plus statuses) rest
        return (record :: records, summary)
      else deploymentRecords window fuel summary rest

/-- The loop of `_run_deployments`; `fuel` is also that of each nested traversal. -/
def deploymentsLoop (window : Window) (nestedFuel : Nat) (key : BackfillRunKey) (page : Int)
    (summary : BackfillSummary) : Nat → Job RestRequest BackfillSummary
  | 0 => .raise .interrupted
  | fuel + 1 => do
      let payload ← Job.request
        { path := settings.repositoryPath ++ "/deployments"
          params := [("per_page", .number settings.pageSize 0), ("page", .number page 0)] }
      let nodes ← Prog.ofExcept (requiredArrayPayload payload "deployments response")
      let (records, summary) ←
        deploymentRecords readers settings window nestedFuel summary nodes
      let completed := decide ((nodes.length : Int) < settings.pageSize)
      let outcome ← persistNumberedPage key records page completed
      let summary := summary.plus outcome.summary
      if completed then return summary
      else deploymentsLoop window nestedFuel key (page + 1) summary fuel

/-- `_run_deployments` -/
def runDeployments (window : Window) (fuel : Nat) : Job RestRequest BackfillSummary := do
  let key ← Prog.ofExcept (settings.runKey "deployments" "repository" window)
  let checkpoint ← Job.loadCheckpoint key
  if isCompleted checkpoint then return .zero
  else do
    let page ← Prog.ofExcept (nextPage checkpoint)
    deploymentsLoop readers settings window fuel key page .zero fuel

/-- `GitHubRestBackfill.run` -/
def runRest (window : Window) (fuel : Nat) : Job RestRequest BackfillSummary := do
  let runs ← runWorkflowRuns readers settings window fuel
  let deployments ← runDeployments readers settings window fuel
  return runs.plus deployments

end

/-! ## A server with numbered pages -/

/-- What a path lists, and whether the response is an object with a total count or an array. -/
inductive Listing
  | counted (name : String) (items : List Json)
  | plain (items : List Json)

def Listing.items : Listing → List Json
  | .counted _ items => items
  | .plain items => items

/-- Page number `page` of `items`, counted from 1. -/
def pageOf (items : List Json) (perPage page : Int) : List Json :=
  (items.drop ((page - 1) * perPage).toNat).take perPage.toNat

/-- A server that lists the same resources in the same order whenever it is asked. -/
def serve (listing : String → Listing) (request : RestRequest) : Except BackfillError Json :=
  match getMember (.object request.params) "per_page", getMember (.object request.params) "page" with
  | .number perPage 0, .number page 0 =>
      match listing request.path with
      | .counted name items =>
          .ok (.object
            [("total_count", .number items.length 0), (name, .array (pageOf items perPage page))])
      | .plain items => .ok (.array (pageOf items perPage page))
  | _, _ => .error .external

/-- How one invocation is started. -/
structure RestStart where
  pageSize : Int
  window : Window
  fuel : Nat

/-- Any number of REST backfills of one repository against one server, each configured with one
of the page sizes; an invocation's own state is its page size. -/
def restSystem (readers : Readers) (settings : Settings) (listing : String → Listing)
    (pageSizes : Set Int) :
    System (BackfillOp RestRequest) BackfillReply BackfillError BackfillSummary BackfillTables
      Int :=
  backfillSystem (serve listing) fun start : { a : RestStart // a.pageSize ∈ pageSizes } =>
    (Prog.ofExcept (GitHubRestBackfill.init settings.repository settings.repositoryId
        settings.installationId start.1.pageSize)
      >>= fun configured => runRest readers configured start.1.window start.1.fuel,
      start.1.pageSize)

/-- No row, no checkpoint, no invocation. -/
def restPool (readers : Readers) (settings : Settings) (listing : String → Listing)
    (pageSizes : Set Int) : (restSystem readers settings listing pageSizes).Pool :=
  ⟨emptyTables, []⟩

end Backfill
