import DeliveryIntelligence.Common.RawEvents
import DeliveryIntelligence.Dbt.Server

set_option autoImplicit false

/-!
# The staging models

The views under `models/staging`: each reads the raw events of one `event_name` and gives one
row for each event, with the texts of the payload under the columns of the contract. Webhook and
backfill payloads name the same things differently, so most columns are a `coalesce` over both
spellings. A text that is not a value of its column's type is an error of the whole query.
-/

namespace Dbt

open Postgres Query
open RawEvents (RawEvent Source)

/-- The columns every staging model takes over from `raw.github_events`. -/
structure Lineage where
  eventId : Nat
  source : Source
  repositoryId : Int
  repositoryFullName : Option String
  installationId : Int
  occurredAt : Option Timestamp
  ingestedAt : Timestamp
  deriving DecidableEq

/-- A row of `stg_github__events`. -/
structure GithubEvent extends Lineage where
  eventName : String
  payload : Json

variable (server : Server)

def stgGithubEvents (events : List RawEvent) : List GithubEvent :=
  events.map fun event =>
    { eventId := event.eventId
      source := event.source
      repositoryId := event.repositoryId
      repositoryFullName := textAt server event.payload ["repository", "full_name"]
      installationId := event.installationId
      occurredAt := event.occurredAt
      ingestedAt := event.ingestedAt
      eventName := event.eventName
      payload := event.payload }

/-- `with events as (select * from stg_github__events where event_name = ..) select .. ` -/
def stage {ρ : Type} (eventName : String) (typed : GithubEvent → Except Error ρ)
    (events : List RawEvent) : Except Error (List ρ) :=
  ((stgGithubEvents server events).filter fun event => event.eventName = eventName).mapM typed

/-! ## Pull requests -/

/-- A row of `stg_github__pull_requests`. -/
structure PullRequestSnapshot extends Lineage where
  pullRequestKey : Option String
  pullRequestId : Option Int
  pullRequestNodeId : Option String
  pullRequestNumber : Option Int
  pullRequestState : Option String
  title : Option String
  isDraft : Bool
  authorId : Option Int
  authorNodeId : Option String
  authorLogin : Option String
  createdAt : Option Timestamp
  updatedAt : Option Timestamp
  closedAt : Option Timestamp
  mergedAt : Option Timestamp
  baseRefName : Option String
  headRefName : Option String
  mergeCommitSha : Option String
  additions : Option Int
  deletions : Option Int
  changedFiles : Option Int
  deriving DecidableEq

def pullRequestKey (event : GithubEvent) : Option String :=
  repositoryKey event.repositoryId (textAt server event.payload ["pull_request", "number"])

def pullRequestSnapshot (event : GithubEvent) : Except Error PullRequestSnapshot := do
  let field (path : List String) := textAt server event.payload ("pull_request" :: path)
  let integer (path : List String) := cast "integer" server.integer (field path)
  let boolean (path : List String) := cast "boolean" server.boolean (field path)
  let instant (path : List String) := cast "timestamptz" server.timestamptz (field path)
  let pullRequestId ← githubBigint server (field ["id"])
  let pullRequestNumber ← integer ["number"]
  let isDraft ← coalesceCasts [boolean ["draft"], boolean ["isDraft"]]
  let authorId ← githubBigint server (field ["user", "id"])
  let createdAt ← coalesceCasts
    [instant ["created_at"], instant ["createdAt"], .ok event.occurredAt]
  let updatedAt ← coalesceCasts [instant ["updated_at"], instant ["updatedAt"]]
  let closedAt ← coalesceCasts [instant ["closed_at"], instant ["closedAt"]]
  let mergedAt ← coalesceCasts [instant ["merged_at"], instant ["mergedAt"]]
  let additions ← integer ["additions"]
  let deletions ← integer ["deletions"]
  let changedFiles ← coalesceCasts [integer ["changed_files"], integer ["changedFiles"]]
  return { toLineage := event.toLineage
           pullRequestKey := pullRequestKey server event
           pullRequestId := pullRequestId
           -- REST gives the node id a name of its own; in GraphQL it is the `id`.
           pullRequestNodeId := coalesce [field ["node_id"], nodeId (field ["id"])]
           pullRequestNumber := pullRequestNumber
           pullRequestState := (field ["state"]).map server.lower
           title := field ["title"]
           isDraft := isDraft.getD false
           authorId := authorId
           authorNodeId := coalesce [field ["user", "node_id"], nodeId (field ["author", "id"])]
           authorLogin := coalesce [field ["user", "login"], field ["author", "login"]]
           createdAt := createdAt
           updatedAt := updatedAt
           closedAt := closedAt
           mergedAt := mergedAt
           baseRefName := coalesce [field ["base", "ref"], field ["baseRefName"]]
           headRefName := coalesce [field ["head", "ref"], field ["headRefName"]]
           mergeCommitSha := coalesce [field ["merge_commit_sha"], field ["mergeCommit", "oid"]]
           additions := additions
           deletions := deletions
           changedFiles := changedFiles }

def stgGithubPullRequests (events : List RawEvent) : Except Error (List PullRequestSnapshot) :=
  stage server "pull_request" (pullRequestSnapshot server) events

/-! ## Reviews -/

/-- A row of `stg_github__reviews`. -/
structure ReviewSnapshot extends Lineage where
  reviewKey : Option String
  reviewId : Option Int
  reviewNodeId : Option String
  pullRequestNodeId : Option String
  pullRequestNumber : Option Int
  reviewState : Option String
  reviewerId : Option Int
  reviewerNodeId : Option String
  reviewerLogin : Option String
  commitSha : Option String
  submittedAt : Option Timestamp
  updatedAt : Option Timestamp
  deriving DecidableEq

def reviewSnapshot (event : GithubEvent) : Except Error ReviewSnapshot := do
  let field (path : List String) := textAt server event.payload path
  let review (path : List String) := field ("review" :: path)
  let pullRequestReview (path : List String) := field ("pull_request_review" :: path)
  let instant (value : Option String) := cast "timestamptz" server.timestamptz value
  let reviewId ← githubBigint server
    (coalesce [review ["id"], pullRequestReview ["fullDatabaseId"]])
  let pullRequestNumber ← cast "integer" server.integer (field ["pull_request", "number"])
  let reviewerId ← coalesceCasts
    [githubBigint server (review ["user", "id"]),
      githubBigint server (pullRequestReview ["author", "id"])]
  let submittedAt ← coalesceCasts
    [instant (review ["submitted_at"]), instant (pullRequestReview ["submittedAt"]),
      .ok event.occurredAt]
  let updatedAt ← coalesceCasts
    [instant (review ["updated_at"]), instant (pullRequestReview ["updatedAt"])]
  return { toLineage := event.toLineage
           reviewKey := repositoryKey event.repositoryId (coalesce
             -- Without a database id the node id is the key.
             [review ["id"], pullRequestReview ["fullDatabaseId"], pullRequestReview ["id"]])
           reviewId := reviewId
           reviewNodeId := coalesce [review ["node_id"], nodeId (pullRequestReview ["id"])]
           pullRequestNodeId := coalesce [field ["pull_request", "node_id"], field ["pull_request_id"]]
           pullRequestNumber := pullRequestNumber
           reviewState := (coalesce [review ["state"], pullRequestReview ["state"]]).map server.lower
           reviewerId := reviewerId
           reviewerNodeId := coalesce
             [review ["user", "node_id"], nodeId (pullRequestReview ["author", "id"])]
           reviewerLogin := coalesce [review ["user", "login"], pullRequestReview ["author", "login"]]
           commitSha := coalesce [review ["commit_id"], pullRequestReview ["commit", "oid"]]
           submittedAt := submittedAt
           updatedAt := updatedAt }

def stgGithubReviews (events : List RawEvent) : Except Error (List ReviewSnapshot) :=
  stage server "pull_request_review" (reviewSnapshot server) events

/-! ## Commits of pull requests -/

/-- A row of `stg_github__pull_request_commits`. -/
structure PullRequestCommit extends Lineage where
  pullRequestNodeId : Option String
  commitSha : Option String
  committedAt : Option Timestamp
  deriving DecidableEq

def pullRequestCommit (event : GithubEvent) : Except Error PullRequestCommit := do
  let field (path : List String) := textAt server event.payload path
  let commit (path : List String) := field ("pull_request_commit" :: "commit" :: path)
  let committedAt ← coalesceCasts
    [cast "timestamptz" server.timestamptz (commit ["committedDate"]), .ok event.occurredAt]
  return { toLineage := event.toLineage
           pullRequestNodeId := field ["pull_request_id"]
           commitSha := commit ["oid"]
           committedAt := committedAt }

def stgGithubPullRequestCommits (events : List RawEvent) :
    Except Error (List PullRequestCommit) :=
  stage server "pull_request_commit" (pullRequestCommit server) events

/-! ## Deployments and their statuses -/

/-- A row of `stg_github__deployments`. -/
structure DeploymentSnapshot extends Lineage where
  deploymentKey : Option String
  deploymentId : Option Int
  environment : Option String
  deploymentSha : Option String
  gitRef : Option String
  deploymentTask : Option String
  isTransientEnvironment : Bool
  isProductionEnvironment : Bool
  createdAt : Option Timestamp
  updatedAt : Option Timestamp
  deriving DecidableEq

def deploymentKey (event : GithubEvent) : Option String :=
  repositoryKey event.repositoryId (textAt server event.payload ["deployment", "id"])

def deploymentSnapshot (event : GithubEvent) : Except Error DeploymentSnapshot := do
  let field (path : List String) := textAt server event.payload ("deployment" :: path)
  let boolean (path : List String) := cast "boolean" server.boolean (field path)
  let instant (path : List String) := cast "timestamptz" server.timestamptz (field path)
  let deploymentId ← cast "bigint" server.bigint (field ["id"])
  let isTransientEnvironment ← boolean ["transient_environment"]
  let isProductionEnvironment ← boolean ["production_environment"]
  let createdAt ← coalesceCasts [instant ["created_at"], .ok event.occurredAt]
  let updatedAt ← instant ["updated_at"]
  return { toLineage := event.toLineage
           deploymentKey := deploymentKey server event
           deploymentId := deploymentId
           environment := field ["environment"]
           deploymentSha := field ["sha"]
           gitRef := field ["ref"]
           deploymentTask := field ["task"]
           isTransientEnvironment := isTransientEnvironment.getD false
           isProductionEnvironment := isProductionEnvironment.getD false
           createdAt := createdAt
           updatedAt := updatedAt }

def stgGithubDeployments (events : List RawEvent) : Except Error (List DeploymentSnapshot) :=
  stage server "deployment" (deploymentSnapshot server) events

/-- A row of `stg_github__deployment_statuses`. -/
structure DeploymentStatusSnapshot extends Lineage where
  deploymentStatusKey : Option String
  deploymentStatusId : Option Int
  deploymentId : Option Int
  deploymentState : Option String
  createdAt : Option Timestamp
  updatedAt : Option Timestamp
  deriving DecidableEq

def deploymentStatusSnapshot (event : GithubEvent) : Except Error DeploymentStatusSnapshot := do
  let field (path : List String) := textAt server event.payload path
  let status (path : List String) := field ("deployment_status" :: path)
  let bigint (value : Option String) := cast "bigint" server.bigint value
  let instant (value : Option String) := cast "timestamptz" server.timestamptz value
  let deploymentStatusId ← bigint (status ["id"])
  -- A webhook nests the deployment, the backfill adds its id.
  let deploymentId ← coalesceCasts
    [bigint (field ["deployment", "id"]), bigint (field ["deployment_id"])]
  let createdAt ← coalesceCasts [instant (status ["created_at"]), .ok event.occurredAt]
  let updatedAt ← instant (status ["updated_at"])
  return { toLineage := event.toLineage
           deploymentStatusKey := repositoryKey event.repositoryId (status ["id"])
           deploymentStatusId := deploymentStatusId
           deploymentId := deploymentId
           deploymentState := (status ["state"]).map server.lower
           createdAt := createdAt
           updatedAt := updatedAt }

def stgGithubDeploymentStatuses (events : List RawEvent) :
    Except Error (List DeploymentStatusSnapshot) :=
  stage server "deployment_status" (deploymentStatusSnapshot server) events

/-! ## Workflow runs -/

/-- A row of `stg_github__workflow_runs`. -/
structure WorkflowRunSnapshot extends Lineage where
  workflowRunKey : Option String
  workflowRunId : Option Int
  workflowName : Option String
  workflowStatus : Option String
  conclusion : Option String
  headSha : Option String
  createdAt : Option Timestamp
  updatedAt : Option Timestamp
  deriving DecidableEq

/-- `repository_id::text || ':' || id || ':' || coalesce(run_attempt, '1')` -/
def workflowRunKey (event : GithubEvent) : Option String :=
  let field (path : List String) := textAt server event.payload ("workflow_run" :: path)
  (repositoryKey event.repositoryId (field ["id"])).map fun text =>
    text ++ ":" ++ (field ["run_attempt"]).getD "1"

def workflowRunSnapshot (event : GithubEvent) : Except Error WorkflowRunSnapshot := do
  let field (path : List String) := textAt server event.payload ("workflow_run" :: path)
  let instant (path : List String) := cast "timestamptz" server.timestamptz (field path)
  let workflowRunId ← cast "bigint" server.bigint (field ["id"])
  let createdAt ← coalesceCasts [instant ["created_at"], .ok event.occurredAt]
  let updatedAt ← instant ["updated_at"]
  return { toLineage := event.toLineage
           workflowRunKey := workflowRunKey server event
           workflowRunId := workflowRunId
           workflowName := field ["name"]
           workflowStatus := (field ["status"]).map server.lower
           conclusion := (field ["conclusion"]).map server.lower
           headSha := field ["head_sha"]
           createdAt := createdAt
           updatedAt := updatedAt }

def stgGithubWorkflowRuns (events : List RawEvent) : Except Error (List WorkflowRunSnapshot) :=
  stage server "workflow_run" (workflowRunSnapshot server) events

/-! ## All staging models -/

/-- The rows of the staging models over one set of raw events. -/
structure Staged where
  pullRequests : List PullRequestSnapshot
  reviews : List ReviewSnapshot
  pullRequestCommits : List PullRequestCommit
  deployments : List DeploymentSnapshot
  deploymentStatuses : List DeploymentStatusSnapshot
  workflowRuns : List WorkflowRunSnapshot

def staging (events : List RawEvent) : Except Error Staged := do
  let pullRequests ← stgGithubPullRequests server events
  let reviews ← stgGithubReviews server events
  let pullRequestCommits ← stgGithubPullRequestCommits server events
  let deployments ← stgGithubDeployments server events
  let deploymentStatuses ← stgGithubDeploymentStatuses server events
  let workflowRuns ← stgGithubWorkflowRuns server events
  return { pullRequests := pullRequests
           reviews := reviews
           pullRequestCommits := pullRequestCommits
           deployments := deployments
           deploymentStatuses := deploymentStatuses
           workflowRuns := workflowRuns }

end Dbt
