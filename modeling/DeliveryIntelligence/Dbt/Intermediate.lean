import DeliveryIntelligence.Dbt.Staging

set_option autoImplicit false

/-!
# The intermediate models

The views under `models/intermediate`, over the rows of the staging models. Each collapses the
snapshots of one thing (`snapshotOrder` decides which is the latest), and the last one links
changes to the production deployments that ran their commit.
-/

namespace Dbt

open Postgres Query
open RawEvents (Source)

variable (server : Server)

/-- `order by changed_at desc, (source = 'backfill') desc, ingested_at desc, event_id desc` -/
def snapshotOrder {ρ : Type} (lineage : ρ → Lineage) (changedAt : ρ → Option Timestamp) :
    ρ → ρ → Ordering :=
  compareLex (descending compare changedAt)
    (compareLex
      (descending compare fun row => some (if (lineage row).source = .backfill then 1 else 0))
      (compareLex (descending compare fun row => some (lineage row).ingestedAt)
        (descending compare fun row => some (lineage row).eventId)))

/-- `count(distinct source)` -/
def sourceCount {ρ : Type} (lineage : ρ → Lineage) (rows : List ρ) : Nat :=
  countDistinct (rows.map fun row => (lineage row).source)

/-! ## `int_pr_lifecycle` -/

/-- A group of `snapshot_rollup`. -/
structure PullRequestRollup where
  pullRequestId : Option Int
  pullRequestNodeId : Option String
  createdAt : Option Timestamp
  updatedAt : Option Timestamp
  observedClosedAt : Option Timestamp
  observedMergedAt : Option Timestamp
  snapshotCount : Nat
  sourceCount : Nat
  firstIngestedAt : Option Timestamp
  lastIngestedAt : Option Timestamp

def pullRequestRollup (rows : List PullRequestSnapshot) : PullRequestRollup where
  pullRequestId := maximum compare (rows.map (·.pullRequestId))
  pullRequestNodeId := maximum server.compareText (rows.map (·.pullRequestNodeId))
  createdAt := minimum compare (rows.map (·.createdAt))
  updatedAt := maximum compare (rows.map (·.updatedAt))
  observedClosedAt := maximum compare (rows.map (·.closedAt))
  observedMergedAt := maximum compare (rows.map (·.mergedAt))
  snapshotCount := rows.length
  sourceCount := sourceCount PullRequestSnapshot.toLineage rows
  firstIngestedAt := minimum compare (rows.map fun row => some row.ingestedAt)
  lastIngestedAt := maximum compare (rows.map fun row => some row.ingestedAt)

/-- A row of `int_pr_lifecycle`. -/
structure PullRequest where
  repositoryId : Int
  repositoryFullName : Option String
  installationId : Int
  pullRequestKey : String
  pullRequestId : Option Int
  pullRequestNodeId : Option String
  pullRequestNumber : Option Int
  pullRequestState : Option String
  title : Option String
  isDraft : Bool
  authorId : Option Int
  authorNodeId : Option String
  authorLogin : Option String
  createdAt : Option Timestamp
  updatedAt : Option Timestamp
  closedAt : Option Timestamp
  mergedAt : Option Timestamp
  resolvedAt : Option Timestamp
  isMerged : Truth
  isClosed : Truth
  lifecycleSeconds : Option Int
  baseRefName : Option String
  headRefName : Option String
  mergeCommitSha : Option String
  additions : Option Int
  deletions : Option Int
  changedFiles : Option Int
  snapshotCount : Nat
  sourceCount : Nat
  firstIngestedAt : Option Timestamp
  lastIngestedAt : Option Timestamp
  deriving DecidableEq

def pullRequestOrder : PullRequestSnapshot → PullRequestSnapshot → Ordering :=
  snapshotOrder PullRequestSnapshot.toLineage fun row =>
    coalesce [row.updatedAt, row.mergedAt, row.closedAt, row.occurredAt, some row.ingestedAt]

/-- The CTE `resolved` and the final `select`, for one key. -/
def resolvedPullRequest (key : String) (latest : PullRequestSnapshot)
    (rollup : PullRequestRollup) : PullRequest :=
  let mergedAt := coalesce [latest.mergedAt, rollup.observedMergedAt]
  let state := if mergedAt.isSome then some "merged" else latest.pullRequestState
  -- `case when pull_request_state in ('closed', 'merged')`: of the snapshot, not of the result.
  let closedAt :=
    if latest.pullRequestState = some "closed" ∨ latest.pullRequestState = some "merged" then
      coalesce [latest.closedAt, rollup.observedClosedAt]
    else none
  { repositoryId := latest.repositoryId
    repositoryFullName := latest.repositoryFullName
    installationId := latest.installationId
    pullRequestKey := key
    pullRequestId := rollup.pullRequestId
    pullRequestNodeId := rollup.pullRequestNodeId
    pullRequestNumber := latest.pullRequestNumber
    pullRequestState := state
    title := latest.title
    isDraft := latest.isDraft
    authorId := latest.authorId
    authorNodeId := latest.authorNodeId
    authorLogin := latest.authorLogin
    createdAt := rollup.createdAt
    updatedAt := rollup.updatedAt
    closedAt := closedAt
    mergedAt := mergedAt
    resolvedAt :=
      if state = some "merged" then mergedAt
      else if state = some "closed" then closedAt
      else none
    isMerged := equal state (some "merged")
    isClosed := either (equal state (some "closed")) (equal state (some "merged"))
    lifecycleSeconds :=
      if state = some "merged" ∧ mergedAt.isSome then secondsBetween mergedAt rollup.createdAt
      else if state = some "closed" ∧ closedAt.isSome then
        secondsBetween closedAt rollup.createdAt
      else none
    baseRefName := latest.baseRefName
    headRefName := latest.headRefName
    mergeCommitSha := latest.mergeCommitSha
    additions := latest.additions
    deletions := latest.deletions
    changedFiles := latest.changedFiles
    snapshotCount := rollup.snapshotCount
    sourceCount := rollup.sourceCount
    firstIngestedAt := rollup.firstIngestedAt
    lastIngestedAt := rollup.lastIngestedAt }

def intPrLifecycle (snapshots : List PullRequestSnapshot) : List PullRequest :=
  (resolve PullRequestSnapshot.pullRequestKey pullRequestOrder (pullRequestRollup server)
    snapshots).map fun (key, latest, rollup) => resolvedPullRequest key latest rollup

/-! ## `int_first_eligible_review` -/

def reviewOrder : ReviewSnapshot → ReviewSnapshot → Ordering :=
  snapshotOrder ReviewSnapshot.toLineage fun row =>
    coalesce [row.updatedAt, row.submittedAt, row.occurredAt, some row.ingestedAt]

/-- The window count of `review_snapshots` and the group of `review_source_rollup`. -/
structure ReviewRollup where
  snapshotCount : Nat
  sourceCount : Nat

/-- The CTE `resolved_reviews`. -/
def resolvedReviews (snapshots : List ReviewSnapshot) :
    List (String × ReviewSnapshot × ReviewRollup) :=
  resolve ReviewSnapshot.reviewKey reviewOrder
    (fun rows => ⟨rows.length, sourceCount ReviewSnapshot.toLineage rows⟩) snapshots

/-- A row of the CTE `eligible_reviews`. -/
structure EligibleReview where
  repositoryId : Int
  repositoryFullName : Option String
  pullRequestKey : String
  pullRequestNumber : Option Int
  reviewKey : String
  reviewId : Option Int
  reviewNodeId : Option String
  reviewState : Option String
  reviewerId : Option Int
  reviewerNodeId : Option String
  reviewerLogin : Option String
  commitSha : Option String
  submittedAt : Option Timestamp
  snapshotCount : Nat
  sourceCount : Nat
  secondsToFirstReview : Option Int
  isPreMergeReview : Truth
  deriving DecidableEq

/-- A review belongs to a pull request by node id or by number. -/
def reviewOfPullRequest (review : ReviewSnapshot) (pullRequest : PullRequest) : Bool :=
  review.repositoryId = pullRequest.repositoryId
    && (holds (equal review.pullRequestNodeId pullRequest.pullRequestNodeId)
      || holds (equal review.pullRequestNumber pullRequest.pullRequestNumber))

/-- The `where` of `eligible_reviews`. -/
def isEligibleReview (review : ReviewSnapshot) (pullRequest : PullRequest) : Bool :=
  holds (negate (equal review.reviewState (some "pending")))
    && holds (negate (equal (review.reviewerLogin.map server.lower)
      (pullRequest.authorLogin.map server.lower)))
    && holds (atMost pullRequest.createdAt review.submittedAt)

def eligibleReview (key : String) (review : ReviewSnapshot) (rollup : ReviewRollup)
    (pullRequest : PullRequest) : EligibleReview where
  repositoryId := pullRequest.repositoryId
  repositoryFullName := pullRequest.repositoryFullName
  pullRequestKey := pullRequest.pullRequestKey
  pullRequestNumber := pullRequest.pullRequestNumber
  reviewKey := key
  reviewId := review.reviewId
  reviewNodeId := review.reviewNodeId
  reviewState := review.reviewState
  reviewerId := review.reviewerId
  reviewerNodeId := review.reviewerNodeId
  reviewerLogin := review.reviewerLogin
  commitSha := review.commitSha
  submittedAt := review.submittedAt
  snapshotCount := rollup.snapshotCount
  sourceCount := rollup.sourceCount
  secondsToFirstReview := secondsBetween review.submittedAt pullRequest.createdAt
  isPreMergeReview :=
    either (some pullRequest.mergedAt.isNone) (atMost review.submittedAt pullRequest.mergedAt)

def eligibleReviews (snapshots : List ReviewSnapshot) (pullRequests : List PullRequest) :
    List EligibleReview :=
  ((innerJoin (fun (_, review, _) => reviewOfPullRequest review) (resolvedReviews snapshots)
    pullRequests).filter fun ((_, review, _), pullRequest) =>
      isEligibleReview server review pullRequest).map
    fun ((key, review, rollup), pullRequest) => eligibleReview key review rollup pullRequest

/-- A group of `review_rollup`. -/
structure EligibleReviewRollup where
  eligibleReviewCount : Nat
  reviewReworkCycleCount : Nat
  deriving DecidableEq

def eligibleReviewRollup (rows : List EligibleReview) : EligibleReviewRollup where
  eligibleReviewCount := rows.length
  reviewReworkCycleCount := countDistinct
    ((rows.filter fun row => row.reviewState = some "changes_requested").map fun row =>
      -- A review without a commit is a cycle of its own.
      row.commitSha.getD row.reviewKey)

/-- A row of `int_first_eligible_review`: the review of rank 1 and the counts of its group. -/
structure FirstEligibleReview where
  review : EligibleReview
  rollup : EligibleReviewRollup
  deriving DecidableEq

def FirstEligibleReview.pullRequestKey (row : FirstEligibleReview) : String :=
  row.review.pullRequestKey

def FirstEligibleReview.firstReviewAt (row : FirstEligibleReview) : Option Timestamp :=
  row.review.submittedAt

def intFirstEligibleReview (snapshots : List ReviewSnapshot) (pullRequests : List PullRequest) :
    List FirstEligibleReview :=
  (resolve (fun row => some row.pullRequestKey)
    (compareLex (ascending compare EligibleReview.submittedAt)
      (ascending server.compareText fun row => some row.reviewKey))
    eligibleReviewRollup (eligibleReviews server snapshots pullRequests)).map
    fun (_, review, rollup) => ⟨review, rollup⟩

/-! ## `int_production_deployments` -/

/-- A group of `deployment_rollup`. -/
structure DeploymentRollup where
  createdAt : Option Timestamp
  updatedAt : Option Timestamp
  snapshotCount : Nat
  sourceCount : Nat
  firstIngestedAt : Option Timestamp
  lastIngestedAt : Option Timestamp

def deploymentRollup (rows : List DeploymentSnapshot) : DeploymentRollup where
  createdAt := minimum compare (rows.map (·.createdAt))
  updatedAt := maximum compare (rows.map (·.updatedAt))
  snapshotCount := rows.length
  sourceCount := sourceCount DeploymentSnapshot.toLineage rows
  firstIngestedAt := minimum compare (rows.map fun row => some row.ingestedAt)
  lastIngestedAt := maximum compare (rows.map fun row => some row.ingestedAt)

def deploymentOrder : DeploymentSnapshot → DeploymentSnapshot → Ordering :=
  snapshotOrder DeploymentSnapshot.toLineage fun row =>
    coalesce [row.updatedAt, row.createdAt, row.occurredAt, some row.ingestedAt]

/-- The CTE `resolved_deployments`. -/
def resolvedDeployments (snapshots : List DeploymentSnapshot) :
    List (String × DeploymentSnapshot × DeploymentRollup) :=
  resolve DeploymentSnapshot.deploymentKey deploymentOrder deploymentRollup snapshots

def deploymentStatusOrder : DeploymentStatusSnapshot → DeploymentStatusSnapshot → Ordering :=
  snapshotOrder DeploymentStatusSnapshot.toLineage fun row =>
    coalesce [row.updatedAt, row.createdAt, row.occurredAt, some row.ingestedAt]

/-- The CTE `resolved_statuses`, each with its `snapshot_count`. -/
def resolvedStatuses (snapshots : List DeploymentStatusSnapshot) :
    List (DeploymentStatusSnapshot × Nat) :=
  (partitionFirst DeploymentStatusSnapshot.deploymentStatusKey deploymentStatusOrder
    snapshots).map fun row =>
      (row, snapshots.countP fun other => other.deploymentStatusKey = row.deploymentStatusKey)

/-- The deployment a status belongs to. -/
def DeploymentStatusSnapshot.parent (row : DeploymentStatusSnapshot) : Int × Option Int :=
  (row.repositoryId, row.deploymentId)

/-- A group of `status_rollup`. -/
structure StatusRollup where
  successfulAt : Option Timestamp
  statusRecordCount : Nat
  statusSnapshotCount : Nat
  deriving DecidableEq

def statusRollup (statuses : List (DeploymentStatusSnapshot × Nat)) :
    List ((Int × Option Int) × StatusRollup) :=
  groupBy (fun (row, _) => row.parent)
    (fun rows =>
      { successfulAt := minimum compare
          ((rows.filter fun (row, _) => row.deploymentState = some "success").map
            fun (row, _) => row.createdAt)
        statusRecordCount := rows.length
        statusSnapshotCount := (rows.map fun (_, snapshotCount) => snapshotCount).sum })
    statuses

/-- The CTE `latest_status`. -/
def latestStatus (statuses : List (DeploymentStatusSnapshot × Nat)) :
    List DeploymentStatusSnapshot :=
  partitionFirst DeploymentStatusSnapshot.parent
    (compareLex (descending compare DeploymentStatusSnapshot.createdAt)
      (descending compare DeploymentStatusSnapshot.deploymentStatusId))
    (statuses.map fun (row, _) => row)

/-- A row of `int_production_deployments`. -/
structure ProductionDeployment where
  repositoryId : Int
  repositoryFullName : Option String
  installationId : Int
  deploymentKey : String
  deploymentId : Option Int
  environment : Option String
  deploymentSha : Option String
  gitRef : Option String
  deploymentTask : Option String
  isTransientEnvironment : Bool
  createdAt : Option Timestamp
  updatedAt : Option Timestamp
  latestDeploymentStatusKey : Option String
  latestDeploymentStatusId : Option Int
  latestDeploymentState : Option String
  latestStatusAt : Option Timestamp
  successfulAt : Option Timestamp
  isSuccessful : Bool
  secondsToSuccess : Option Int
  deploymentSnapshotCount : Nat
  deploymentSourceCount : Nat
  statusRecordCount : Nat
  statusSnapshotCount : Nat
  firstIngestedAt : Option Timestamp
  lastIngestedAt : Option Timestamp
  deriving DecidableEq

/-- The final `select`, for one deployment and the rows joined to it. -/
def productionDeployment (key : String) (deployment : DeploymentSnapshot)
    (rollup : DeploymentRollup) (status : Option StatusRollup)
    (latest : Option DeploymentStatusSnapshot) : ProductionDeployment :=
  let successfulAt := status.bind (·.successfulAt)
  { repositoryId := deployment.repositoryId
    repositoryFullName := deployment.repositoryFullName
    installationId := deployment.installationId
    deploymentKey := key
    deploymentId := deployment.deploymentId
    environment := deployment.environment
    deploymentSha := deployment.deploymentSha
    gitRef := deployment.gitRef
    deploymentTask := deployment.deploymentTask
    isTransientEnvironment := deployment.isTransientEnvironment
    createdAt := rollup.createdAt
    updatedAt := rollup.updatedAt
    latestDeploymentStatusKey := latest.bind (·.deploymentStatusKey)
    latestDeploymentStatusId := latest.bind (·.deploymentStatusId)
    latestDeploymentState := latest.bind (·.deploymentState)
    latestStatusAt := latest.bind (·.createdAt)
    -- The first success, even if the latest status is something else.
    successfulAt := successfulAt
    isSuccessful := successfulAt.isSome
    secondsToSuccess :=
      if successfulAt.isSome then secondsBetween successfulAt rollup.createdAt else none
    deploymentSnapshotCount := rollup.snapshotCount
    deploymentSourceCount := rollup.sourceCount
    statusRecordCount := (status.map (·.statusRecordCount)).getD 0
    statusSnapshotCount := (status.map (·.statusSnapshotCount)).getD 0
    firstIngestedAt := rollup.firstIngestedAt
    lastIngestedAt := rollup.lastIngestedAt }

/-- `deployments.repository_id = .. and deployments.deployment_id = ..` -/
def isParent (deployment : DeploymentSnapshot) (parent : Int × Option Int) : Bool :=
  deployment.repositoryId = parent.1 && holds (equal deployment.deploymentId parent.2)

def intProductionDeployments (deployments : List DeploymentSnapshot)
    (deploymentStatuses : List DeploymentStatusSnapshot) : List ProductionDeployment :=
  let statuses := resolvedStatuses deploymentStatuses
  let withRollup := leftJoin (fun (_, deployment, _) (parent, _) => isParent deployment parent)
    (resolvedDeployments deployments) (statusRollup statuses)
  let withLatest := leftJoin (fun ((_, deployment, _), _) latest =>
    isParent deployment latest.parent) withRollup (latestStatus statuses)
  (withLatest.filter fun (((_, deployment, _), _), _) => deployment.isProductionEnvironment).map
    fun (((key, deployment, rollup), status), latest) =>
      productionDeployment key deployment rollup (status.map Prod.snd) latest

/-! ## `int_change_to_deployment` -/

/-- The evidence that links a pull request and a deployment. -/
inductive LinkageType
  | mergeCommit
  | pullRequestCommit
  deriving DecidableEq, Repr

def LinkageType.name : LinkageType → String
  | .mergeCommit => "merge_commit"
  | .pullRequestCommit => "pull_request_commit"

def LinkageType.priority : LinkageType → Int
  | .mergeCommit => 1
  | .pullRequestCommit => 2

/-- A row of the CTE `changes`. -/
structure Change where
  repositoryId : Int
  repositoryFullName : Option String
  pullRequestKey : String
  pullRequestNumber : Option Int
  pullRequestNodeId : Option String
  changeSha : Option String
  linkageType : LinkageType
  changeCompletedAt : Option Timestamp
  deriving DecidableEq

def change (pullRequest : PullRequest) (sha : Option String) (linkageType : LinkageType)
    (completedAt : Option Timestamp) : Change where
  repositoryId := pullRequest.repositoryId
  repositoryFullName := pullRequest.repositoryFullName
  pullRequestKey := pullRequest.pullRequestKey
  pullRequestNumber := pullRequest.pullRequestNumber
  pullRequestNodeId := pullRequest.pullRequestNodeId
  changeSha := sha
  linkageType := linkageType
  changeCompletedAt := completedAt

def mergeChanges (pullRequests : List PullRequest) : List Change :=
  (pullRequests.filter fun row =>
    holds row.isMerged && row.mergeCommitSha.isSome && row.mergedAt.isSome).map fun row =>
      change row row.mergeCommitSha .mergeCommit row.mergedAt

/-- `commits.repository_id = .. and commits.pull_request_node_id = ..` -/
def commitOfPullRequest (commit : PullRequestCommit) (pullRequest : PullRequest) : Bool :=
  commit.repositoryId = pullRequest.repositoryId
    && holds (equal commit.pullRequestNodeId pullRequest.pullRequestNodeId)

def pullRequestCommitChanges (commits : List PullRequestCommit)
    (pullRequests : List PullRequest) : List Change :=
  ((innerJoin commitOfPullRequest commits pullRequests).filter fun (commit, _) =>
    commit.commitSha.isSome && commit.committedAt.isSome).map fun (commit, pullRequest) =>
      change pullRequest commit.commitSha .pullRequestCommit commit.committedAt

def changes (commits : List PullRequestCommit) (pullRequests : List PullRequest) : List Change :=
  mergeChanges pullRequests ++ pullRequestCommitChanges commits pullRequests

/-- A row of `int_change_to_deployment`: a change and a deployment that ran its commit. -/
structure ChangeToDeployment where
  change : Change
  deploymentKey : String
  deploymentId : Option Int
  environment : Option String
  deployedAt : Option Timestamp
  leadTimeSeconds : Option Int
  deriving DecidableEq

/-- The join and the `where` of `candidate_links`. -/
def runsChange (change : Change) (deployment : ProductionDeployment) : Bool :=
  change.repositoryId = deployment.repositoryId
    && holds (equal change.changeSha deployment.deploymentSha)
    && deployment.isSuccessful
    && holds (atMost change.changeCompletedAt deployment.successfulAt)

def candidateLink (change : Change) (deployment : ProductionDeployment) :
    ChangeToDeployment where
  change := change
  deploymentKey := deployment.deploymentKey
  deploymentId := deployment.deploymentId
  environment := deployment.environment
  deployedAt := deployment.successfulAt
  leadTimeSeconds := secondsBetween deployment.successfulAt change.changeCompletedAt

def candidateLinks (changes : List Change) (deployments : List ProductionDeployment) :
    List ChangeToDeployment :=
  (innerJoin runsChange changes deployments).map fun (change, deployment) =>
    candidateLink change deployment

/-- `order by linkage_priority, change_completed_at desc` -/
def linkageOrder : ChangeToDeployment → ChangeToDeployment → Ordering :=
  compareLex (ascending compare fun row => some row.change.linkageType.priority)
    (descending compare fun row => row.change.changeCompletedAt)

def intChangeToDeployment (commits : List PullRequestCommit) (pullRequests : List PullRequest)
    (deployments : List ProductionDeployment) : List ChangeToDeployment :=
  partitionFirst (fun row => (row.change.pullRequestKey, row.deploymentKey)) linkageOrder
    (candidateLinks (changes commits pullRequests) deployments)

end Dbt
