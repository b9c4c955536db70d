import DeliveryIntelligence.Dbt.Intermediate

set_option autoImplicit false

/-!
# The marts

The dimensions and facts under `models/marts`, over the intermediate models and the seed
`repository_metric_config`. `build` is the whole build over the staged rows.
-/

namespace Dbt

open Postgres Query
open RawEvents (RawEvent Source)

variable (server : Server)

/-! ## The seed -/

/-- A row of `repository_metric_config`. -/
structure MetricConfig where
  repositoryId : Int
  repositoryFullName : Option String
  repositoryTimezone : Option String
  productionSignal : Option String
  productionEnvironmentNames : Option String
  productionWorkflowName : Option String
  definitionVersion : Option String

/-- The seed, with its `unique` test on `repository_id`. -/
structure Seed where
  rows : List MetricConfig
  repositoryId_unique : (rows.map (·.repositoryId)).Nodup

/-- The other tests of `_github__seeds.yml` on the columns above. -/
structure Seed.Tests (seed : Seed) : Prop where
  repositoryFullName_unique : (seed.rows.map (·.repositoryFullName)).Nodup
  repositoryFullName_not_null : ∀ row ∈ seed.rows, row.repositoryFullName.isSome
  repositoryTimezone_not_null : ∀ row ∈ seed.rows, row.repositoryTimezone.isSome
  definitionVersion_not_null : ∀ row ∈ seed.rows, row.definitionVersion.isSome
  one_signal : ∀ row ∈ seed.rows,
    (row.productionSignal = some "deployment_status" ∧ row.productionEnvironmentNames.isSome
      ∧ row.productionWorkflowName.isNone)
    ∨ (row.productionSignal = some "workflow_run" ∧ row.productionWorkflowName.isSome
      ∧ row.productionEnvironmentNames.isNone)

/-! ## `dim_repository` -/

/-- A group of `observed_repositories` or `observed_rollup`. -/
structure ObservedRepository where
  repositoryId : Int
  repositoryFullName : Option String
  installationId : Option Int

/-- `select repository_id, max(..), max(..) group by repository_id` -/
def observedGroups (rows : List ObservedRepository) : List ObservedRepository :=
  (groupBy ObservedRepository.repositoryId (fun group =>
    (maximum server.compareText (group.map (·.repositoryFullName)),
      maximum compare (group.map (·.installationId)))) rows).map
    fun (repositoryId, repositoryFullName, installationId) =>
      ⟨repositoryId, repositoryFullName, installationId⟩

def observedRollup (pullRequests : List PullRequest) (deployments : List ProductionDeployment) :
    List ObservedRepository :=
  observedGroups server
    (observedGroups server (pullRequests.map fun row =>
        ⟨row.repositoryId, row.repositoryFullName, some row.installationId⟩)
      ++ observedGroups server (deployments.map fun row =>
        ⟨row.repositoryId, row.repositoryFullName, some row.installationId⟩))

/-- A row of `dim_repository`. -/
structure DimRepository where
  repositoryId : Int
  repositoryFullName : Option String
  installationId : Option Int
  repositoryTimezone : Option String
  productionSignal : Option String
  productionEnvironmentNames : Option String
  productionWorkflowName : Option String
  definitionVersion : Option String
  isMetricConfigured : Bool
  deriving DecidableEq

/-- The final `select`, for one repository and the rows joined to it. -/
def dimRepositoryRow (repositoryId : Int) (observed : Option ObservedRepository)
    (config : Option MetricConfig) : DimRepository where
  repositoryId := repositoryId
  repositoryFullName := coalesce
    [config.bind (·.repositoryFullName), observed.bind (·.repositoryFullName)]
  installationId := observed.bind (·.installationId)
  repositoryTimezone := config.bind (·.repositoryTimezone)
  productionSignal := config.bind (·.productionSignal)
  productionEnvironmentNames := config.bind (·.productionEnvironmentNames)
  productionWorkflowName := config.bind (·.productionWorkflowName)
  definitionVersion := config.bind (·.definitionVersion)
  isMetricConfigured := config.isSome

def repositoryIds (observed : List ObservedRepository) (seed : Seed) : List Int :=
  (observed.map (·.repositoryId) ++ seed.rows.map (·.repositoryId)).dedup

def dimRepository (pullRequests : List PullRequest) (deployments : List ProductionDeployment)
    (seed : Seed) : List DimRepository :=
  let observed := observedRollup server pullRequests deployments
  let withObserved := leftJoin (fun repositoryId row => row.repositoryId = repositoryId)
    (repositoryIds observed seed) observed
  let withConfig := leftJoin (fun (repositoryId, _) row => row.repositoryId = repositoryId)
    withObserved seed.rows
  withConfig.map fun ((repositoryId, observed), config) =>
    dimRepositoryRow repositoryId observed config

/-- `coalesce(repository_timezone, 'UTC')` -/
def DimRepository.timezone (row : DimRepository) : String := row.repositoryTimezone.getD "UTC"

/-! ## `dim_date` -/

/-- A row of `dim_date`. -/
structure DimDate where
  dateKey : Int
  dateDay : Int
  deriving DecidableEq

/-- `to_char(date_day, 'YYYYMMDD')::integer`; a year before the common era is shown without its
sign. -/
def dateKey (day : Int) : Int :=
  let date := Datetime.civilOfDays day
  (if 0 < date.year then date.year else 1 - date.year) * 10000 + date.month * 100 + date.day

def observedDates (pullRequests : List PullRequest) (deployments : List ProductionDeployment) :
    List Int :=
  (pullRequests.map (·.createdAt) ++ pullRequests.map (·.resolvedAt)
    ++ deployments.map (·.createdAt) ++ deployments.map (·.successfulAt)).reduceOption.map utcDate

/-- `generate_series(start_date, end_date, interval '1 day')` -/
def dateSeries (startDate endDate : Int) : List Int :=
  (List.range (endDate + 1 - startDate).toNat).map fun (n : Nat) => startDate + n

def dimDate (pullRequests : List PullRequest) (deployments : List ProductionDeployment) :
    List DimDate :=
  let dates := (observedDates pullRequests deployments).map some
  match minimum compare dates, maximum compare dates with
  | some startDate, some endDate =>
      (dateSeries startDate endDate).map fun day => ⟨dateKey day, day⟩
  | _, _ => []

/-! ## `fct_deployments` -/

inductive EvidenceType
  | deploymentStatus
  | workflowRun
  deriving DecidableEq, Repr

def EvidenceType.name : EvidenceType → String
  | .deploymentStatus => "deployment_status"
  | .workflowRun => "workflow_run"

inductive MeasurementStatus
  | measured
  | configuredProxy
  | unavailable
  deriving DecidableEq, Repr

def MeasurementStatus.name : MeasurementStatus → String
  | .measured => "measured"
  | .configuredProxy => "configured_proxy"
  | .unavailable => "unavailable"

/-- The values of `exclusion_reason` in the three facts. -/
inductive ExclusionReason
  | missingRepositoryConfiguration
  | nonPrimaryProductionSignal
  | productionEnvironmentNotConfigured
  | impossibleSuccessTimestamp
  | productionEvidenceNotSuccessful
  | pullRequestNotMerged
  | missingMergeTimestamp
  | impossibleMergeTimestamp
  | missingChangeSha
  | missingExactShaLinkage
  | requiredInterventionRecoveryEvidenceNotConfigured
  | requiredChangeFailureEvidenceNotConfigured
  | requiredUnplannedReworkEvidenceNotConfigured
  | noEligibleChanges
  | missingChangeDeploymentLinkage
  deriving DecidableEq, Repr

/-- A row of the CTE `all_evidence`. -/
structure Evidence where
  deploymentKey : String
  repositoryId : Int
  repositoryFullName : Option String
  evidenceType : EvidenceType
  deploymentId : Option Int
  workflowRunId : Option Int
  environment : Option String
  workflowName : Option String
  deploymentSha : Option String
  createdAt : Option Timestamp
  successfulAt : Option Timestamp
  latestState : Option String
  isSuccessful : Truth
  secondsToSuccess : Option Int
  snapshotCount : Nat
  sourceCount : Nat
  deriving DecidableEq

def deploymentEvidence (deployment : ProductionDeployment) : Evidence where
  deploymentKey := deployment.deploymentKey
  repositoryId := deployment.repositoryId
  repositoryFullName := deployment.repositoryFullName
  evidenceType := .deploymentStatus
  deploymentId := deployment.deploymentId
  workflowRunId := none
  environment := deployment.environment
  workflowName := none
  deploymentSha := deployment.deploymentSha
  createdAt := deployment.createdAt
  successfulAt := deployment.successfulAt
  latestState := deployment.latestDeploymentState
  isSuccessful := some deployment.isSuccessful
  secondsToSuccess := deployment.secondsToSuccess
  snapshotCount := deployment.deploymentSnapshotCount
  sourceCount := deployment.deploymentSourceCount

def workflowOrder : WorkflowRunSnapshot → WorkflowRunSnapshot → Ordering :=
  snapshotOrder WorkflowRunSnapshot.toLineage fun row =>
    coalesce [row.updatedAt, row.createdAt, some row.ingestedAt]

/-- The window count of `workflow_snapshots` and the group of `workflow_source_counts`. -/
structure WorkflowRollup where
  snapshotCount : Nat
  sourceCount : Nat

/-- `workflow_snapshots` of rank 1, joined with `workflow_source_counts`. -/
def resolvedWorkflowRuns (snapshots : List WorkflowRunSnapshot) :
    List (String × WorkflowRunSnapshot × WorkflowRollup) :=
  resolve WorkflowRunSnapshot.workflowRunKey workflowOrder
    (fun rows => ⟨rows.length, sourceCount WorkflowRunSnapshot.toLineage rows⟩) snapshots

def workflowEvidence (key : String) (workflow : WorkflowRunSnapshot) (rollup : WorkflowRollup) :
    Evidence :=
  let isSuccessful := both (equal workflow.workflowStatus (some "completed"))
    (equal workflow.conclusion (some "success"))
  { deploymentKey := key
    repositoryId := workflow.repositoryId
    repositoryFullName := workflow.repositoryFullName
    evidenceType := .workflowRun
    deploymentId := none
    workflowRunId := workflow.workflowRunId
    environment := none
    workflowName := workflow.workflowName
    deploymentSha := workflow.headSha
    createdAt := workflow.createdAt
    successfulAt := if holds isSuccessful then workflow.updatedAt else none
    latestState := coalesce [workflow.conclusion, workflow.workflowStatus]
    isSuccessful := isSuccessful
    secondsToSuccess :=
      if holds isSuccessful && holds (atMost workflow.createdAt workflow.updatedAt) then
        secondsBetween workflow.updatedAt workflow.createdAt
      else none
    snapshotCount := rollup.snapshotCount
    sourceCount := rollup.sourceCount }

/-- The join of `workflow_evidence` with `dim_repository`. -/
def isConfiguredWorkflow (workflow : WorkflowRunSnapshot) (repository : DimRepository) : Bool :=
  workflow.repositoryId = repository.repositoryId
    && holds (equal repository.productionSignal (some "workflow_run"))
    && holds (equal (workflow.workflowName.map server.lower)
      (repository.productionWorkflowName.map server.lower))

def workflowEvidenceRows (snapshots : List WorkflowRunSnapshot)
    (repositories : List DimRepository) : List Evidence :=
  (innerJoin (fun (_, workflow, _) repository => isConfiguredWorkflow server workflow repository)
    (resolvedWorkflowRuns snapshots) repositories).map
    fun ((key, workflow, rollup), _) => workflowEvidence key workflow rollup

/-- `string_to_array(value, '|')` -/
def stringToArray (value : String) : List String :=
  if value = "" then [] else (List.splitOn '|' value.toList).map String.ofList

/-- `value = any(array)` -/
def equalsAny (value : Option String) : Option (List String) → Truth
  | none => none
  -- Against an empty array even a null is not equal.
  | some [] => some false
  | some array => value.map fun text => decide (text ∈ array)

/-- A row of `fct_deployments`. -/
structure FctDeployment extends Evidence where
  isPrimaryEvidence : Truth
  measurementStatus : MeasurementStatus
  definitionVersion : String
  exclusionReason : Option ExclusionReason
  deriving DecidableEq

def isPrimaryEvidence (evidence : Evidence) (repository : DimRepository) : Truth :=
  if !repository.isMetricConfigured then some false
  -- `evidence_type != production_signal`, which is null for a repository without a signal.
  else if holds (negate (equal (some evidence.evidenceType.name) repository.productionSignal)) then
    some false
  else if evidence.evidenceType = .deploymentStatus then
    equalsAny (evidence.environment.map server.lower)
      (repository.productionEnvironmentNames.map fun names => stringToArray (server.lower names))
  else some true

/-- `successful_at is not null and successful_at < created_at` -/
def impossibleSuccess (evidence : Evidence) : Bool :=
  holds (below evidence.successfulAt evidence.createdAt)

/-- `not is_successful or successful_at is null` -/
def notSuccessful (evidence : Evidence) : Bool :=
  holds (either (negate evidence.isSuccessful) (some evidence.successfulAt.isNone))

/-- The CTE `classified` and the final `select`. -/
def classified (evidence : Evidence) (repository : DimRepository) : FctDeployment :=
  let isPrimary := isPrimaryEvidence server evidence repository
  { toEvidence := evidence
    isPrimaryEvidence := isPrimary
    measurementStatus :=
      if !repository.isMetricConfigured then .unavailable
      else if holds (negate isPrimary) then .unavailable
      else if impossibleSuccess evidence then .unavailable
      else if notSuccessful evidence then .unavailable
      else if evidence.evidenceType = .workflowRun then .configuredProxy
      else .measured
    definitionVersion := repository.definitionVersion.getD "v1.0.0"
    exclusionReason :=
      if !repository.isMetricConfigured then some .missingRepositoryConfiguration
      else if holds (negate (equal (some evidence.evidenceType.name)
          repository.productionSignal)) then
        some .nonPrimaryProductionSignal
      else if holds (negate isPrimary) then some .productionEnvironmentNotConfigured
      else if impossibleSuccess evidence then some .impossibleSuccessTimestamp
      else if notSuccessful evidence then some .productionEvidenceNotSuccessful
      else none }

def allEvidence (deployments : List ProductionDeployment) (workflowRuns : List WorkflowRunSnapshot)
    (repositories : List DimRepository) : List Evidence :=
  deployments.map deploymentEvidence ++ workflowEvidenceRows server workflowRuns repositories

def fctDeployments (deployments : List ProductionDeployment)
    (workflowRuns : List WorkflowRunSnapshot) (repositories : List DimRepository) :
    List FctDeployment :=
  (innerJoin (fun evidence repository => evidence.repositoryId = repository.repositoryId)
    (allEvidence server deployments workflowRuns repositories) repositories).map
    fun (evidence, repository) => classified server evidence repository

/-- `measurement_status in ('measured', 'configured_proxy')` -/
def FctDeployment.isMeasured (row : FctDeployment) : Bool :=
  row.measurementStatus = .measured || row.measurementStatus = .configuredProxy

/-! ## `fct_pull_requests` -/

/-- A row of the CTE `candidate_links`. -/
structure CandidateLink where
  pullRequestKey : String
  deploymentKey : String
  linkageType : LinkageType
  deploymentEvidenceType : EvidenceType
  changeCompletedAt : Option Timestamp
  deployedAt : Option Timestamp
  leadTimeSeconds : Option Int
  measurementStatus : MeasurementStatus
  definitionVersion : String
  deriving DecidableEq

def linkTo (pullRequestKey : String) (linkageType : LinkageType)
    (changeCompletedAt : Option Timestamp) (deployment : FctDeployment) : CandidateLink where
  pullRequestKey := pullRequestKey
  deploymentKey := deployment.deploymentKey
  linkageType := linkageType
  deploymentEvidenceType := deployment.evidenceType
  changeCompletedAt := changeCompletedAt
  deployedAt := deployment.successfulAt
  leadTimeSeconds := secondsBetween deployment.successfulAt changeCompletedAt
  measurementStatus := deployment.measurementStatus
  definitionVersion := deployment.definitionVersion

def deploymentLinks (links : List ChangeToDeployment) (deployments : List FctDeployment) :
    List CandidateLink :=
  (innerJoin (fun link deployment => link.deploymentKey = deployment.deploymentKey
      && deployment.isMeasured) links deployments).map fun (link, deployment) =>
    linkTo link.change.pullRequestKey link.change.linkageType link.change.changeCompletedAt
      deployment

/-- The join of `workflow_links`. -/
def runsMerge (pullRequest : PullRequest) (deployment : FctDeployment) : Bool :=
  pullRequest.repositoryId = deployment.repositoryId
    && holds (equal pullRequest.mergeCommitSha deployment.deploymentSha)
    && holds (atMost pullRequest.mergedAt deployment.successfulAt)
    && deployment.measurementStatus = .configuredProxy
    && deployment.evidenceType = .workflowRun

def workflowLinks (pullRequests : List PullRequest) (deployments : List FctDeployment) :
    List CandidateLink :=
  ((innerJoin runsMerge pullRequests deployments).filter fun (row, _) =>
    holds row.isMerged && row.mergedAt.isSome && row.mergeCommitSha.isSome).map
    fun (row, deployment) => linkTo row.pullRequestKey .mergeCommit row.mergedAt deployment

/-- The CTE `candidate_links`. -/
def allLinks (pullRequests : List PullRequest) (links : List ChangeToDeployment)
    (deployments : List FctDeployment) : List CandidateLink :=
  deploymentLinks links deployments ++ workflowLinks pullRequests deployments

/-- `order by deployed_at, deployment_key` -/
def linkOrder : CandidateLink → CandidateLink → Ordering :=
  compareLex (ascending compare CandidateLink.deployedAt)
    (ascending server.compareText fun row => some row.deploymentKey)

def selectedLinks (links : List CandidateLink) : List CandidateLink :=
  partitionFirst CandidateLink.pullRequestKey (linkOrder server) links

/-- A row of `fct_pull_requests`. -/
structure FctPullRequest where
  repositoryId : Int
  repositoryFullName : Option String
  pullRequestKey : String
  pullRequestNumber : Option Int
  pullRequestState : Option String
  title : Option String
  isDraft : Bool
  createdAt : Option Timestamp
  firstReviewAt : Option Timestamp
  closedAt : Option Timestamp
  mergedAt : Option Timestamp
  resolvedAt : Option Timestamp
  lifecycleSeconds : Option Int
  secondsToFirstReview : Option Int
  eligibleReviewCount : Nat
  reviewReworkCycleCount : Nat
  secondsFromFirstReviewToMerge : Option Int
  additions : Option Int
  deletions : Option Int
  changedFiles : Option Int
  snapshotCount : Nat
  sourceCount : Nat
  isEligibleChange : Truth
  deploymentKey : Option String
  linkageType : Option LinkageType
  deploymentEvidenceType : Option EvidenceType
  deployedAt : Option Timestamp
  leadTimeSeconds : Option Int
  isChangeLinked : Bool
  measurementStatus : MeasurementStatus
  definitionVersion : String
  exclusionReason : Option ExclusionReason
  deriving DecidableEq

/-- `merged_at < created_at` -/
def impossibleMerge (pullRequest : PullRequest) : Bool :=
  holds (below pullRequest.mergedAt pullRequest.createdAt)

/-- The final `select`, for one pull request and the rows joined to it. -/
def fctPullRequest (pullRequest : PullRequest) (review : Option FirstEligibleReview)
    (repository : DimRepository) (link : Option CandidateLink) : FctPullRequest :=
  let firstReviewAt := review.bind (·.firstReviewAt)
  { repositoryId := pullRequest.repositoryId
    repositoryFullName := pullRequest.repositoryFullName
    pullRequestKey := pullRequest.pullRequestKey
    pullRequestNumber := pullRequest.pullRequestNumber
    pullRequestState := pullRequest.pullRequestState
    title := pullRequest.title
    isDraft := pullRequest.isDraft
    createdAt := pullRequest.createdAt
    firstReviewAt := firstReviewAt
    closedAt := pullRequest.closedAt
    mergedAt := pullRequest.mergedAt
    resolvedAt := pullRequest.resolvedAt
    lifecycleSeconds := pullRequest.lifecycleSeconds
    secondsToFirstReview := review.bind (·.review.secondsToFirstReview)
    eligibleReviewCount := (review.map (·.rollup.eligibleReviewCount)).getD 0
    reviewReworkCycleCount := (review.map (·.rollup.reviewReworkCycleCount)).getD 0
    secondsFromFirstReviewToMerge :=
      if holds (atMost firstReviewAt pullRequest.mergedAt) then
        secondsBetween pullRequest.mergedAt firstReviewAt
      else none
    additions := pullRequest.additions
    deletions := pullRequest.deletions
    changedFiles := pullRequest.changedFiles
    snapshotCount := pullRequest.snapshotCount
    sourceCount := pullRequest.sourceCount
    isEligibleChange :=
      both (both pullRequest.isMerged (some pullRequest.mergedAt.isSome))
        (atMost pullRequest.createdAt pullRequest.mergedAt)
    deploymentKey := link.map (·.deploymentKey)
    linkageType := link.map (·.linkageType)
    deploymentEvidenceType := link.map (·.deploymentEvidenceType)
    deployedAt := link.bind (·.deployedAt)
    leadTimeSeconds := link.bind (·.leadTimeSeconds)
    isChangeLinked := link.isSome
    measurementStatus :=
      if holds (negate pullRequest.isMerged) then .unavailable
      else if pullRequest.mergedAt.isNone then .unavailable
      else if impossibleMerge pullRequest then .unavailable
      else if !repository.isMetricConfigured then .unavailable
      else if pullRequest.mergeCommitSha.isNone then .unavailable
      else
        match link with
        | none => .unavailable
        | some link => link.measurementStatus
    definitionVersion :=
      (coalesce [link.map (·.definitionVersion), repository.definitionVersion]).getD "v1.0.0"
    exclusionReason :=
      if holds (negate pullRequest.isMerged) then some .pullRequestNotMerged
      else if pullRequest.mergedAt.isNone then some .missingMergeTimestamp
      else if impossibleMerge pullRequest then some .impossibleMergeTimestamp
      else if !repository.isMetricConfigured then some .missingRepositoryConfiguration
      else if pullRequest.mergeCommitSha.isNone then some .missingChangeSha
      else if link.isNone then some .missingExactShaLinkage
      else none }

def fctPullRequests (pullRequests : List PullRequest) (reviews : List FirstEligibleReview)
    (repositories : List DimRepository) (links : List ChangeToDeployment)
    (deployments : List FctDeployment) : List FctPullRequest :=
  let selected := selectedLinks server (allLinks pullRequests links deployments)
  let withReview := leftJoin (fun row review => row.pullRequestKey = review.pullRequestKey)
    pullRequests reviews
  let withRepository := innerJoin (fun (row, _) repository =>
    row.repositoryId = repository.repositoryId) withReview repositories
  let withLink := leftJoin (fun ((row, _), _) link => row.pullRequestKey = link.pullRequestKey)
    withRepository selected
  withLink.map fun (((row, review), repository), link) => fctPullRequest row review repository link

/-! ## `fct_delivery_performance_daily` -/

/-- A repository of `dim_repository` and a date of `dim_date`. -/
structure RepositoryDate where
  repository : DimRepository
  date : DimDate
  deriving DecidableEq

def repositoryDates (repositories : List DimRepository) (dates : List DimDate) :
    List RepositoryDate :=
  repositories.flatMap fun repository => dates.map fun date => ⟨repository, date⟩

/-- A group of `deployment_daily`. -/
structure DeploymentDaily where
  candidateEvidenceCount : Nat
  configuredEvidenceCount : Nat
  successfulDeploymentCount : Nat
  deriving DecidableEq

/-- `(coalesce(successful_at, created_at) at time zone ..)::date` -/
def deploymentDate (deployment : FctDeployment) (repository : DimRepository) : Option Int :=
  (coalesce [deployment.successfulAt, deployment.createdAt]).map
    (localDate server repository.timezone)

def deploymentDaily (deployments : List FctDeployment) (repositories : List DimRepository) :
    List ((Int × Option Int) × DeploymentDaily) :=
  groupBy (fun (deployment, repository) =>
      (deployment.repositoryId, deploymentDate server deployment repository))
    (fun rows =>
      { candidateEvidenceCount := rows.length
        configuredEvidenceCount := rows.countP fun (row, _) => holds row.isPrimaryEvidence
        successfulDeploymentCount := rows.countP fun (row, _) => row.isMeasured })
    (innerJoin (fun deployment repository =>
      deployment.repositoryId = repository.repositoryId) deployments repositories)

/-- A group of `change_daily`. -/
structure ChangeDaily where
  eligibleChangeCount : Nat
  linkedChangeCount : Nat
  averageLeadTimeSeconds : Option ℚ
  deriving DecidableEq

/-- `(merged_at at time zone ..)::date` -/
def mergeDate (pullRequest : FctPullRequest) (repository : DimRepository) : Option Int :=
  pullRequest.mergedAt.map (localDate server repository.timezone)

/-- `avg(value)` over integers that are not null -/
def average (values : List Int) : Option ℚ :=
  if values = [] then none else some (numericDivision values.sum values.length)

/-- `is_eligible_change and is_change_linked` -/
def FctPullRequest.isLinkedChange (row : FctPullRequest) : Bool :=
  holds row.isEligibleChange && row.isChangeLinked

def changeDaily (pullRequests : List FctPullRequest) (repositories : List DimRepository) :
    List ((Int × Option Int) × ChangeDaily) :=
  groupBy (fun (pullRequest, repository) =>
      (pullRequest.repositoryId, mergeDate server pullRequest repository))
    (fun rows =>
      { eligibleChangeCount := rows.countP fun (row, _) => holds row.isEligibleChange
        linkedChangeCount := rows.countP fun (row, _) => row.isLinkedChange
        averageLeadTimeSeconds := average
          ((rows.filter fun (row, _) => row.isLinkedChange).map
            fun (row, _) => row.leadTimeSeconds).reduceOption })
    ((innerJoin (fun pullRequest repository =>
      pullRequest.repositoryId = repository.repositoryId) pullRequests repositories).filter
      -- `where merged_at is not null`
      fun (row, _) => row.mergedAt.isSome)

/-- A row of `daily_inputs`. -/
structure DailyInputs where
  repository : DimRepository
  date : DimDate
  candidateEvidenceCount : Nat
  configuredEvidenceCount : Nat
  successfulDeploymentCount : Nat
  eligibleChangeCount : Nat
  linkedChangeCount : Nat
  averageLeadTimeSeconds : Option ℚ
  deriving DecidableEq

/-- `using (repository_id, date_day)` -/
def isOn {β : Type} (row : RepositoryDate) (group : (Int × Option Int) × β) : Bool :=
  row.repository.repositoryId = group.1.1 && holds (equal (some row.date.dateDay) group.1.2)

/-- The `select` of `daily_inputs`, for one repository and date and the groups joined to it. -/
def dailyInput (row : RepositoryDate) (deployments : Option ((Int × Option Int) × DeploymentDaily))
    (changes : Option ((Int × Option Int) × ChangeDaily)) : DailyInputs where
  repository := row.repository
  date := row.date
  candidateEvidenceCount := (deployments.map (·.2.candidateEvidenceCount)).getD 0
  configuredEvidenceCount := (deployments.map (·.2.configuredEvidenceCount)).getD 0
  successfulDeploymentCount := (deployments.map (·.2.successfulDeploymentCount)).getD 0
  eligibleChangeCount := (changes.map (·.2.eligibleChangeCount)).getD 0
  linkedChangeCount := (changes.map (·.2.linkedChangeCount)).getD 0
  averageLeadTimeSeconds := changes.bind (·.2.averageLeadTimeSeconds)

def dailyInputs (deployments : List FctDeployment) (pullRequests : List FctPullRequest)
    (repositories : List DimRepository) (dates : List DimDate) : List DailyInputs :=
  let withDeployments := leftJoin isOn (repositoryDates repositories dates)
    (deploymentDaily server deployments repositories)
  let withChanges := leftJoin (fun (row, _) group => isOn row group) withDeployments
    (changeDaily server pullRequests repositories)
  withChanges.map fun ((row, deployments), changes) => dailyInput row deployments changes

inductive MetricName
  | deploymentFrequency
  | changeLeadTime
  | failedDeploymentRecoveryTime
  | changeFailureRate
  | deploymentReworkRate
  deriving DecidableEq, Repr

def MetricName.name : MetricName → String
  | .deploymentFrequency => "deployment_frequency"
  | .changeLeadTime => "change_lead_time"
  | .failedDeploymentRecoveryTime => "failed_deployment_recovery_time"
  | .changeFailureRate => "change_failure_rate"
  | .deploymentReworkRate => "deployment_rework_rate"

def MetricName.unit : MetricName → String
  | .deploymentFrequency => "deployments"
  | .changeLeadTime | .failedDeploymentRecoveryTime => "seconds"
  | .changeFailureRate | .deploymentReworkRate => "ratio"

def metricNames : List MetricName :=
  [.deploymentFrequency, .changeLeadTime, .failedDeploymentRecoveryTime, .changeFailureRate,
    .deploymentReworkRate]

/-- A row of `fct_delivery_performance_daily`. -/
structure DailyMetric where
  deliveryPerformanceDailyKey : String
  repositoryId : Int
  repositoryFullName : Option String
  dateKey : Int
  dateDay : Int
  metricName : MetricName
  metricUnit : String
  metricValue : Option ℚ
  coverageNumerator : Nat
  coverageDenominator : Nat
  coverageRatio : Option ℚ
  measurementStatus : MeasurementStatus
  definitionVersion : String
  exclusionReason : Option ExclusionReason
  deriving DecidableEq

/-- The `case` of `metric_value` before its cast to `numeric(20, 6)`. -/
def metricValue (inputs : DailyInputs) : MetricName → Option ℚ
  | .deploymentFrequency =>
      if inputs.repository.isMetricConfigured then some (inputs.successfulDeploymentCount : Int)
      else none
  | .changeLeadTime =>
      if inputs.repository.isMetricConfigured && decide (0 < inputs.linkedChangeCount) then
        inputs.averageLeadTimeSeconds
      else none
  | _ => none

def coverageNumerator (inputs : DailyInputs) : MetricName → Nat
  | .deploymentFrequency => inputs.configuredEvidenceCount
  | .changeLeadTime => inputs.linkedChangeCount
  | _ => 0

def coverageDenominator (inputs : DailyInputs) : MetricName → Nat
  | .deploymentFrequency => inputs.candidateEvidenceCount
  | .changeLeadTime => inputs.eligibleChangeCount
  | _ => inputs.successfulDeploymentCount

/-- The `case` of `coverage_ratio` before its cast to `numeric(12, 6)`. -/
def coverageRatio (inputs : DailyInputs) : MetricName → Option ℚ
  | .deploymentFrequency =>
      if 0 < inputs.candidateEvidenceCount then
        some (numericDivision inputs.configuredEvidenceCount inputs.candidateEvidenceCount)
      else none
  | .changeLeadTime =>
      if 0 < inputs.eligibleChangeCount then
        some (numericDivision inputs.linkedChangeCount inputs.eligibleChangeCount)
      else none
  -- The metrics nothing is measured for: none of the deployments is covered.
  | _ => if 0 < inputs.successfulDeploymentCount then some 0 else none

/-- The `case` of `measurement_status` and that of `exclusion_reason`, which test the same
conditions in the same order. -/
def dailyStatus (inputs : DailyInputs) :
    MetricName → MeasurementStatus × Option ExclusionReason
  | .failedDeploymentRecoveryTime =>
      (.unavailable, some .requiredInterventionRecoveryEvidenceNotConfigured)
  | .changeFailureRate => (.unavailable, some .requiredChangeFailureEvidenceNotConfigured)
  | .deploymentReworkRate => (.unavailable, some .requiredUnplannedReworkEvidenceNotConfigured)
  | metric =>
      if !inputs.repository.isMetricConfigured then
        (.unavailable, some .missingRepositoryConfiguration)
      else if metric = .changeLeadTime ∧ inputs.eligibleChangeCount = 0 then
        (.unavailable, some .noEligibleChanges)
      else if metric = .changeLeadTime ∧ inputs.linkedChangeCount = 0 then
        (.unavailable, some .missingChangeDeploymentLinkage)
      else if inputs.repository.productionSignal = some "workflow_run" then
        (.configuredProxy, none)
      else (.measured, none)

def dailyMetric (inputs : DailyInputs) (metric : MetricName) : DailyMetric where
  deliveryPerformanceDailyKey := toString inputs.repository.repositoryId ++ ":"
    ++ toString inputs.date.dateKey ++ ":" ++ metric.name
  repositoryId := inputs.repository.repositoryId
  repositoryFullName := inputs.repository.repositoryFullName
  dateKey := inputs.date.dateKey
  dateDay := inputs.date.dateDay
  metricName := metric
  metricUnit := metric.unit
  metricValue := (metricValue inputs metric).map (roundedTo 6)
  coverageNumerator := coverageNumerator inputs metric
  coverageDenominator := coverageDenominator inputs metric
  coverageRatio := (coverageRatio inputs metric).map (roundedTo 6)
  measurementStatus := (dailyStatus inputs metric).1
  definitionVersion := inputs.repository.definitionVersion.getD "v1.0.0"
  exclusionReason := (dailyStatus inputs metric).2

def fctDeliveryPerformanceDaily (deployments : List FctDeployment)
    (pullRequests : List FctPullRequest) (repositories : List DimRepository)
    (dates : List DimDate) : List DailyMetric :=
  (dailyInputs server deployments pullRequests repositories dates).flatMap fun inputs =>
    metricNames.map (dailyMetric inputs)

/-! ## The build -/

/-- The models `dbt build` leaves behind. -/
structure Marts where
  intPrLifecycle : List PullRequest
  intFirstEligibleReview : List FirstEligibleReview
  intProductionDeployments : List ProductionDeployment
  intChangeToDeployment : List ChangeToDeployment
  dimRepository : List DimRepository
  dimDate : List DimDate
  fctDeployments : List FctDeployment
  fctPullRequests : List FctPullRequest
  fctDeliveryPerformanceDaily : List DailyMetric

/-- The models over the staged rows; each `ref` is the model of that name. -/
@[irreducible] def build (seed : Seed) (staged : Staged) : Marts :=
  let pullRequests := intPrLifecycle server staged.pullRequests
  let reviews := intFirstEligibleReview server staged.reviews pullRequests
  let production := intProductionDeployments staged.deployments staged.deploymentStatuses
  let links := intChangeToDeployment staged.pullRequestCommits pullRequests production
  let repositories := dimRepository server pullRequests production seed
  let dates := dimDate pullRequests production
  let deployments := fctDeployments server production staged.workflowRuns repositories
  let facts := fctPullRequests server pullRequests reviews repositories links deployments
  { intPrLifecycle := pullRequests
    intFirstEligibleReview := reviews
    intProductionDeployments := production
    intChangeToDeployment := links
    dimRepository := repositories
    dimDate := dates
    fctDeployments := deployments
    fctPullRequests := facts
    fctDeliveryPerformanceDaily :=
      fctDeliveryPerformanceDaily server deployments facts repositories dates }

/-! ## A small set of events -/

/-- An event of the repository `example-org/delivery-demo`. -/
def demoEvent (eventId : Nat) (eventName : String) (occurredAt : Timestamp)
    (payload : List (String × Json)) : RawEvent where
  eventId := eventId
  source := .webhook
  sourceRecordKey := toString eventId
  deliveryId := some (toString eventId)
  eventName := eventName
  action := "created"
  repositoryId := 20001
  installationId := 1
  occurredAt := some occurredAt
  receivedAt := some occurredAt
  ingestedAt := occurredAt
  payload := .object
    (("repository", .object [("full_name", .string "example-org/delivery-demo")]) :: payload)
  kafkaPartition := some 0
  kafkaOffset := some eventId

/-- A production deployment of a commit and its success. -/
def demoDeployment (eventId : Nat) (occurredAt : Timestamp) (sha : String) : List RawEvent :=
  [ demoEvent eventId "deployment" occurredAt
      [("deployment", .object
        [("id", .number 70001 0), ("environment", .string "production"), ("sha", .string sha),
          ("production_environment", .bool true)])]
  , demoEvent (eventId + 1) "deployment_status" occurredAt
      [("deployment", .object [("id", .number 70001 0)]),
        ("deployment_status", .object [("id", .number 80001 0), ("state", .string "success")])] ]

/-- The configuration of the repository, with the given time zone. -/
def demoConfig (timezone : String) : MetricConfig where
  repositoryId := 20001
  repositoryFullName := some "example-org/delivery-demo"
  repositoryTimezone := some timezone
  productionSignal := some "deployment_status"
  productionEnvironmentNames := some "production"
  productionWorkflowName := none
  definitionVersion := some "v1.0.0"

def demoSeed (timezone : String) : Seed where
  rows := [demoConfig timezone]
  repositoryId_unique := List.nodup_singleton _

theorem demoSeed_tests (timezone : String) : (demoSeed timezone).Tests where
  repositoryFullName_unique := List.nodup_singleton _
  repositoryFullName_not_null row hrow := by
    rw [List.mem_singleton.mp hrow]
    rfl
  repositoryTimezone_not_null row hrow := by
    rw [List.mem_singleton.mp hrow]
    rfl
  definitionVersion_not_null row hrow := by
    rw [List.mem_singleton.mp hrow]
    rfl
  one_signal row hrow := by
    rw [List.mem_singleton.mp hrow]
    exact Or.inl ⟨rfl, rfl, rfl⟩

end Dbt
