import DeliveryIntelligence.Dbt.Marts
import DeliveryIntelligence.Library.DataTests
import Mathlib.Tactic.MkIffOfInductiveProp

set_option autoImplicit false

/-!
# The data tests

The data tests that `_github__intermediate.yml` and `_github__marts.yml` declare on the columns of
the models above, model by model in the order of the files. Those that depend on what GitHub
reports stand alone at the end. `Staged.Tests` has the tests of the staging models they rest on.
-/

namespace Dbt

open Postgres Query

/-! ## The staging models -/

/-- The tests of `_github__models.yml` that those of the later models rest on. -/
@[mk_iff]
structure Staged.Tests (staged : Staged) : Prop where
  pullRequest_repositoryFullName_not_null :
    ∀ row ∈ staged.pullRequests, row.repositoryFullName.isSome
  pullRequest_pullRequestNumber_not_null :
    ∀ row ∈ staged.pullRequests, row.pullRequestNumber.isSome
  pullRequest_pullRequestState_not_null : ∀ row ∈ staged.pullRequests, row.pullRequestState.isSome
  pullRequest_pullRequestState_accepted : ∀ row ∈ staged.pullRequests,
    ∀ state ∈ row.pullRequestState, state ∈ ["open", "closed", "merged"]
  pullRequest_title_not_null : ∀ row ∈ staged.pullRequests, row.title.isSome
  pullRequest_authorLogin_not_null : ∀ row ∈ staged.pullRequests, row.authorLogin.isSome
  pullRequest_createdAt_not_null : ∀ row ∈ staged.pullRequests, row.createdAt.isSome
  review_reviewState_accepted : ∀ row ∈ staged.reviews, ∀ state ∈ row.reviewState,
    state ∈ ["approved", "changes_requested", "commented", "dismissed", "pending"]
  deployment_repositoryFullName_not_null :
    ∀ row ∈ staged.deployments, row.repositoryFullName.isSome
  deployment_deploymentId_not_null : ∀ row ∈ staged.deployments, row.deploymentId.isSome
  deployment_environment_not_null : ∀ row ∈ staged.deployments, row.environment.isSome
  deployment_deploymentSha_not_null : ∀ row ∈ staged.deployments, row.deploymentSha.isSome
  deployment_createdAt_not_null : ∀ row ∈ staged.deployments, row.createdAt.isSome
  status_deploymentState_accepted : ∀ row ∈ staged.deploymentStatuses,
    ∀ state ∈ row.deploymentState,
      state ∈ ["error", "failure", "inactive", "in_progress", "queued", "pending", "success"]
  workflowRun_repositoryFullName_not_null :
    ∀ row ∈ staged.workflowRuns, row.repositoryFullName.isSome
  workflowRun_workflowStatus_not_null : ∀ row ∈ staged.workflowRuns, row.workflowStatus.isSome
  workflowRun_headSha_not_null : ∀ row ∈ staged.workflowRuns, row.headSha.isSome
  workflowRun_createdAt_not_null : ∀ row ∈ staged.workflowRuns, row.createdAt.isSome

instance (staged : Staged) : Decidable staged.Tests :=
  decidable_of_iff _ (Staged.tests_iff staged).symm

/-! ## The intermediate models -/

def intPrLifecycleTests : List (DataTest Marts) :=
  testsOn Marts.intPrLifecycle
    [ notNull "repository_id" (some ·.repositoryId)
    , notNull "repository_full_name" (·.repositoryFullName)
    , notNull "installation_id" (some ·.installationId)
    , notNull "pull_request_key" (some ·.pullRequestKey)
    , unique "pull_request_key" (some ·.pullRequestKey)
    , notNull "pull_request_number" (·.pullRequestNumber)
    , notNull "pull_request_state" (·.pullRequestState)
    , acceptedValues "pull_request_state" (·.pullRequestState) ["open", "closed", "merged"]
    , notNull "title" (·.title)
    , notNull "is_draft" (some ·.isDraft)
    , notNull "author_login" (·.authorLogin)
    , notNull "created_at" (·.createdAt)
    , notNull "is_merged" (·.isMerged)
    , notNull "is_closed" (·.isClosed)
    , notNull "snapshot_count" (some ·.snapshotCount)
    , notNull "source_count" (some ·.sourceCount)
    , notNull "first_ingested_at" (·.firstIngestedAt)
    , notNull "last_ingested_at" (·.lastIngestedAt) ]

def intFirstEligibleReviewTests : List (DataTest Marts) :=
  testsOn Marts.intFirstEligibleReview
    [ expressionIsTrue "seconds_to_first_review >= 0" fun row =>
        atMost (some 0) row.review.secondsToFirstReview
    , notNull "repository_id" (some ·.review.repositoryId)
    , notNull "repository_full_name" (·.review.repositoryFullName)
    , notNull "pull_request_key" (some ·.pullRequestKey)
    , unique "pull_request_key" (some ·.pullRequestKey)
    , notNull "pull_request_number" (·.review.pullRequestNumber)
    , notNull "review_key" (some ·.review.reviewKey)
    , notNull "review_state" (·.review.reviewState)
    , acceptedValues "review_state" (·.review.reviewState)
        ["approved", "changes_requested", "commented", "dismissed"]
    , notNull "reviewer_login" (·.review.reviewerLogin)
    , notNull "first_review_at" (·.firstReviewAt)
    , notNull "seconds_to_first_review" (·.review.secondsToFirstReview)
    , notNull "is_pre_merge_review" (·.review.isPreMergeReview)
    , notNull "review_snapshot_count" (some ·.review.snapshotCount)
    , notNull "review_source_count" (some ·.review.sourceCount)
    , notNull "eligible_review_count" (some ·.rollup.eligibleReviewCount)
    , notNull "review_rework_cycle_count" (some ·.rollup.reviewReworkCycleCount) ]
  ++ [ relationships "pull_request_key" Marts.intFirstEligibleReview (some ·.pullRequestKey)
        Marts.intPrLifecycle (some ·.pullRequestKey) ]

def intProductionDeploymentsTests : List (DataTest Marts) :=
  testsOn Marts.intProductionDeployments
    [ notNull "repository_id" (some ·.repositoryId)
    , notNull "repository_full_name" (·.repositoryFullName)
    , notNull "installation_id" (some ·.installationId)
    , notNull "deployment_key" (some ·.deploymentKey)
    , unique "deployment_key" (some ·.deploymentKey)
    , notNull "deployment_id" (·.deploymentId)
    , notNull "environment" (·.environment)
    , notNull "deployment_sha" (·.deploymentSha)
    , notNull "is_transient_environment" (some ·.isTransientEnvironment)
    , notNull "created_at" (·.createdAt)
    , acceptedValues "latest_deployment_state" (·.latestDeploymentState)
        ["error", "failure", "inactive", "in_progress", "queued", "pending", "success"]
    , notNull "is_successful" (some ·.isSuccessful)
    , notNull "deployment_snapshot_count" (some ·.deploymentSnapshotCount)
    , notNull "deployment_source_count" (some ·.deploymentSourceCount)
    , notNull "status_record_count" (some ·.statusRecordCount)
    , notNull "status_snapshot_count" (some ·.statusSnapshotCount)
    , notNull "first_ingested_at" (·.firstIngestedAt)
    , notNull "last_ingested_at" (·.lastIngestedAt) ]

/-- `pull_request_key || '->' || deployment_key` -/
def ChangeToDeployment.changeDeploymentKey (link : ChangeToDeployment) : String :=
  link.change.pullRequestKey ++ "->" ++ link.deploymentKey

def intChangeToDeploymentTests : List (DataTest Marts) :=
  testsOn Marts.intChangeToDeployment
    [ expressionIsTrue "lead_time_seconds >= 0" fun row => atMost (some 0) row.leadTimeSeconds
    , notNull "change_deployment_key" (some ·.changeDeploymentKey)
    , unique "change_deployment_key" (some ·.changeDeploymentKey)
    , notNull "repository_id" (some ·.change.repositoryId)
    , notNull "repository_full_name" (·.change.repositoryFullName)
    , notNull "pull_request_key" (some ·.change.pullRequestKey)
    , notNull "pull_request_number" (·.change.pullRequestNumber)
    , notNull "deployment_key" (some ·.deploymentKey)
    , notNull "deployment_id" (·.deploymentId)
    , notNull "environment" (·.environment)
    , notNull "change_sha" (·.change.changeSha)
    , notNull "linkage_type" (some ·.change.linkageType.name)
    , acceptedValues "linkage_type" (some ·.change.linkageType.name)
        ["merge_commit", "pull_request_commit"]
    , notNull "change_completed_at" (·.change.changeCompletedAt)
    , notNull "deployed_at" (·.deployedAt)
    , notNull "lead_time_seconds" (·.leadTimeSeconds) ]
  ++ [ relationships "pull_request_key" Marts.intChangeToDeployment (some ·.change.pullRequestKey)
        Marts.intPrLifecycle (some ·.pullRequestKey)
     , relationships "deployment_key" Marts.intChangeToDeployment (some ·.deploymentKey)
        Marts.intProductionDeployments (some ·.deploymentKey) ]

/-- The tests of `_github__intermediate.yml`. -/
def intermediateTests : List (DataTest Marts) :=
  intPrLifecycleTests ++ intFirstEligibleReviewTests ++ intProductionDeploymentsTests
    ++ intChangeToDeploymentTests

/-! ## The marts -/

def dimRepositoryTests : List (DataTest Marts) :=
  testsOn Marts.dimRepository
    [ notNull "repository_id" (some ·.repositoryId)
    , unique "repository_id" (some ·.repositoryId)
    , notNull "repository_full_name" (·.repositoryFullName)
    , acceptedValues "production_signal" (·.productionSignal) ["deployment_status", "workflow_run"]
    , notNull "is_metric_configured" (some ·.isMetricConfigured) ]

def dimDateTests : List (DataTest Marts) :=
  testsOn Marts.dimDate
    [ notNull "date_key" (some ·.dateKey)
    , notNull "date_day" (some ·.dateDay)
    , unique "date_day" (some ·.dateDay) ]

/-- The columns `measurement_status` and `definition_version` are declared once for three facts. -/
def measurementTests {ρ : Type} (measurementStatus : ρ → MeasurementStatus)
    (definitionVersion : ρ → String) : List (DataTest (List ρ)) :=
  [ notNull "measurement_status" (some <| MeasurementStatus.name <| measurementStatus ·)
  , acceptedValues "measurement_status" (some <| MeasurementStatus.name <| measurementStatus ·)
      ["measured", "configured_proxy", "unavailable"]
  , notNull "definition_version" (some <| definitionVersion ·) ]

def fctDeploymentsTests : List (DataTest Marts) :=
  testsOn Marts.fctDeployments
    ([ notNull "deployment_key" (some ·.deploymentKey)
     , unique "deployment_key" (some ·.deploymentKey)
     , notNull "repository_id" (some ·.repositoryId)
     , notNull "repository_full_name" (·.repositoryFullName)
     , notNull "evidence_type" (some ·.evidenceType.name)
     , acceptedValues "evidence_type" (some ·.evidenceType.name)
        ["deployment_status", "workflow_run"]
     , notNull "deployment_sha" (·.deploymentSha)
     , notNull "created_at" (·.createdAt)
     , notNull "snapshot_count" (some ·.snapshotCount)
     , notNull "source_count" (some ·.sourceCount)
     , notNull "is_primary_evidence" (·.isPrimaryEvidence) ]
     ++ measurementTests FctDeployment.measurementStatus FctDeployment.definitionVersion)
  ++ [ relationships "repository_id" Marts.fctDeployments (some ·.repositoryId)
        Marts.dimRepository (some ·.repositoryId) ]

def fctPullRequestsTests : List (DataTest Marts) :=
  testsOn Marts.fctPullRequests
    ([ expressionIsTrue "lead_time_seconds is null or lead_time_seconds >= 0" fun row =>
        either (some row.leadTimeSeconds.isNone) (atMost (some 0) row.leadTimeSeconds)
     , expressionIsTrue ("seconds_from_first_review_to_merge is null "
          ++ "or seconds_from_first_review_to_merge >= 0") fun row =>
        either (some row.secondsFromFirstReviewToMerge.isNone)
          (atMost (some 0) row.secondsFromFirstReviewToMerge)
     , expressionIsTrue "review_rework_cycle_count >= 0" fun row =>
        atMost (some 0) (some (row.reviewReworkCycleCount : Int))
     , notNull "repository_id" (some ·.repositoryId)
     , notNull "repository_full_name" (·.repositoryFullName)
     , notNull "pull_request_key" (some ·.pullRequestKey)
     , unique "pull_request_key" (some ·.pullRequestKey)
     , notNull "pull_request_number" (·.pullRequestNumber)
     , notNull "pull_request_state" (·.pullRequestState)
     , notNull "title" (·.title)
     , notNull "is_draft" (some ·.isDraft)
     , notNull "created_at" (·.createdAt)
     , notNull "eligible_review_count" (some ·.eligibleReviewCount)
     , notNull "review_rework_cycle_count" (some ·.reviewReworkCycleCount)
     , notNull "snapshot_count" (some ·.snapshotCount)
     , notNull "source_count" (some ·.sourceCount)
     , notNull "is_eligible_change" (·.isEligibleChange)
     , acceptedValues "linkage_type" (·.linkageType.map LinkageType.name)
        ["merge_commit", "pull_request_commit"]
     , acceptedValues "deployment_evidence_type" (·.deploymentEvidenceType.map EvidenceType.name)
        ["deployment_status", "workflow_run"]
     , notNull "is_change_linked" (some ·.isChangeLinked) ]
     ++ measurementTests FctPullRequest.measurementStatus FctPullRequest.definitionVersion)

def fctDeliveryPerformanceDailyTests : List (DataTest Marts) :=
  testsOn Marts.fctDeliveryPerformanceDaily
    ([ expressionIsTrue "coverage_ratio is null or coverage_ratio between 0 and 1" fun row =>
        either (some row.coverageRatio.isNone)
          (row.coverageRatio.map fun ratio => decide (0 ≤ ratio ∧ ratio ≤ 1))
     , expressionIsTrue "coverage_numerator <= coverage_denominator" fun row =>
        some (decide (row.coverageNumerator ≤ row.coverageDenominator))
     , expressionIsTrue "measurement_status != 'unavailable' or metric_value is null" fun row =>
        either (some (decide (row.measurementStatus ≠ .unavailable)))
          (some row.metricValue.isNone)
     , notNull "delivery_performance_daily_key" (some ·.deliveryPerformanceDailyKey)
     , notNull "repository_id" (some ·.repositoryId)
     , notNull "repository_full_name" (·.repositoryFullName)
     , notNull "date_key" (some ·.dateKey)
     , notNull "date_day" (some ·.dateDay)
     , notNull "metric_name" (some ·.metricName.name)
     , acceptedValues "metric_name" (some ·.metricName.name)
        [ "deployment_frequency", "change_lead_time", "failed_deployment_recovery_time"
        , "change_failure_rate", "deployment_rework_rate" ]
     , notNull "metric_unit" (some ·.metricUnit)
     , notNull "coverage_numerator" (some ·.coverageNumerator)
     , notNull "coverage_denominator" (some ·.coverageDenominator) ]
     ++ measurementTests DailyMetric.measurementStatus DailyMetric.definitionVersion)
  ++ [ relationships "date_key" Marts.fctDeliveryPerformanceDaily (some ·.dateKey)
        Marts.dimDate (some ·.dateKey) ]

/-- The tests of `_github__marts.yml` but for those below. -/
def martTests : List (DataTest Marts) :=
  dimRepositoryTests ++ dimDateTests ++ fctDeploymentsTests ++ fctPullRequestsTests
    ++ fctDeliveryPerformanceDailyTests

/-! ## Dates and timestamps -/

def dateKeyUnique : DataTest Marts := (unique "date_key" (some ·.dateKey)).on Marts.dimDate

def dailyKeyUnique : DataTest Marts :=
  (unique "delivery_performance_daily_key" (some ·.deliveryPerformanceDailyKey)).on
    Marts.fctDeliveryPerformanceDaily

/-- `successful_at is null or successful_at >= created_at` -/
def succeededAfterCreation (successfulAt createdAt : Option Timestamp) : Truth :=
  either (some successfulAt.isNone) (atMost createdAt successfulAt)

def resolvedAfterCreation : DataTest Marts :=
  (expressionIsTrue "resolved_at is null or resolved_at >= created_at" fun row =>
    succeededAfterCreation row.resolvedAt row.createdAt).on Marts.intPrLifecycle

def productionAfterCreation : DataTest Marts :=
  (expressionIsTrue "successful_at is null or successful_at >= created_at" fun row =>
    succeededAfterCreation row.successfulAt row.createdAt).on Marts.intProductionDeployments

def deploymentAfterCreation : DataTest Marts :=
  (expressionIsTrue "successful_at is null or successful_at >= created_at" fun row =>
    succeededAfterCreation row.successfulAt row.createdAt).on Marts.fctDeployments

def durationNonneg : DataTest Marts :=
  (expressionIsTrue "seconds_to_success is null or seconds_to_success >= 0" fun row =>
    either (some row.secondsToSuccess.isNone) (atMost (some 0) row.secondsToSuccess)).on
    Marts.fctDeployments

def successKnown : DataTest Marts :=
  (notNull "is_successful" (·.isSuccessful)).on Marts.fctDeployments

end Dbt
