import DeliveryIntelligence.Dbt.DailyMetrics

set_option autoImplicit false

/-!
# Dashboard cards

Three native queries under `dashboards/sql` over the marts: the lead times of changes, the cycle
times of merged pull requests and the trend of review latency. A result is the list of its rows;
the final `order by` is left out. Where the marts take a null time zone for UTC, these queries do
not (`repositoryDate`).
-/

namespace Dashboards

open Postgres Query Dbt

/-- Double precision, as far as the queries compute with it. -/
structure Doubles (Double : Type) where
  /-- `percentile_cont(percent / 100) within group (order by ..)` -/
  percentileCont : Nat → List Int → Option Double
  /-- `round((seconds / 3600.0)::numeric, 2)` -/
  hours : Double → ℚ

variable {Double : Type} (doubles : Doubles Double) (server : Server)

/-- `(instant at time zone repositories.repository_timezone)::date` -/
def repositoryDate (repository : DimRepository) (instant : Option Timestamp) : Option Int :=
  Option.map₂ (localDate server) repository.repositoryTimezone instant

/-- `fct_pull_requests inner join dim_repository using (repository_id)` -/
def withRepository (pullRequests : List FctPullRequest) (repositories : List DimRepository) :
    List (FctPullRequest × DimRepository) :=
  innerJoin (fun pullRequest repository =>
    decide (pullRequest.repositoryId = repository.repositoryId)) pullRequests repositories

/-! ## `delivery_performance_change_lead_time.sql` -/

/-- A row of `eligible_changes`. -/
structure EligibleChange where
  repositoryId : Int
  repositoryFullName : Option String
  dateDay : Option Int
  leadTimeSeconds : Option Int
  isChangeLinked : Bool

def eligibleChange (pullRequest : FctPullRequest) (repository : DimRepository) :
    EligibleChange where
  repositoryId := pullRequest.repositoryId
  repositoryFullName := pullRequest.repositoryFullName
  dateDay := repositoryDate server repository pullRequest.mergedAt
  leadTimeSeconds := pullRequest.leadTimeSeconds
  isChangeLinked := pullRequest.isChangeLinked

def eligibleChanges (pullRequests : List FctPullRequest) (repositories : List DimRepository) :
    List EligibleChange :=
  ((withRepository pullRequests repositories).filter fun (pullRequest, _) =>
    holds pullRequest.isEligibleChange).map fun (pullRequest, repository) =>
      eligibleChange server pullRequest repository

/-- `group by repository_id, repository_full_name, date_day` -/
@[ext]
structure ChangeGroup where
  repositoryId : Int
  repositoryFullName : Option String
  dateDay : Option Int
  deriving DecidableEq

def EligibleChange.group (change : EligibleChange) : ChangeGroup :=
  ⟨change.repositoryId, change.repositoryFullName, change.dateDay⟩

/-- The aggregates of `daily_percentiles`. -/
structure LeadTimePercentiles (Double : Type) where
  linkedChangeCount : Nat
  p50LeadTimeSeconds : Option Double
  p90LeadTimeSeconds : Option Double

/-- `filter (where is_change_linked)`, for the values that are not null. -/
def linkedLeadTimes (changes : List EligibleChange) : List Int :=
  ((changes.filter (·.isChangeLinked)).map (·.leadTimeSeconds)).reduceOption

def leadTimePercentiles (changes : List EligibleChange) : LeadTimePercentiles Double where
  linkedChangeCount := changes.countP (·.isChangeLinked)
  p50LeadTimeSeconds := doubles.percentileCont 50 (linkedLeadTimes changes)
  p90LeadTimeSeconds := doubles.percentileCont 90 (linkedLeadTimes changes)

def dailyPercentiles (pullRequests : List FctPullRequest) (repositories : List DimRepository) :
    List (ChangeGroup × LeadTimePercentiles Double) :=
  groupBy EligibleChange.group (leadTimePercentiles doubles)
    (eligibleChanges server pullRequests repositories)

inductive PercentileName
  | p50
  | p90
  deriving DecidableEq

def PercentileName.text : PercentileName → String
  | .p50 => "p50"
  | .p90 => "p90"

/-- `upper(percentile_name)` -/
def PercentileName.upper : PercentileName → String
  | .p50 => "P50"
  | .p90 => "P90"

def LeadTimePercentiles.leadTimeSeconds (percentiles : LeadTimePercentiles Double) :
    PercentileName → Option Double
  | .p50 => percentiles.p50LeadTimeSeconds
  | .p90 => percentiles.p90LeadTimeSeconds

/-- The condition of the left join. -/
def onRepositoryDate (metric : DailyMetric)
    (row : ChangeGroup × LeadTimePercentiles Double) : Bool :=
  decide (metric.repositoryId = row.1.repositoryId)
    && holds (equal (some metric.dateDay) row.1.dateDay)

/-- A row of the `from` clause: a metric row, the percentiles joined to it and a percentile. -/
structure LeadTimeJoined (Double : Type) where
  metric : DailyMetric
  percentiles : Option (ChangeGroup × LeadTimePercentiles Double)
  percentileName : PercentileName

/-- The `from` and the `where` clause. -/
def leadTimeJoined (pullRequests : List FctPullRequest) (repositories : List DimRepository)
    (daily : List DailyMetric) : List (LeadTimeJoined Double) :=
  (leftJoin onRepositoryDate (daily.filter (·.metricName = .changeLeadTime))
    (dailyPercentiles doubles server pullRequests repositories)).flatMap
    fun (metric, percentiles) =>
      [⟨metric, percentiles, .p50⟩, ⟨metric, percentiles, .p90⟩]

/-- A row of the card. -/
structure LeadTimeRow where
  repositoryFullName : Option String
  dateDay : Int
  percentileName : PercentileName
  seriesName : Option String
  leadTimeHours : Option ℚ
  linkedChangeCount : Nat
  measurementStatus : MeasurementStatus
  coverageNumerator : Nat
  coverageDenominator : Nat
  coverageRatio : Option ℚ
  definitionVersion : String
  exclusionReason : Option ExclusionReason

def leadTimeRow (joined : LeadTimeJoined Double) : LeadTimeRow where
  repositoryFullName := joined.metric.repositoryFullName
  dateDay := joined.metric.dateDay
  percentileName := joined.percentileName
  seriesName := joined.metric.repositoryFullName.map fun name =>
    name ++ " · " ++ joined.percentileName.upper
  leadTimeHours := (joined.percentiles.bind fun row =>
    row.2.leadTimeSeconds joined.percentileName).map doubles.hours
  linkedChangeCount := (joined.percentiles.map (·.2.linkedChangeCount)).getD 0
  measurementStatus := joined.metric.measurementStatus
  coverageNumerator := joined.metric.coverageNumerator
  coverageDenominator := joined.metric.coverageDenominator
  coverageRatio := joined.metric.coverageRatio
  definitionVersion := joined.metric.definitionVersion
  exclusionReason := joined.metric.exclusionReason

/-- The result of the query. -/
def changeLeadTime (marts : Marts) : List LeadTimeRow :=
  (leadTimeJoined doubles server marts.fctPullRequests marts.dimRepository
    marts.fctDeliveryPerformanceDaily).map (leadTimeRow doubles)

/-! ## `pr_flow_cycle_time.sql` -/

inductive SizeBand
  | xs
  | s
  | m
  | l
  | unknown
  deriving DecidableEq

def SizeBand.text : SizeBand → String
  | .xs => "XS (≤50)"
  | .s => "S (51–200)"
  | .m => "M (201–500)"
  | .l => "L (>500)"
  | .unknown => "Unknown"

def SizeBand.order : SizeBand → Nat
  | .xs => 1
  | .s => 2
  | .m => 3
  | .l => 4
  | .unknown => 5

/-- The two `case` expressions, which test the same conditions. -/
def sizeBand (pullRequest : FctPullRequest) : SizeBand :=
  let size := pullRequest.additions.getD 0 + pullRequest.deletions.getD 0
  if pullRequest.additions.isNone && pullRequest.deletions.isNone then .unknown
  else if size ≤ 50 then .xs
  else if size ≤ 200 then .s
  else if size ≤ 500 then .m
  else .l

/-- The pull requests of `merged_pull_requests` and their repositories. -/
def mergedPullRequests (marts : Marts) : List (FctPullRequest × DimRepository) :=
  (withRepository marts.fctPullRequests marts.dimRepository).filter fun (pullRequest, _) =>
    holds (equal pullRequest.pullRequestState (some "merged"))
      && pullRequest.lifecycleSeconds.isSome

/-- `group by repository_full_name, date_day, size_band, size_band_order` -/
structure CycleTimeGroup where
  repositoryFullName : Option String
  dateDay : Option Int
  sizeBand : SizeBand
  deriving DecidableEq

def cycleTimeGroup (pullRequest : FctPullRequest) (repository : DimRepository) :
    CycleTimeGroup where
  repositoryFullName := pullRequest.repositoryFullName
  dateDay := repositoryDate server repository pullRequest.mergedAt
  sizeBand := sizeBand pullRequest

structure CycleTimes where
  p50CycleTimeHours : Option ℚ
  p90CycleTimeHours : Option ℚ
  mergedPrCount : Nat

def cycleTimes (rows : List (FctPullRequest × DimRepository)) : CycleTimes :=
  let seconds := (rows.map fun (pullRequest, _) => pullRequest.lifecycleSeconds).reduceOption
  { p50CycleTimeHours := (doubles.percentileCont 50 seconds).map doubles.hours
    p90CycleTimeHours := (doubles.percentileCont 90 seconds).map doubles.hours
    mergedPrCount := rows.length }

/-- The result of the query: the groups and their aggregates. -/
def cycleTime (marts : Marts) : List (CycleTimeGroup × CycleTimes) :=
  groupBy (fun (pullRequest, repository) => cycleTimeGroup server pullRequest repository)
    (cycleTimes doubles) (mergedPullRequests marts)

/-! ## `pr_flow_review_latency_trend.sql` -/

/-- The pull requests of the CTE `pull_requests` and their repositories. -/
def undraftedPullRequests (marts : Marts) : List (FctPullRequest × DimRepository) :=
  (withRepository marts.fctPullRequests marts.dimRepository).filter fun (pullRequest, _) =>
    !pullRequest.isDraft

/-- `group by repository_full_name, date_day` -/
structure ReviewLatencyGroup where
  repositoryFullName : Option String
  dateDay : Option Int
  deriving DecidableEq

def reviewLatencyGroup (pullRequest : FctPullRequest) (repository : DimRepository) :
    ReviewLatencyGroup where
  repositoryFullName := pullRequest.repositoryFullName
  dateDay := repositoryDate server repository pullRequest.createdAt

structure ReviewLatencies where
  p50ReviewLatencyHours : Option ℚ
  p90ReviewLatencyHours : Option ℚ
  reviewedPrCount : Nat
  eligiblePrCount : Nat
  reviewCoverageRatio : Option ℚ

def reviewLatencies (rows : List (FctPullRequest × DimRepository)) : ReviewLatencies :=
  let seconds := (rows.map fun (pullRequest, _) => pullRequest.secondsToFirstReview).reduceOption
  { p50ReviewLatencyHours := (doubles.percentileCont 50 seconds).map doubles.hours
    p90ReviewLatencyHours := (doubles.percentileCont 90 seconds).map doubles.hours
    reviewedPrCount := seconds.length
    eligiblePrCount := rows.length
    reviewCoverageRatio :=
      if rows.length = 0 then none
      else some (roundedTo 4 (numericDivision seconds.length rows.length)) }

/-- The result of the query: the groups and their aggregates. -/
def reviewLatencyTrend (marts : Marts) : List (ReviewLatencyGroup × ReviewLatencies) :=
  groupBy (fun (pullRequest, repository) => reviewLatencyGroup server pullRequest repository)
    (reviewLatencies doubles) (undraftedPullRequests marts)

end Dashboards
