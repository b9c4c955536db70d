import DeliveryIntelligence.Dashboards.Queries
import DeliveryIntelligence.Library.OrderBy

set_option autoImplicit false

/-!
# The result sets of the cards

The other five native queries under `dashboards/sql`, and the list each of the eight gives with
its final `order by`. The functions named `grain` are the columns `query_contracts.json` declares
as the grain of a result.
-/

namespace Dashboards

open Postgres Query Dbt

variable {Double : Type} (doubles : Doubles Double) (server : Server)

/-- `order by` a column of texts. -/
abbrev byText {ρ : Type} (column : ρ → Option String) : ρ → ρ → Ordering :=
  ascending server.compareText column

/-- `order by` a column of numbers that is never null. -/
abbrev byNumber {ρ ν : Type} [Ord ν] (column : ρ → ν) : ρ → ρ → Ordering :=
  ascending compare fun row => some (column row)

/-! ## `delivery_performance_deployment_frequency.sql` -/

structure DeploymentFrequencyRow where
  repositoryFullName : Option String
  dateDay : Int
  deployments : Option ℚ
  measurementStatus : MeasurementStatus
  coverageNumerator : Nat
  coverageDenominator : Nat
  coverageRatio : Option ℚ
  definitionVersion : String
  exclusionReason : Option ExclusionReason

def deploymentFrequencyRow (metric : DailyMetric) : DeploymentFrequencyRow where
  repositoryFullName := metric.repositoryFullName
  dateDay := metric.dateDay
  deployments := metric.metricValue
  measurementStatus := metric.measurementStatus
  coverageNumerator := metric.coverageNumerator
  coverageDenominator := metric.coverageDenominator
  coverageRatio := metric.coverageRatio
  definitionVersion := metric.definitionVersion
  exclusionReason := metric.exclusionReason

def DeploymentFrequencyRow.grain (row : DeploymentFrequencyRow) : Option String × Int :=
  (row.repositoryFullName, row.dateDay)

/-- The result of the query. -/
def deploymentFrequency (marts : Marts) : List DeploymentFrequencyRow :=
  orderBy (compareLex (byText server (·.repositoryFullName)) (byNumber (·.dateDay)))
    ((marts.fctDeliveryPerformanceDaily.filter (·.metricName = .deploymentFrequency)).map
      deploymentFrequencyRow)

/-! ## `delivery_performance_metric_status.sql` -/

/-- The CTE `latest_reporting_date`. -/
def latestReportingDate (daily : List DailyMetric) : Option Int :=
  maximum compare (daily.map fun metric => some metric.dateDay)

/-- `inner join latest_reporting_date using (date_day)` -/
def reportedMetrics (daily : List DailyMetric) : List DailyMetric :=
  daily.filter fun metric => holds (equal (some metric.dateDay) (latestReportingDate daily))

def statusLabel : MeasurementStatus → String
  | .unavailable => "Unavailable"
  | .configuredProxy => "Configured proxy"
  | .measured => "Measured"

/-- The `case` in the final `order by`. -/
def statusRank : MeasurementStatus → Nat
  | .configuredProxy => 1
  | .measured => 2
  | .unavailable => 3

structure MetricStatusRow where
  repositoryFullName : Option String
  dateDay : Int
  metricName : MetricName
  metricValue : Option ℚ
  measurementStatus : MeasurementStatus
  coverageNumerator : Nat
  coverageDenominator : Nat
  coverageRatio : Option ℚ
  definitionVersion : String
  exclusionReason : Option ExclusionReason
  statusLabel : String

def metricStatusRow (metric : DailyMetric) : MetricStatusRow where
  repositoryFullName := metric.repositoryFullName
  dateDay := metric.dateDay
  metricName := metric.metricName
  metricValue := metric.metricValue
  measurementStatus := metric.measurementStatus
  coverageNumerator := metric.coverageNumerator
  coverageDenominator := metric.coverageDenominator
  coverageRatio := metric.coverageRatio
  definitionVersion := metric.definitionVersion
  exclusionReason := metric.exclusionReason
  statusLabel := statusLabel metric.measurementStatus

def MetricStatusRow.grain (row : MetricStatusRow) : Option String × Int × String :=
  (row.repositoryFullName, row.dateDay, row.metricName.name)

/-- `order by repository_full_name, metric_name` -/
def byNameAndMetric : DailyMetric → DailyMetric → Ordering :=
  compareLex (byText server (·.repositoryFullName))
    (byText server fun metric => some metric.metricName.name)

instance : Std.TransCmp (byNameAndMetric server) := inferInstanceAs (Std.TransCmp (compareLex _ _))

/-- The reported metrics with their `row_number()` in their status. -/
def numberedMetrics (daily : List DailyMetric) : List (DailyMetric × Nat) :=
  numbered (·.measurementStatus) (byNameAndMetric server) (reportedMetrics daily)

/-- The final `order by`. -/
def metricStatusOrder : DailyMetric × Nat → DailyMetric × Nat → Ordering :=
  compareLex (byNumber (·.2)) (compareLex (byNumber fun row => statusRank row.1.measurementStatus)
    (compareLex (byText server (·.1.repositoryFullName))
      (byText server fun row => some row.1.metricName.name)))

instance : Std.TransCmp (metricStatusOrder server) :=
  inferInstanceAs (Std.TransCmp (compareLex _ _))

/-- The result of the query. -/
def metricStatus (marts : Marts) : List MetricStatusRow :=
  (orderBy (metricStatusOrder server)
    (numberedMetrics server marts.fctDeliveryPerformanceDaily)).map
    fun (metric, _) => metricStatusRow metric

/-! ## `pr_flow_open_aging.sql` -/

/-- The CTE `params`: 2026-01-14 12:00 UTC. -/
def asOf : Timestamp := 20467 * Datetime.microsPerDay + 43200 * Datetime.microsPerSecond

/-- The place and the value of the first digit in base 10000 of a number of microseconds, in
seconds. -/
def secondsDigit (micros : Nat) : Int × Nat :=
  let (weight, digit) := firstDigit (micros * 100)
  if micros = 0 then (0, 0) else (weight - 2, digit)

/-- `extract(epoch from age) / 3600.0`: the dividend has six digits after the point. -/
def ageHours (micros : Nat) : ℚ :=
  let (weight, digit) := secondsDigit micros
  let quotient : Int := weight - (if digit ≤ 3600 then 1 else 0)
  roundedTo (max (16 - quotient * 4).toNat 6) ((micros : ℚ) / 1000000 / 3600)

/-- A row of `open_pull_requests`. -/
structure OpenPullRequest where
  repositoryFullName : Option String
  pullRequestNumber : Option Int
  title : Option String
  isDraft : Bool
  createdAt : Option Timestamp
  ageHours : Option ℚ
  hasEligibleReview : Bool
  reviewReworkCycleCount : Nat

def openPullRequest (fact : FctPullRequest) : OpenPullRequest where
  repositoryFullName := fact.repositoryFullName
  pullRequestNumber := fact.pullRequestNumber
  title := fact.title
  isDraft := fact.isDraft
  createdAt := fact.createdAt
  ageHours := fact.createdAt.map fun createdAt => ageHours (asOf - createdAt).toNat
  hasEligibleReview := fact.secondsToFirstReview.isSome
  reviewReworkCycleCount := fact.reviewReworkCycleCount

/-- The `where` clause of `open_pull_requests`. -/
def isOpenAsOf (fact : FctPullRequest) : Bool :=
  holds (equal fact.pullRequestState (some "open")) && holds (atMost fact.createdAt (some asOf))

def openPullRequests (facts : List FctPullRequest) : List OpenPullRequest :=
  (facts.filter isOpenAsOf).map openPullRequest

inductive AgingBucket
  | underOneDay
  | oneToThreeDays
  | threeToSevenDays
  | sevenDays
  deriving DecidableEq

def AgingBucket.text : AgingBucket → String
  | .underOneDay => "Under 1d"
  | .oneToThreeDays => "1–3d"
  | .threeToSevenDays => "3–7d"
  | .sevenDays => "7d+"

/-- `case when age_hours < 24 .. else '7d+' end` -/
def agingBucket (hours : Option ℚ) : AgingBucket :=
  if hours.any fun h => decide (h < 24) then .underOneDay
  else if hours.any fun h => decide (h < 72) then .oneToThreeDays
  else if hours.any fun h => decide (h < 168) then .threeToSevenDays
  else .sevenDays

structure OpenAgingRow where
  repositoryFullName : Option String
  pullRequestNumber : Option Int
  title : Option String
  isDraft : Bool
  createdAt : Option Timestamp
  asOf : Timestamp
  ageHours : Option ℚ
  agingBucket : AgingBucket
  reviewState : String
  reviewReworkCycleCount : Nat
  repositoryWip : Nat

def openAgingRow (all : List OpenPullRequest) (row : OpenPullRequest) : OpenAgingRow where
  repositoryFullName := row.repositoryFullName
  pullRequestNumber := row.pullRequestNumber
  title := row.title
  isDraft := row.isDraft
  createdAt := row.createdAt
  asOf := asOf
  ageHours := row.ageHours.map (roundedTo 1)
  agingBucket := agingBucket row.ageHours
  reviewState := if row.hasEligibleReview then "reviewed" else "awaiting_review"
  reviewReworkCycleCount := row.reviewReworkCycleCount
  -- `count(*) over (partition by repository_full_name)`
  repositoryWip := all.countP fun other => other.repositoryFullName = row.repositoryFullName

def OpenAgingRow.grain (row : OpenAgingRow) : Option String × Option Int :=
  (row.repositoryFullName, row.pullRequestNumber)

/-- The result of the query; `age_hours` in its `order by` is the rounded column. -/
def openAging (marts : Marts) : List OpenAgingRow :=
  orderBy (compareLex (byText server (·.repositoryFullName))
      (compareLex (descending compare (·.ageHours)) (ascending compare (·.pullRequestNumber))))
    ((openPullRequests marts.fctPullRequests).map
      (openAgingRow (openPullRequests marts.fctPullRequests)))

example : Datetime.civilOfDays (utcDate asOf) = ⟨2026, 1, 14⟩ := by decide

/-! ## `pr_flow_review_latency_distribution.sql` -/

/-- `seconds_to_first_review / 3600.0`: the divisor has one digit after the point. -/
def reviewLatencyHours (seconds : Int) : ℚ :=
  roundedTo (max (divisionScale seconds 3600) 1) ((seconds : ℚ) / 3600)

inductive LatencyBucket
  | underFour
  | fourToTwelve
  | twelveToTwentyFour
  | twentyFourToFortyEight
  | fortyEight
  deriving DecidableEq

def LatencyBucket.text : LatencyBucket → String
  | .underFour => "Under 4h"
  | .fourToTwelve => "4–12h"
  | .twelveToTwentyFour => "12–24h"
  | .twentyFourToFortyEight => "24–48h"
  | .fortyEight => "48h+"

def LatencyBucket.order : LatencyBucket → Nat
  | .underFour => 1
  | .fourToTwelve => 2
  | .twelveToTwentyFour => 3
  | .twentyFourToFortyEight => 4
  | .fortyEight => 5

/-- The two `case` expressions, which test the same conditions. -/
def latencyBucket (hours : ℚ) : LatencyBucket :=
  if hours < 4 then .underFour
  else if hours < 12 then .fourToTwelve
  else if hours < 24 then .twelveToTwentyFour
  else if hours < 48 then .twentyFourToFortyEight
  else .fortyEight

/-- `group by repository_full_name, latency_bucket, bucket_order` -/
structure LatencyGroup where
  repositoryFullName : Option String
  latencyBucket : LatencyBucket
  deriving DecidableEq

def LatencyGroup.grain (group : LatencyGroup) : Option String × String :=
  (group.repositoryFullName, group.latencyBucket.text)

/-- The rows of `bucketed`. -/
def bucketed (facts : List FctPullRequest) : List LatencyGroup :=
  facts.filterMap fun fact =>
    if fact.isDraft then none
    else fact.secondsToFirstReview.map fun seconds =>
      ⟨fact.repositoryFullName, latencyBucket (reviewLatencyHours seconds)⟩

/-- The result of the query: the groups and `count(*)`. -/
def reviewLatencyDistribution (marts : Marts) : List (LatencyGroup × Nat) :=
  orderBy (compareLex (byText server (·.1.repositoryFullName))
      (byNumber (·.1.latencyBucket.order)))
    (groupBy id List.length (bucketed marts.fctPullRequests))

/-! ## `pr_flow_review_rework.sql` -/

/-- `group by repository_full_name, review_rework_cycle_count` -/
structure ReworkGroup where
  repositoryFullName : Option String
  reviewReworkCycleCount : Nat
  deriving DecidableEq

def reworkGroup (fact : FctPullRequest) : ReworkGroup :=
  ⟨fact.repositoryFullName, fact.reviewReworkCycleCount⟩

/-- The CTE `distribution`. -/
def reworkDistribution (facts : List FctPullRequest) : List (ReworkGroup × Nat) :=
  groupBy reworkGroup List.length
    (facts.filter fun fact => !fact.isDraft && decide (0 < fact.eligibleReviewCount))

structure ReworkRow where
  repositoryFullName : Option String
  reviewReworkCycleCount : Nat
  pullRequestCount : Nat
  repositoryShare : ℚ

/-- `sum(pull_request_count) over (partition by repository_full_name)` -/
def repositoryTotal (distribution : List (ReworkGroup × Nat)) (name : Option String) : Nat :=
  ((distribution.filter fun row => row.1.repositoryFullName = name).map (·.2)).sum

def reworkRow (distribution : List (ReworkGroup × Nat)) (row : ReworkGroup × Nat) :
    ReworkRow where
  repositoryFullName := row.1.repositoryFullName
  reviewReworkCycleCount := row.1.reviewReworkCycleCount
  pullRequestCount := row.2
  repositoryShare := roundedTo 4
    (numericDivision row.2 (repositoryTotal distribution row.1.repositoryFullName))

def ReworkRow.grain (row : ReworkRow) : Option String × Nat :=
  (row.repositoryFullName, row.reviewReworkCycleCount)

/-- The result of the query. -/
def reviewRework (marts : Marts) : List ReworkRow :=
  orderBy (compareLex (byText server (·.repositoryFullName)) (byNumber (·.reviewReworkCycleCount)))
    ((reworkDistribution marts.fctPullRequests).map
      (reworkRow (reworkDistribution marts.fctPullRequests)))

/-! ## The other three cards in their order -/

def LeadTimeRow.grain (row : LeadTimeRow) : Option String × Int × String :=
  (row.repositoryFullName, row.dateDay, row.percentileName.text)

/-- `changeLeadTime` in the order of the query. -/
def changeLeadTimeCard (marts : Marts) : List LeadTimeRow :=
  orderBy (compareLex (byText server (·.repositoryFullName))
      (compareLex (byNumber (·.dateDay)) (byText server fun row => some row.percentileName.text)))
    (changeLeadTime doubles server marts)

def CycleTimeGroup.grain (group : CycleTimeGroup) : Option String × Option Int × String :=
  (group.repositoryFullName, group.dateDay, group.sizeBand.text)

/-- `cycleTime` in the order of the query. -/
def cycleTimeCard (marts : Marts) : List (CycleTimeGroup × CycleTimes) :=
  orderBy (compareLex (byText server (·.1.repositoryFullName))
      (compareLex (ascending compare (·.1.dateDay)) (byNumber (·.1.sizeBand.order))))
    (cycleTime doubles server marts)

def ReviewLatencyGroup.grain (group : ReviewLatencyGroup) : Option String × Option Int :=
  (group.repositoryFullName, group.dateDay)

/-- `reviewLatencyTrend` in the order of the query. -/
def reviewLatencyTrendCard (marts : Marts) : List (ReviewLatencyGroup × ReviewLatencies) :=
  orderBy (compareLex (byText server (·.1.repositoryFullName)) (ascending compare (·.1.dateDay)))
    (reviewLatencyTrend doubles server marts)

end Dashboards
