import DeliveryIntelligence.Dashboards.LocalDates
import Mathlib.Data.List.Sort

set_option autoImplicit false

/-!
# The lead-time card

The card joins the percentiles of the changes to the daily metric by repository and date, but
groups the changes by the name of the repository as well, and the name is that of the latest
snapshot of each pull request. `leadTimeCard_iff`: the card agrees with the daily fact exactly if
on no date two eligible changes of one configured repository carry different names.
-/

namespace Dashboards

open Postgres Query Dbt
open RawEvents (RawEvent)

variable {Double : Type} {doubles : Doubles Double} {server : Server} {seed : Seed}
  {staged : Staged}

/-! ## The rows of one metric row -/

/-- The metric row is of this repository and this date. -/
def isMetricOf (metric other : DailyMetric) : Bool :=
  decide (other.repositoryId = metric.repositoryId) && decide (other.dateDay = metric.dateDay)

/-- The rows of the card for a repository, a date and a percentile. -/
def rowsOf (doubles : Doubles Double) (server : Server) (marts : Marts) (metric : DailyMetric)
    (name : PercentileName) : List LeadTimeRow :=
  ((leadTimeJoined doubles server marts.fctPullRequests marts.dimRepository
    marts.fctDeliveryPerformanceDaily).filter fun joined =>
      isMetricOf metric joined.metric && decide (joined.percentileName = name)).map
    (leadTimeRow doubles)

/-- The repository of the metric row is configured. -/
def IsConfigured (marts : Marts) (metric : DailyMetric) : Prop :=
  ∃ repository ∈ marts.dimRepository, repository.repositoryId = metric.repositoryId
    ∧ repository.isMetricConfigured = true

/-- The card has one row for each metric row of `change_lead_time` and each percentile, and where
the repository is configured the row counts the changes the metric row counts. -/
structure LeadTimeCardAgrees (doubles : Doubles Double) (server : Server) (marts : Marts) :
    Prop where
  one_row : ∀ metric ∈ marts.fctDeliveryPerformanceDaily, metric.metricName = .changeLeadTime →
    ∀ name, (rowsOf doubles server marts metric name).length = 1
  count_eq : ∀ metric ∈ marts.fctDeliveryPerformanceDaily, metric.metricName = .changeLeadTime →
    IsConfigured marts metric → ∀ name, ∀ row ∈ rowsOf doubles server marts metric name,
      row.linkedChangeCount = metric.coverageNumerator

/-- The eligible changes of a repository that merged on one of its dates. -/
def eligibleOn (server : Server) (marts : Marts) (repository : DimRepository) (day : Int) :
    List FctPullRequest :=
  marts.fctPullRequests.filter fun fact =>
    (decide (fact.repositoryId = repository.repositoryId) && holds fact.isEligibleChange)
      && decide (mergeDate server fact repository = some day)

/-- On no date of `dim_date` two eligible changes of a configured repository carry different
names. -/
def NamesAgree (server : Server) (marts : Marts) : Prop :=
  ∀ repository ∈ marts.dimRepository, repository.isMetricConfigured = true →
    ∀ date ∈ marts.dimDate, ∀ a ∈ eligibleOn server marts repository date.dateDay,
      ∀ b ∈ eligibleOn server marts repository date.dateDay,
        a.repositoryFullName = b.repositoryFullName

/-- The groups a metric row is joined with. -/
def onGroup (metric : DailyMetric) (group : ChangeGroup) : Bool :=
  decide (metric.repositoryId = group.repositoryId)
    && holds (equal (some metric.dateDay) group.dateDay)

theorem onGroup_iff {metric : DailyMetric} {group : ChangeGroup} :
    onGroup metric group = true
      ↔ metric.repositoryId = group.repositoryId ∧ group.dateDay = some metric.dateDay := by
  unfold onGroup
  rw [Bool.and_eq_true, decide_eq_true_iff, holds_equal]
  exact and_congr_right fun _ => ⟨fun ⟨x, hx, hday⟩ => by rw [hday, hx], fun h => ⟨_, rfl, h⟩⟩

/-- The fact has one row of a metric for each repository and date. -/
theorem filter_metric {metric : DailyMetric}
    (hmetric : metric ∈ (build server seed staged).fctDeliveryPerformanceDaily) :
    (build server seed staged).fctDeliveryPerformanceDaily.filter
        (fun other => isMetricOf metric other && decide (other.metricName = metric.metricName))
      = [metric] := by
  obtain ⟨repository, hrepository, date, hdate, name, rfl⟩ := mem_build_daily.mp hmetric
  have hdates : (build server seed staged).dimDate.filter
      (fun other => other.dateDay = date.dateDay) = [date] :=
    filter_key_of_nodup (dates_nodup server seed staged) hdate
  have hsplit : ∀ other : DailyMetric, (isMetricOf (dailyMetric (inputsOn server
        (build server seed staged).fctDeployments (build server seed staged).fctPullRequests
        (build server seed staged).dimRepository ⟨repository, date⟩) name) other
        && decide (other.metricName = name))
      = (decide (other.dateDay = date.dateDay)
        && (decide (other.repositoryId = repository.repositoryId)
          && decide (other.metricName = name))) := by
    intro other
    show (decide (other.repositoryId = repository.repositoryId)
      && decide (other.dateDay = date.dateDay) && _) = _
    rw [Bool.and_comm (decide _) (decide (other.dateDay = date.dateDay)), Bool.and_assoc]
  show List.filter (fun other => isMetricOf _ other && decide (other.metricName = name)) _ = _
  simp only [hsplit]
  rw [← List.filter_filter, build_fctDeliveryPerformanceDaily,
    filter_daily (repositories_nodup server seed staged) hrepository, List.filter_map]
  show List.map _ ((build server seed staged).dimDate.filter
    fun other => decide (other.dateDay = date.dateDay)) = _
  rw [hdates]
  rfl

/-- The rows of the card for a metric row are those of its left join. -/
theorem rowsOf_eq {metric : DailyMetric}
    (hmetric : metric ∈ (build server seed staged).fctDeliveryPerformanceDaily)
    (hname : metric.metricName = .changeLeadTime) (name : PercentileName) :
    rowsOf doubles server (build server seed staged) metric name
      = (leftJoin onRepositoryDate [metric] (dailyPercentiles doubles server
          (build server seed staged).fctPullRequests
          (build server seed staged).dimRepository)).map
        fun row => leadTimeRow doubles ⟨row.1, row.2, name⟩ := by
  -- of the two percentiles of a joined row the condition leaves one
  have hpair : ∀ row : DailyMetric × Option (ChangeGroup × LeadTimePercentiles Double),
      [(⟨row.1, row.2, .p50⟩ : LeadTimeJoined Double), ⟨row.1, row.2, .p90⟩].filter
          (fun joined => isMetricOf metric joined.metric
            && decide (joined.percentileName = name))
        = ([row].filter fun row => isMetricOf metric row.1).map
          fun row => (⟨row.1, row.2, name⟩ : LeadTimeJoined Double) := by
    intro row
    cases hon : isMetricOf metric row.1 with
    | false => simp [hon]
    | true => cases name <;> simp [hon]
  have hone := filter_metric hmetric
  rw [hname] at hone
  unfold rowsOf leadTimeJoined
  rw [List.filter_flatMap]
  simp only [hpair]
  rw [← List.map_flatMap, ← List.filter_flatMap, List.flatMap_singleton', filter_leftJoin,
    List.filter_filter, hone, List.map_map]
  rfl

theorem length_rowsOf_iff {metric : DailyMetric}
    (hmetric : metric ∈ (build server seed staged).fctDeliveryPerformanceDaily)
    (hname : metric.metricName = .changeLeadTime) (name : PercentileName) :
    (rowsOf doubles server (build server seed staged) metric name).length = 1
      ↔ ∀ a ∈ eligibleChanges server (build server seed staged).fctPullRequests
            (build server seed staged).dimRepository,
          ∀ b ∈ eligibleChanges server (build server seed staged).fctPullRequests
            (build server seed staged).dimRepository,
          onGroup metric a.group = true → onGroup metric b.group = true → a.group = b.group := by
  rw [rowsOf_eq hmetric hname, List.length_map, length_leftJoin_singleton]
  exact length_filter_groupBy_le_one_iff (p := onGroup metric)

/-! ## The changes of one metric row -/

theorem mem_eligibleChanges {pullRequests : List FctPullRequest}
    {repositories : List DimRepository} {change : EligibleChange} :
    change ∈ eligibleChanges server pullRequests repositories
      ↔ ∃ fact ∈ pullRequests, ∃ repository ∈ repositories,
          fact.repositoryId = repository.repositoryId ∧ holds fact.isEligibleChange = true
          ∧ change = eligibleChange server fact repository := by
  unfold eligibleChanges
  rw [List.mem_map]
  constructor
  · rintro ⟨⟨fact, repository⟩, hmem, rfl⟩
    obtain ⟨hjoined, heligible⟩ := List.mem_filter.mp hmem
    obtain ⟨hfact, hrepository, hid⟩ := mem_withRepository.mp hjoined
    exact ⟨fact, hfact, repository, hrepository, hid, heligible, rfl⟩
  · rintro ⟨fact, hfact, repository, hrepository, hid, heligible, rfl⟩
    exact ⟨(fact, repository), List.mem_filter.mpr
      ⟨mem_withRepository.mpr ⟨hfact, hrepository, hid⟩, heligible⟩, rfl⟩

/-- Where the repository has a time zone, the card and the daily fact have the same dates. -/
theorem repositoryDate_eq_mergeDate {repository : DimRepository}
    (hzone : repository.repositoryTimezone.isSome) (fact : FctPullRequest) :
    repositoryDate server repository fact.mergedAt = mergeDate server fact repository := by
  obtain ⟨zone, hzone⟩ := Option.isSome_iff_exists.mp hzone
  unfold repositoryDate mergeDate DimRepository.timezone
  rw [hzone]
  cases fact.mergedAt <;> rfl

/-- A change that is joined to a metric row is one of a configured repository. -/
theorem isConfigured_of_onGroup (htests : seed.Tests) {metric : DailyMetric}
    {fact : FctPullRequest} {repository : DimRepository}
    (hrepository : repository ∈ (build server seed staged).dimRepository)
    (h : onGroup metric (eligibleChange server fact repository).group = true) :
    repository.isMetricConfigured = true := by
  have hdate : repositoryDate server repository fact.mergedAt = some metric.dateDay :=
    (onGroup_iff.mp h).2
  rw [← timezone_isSome_iff htests hrepository]
  cases hzone : repository.repositoryTimezone with
  | some zone => rfl
  | none =>
      unfold repositoryDate at hdate
      rw [hzone] at hdate
      cases hdate

section

variable {repository : DimRepository} (metric : DailyMetric)

/-- The changes that are joined to a metric row of a configured repository are its eligible
changes on that date. -/
theorem onGroup_iff_eligibleOn (htests : seed.Tests)
    (hrepository : repository ∈ (build server seed staged).dimRepository)
    (hconfigured : repository.isMetricConfigured = true)
    (hid : metric.repositoryId = repository.repositoryId) (change : EligibleChange) :
    change ∈ eligibleChanges server (build server seed staged).fctPullRequests
        (build server seed staged).dimRepository ∧ onGroup metric change.group = true
      ↔ ∃ fact ∈ eligibleOn server (build server seed staged) repository metric.dateDay,
          change = eligibleChange server fact repository := by
  have hzone := (timezone_isSome_iff htests hrepository).mpr hconfigured
  rw [mem_eligibleChanges]
  constructor
  · rintro ⟨⟨fact, hfact, other, hother, hsame, heligible, rfl⟩, hon⟩
    obtain ⟨hmetricId, hday⟩ := onGroup_iff.mp hon
    have hfactId : metric.repositoryId = fact.repositoryId := hmetricId
    obtain rfl : other = repository := List.inj_on_of_nodup_map
      (repositories_nodup server seed staged) hother hrepository
      (hsame.symm.trans (hfactId.symm.trans hid))
    have hdate : repositoryDate server other fact.mergedAt = some metric.dateDay := hday
    rw [repositoryDate_eq_mergeDate hzone] at hdate
    refine ⟨fact, List.mem_filter.mpr ⟨hfact, ?_⟩, rfl⟩
    rw [Bool.and_eq_true, Bool.and_eq_true]
    exact ⟨⟨decide_eq_true hsame, heligible⟩, decide_eq_true hdate⟩
  · rintro ⟨fact, hmem, rfl⟩
    obtain ⟨hfact, hon⟩ := List.mem_filter.mp hmem
    rw [Bool.and_eq_true, Bool.and_eq_true] at hon
    have hfactId := of_decide_eq_true hon.1.1
    refine ⟨⟨fact, hfact, repository, hrepository, hfactId, hon.1.2, rfl⟩, onGroup_iff.mpr ⟨?_, ?_⟩⟩
    · exact hid.trans hfactId.symm
    · exact (repositoryDate_eq_mergeDate hzone fact).trans (of_decide_eq_true hon.2)

/-- Those of them that are linked are as many as the metric row counts. -/
theorem countP_onGroup (htests : seed.Tests)
    (hrepository : repository ∈ (build server seed staged).dimRepository)
    (hconfigured : repository.isMetricConfigured = true)
    (hid : metric.repositoryId = repository.repositoryId) :
    ((eligibleChanges server (build server seed staged).fctPullRequests
        (build server seed staged).dimRepository).filter fun change =>
          onGroup metric change.group).countP (·.isChangeLinked)
      = (linkedOn server seed staged repository metric.dateDay).length := by
  have hzone := (timezone_isSome_iff htests hrepository).mpr hconfigured
  have hcount : ((eligibleChanges server (build server seed staged).fctPullRequests
        (build server seed staged).dimRepository).filter fun change =>
          onGroup metric change.group).countP (·.isChangeLinked)
      = ((withRepository (build server seed staged).fctPullRequests
          (build server seed staged).dimRepository).filter fun pair =>
          decide ((pair.1.repositoryId, repositoryDate server pair.2 pair.1.mergedAt)
            = (repository.repositoryId, some metric.dateDay))).countP
          fun pair => pair.1.isLinkedChange := by
    unfold eligibleChanges
    rw [List.filter_map, List.countP_map, List.filter_filter, List.countP_filter,
      List.countP_filter]
    apply List.countP_congr
    rintro ⟨fact, other⟩ -
    -- the same conditions, tested in another order
    have hon : onGroup metric (eligibleChange server fact other).group
        = decide ((fact.repositoryId, repositoryDate server other fact.mergedAt)
          = (repository.repositoryId, some metric.dateDay)) := by
      rw [Bool.eq_iff_iff, onGroup_iff, decide_eq_true_iff, Prod.mk.injEq, hid]
      exact and_congr_left fun _ => eq_comm
    simp only [Function.comp_apply, hon, FctPullRequest.isLinkedChange, Bool.and_eq_true]
    show fact.isChangeLinked = true ∧ _ ∧ _ ↔ _
    tauto
  rw [hcount]
  refine (countP_joined (fun fact other => repositoryDate server other fact.mergedAt)
    FctPullRequest.isLinkedChange (repositories_nodup server seed staged)
    (fctPullRequest_known server seed staged) hrepository).trans ?_
  unfold linkedOn
  rw [List.countP_eq_length_filter]
  simp only [repositoryDate_eq_mergeDate hzone]

end

/-- Where the changes of a metric row of a configured repository are in one group, the row of the
card counts them as the metric row does. -/
theorem linkedChangeCount_of_one_group (htests : seed.Tests) {metric : DailyMetric}
    (hmetric : metric ∈ (build server seed staged).fctDeliveryPerformanceDaily)
    (hname : metric.metricName = .changeLeadTime)
    (hconfigured : IsConfigured (build server seed staged) metric)
    (hone : ∀ a ∈ eligibleChanges server (build server seed staged).fctPullRequests
          (build server seed staged).dimRepository,
        ∀ b ∈ eligibleChanges server (build server seed staged).fctPullRequests
          (build server seed staged).dimRepository,
        onGroup metric a.group = true → onGroup metric b.group = true → a.group = b.group)
    {name : PercentileName} {row : LeadTimeRow}
    (hrow : row ∈ rowsOf doubles server (build server seed staged) metric name) :
    row.linkedChangeCount = metric.coverageNumerator := by
  obtain ⟨configured, hmemConfigured, hsameId, hconfigured⟩ := hconfigured
  obtain ⟨repository, hrepository, date, -, metricName, rfl⟩ := mem_build_daily.mp hmetric
  obtain rfl : metricName = .changeLeadTime := hname
  obtain rfl : configured = repository := List.inj_on_of_nodup_map
    (repositories_nodup server seed staged) hmemConfigured hrepository hsameId
  have hcount := countP_onGroup (dailyMetric (inputsOn server
      (build server seed staged).fctDeployments (build server seed staged).fctPullRequests
      (build server seed staged).dimRepository ⟨configured, date⟩) .changeLeadTime)
    htests hrepository hconfigured rfl
  have hnumerator : (dailyMetric (inputsOn server
      (build server seed staged).fctDeployments (build server seed staged).fctPullRequests
      (build server seed staged).dimRepository ⟨configured, date⟩)
        .changeLeadTime).coverageNumerator
      = (linkedOn server seed staged configured date.dateDay).length :=
    linkedChangeCount_inputsOn hrepository
  rw [rowsOf_eq hmetric rfl] at hrow
  obtain ⟨⟨joinedMetric, percentiles⟩, hjoined, rfl⟩ := List.mem_map.mp hrow
  obtain ⟨hmem, hmatched⟩ := mem_leftJoin.mp hjoined
  obtain rfl := List.mem_singleton.mp hmem
  refine Eq.trans ?_ (hcount.trans hnumerator.symm)
  obtain ⟨hnone, hempty⟩ | ⟨⟨group, percentile⟩, hgroup, hon, hsome⟩ := hmatched
  · -- no group is joined, so there is no change
    obtain rfl : percentiles = none := hnone
    rw [filter_eq_nil_of_groupBy (p := onGroup _) hempty]
    rfl
  · obtain rfl : percentiles = some (group, percentile) := hsome
    rw [aggregate_of_mem_groupBy (p := onGroup _) hone hgroup hon]
    rfl

/-- **The lead-time card** agrees with the daily fact exactly if on no date two eligible changes
of a configured repository carry different names. -/
theorem leadTimeCard_iff (htests : seed.Tests) :
    LeadTimeCardAgrees doubles server (build server seed staged)
      ↔ NamesAgree server (build server seed staged) := by
  constructor
  · intro hcard repository hrepository hconfigured date hdate a ha b hb
    let metric := dailyMetric (inputsOn server (build server seed staged).fctDeployments
      (build server seed staged).fctPullRequests (build server seed staged).dimRepository
      ⟨repository, date⟩) .changeLeadTime
    have hmetric : metric ∈ (build server seed staged).fctDeliveryPerformanceDaily :=
      mem_build_daily.mpr ⟨repository, hrepository, date, hdate, _, rfl⟩
    have hgroups := (length_rowsOf_iff hmetric rfl .p50).mp (hcard.one_row metric hmetric rfl .p50)
    have hon : ∀ fact ∈ eligibleOn server (build server seed staged) repository date.dateDay,
        eligibleChange server fact repository ∈ eligibleChanges server
            (build server seed staged).fctPullRequests (build server seed staged).dimRepository
          ∧ onGroup metric (eligibleChange server fact repository).group = true := fun fact hfact =>
      (onGroup_iff_eligibleOn metric htests hrepository hconfigured rfl _).mpr ⟨fact, hfact, rfl⟩
    obtain ⟨hmemA, honA⟩ := hon a ha
    obtain ⟨hmemB, honB⟩ := hon b hb
    exact congrArg ChangeGroup.repositoryFullName (hgroups _ hmemA _ hmemB honA honB)
  · intro hnames
    -- the changes of one metric row are in one group
    have hone : ∀ metric ∈ (build server seed staged).fctDeliveryPerformanceDaily,
        ∀ a ∈ eligibleChanges server (build server seed staged).fctPullRequests
          (build server seed staged).dimRepository,
        ∀ b ∈ eligibleChanges server (build server seed staged).fctPullRequests
          (build server seed staged).dimRepository,
        onGroup metric a.group = true → onGroup metric b.group = true → a.group = b.group := by
      intro metric hmetric a ha b hb hona honb
      obtain ⟨repository, hrepository, date, hdate, name, rfl⟩ := mem_build_daily.mp hmetric
      obtain ⟨fact, hfact, other, hother, hsame, -, rfl⟩ := mem_eligibleChanges.mp ha
      have hconfiguredOther := isConfigured_of_onGroup htests hother hona
      have hid : repository.repositoryId = fact.repositoryId := (onGroup_iff.mp hona).1
      obtain rfl : other = repository := List.inj_on_of_nodup_map
        (repositories_nodup server seed staged) hother hrepository
        (hsame.symm.trans hid.symm)
      have hfacts := onGroup_iff_eligibleOn (dailyMetric (inputsOn server
          (build server seed staged).fctDeployments (build server seed staged).fctPullRequests
          (build server seed staged).dimRepository ⟨other, date⟩) name)
        htests hrepository hconfiguredOther rfl
      obtain ⟨factA, hfactA, heqA⟩ := (hfacts _).mp ⟨ha, hona⟩
      obtain ⟨factB, hfactB, rfl⟩ := (hfacts b).mp ⟨hb, honb⟩
      have hname := hnames other hrepository hconfiguredOther date hdate factA hfactA factB hfactB
      obtain ⟨hidA, hdayA⟩ := onGroup_iff.mp hona
      obtain ⟨hidB, hdayB⟩ := onGroup_iff.mp honb
      rw [heqA] at hidA hdayA ⊢
      exact ChangeGroup.ext (hidA.symm.trans hidB) hname (hdayA.trans hdayB.symm)
    constructor
    · intro metric hmetric hname name
      exact (length_rowsOf_iff hmetric hname name).mpr (hone metric hmetric)
    · intro metric hmetric hname hconfigured name row hrow
      exact linkedChangeCount_of_one_group htests hmetric hname hconfigured
        (hone metric hmetric) hrow

/-- A second pull request of the repository, created at 9 and merged at 12, and the name the
repository had at its event. -/
def alsoAtNoon (repositoryFullName : String) : List RawEvent :=
  [ { demoEvent 21 "pull_request" 0 [] with
      payload := .object
        [("repository", .object [("full_name", .string repositoryFullName)]),
          ("pull_request", .object
            [("number", .number 18 0), ("node_id", .string "PR_18"), ("state", .string "closed"),
              ("created_at", .string "2026-07-24T09:00:00Z"),
              ("merged_at", .string "2026-07-24T12:00:00Z"),
              ("merge_commit_sha", .string "def")])] } ]

/-- The queries in exact arithmetic: the percentile lies between two neighbours in the order of the
values, and there is none of no values. -/
def exactDoubles : Doubles ℚ where
  percentileCont percent values :=
    let sorted := values.insertionSort (· ≤ ·)
    let offset := percent * (values.length - 1)
    (sorted[offset / 100]?).map fun lower =>
      lower + ((offset % 100 : Nat) / 100 : ℚ) * (sorted.getD (offset / 100 + 1) lower - lower)
  hours seconds := roundedTo 2 (seconds / 3600)

example : exactDoubles.percentileCont 90 [3, 1, 2] = some (14 / 5)
    ∧ exactDoubles.percentileCont 50 [] = none := by
  decide +kernel

/-- Two changes of one day carry the two names of their repository: the card has two rows for each
percentile. -/
theorem renamed_two_rows :
    ∃ staged, staging hourServer (mergedAtNoon ++ alsoAtNoon "example-org/delivery") = .ok staged
      ∧ (demoSeed "UTC").Tests
      ∧ (∃ metric ∈ (build hourServer (demoSeed "UTC") staged).fctDeliveryPerformanceDaily,
          metric.metricName = .changeLeadTime
          ∧ (rowsOf exactDoubles hourServer (build hourServer (demoSeed "UTC") staged) metric
              .p50).length = 2)
      ∧ ¬ LeadTimeCardAgrees exactDoubles hourServer (build hourServer (demoSeed "UTC") staged) := by
  have hrun : ∃ staged,
      staging hourServer (mergedAtNoon ++ alsoAtNoon "example-org/delivery") = .ok staged
      ∧ ∃ metric ∈ (build hourServer (demoSeed "UTC") staged).fctDeliveryPerformanceDaily,
        metric.metricName = .changeLeadTime
        ∧ (rowsOf exactDoubles hourServer (build hourServer (demoSeed "UTC") staged) metric
            .p50).length = 2 := by
    decide +kernel
  obtain ⟨staged, h, metric, hmetric, hname, htwo⟩ := hrun
  refine ⟨staged, h, demoSeed_tests _, ⟨metric, hmetric, hname, htwo⟩, fun hcard => ?_⟩
  have hone := hcard.one_row metric hmetric hname .p50
  omega

/-- Two changes of one day under one name: the card agrees with the daily fact. -/
theorem leadTimeCard_iff_one_name :
    ∃ staged,
      staging hourServer (mergedAtNoon ++ alsoAtNoon "example-org/delivery-demo") = .ok staged
      ∧ (∃ metric ∈ (build hourServer (demoSeed "UTC") staged).fctDeliveryPerformanceDaily,
          metric.metricName = .changeLeadTime ∧ metric.coverageDenominator = 2)
      ∧ LeadTimeCardAgrees exactDoubles hourServer (build hourServer (demoSeed "UTC") staged) := by
  have hrun : ∃ staged,
      staging hourServer (mergedAtNoon ++ alsoAtNoon "example-org/delivery-demo") = .ok staged
      ∧ (∃ metric ∈ (build hourServer (demoSeed "UTC") staged).fctDeliveryPerformanceDaily,
          metric.metricName = .changeLeadTime ∧ metric.coverageDenominator = 2)
      ∧ ∀ fact ∈ (build hourServer (demoSeed "UTC") staged).fctPullRequests,
        fact.repositoryFullName = some "example-org/delivery-demo" := by
    decide +kernel
  obtain ⟨staged, h, htwo, hnames⟩ := hrun
  refine ⟨staged, h, htwo, (leadTimeCard_iff (demoSeed_tests _)).mpr ?_⟩
  intro repository _ _ date _ a ha b hb
  exact (hnames a (List.mem_filter.mp ha).1).trans (hnames b (List.mem_filter.mp hb).1).symm

end Dashboards
