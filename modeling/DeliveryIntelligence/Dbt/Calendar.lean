import DeliveryIntelligence.Dbt.Rows

set_option autoImplicit false

/-!
# What the reporting calendar holds

`fct_delivery_performance_daily` counts releases and changes by the date they have in the time
zone of their repository, but its dates come from `dim_date`, which runs from the first to the
last date that pull requests and production deployments have in UTC. Whatever falls on another
date is in no row of the fact. `nothingFallsOff_iff` says when nothing does, and
`release_falls_off` is a release that does.
-/

namespace Dbt

open Postgres Query
open RawEvents (RawEvent)

variable {server : Server}

/-! ## The dates of `dim_date` -/

/-- The dates between the first and the last observed date. -/
def OnCalendar (pullRequests : List PullRequest) (deployments : List ProductionDeployment)
    (day : Int) : Prop :=
  ∃ first ∈ observedDates pullRequests deployments,
    ∃ last ∈ observedDates pullRequests deployments, first ≤ day ∧ day ≤ last

theorem mem_dateSeries {startDate endDate day : Int} :
    day ∈ dateSeries startDate endDate ↔ startDate ≤ day ∧ day ≤ endDate := by
  unfold dateSeries
  rw [List.mem_map]
  constructor
  · rintro ⟨n, hn, rfl⟩
    have hlt := List.mem_range.mp hn
    omega
  · rintro ⟨hstart, hend⟩
    refine ⟨(day - startDate).toNat, List.mem_range.mpr ?_, ?_⟩ <;> omega

theorem mem_dimDate {pullRequests : List PullRequest} {deployments : List ProductionDeployment}
    {day : Int} :
    day ∈ (dimDate pullRequests deployments).map (·.dateDay)
      ↔ OnCalendar pullRequests deployments day := by
  have hvalues : ((observedDates pullRequests deployments).map some).reduceOption
      = observedDates pullRequests deployments := by
    have hsome : ((observedDates pullRequests deployments).map fun day =>
        some (id day)).reduceOption = (observedDates pullRequests deployments).map id :=
      reduceOption_map_some
    rwa [List.map_id] at hsome
  unfold dimDate OnCalendar minimum maximum
  simp only [hvalues]
  split
  · rename_i startDate endDate hstart hend
    have hfirst : ∀ day ∈ observedDates pullRequests deployments, startDate ≤ day :=
      fun day hday => Std.isLE_compare.mp (firstBy_isLE hstart day hday)
    have hlast : ∀ day ∈ observedDates pullRequests deployments, day ≤ endDate :=
      fun day hday => Std.isLE_compare.mp (firstBy_isLE hend day hday)
    have hdays : ((dateSeries startDate endDate).map fun day =>
        (⟨dateKey day, day⟩ : DimDate)).map (·.dateDay) = dateSeries startDate endDate := by
      rw [List.map_map]
      exact List.map_id _
    rw [hdays, mem_dateSeries]
    constructor
    · rintro ⟨hstartDay, hdayEnd⟩
      exact ⟨startDate, firstBy_mem hstart, endDate, firstBy_mem hend, hstartDay, hdayEnd⟩
    · rintro ⟨first, hfirstMem, last, hlastMem, hday⟩
      have hstartFirst := hfirst first hfirstMem
      have hlastEnd := hlast last hlastMem
      constructor <;> omega
  · rename_i hnone
    constructor
    · intro hday
      cases hday
    · rintro ⟨first, hfirstMem, -⟩
      obtain ⟨startDate, hstart⟩ := exists_firstBy compare hfirstMem
      obtain ⟨endDate, hend⟩ := exists_firstBy (fun a b => compare b a) hfirstMem
      exact (hnone startDate endDate hstart hend).elim

/-! ## The rows of one repository and one metric -/

section

variable {deployments : List FctDeployment} {pullRequests : List FctPullRequest}
  {repositories : List DimRepository} {dates : List DimDate}

/-- The inputs of one repository and one date. -/
def inputsOn (server : Server) (deployments : List FctDeployment)
    (pullRequests : List FctPullRequest) (repositories : List DimRepository)
    (row : RepositoryDate) : DailyInputs :=
  dailyInput row ((deploymentDaily server deployments repositories).find? (isOn row))
    ((changeDaily server pullRequests repositories).find? (isOn row))

/-- The fact has one row for each date of `dim_date`. -/
theorem filter_daily {repository : DimRepository}
    (hdistinct : (repositories.map (·.repositoryId)).Nodup) (hrepository : repository ∈ repositories)
    (metric : MetricName) :
    (fctDeliveryPerformanceDaily server deployments pullRequests repositories dates).filter
        (fun row => row.repositoryId = repository.repositoryId && row.metricName = metric)
      = dates.map fun date => dailyMetric
          (inputsOn server deployments pullRequests repositories ⟨repository, date⟩) metric := by
  have hmetrics : ∀ inputs : DailyInputs, (metricNames.map (dailyMetric inputs)).filter
        (fun row => row.repositoryId = repository.repositoryId && row.metricName = metric)
      = if inputs.repository.repositoryId = repository.repositoryId then
          [dailyMetric inputs metric]
        else [] := by
    intro inputs
    unfold metricNames
    by_cases hid : inputs.repository.repositoryId = repository.repositoryId
    · cases metric <;> simp [dailyMetric, hid]
    · cases metric <;> simp [dailyMetric, hid]
  have hrows : (fctDeliveryPerformanceDaily server deployments pullRequests repositories
        dates).filter
        (fun row => row.repositoryId = repository.repositoryId && row.metricName = metric)
      = repositories.flatMap fun other => dates.flatMap fun date =>
          if other.repositoryId = repository.repositoryId then
            [dailyMetric (inputsOn server deployments pullRequests repositories ⟨other, date⟩)
              metric]
          else [] := by
    unfold fctDeliveryPerformanceDaily
    rw [dailyInputs_eq, List.flatMap_map, List.filter_flatMap]
    simp only [hmetrics]
    unfold repositoryDates
    rw [List.flatMap_assoc]
    simp only [List.flatMap_map]
    rfl
  rw [hrows, flatMap_of_nodup hdistinct hrepository]
  · simp only [if_true]
    exact List.map_eq_flatMap.symm
  · intro other _ hne
    simp [hne]

/-- The facts of one repository that the daily groups hold on one date. -/
theorem filter_joined {α : Type} {repositoryId : α → Int}
    (date : α → DimRepository → Option Int) (p : α → Bool) (day : Int) {facts : List α}
    {repository : DimRepository}
    (hdistinct : (repositories.map (·.repositoryId)).Nodup)
    (hknown : ∀ fact ∈ facts, repositoryId fact ∈ repositories.map (·.repositoryId))
    (hrepository : repository ∈ repositories) :
    (((innerJoin (fun fact (repository : DimRepository) =>
        decide (repositoryId fact = repository.repositoryId)) facts repositories).filter
        fun (fact, other) => decide ((repositoryId fact, date fact other)
          = (repository.repositoryId, some day))).filter (fun (fact, _) => p fact)).map Prod.fst
      = facts.filter fun fact => (decide (repositoryId fact = repository.repositoryId) && p fact)
          && decide (date fact repository = some day) := by
  have hjoined := map_fst_joinRepository repositoryId hdistinct hknown
  -- of the joined repositories only the one with the id of the fact matters
  have hsame : ∀ joined ∈ innerJoin (fun fact (repository : DimRepository) =>
      decide (repositoryId fact = repository.repositoryId)) facts repositories,
      repositoryId joined.1 = repository.repositoryId → joined.2 = repository := by
    intro joined hmem hid
    obtain ⟨-, hother, hon⟩ := mem_innerJoin.mp hmem
    exact List.inj_on_of_nodup_map hdistinct hother hrepository
      ((of_decide_eq_true hon).symm.trans hid)
  rw [List.filter_filter]
  conv_rhs => rw [← hjoined, List.filter_map]
  refine congrArg (List.map Prod.fst) (List.filter_congr ?_)
  rintro ⟨fact, other⟩ hmem
  by_cases hid : repositoryId fact = repository.repositoryId
  · have heq : other = repository := hsame (fact, other) hmem hid
    subst heq
    simp [hid]
  · simp [hid]

/-- The facts of one repository that the daily groups count on one date. -/
theorem countP_joined {α : Type} {repositoryId : α → Int}
    (date : α → DimRepository → Option Int) (p : α → Bool) {facts : List α}
    {repository : DimRepository} {day : Int}
    (hdistinct : (repositories.map (·.repositoryId)).Nodup)
    (hknown : ∀ fact ∈ facts, repositoryId fact ∈ repositories.map (·.repositoryId))
    (hrepository : repository ∈ repositories) :
    ((innerJoin (fun fact (repository : DimRepository) =>
        decide (repositoryId fact = repository.repositoryId)) facts repositories).filter
        fun (fact, other) => decide ((repositoryId fact, date fact other)
          = (repository.repositoryId, some day))).countP (fun (fact, _) => p fact)
      = facts.countP fun fact => (decide (repositoryId fact = repository.repositoryId) && p fact)
          && decide (date fact repository = some day) := by
  have hlength := congrArg List.length (filter_joined date p day hdistinct hknown hrepository)
  rw [List.length_map] at hlength
  rw [List.countP_eq_length_filter, List.countP_eq_length_filter]
  exact hlength

/-- The successful deployments of one date are the measured rows of `fct_deployments` on it. -/
theorem successfulDeploymentCount_inputsOn {repository : DimRepository} {date : DimDate}
    (hdistinct : (repositories.map (·.repositoryId)).Nodup)
    (hknown : ∀ row ∈ deployments, row.repositoryId ∈ repositories.map (·.repositoryId))
    (hrepository : repository ∈ repositories) :
    (inputsOn server deployments pullRequests repositories
        ⟨repository, date⟩).successfulDeploymentCount
      = deployments.countP fun row =>
          (decide (row.repositoryId = repository.repositoryId) && row.isMeasured)
            && decide (deploymentDate server row repository = some date.dateDay) := by
  show (((deploymentDaily server deployments repositories).find? (isOn ⟨repository, date⟩)).map
    (·.2.successfulDeploymentCount)).getD 0 = _
  rw [isOn_eq]
  unfold deploymentDaily
  rw [getD_find?_groupBy (f := DeploymentDaily.successfulDeploymentCount) rfl]
  exact countP_joined (deploymentDate server) FctDeployment.isMeasured hdistinct hknown hrepository

/-- The eligible changes of one date are the eligible rows of `fct_pull_requests` on it. -/
theorem eligibleChangeCount_inputsOn {repository : DimRepository} {date : DimDate}
    (hdistinct : (repositories.map (·.repositoryId)).Nodup)
    (hknown : ∀ row ∈ pullRequests, row.repositoryId ∈ repositories.map (·.repositoryId))
    (hmerged : ∀ row ∈ pullRequests, holds row.isEligibleChange = true → row.mergedAt.isSome)
    (hrepository : repository ∈ repositories) :
    (inputsOn server deployments pullRequests repositories ⟨repository, date⟩).eligibleChangeCount
      = pullRequests.countP fun row =>
          (decide (row.repositoryId = repository.repositoryId) && holds row.isEligibleChange)
            && decide (mergeDate server row repository = some date.dateDay) := by
  show (((changeDaily server pullRequests repositories).find? (isOn ⟨repository, date⟩)).map
    (·.2.eligibleChangeCount)).getD 0 = _
  rw [isOn_eq]
  unfold changeDaily
  rw [getD_find?_groupBy (f := ChangeDaily.eligibleChangeCount) rfl]
  -- the query drops the pull requests that are not merged, and none of them is eligible
  have hdropped : ∀ onDate : FctPullRequest × DimRepository → Bool,
      (((innerJoin (fun (row : FctPullRequest) (other : DimRepository) =>
          decide (row.repositoryId = other.repositoryId)) pullRequests repositories).filter
          fun joined => joined.1.mergedAt.isSome).filter onDate).countP
          (fun joined => holds joined.1.isEligibleChange)
        = ((innerJoin (fun (row : FctPullRequest) (other : DimRepository) =>
          decide (row.repositoryId = other.repositoryId)) pullRequests repositories).filter
          onDate).countP (fun joined => holds joined.1.isEligibleChange) := by
    intro onDate
    rw [List.filter_filter, List.countP_filter, List.countP_filter]
    apply List.countP_congr
    rintro ⟨row, other⟩ hmem
    have hrow := hmerged row (mem_innerJoin.mp hmem).1
    cases heligible : holds row.isEligibleChange with
    | false => simp
    | true => simp [hrow heligible]
  exact (hdropped _).trans (countP_joined (mergeDate server)
    (fun row => holds row.isEligibleChange) hdistinct hknown hrepository)

end

/-- The rows of the daily fact are those of a repository, a date and a metric. -/
theorem mem_build_daily {server : Server} {seed : Seed} {staged : Staged} {row : DailyMetric} :
    row ∈ (build server seed staged).fctDeliveryPerformanceDaily
      ↔ ∃ repository ∈ (build server seed staged).dimRepository,
          ∃ date ∈ (build server seed staged).dimDate, ∃ metric,
            row = dailyMetric (inputsOn server (build server seed staged).fctDeployments
              (build server seed staged).fctPullRequests (build server seed staged).dimRepository
              ⟨repository, date⟩) metric := by
  rw [build_fctDeliveryPerformanceDaily]
  unfold fctDeliveryPerformanceDaily
  rw [dailyInputs_eq, List.flatMap_map, List.mem_flatMap]
  constructor
  · rintro ⟨⟨repository, date⟩, hpair, hrow⟩
    obtain ⟨metric, -, rfl⟩ := List.mem_map.mp hrow
    obtain ⟨found, hfound, hdate⟩ := List.mem_flatMap.mp hpair
    obtain ⟨foundDate, hfoundDate, heq⟩ := List.mem_map.mp hdate
    cases heq
    exact ⟨repository, hfound, date, hfoundDate, metric, rfl⟩
  · rintro ⟨repository, hrepository, date, hdate, metric, rfl⟩
    refine ⟨⟨repository, date⟩, List.mem_flatMap.mpr ⟨repository, hrepository,
      List.mem_map.mpr ⟨date, hdate, rfl⟩⟩, List.mem_map.mpr ⟨metric, ?_, rfl⟩⟩
    cases metric <;> decide

/-! ## What falls off -/

section

variable (server) (seed : Seed) (staged : Staged) (repositoryId : Int)

/-- `sum(metric_value)` over the dates of `deployment_frequency`. -/
def frequencyTotal : ℚ :=
  (((build server seed staged).fctDeliveryPerformanceDaily.filter fun row =>
    row.repositoryId = repositoryId && row.metricName = .deploymentFrequency).map
    (·.metricValue)).reduceOption.sum

/-- `sum(coverage_denominator)` over the dates of `change_lead_time`. -/
def coverageTotal : Nat :=
  (((build server seed staged).fctDeliveryPerformanceDaily.filter fun row =>
    row.repositoryId = repositoryId && row.metricName = .changeLeadTime).map
    (·.coverageDenominator)).sum

/-- The releases of a repository: the rows of `fct_deployments` that count. -/
def releases : Nat :=
  (build server seed staged).fctDeployments.countP fun row =>
    decide (row.repositoryId = repositoryId) && row.isMeasured

/-- The eligible changes of a repository. -/
def eligibleChanges : Nat :=
  (build server seed staged).fctPullRequests.countP fun row =>
    decide (row.repositoryId = repositoryId) && holds row.isEligibleChange

/-- Every release and every eligible change of a repository is in a row of the daily fact. -/
def NothingFallsOff : Prop :=
  frequencyTotal server seed staged repositoryId = releases server seed staged repositoryId
  ∧ coverageTotal server seed staged repositoryId = eligibleChanges server seed staged repositoryId

/-- A date between the first and the last UTC date of the pull requests and the production
deployments. -/
def InBounds (day : Int) : Prop :=
  OnCalendar (build server seed staged).intPrLifecycle
    (build server seed staged).intProductionDeployments day

/-- The releases and the merges of a repository have, in its own time zone, dates within the
bounds that UTC gives. -/
def DatesInBounds (timezone : String) : Prop :=
  (∀ row ∈ (build server seed staged).fctDeployments, row.repositoryId = repositoryId →
    row.isMeasured = true → ∃ t, row.successfulAt = some t
      ∧ InBounds server seed staged (localDate server timezone t))
  ∧ (∀ row ∈ (build server seed staged).fctPullRequests, row.repositoryId = repositoryId →
    holds row.isEligibleChange = true → ∃ t, row.mergedAt = some t
      ∧ InBounds server seed staged (localDate server timezone t))

variable {server seed staged}

theorem mem_dates {day : Int} :
    day ∈ (build server seed staged).dimDate.map (·.dateDay) ↔ InBounds server seed staged day := by
  rw [build_dimDate, mem_dimDate]
  exact Iff.rfl

/-- The daily fact sums to the releases whose local date is in `dim_date`. -/
theorem frequencyTotal_eq {repository : DimRepository}
    (hrepository : repository ∈ (build server seed staged).dimRepository)
    (hconfigured : repository.isMetricConfigured = true) :
    frequencyTotal server seed staged repository.repositoryId
      = ((build server seed staged).fctDeployments.countP fun row =>
          (decide (row.repositoryId = repository.repositoryId) && row.isMeasured)
            && (deploymentDate server row repository).any fun day =>
              decide (day ∈ (build server seed staged).dimDate.map (·.dateDay)) : Nat) := by
  have hvalue : ∀ inputs : DailyInputs, inputs.repository = repository →
      (dailyMetric inputs .deploymentFrequency).metricValue
        = some (inputs.successfulDeploymentCount : ℚ) := by
    rintro inputs rfl
    show (metricValue inputs .deploymentFrequency).map (roundedTo 6) = _
    unfold metricValue
    rw [if_pos hconfigured, Option.map_some, roundedTo_intCast]
    rfl
  have hvalues : ((build server seed staged).dimDate.map fun date => (dailyMetric
        (inputsOn server (build server seed staged).fctDeployments
          (build server seed staged).fctPullRequests (build server seed staged).dimRepository
          ⟨repository, date⟩) .deploymentFrequency).metricValue)
      = ((build server seed staged).dimDate.map (·.dateDay)).map fun day =>
          some ((((build server seed staged).fctDeployments.countP fun row =>
            (decide (row.repositoryId = repository.repositoryId) && row.isMeasured)
              && decide (deploymentDate server row repository = some day) : Nat) : ℚ)) := by
    rw [List.map_map]
    apply List.map_congr_left
    intro date _
    rw [hvalue _ rfl, successfulDeploymentCount_inputsOn (repositories_nodup server seed staged)
      (fctDeployment_known server seed staged) hrepository]
    rfl
  unfold frequencyTotal
  rw [build_fctDeliveryPerformanceDaily, filter_daily (repositories_nodup server seed staged)
    hrepository, List.map_map]
  show ((build server seed staged).dimDate.map fun date => (dailyMetric _ _).metricValue).reduceOption.sum
    = _
  rw [hvalues, ← sum_countP_of_nodup (dates_nodup server seed staged)]
  generalize (build server seed staged).dimDate.map (·.dateDay) = days
  rw [reduceOption_map_some, Nat.cast_list_sum, List.map_map]
  rfl

/-- The daily fact sums to the eligible changes whose local merge date is in `dim_date`. -/
theorem coverageTotal_eq {repository : DimRepository}
    (hrepository : repository ∈ (build server seed staged).dimRepository) :
    coverageTotal server seed staged repository.repositoryId
      = (build server seed staged).fctPullRequests.countP fun row =>
          (decide (row.repositoryId = repository.repositoryId) && holds row.isEligibleChange)
            && (mergeDate server row repository).any fun day =>
              decide (day ∈ (build server seed staged).dimDate.map (·.dateDay)) := by
  have hcounts : ((build server seed staged).dimDate.map fun date => (dailyMetric
        (inputsOn server (build server seed staged).fctDeployments
          (build server seed staged).fctPullRequests (build server seed staged).dimRepository
          ⟨repository, date⟩) .changeLeadTime).coverageDenominator)
      = ((build server seed staged).dimDate.map (·.dateDay)).map fun day =>
          (build server seed staged).fctPullRequests.countP fun row =>
            (decide (row.repositoryId = repository.repositoryId) && holds row.isEligibleChange)
              && decide (mergeDate server row repository = some day) := by
    rw [List.map_map]
    apply List.map_congr_left
    intro date _
    show (inputsOn server (build server seed staged).fctDeployments _ _
      ⟨repository, date⟩).eligibleChangeCount = _
    rw [eligibleChangeCount_inputsOn (repositories_nodup server seed staged)
      (fctPullRequest_known server seed staged) (eligible_has_merge server seed staged) hrepository]
    rfl
  unfold coverageTotal
  rw [build_fctDeliveryPerformanceDaily, filter_daily (repositories_nodup server seed staged)
    hrepository, List.map_map]
  show ((build server seed staged).dimDate.map fun date =>
    (dailyMetric _ _).coverageDenominator).sum = _
  rw [hcounts, sum_countP_of_nodup (dates_nodup server seed staged)]

/-- The local date of a stamp that is not null is one of `dim_date`. -/
theorem any_dates {timezone : String} {stamp : Option Timestamp} (h : stamp.isSome) :
    (stamp.map (localDate server timezone)).any (fun day =>
        decide (day ∈ (build server seed staged).dimDate.map (·.dateDay))) = true
      ↔ ∃ t, stamp = some t ∧ InBounds server seed staged (localDate server timezone t) := by
  obtain ⟨t, rfl⟩ := Option.isSome_iff_exists.mp h
  rw [Option.map_some, Option.any_some, decide_eq_true_iff, mem_dates]
  constructor
  · intro hin
    exact ⟨t, rfl, hin⟩
  · rintro ⟨t', ht', hin⟩
    rw [Option.some.inj ht']
    exact hin

/-- **What falls off the calendar**: every release and every eligible change of a configured
repository is in the daily fact exactly if their dates in its time zone are within the UTC bounds
of `dim_date`. -/
theorem nothingFallsOff_iff {config : MetricConfig} (hconfig : config ∈ seed.rows) :
    NothingFallsOff server seed staged config.repositoryId
      ↔ DatesInBounds server seed staged config.repositoryId
          (config.repositoryTimezone.getD "UTC") := by
  obtain ⟨observed, hrepository⟩ : ∃ observed,
      dimRepositoryRow config.repositoryId observed (some config)
        ∈ (build server seed staged).dimRepository := by
    rw [build_dimRepository]
    exact mem_dimRepository_of_config hconfig
  have hfrequency := frequencyTotal_eq hrepository rfl
  have hcoverage := coverageTotal_eq hrepository
  have hid : (dimRepositoryRow config.repositoryId observed (some config)).repositoryId
      = config.repositoryId := rfl
  rw [hid] at hfrequency hcoverage
  unfold NothingFallsOff releases eligibleChanges
  rw [hfrequency, hcoverage, Nat.cast_inj, countP_and_eq_iff, countP_and_eq_iff]
  apply and_congr
  · apply forall₂_congr
    intro row hrow
    rw [Bool.and_eq_true, decide_eq_true_iff, and_imp]
    apply imp_congr_right
    intro _
    apply imp_congr_right
    intro hmeasured
    have hsuccess := measured_has_success server seed staged row hrow hmeasured
    have hdate : deploymentDate server row (dimRepositoryRow config.repositoryId observed
        (some config)) = row.successfulAt.map
          (localDate server (config.repositoryTimezone.getD "UTC")) := by
      obtain ⟨t, ht⟩ := Option.isSome_iff_exists.mp hsuccess
      unfold deploymentDate
      rw [ht]
      rfl
    rw [hdate]
    exact any_dates hsuccess
  · apply forall₂_congr
    intro row hrow
    rw [Bool.and_eq_true, decide_eq_true_iff, and_imp]
    apply imp_congr_right
    intro _
    apply imp_congr_right
    intro heligible
    exact any_dates (eligible_has_merge server seed staged row hrow heligible)

end

/-- A server with the summer offset of New York. -/
def newYorkServer : Server :=
  smallServer [] [("America/New_York", -4 * 3600 * Datetime.microsPerSecond)]

/-- A deployment that succeeds on 25 July 2026 at 02:00 UTC. -/
def nightDeployment : List RawEvent :=
  demoDeployment 1 (july24 26) "abc"

/-- A release that falls off: in New York it is still 24 July, and `dim_date` holds only 25 July.
The release is measured, and the deployment frequency of the repository sums to zero. -/
theorem release_falls_off :
    ∃ staged, staging newYorkServer nightDeployment = .ok staged
      ∧ (demoSeed "America/New_York").Tests
      ∧ releases newYorkServer (demoSeed "America/New_York") staged 20001 = 1
      ∧ frequencyTotal newYorkServer (demoSeed "America/New_York") staged 20001 = 0
      ∧ ¬ NothingFallsOff newYorkServer (demoSeed "America/New_York") staged 20001 := by
  have hrun : ∃ staged, staging newYorkServer nightDeployment = .ok staged
      ∧ releases newYorkServer (demoSeed "America/New_York") staged 20001 = 1
      ∧ frequencyTotal newYorkServer (demoSeed "America/New_York") staged 20001 = 0 := by
    decide +kernel
  obtain ⟨staged, h, hreleases, htotal⟩ := hrun
  refine ⟨staged, h, demoSeed_tests _, hreleases, htotal, fun hall => ?_⟩
  have hequal := hall.1
  rw [hreleases, htotal] at hequal
  norm_num at hequal

/-- Where the repository is configured for UTC, the same deployment counts. -/
theorem nothingFallsOff_iff_utc :
    ∃ staged, staging newYorkServer nightDeployment = .ok staged
      ∧ NothingFallsOff newYorkServer (demoSeed "UTC") staged 20001
      ∧ DatesInBounds newYorkServer (demoSeed "UTC") staged 20001 "UTC" := by
  have hrun : ∃ staged, staging newYorkServer nightDeployment = .ok staged
      ∧ releases newYorkServer (demoSeed "UTC") staged 20001 = 1
      ∧ frequencyTotal newYorkServer (demoSeed "UTC") staged 20001 = 1
      ∧ coverageTotal newYorkServer (demoSeed "UTC") staged 20001
        = eligibleChanges newYorkServer (demoSeed "UTC") staged 20001 := by
    decide +kernel
  obtain ⟨staged, h, hreleases, htotal, hcoverage⟩ := hrun
  have hall : NothingFallsOff newYorkServer (demoSeed "UTC") staged 20001 := by
    refine ⟨?_, hcoverage⟩
    rw [htotal, hreleases, Nat.cast_one]
  have hconfig : demoConfig "UTC" ∈ (demoSeed "UTC").rows := List.mem_singleton_self _
  exact ⟨staged, h, hall, (nothingFallsOff_iff hconfig).mp hall⟩

end Dbt
