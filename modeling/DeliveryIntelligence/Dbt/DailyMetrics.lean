import DeliveryIntelligence.Dbt.LeadTime

set_option autoImplicit false

/-!
# The daily metrics

A row of `fct_delivery_performance_daily` is read off the counts of its repository and date by
parallel `case` expressions. `daily_contract` says how its status, value, reason and coverage
agree, from the order of the counts (`DailyInputs.Ordered`); `averagesMeasured_iff` says when the
changes its lead time averages are those that `fct_pull_requests` calls measured.
-/

namespace Dbt

open Postgres Query
open RawEvents (RawEvent)

variable {server : Server}

/-! ## Primary evidence -/

section

variable {seed : Seed} {staged : Staged}

/-- A configured repository has the values of its row of the seed. -/
theorem exists_config {repository : DimRepository}
    (hrepository : repository ∈ (build server seed staged).dimRepository)
    (hconfigured : repository.isMetricConfigured = true) :
    ∃ config ∈ seed.rows, repository.productionSignal = config.productionSignal
      ∧ repository.productionEnvironmentNames = config.productionEnvironmentNames := by
  rw [build_dimRepository, dimRepository_eq] at hrepository
  obtain ⟨repositoryId, -, rfl⟩ := List.mem_map.mp hrepository
  obtain ⟨config, hfind⟩ := Option.isSome_iff_exists.mp hconfigured
  refine ⟨config, List.mem_of_find?_eq_some hfind, ?_, ?_⟩
  · show (seed.rows.find? _).bind (·.productionSignal) = _
    rw [hfind]
    rfl
  · show (seed.rows.find? _).bind (·.productionEnvironmentNames) = _
    rw [hfind]
    rfl

theorem equalsAny_isSome {value : String} {array : List String} :
    (equalsAny (some value) (some array)).isSome := by
  cases array <;> rfl

/-- Of a deployment with an environment it is known whether it is primary evidence: a repository
measured by deployments names its environments. -/
theorem isPrimaryEvidence_isSome (htests : seed.Tests) {repository : DimRepository}
    (hrepository : repository ∈ (build server seed staged).dimRepository) {evidence : Evidence}
    (henvironment : evidence.evidenceType = .deploymentStatus → evidence.environment.isSome) :
    (isPrimaryEvidence server evidence repository).isSome := by
  unfold isPrimaryEvidence
  by_cases hconfigured : repository.isMetricConfigured = true
  · obtain ⟨config, hconfig, hsignal, hnames⟩ := exists_config hrepository hconfigured
    by_cases htype : evidence.evidenceType = .deploymentStatus
    · obtain ⟨environment, henv⟩ := Option.isSome_iff_exists.mp (henvironment htype)
      rw [hsignal, hnames, htype, henv]
      rcases htests.one_signal config hconfig with ⟨hstatus, hsome, -⟩ | ⟨hworkflow, -, -⟩
      · obtain ⟨names, hvalue⟩ := Option.isSome_iff_exists.mp hsome
        rw [hstatus, hvalue]
        split
        · rfl
        · split
          · rfl
          · rw [if_pos rfl]
            exact equalsAny_isSome
      -- a repository measured by workflow runs: no deployment is primary
      · rw [hworkflow]
        split
        · rfl
        · rfl
    · split
      · rfl
      · split <;> rfl
  · rw [Bool.not_eq_true] at hconfigured
    rw [hconfigured]
    rfl

/-- Evidence that counts is primary, where that is known. -/
theorem isPrimaryEvidence_of_isMeasured {evidence : Evidence} {repository : DimRepository}
    (hknown : (isPrimaryEvidence server evidence repository).isSome)
    (h : (classified server evidence repository).isMeasured = true) :
    holds (classified server evidence repository).isPrimaryEvidence = true := by
  obtain ⟨isPrimary, hprimary⟩ := Option.isSome_iff_exists.mp hknown
  show holds (isPrimaryEvidence server evidence repository) = true
  cases isPrimary with
  | true =>
      rw [hprimary]
      rfl
  | false =>
      have hnegated : holds (negate (isPrimaryEvidence server evidence repository)) = true := by
        rw [hprimary]
        rfl
      unfold classified FctDeployment.isMeasured at h
      simp [hnegated] at h

/-- With the `not_null` tests on the seed and on the environments of the staged deployments, the
evidence that counts is primary. -/
theorem measured_isPrimary (htests : seed.Tests)
    (henvironment : ∀ row ∈ staged.deployments, row.environment.isSome) :
    ∀ row ∈ (build server seed staged).fctDeployments, row.isMeasured = true →
      holds row.isPrimaryEvidence = true := by
  intro row hrow hmeasured
  have henv : row.evidenceType = .deploymentStatus → row.environment.isSome := by
    intro htype
    rcases toEvidence_mem hrow with ⟨production, hproduction, hevidence⟩ | hworkflow
    · rw [build_intProductionDeployments, intProductionDeployments_eq] at hproduction
      obtain ⟨⟨key, latest, rollup⟩, hlatest, rfl⟩ := List.mem_map.mp hproduction
      have hfirst := (mem_resolve.mp (List.mem_filter.mp hlatest).1).2.1
      have hstaged : latest ∈ staged.deployments := (List.mem_filter.mp (firstBy_mem hfirst)).1
      have heq : row.environment = latest.environment :=
        congrArg Evidence.environment hevidence
      rw [heq]
      exact henvironment latest hstaged
    · rw [hworkflow] at htype
      cases htype
  obtain ⟨evidence, repository, hrepository, -, rfl⟩ :=
    mem_build_fctDeployments server seed staged hrow
  exact isPrimaryEvidence_of_isMeasured (isPrimaryEvidence_isSome htests hrepository henv) hmeasured

/-! ## Lead times -/

/-- A link is from a completed change to a success, so its lead time is known. -/
theorem leadTime_of_mem_buildLinks {link : CandidateLink}
    (h : link ∈ buildLinks server seed staged) : link.leadTimeSeconds.isSome := by
  have hleadTime : ∀ {key : String} {type : LinkageType} {completedAt : Option Timestamp}
      {deployment : FctDeployment}, deployment.successfulAt.isSome → completedAt.isSome →
      (linkTo key type completedAt deployment).leadTimeSeconds.isSome := by
    intro key type completedAt deployment hsuccess hcompleted
    obtain ⟨success, hat⟩ := Option.isSome_iff_exists.mp hsuccess
    obtain ⟨completed, hat'⟩ := Option.isSome_iff_exists.mp hcompleted
    show (secondsBetween deployment.successfulAt completedAt).isSome
    rw [hat, hat']
    rfl
  unfold buildLinks allLinks at h
  rcases List.mem_append.mp h with hdeployment | hworkflow
  · obtain ⟨⟨found, deployment⟩, hpair, rfl⟩ := List.mem_map.mp hdeployment
    obtain ⟨hfound, hmem, hon⟩ := mem_innerJoin.mp hpair
    rw [Bool.and_eq_true] at hon
    rw [build_intChangeToDeployment] at hfound
    obtain ⟨_, -, _, -, _, _, completedAt, -, hruns, rfl⟩ :=
      mem_candidateLinks.mp (partitionFirst_subset hfound)
    unfold runsChange at hruns
    rw [Bool.and_eq_true] at hruns
    obtain ⟨completed, _, hat, -, -⟩ := holds_atMost.mp hruns.2
    exact hleadTime (measured_has_success server seed staged deployment hmem hon.2)
      (Option.isSome_iff_exists.mpr ⟨completed, hat⟩)
  · obtain ⟨⟨row, deployment⟩, hpair, rfl⟩ := List.mem_map.mp hworkflow
    obtain ⟨-, -, hon⟩ := mem_innerJoin.mp (List.mem_filter.mp hpair).1
    unfold runsMerge at hon
    simp only [Bool.and_eq_true] at hon
    obtain ⟨merged, success, hmerged, hsuccess, -⟩ := holds_atMost.mp hon.1.1.2
    exact hleadTime (Option.isSome_iff_exists.mpr ⟨success, hsuccess⟩)
      (Option.isSome_iff_exists.mpr ⟨merged, hmerged⟩)

theorem linked_has_leadTime : ∀ fact ∈ (build server seed staged).fctPullRequests,
    fact.isChangeLinked = true → fact.leadTimeSeconds.isSome := by
  intro fact hfact hlinked
  obtain ⟨row, -, repository, -, -, rfl⟩ :=
    (mem_build_fctPullRequests server seed staged).mp hfact
  obtain ⟨link, hfind⟩ := Option.isSome_iff_exists.mp hlinked
  have hlink : link ∈ buildLinks server seed staged :=
    partitionFirst_subset (List.mem_of_find?_eq_some hfind)
  rw [hfind]
  exact leadTime_of_mem_buildLinks hlink

end

/-! ## The order of the counts -/

/-- The counts of one repository and date, each a part of the one it is compared with, and an
average wherever a change is linked. -/
structure DailyInputs.Ordered (inputs : DailyInputs) : Prop where
  configured_le : inputs.configuredEvidenceCount ≤ inputs.candidateEvidenceCount
  successful_le : inputs.successfulDeploymentCount ≤ inputs.configuredEvidenceCount
  linked_le : inputs.linkedChangeCount ≤ inputs.eligibleChangeCount
  average_isSome : 0 < inputs.linkedChangeCount → inputs.averageLeadTimeSeconds.isSome

theorem average_isSome_of_mem {values : List (Option Int)} {value : Int} (h : some value ∈ values) :
    (average values.reduceOption).isSome := by
  have hmem : value ∈ values.reduceOption := List.reduceOption_mem_iff.mpr h
  unfold average
  rw [if_neg (List.ne_nil_of_mem hmem)]
  rfl

section

variable {deployments : List FctDeployment} {pullRequests : List FctPullRequest}
  {repositories : List DimRepository}

theorem deploymentDaily_le
    (hmeasured : ∀ row ∈ deployments, row.isMeasured = true → holds row.isPrimaryEvidence = true)
    {key : Int × Option Int} {counts : DeploymentDaily}
    (h : (key, counts) ∈ deploymentDaily server deployments repositories) :
    counts.configuredEvidenceCount ≤ counts.candidateEvidenceCount
      ∧ counts.successfulDeploymentCount ≤ counts.configuredEvidenceCount := by
  obtain ⟨-, rfl⟩ := mem_groupBy.mp h
  refine ⟨List.countP_le_length, List.countP_mono_left ?_⟩
  rintro ⟨row, repository⟩ hmem
  exact hmeasured row (mem_innerJoin.mp (List.mem_filter.mp hmem).1).1

theorem changeDaily_le
    (hlinked : ∀ row ∈ pullRequests, row.isChangeLinked = true → row.leadTimeSeconds.isSome)
    {key : Int × Option Int} {counts : ChangeDaily}
    (h : (key, counts) ∈ changeDaily server pullRequests repositories) :
    counts.linkedChangeCount ≤ counts.eligibleChangeCount
      ∧ (0 < counts.linkedChangeCount → counts.averageLeadTimeSeconds.isSome) := by
  obtain ⟨-, rfl⟩ := mem_groupBy.mp h
  refine ⟨List.countP_mono_left ?_, fun hpos => ?_⟩
  · rintro ⟨row, repository⟩ - hchange
    have hchange' : (holds row.isEligibleChange && row.isChangeLinked) = true := hchange
    rw [Bool.and_eq_true] at hchange'
    exact hchange'.1
  · obtain ⟨⟨row, repository⟩, hmem, hchange⟩ := List.countP_pos_iff.mp hpos
    have hrow := (mem_innerJoin.mp (List.mem_filter.mp (List.mem_filter.mp hmem).1).1).1
    have hchange' : (holds row.isEligibleChange && row.isChangeLinked) = true := hchange
    rw [Bool.and_eq_true] at hchange'
    obtain ⟨seconds, hseconds⟩ := Option.isSome_iff_exists.mp (hlinked row hrow hchange'.2)
    exact average_isSome_of_mem
      (List.mem_map.mpr ⟨(row, repository), List.mem_filter.mpr ⟨hmem, hchange⟩, hseconds⟩)

theorem inputsOn_ordered
    (hmeasured : ∀ row ∈ deployments, row.isMeasured = true → holds row.isPrimaryEvidence = true)
    (hlinked : ∀ row ∈ pullRequests, row.isChangeLinked = true → row.leadTimeSeconds.isSome)
    (row : RepositoryDate) :
    (inputsOn server deployments pullRequests repositories row).Ordered := by
  have hdeployments : ∀ group, (deploymentDaily server deployments repositories).find?
      (isOn row) = some group → _ := fun group hfind =>
    deploymentDaily_le hmeasured (List.mem_of_find?_eq_some hfind)
  have hchanges : ∀ group, (changeDaily server pullRequests repositories).find?
      (isOn row) = some group → _ := fun group hfind =>
    changeDaily_le hlinked (List.mem_of_find?_eq_some hfind)
  unfold inputsOn
  -- a date without a group has the counts zero
  constructor
  · cases hfind : (deploymentDaily server deployments repositories).find? (isOn row) with
    | none => exact le_refl 0
    | some group => exact (hdeployments group hfind).1
  · cases hfind : (deploymentDaily server deployments repositories).find? (isOn row) with
    | none => exact le_refl 0
    | some group => exact (hdeployments group hfind).2
  · cases hfind : (changeDaily server pullRequests repositories).find? (isOn row) with
    | none => exact le_refl 0
    | some group => exact (hchanges group hfind).1
  · cases hfind : (changeDaily server pullRequests repositories).find? (isOn row) with
    | none => exact fun hpos => absurd hpos (lt_irrefl 0)
    | some group => exact (hchanges group hfind).2

end

/-! ## The contract of a row -/

/-- A value is missing exactly where a reason is given, coverage is a part of a whole, and a proxy
is one the repository is configured for. -/
structure DailyContract (marts : Marts) (row : DailyMetric) : Prop where
  value_null : row.measurementStatus = .unavailable ↔ row.metricValue = none
  reason_given : row.measurementStatus = .unavailable ↔ row.exclusionReason.isSome = true
  coverage_le : row.coverageNumerator ≤ row.coverageDenominator
  ratio_null : row.coverageRatio = none ↔ row.coverageDenominator = 0
  ratio_eq : ∀ ratio, row.coverageRatio = some ratio →
    ratio = roundedTo 6 (numericDivision row.coverageNumerator row.coverageDenominator)
  ratio_near : ∀ ratio, row.coverageRatio = some ratio →
    |ratio - (row.coverageNumerator : ℚ) / row.coverageDenominator|
      ≤ 1 / (2 * 10 ^ 6) + 1 / (2 * 10 ^ 16)
  frequency_le : row.metricName = .deploymentFrequency → ∀ value, row.metricValue = some value →
    value ≤ row.coverageNumerator
  proxy : row.measurementStatus = .configuredProxy →
    ∃ repository ∈ marts.dimRepository, repository.repositoryId = row.repositoryId
      ∧ repository.productionSignal = some "workflow_run"

/-- The `case` of `measurement_status` by itself. -/
def dailyMeasurementStatus (inputs : DailyInputs) (metric : MetricName) : MeasurementStatus :=
  if metric = .failedDeploymentRecoveryTime ∨ metric = .changeFailureRate
      ∨ metric = .deploymentReworkRate then .unavailable
  else if !inputs.repository.isMetricConfigured then .unavailable
  else if metric = .changeLeadTime ∧ inputs.eligibleChangeCount = 0 then .unavailable
  else if metric = .changeLeadTime ∧ inputs.linkedChangeCount = 0 then .unavailable
  else if inputs.repository.productionSignal = some "workflow_run" then .configuredProxy
  else .measured

/-- The `case` of `exclusion_reason` by itself. -/
def dailyExclusionReason (inputs : DailyInputs) (metric : MetricName) : Option ExclusionReason :=
  if metric = .failedDeploymentRecoveryTime then
    some .requiredInterventionRecoveryEvidenceNotConfigured
  else if metric = .changeFailureRate then some .requiredChangeFailureEvidenceNotConfigured
  else if metric = .deploymentReworkRate then some .requiredUnplannedReworkEvidenceNotConfigured
  else if !inputs.repository.isMetricConfigured then some .missingRepositoryConfiguration
  else if metric = .changeLeadTime ∧ inputs.eligibleChangeCount = 0 then some .noEligibleChanges
  else if metric = .changeLeadTime ∧ inputs.linkedChangeCount = 0 then
    some .missingChangeDeploymentLinkage
  else none

/-- The pair of a row's status and reason is that of the two expressions. -/
theorem dailyStatus_eq (inputs : DailyInputs) (metric : MetricName) :
    dailyStatus inputs metric
      = (dailyMeasurementStatus inputs metric, dailyExclusionReason inputs metric) := by
  unfold dailyMeasurementStatus dailyExclusionReason
  cases metric with
  | deploymentFrequency =>
      unfold dailyStatus
      simp only [reduceCtorEq, false_or, false_and, if_false]
      split_ifs <;> rfl
  | changeLeadTime =>
      unfold dailyStatus
      simp only [reduceCtorEq, false_or, true_and, if_false]
      split_ifs <;> rfl
  | failedDeploymentRecoveryTime | changeFailureRate | deploymentReworkRate => rfl

/-- The branches of the `case` that a row of `deployment_frequency` reaches. -/
theorem dailyStatus_deploymentFrequency (inputs : DailyInputs) :
    dailyStatus inputs .deploymentFrequency
      = if inputs.repository.isMetricConfigured = false then
          (.unavailable, some .missingRepositoryConfiguration)
        else if inputs.repository.productionSignal = some "workflow_run" then
          (.configuredProxy, none)
        else (.measured, none) := by
  unfold dailyStatus
  simp

/-- The branches of the `case` that a row of `change_lead_time` reaches. -/
theorem dailyStatus_changeLeadTime (inputs : DailyInputs) :
    dailyStatus inputs .changeLeadTime
      = if inputs.repository.isMetricConfigured = false then
          (.unavailable, some .missingRepositoryConfiguration)
        else if inputs.eligibleChangeCount = 0 then (.unavailable, some .noEligibleChanges)
        else if inputs.linkedChangeCount = 0 then
          (.unavailable, some .missingChangeDeploymentLinkage)
        else if inputs.repository.productionSignal = some "workflow_run" then
          (.configuredProxy, none)
        else (.measured, none) := by
  unfold dailyStatus
  simp

/-- The two expressions agree on which rows are unavailable. -/
theorem dailyMeasurementStatus_iff (inputs : DailyInputs) (metric : MetricName) :
    dailyMeasurementStatus inputs metric = .unavailable
      ↔ (dailyExclusionReason inputs metric).isSome = true := by
  unfold dailyMeasurementStatus dailyExclusionReason
  cases metric with
  | deploymentFrequency | changeLeadTime =>
      simp only [reduceCtorEq, false_or, false_and, true_and, if_false]
      split_ifs <;> simp
  | failedDeploymentRecoveryTime | changeFailureRate | deploymentReworkRate => simp

theorem dailyStatus_proxy {inputs : DailyInputs} {metric : MetricName}
    (h : (dailyStatus inputs metric).1 = .configuredProxy) :
    inputs.repository.productionSignal = some "workflow_run" := by
  by_contra hsignal
  cases metric with
  | deploymentFrequency =>
      rw [dailyStatus_deploymentFrequency, if_neg hsignal] at h
      split_ifs at h
  | changeLeadTime =>
      rw [dailyStatus_changeLeadTime, if_neg hsignal] at h
      split_ifs at h
  | failedDeploymentRecoveryTime | changeFailureRate | deploymentReworkRate => cases h

/-- A value is missing exactly where the row is unavailable: a linked change has a lead time. -/
theorem metricValue_eq_none_iff {inputs : DailyInputs} (h : inputs.Ordered) (metric : MetricName) :
    (dailyStatus inputs metric).1 = .unavailable ↔ metricValue inputs metric = none := by
  cases metric with
  | deploymentFrequency =>
      rw [dailyStatus_deploymentFrequency]
      simp only [metricValue]
      by_cases hsignal : inputs.repository.productionSignal = some "workflow_run"
      · cases inputs.repository.isMetricConfigured <;> simp [hsignal]
      · cases inputs.repository.isMetricConfigured <;> simp [hsignal]
  | changeLeadTime =>
      rw [dailyStatus_changeLeadTime]
      simp only [metricValue]
      by_cases hlinked : inputs.linkedChangeCount = 0
      -- no linked change: no value, whether or not a change was eligible
      · rw [hlinked]
        split_ifs <;> simp_all
      · have hpos : 0 < inputs.linkedChangeCount := Nat.pos_of_ne_zero hlinked
        have hle := h.linked_le
        have heligible : inputs.eligibleChangeCount ≠ 0 := by omega
        obtain ⟨average, haverage⟩ := Option.isSome_iff_exists.mp (h.average_isSome hpos)
        rw [if_neg hlinked, if_neg heligible, haverage, decide_eq_true hpos]
        by_cases hsignal : inputs.repository.productionSignal = some "workflow_run"
        · cases inputs.repository.isMetricConfigured <;> simp [hsignal]
        · cases inputs.repository.isMetricConfigured <;> simp [hsignal]
  | failedDeploymentRecoveryTime | changeFailureRate | deploymentReworkRate =>
      exact ⟨fun _ => rfl, fun _ => rfl⟩

theorem coverageNumerator_le {inputs : DailyInputs} (h : inputs.Ordered) (metric : MetricName) :
    coverageNumerator inputs metric ≤ coverageDenominator inputs metric := by
  cases metric with
  | deploymentFrequency => exact h.configured_le
  | changeLeadTime => exact h.linked_le
  | failedDeploymentRecoveryTime | changeFailureRate | deploymentReworkRate => exact Nat.zero_le _

theorem numericDivision_zero (divisor : Int) : numericDivision 0 divisor = 0 := by
  unfold numericDivision
  rw [Int.cast_zero, zero_div]
  exact_mod_cast roundedTo_intCast _ 0

/-- The ratio of every metric is its numerator by its denominator, where that is not zero. -/
theorem coverageRatio_eq (inputs : DailyInputs) (metric : MetricName) :
    coverageRatio inputs metric
      = if 0 < coverageDenominator inputs metric then
          some (numericDivision (coverageNumerator inputs metric)
            (coverageDenominator inputs metric))
        else none := by
  have hzero : numericDivision ((0 : Nat) : Int) inputs.successfulDeploymentCount = 0 :=
    numericDivision_zero _
  cases metric with
  | deploymentFrequency => rfl
  | changeLeadTime => rfl
  | failedDeploymentRecoveryTime | changeFailureRate | deploymentReworkRate =>
      simp only [coverageRatio, coverageNumerator, coverageDenominator, hzero]

theorem dailyMetric_contract {marts : Marts} {inputs : DailyInputs} (h : inputs.Ordered)
    (hrepository : inputs.repository ∈ marts.dimRepository) (metric : MetricName) :
    DailyContract marts (dailyMetric inputs metric) where
  value_null := (metricValue_eq_none_iff h metric).trans Option.map_eq_none_iff.symm
  reason_given := by
    show (dailyStatus inputs metric).1 = _ ↔ (dailyStatus inputs metric).2.isSome = true
    rw [dailyStatus_eq]
    exact dailyMeasurementStatus_iff inputs metric
  coverage_le := coverageNumerator_le h metric
  ratio_null := by
    show (coverageRatio inputs metric).map (roundedTo 6) = none ↔ _
    rw [Option.map_eq_none_iff, coverageRatio_eq]
    show _ ↔ coverageDenominator inputs metric = 0
    split_ifs with hpos
    · simp
      omega
    · simp
      omega
  ratio_eq := by
    intro ratio hratio
    obtain ⟨quotient, hquotient, rfl⟩ := Option.map_eq_some_iff.mp hratio
    rw [coverageRatio_eq] at hquotient
    split_ifs at hquotient
    cases hquotient
    rfl
  ratio_near := by
    intro ratio hratio
    obtain ⟨quotient, hquotient, rfl⟩ := Option.map_eq_some_iff.mp hratio
    rw [coverageRatio_eq] at hquotient
    split_ifs at hquotient
    cases hquotient
    exact abs_roundedTo_numericDivision_sub_le (coverageNumerator_le h metric)
  frequency_le := by
    intro hmetric value hvalue
    obtain rfl : metric = .deploymentFrequency := hmetric
    obtain ⟨count, hcount, rfl⟩ := Option.map_eq_some_iff.mp hvalue
    unfold metricValue at hcount
    simp only at hcount
    split_ifs at hcount
    cases hcount
    rw [roundedTo_intCast]
    exact_mod_cast h.successful_le
  proxy hproxy := ⟨inputs.repository, hrepository, rfl, dailyStatus_proxy hproxy⟩

section

variable {seed : Seed} {staged : Staged}

/-- **The contract of the daily metrics**, for every seed that passes its tests and all staged rows
that pass the `not_null` test of `stg_github__deployments.environment`. -/
theorem daily_contract (htests : seed.Tests)
    (henvironment : ∀ row ∈ staged.deployments, row.environment.isSome) :
    ∀ row ∈ (build server seed staged).fctDeliveryPerformanceDaily,
      DailyContract (build server seed staged) row := by
  intro row hrow
  obtain ⟨repository, hrepository, date, -, metric, rfl⟩ := mem_build_daily.mp hrow
  refine dailyMetric_contract ?_ hrepository metric
  exact inputsOn_ordered (measured_isPrimary htests henvironment) linked_has_leadTime _

end

theorem daily_contract_demo :
    ∃ staged, staging (smallServer [] []) demoEvents = .ok staged
      ∧ (∃ row ∈ (build (smallServer [] []) (demoSeed "UTC") staged).fctDeliveryPerformanceDaily,
          row.metricName = .deploymentFrequency ∧ row.measurementStatus = .measured
          ∧ row.coverageNumerator = 1)
      ∧ ∀ row ∈ (build (smallServer [] []) (demoSeed "UTC") staged).fctDeliveryPerformanceDaily,
          DailyContract (build (smallServer [] []) (demoSeed "UTC") staged) row := by
  have hrun : ∃ staged, staging (smallServer [] []) demoEvents = .ok staged
      ∧ (∀ row ∈ staged.deployments, row.environment.isSome)
      ∧ ∃ row ∈ (build (smallServer [] []) (demoSeed "UTC") staged).fctDeliveryPerformanceDaily,
        row.metricName = .deploymentFrequency ∧ row.measurementStatus = .measured
        ∧ row.coverageNumerator = 1 := by
    decide +kernel
  obtain ⟨staged, h, henvironment, hrow⟩ := hrun
  exact ⟨staged, h, hrow, daily_contract (demoSeed_tests _) henvironment⟩

/-! ## The changes that are averaged -/

/-- `measurement_status in ('measured', 'configured_proxy')` -/
def FctPullRequest.isMeasured (row : FctPullRequest) : Bool :=
  row.measurementStatus = .measured || row.measurementStatus = .configuredProxy

section

variable (server : Server) (seed : Seed) (staged : Staged) (repository : DimRepository) (day : Int)

/-- The measured pull requests of a repository that merged on one of its dates. -/
def measuredOn : List FctPullRequest :=
  (build server seed staged).fctPullRequests.filter fun fact =>
    (decide (fact.repositoryId = repository.repositoryId) && fact.isMeasured)
      && decide (mergeDate server fact repository = some day)

/-- A row of `change_lead_time` averages the measured pull requests of its date: these are the rows
that are counted and averaged, their average is the value and their number the numerator. -/
structure AveragesMeasured (row : DailyMetric) : Prop where
  rows_eq : linkedOn server seed staged repository row.dateDay
    = measuredOn server seed staged repository row.dateDay
  value_eq : row.metricValue
    = (average ((measuredOn server seed staged repository row.dateDay).map
        (·.leadTimeSeconds)).reduceOption).map (roundedTo 6)
  numerator_eq : row.coverageNumerator
    = (measuredOn server seed staged repository row.dateDay).length

/-- The pull request merged on this date of the repository. -/
def MergedOn (row : PullRequest) : Prop :=
  row.repositoryId = repository.repositoryId
    ∧ row.mergedAt.map (localDate server repository.timezone) = some day

/-- Each pull request that merged on the date, not before it was created, and that ran in production
has the SHA of its merge commit exactly if it has the time of its creation. -/
def MergeShaWhereCreated : Prop :=
  ∀ row ∈ (build server seed staged).intPrLifecycle, MergedOn server repository day row →
    impossibleMerge row = false →
      (∃ deployment ∈ (build server seed staged).fctDeployments, Reaches staged row deployment) →
        (row.mergeCommitSha.isSome ↔ row.createdAt.isSome)

end

theorem isEligibleChange_iff {row : PullRequest} (hmerged : holds row.isMerged = true)
    (hmergedAt : row.mergedAt.isSome) :
    row.isEligibleChange = true ↔ row.createdAt.isSome ∧ impossibleMerge row = false := by
  obtain ⟨merged, hat⟩ := Option.isSome_iff_exists.mp hmergedAt
  unfold PullRequest.isEligibleChange impossibleMerge
  rw [hmerged, hat]
  cases row.createdAt with
  | none => simp [atMost, holds]
  | some created => simp [atMost, below, holds]

section

variable {seed : Seed} {events : List RawEvent} {staged : Staged} {repository : DimRepository}

/-- A pull request has a link exactly if a deployment that counts ran one of its commits. -/
theorem isSome_selectedLink_iff (h : staging server events = .ok staged) {row : PullRequest}
    (hrow : row ∈ (build server seed staged).intPrLifecycle) :
    ((selectedLinks server (buildLinks server seed staged)).find? fun other =>
        row.pullRequestKey = other.pullRequestKey).isSome
      ↔ ∃ deployment ∈ (build server seed staged).fctDeployments, Reaches staged row deployment := by
  constructor
  · intro hsome
    obtain ⟨link, hlink⟩ := Option.isSome_iff_exists.mp hsome
    obtain ⟨deployment, _, _, hfirst, -, -⟩ := (selectedLink_iff h hrow).mp hlink
    exact ⟨deployment, hfirst.mem, hfirst.reaches⟩
  · rintro ⟨deployment, hdeployment, hmeasured, hreaches⟩
    obtain ⟨type, start, hstart⟩ := exists_linkStart hreaches
    obtain ⟨hlink, hkey⟩ := (mem_buildLinks h hrow).mpr
      ⟨deployment, hdeployment, hmeasured, type, start, hstart, rfl⟩
    exact Option.isSome_iff_exists.mpr (exists_selectedLink hlink hkey)

/-- A merged pull request of a configured repository is measured exactly if it has the SHA of its
merge commit, did not merge before it was created, and is linked. -/
theorem isMeasured_fctPullRequest {row : PullRequest} {review : Option FirstEligibleReview}
    {link : Option CandidateLink} (hconfigured : repository.isMetricConfigured = true)
    (hmerged : holds row.isMerged = true) (hmergedAt : row.mergedAt.isSome)
    (hlink : ∀ found, link = some found →
      found.measurementStatus = .measured ∨ found.measurementStatus = .configuredProxy) :
    (fctPullRequest row review repository link).isMeasured = true
      ↔ row.mergeCommitSha.isSome ∧ impossibleMerge row = false ∧ link.isSome := by
  have hisMerged : row.isMerged = some true := by
    unfold holds at hmerged
    exact beq_iff_eq.mp hmerged
  obtain ⟨merged, hat⟩ := Option.isSome_iff_exists.mp hmergedAt
  have hstatus : (fctPullRequest row review repository link).measurementStatus
      = if impossibleMerge row = true then .unavailable
        else if row.mergeCommitSha.isNone = true then .unavailable
        else (link.map (·.measurementStatus)).getD .unavailable := by
    unfold fctPullRequest
    rw [hisMerged, hat, hconfigured]
    cases link <;> rfl
  unfold FctPullRequest.isMeasured
  rw [hstatus]
  cases impossibleMerge row with
  | true => simp
  | false =>
      cases row.mergeCommitSha with
      | none => simp
      | some sha =>
          cases link with
          | none => simp
          | some found => simpa using hlink found rfl

theorem measured_of_selectedLink (h : staging server events = .ok staged) {row : PullRequest}
    (hrow : row ∈ (build server seed staged).intPrLifecycle) {link : CandidateLink}
    (hlink : ((selectedLinks server (buildLinks server seed staged)).find? fun other =>
        row.pullRequestKey = other.pullRequestKey) = some link) :
    link.measurementStatus = .measured ∨ link.measurementStatus = .configuredProxy := by
  obtain ⟨deployment, _, _, hfirst, -, rfl⟩ := (selectedLink_iff h hrow).mp hlink
  have hmeasured := hfirst.reaches.1
  unfold FctDeployment.isMeasured at hmeasured
  rw [Bool.or_eq_true, decide_eq_true_iff, decide_eq_true_iff] at hmeasured
  exact hmeasured

end

section

variable {seed : Seed} {events : List RawEvent} {staged : Staged} {repository : DimRepository}
  {day : Int}

/-- The fact is that of a pull request that merged on the date. -/
structure FactOn (server : Server) (seed : Seed) (staged : Staged) (repository : DimRepository)
    (day : Int) (row : PullRequest) (fact : FctPullRequest) : Prop where
  mem : row ∈ (build server seed staged).intPrLifecycle
  mergedOn : MergedOn server repository day row
  eq : ∃ review, fact = fctPullRequest row review repository
    ((selectedLinks server (buildLinks server seed staged)).find? fun other =>
      row.pullRequestKey = other.pullRequestKey)

/-- A fact of the repository that merged on the date is that of a pull request. -/
theorem exists_factOn {fact : FctPullRequest}
    (hfact : fact ∈ (build server seed staged).fctPullRequests)
    (hrepository : repository ∈ (build server seed staged).dimRepository)
    (hid : fact.repositoryId = repository.repositoryId)
    (hdate : mergeDate server fact repository = some day) :
    ∃ row, FactOn server seed staged repository day row fact := by
  obtain ⟨row, hrow, other, hother, hsame, rfl⟩ :=
    (mem_build_fctPullRequests server seed staged).mp hfact
  obtain rfl : other = repository := List.inj_on_of_nodup_map
    (repositories_nodup server seed staged) hother hrepository (hsame.symm.trans hid)
  exact ⟨row, hrow, ⟨hid, hdate⟩, _, rfl⟩

/-- A pull request that merged on the date has a fact. -/
theorem exists_fact {row : PullRequest} (hrow : row ∈ (build server seed staged).intPrLifecycle)
    (hrepository : repository ∈ (build server seed staged).dimRepository)
    (hon : MergedOn server repository day row) :
    ∃ fact ∈ (build server seed staged).fctPullRequests,
      FactOn server seed staged repository day row fact
        ∧ fact.repositoryId = repository.repositoryId
        ∧ mergeDate server fact repository = some day :=
  ⟨_, (mem_build_fctPullRequests server seed staged).mpr
    ⟨row, hrow, repository, hrepository, hon.1, rfl⟩, ⟨hrow, hon, _, rfl⟩, hon.1, hon.2⟩

theorem FactOn.isLinkedChange_iff (h : staging server events = .ok staged) {row : PullRequest}
    {fact : FctPullRequest} (hfact : FactOn server seed staged repository day row fact) :
    fact.isLinkedChange = true
      ↔ row.createdAt.isSome ∧ impossibleMerge row = false
        ∧ ∃ deployment ∈ (build server seed staged).fctDeployments,
          Reaches staged row deployment := by
  obtain ⟨hrow, hon, review, rfl⟩ := hfact
  obtain ⟨merged, hat, -⟩ := Option.map_eq_some_iff.mp hon.2
  have hmergedAt : row.mergedAt.isSome := Option.isSome_iff_exists.mpr ⟨merged, hat⟩
  have hmerged := mergedAt_isMerged server seed staged row hrow hmergedAt
  unfold FctPullRequest.isLinkedChange
  rw [Bool.and_eq_true, holds_isEligibleChange, isEligibleChange_iff hmerged hmergedAt, and_assoc]
  exact and_congr_right fun _ => and_congr_right fun _ => isSome_selectedLink_iff h hrow

theorem FactOn.isMeasured_iff (h : staging server events = .ok staged)
    (hconfigured : repository.isMetricConfigured = true) {row : PullRequest}
    {fact : FctPullRequest} (hfact : FactOn server seed staged repository day row fact) :
    fact.isMeasured = true
      ↔ row.mergeCommitSha.isSome ∧ impossibleMerge row = false
        ∧ ∃ deployment ∈ (build server seed staged).fctDeployments,
          Reaches staged row deployment := by
  obtain ⟨hrow, hon, review, rfl⟩ := hfact
  obtain ⟨merged, hat, -⟩ := Option.map_eq_some_iff.mp hon.2
  have hmergedAt : row.mergedAt.isSome := Option.isSome_iff_exists.mpr ⟨merged, hat⟩
  have hmerged := mergedAt_isMerged server seed staged row hrow hmergedAt
  rw [isMeasured_fctPullRequest hconfigured hmerged hmergedAt
    fun found hfound => measured_of_selectedLink h hrow hfound, isSome_selectedLink_iff h hrow]

/-- The rows that are averaged are the measured ones exactly if each pull request is in both or in
neither. -/
theorem linkedOn_eq_measuredOn_iff (day : Int) (h : staging server events = .ok staged)
    (hrepository : repository ∈ (build server seed staged).dimRepository)
    (hconfigured : repository.isMetricConfigured = true) :
    linkedOn server seed staged repository day = measuredOn server seed staged repository day
      ↔ MergeShaWhereCreated server seed staged repository day := by
  unfold linkedOn measuredOn
  rw [filter_eq_filter_iff]
  constructor
  · intro hrows row hrow hon hpossible hreaches
    obtain ⟨fact, hmem, hfact, hid, hdate⟩ := exists_fact hrow hrepository hon
    have hsame : fact.isLinkedChange = fact.isMeasured := by
      simpa [hid, hdate] using hrows fact hmem
    have hlinked := hfact.isLinkedChange_iff h
    rw [hsame, hfact.isMeasured_iff h hconfigured] at hlinked
    constructor
    · exact fun hsha => (hlinked.mp ⟨hsha, hpossible, hreaches⟩).1
    · exact fun hcreated => (hlinked.mpr ⟨hcreated, hpossible, hreaches⟩).1
  · intro hcondition fact hmem
    by_cases hid : fact.repositoryId = repository.repositoryId
    · by_cases hdate : mergeDate server fact repository = some day
      · obtain ⟨row, hfact⟩ := exists_factOn hmem hrepository hid hdate
        have hsame : fact.isLinkedChange = fact.isMeasured := by
          rw [Bool.eq_iff_iff, hfact.isLinkedChange_iff h, hfact.isMeasured_iff h hconfigured]
          refine and_congr_left fun ⟨hpossible, hreaches⟩ => ?_
          exact (hcondition row hfact.mem hfact.mergedOn hpossible hreaches).symm
        rw [hsame]
      · simp [hdate]
    · simp [hid]

/-- Where each pull request that merged on the date has the time of its creation, as many linked
changes as measured ones are the same ones. -/
theorem mergeSha_of_length (h : staging server events = .ok staged)
    (hrepository : repository ∈ (build server seed staged).dimRepository)
    (hconfigured : repository.isMetricConfigured = true)
    (hcreated : ∀ row ∈ (build server seed staged).intPrLifecycle,
      MergedOn server repository day row → row.createdAt.isSome)
    (hlength : (linkedOn server seed staged repository day).length
      = (measuredOn server seed staged repository day).length) :
    MergeShaWhereCreated server seed staged repository day := by
  rw [← linkedOn_eq_measuredOn_iff day h hrepository hconfigured]
  refine filter_eq_of_length ?_ hlength
  -- a measured pull request is a linked change
  intro fact hmem hon
  simp only [Bool.and_eq_true, decide_eq_true_iff] at hon ⊢
  obtain ⟨⟨hid, hmeasured⟩, hdate⟩ := hon
  obtain ⟨row, hfact⟩ := exists_factOn hmem hrepository hid hdate
  obtain ⟨-, hpossible, hreaches⟩ := (hfact.isMeasured_iff h hconfigured).mp hmeasured
  have hrowCreated := hcreated row hfact.mem hfact.mergedOn
  exact ⟨⟨hid, (hfact.isLinkedChange_iff h).mpr ⟨hrowCreated, hpossible, hreaches⟩⟩, hdate⟩

/-- A row of `change_lead_time` that is not unavailable is of a configured repository, and its value
is the average. -/
theorem metricValue_of_available {inputs : DailyInputs}
    (h : (dailyStatus inputs .changeLeadTime).1 ≠ .unavailable) :
    inputs.repository.isMetricConfigured = true
      ∧ metricValue inputs .changeLeadTime = inputs.averageLeadTimeSeconds := by
  rw [dailyStatus_changeLeadTime] at h
  by_cases hconfigured : inputs.repository.isMetricConfigured = false
  · rw [if_pos hconfigured] at h
    exact absurd rfl h
  · rw [Bool.not_eq_false] at hconfigured
    rw [hconfigured] at h
    have hlinked : inputs.linkedChangeCount ≠ 0 := by
      intro hzero
      rw [hzero] at h
      split_ifs at h <;> simp_all
    refine ⟨hconfigured, ?_⟩
    simp only [metricValue]
    rw [hconfigured, decide_eq_true (Nat.pos_of_ne_zero hlinked)]
    rfl

/-- What such a row reports: the average and the number of the linked changes of its date. -/
theorem reported_of_available {row : DailyMetric}
    (hrow : row ∈ (build server seed staged).fctDeliveryPerformanceDaily)
    (hmetric : row.metricName = .changeLeadTime) (hstatus : row.measurementStatus ≠ .unavailable)
    (hrepository : repository ∈ (build server seed staged).dimRepository)
    (hid : row.repositoryId = repository.repositoryId) :
    repository.isMetricConfigured = true
      ∧ row.metricValue = (average ((linkedOn server seed staged repository row.dateDay).map
          (·.leadTimeSeconds)).reduceOption).map (roundedTo 6)
      ∧ row.coverageNumerator = (linkedOn server seed staged repository row.dateDay).length := by
  obtain ⟨other, hother, date, -, metric, rfl⟩ := mem_build_daily.mp hrow
  obtain rfl : metric = .changeLeadTime := hmetric
  obtain rfl : other = repository := List.inj_on_of_nodup_map
    (repositories_nodup server seed staged) hother hrepository hid
  obtain ⟨hconfigured, hvalue⟩ := metricValue_of_available hstatus
  refine ⟨hconfigured, ?_, linkedChangeCount_inputsOn hrepository⟩
  show (metricValue _ .changeLeadTime).map (roundedTo 6) = _
  rw [hvalue, averageLeadTime_inputsOn hrepository]
  rfl

/-- **Which changes lead time averages**: in every row that is not unavailable, exactly the measured
ones if and only if each pull request of the date that ran in production has the SHA of its merge
commit where it has the time of its creation. Where each has that time, the numerator alone is right
only then. -/
theorem averagesMeasured_iff (h : staging server events = .ok staged) {row : DailyMetric}
    (hrow : row ∈ (build server seed staged).fctDeliveryPerformanceDaily)
    (hmetric : row.metricName = .changeLeadTime) (hstatus : row.measurementStatus ≠ .unavailable)
    (hrepository : repository ∈ (build server seed staged).dimRepository)
    (hid : row.repositoryId = repository.repositoryId) :
    (AveragesMeasured server seed staged repository row
      ↔ MergeShaWhereCreated server seed staged repository row.dateDay)
    ∧ ((∀ other ∈ (build server seed staged).intPrLifecycle,
          MergedOn server repository row.dateDay other → other.createdAt.isSome) →
        row.coverageNumerator = (measuredOn server seed staged repository row.dateDay).length →
        MergeShaWhereCreated server seed staged repository row.dateDay) := by
  obtain ⟨hconfigured, hvalue, hnumerator⟩ :=
    reported_of_available hrow hmetric hstatus hrepository hid
  have hrows := linkedOn_eq_measuredOn_iff row.dateDay h hrepository hconfigured
  constructor
  · constructor
    · intro haverages
      exact hrows.mp haverages.rows_eq
    · intro hcondition
      have hsame := hrows.mpr hcondition
      rw [hsame] at hvalue hnumerator
      exact ⟨hsame, hvalue, hnumerator⟩
  · intro hcreated hlength
    exact mergeSha_of_length h hrepository hconfigured hcreated (hnumerator.symm.trans hlength)

end

/-- A pull request created at 8, with a commit of 9, merged at 12 without the SHA of a merge
commit. -/
def mergedWithoutSha : List RawEvent :=
  [ demoEvent 21 "pull_request" 0
      [("pull_request", .object
        [("number", .number 19 0), ("node_id", .string "PR_19"), ("state", .string "closed"),
          ("created_at", .string "2026-07-24T08:00:00Z"),
          ("merged_at", .string "2026-07-24T12:00:00Z")])]
  , demoEvent 22 "pull_request_commit" 0
      [("pull_request_id", .string "PR_19"),
        ("pull_request_commit", .object
          [("commit", .object
            [("oid", .string "abc"), ("committedDate", .string "2026-07-24T09:00:00Z")])])] ]

/-- Its commit is deployed at 13: the pull request is unavailable and the average counts it. -/
theorem unavailable_averaged :
    ∃ staged, staging hourServer
        (mergedWithoutSha ++ demoDeployment 23 (july24 13) "abc")
          = .ok staged
      ∧ (demoSeed "UTC").Tests
      ∧ (∃ repository ∈ (build hourServer (demoSeed "UTC") staged).dimRepository,
          ∃ row ∈ (build hourServer (demoSeed "UTC") staged).fctDeliveryPerformanceDaily,
            row.metricName = .changeLeadTime ∧ row.measurementStatus = .measured
            ∧ row.repositoryId = repository.repositoryId ∧ row.coverageNumerator = 1
            ∧ measuredOn hourServer (demoSeed "UTC") staged repository row.dateDay = []
            ∧ ¬ AveragesMeasured hourServer (demoSeed "UTC") staged repository row) := by
  have hrun : ∃ staged, staging hourServer
        (mergedWithoutSha ++ demoDeployment 23 (july24 13) "abc")
          = .ok staged
      ∧ ∃ repository ∈ (build hourServer (demoSeed "UTC") staged).dimRepository,
        ∃ row ∈ (build hourServer (demoSeed "UTC") staged).fctDeliveryPerformanceDaily,
          row.metricName = .changeLeadTime ∧ row.measurementStatus = .measured
          ∧ row.repositoryId = repository.repositoryId ∧ row.coverageNumerator = 1
          ∧ measuredOn hourServer (demoSeed "UTC") staged repository row.dateDay = [] := by
    decide +kernel
  obtain ⟨staged, h, repository, hrepository, row, hrow, hmetric, hstatus, hid, hone, hempty⟩ := hrun
  refine ⟨staged, h, demoSeed_tests _, repository, hrepository, row, hrow, hmetric, hstatus, hid,
    hone, hempty, fun haverages => ?_⟩
  have hnumerator := haverages.numerator_eq
  rw [hone, hempty] at hnumerator
  cases hnumerator

/-- The pull request merged with the SHA of its merge commit, deployed at 15, is measured. -/
theorem averagesMeasured_iff_merge :
    ∃ staged, staging hourServer
        (mergedAtNoon ++ demoDeployment 3 (july24 15) "def") = .ok staged
      ∧ ∃ repository ∈ (build hourServer (demoSeed "UTC") staged).dimRepository,
        ∃ row ∈ (build hourServer (demoSeed "UTC") staged).fctDeliveryPerformanceDaily,
          row.metricName = .changeLeadTime ∧ row.measurementStatus = .measured
          ∧ AveragesMeasured hourServer (demoSeed "UTC") staged repository row
          ∧ MergeShaWhereCreated hourServer (demoSeed "UTC") staged repository row.dateDay := by
  have hrun : ∃ staged, staging hourServer
        (mergedAtNoon ++ demoDeployment 3 (july24 15) "def")
          = .ok staged
      ∧ (∀ row ∈ (build hourServer (demoSeed "UTC") staged).intPrLifecycle, row.createdAt.isSome)
      ∧ ∃ repository ∈ (build hourServer (demoSeed "UTC") staged).dimRepository,
        ∃ row ∈ (build hourServer (demoSeed "UTC") staged).fctDeliveryPerformanceDaily,
          row.metricName = .changeLeadTime ∧ row.measurementStatus = .measured
          ∧ row.repositoryId = repository.repositoryId
          ∧ row.coverageNumerator
            = (measuredOn hourServer (demoSeed "UTC") staged repository row.dateDay).length := by
    decide +kernel
  obtain ⟨staged, h, hcreated, repository, hrepository, row, hrow, hmetric, hstatus, hid, hlength⟩ :=
    hrun
  have havailable : row.measurementStatus ≠ .unavailable := by
    rw [hstatus]
    decide
  obtain ⟨hiff, hnumerator⟩ := averagesMeasured_iff h hrow hmetric havailable hrepository hid
  have hcondition := hnumerator (fun other hother _ => hcreated other hother) hlength
  exact ⟨staged, h, repository, hrepository, row, hrow, hmetric, hstatus, hiff.mpr hcondition,
    hcondition⟩

end Dbt
