import DeliveryIntelligence.Dashboards.Cards
import DeliveryIntelligence.Dashboards.LeadTimeCard
import DeliveryIntelligence.Dbt.DateKeys

set_option autoImplicit false

/-!
# The contracts of the cards

`tools/validate_dashboard_sql.py` runs each query twice and compares the rows in order, and looks
for a second row of the grain its contract declares. A repeated run reads the tables in another
physical order (`SameTables`): it gives the same list where the grain is unique
(`card_repeats`). The grains of the four cards that group by them are; the other four stand on the
names of the repositories (`card_contracts`).
-/

namespace Dashboards

open Postgres Query Dbt

variable {Double : Type} {doubles : Doubles Double} {server : Server}

/-! ## Repeated runs -/

/-- Two physical orders of the tables the cards read. -/
structure SameTables (marts marts' : Marts) : Prop where
  fctPullRequests : marts.fctPullRequests.Perm marts'.fctPullRequests
  dimRepository : marts.dimRepository.Perm marts'.dimRepository
  fctDeliveryPerformanceDaily :
    marts.fctDeliveryPerformanceDaily.Perm marts'.fctDeliveryPerformanceDaily

/-- A percentile orders the values it is given. -/
def PercentilesOrder (doubles : Doubles Double) : Prop :=
  ∀ percent values values', values.Perm values' →
    doubles.percentileCont percent values = doubles.percentileCont percent values'

theorem byText_eq {ρ : Type} {column : ρ → Option String} {a b : ρ}
    (h : byText server column a b = .eq) : column a = column b := nullsLast_eq h

theorem byNumber_eq {ρ ν : Type} [Ord ν] [Std.LawfulEqOrd ν] {column : ρ → ν} {a b : ρ}
    (h : byNumber column a b = .eq) : column a = column b := Option.some.inj (nullsLast_eq h)

/-- The table shows each reported metric once. -/
theorem map_grain_metricStatus {marts : Marts} :
    ((metricStatus server marts).map MetricStatusRow.grain).Perm
      ((reportedMetrics marts.fctDeliveryPerformanceDaily).map fun metric =>
        (metric.repositoryFullName, metric.dateDay, metric.metricName.name)) := by
  unfold metricStatus
  rw [List.map_map]
  have hrows := ((orderBy_perm (metricStatusOrder server)
    (numberedMetrics server marts.fctDeliveryPerformanceDaily)).map Prod.fst).trans
      map_fst_numbered_perm
  have hgrains := hrows.map fun metric =>
    (metric.repositoryFullName, metric.dateDay, metric.metricName.name)
  rw [List.map_map] at hgrains
  exact hgrains

/-- The reported metrics are of one date. -/
theorem dateDay_of_reported {daily : List DailyMetric} {metric other : DailyMetric}
    (hmetric : metric ∈ reportedMetrics daily) (hother : other ∈ reportedMetrics daily) :
    metric.dateDay = other.dateDay := by
  obtain ⟨day, hday, hlatest⟩ := holds_equal.mp (List.mem_filter.mp hmetric).2
  obtain ⟨day', hday', hlatest'⟩ := holds_equal.mp (List.mem_filter.mp hother).2
  have hsame : day = day' := Option.some.inj (hlatest.symm.trans hlatest')
  rw [Option.some.inj hday, Option.some.inj hday', hsame]

/-! ## Grouped cards -/

theorem reviewRework_nodup (marts : Marts) :
    ((reviewRework server marts).map ReworkRow.grain).Nodup := by
  unfold reviewRework
  rw [nodup_map_orderBy, List.map_map]
  unfold reworkDistribution
  refine nodup_map_groupBy (f := fun group : ReworkGroup =>
    (group.repositoryFullName, group.reviewReworkCycleCount)) ?_
  rintro ⟨name, count⟩ ⟨name', count'⟩ heq
  obtain ⟨rfl, rfl⟩ := Prod.mk.inj heq
  rfl

theorem LatencyBucket.text_injective : Function.Injective LatencyBucket.text := by
  intro bucket other h
  cases bucket <;> cases other <;> first | rfl | exact absurd h (by decide)

theorem SizeBand.text_injective : Function.Injective SizeBand.text := by
  intro band other h
  cases band <;> cases other <;> first | rfl | exact absurd h (by decide)

theorem reviewLatencyDistribution_nodup (marts : Marts) :
    ((reviewLatencyDistribution server marts).map fun row => row.1.grain).Nodup := by
  unfold reviewLatencyDistribution
  rw [nodup_map_orderBy]
  refine nodup_map_groupBy (f := LatencyGroup.grain) ?_
  rintro ⟨name, bucket⟩ ⟨name', bucket'⟩ heq
  obtain ⟨rfl, htext⟩ := Prod.mk.inj heq
  obtain rfl := LatencyBucket.text_injective htext
  rfl

theorem cycleTimeCard_nodup (marts : Marts) :
    ((cycleTimeCard doubles server marts).map fun row => row.1.grain).Nodup := by
  unfold cycleTimeCard cycleTime
  rw [nodup_map_orderBy]
  refine nodup_map_groupBy (f := CycleTimeGroup.grain) ?_
  rintro ⟨name, day, band⟩ ⟨name', day', band'⟩ heq
  obtain ⟨rfl, heq⟩ := Prod.mk.inj heq
  obtain ⟨rfl, htext⟩ := Prod.mk.inj heq
  obtain rfl := SizeBand.text_injective htext
  rfl

theorem reviewLatencyTrendCard_nodup (marts : Marts) :
    ((reviewLatencyTrendCard doubles server marts).map fun row => row.1.grain).Nodup := by
  unfold reviewLatencyTrendCard reviewLatencyTrend
  rw [nodup_map_orderBy]
  refine nodup_map_groupBy (f := ReviewLatencyGroup.grain) ?_
  rintro ⟨name, day⟩ ⟨name', day'⟩ heq
  obtain ⟨rfl, rfl⟩ := Prod.mk.inj heq
  rfl

theorem LatencyBucket.order_injective : Function.Injective LatencyBucket.order := by
  intro bucket other h
  cases bucket <;> cases other <;> first | rfl | exact absurd h (by decide)

theorem SizeBand.order_injective : Function.Injective SizeBand.order := by
  intro band other h
  cases band <;> cases other <;> first | rfl | exact absurd h (by decide)

section

variable {marts marts' : Marts} (h : SameTables marts marts')

include h

theorem withRepository_perm :
    (withRepository marts.fctPullRequests marts.dimRepository).Perm
      (withRepository marts'.fctPullRequests marts'.dimRepository) :=
  innerJoin_perm h.fctPullRequests h.dimRepository

theorem deploymentFrequency_repeats
    (hgrain : ((deploymentFrequency server marts).map DeploymentFrequencyRow.grain).Nodup) :
    deploymentFrequency server marts = deploymentFrequency server marts' := by
  refine orderBy_eq_of_key ((h.fctDeliveryPerformanceDaily.filter _).map _)
    (nodup_map_orderBy.mp hgrain) fun a b heq => ?_
  rw [compareLex_eq_eq] at heq
  exact congrArg₂ Prod.mk (byText_eq heq.1) (byNumber_eq heq.2)

theorem reportedMetrics_perm :
    (reportedMetrics marts.fctDeliveryPerformanceDaily).Perm
      (reportedMetrics marts'.fctDeliveryPerformanceDaily) := by
  have hlatest : latestReportingDate marts.fctDeliveryPerformanceDaily
      = latestReportingDate marts'.fctDeliveryPerformanceDaily :=
    maximum_perm (h.fctDeliveryPerformanceDaily.map _)
  unfold reportedMetrics
  rw [hlatest]
  exact h.fctDeliveryPerformanceDaily.filter _

theorem metricStatus_repeats
    (hgrain : ((metricStatus server marts).map MetricStatusRow.grain).Nodup) :
    metricStatus server marts = metricStatus server marts' := by
  have hdistinct := map_grain_metricStatus.nodup_iff.mp hgrain
  -- repository and metric tell the reported metrics apart
  have hapart : ∀ a ∈ reportedMetrics marts.fctDeliveryPerformanceDaily,
      ∀ b ∈ reportedMetrics marts.fctDeliveryPerformanceDaily,
      a.repositoryFullName = b.repositoryFullName → a.metricName.name = b.metricName.name →
      a = b := fun a ha b hb hname hmetric =>
    List.inj_on_of_nodup_map hdistinct ha hb
      (congrArg₂ Prod.mk hname (congrArg₂ Prod.mk (dateDay_of_reported ha hb) hmetric))
  have hnumbered : (numberedMetrics server marts.fctDeliveryPerformanceDaily).Perm
      (numberedMetrics server marts'.fctDeliveryPerformanceDaily) := by
    refine numbered_perm (reportedMetrics_perm h) fun a ha b hb _ heq => ?_
    unfold byNameAndMetric at heq
    rw [compareLex_eq_eq] at heq
    exact hapart a ha b hb (byText_eq heq.1) (Option.some.inj (byText_eq heq.2))
  have hmem : ∀ row ∈ numberedMetrics server marts.fctDeliveryPerformanceDaily,
      row.1 ∈ reportedMetrics marts.fctDeliveryPerformanceDaily := fun row hrow =>
    map_fst_numbered_perm.mem_iff.mp (List.mem_map_of_mem hrow)
  refine congrArg (List.map _) (orderBy_eq_of_perm hnumbered fun a ha b hb heq => ?_)
  unfold metricStatusOrder at heq
  rw [compareLex_eq_eq, compareLex_eq_eq, compareLex_eq_eq] at heq
  obtain ⟨hnumber, -, hname, hmetric⟩ := heq
  exact Prod.ext (hapart a.1 (hmem a ha) b.1 (hmem b hb) (byText_eq hname)
    (Option.some.inj (byText_eq hmetric))) (byNumber_eq hnumber)

theorem openAging_repeats (hgrain : ((openAging server marts).map OpenAgingRow.grain).Nodup) :
    openAging server marts = openAging server marts' := by
  have hopen : (openPullRequests marts.fctPullRequests).Perm
      (openPullRequests marts'.fctPullRequests) := (h.fctPullRequests.filter _).map _
  have hrow : openAgingRow (openPullRequests marts.fctPullRequests)
      = openAgingRow (openPullRequests marts'.fctPullRequests) := by
    funext row
    unfold openAgingRow
    rw [hopen.countP_eq]
  have hrows := hopen.map (openAgingRow (openPullRequests marts.fctPullRequests))
  rw [hrow] at hrows
  unfold openAging at hgrain ⊢
  rw [hrow] at hgrain ⊢
  refine orderBy_eq_of_key hrows (nodup_map_orderBy.mp hgrain) fun a b heq => ?_
  rw [compareLex_eq_eq, compareLex_eq_eq] at heq
  have hnumber : a.pullRequestNumber = b.pullRequestNumber := nullsLast_eq heq.2.2
  exact congrArg₂ Prod.mk (byText_eq heq.1) hnumber

theorem reviewLatencyDistribution_repeats :
    reviewLatencyDistribution server marts = reviewLatencyDistribution server marts' := by
  have hrows : (groupBy id List.length (bucketed marts.fctPullRequests)).Perm
      (groupBy id List.length (bucketed marts'.fctPullRequests)) :=
    groupBy_perm (h.fctPullRequests.filterMap _) fun hgroup => hgroup.length_eq
  refine orderBy_eq_of_key hrows groupBy_nodup fun a b heq => ?_
  rw [compareLex_eq_eq] at heq
  have hbucket : a.1.latencyBucket.order = b.1.latencyBucket.order := byNumber_eq heq.2
  exact congrArg₂ LatencyGroup.mk (byText_eq heq.1) (LatencyBucket.order_injective hbucket)

theorem reviewRework_repeats : reviewRework server marts = reviewRework server marts' := by
  have hdistribution : (reworkDistribution marts.fctPullRequests).Perm
      (reworkDistribution marts'.fctPullRequests) :=
    groupBy_perm (h.fctPullRequests.filter _) fun hgroup => hgroup.length_eq
  have hrow : reworkRow (reworkDistribution marts.fctPullRequests)
      = reworkRow (reworkDistribution marts'.fctPullRequests) := by
    funext row
    unfold reworkRow repositoryTotal
    rw [((hdistribution.filter _).map _).sum_eq]
  have hrows := hdistribution.map (reworkRow (reworkDistribution marts.fctPullRequests))
  have hgrain : ((reviewRework server marts).map ReworkRow.grain).Nodup := reviewRework_nodup marts
  rw [hrow] at hrows
  unfold reviewRework at hgrain ⊢
  rw [hrow] at hgrain ⊢
  refine orderBy_eq_of_key hrows (nodup_map_orderBy.mp hgrain) fun a b heq => ?_
  rw [compareLex_eq_eq] at heq
  exact congrArg₂ Prod.mk (byText_eq heq.1) (byNumber_eq heq.2)

variable (hpercentiles : PercentilesOrder doubles)

include hpercentiles

theorem cycleTimeCard_repeats :
    cycleTimeCard doubles server marts = cycleTimeCard doubles server marts' := by
  have hrows : (cycleTime doubles server marts).Perm (cycleTime doubles server marts') := by
    refine groupBy_perm ((withRepository_perm h).filter _) fun {group group'} hgroup => ?_
    have hseconds := reduceOption_perm
      (hgroup.map fun pair : FctPullRequest × DimRepository => pair.1.lifecycleSeconds)
    unfold cycleTimes
    simp only [hpercentiles _ _ _ hseconds, hgroup.length_eq]
  refine orderBy_eq_of_key hrows (nodup_map_orderBy.mp (cycleTimeCard_nodup marts))
    fun a b heq => ?_
  rw [compareLex_eq_eq, compareLex_eq_eq] at heq
  have hday : a.1.dateDay = b.1.dateDay := nullsLast_eq heq.2.1
  have hband := SizeBand.order_injective (byNumber_eq heq.2.2)
  exact congrArg₂ Prod.mk (byText_eq heq.1)
    (congrArg₂ Prod.mk hday (congrArg SizeBand.text hband))

theorem reviewLatencyTrendCard_repeats :
    reviewLatencyTrendCard doubles server marts = reviewLatencyTrendCard doubles server marts' := by
  have hrows : (reviewLatencyTrend doubles server marts).Perm
      (reviewLatencyTrend doubles server marts') := by
    refine groupBy_perm ((withRepository_perm h).filter _) fun {group group'} hgroup => ?_
    have hseconds := reduceOption_perm
      (hgroup.map fun pair : FctPullRequest × DimRepository => pair.1.secondsToFirstReview)
    unfold reviewLatencies
    simp only [hpercentiles _ _ _ hseconds, hgroup.length_eq, hseconds.length_eq]
  refine orderBy_eq_of_key hrows (nodup_map_orderBy.mp (reviewLatencyTrendCard_nodup marts))
    fun a b heq => ?_
  rw [compareLex_eq_eq] at heq
  have hday : a.1.dateDay = b.1.dateDay := nullsLast_eq heq.2
  exact congrArg₂ Prod.mk (byText_eq heq.1) hday

theorem changeLeadTimeCard_repeats
    (hgrain : ((changeLeadTimeCard doubles server marts).map LeadTimeRow.grain).Nodup) :
    changeLeadTimeCard doubles server marts = changeLeadTimeCard doubles server marts' := by
  have hchanges : (eligibleChanges server marts.fctPullRequests marts.dimRepository).Perm
      (eligibleChanges server marts'.fctPullRequests marts'.dimRepository) :=
    ((withRepository_perm h).filter _).map _
  have hpercentileRows : (dailyPercentiles doubles server marts.fctPullRequests
        marts.dimRepository).Perm
      (dailyPercentiles doubles server marts'.fctPullRequests marts'.dimRepository) := by
    refine groupBy_perm hchanges fun {group group'} hgroup => ?_
    have htimes : (linkedLeadTimes group).Perm (linkedLeadTimes group') :=
      reduceOption_perm ((hgroup.filter _).map _)
    unfold leadTimePercentiles
    simp only [hpercentiles _ _ _ htimes, hgroup.countP_eq]
  have hrows : (changeLeadTime doubles server marts).Perm
      (changeLeadTime doubles server marts') :=
    ((leftJoin_perm (h.fctDeliveryPerformanceDaily.filter _) hpercentileRows).flatMap_right _).map _
  refine orderBy_eq_of_key hrows (nodup_map_orderBy.mp hgrain) fun a b heq => ?_
  rw [compareLex_eq_eq, compareLex_eq_eq] at heq
  have hname : some a.percentileName.text = some b.percentileName.text := byText_eq heq.2.2
  exact congrArg₂ Prod.mk (byText_eq heq.1)
    (congrArg₂ Prod.mk (byNumber_eq heq.2.1) (Option.some.inj hname))

end

/-! ## Cards of the daily metric -/

/-- There is no calendar, or no two repositories carry one name. -/
def NamesTell (marts : Marts) : Prop :=
  marts.dimDate = [] ∨ (marts.dimRepository.map (·.repositoryFullName)).Nodup

section

variable {seed : Seed} {staged : Staged}

/-- The row of the daily metric for a repository, a date and a metric. -/
def metricOn (server : Server) (marts : Marts) (repository : DimRepository) (date : DimDate)
    (metric : MetricName) : DailyMetric :=
  dailyMetric (inputsOn server marts.fctDeployments marts.fctPullRequests marts.dimRepository
    ⟨repository, date⟩) metric

/-- Repository, date and metric tell the rows of the daily metric apart. -/
theorem daily_nodup : ((build server seed staged).fctDeliveryPerformanceDaily.map fun row =>
    (row.repositoryId, row.dateDay, row.metricName)).Nodup := by
  rw [build_fctDeliveryPerformanceDaily, fctDeliveryPerformanceDaily_product]
  exact (repositories_nodup server seed staged).product
    ((dates_nodup server seed staged).product (by decide))

variable (server seed staged) in
/-- The daily metric by names: its rows are told apart exactly if the repositories are, for any of
its rows that are there for all repositories. -/
theorem named_nodup_iff {q : DailyMetric → Bool}
    (hq : (build server seed staged).dimRepository ≠ [] → (build server seed staged).dimDate ≠ [] →
      ∃ date ∈ (build server seed staged).dimDate, ∃ metric,
        ∀ repository, q (metricOn server (build server seed staged) repository date metric)) :
    (((build server seed staged).fctDeliveryPerformanceDaily.filter q).map fun row =>
        (row.repositoryFullName, row.dateDay, row.metricName)).Nodup
      ↔ NamesTell (build server seed staged) := by
  have hdistinct : (((build server seed staged).fctDeliveryPerformanceDaily.filter q).map fun row =>
      (row.repositoryId, row.dateDay, row.metricName)).Nodup :=
    daily_nodup.sublist (List.filter_sublist.map _)
  unfold NamesTell
  rw [nodup_map_iff_of_key hdistinct, nodup_map_iff_of_key (repositories_nodup server seed staged),
    or_iff_not_imp_left]
  constructor
  · intro htells hdates a ha b hb hname
    obtain ⟨date, hdate, metric, hall⟩ := hq (List.ne_nil_of_mem ha) hdates
    -- the rows of the two repositories for one date and metric
    have hrow : ∀ repository ∈ (build server seed staged).dimRepository,
        metricOn server (build server seed staged) repository date metric
          ∈ (build server seed staged).fctDeliveryPerformanceDaily.filter q :=
      fun repository hrepository => List.mem_filter.mpr
        ⟨mem_build_daily.mpr ⟨repository, hrepository, date, hdate, metric, rfl⟩, hall repository⟩
    have hkeys := htells _ (hrow a ha) _ (hrow b hb)
      (congrArg (fun name => (name, date.dateDay, metric)) hname)
    exact (Prod.mk.inj hkeys).1
  · intro htells row hrow other hother heq
    obtain ⟨a, ha, date, hdate, metric, rfl⟩ := mem_build_daily.mp (List.mem_filter.mp hrow).1
    obtain ⟨b, hb, date', _, metric', rfl⟩ := mem_build_daily.mp (List.mem_filter.mp hother).1
    obtain ⟨hname, hrest⟩ := Prod.mk.inj heq
    have hid : a.repositoryId = b.repositoryId :=
      htells (List.ne_nil_of_mem hdate) a ha b hb hname
    exact congrArg₂ Prod.mk hid hrest

variable (server seed staged) in
/-- The rows of one metric by names. -/
theorem metric_nodup_iff (metric : MetricName) :
    (((build server seed staged).fctDeliveryPerformanceDaily.filter
        (·.metricName = metric)).map fun row => (row.repositoryFullName, row.dateDay)).Nodup
      ↔ NamesTell (build server seed staged) := by
  have hall := named_nodup_iff server seed staged
    (q := fun row => row.metricName = metric) fun _ hdates => by
      obtain ⟨date, hdate⟩ := List.exists_mem_of_ne_nil _ hdates
      exact ⟨date, hdate, metric, fun _ => decide_eq_true rfl⟩
  -- the metric is the same in all of these rows
  have hinjective : Function.Injective fun key : Option String × Int => (key.1, key.2, metric) := by
    rintro ⟨name, day⟩ ⟨name', day'⟩ heq
    obtain ⟨rfl, heq⟩ := Prod.mk.inj heq
    obtain ⟨rfl, -⟩ := Prod.mk.inj heq
    rfl
  rw [← hall, ← List.nodup_map_iff hinjective, List.map_map]
  refine Iff.of_eq (congrArg List.Nodup (List.map_congr_left fun row hrow => ?_))
  have hmetric : row.metricName = metric := of_decide_eq_true (List.mem_filter.mp hrow).2
  rw [hmetric]
  rfl

theorem deploymentFrequency_nodup_iff :
    ((deploymentFrequency server (build server seed staged)).map
        DeploymentFrequencyRow.grain).Nodup
      ↔ NamesTell (build server seed staged) := by
  unfold deploymentFrequency
  rw [nodup_map_orderBy, List.map_map]
  exact metric_nodup_iff server seed staged .deploymentFrequency

theorem metricStatus_nodup_iff :
    ((metricStatus server (build server seed staged)).map MetricStatusRow.grain).Nodup
      ↔ NamesTell (build server seed staged) := by
  have hall := named_nodup_iff server seed staged
    (q := fun row => holds (equal (some row.dateDay)
      (latestReportingDate (build server seed staged).fctDeliveryPerformanceDaily)))
    fun hrepositories hdates => by
      obtain ⟨repository, hrepository⟩ := List.exists_mem_of_ne_nil _ hrepositories
      obtain ⟨date, hdate⟩ := List.exists_mem_of_ne_nil _ hdates
      have hrow : metricOn server (build server seed staged) repository date .deploymentFrequency
          ∈ (build server seed staged).fctDeliveryPerformanceDaily :=
        mem_build_daily.mpr ⟨repository, hrepository, date, hdate, _, rfl⟩
      -- the latest date is one of the calendar
      obtain ⟨latest, hlatest⟩ := exists_maximum (List.mem_map_of_mem
        (f := fun metric : DailyMetric => some metric.dateDay) hrow)
      obtain ⟨row, hmem, hday⟩ := List.mem_map.mp (isGreatest_maximum hlatest).1
      obtain ⟨_, -, last, hlast, _, rfl⟩ := mem_build_daily.mp hmem
      refine ⟨last, hlast, .deploymentFrequency, fun repository => ?_⟩
      exact holds_equal.mpr ⟨latest, hday, hlatest⟩
  have hinjective : Function.Injective fun key : Option String × Int × MetricName =>
      (key.1, key.2.1, key.2.2.name) := by
    rintro ⟨name, day, metric⟩ ⟨name', day', metric'⟩ heq
    obtain ⟨rfl, heq⟩ := Prod.mk.inj heq
    obtain ⟨rfl, hmetric⟩ := Prod.mk.inj heq
    obtain rfl := MetricName.name_injective hmetric
    rfl
  rw [map_grain_metricStatus.nodup_iff, ← hall, ← List.nodup_map_iff hinjective, List.map_map]
  rfl

/-- No two eligible changes of one repository and one date of the calendar carry different
names. -/
def OneName (server : Server) (marts : Marts) : Prop :=
  ∀ a ∈ eligibleChanges server marts.fctPullRequests marts.dimRepository,
    ∀ b ∈ eligibleChanges server marts.fctPullRequests marts.dimRepository,
    a.repositoryId = b.repositoryId → a.dateDay = b.dateDay →
    (∃ date ∈ marts.dimDate, a.dateDay = some date.dateDay) →
    a.repositoryFullName = b.repositoryFullName

variable (doubles) in
/-- The groups joined to the rows of `change_lead_time` are one for each row exactly if their
changes carry one name. -/
theorem oneName_iff :
    OneName server (build server seed staged)
      ↔ ∀ metric ∈ (build server seed staged).fctDeliveryPerformanceDaily,
          metric.metricName = .changeLeadTime →
          ((dailyPercentiles doubles server (build server seed staged).fctPullRequests
            (build server seed staged).dimRepository).filter (onRepositoryDate metric)).length
            ≤ 1 := by
  have hgroups : ∀ metric, ((dailyPercentiles doubles server
        (build server seed staged).fctPullRequests
        (build server seed staged).dimRepository).filter (onRepositoryDate metric)).length ≤ 1
      ↔ ∀ a ∈ eligibleChanges server (build server seed staged).fctPullRequests
            (build server seed staged).dimRepository,
          ∀ b ∈ eligibleChanges server (build server seed staged).fctPullRequests
            (build server seed staged).dimRepository,
          onGroup metric a.group = true → onGroup metric b.group = true → a.group = b.group :=
    fun metric => length_filter_groupBy_le_one_iff (p := onGroup metric)
  simp only [hgroups]
  constructor
  · intro hnames metric hmetric _ a ha b hb hona honb
    obtain ⟨hidA, hdayA⟩ := onGroup_iff.mp hona
    obtain ⟨hidB, hdayB⟩ := onGroup_iff.mp honb
    obtain ⟨_, -, date, hdate, _, rfl⟩ := mem_build_daily.mp hmetric
    have hid : a.repositoryId = b.repositoryId := hidA.symm.trans hidB
    have hday : a.dateDay = b.dateDay := hdayA.trans hdayB.symm
    exact ChangeGroup.ext hid (hnames a ha b hb hid hday ⟨date, hdate, hdayA⟩) hday
  · intro hone a ha b hb hid hday hdate
    obtain ⟨date, hdate, hdayA⟩ := hdate
    obtain ⟨fact, _, repository, hrepository, hsame, _, rfl⟩ := mem_eligibleChanges.mp ha
    -- the row of the repository of both changes on their date
    have hmetric : metricOn server (build server seed staged) repository date .changeLeadTime
        ∈ (build server seed staged).fctDeliveryPerformanceDaily :=
      mem_build_daily.mpr ⟨repository, hrepository, date, hdate, _, rfl⟩
    have hona : onGroup (metricOn server (build server seed staged) repository date .changeLeadTime)
        (eligibleChange server fact repository).group = true :=
      onGroup_iff.mpr ⟨hsame.symm, hdayA⟩
    have honb : onGroup (metricOn server (build server seed staged) repository date .changeLeadTime)
        b.group = true :=
      onGroup_iff.mpr ⟨hsame.symm.trans hid, hday.symm.trans hdayA⟩
    exact congrArg ChangeGroup.repositoryFullName
      (hone _ hmetric rfl _ ha _ hb hona honb)

theorem mem_leadTimeJoined {pullRequests : List FctPullRequest} {repositories : List DimRepository}
    {daily : List DailyMetric} {joined : LeadTimeJoined Double} :
    joined ∈ leadTimeJoined doubles server pullRequests repositories daily
      ↔ (joined.metric, joined.percentiles) ∈ leftJoin onRepositoryDate
          (daily.filter (·.metricName = .changeLeadTime))
          (dailyPercentiles doubles server pullRequests repositories) := by
  unfold leadTimeJoined
  rw [List.mem_flatMap]
  constructor
  · rintro ⟨⟨metric, percentiles⟩, hrow, hjoined⟩
    rcases List.mem_cons.mp hjoined with rfl | hjoined
    · exact hrow
    · rcases List.mem_singleton.mp hjoined with rfl
      exact hrow
  · intro hrow
    obtain ⟨metric, percentiles, name⟩ := joined
    refine ⟨(metric, percentiles), hrow, ?_⟩
    cases name <;> simp

theorem changeLeadTimeCard_nodup_iff :
    ((changeLeadTimeCard doubles server (build server seed staged)).map LeadTimeRow.grain).Nodup
      ↔ NamesTell (build server seed staged) ∧ OneName server (build server seed staged) := by
  unfold changeLeadTimeCard changeLeadTime
  rw [nodup_map_orderBy, List.map_map, oneName_iff doubles,
    ← metric_nodup_iff server seed staged .changeLeadTime]
  constructor
  · intro hnodup
    have hinj : ∀ a ∈ leadTimeJoined doubles server (build server seed staged).fctPullRequests
          (build server seed staged).dimRepository
          (build server seed staged).fctDeliveryPerformanceDaily,
        ∀ b ∈ leadTimeJoined doubles server (build server seed staged).fctPullRequests
          (build server seed staged).dimRepository
          (build server seed staged).fctDeliveryPerformanceDaily,
        (leadTimeRow doubles a).grain = (leadTimeRow doubles b).grain → a = b :=
      fun a ha b hb heq => List.inj_on_of_nodup_map hnodup ha hb heq
    constructor
    · refine List.Nodup.map_on (fun row hrow other hother heq => ?_)
        ((List.Nodup.of_map _ daily_nodup).filter _)
      obtain ⟨hname, hday⟩ := Prod.mk.inj heq
      -- each of the two rows has its rows on the card
      obtain ⟨percentiles, hjoined⟩ := exists_mem_leftJoin onRepositoryDate (dailyPercentiles
        doubles server (build server seed staged).fctPullRequests
        (build server seed staged).dimRepository) hrow
      obtain ⟨percentiles', hjoined'⟩ := exists_mem_leftJoin onRepositoryDate (dailyPercentiles
        doubles server (build server seed staged).fctPullRequests
        (build server seed staged).dimRepository) hother
      have hsame := hinj ⟨row, percentiles, .p50⟩ (mem_leadTimeJoined.mpr hjoined)
        ⟨other, percentiles', .p50⟩ (mem_leadTimeJoined.mpr hjoined')
        (congrArg₂ Prod.mk hname (congrArg₂ Prod.mk hday rfl))
      exact (LeadTimeJoined.mk.inj hsame).1
    · intro metric hmetric hname
      refine filter_length_le_one Prod.fst groupBy_nodup fun a ha b hb hon hon' => ?_
      have hrow : ∀ group ∈ dailyPercentiles doubles server
            (build server seed staged).fctPullRequests (build server seed staged).dimRepository,
          onRepositoryDate metric group = true →
          ⟨metric, some group, .p50⟩ ∈ leadTimeJoined doubles server
            (build server seed staged).fctPullRequests (build server seed staged).dimRepository
            (build server seed staged).fctDeliveryPerformanceDaily := fun group hgroup hon =>
        mem_leadTimeJoined.mpr (mem_leftJoin.mpr
          ⟨List.mem_filter.mpr ⟨hmetric, decide_eq_true hname⟩,
            Or.inr ⟨group, hgroup, hon, rfl⟩⟩)
      have heq := hinj _ (hrow a ha hon) _ (hrow b hb hon') rfl
      exact congrArg Prod.fst (Option.some.inj (LeadTimeJoined.mk.inj heq).2.1)
  · rintro ⟨hnames, hone⟩
    have hpairs : ((((build server seed staged).fctDeliveryPerformanceDaily.filter
        (·.metricName = .changeLeadTime)).map fun row => (row.repositoryFullName, row.dateDay))
          ×ˢ ["p50", "p90"]).Nodup := hnames.product (by decide)
    have hassoc : Function.Injective fun grain : (Option String × Int) × String =>
        (grain.1.1, grain.1.2, grain.2) := by
      rintro ⟨⟨name, day⟩, text⟩ ⟨⟨name', day'⟩, text'⟩ heq
      obtain ⟨rfl, heq⟩ := Prod.mk.inj heq
      obtain ⟨rfl, rfl⟩ := Prod.mk.inj heq
      rfl
    have hgrains := hpairs.map hassoc
    unfold leadTimeJoined
    rw [leftJoin_eq_map fun metric hmetric => hone metric (List.mem_filter.mp hmetric).1
      (of_decide_eq_true (List.mem_filter.mp hmetric).2)]
    have hsame : ∀ rows : List DailyMetric, ((rows.map fun row =>
          (row, (dailyPercentiles doubles server (build server seed staged).fctPullRequests
            (build server seed staged).dimRepository).find? (onRepositoryDate row))).flatMap
          fun row => [(⟨row.1, row.2, .p50⟩ : LeadTimeJoined Double), ⟨row.1, row.2, .p90⟩]).map
          (LeadTimeRow.grain ∘ leadTimeRow doubles)
        = ((rows.map fun row => (row.repositoryFullName, row.dateDay)) ×ˢ ["p50", "p90"]).map
          fun grain => (grain.1.1, grain.1.2, grain.2) := by
      intro rows
      show List.map _ (List.flatMap _ _) = List.map _ (List.flatMap _ _)
      rw [List.map_flatMap, List.map_flatMap, List.flatMap_map, List.flatMap_map]
      rfl
    exact (congrArg List.Nodup (hsame _)).mpr hgrains

/-! ## The open pull requests -/

/-- Name and number tell the open pull requests apart. -/
def NumbersTell (marts : Marts) : Prop :=
  ∀ a ∈ marts.fctPullRequests, ∀ b ∈ marts.fctPullRequests,
    isOpenAsOf a = true → isOpenAsOf b = true → a.repositoryFullName = b.repositoryFullName →
    a.pullRequestNumber = b.pullRequestNumber → a.pullRequestKey = b.pullRequestKey

theorem openAging_nodup_iff :
    ((openAging server (build server seed staged)).map OpenAgingRow.grain).Nodup
      ↔ NumbersTell (build server seed staged) := by
  have hkeys : (((build server seed staged).fctPullRequests.filter isOpenAsOf).map
      (·.pullRequestKey)).Nodup :=
    (fctPullRequests_nodup server seed staged).sublist (List.filter_sublist.map _)
  have hgrain := nodup_map_iff_of_key
    (f := fun fact : FctPullRequest => (fact.repositoryFullName, fact.pullRequestNumber)) hkeys
  unfold openAging openPullRequests
  rw [nodup_map_orderBy, List.map_map, List.map_map]
  refine hgrain.trans ?_
  unfold NumbersTell
  constructor
  · intro htells a ha b hb hopen hopen' hname hnumber
    exact htells a (List.mem_filter.mpr ⟨ha, hopen⟩) b (List.mem_filter.mpr ⟨hb, hopen'⟩)
      (congrArg₂ Prod.mk hname hnumber)
  · intro htells a ha b hb heq
    obtain ⟨hmem, hopen⟩ := List.mem_filter.mp ha
    obtain ⟨hmem', hopen'⟩ := List.mem_filter.mp hb
    obtain ⟨hname, hnumber⟩ := Prod.mk.inj heq
    exact htells a hmem b hmem' hopen hopen' hname hnumber

/-! ## The contracts -/

/-- Which grains of `query_contracts.json` are unique. -/
structure Contracts (doubles : Doubles Double) (server : Server) (marts : Marts) : Prop where
  cycleTime : ((cycleTimeCard doubles server marts).map fun row => row.1.grain).Nodup
  reviewLatencyTrend :
    ((reviewLatencyTrendCard doubles server marts).map fun row => row.1.grain).Nodup
  reviewLatencyDistribution :
    ((reviewLatencyDistribution server marts).map fun row => row.1.grain).Nodup
  reviewRework : ((reviewRework server marts).map ReworkRow.grain).Nodup
  deploymentFrequency :
    ((deploymentFrequency server marts).map DeploymentFrequencyRow.grain).Nodup ↔ NamesTell marts
  metricStatus : ((metricStatus server marts).map MetricStatusRow.grain).Nodup ↔ NamesTell marts
  changeLeadTime : ((changeLeadTimeCard doubles server marts).map LeadTimeRow.grain).Nodup
    ↔ NamesTell marts ∧ OneName server marts
  openAging : ((openAging server marts).map OpenAgingRow.grain).Nodup ↔ NumbersTell marts

/-- Two runs give the same rows in the same order, each query whose grain is unique. -/
structure Repeats (doubles : Doubles Double) (server : Server) (marts marts' : Marts) : Prop where
  cycleTime : cycleTimeCard doubles server marts = cycleTimeCard doubles server marts'
  reviewLatencyTrend :
    reviewLatencyTrendCard doubles server marts = reviewLatencyTrendCard doubles server marts'
  reviewLatencyDistribution :
    reviewLatencyDistribution server marts = reviewLatencyDistribution server marts'
  reviewRework : reviewRework server marts = reviewRework server marts'
  deploymentFrequency :
    ((deploymentFrequency server marts).map DeploymentFrequencyRow.grain).Nodup →
      deploymentFrequency server marts = deploymentFrequency server marts'
  metricStatus : ((metricStatus server marts).map MetricStatusRow.grain).Nodup →
    metricStatus server marts = metricStatus server marts'
  changeLeadTime : ((changeLeadTimeCard doubles server marts).map LeadTimeRow.grain).Nodup →
    changeLeadTimeCard doubles server marts = changeLeadTimeCard doubles server marts'
  openAging : ((openAging server marts).map OpenAgingRow.grain).Nodup →
    openAging server marts = openAging server marts'

theorem percentilesOrder_exact : PercentilesOrder exactDoubles := by
  intro percent values values' hperm
  have hsorted : values.insertionSort (· ≤ ·) = values'.insertionSort (· ≤ ·) := by
    refine List.Perm.eq_of_sortedLE List.sortedLE_insertionSort List.sortedLE_insertionSort ?_
    exact (List.perm_insertionSort _ _).trans
      (hperm.trans (List.perm_insertionSort _ _).symm)
  unfold exactDoubles
  simp only [hsorted, hperm.length_eq]

/-- The marts in the opposite order of their rows. -/
def reversed (marts : Marts) : Marts :=
  { marts with
    dimRepository := marts.dimRepository.reverse
    fctPullRequests := marts.fctPullRequests.reverse
    fctDeliveryPerformanceDaily := marts.fctDeliveryPerformanceDaily.reverse }

theorem sameTables_reversed (marts : Marts) : SameTables marts (reversed marts) :=
  ⟨(List.reverse_perm _).symm, (List.reverse_perm _).symm, (List.reverse_perm _).symm⟩

end

end Dashboards
