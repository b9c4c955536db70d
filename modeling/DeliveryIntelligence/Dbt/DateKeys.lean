import DeliveryIntelligence.Dbt.Calendar
import DeliveryIntelligence.Dbt.Grain

set_option autoImplicit false

/-!
# Date keys

`dim_date.date_key` writes a calendar date as a number of eight digits, and a row of
`fct_delivery_performance_daily` is identified by the text of its repository, date key and metric.
Both tell their rows apart, but for one case: a year before the common era is shown without its
sign.
-/

namespace Datetime

/-! ## The calendar -/

/-- The year of a day in its era of 400 years. -/
def yearOfEra (dayOfEra : Int) : Int :=
  (dayOfEra - dayOfEra / 1460 + dayOfEra / 36524 - dayOfEra / 146096) / 365

theorem yearOfEra_lt {d : Int} (hnonneg : 0 ≤ d) (hlt : d < 146097) :
    0 ≤ yearOfEra d ∧ yearOfEra d < 400 := by
  unfold yearOfEra
  constructor <;> omega

/-- The last day of an era is the only one beyond four full centuries. -/
theorem century_eq {d : Int} (hnonneg : 0 ≤ d) (hlt : d < 146097) :
    yearOfEra d / 100 = d / 36524 - d / 146096 := by
  have hcentury : d / 36524 = 0 ∨ d / 36524 = 1 ∨ d / 36524 = 2 ∨ d / 36524 = 3
      ∨ d / 36524 = 4 := by
    omega
  unfold yearOfEra
  rcases hcentury with h | h | h | h | h <;> rw [h] <;> omega

/-- The day of a year that begins on 1 March. -/
def dayOfYear (dayOfEra : Int) : Int :=
  dayOfEra - (365 * yearOfEra dayOfEra + yearOfEra dayOfEra / 4 - yearOfEra dayOfEra / 100)

theorem dayOfYear_lt {d : Int} (hnonneg : 0 ≤ d) (hlt : d < 146097) :
    0 ≤ dayOfYear d ∧ dayOfYear d < 366 := by
  unfold dayOfYear
  rw [century_eq hnonneg hlt]
  have hyear : yearOfEra d = (d - d / 1460 + d / 36524 - d / 146096) / 365 := rfl
  generalize yearOfEra d = year at *
  -- a year begins a day later than the one before it, and behind a leap year another one
  have hleap : year % 4 = 0 ∨ year % 4 = 1 ∨ year % 4 = 2 ∨ year % 4 = 3 := by omega
  have hcentury : d / 36524 = 0 ∨ d / 36524 = 1 ∨ d / 36524 = 2 ∨ d / 36524 = 3
      ∨ d / 36524 = 4 := by
    omega
  rcases hcentury with h | h | h | h | h <;> rcases hleap with h' | h' | h' | h' <;>
    constructor <;> omega

/-- What a day number is made of: its era, the year in the era, the month counted from March and
the day of the month. -/
theorem civilOfDays_parts (days : Int) :
    ∃ era year monthIndex day : Int, 0 ≤ year ∧ year < 400 ∧ 0 ≤ monthIndex ∧ monthIndex < 12
      ∧ 1 ≤ day ∧ day ≤ 31
      ∧ days = era * 146097 + (365 * year + year / 4 - year / 100)
          + ((153 * monthIndex + 2) / 5 + day - 1) - 719468
      ∧ (civilOfDays days).month = (if monthIndex < 10 then monthIndex + 3 else monthIndex - 9)
      ∧ (civilOfDays days).year = year + era * 400 + (if (civilOfDays days).month ≤ 2 then 1 else 0)
      ∧ (civilOfDays days).day = day := by
  have hnonneg : 0 ≤ (days + 719468) % 146097 := by omega
  have hlt : (days + 719468) % 146097 < 146097 := by omega
  obtain ⟨hyear, hyear'⟩ := yearOfEra_lt hnonneg hlt
  obtain ⟨hday, hday'⟩ := dayOfYear_lt hnonneg hlt
  have hera : days + 719468 = (days + 719468) / 146097 * 146097 + (days + 719468) % 146097 := by
    omega
  have hdayOfEra : (days + 719468) % 146097
      = 365 * yearOfEra ((days + 719468) % 146097) + yearOfEra ((days + 719468) % 146097) / 4
        - yearOfEra ((days + 719468) % 146097) / 100 + dayOfYear ((days + 719468) % 146097) := by
    unfold dayOfYear
    omega
  refine ⟨(days + 719468) / 146097, yearOfEra ((days + 719468) % 146097),
    (5 * dayOfYear ((days + 719468) % 146097) + 2) / 153,
    dayOfYear ((days + 719468) % 146097)
      - (153 * ((5 * dayOfYear ((days + 719468) % 146097) + 2) / 153) + 2) / 5 + 1,
    hyear, hyear', ?_, ?_, ?_, ?_, ?_, rfl, rfl, rfl⟩
  · omega
  · omega
  · omega
  · omega
  · omega

/-- The month and the day of a date have at most two digits. -/
theorem civilOfDays_bounds (days : Int) :
    1 ≤ (civilOfDays days).month ∧ (civilOfDays days).month ≤ 12
      ∧ 1 ≤ (civilOfDays days).day ∧ (civilOfDays days).day ≤ 31 := by
  obtain ⟨era, year, monthIndex, day, -, -, hmonth, hmonth', hday, hday', -, hm, -, hd⟩ :=
    civilOfDays_parts days
  rw [hm, hd]
  split_ifs <;> omega

/-- A day has one calendar date. -/
theorem civilOfDays_injective : Function.Injective civilOfDays := by
  intro days days' h
  obtain ⟨era, year, monthIndex, day, hyear, hlt, hmonth, hmonth', -, -, hdays, hm, hy, hd⟩ :=
    civilOfDays_parts days
  obtain ⟨era', year', monthIndex', day', hyear', hlt', hmonth₁, hmonth₂, -, -, hdays', hm', hy',
    hd'⟩ := civilOfDays_parts days'
  rw [h] at hm hy hd
  have hdayEq : day = day' := hd.symm.trans hd'
  have hmonthEq : monthIndex = monthIndex' := by
    rw [hm] at hm'
    split_ifs at hm' <;> omega
  have hyears : year + era * 400 = year' + era' * 400 := by
    rw [hy] at hy'
    omega
  have heraEq : era = era' := by omega
  have hyearEq : year = year' := by omega
  rw [hdays, hdays', heraEq, hyearEq, hmonthEq, hdayEq]

end Datetime

namespace Dbt

open Datetime Query

/-! ## `date_key` -/

/-- A date of the common era and one before it that are shown by one number. -/
def Mirrored (day day' : Int) : Prop :=
  0 < (civilOfDays day).year ∧ (civilOfDays day').year = 1 - (civilOfDays day).year
    ∧ (civilOfDays day').month = (civilOfDays day).month
    ∧ (civilOfDays day').day = (civilOfDays day).day

instance (day day' : Int) : Decidable (Mirrored day day') :=
  inferInstanceAs (Decidable (_ ∧ _))

/-- Two dates have one key exactly if they are one date, or one is shown like the other. -/
theorem dateKey_eq_iff {day day' : Int} :
    dateKey day = dateKey day' ↔ day = day' ∨ Mirrored day day' ∨ Mirrored day' day := by
  obtain ⟨hmonth, hmonth', hday, hday'⟩ := civilOfDays_bounds day
  obtain ⟨hmonth₁, hmonth₂, hday₁, hday₂⟩ := civilOfDays_bounds day'
  unfold dateKey Mirrored
  constructor
  · intro h
    simp only at h
    -- the last two digits are the day, the two before it the month
    have hdayEq : (civilOfDays day).day = (civilOfDays day').day := by split_ifs at h <;> omega
    have hmonthEq : (civilOfDays day).month = (civilOfDays day').month := by
      split_ifs at h <;> omega
    by_cases hyear : (civilOfDays day).year = (civilOfDays day').year
    · left
      apply civilOfDays_injective
      cases hcivil : civilOfDays day
      cases hcivil' : civilOfDays day'
      rw [hcivil, hcivil'] at hyear hmonthEq hdayEq
      simp only at hyear hmonthEq hdayEq
      rw [hyear, hmonthEq, hdayEq]
    · right
      split_ifs at h <;> omega
  · rintro (rfl | ⟨hpos, hy, hm, hd⟩ | ⟨hpos, hy, hm, hd⟩)
    · rfl
    · simp only
      rw [if_pos hpos, if_neg (by omega), hm, hd, hy]
      omega
    · simp only
      rw [if_pos hpos, if_neg (by omega), hm, hd, hy]
      omega

theorem dateKey_of_mem_dimDate {pullRequests : List PullRequest}
    {deployments : List ProductionDeployment} {date : DimDate}
    (h : date ∈ dimDate pullRequests deployments) : date.dateKey = dateKey date.dateDay := by
  unfold dimDate at h
  simp only at h
  split at h
  · obtain ⟨day, -, rfl⟩ := List.mem_map.mp h
    rfl
  · cases h

section

variable {server : Server} {seed : Seed} {staged : Staged}

/-- The date keys are told apart exactly if no date of the calendar is shown like another. -/
theorem dateKeys_nodup_iff :
    ((build server seed staged).dimDate.map (·.dateKey)).Nodup
      ↔ ∀ date ∈ (build server seed staged).dimDate, ∀ other ∈ (build server seed staged).dimDate,
        ¬ Mirrored date.dateDay other.dateDay := by
  have hkey : ∀ date ∈ (build server seed staged).dimDate,
      date.dateKey = dateKey date.dateDay := by
    rw [build_dimDate]
    exact fun date => dateKey_of_mem_dimDate
  rw [nodup_map_iff_of_key (dates_nodup server seed staged)]
  constructor
  · intro htells date hdate other hother hmirrored
    have heq : date.dateKey = other.dateKey := by
      rw [hkey date hdate, hkey other hother]
      exact dateKey_eq_iff.mpr (Or.inr (Or.inl hmirrored))
    have hday := htells date hdate other hother heq
    obtain ⟨hpos, hyear, -⟩ := hmirrored
    rw [← hday] at hyear
    omega
  · intro hmirrored date hdate other hother heq
    rw [hkey date hdate, hkey other hother, dateKey_eq_iff] at heq
    rcases heq with heq | heq | heq
    · exact heq
    · exact absurd heq (hmirrored date hdate other hother)
    · exact absurd heq (hmirrored other hother date hdate)

/-! ## `delivery_performance_daily_key` -/

theorem MetricName.name_injective : Function.Injective MetricName.name := by
  intro metric other h
  cases metric <;> cases other <;> first | rfl | exact absurd h (by decide)

/-- The text tells the repository, the date key and the metric. -/
theorem dailyKey_inj {repositoryId repositoryId' key key' : Int} {metric metric' : MetricName}
    (h : toString repositoryId ++ ":" ++ toString key ++ ":" ++ metric.name
      = toString repositoryId' ++ ":" ++ toString key' ++ ":" ++ metric'.name) :
    repositoryId = repositoryId' ∧ key = key' ∧ metric = metric' := by
  have hlists := congrArg String.toList h
  simp only [String.toList_append, List.append_assoc] at hlists
  have hcolon : (":" : String).toList = [':'] := rfl
  rw [hcolon] at hlists
  have hdigits : ∀ n : Int, ':' ∉ (toString n).toList := fun n =>
    Text.notMem_intText (n := n) (by decide) (by decide)
  obtain ⟨hid, hrest⟩ :=
    Text.append_separator_inj (hdigits repositoryId) (hdigits repositoryId') hlists
  obtain ⟨hkey, hname⟩ := Text.append_separator_inj (hdigits key) (hdigits key') hrest
  exact ⟨Text.intText_injective hid, Text.intText_injective hkey,
    MetricName.name_injective (String.toList_inj.mp hname)⟩

/-- The keys of the daily fact are told apart exactly if those of the dates are, or there is no
repository. -/
theorem dailyKeys_nodup_iff :
    ((build server seed staged).fctDeliveryPerformanceDaily.map
        (·.deliveryPerformanceDailyKey)).Nodup
      ↔ (build server seed staged).dimRepository = []
        ∨ ((build server seed staged).dimDate.map (·.dateKey)).Nodup := by
  have hdistinct : ((build server seed staged).fctDeliveryPerformanceDaily.map fun row =>
      (row.repositoryId, row.dateDay, row.metricName)).Nodup := by
    rw [build_fctDeliveryPerformanceDaily, fctDeliveryPerformanceDaily_product]
    exact (repositories_nodup server seed staged).product
      ((dates_nodup server seed staged).product (by decide))
  rw [nodup_map_iff_of_key hdistinct, nodup_map_iff_of_key (dates_nodup server seed staged)]
  constructor
  · intro htells
    rw [or_iff_not_imp_left]
    intro hne date hdate other hother heq
    obtain ⟨repository, hrepository⟩ := List.exists_mem_of_ne_nil _ hne
    -- the rows of one repository and metric on the two dates
    have hrows := htells _ (mem_build_daily.mpr
        ⟨repository, hrepository, date, hdate, .deploymentFrequency, rfl⟩) _
      (mem_build_daily.mpr ⟨repository, hrepository, other, hother, .deploymentFrequency, rfl⟩)
      (congrArg (fun key : Int => toString repository.repositoryId ++ ":" ++ toString key ++ ":"
        ++ MetricName.deploymentFrequency.name) heq)
    exact (Prod.mk.inj (Prod.mk.inj hrows).2).1
  · intro htells row hrow other hother heq
    obtain ⟨repository, hrepository, date, hdate, metric, rfl⟩ := mem_build_daily.mp hrow
    obtain ⟨repository', hrepository', date', hdate', metric', rfl⟩ := mem_build_daily.mp hother
    obtain ⟨hid, hkey, hmetric⟩ := dailyKey_inj heq
    rcases htells with hnil | htells
    · rw [hnil] at hrepository
      cases hrepository
    · have hday := htells date hdate date' hdate' hkey
      exact congrArg₂ Prod.mk hid (congrArg₂ Prod.mk hday hmetric)

end

end Dbt
