import DeliveryIntelligence.Dashboards.Queries

set_option autoImplicit false

/-!
# The dates of the pull-request cards

The daily fact gives a pull request the date it has in the time zone of its repository, and in
UTC where none is configured. The cards leave out the second half, so the pull requests of an
unconfigured repository all fall into one group without a date (`groupsByLocalDate_iff`).
-/

namespace Dashboards

open Postgres Query Dbt
open RawEvents (RawEvent)

variable {server : Server} {seed : Seed} {staged : Staged}

/-- `(created_at at time zone coalesce(repository_timezone, 'UTC'))::date` -/
def creationDate (server : Server) (pullRequest : FctPullRequest) (repository : DimRepository) :
    Option Int :=
  pullRequest.createdAt.map (localDate server repository.timezone)

/-- The two cards group the pull request by the local date of its merge and of its creation. -/
structure GroupsByLocalDate (server : Server) (marts : Marts) (pullRequest : FctPullRequest)
    (repository : DimRepository) : Prop where
  cycleTime : (pullRequest, repository) ∈ mergedPullRequests marts →
    (cycleTimeGroup server pullRequest repository).dateDay.isSome
      ∧ (cycleTimeGroup server pullRequest repository).dateDay
        = mergeDate server pullRequest repository
  reviewLatency : (pullRequest, repository) ∈ undraftedPullRequests marts →
    (reviewLatencyGroup server pullRequest repository).dateDay.isSome
      ∧ (reviewLatencyGroup server pullRequest repository).dateDay
        = creationDate server pullRequest repository

/-! ## Time zones -/

theorem mem_withRepository {pullRequests : List FctPullRequest} {repositories : List DimRepository}
    {pullRequest : FctPullRequest} {repository : DimRepository} :
    (pullRequest, repository) ∈ withRepository pullRequests repositories
      ↔ pullRequest ∈ pullRequests ∧ repository ∈ repositories
        ∧ pullRequest.repositoryId = repository.repositoryId := by
  unfold withRepository
  rw [mem_innerJoin, decide_eq_true_iff]

/-- With the tests on the seed, a repository has a time zone exactly if it is configured. -/
theorem timezone_isSome_iff (htests : seed.Tests) {repository : DimRepository}
    (hrepository : repository ∈ (build server seed staged).dimRepository) :
    repository.repositoryTimezone.isSome ↔ repository.isMetricConfigured = true := by
  rw [build_dimRepository, dimRepository_eq] at hrepository
  obtain ⟨repositoryId, -, rfl⟩ := List.mem_map.mp hrepository
  cases hfind : seed.rows.find? fun row => row.repositoryId = repositoryId with
  | none => exact iff_of_false Bool.false_ne_true Bool.false_ne_true
  | some config =>
      exact iff_of_true
        (htests.repositoryTimezone_not_null config (List.mem_of_find?_eq_some hfind)) rfl

/-- The date of a card is the local date of the instant where there are an instant and a time
zone, and null otherwise. -/
theorem repositoryDate_iff {repository : DimRepository} {instant : Option Timestamp} :
    (repositoryDate server repository instant).isSome
        ∧ repositoryDate server repository instant
          = instant.map (localDate server repository.timezone)
      ↔ repository.repositoryTimezone.isSome ∧ instant.isSome := by
  unfold repositoryDate DimRepository.timezone
  cases repository.repositoryTimezone with
  | none => exact iff_of_false (fun h => Bool.false_ne_true h.1) fun h => Bool.false_ne_true h.1
  | some zone =>
      cases instant with
      | none => exact iff_of_false (fun h => Bool.false_ne_true h.1) fun h => Bool.false_ne_true h.2
      | some t => exact iff_of_true ⟨rfl, rfl⟩ ⟨rfl, rfl⟩

/-- A merged pull request with a duration has the time of its merge. -/
theorem mergedAt_of_mergedPullRequests {pullRequest : FctPullRequest} {repository : DimRepository}
    (h : (pullRequest, repository) ∈ mergedPullRequests (build server seed staged)) :
    pullRequest.mergedAt.isSome := by
  obtain ⟨hjoined, hmerged⟩ := List.mem_filter.mp h
  rw [Bool.and_eq_true] at hmerged
  obtain ⟨hstate, hseconds⟩ := hmerged
  obtain ⟨row, hrow, other, -, -, rfl⟩ :=
    (mem_build_fctPullRequests server seed staged).mp (mem_withRepository.mp hjoined).1
  rw [build_intPrLifecycle] at hrow
  obtain ⟨⟨key, latest, rollup⟩, -, rfl⟩ := List.mem_map.mp hrow
  obtain ⟨state, hat, hname⟩ := holds_equal.mp hstate
  obtain rfl := Option.some.inj hname
  -- of the two branches of the duration a merged state reaches the first one only
  have hmergedState : (resolvedPullRequest key latest rollup).pullRequestState = some "merged" := hat
  have hduration : (resolvedPullRequest key latest rollup).lifecycleSeconds.isSome := hseconds
  show (resolvedPullRequest key latest rollup).mergedAt.isSome
  by_contra hnone
  have hlifecycle : (resolvedPullRequest key latest rollup).lifecycleSeconds
      = if (resolvedPullRequest key latest rollup).pullRequestState = some "merged"
          ∧ (resolvedPullRequest key latest rollup).mergedAt.isSome then
          secondsBetween (resolvedPullRequest key latest rollup).mergedAt rollup.createdAt
        else if (resolvedPullRequest key latest rollup).pullRequestState = some "closed"
          ∧ (resolvedPullRequest key latest rollup).closedAt.isSome then
          secondsBetween (resolvedPullRequest key latest rollup).closedAt rollup.createdAt
        else none := rfl
  rw [hlifecycle, if_neg fun hboth => hnone hboth.2, hmergedState,
    if_neg fun hclosed => absurd hclosed.1 (by decide)] at hduration
  cases hduration

/-- **The date of a pull request on the cards** is its local date, with the fallback of the daily
fact, exactly if each card that shows it shows a configured repository and, for the review trend,
the time of creation is known. -/
theorem groupsByLocalDate_iff (htests : seed.Tests) (pullRequest : FctPullRequest)
    (repository : DimRepository) :
    GroupsByLocalDate server (build server seed staged) pullRequest repository
      ↔ ((pullRequest, repository) ∈ mergedPullRequests (build server seed staged) →
          repository.isMetricConfigured = true)
        ∧ ((pullRequest, repository) ∈ undraftedPullRequests (build server seed staged) →
          repository.isMetricConfigured = true ∧ pullRequest.createdAt.isSome) := by
  have hzone : ∀ {pairs : FctPullRequest × DimRepository → Bool},
      (pullRequest, repository) ∈ (withRepository (build server seed staged).fctPullRequests
        (build server seed staged).dimRepository).filter pairs →
      (repository.repositoryTimezone.isSome ↔ repository.isMetricConfigured = true) :=
    fun h => timezone_isSome_iff htests (mem_withRepository.mp (List.mem_filter.mp h).1).2.1
  have hcycle : (pullRequest, repository) ∈ mergedPullRequests (build server seed staged) →
      (((cycleTimeGroup server pullRequest repository).dateDay.isSome
        ∧ (cycleTimeGroup server pullRequest repository).dateDay
          = mergeDate server pullRequest repository) ↔ repository.isMetricConfigured = true) := by
    intro h
    refine repositoryDate_iff.trans ?_
    rw [hzone h]
    exact and_iff_left (mergedAt_of_mergedPullRequests h)
  have htrend : (pullRequest, repository) ∈ undraftedPullRequests (build server seed staged) →
      (((reviewLatencyGroup server pullRequest repository).dateDay.isSome
        ∧ (reviewLatencyGroup server pullRequest repository).dateDay
          = creationDate server pullRequest repository)
        ↔ repository.isMetricConfigured = true ∧ pullRequest.createdAt.isSome) := by
    intro h
    refine repositoryDate_iff.trans ?_
    rw [hzone h]
  constructor
  · rintro ⟨hmerged, hundrafted⟩
    exact ⟨fun h => (hcycle h).mp (hmerged h), fun h => (htrend h).mp (hundrafted h)⟩
  · rintro ⟨hmerged, hundrafted⟩
    exact ⟨fun h => (hcycle h).mpr (hmerged h), fun h => (htrend h).mpr (hundrafted h)⟩

/-- A seed without a repository. -/
def emptySeed : Seed where
  rows := []
  repositoryId_unique := List.nodup_nil

theorem emptySeed_tests : emptySeed.Tests where
  repositoryFullName_unique := List.nodup_nil
  repositoryFullName_not_null _ hrow := nomatch hrow
  repositoryTimezone_not_null _ hrow := nomatch hrow
  definitionVersion_not_null _ hrow := nomatch hrow
  one_signal _ hrow := nomatch hrow

/-- A merged pull request of an unconfigured repository is grouped under no date, while the daily
fact has it on the day of its merge. -/
theorem unconfigured_without_date :
    ∃ staged, staging hourServer mergedAtNoon = .ok staged
      ∧ emptySeed.Tests
      ∧ ∃ row ∈ mergedPullRequests (build hourServer emptySeed staged),
          (cycleTimeGroup hourServer row.1 row.2).dateDay = none
          ∧ mergeDate hourServer row.1 row.2 = some 20658
          ∧ ¬ GroupsByLocalDate hourServer (build hourServer emptySeed staged) row.1 row.2 := by
  have hrun : ∃ staged, staging hourServer mergedAtNoon = .ok staged
      ∧ ∃ row ∈ mergedPullRequests (build hourServer emptySeed staged),
        (cycleTimeGroup hourServer row.1 row.2).dateDay = none
        ∧ mergeDate hourServer row.1 row.2 = some 20658 := by
    decide +kernel
  obtain ⟨staged, h, row, hrow, hnone, hdate⟩ := hrun
  refine ⟨staged, h, emptySeed_tests, row, hrow, hnone, hdate, fun hall => ?_⟩
  have hsome := (hall.cycleTime hrow).1
  rw [hnone] at hsome
  cases hsome

/-- In a configured repository the same pull request has its local date on both cards. -/
theorem groupsByLocalDate_iff_configured :
    ∃ staged, staging hourServer mergedAtNoon = .ok staged
      ∧ ∃ row ∈ mergedPullRequests (build hourServer (demoSeed "UTC") staged),
          mergeDate hourServer row.1 row.2 = some 20658
          ∧ GroupsByLocalDate hourServer (build hourServer (demoSeed "UTC") staged) row.1 row.2 := by
  have hrun : ∃ staged, staging hourServer mergedAtNoon = .ok staged
      ∧ ∃ row ∈ mergedPullRequests (build hourServer (demoSeed "UTC") staged),
        mergeDate hourServer row.1 row.2 = some 20658
        ∧ row.2.isMetricConfigured = true ∧ row.1.createdAt.isSome := by
    decide +kernel
  obtain ⟨staged, h, row, hrow, hdate, hconfigured, hcreated⟩ := hrun
  exact ⟨staged, h, row, hrow, hdate, (groupsByLocalDate_iff (demoSeed_tests _) row.1 row.2).mpr
    ⟨fun _ => hconfigured, fun _ => ⟨hconfigured, hcreated⟩⟩⟩

end Dashboards
