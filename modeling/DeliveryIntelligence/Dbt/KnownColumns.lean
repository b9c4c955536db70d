import DeliveryIntelligence.Dbt.LeadTime
import DeliveryIntelligence.Dbt.SchemaTests

set_option autoImplicit false

/-!
# Columns without null

What the tests of the staging models and of the seed leave of the later ones: the columns that are
taken over are not null there, and the states are those GitHub has.
-/

namespace Dbt

open Postgres Query

section

variable {server : Server} {seed : Seed} {staged : Staged}

/-! ## Pull requests -/

/-- A row of `int_pr_lifecycle` is made of a group of snapshots and the latest of them. -/
theorem exists_snapshots {row : PullRequest}
    (h : row ∈ (build server seed staged).intPrLifecycle) :
    ∃ key, ∃ latest ∈ staged.pullRequests, ∃ group ⊆ staged.pullRequests, latest ∈ group
      ∧ row = resolvedPullRequest key latest (pullRequestRollup server group) := by
  rw [build_intPrLifecycle] at h
  obtain ⟨⟨key, latest, rollup⟩, hresolved, rfl⟩ := List.mem_map.mp h
  obtain ⟨-, hfirst, rfl⟩ := mem_resolve.mp hresolved
  exact ⟨key, latest, List.filter_subset_self _ (firstBy_mem hfirst), _,
    List.filter_subset_self _, firstBy_mem hfirst, rfl⟩

/-- What is known of a pull request. -/
structure PullRequest.Known (row : PullRequest) : Prop where
  repositoryFullName : row.repositoryFullName.isSome
  pullRequestNumber : row.pullRequestNumber.isSome
  pullRequestState : ∃ state ∈ ["open", "closed", "merged"], row.pullRequestState = some state
  title : row.title.isSome
  authorLogin : row.authorLogin.isSome
  createdAt : row.createdAt.isSome
  isMerged : row.isMerged.isSome
  isClosed : row.isClosed.isSome
  firstIngestedAt : row.firstIngestedAt.isSome
  lastIngestedAt : row.lastIngestedAt.isSome

/-- The state is that of the latest snapshot, or merged. -/
theorem resolvedState_mem (key : String) {latest : PullRequestSnapshot} (rollup : PullRequestRollup)
    {state : String} (hstate : latest.pullRequestState = some state)
    (h : state ∈ ["open", "closed", "merged"]) :
    ∃ state ∈ ["open", "closed", "merged"],
      (resolvedPullRequest key latest rollup).pullRequestState = some state := by
  by_cases hmerged : (coalesce [latest.mergedAt, rollup.observedMergedAt]).isSome = true
  · exact ⟨"merged", by decide, if_pos hmerged⟩
  · exact ⟨state, h, (if_neg hmerged).trans hstate⟩

theorem known_of_pullRequest (hstaged : staged.Tests) {row : PullRequest}
    (h : row ∈ (build server seed staged).intPrLifecycle) : row.Known := by
  obtain ⟨key, latest, hlatest, group, -, hmem, rfl⟩ := exists_snapshots h
  obtain ⟨state, hstate⟩ := Option.isSome_iff_exists.mp
    (hstaged.pullRequest_pullRequestState_not_null latest hlatest)
  obtain ⟨resolved, hresolved, hrow⟩ := resolvedState_mem key
    (pullRequestRollup server group) hstate
    (hstaged.pullRequest_pullRequestState_accepted latest hlatest state hstate)
  obtain ⟨createdAt, hcreated⟩ := Option.isSome_iff_exists.mp
    (hstaged.pullRequest_createdAt_not_null latest hlatest)
  have hingested : some latest.ingestedAt ∈ group.map fun row => some row.ingestedAt :=
    List.mem_map_of_mem hmem
  refine ⟨hstaged.pullRequest_repositoryFullName_not_null latest hlatest,
    hstaged.pullRequest_pullRequestNumber_not_null latest hlatest, ⟨resolved, hresolved, hrow⟩,
    hstaged.pullRequest_title_not_null latest hlatest,
    hstaged.pullRequest_authorLogin_not_null latest hlatest, ?_, ?_, ?_, ?_, ?_⟩
  · exact Option.isSome_iff_exists.mpr
      (exists_minimum (List.mem_map.mpr ⟨latest, hmem, hcreated⟩))
  -- the flags compare the resolved state, which is known
  · show (equal (resolvedPullRequest key latest _).pullRequestState (some "merged")).isSome
    rw [hrow]
    rfl
  · show (either (equal (resolvedPullRequest key latest _).pullRequestState (some "closed"))
      (equal (resolvedPullRequest key latest _).pullRequestState (some "merged"))).isSome
    rw [hrow]
    show (either (some (decide (resolved = "closed"))) (some (decide (resolved = "merged")))).isSome
    cases decide (resolved = "closed") <;> rfl
  · exact Option.isSome_iff_exists.mpr (exists_minimum hingested)
  · exact Option.isSome_iff_exists.mpr (exists_maximum hingested)

/-! ## Reviews -/

/-- A first review is an eligible one. -/
theorem exists_eligibleReview {row : FirstEligibleReview}
    (h : row ∈ (build server seed staged).intFirstEligibleReview) :
    ∃ key, ∃ review ∈ staged.reviews, ∃ rollup,
      ∃ pullRequest ∈ (build server seed staged).intPrLifecycle,
        isEligibleReview server review pullRequest = true
        ∧ row.review = eligibleReview key review rollup pullRequest := by
  rw [build_intFirstEligibleReview] at h
  obtain ⟨⟨key, review, rollup⟩, hresolved, rfl⟩ := List.mem_map.mp h
  have hmem := (List.mem_filter.mp (firstBy_mem (mem_resolve.mp hresolved).2.1)).1
  obtain ⟨reviewKey, snapshot, counts, hsnapshot, pullRequest, hpullRequest, -, heligible, heq⟩ :=
    mem_eligibleReviews.mp hmem
  have hstaged := (List.mem_filter.mp (firstBy_mem (mem_resolve.mp hsnapshot).2.1)).1
  exact ⟨reviewKey, snapshot, hstaged, counts, pullRequest, hpullRequest, heligible, heq⟩

/-- An eligible review has a state other than `pending` and a reviewer. -/
theorem known_of_isEligibleReview {review : ReviewSnapshot} {pullRequest : PullRequest}
    (h : isEligibleReview server review pullRequest = true) :
    (∃ state, review.reviewState = some state ∧ state ≠ "pending")
      ∧ review.reviewerLogin.isSome := by
  unfold isEligibleReview at h
  rw [Bool.and_eq_true, Bool.and_eq_true] at h
  obtain ⟨⟨hstate, hlogin⟩, -⟩ := h
  constructor
  · cases hreview : review.reviewState with
    | none =>
        rw [hreview] at hstate
        cases hstate
    | some state =>
        refine ⟨state, rfl, fun hpending => ?_⟩
        rw [hreview, hpending] at hstate
        exact absurd hstate (by decide)
  · cases hreviewer : review.reviewerLogin with
    | none =>
        rw [hreviewer] at hlogin
        cases hlogin
    | some login => rfl

/-- A first review was submitted at or after the creation of its pull request. -/
theorem review_after_creation {review : ReviewSnapshot} {pullRequest : PullRequest}
    (h : isEligibleReview server review pullRequest = true) (key : String)
    (rollup : ReviewRollup) :
    ∃ createdAt submittedAt, createdAt ≤ submittedAt
      ∧ (eligibleReview key review rollup pullRequest).submittedAt = some submittedAt
      ∧ (eligibleReview key review rollup pullRequest).secondsToFirstReview
        = some (wholeSeconds (submittedAt - createdAt)) := by
  unfold isEligibleReview at h
  rw [Bool.and_eq_true] at h
  obtain ⟨createdAt, submittedAt, hcreated, hsubmitted, hle⟩ := holds_atMost.mp h.2
  refine ⟨createdAt, submittedAt, hle, hsubmitted, ?_⟩
  show secondsBetween review.submittedAt pullRequest.createdAt = _
  rw [hsubmitted, hcreated]
  rfl

theorem either_isNone_isSome (submittedAt : Timestamp) (mergedAt : Option Timestamp) :
    (either (some mergedAt.isNone) (atMost (some submittedAt) mergedAt)).isSome := by
  cases mergedAt <;> rfl

/-- What is known of a first review. -/
structure FirstEligibleReview.Known (pullRequests : List PullRequest) (row : FirstEligibleReview) :
    Prop where
  pullRequestKey : ∃ pullRequest ∈ pullRequests, pullRequest.pullRequestKey = row.pullRequestKey
  repositoryFullName : row.review.repositoryFullName.isSome
  pullRequestNumber : row.review.pullRequestNumber.isSome
  reviewState : ∃ state ∈ ["approved", "changes_requested", "commented", "dismissed"],
    row.review.reviewState = some state
  reviewerLogin : row.review.reviewerLogin.isSome
  firstReviewAt : row.firstReviewAt.isSome
  secondsToFirstReview : ∃ seconds, 0 ≤ seconds ∧ row.review.secondsToFirstReview = some seconds
  isPreMergeReview : row.review.isPreMergeReview.isSome

theorem known_of_review (hstaged : staged.Tests) {row : FirstEligibleReview}
    (h : row ∈ (build server seed staged).intFirstEligibleReview) :
    row.Known (build server seed staged).intPrLifecycle := by
  obtain ⟨key, review, hreview, rollup, pullRequest, hpullRequest, heligible, heq⟩ :=
    exists_eligibleReview h
  obtain ⟨⟨state, hstate, hpending⟩, hlogin⟩ := known_of_isEligibleReview heligible
  obtain ⟨createdAt, submittedAt, hle, hsubmitted, hseconds⟩ :=
    review_after_creation heligible key rollup
  have hpull := known_of_pullRequest hstaged hpullRequest
  obtain ⟨first, counts⟩ := row
  obtain rfl : first = eligibleReview key review rollup pullRequest := heq
  refine ⟨⟨pullRequest, hpullRequest, rfl⟩, hpull.repositoryFullName, hpull.pullRequestNumber,
    ⟨state, ?_, hstate⟩, hlogin, Option.isSome_iff_exists.mpr ⟨submittedAt, hsubmitted⟩,
    ⟨_, wholeSeconds_nonneg (sub_nonneg.mpr hle), hseconds⟩, ?_⟩
  · have haccepted := hstaged.review_reviewState_accepted review hreview state hstate
    simp only [List.mem_cons, List.not_mem_nil, or_false] at haccepted ⊢
    tauto
  · show (either _ (atMost review.submittedAt pullRequest.mergedAt)).isSome
    rw [show review.submittedAt = some submittedAt from hsubmitted]
    exact either_isNone_isSome submittedAt pullRequest.mergedAt

/-! ## Production deployments -/

/-- A row of `int_production_deployments` is made of a group of snapshots, the latest of them and
the statuses joined to it. -/
theorem exists_deployment {row : ProductionDeployment}
    (h : row ∈ (build server seed staged).intProductionDeployments) :
    ∃ key, ∃ latest ∈ staged.deployments, ∃ group ⊆ staged.deployments, latest ∈ group
      ∧ ∃ rollup status, (∀ state ∈ status, state ∈ staged.deploymentStatuses)
        ∧ row = productionDeployment key latest (deploymentRollup group) rollup status := by
  rw [build_intProductionDeployments, intProductionDeployments_eq] at h
  obtain ⟨⟨key, latest, rollup⟩, hmem, rfl⟩ := List.mem_map.mp h
  obtain ⟨-, hfirst, rfl⟩ := mem_resolve.mp (List.mem_filter.mp hmem).1
  refine ⟨key, latest, List.filter_subset_self _ (firstBy_mem hfirst), _,
    List.filter_subset_self _, firstBy_mem hfirst, _, _, ?_, rfl⟩
  intro status hstatus
  obtain ⟨⟨resolved, count⟩, hresolved, rfl⟩ :=
    List.mem_map.mp (partitionFirst_subset (List.mem_of_find?_eq_some hstatus))
  obtain ⟨snapshot, hsnapshot, heq⟩ := List.mem_map.mp hresolved
  cases heq
  exact partitionFirst_subset hsnapshot

/-- What is known of a production deployment. -/
structure ProductionDeployment.Known (row : ProductionDeployment) : Prop where
  repositoryFullName : row.repositoryFullName.isSome
  deploymentId : row.deploymentId.isSome
  environment : row.environment.isSome
  deploymentSha : row.deploymentSha.isSome
  createdAt : row.createdAt.isSome
  latestDeploymentState : ∀ state ∈ row.latestDeploymentState,
    state ∈ ["error", "failure", "inactive", "in_progress", "queued", "pending", "success"]
  firstIngestedAt : row.firstIngestedAt.isSome
  lastIngestedAt : row.lastIngestedAt.isSome

theorem known_of_production (hstaged : staged.Tests) {row : ProductionDeployment}
    (h : row ∈ (build server seed staged).intProductionDeployments) : row.Known := by
  obtain ⟨key, latest, hlatest, group, -, hmem, rollup, status, hstatus, rfl⟩ :=
    exists_deployment h
  obtain ⟨createdAt, hcreated⟩ := Option.isSome_iff_exists.mp
    (hstaged.deployment_createdAt_not_null latest hlatest)
  have hingested : some latest.ingestedAt ∈ group.map fun row => some row.ingestedAt :=
    List.mem_map_of_mem hmem
  refine ⟨hstaged.deployment_repositoryFullName_not_null latest hlatest,
    hstaged.deployment_deploymentId_not_null latest hlatest,
    hstaged.deployment_environment_not_null latest hlatest,
    hstaged.deployment_deploymentSha_not_null latest hlatest, ?_, ?_, ?_, ?_⟩
  · exact Option.isSome_iff_exists.mpr
      (exists_minimum (List.mem_map.mpr ⟨latest, hmem, hcreated⟩))
  · intro state hstate
    obtain ⟨snapshot, hsnapshot, hat⟩ := Option.bind_eq_some_iff.mp hstate
    exact hstaged.status_deploymentState_accepted snapshot (hstatus snapshot hsnapshot) state hat
  · exact Option.isSome_iff_exists.mpr (exists_minimum hingested)
  · exact Option.isSome_iff_exists.mpr (exists_maximum hingested)

/-! ## Links -/

/-- A link is a change of a pull request and a production deployment that ran it. -/
theorem exists_candidateLink {link : ChangeToDeployment}
    (h : link ∈ (build server seed staged).intChangeToDeployment) :
    ∃ row ∈ (build server seed staged).intPrLifecycle,
      ∃ production ∈ (build server seed staged).intProductionDeployments,
        ∃ sha type completedAt, runsChange (change row sha type completedAt) production = true
          ∧ link = candidateLink (change row sha type completedAt) production := by
  rw [build_intChangeToDeployment] at h
  obtain ⟨production, hproduction, row, hrow, sha, type, completedAt, -, hruns, heq⟩ :=
    mem_candidateLinks.mp (partitionFirst_subset h)
  exact ⟨row, hrow, production, hproduction, sha, type, completedAt, hruns, heq⟩

/-- A change is linked to a success at or after its completion. -/
theorem runsChange_times {change : Change} {production : ProductionDeployment}
    (h : runsChange change production = true) :
    change.changeSha.isSome
    ∧ ∃ completedAt deployedAt, completedAt ≤ deployedAt
      ∧ change.changeCompletedAt = some completedAt
      ∧ (candidateLink change production).deployedAt = some deployedAt
      ∧ (candidateLink change production).leadTimeSeconds
        = some (wholeSeconds (deployedAt - completedAt)) := by
  unfold runsChange at h
  rw [Bool.and_eq_true, Bool.and_eq_true, Bool.and_eq_true] at h
  obtain ⟨found, hsha, -⟩ := holds_equal.mp h.1.1.2
  obtain ⟨completedAt, deployedAt, hcompleted, hdeployed, hle⟩ := holds_atMost.mp h.2
  refine ⟨Option.isSome_iff_exists.mpr ⟨found, hsha⟩, completedAt, deployedAt, hle, hcompleted,
    hdeployed, ?_⟩
  show secondsBetween production.successfulAt change.changeCompletedAt = _
  rw [hdeployed, hcompleted]
  rfl

/-- What is known of a link. -/
structure ChangeToDeployment.Known (marts : Marts) (link : ChangeToDeployment) : Prop where
  pullRequestKey : ∃ row ∈ marts.intPrLifecycle, row.pullRequestKey = link.change.pullRequestKey
  deploymentKey : ∃ row ∈ marts.intProductionDeployments, row.deploymentKey = link.deploymentKey
  repositoryFullName : link.change.repositoryFullName.isSome
  pullRequestNumber : link.change.pullRequestNumber.isSome
  deploymentId : link.deploymentId.isSome
  environment : link.environment.isSome
  changeSha : link.change.changeSha.isSome
  changeCompletedAt : link.change.changeCompletedAt.isSome
  deployedAt : link.deployedAt.isSome
  leadTimeSeconds : ∃ seconds, 0 ≤ seconds ∧ link.leadTimeSeconds = some seconds

theorem known_of_link (hstaged : staged.Tests) {link : ChangeToDeployment}
    (h : link ∈ (build server seed staged).intChangeToDeployment) :
    link.Known (build server seed staged) := by
  obtain ⟨row, hrow, production, hproduction, sha, type, completedAt, hruns, rfl⟩ :=
    exists_candidateLink h
  obtain ⟨hsha, completed, deployed, hle, hcompleted, hdeployed, hseconds⟩ := runsChange_times hruns
  have hpull := known_of_pullRequest hstaged hrow
  have hknown := known_of_production hstaged hproduction
  exact ⟨⟨row, hrow, rfl⟩, ⟨production, hproduction, rfl⟩, hpull.repositoryFullName,
    hpull.pullRequestNumber, hknown.deploymentId, hknown.environment, hsha,
    Option.isSome_iff_exists.mpr ⟨completed, hcompleted⟩,
    Option.isSome_iff_exists.mpr ⟨deployed, hdeployed⟩,
    _, wholeSeconds_nonneg (sub_nonneg.mpr hle), hseconds⟩

/-! ## Repositories -/

/-- The names of observed repositories are names that were observed. -/
theorem observedGroups_known {rows : List ObservedRepository}
    (h : ∀ row ∈ rows, row.repositoryFullName.isSome) :
    ∀ row ∈ observedGroups server rows, row.repositoryFullName.isSome := by
  intro row hrow
  obtain ⟨⟨repositoryId, repositoryFullName, installationId⟩, hgroup, rfl⟩ := List.mem_map.mp hrow
  obtain ⟨hid, heq⟩ := mem_groupBy.mp hgroup
  cases heq
  obtain ⟨observed, hobserved, hsame⟩ := List.mem_map.mp hid
  obtain ⟨name, hname⟩ := Option.isSome_iff_exists.mp (h observed hobserved)
  exact Option.isSome_iff_exists.mpr (exists_maximum (List.mem_map.mpr
    ⟨observed, List.mem_filter.mpr ⟨hobserved, decide_eq_true hsame⟩, hname⟩))

theorem observedRollup_known (hstaged : staged.Tests) :
    ∀ row ∈ observedRollup server (build server seed staged).intPrLifecycle
      (build server seed staged).intProductionDeployments, row.repositoryFullName.isSome := by
  apply observedGroups_known
  intro row hrow
  rcases List.mem_append.mp hrow with hpull | hproduction
  · refine observedGroups_known (fun observed hobserved => ?_) row hpull
    obtain ⟨pullRequest, hmem, rfl⟩ := List.mem_map.mp hobserved
    exact (known_of_pullRequest hstaged hmem).repositoryFullName
  · refine observedGroups_known (fun observed hobserved => ?_) row hproduction
    obtain ⟨production, hmem, rfl⟩ := List.mem_map.mp hobserved
    exact (known_of_production hstaged hmem).repositoryFullName

/-- A repository has the name of its configuration, or else one that was observed. -/
theorem repository_named (htests : seed.Tests) (hstaged : staged.Tests)
    {repository : DimRepository} (h : repository ∈ (build server seed staged).dimRepository) :
    repository.repositoryFullName.isSome := by
  rw [build_dimRepository, dimRepository_eq] at h
  obtain ⟨repositoryId, hid, rfl⟩ := List.mem_map.mp h
  unfold dimRepositoryRow
  cases hconfig : seed.rows.find? fun row => row.repositoryId = repositoryId with
  | some config =>
      obtain ⟨name, hname⟩ := Option.isSome_iff_exists.mp
        (htests.repositoryFullName_not_null config (List.mem_of_find?_eq_some hconfig))
      simp [coalesce, hname]
  | none =>
      have hobserved : repositoryId ∈ (observedRollup server
          (build server seed staged).intPrLifecycle
          (build server seed staged).intProductionDeployments).map (·.repositoryId) := by
        unfold repositoryIds at hid
        rcases List.mem_append.mp (List.mem_dedup.mp hid) with hmem | hmem
        · exact hmem
        · obtain ⟨config, hrow, hsame⟩ := List.mem_map.mp hmem
          exact absurd (decide_eq_true hsame) (List.find?_eq_none.mp hconfig config hrow)
      obtain ⟨row, hrow, hsame⟩ := List.mem_map.mp hobserved
      cases hfind : (observedRollup server (build server seed staged).intPrLifecycle
          (build server seed staged).intProductionDeployments).find? fun row =>
            row.repositoryId = repositoryId with
      | none => exact absurd (decide_eq_true hsame) (List.find?_eq_none.mp hfind row hrow)
      | some found =>
          obtain ⟨name, hname⟩ := Option.isSome_iff_exists.mp
            (observedRollup_known hstaged found (List.mem_of_find?_eq_some hfind))
          simp [coalesce, hname]

/-- The signal of a repository is that of its configuration. -/
theorem productionSignal_mem (htests : seed.Tests) {repository : DimRepository}
    (h : repository ∈ (build server seed staged).dimRepository) :
    ∀ signal ∈ repository.productionSignal, signal ∈ ["deployment_status", "workflow_run"] := by
  rw [build_dimRepository, dimRepository_eq] at h
  obtain ⟨repositoryId, -, rfl⟩ := List.mem_map.mp h
  intro signal hsignal
  obtain ⟨config, hfind, hconfig⟩ := Option.bind_eq_some_iff.mp hsignal
  rcases htests.one_signal config (List.mem_of_find?_eq_some hfind) with ⟨hstatus, -⟩ | ⟨hrun, -⟩
  · rw [hstatus] at hconfig
    cases hconfig
    decide
  · rw [hrun] at hconfig
    cases hconfig
    decide

end

end Dbt
