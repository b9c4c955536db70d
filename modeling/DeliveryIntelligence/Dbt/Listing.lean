import DeliveryIntelligence.Dbt.LeadTime
import DeliveryIntelligence.Library.Reorder

set_option autoImplicit false

/-!
# Marts do not depend on the physical order

Two listings of the rows of `raw.github_events` give listings of the same marts (`marts_listing`).
Most windows end in the event id or rank by a unique key; the candidates of
`int_change_to_deployment` that its window does not tell apart are equal in every column. Only the
latest status of a deployment needs a condition: two statuses whose ids are different texts of one
number are told apart by nothing (`listing_chooses_status`).
-/

namespace Dbt

open Postgres Query
open RawEvents (RawEvent)

variable {server : Server}

/-! ## Snapshots -/

/-- The order of snapshots of distinct events tells them apart. -/
theorem snapshotOrder_tellsApart {ρ κ : Type} {key : ρ → κ} {lineage : ρ → Lineage}
    {changedAt : ρ → Option Timestamp} {rows : List ρ}
    (hids : (rows.map fun row => (lineage row).eventId).Nodup) :
    TellsApart key (snapshotOrder lineage changedAt) rows := fun _ ha _ hb _ heq =>
  List.inj_on_of_nodup_map hids ha hb (eventId_of_snapshotOrder heq)

theorem sourceCount_perm {ρ : Type} {lineage : ρ → Lineage} {rows rows' : List ρ}
    (h : rows.Perm rows') : sourceCount lineage rows = sourceCount lineage rows' :=
  countDistinct_perm (h.map _)

theorem pullRequestRollup_perm {rows rows' : List PullRequestSnapshot} (h : rows.Perm rows') :
    pullRequestRollup server rows = pullRequestRollup server rows' := by
  unfold pullRequestRollup
  rw [maximum_perm (h.map _), maximum_perm (h.map (·.pullRequestNodeId)),
    minimum_perm (h.map (·.createdAt)), maximum_perm (h.map (·.updatedAt)),
    maximum_perm (h.map (·.closedAt)), maximum_perm (h.map (·.mergedAt)), h.length_eq,
    sourceCount_perm h, minimum_perm (h.map fun row => some row.ingestedAt),
    maximum_perm (h.map fun row => some row.ingestedAt)]

theorem deploymentRollup_perm {rows rows' : List DeploymentSnapshot} (h : rows.Perm rows') :
    deploymentRollup rows = deploymentRollup rows' := by
  unfold deploymentRollup
  rw [minimum_perm (h.map (·.createdAt)), maximum_perm (h.map (·.updatedAt)), h.length_eq,
    sourceCount_perm h, minimum_perm (h.map fun row => some row.ingestedAt),
    maximum_perm (h.map fun row => some row.ingestedAt)]

/-! ## Intermediate models -/

theorem intPrLifecycle_perm {snapshots snapshots' : List PullRequestSnapshot}
    (h : snapshots.Perm snapshots') (hids : (snapshots.map (·.eventId)).Nodup) :
    (intPrLifecycle server snapshots).Perm (intPrLifecycle server snapshots') := by
  have hresolved : (resolve PullRequestSnapshot.pullRequestKey pullRequestOrder
        (pullRequestRollup server) snapshots).Perm
      (resolve PullRequestSnapshot.pullRequestKey pullRequestOrder (pullRequestRollup server)
        snapshots') :=
    resolve_perm h (snapshotOrder_tellsApart hids) pullRequestRollup_perm
  exact hresolved.map _

theorem resolvedReviews_perm {snapshots snapshots' : List ReviewSnapshot}
    (h : snapshots.Perm snapshots') (hids : (snapshots.map (·.eventId)).Nodup) :
    (resolvedReviews snapshots).Perm (resolvedReviews snapshots') :=
  resolve_perm h (snapshotOrder_tellsApart hids) fun hgroup => by
    rw [hgroup.length_eq, sourceCount_perm hgroup]

theorem eligibleReviewRollup_perm {rows rows' : List EligibleReview} (h : rows.Perm rows') :
    eligibleReviewRollup rows = eligibleReviewRollup rows' := by
  unfold eligibleReviewRollup
  rw [h.length_eq, countDistinct_perm ((h.filter _).map _)]

/-- A pull request has one eligible row for each of its reviews. -/
theorem eligibleReviews_apart {snapshots : List ReviewSnapshot} {pullRequests : List PullRequest}
    (hkeys : (pullRequests.map (·.pullRequestKey)).Nodup) {a b : EligibleReview}
    (ha : a ∈ eligibleReviews server snapshots pullRequests)
    (hb : b ∈ eligibleReviews server snapshots pullRequests)
    (hpullRequest : a.pullRequestKey = b.pullRequestKey) (hreview : a.reviewKey = b.reviewKey) :
    a = b := by
  obtain ⟨⟨⟨key, review, rollup⟩, row⟩, hpair, rfl⟩ := List.mem_map.mp ha
  obtain ⟨⟨⟨key', review', rollup'⟩, row'⟩, hpair', rfl⟩ := List.mem_map.mp hb
  obtain ⟨hresolved, hrow, -⟩ := mem_innerJoin.mp (List.mem_filter.mp hpair).1
  obtain ⟨hresolved', hrow', -⟩ := mem_innerJoin.mp (List.mem_filter.mp hpair').1
  obtain rfl : row = row' := List.inj_on_of_nodup_map hkeys hrow hrow' hpullRequest
  have hsame : (key, review, rollup) = (key', review', rollup') :=
    List.inj_on_of_nodup_map resolve_nodup hresolved hresolved' hreview
  cases hsame
  rfl

theorem intFirstEligibleReview_perm {snapshots snapshots' : List ReviewSnapshot}
    {pullRequests pullRequests' : List PullRequest} (h : snapshots.Perm snapshots')
    (hids : (snapshots.map (·.eventId)).Nodup) (hpullRequests : pullRequests.Perm pullRequests')
    (hkeys : (pullRequests.map (·.pullRequestKey)).Nodup) :
    (intFirstEligibleReview server snapshots pullRequests).Perm
      (intFirstEligibleReview server snapshots' pullRequests') := by
  have hrows : (eligibleReviews server snapshots pullRequests).Perm
      (eligibleReviews server snapshots' pullRequests') :=
    ((innerJoin_perm (resolvedReviews_perm h hids) hpullRequests).filter _).map _
  refine (resolve_perm hrows ?_ eligibleReviewRollup_perm).map _
  intro a ha b hb hkey heq
  -- The last key of the window is the key of the review.
  rw [compareLex_eq_eq] at heq
  have hreview : server.compareText a.reviewKey b.reviewKey = .eq := heq.2
  exact eligibleReviews_apart hkeys ha hb (Option.some.inj hkey)
    (Std.LawfulEqCmp.eq_of_compare hreview)

/-! ## Deployments and their latest status -/

/-- Statuses of one deployment with the same time and number have the same key. -/
def StatusesTold (snapshots : List DeploymentStatusSnapshot) : Prop :=
  ∀ a ∈ (resolvedStatuses snapshots).map Prod.fst, ∀ b ∈ (resolvedStatuses snapshots).map Prod.fst,
    a.parent = b.parent → a.createdAt = b.createdAt →
    a.deploymentStatusId = b.deploymentStatusId → a.deploymentStatusKey = b.deploymentStatusKey

instance (snapshots : List DeploymentStatusSnapshot) : Decidable (StatusesTold snapshots) :=
  inferInstanceAs (Decidable (∀ a ∈ _, ∀ b ∈ _, _ → _ → _ → _))

theorem resolvedStatuses_perm {snapshots snapshots' : List DeploymentStatusSnapshot}
    (h : snapshots.Perm snapshots') (hids : (snapshots.map (·.eventId)).Nodup) :
    (resolvedStatuses snapshots).Perm (resolvedStatuses snapshots') := by
  unfold resolvedStatuses
  simp only [h.countP_eq]
  exact (partitionFirst_perm h (snapshotOrder_tellsApart hids)).map _

theorem map_fst_resolvedStatuses {snapshots : List DeploymentStatusSnapshot} :
    (resolvedStatuses snapshots).map Prod.fst
      = partitionFirst DeploymentStatusSnapshot.deploymentStatusKey deploymentStatusOrder
          snapshots := by
  unfold resolvedStatuses
  rw [List.map_map]
  exact List.map_id _

theorem latestStatus_perm {snapshots snapshots' : List DeploymentStatusSnapshot}
    (h : snapshots.Perm snapshots') (hids : (snapshots.map (·.eventId)).Nodup)
    (htold : StatusesTold snapshots) :
    (latestStatus (resolvedStatuses snapshots)).Perm
      (latestStatus (resolvedStatuses snapshots')) := by
  refine partitionFirst_perm ((resolvedStatuses_perm h hids).map _) ?_
  intro a ha b hb hparent heq
  -- The window of the latest status stops at its number; `htold` takes it from there.
  rw [compareLex_eq_eq] at heq
  have hcreated : b.createdAt = a.createdAt := nullsLast_eq heq.1
  have hid : b.deploymentStatusId = a.deploymentStatusId := nullsLast_eq heq.2
  have hkey := htold a ha b hb hparent hcreated.symm hid.symm
  have ha' := map_fst_resolvedStatuses ▸ ha
  have hb' := map_fst_resolvedStatuses ▸ hb
  exact List.inj_on_of_nodup_map partitionFirst_nodup ha' hb' hkey

theorem statusRollup_perm {statuses statuses' : List (DeploymentStatusSnapshot × Nat)}
    (h : statuses.Perm statuses') : (statusRollup statuses).Perm (statusRollup statuses') :=
  groupBy_perm h fun hgroup => by
    rw [minimum_perm ((hgroup.filter _).map _), hgroup.length_eq, (hgroup.map _).sum_eq]

theorem intProductionDeployments_perm {deployments deployments' : List DeploymentSnapshot}
    {statuses statuses' : List DeploymentStatusSnapshot} (h : deployments.Perm deployments')
    (hids : (deployments.map (·.eventId)).Nodup) (hstatuses : statuses.Perm statuses')
    (hstatusIds : (statuses.map (·.eventId)).Nodup) (htold : StatusesTold statuses) :
    (intProductionDeployments deployments statuses).Perm
      (intProductionDeployments deployments' statuses') := by
  have hresolved : (resolvedDeployments deployments).Perm (resolvedDeployments deployments') :=
    resolve_perm h (snapshotOrder_tellsApart hids) deploymentRollup_perm
  have hrollup := statusRollup_perm (resolvedStatuses_perm hstatuses hstatusIds)
  have hlatest := latestStatus_perm hstatuses hstatusIds htold
  exact ((leftJoin_perm (leftJoin_perm hresolved hrollup) hlatest).filter _).map _

/-! ## Links -/

/-- Candidates that the window does not tell apart are equal: they have the deployment's SHA. -/
theorem candidateLinks_apart {commits : List PullRequestCommit} {pullRequests : List PullRequest}
    {deployments : List ProductionDeployment}
    (hkeys : (pullRequests.map (·.pullRequestKey)).Nodup)
    (hdeployments : (deployments.map (·.deploymentKey)).Nodup) :
    TellsApart (fun link => (link.change.pullRequestKey, link.deploymentKey)) linkageOrder
      (candidateLinks (changes commits pullRequests) deployments) := by
  intro a ha b hb hkey heq
  obtain ⟨deployment, hmem, row, hrow, sha, type, completedAt, -, hruns, rfl⟩ :=
    mem_candidateLinks.mp ha
  obtain ⟨deployment', hmem', row', hrow', sha', type', completedAt', -, hruns', rfl⟩ :=
    mem_candidateLinks.mp hb
  obtain ⟨hpullRequest, hdeployment⟩ := Prod.mk.inj hkey
  obtain rfl : row = row' := List.inj_on_of_nodup_map hkeys hrow hrow' hpullRequest
  obtain rfl : deployment = deployment' :=
    List.inj_on_of_nodup_map hdeployments hmem hmem' hdeployment
  unfold linkageOrder at heq
  rw [compareLex_eq_eq] at heq
  have hpriority : some type.priority = some type'.priority := nullsLast_eq heq.1
  have hcompleted : completedAt' = completedAt := nullsLast_eq heq.2
  -- Each linkage type has its own priority.
  have htype : type = type' := by
    cases type <;> cases type' <;> first | rfl | cases hpriority
  unfold runsChange at hruns hruns'
  rw [Bool.and_eq_true, Bool.and_eq_true, Bool.and_eq_true] at hruns hruns'
  obtain ⟨found, hsha, hdeployed⟩ := holds_equal.mp hruns.1.1.2
  obtain ⟨found', hsha', hdeployed'⟩ := holds_equal.mp hruns'.1.1.2
  have hfound : found = found' := Option.some.inj (hdeployed.symm.trans hdeployed')
  -- Both have run in this deployment.
  have hshas : sha = sha' := by
    have hleft : sha = some found := hsha
    have hright : sha' = some found' := hsha'
    rw [hleft, hright, hfound]
  rw [htype, hcompleted, hshas]

theorem changes_perm {commits commits' : List PullRequestCommit}
    {pullRequests pullRequests' : List PullRequest} (h : commits.Perm commits')
    (hpullRequests : pullRequests.Perm pullRequests') :
    (changes commits pullRequests).Perm (changes commits' pullRequests') :=
  List.Perm.append ((hpullRequests.filter _).map _)
    (((innerJoin_perm h hpullRequests).filter _).map _)

theorem intChangeToDeployment_perm {commits commits' : List PullRequestCommit}
    {pullRequests pullRequests' : List PullRequest}
    {deployments deployments' : List ProductionDeployment} (h : commits.Perm commits')
    (hpullRequests : pullRequests.Perm pullRequests')
    (hkeys : (pullRequests.map (·.pullRequestKey)).Nodup)
    (hdeployments : deployments.Perm deployments')
    (hdeploymentKeys : (deployments.map (·.deploymentKey)).Nodup) :
    (intChangeToDeployment commits pullRequests deployments).Perm
      (intChangeToDeployment commits' pullRequests' deployments') :=
  partitionFirst_perm ((innerJoin_perm (changes_perm h hpullRequests) hdeployments).map _)
    (candidateLinks_apart hkeys hdeploymentKeys)

/-! ## Marts -/

theorem observedGroups_perm {rows rows' : List ObservedRepository} (h : rows.Perm rows') :
    (observedGroups server rows).Perm (observedGroups server rows') :=
  (groupBy_perm h fun hgroup => by
    rw [maximum_perm (hgroup.map _), maximum_perm (hgroup.map (·.installationId))]).map _

theorem dimRepository_perm {pullRequests pullRequests' : List PullRequest}
    {deployments deployments' : List ProductionDeployment} {seed : Seed}
    (hpullRequests : pullRequests.Perm pullRequests')
    (hdeployments : deployments.Perm deployments') :
    (dimRepository server pullRequests deployments seed).Perm
      (dimRepository server pullRequests' deployments' seed) := by
  have hobserved : (observedRollup server pullRequests deployments).Perm
      (observedRollup server pullRequests' deployments') :=
    observedGroups_perm (List.Perm.append (observedGroups_perm (hpullRequests.map _))
      (observedGroups_perm (hdeployments.map _)))
  have hids : (repositoryIds (observedRollup server pullRequests deployments) seed).Perm
      (repositoryIds (observedRollup server pullRequests' deployments') seed) :=
    ((hobserved.map _).append_right _).dedup
  exact (leftJoin_perm (leftJoin_perm hids hobserved) (List.Perm.refl _)).map _

theorem fctDeployments_perm {deployments deployments' : List ProductionDeployment}
    {workflowRuns workflowRuns' : List WorkflowRunSnapshot}
    {repositories repositories' : List DimRepository} (h : deployments.Perm deployments')
    (hruns : workflowRuns.Perm workflowRuns') (hids : (workflowRuns.map (·.eventId)).Nodup)
    (hrepositories : repositories.Perm repositories') :
    (fctDeployments server deployments workflowRuns repositories).Perm
      (fctDeployments server deployments' workflowRuns' repositories') := by
  have hresolved : (resolvedWorkflowRuns workflowRuns).Perm (resolvedWorkflowRuns workflowRuns') :=
    resolve_perm hruns (snapshotOrder_tellsApart hids) fun hgroup => by
      rw [hgroup.length_eq, sourceCount_perm hgroup]
  have hevidence : (allEvidence server deployments workflowRuns repositories).Perm
      (allEvidence server deployments' workflowRuns' repositories') :=
    List.Perm.append (h.map _) ((innerJoin_perm hresolved hrepositories).map _)
  exact (innerJoin_perm hevidence hrepositories).map _

theorem fctPullRequests_perm {pullRequests pullRequests' : List PullRequest}
    {reviews reviews' : List FirstEligibleReview} {repositories repositories' : List DimRepository}
    {links links' : List ChangeToDeployment} {deployments deployments' : List FctDeployment}
    (hpullRequests : pullRequests.Perm pullRequests') (hreviews : reviews.Perm reviews')
    (hrepositories : repositories.Perm repositories') (hlinks : links.Perm links')
    (hdeployments : deployments.Perm deployments')
    (hapart : TellsApart CandidateLink.pullRequestKey (linkOrder server)
      (allLinks pullRequests links deployments)) :
    (fctPullRequests server pullRequests reviews repositories links deployments).Perm
      (fctPullRequests server pullRequests' reviews' repositories' links' deployments') := by
  have hall : (allLinks pullRequests links deployments).Perm
      (allLinks pullRequests' links' deployments') :=
    List.Perm.append ((innerJoin_perm hlinks hdeployments).map _)
      (((innerJoin_perm hpullRequests hdeployments).filter _).map _)
  have hselected := partitionFirst_perm hall hapart
  exact (leftJoin_perm (innerJoin_perm (leftJoin_perm hpullRequests hreviews) hrepositories)
    hselected).map _

/-! ## Two listings -/

/-- Two listings of the rows of every staging model. -/
structure Relisted (staged staged' : Staged) : Prop where
  pullRequests : staged.pullRequests.Perm staged'.pullRequests
  reviews : staged.reviews.Perm staged'.reviews
  pullRequestCommits : staged.pullRequestCommits.Perm staged'.pullRequestCommits
  deployments : staged.deployments.Perm staged'.deployments
  deploymentStatuses : staged.deploymentStatuses.Perm staged'.deploymentStatuses
  workflowRuns : staged.workflowRuns.Perm staged'.workflowRuns

/-- Two builds with the same rows in every model that windows rank for. -/
structure SameRows (marts marts' : Marts) : Prop where
  intPrLifecycle : marts.intPrLifecycle.Perm marts'.intPrLifecycle
  intFirstEligibleReview : marts.intFirstEligibleReview.Perm marts'.intFirstEligibleReview
  intProductionDeployments : marts.intProductionDeployments.Perm marts'.intProductionDeployments
  intChangeToDeployment : marts.intChangeToDeployment.Perm marts'.intChangeToDeployment
  fctDeployments : marts.fctDeployments.Perm marts'.fctDeployments
  fctPullRequests : marts.fctPullRequests.Perm marts'.fctPullRequests

theorem stage_perm {ρ : Type} {eventName : String} {typed : GithubEvent → Except Error ρ}
    {events events' : List RawEvent} {rows : List ρ} (hperm : events.Perm events')
    (h : stage server eventName typed events = .ok rows) :
    ∃ rows', stage server eventName typed events' = .ok rows' ∧ rows.Perm rows' :=
  mapM_perm ((hperm.map _).filter _) h

theorem staging_perm {events events' : List RawEvent} {staged : Staged}
    (hperm : events.Perm events') (h : staging server events = .ok staged) :
    ∃ staged', staging server events' = .ok staged' ∧ Relisted staged staged' := by
  have hfrom := staging_iff.mp h
  obtain ⟨pullRequests, hpullRequests, hpullRequests'⟩ := stage_perm hperm hfrom.pullRequests
  obtain ⟨reviews, hreviews, hreviews'⟩ := stage_perm hperm hfrom.reviews
  obtain ⟨commits, hcommits, hcommits'⟩ := stage_perm hperm hfrom.pullRequestCommits
  obtain ⟨deployments, hdeployments, hdeployments'⟩ := stage_perm hperm hfrom.deployments
  obtain ⟨statuses, hstatuses, hstatuses'⟩ := stage_perm hperm hfrom.deploymentStatuses
  obtain ⟨workflowRuns, hworkflowRuns, hworkflowRuns'⟩ := stage_perm hperm hfrom.workflowRuns
  exact ⟨⟨pullRequests, reviews, commits, deployments, statuses, workflowRuns⟩,
    staging_iff.mpr ⟨hpullRequests, hreviews, hcommits, hdeployments, hstatuses, hworkflowRuns⟩,
    ⟨hpullRequests', hreviews', hcommits', hdeployments', hstatuses', hworkflowRuns'⟩⟩

section

variable {seed : Seed} {events events' : List RawEvent} {staged : Staged}

/-- **Marts are functions of the set of raw rows**: two listings of the same events, in which no
two statuses of a deployment share time and number, give the same rows. -/
theorem marts_listing (hperm : events.Perm events') (hdistinct : (events.map (·.eventId)).Nodup)
    (h : staging server events = .ok staged) (htold : StatusesTold staged.deploymentStatuses) :
    ∃ staged', staging server events' = .ok staged'
      ∧ SameRows (build server seed staged) (build server seed staged') := by
  obtain ⟨staged', h', hrelisted⟩ := staging_perm hperm h
  have hfrom := staging_iff.mp h
  have hpullRequestIds := stage_eventId_nodup hfrom.pullRequests
    (fun _ _ hrow => (pullRequestSnapshot_key hrow).1) hdistinct
  have hreviewIds := stage_eventId_nodup hfrom.reviews
    (fun _ _ hrow => reviewSnapshot_lineage hrow) hdistinct
  have hdeploymentIds := stage_eventId_nodup hfrom.deployments
    (fun _ _ hrow => (deploymentSnapshot_key hrow).1) hdistinct
  have hstatusIds := stage_eventId_nodup hfrom.deploymentStatuses
    (fun _ _ hrow => deploymentStatusSnapshot_lineage hrow) hdistinct
  have hrunIds := stage_eventId_nodup hfrom.workflowRuns
    (fun _ _ hrow => (workflowRunSnapshot_key hrow).1) hdistinct
  have hpullRequests : (build server seed staged).intPrLifecycle.Perm
      (build server seed staged').intPrLifecycle := by
    rw [build_intPrLifecycle, build_intPrLifecycle]
    exact intPrLifecycle_perm hrelisted.pullRequests hpullRequestIds
  have hkeys : ((build server seed staged).intPrLifecycle.map (·.pullRequestKey)).Nodup := by
    rw [build_intPrLifecycle]
    exact intPrLifecycle_nodup
  have hreviews : (build server seed staged).intFirstEligibleReview.Perm
      (build server seed staged').intFirstEligibleReview := by
    rw [build_intFirstEligibleReview, build_intFirstEligibleReview]
    exact intFirstEligibleReview_perm hrelisted.reviews hreviewIds hpullRequests hkeys
  have hproduction : (build server seed staged).intProductionDeployments.Perm
      (build server seed staged').intProductionDeployments := by
    rw [build_intProductionDeployments, build_intProductionDeployments]
    exact intProductionDeployments_perm hrelisted.deployments hdeploymentIds
      hrelisted.deploymentStatuses hstatusIds htold
  have hproductionKeys : ((build server seed staged).intProductionDeployments.map
      (·.deploymentKey)).Nodup := by
    rw [build_intProductionDeployments]
    exact intProductionDeployments_nodup
  have hlinks : (build server seed staged).intChangeToDeployment.Perm
      (build server seed staged').intChangeToDeployment := by
    rw [build_intChangeToDeployment, build_intChangeToDeployment]
    exact intChangeToDeployment_perm hrelisted.pullRequestCommits hpullRequests hkeys hproduction
      hproductionKeys
  have hrepositories : (build server seed staged).dimRepository.Perm
      (build server seed staged').dimRepository := by
    rw [build_dimRepository, build_dimRepository]
    exact dimRepository_perm hpullRequests hproduction
  have hdeployments : (build server seed staged).fctDeployments.Perm
      (build server seed staged').fctDeployments := by
    rw [build_fctDeployments, build_fctDeployments]
    exact fctDeployments_perm hproduction hrelisted.workflowRuns hrunIds hrepositories
  have hfacts : (build server seed staged).fctPullRequests.Perm
      (build server seed staged').fctPullRequests := by
    rw [build_fctPullRequests, build_fctPullRequests]
    exact fctPullRequests_perm hpullRequests hreviews hrepositories hlinks hdeployments
      fun a ha b hb hkey heq => buildLinks_apart h ha hb hkey heq
  exact ⟨staged', h', hpullRequests, hreviews, hproduction, hlinks, hdeployments, hfacts⟩

end

/-- Two statuses of one deployment at one time. -/
def twoStatuses (id id' : String) : List RawEvent :=
  [ demoEvent 2 "deployment_status" 0
      [("deployment", .object [("id", .number 70001 0)]),
        ("deployment_status", .object [("id", .string id), ("state", .string "success")])]
  , demoEvent 3 "deployment_status" 0
      [("deployment", .object [("id", .number 70001 0)]),
        ("deployment_status", .object [("id", .string id'), ("state", .string "failure")])] ]

/-- The deployment of these statuses. -/
def oneDeployment : RawEvent :=
  demoEvent 1 "deployment" 0
    [("deployment", .object
      [("id", .number 70001 0), ("environment", .string "production"), ("sha", .string "abc"),
        ("production_environment", .bool true)])]

/-- Where the ids are the texts `5` and `05`, the physical order chooses the latest state of the
deployment. -/
theorem listing_chooses_status :
    ∃ staged staged', staging (smallServer [] []) (oneDeployment :: twoStatuses "5" "05") = .ok staged
      ∧ staging (smallServer [] []) (oneDeployment :: (twoStatuses "5" "05").reverse) = .ok staged'
      ∧ (oneDeployment :: twoStatuses "5" "05").Perm (oneDeployment :: (twoStatuses "5" "05").reverse)
      ∧ ((oneDeployment :: twoStatuses "5" "05").map (·.eventId)).Nodup
      ∧ (build (smallServer [] []) (demoSeed "UTC") staged).fctDeployments.map (·.latestState)
        = [some "success"]
      ∧ (build (smallServer [] []) (demoSeed "UTC") staged').fctDeployments.map (·.latestState)
        = [some "failure"]
      ∧ ¬ SameRows (build (smallServer [] []) (demoSeed "UTC") staged)
          (build (smallServer [] []) (demoSeed "UTC") staged') := by
  have hrun : ∃ staged, staging (smallServer [] []) (oneDeployment :: twoStatuses "5" "05")
        = .ok staged
      ∧ (build (smallServer [] []) (demoSeed "UTC") staged).fctDeployments.map (·.latestState)
        = [some "success"] := by
    decide +kernel
  have hrun' : ∃ staged,
      staging (smallServer [] []) (oneDeployment :: (twoStatuses "5" "05").reverse) = .ok staged
      ∧ (build (smallServer [] []) (demoSeed "UTC") staged).fctDeployments.map (·.latestState)
        = [some "failure"] := by
    decide +kernel
  obtain ⟨staged, h, hsuccess⟩ := hrun
  obtain ⟨staged', h', hfailure⟩ := hrun'
  refine ⟨staged, staged', h, h', (List.reverse_perm _).symm.cons _, by decide,
    hsuccess, hfailure, fun hsame => ?_⟩
  have hstates := hsame.fctDeployments.map (·.latestState)
  rw [hsuccess, hfailure] at hstates
  exact absurd (List.singleton_perm_singleton.mp hstates) (by decide)

/-- The ids `5` and `6` are told apart. -/
theorem marts_listing_told :
    ∃ staged staged', staging (smallServer [] []) (oneDeployment :: twoStatuses "5" "6") = .ok staged
      ∧ staging (smallServer [] []) (oneDeployment :: (twoStatuses "5" "6").reverse) = .ok staged'
      ∧ SameRows (build (smallServer [] []) (demoSeed "UTC") staged)
          (build (smallServer [] []) (demoSeed "UTC") staged') := by
  have hrun : ∃ staged, staging (smallServer [] []) (oneDeployment :: twoStatuses "5" "6")
      = .ok staged ∧ StatusesTold staged.deploymentStatuses := by
    decide +kernel
  obtain ⟨staged, h, htold⟩ := hrun
  have hperm : (oneDeployment :: twoStatuses "5" "6").Perm
      (oneDeployment :: (twoStatuses "5" "6").reverse) :=
    ((List.reverse_perm (twoStatuses "5" "6")).symm.cons oneDeployment)
  obtain ⟨staged', h', hsame⟩ : ∃ staged',
      staging (smallServer [] []) (oneDeployment :: (twoStatuses "5" "6").reverse) = .ok staged'
      ∧ SameRows (build (smallServer [] []) (demoSeed "UTC") staged)
        (build (smallServer [] []) (demoSeed "UTC") staged') :=
    marts_listing hperm (by decide) h htold
  exact ⟨staged, staged', h, h', hsame⟩

end Dbt
