import DeliveryIntelligence.Dbt.Marts
import DeliveryIntelligence.Library.Text

set_option autoImplicit false

/-!
# The rows of every model

One lemma for each model: which rows it has and from which rows of the models below they come.
The results about the marts use these lemmas and never look into a query again.
-/

namespace Dbt

open Postgres Query
open RawEvents (RawEvent)

variable {server : Server}

/-! ## Snapshots -/

instance {ρ : Type} (lineage : ρ → Lineage) (changedAt : ρ → Option Timestamp) :
    Std.TransCmp (snapshotOrder lineage changedAt) := by
  unfold snapshotOrder
  infer_instance

instance : Std.TransCmp pullRequestOrder := inferInstanceAs (Std.TransCmp (snapshotOrder _ _))

instance : Std.TransCmp reviewOrder := inferInstanceAs (Std.TransCmp (snapshotOrder _ _))

instance : Std.TransCmp deploymentOrder := inferInstanceAs (Std.TransCmp (snapshotOrder _ _))

instance : Std.TransCmp deploymentStatusOrder := inferInstanceAs (Std.TransCmp (snapshotOrder _ _))

instance : Std.TransCmp workflowOrder := inferInstanceAs (Std.TransCmp (snapshotOrder _ _))

/-! ## Staging -/

/-- Every staging model has one row for each event of its name, with that event's lineage. -/
theorem stage_map {ρ γ : Type} {eventName : String} {typed : GithubEvent → Except Error ρ}
    {events : List RawEvent} {rows : List ρ} {key : ρ → γ} {keyOf : GithubEvent → γ}
    (h : stage server eventName typed events = .ok rows)
    (hkey : ∀ event row, typed event = .ok row → key row = keyOf event) :
    rows.map key
      = ((stgGithubEvents server events).filter fun event =>
          event.eventName = eventName).map keyOf :=
  map_eq_of_mapM hkey h

theorem stage_eventId_nodup {ρ : Type} {eventName : String}
    {typed : GithubEvent → Except Error ρ} {events : List RawEvent} {rows : List ρ}
    {lineage : ρ → Lineage} (h : stage server eventName typed events = .ok rows)
    (hlineage : ∀ event row, typed event = .ok row → lineage row = event.toLineage)
    (hdistinct : (events.map (·.eventId)).Nodup) :
    (rows.map fun row => (lineage row).eventId).Nodup := by
  have hids : rows.map (fun row => (lineage row).eventId)
      = ((stgGithubEvents server events).filter fun event =>
          event.eventName = eventName).map fun event => event.eventId :=
    stage_map h fun event row hrow => by rw [hlineage event row hrow]
  have hall : (stgGithubEvents server events).map (fun event => event.eventId)
      = events.map (·.eventId) := by
    unfold stgGithubEvents
    rw [List.map_map]
    rfl
  rw [hids]
  exact (hall ▸ hdistinct).sublist (List.filter_sublist.map _)

/-- The rows are those of the staging models over the events. -/
structure StagedFrom (server : Server) (events : List RawEvent) (staged : Staged) : Prop where
  pullRequests : stgGithubPullRequests server events = .ok staged.pullRequests
  reviews : stgGithubReviews server events = .ok staged.reviews
  pullRequestCommits :
    stgGithubPullRequestCommits server events = .ok staged.pullRequestCommits
  deployments : stgGithubDeployments server events = .ok staged.deployments
  deploymentStatuses :
    stgGithubDeploymentStatuses server events = .ok staged.deploymentStatuses
  workflowRuns : stgGithubWorkflowRuns server events = .ok staged.workflowRuns

theorem staging_iff {events : List RawEvent} {staged : Staged} :
    staging server events = .ok staged ↔ StagedFrom server events staged := by
  constructor
  · intro h
    obtain ⟨pullRequests, hpullRequests, h⟩ := bind_eq_ok h
    obtain ⟨reviews, hreviews, h⟩ := bind_eq_ok h
    obtain ⟨commits, hcommits, h⟩ := bind_eq_ok h
    obtain ⟨deployments, hdeployments, h⟩ := bind_eq_ok h
    obtain ⟨statuses, hstatuses, h⟩ := bind_eq_ok h
    obtain ⟨workflowRuns, hworkflowRuns, h⟩ := bind_eq_ok h
    cases h
    exact ⟨hpullRequests, hreviews, hcommits, hdeployments, hstatuses, hworkflowRuns⟩
  · intro h
    unfold staging
    rw [h.pullRequests, h.reviews, h.pullRequestCommits, h.deployments, h.deploymentStatuses,
      h.workflowRuns]
    rfl

theorem pullRequestSnapshot_key {event : GithubEvent} {row : PullRequestSnapshot}
    (h : pullRequestSnapshot server event = .ok row) :
    row.toLineage = event.toLineage ∧ row.pullRequestKey = pullRequestKey server event := by
  unfold pullRequestSnapshot at h
  repeat obtain ⟨_, -, h⟩ := bind_eq_ok h
  cases h
  exact ⟨rfl, rfl⟩

theorem reviewSnapshot_lineage {event : GithubEvent} {row : ReviewSnapshot}
    (h : reviewSnapshot server event = .ok row) : row.toLineage = event.toLineage := by
  unfold reviewSnapshot at h
  repeat obtain ⟨_, -, h⟩ := bind_eq_ok h
  cases h
  rfl

theorem deploymentStatusSnapshot_lineage {event : GithubEvent} {row : DeploymentStatusSnapshot}
    (h : deploymentStatusSnapshot server event = .ok row) : row.toLineage = event.toLineage := by
  unfold deploymentStatusSnapshot at h
  repeat obtain ⟨_, -, h⟩ := bind_eq_ok h
  cases h
  rfl

theorem cast_some_ok {α : Type} {type text : String} {read : String → Option α} {value : Option α}
    (h : cast type read (some text) = .ok value) : ∃ v, read text = some v := by
  cases hread : read text with
  | some v => exact ⟨v, rfl⟩
  | none =>
      unfold cast at h
      simp only [hread] at h
      cases h

/-- The key of a deployment is its repository and a text that is a number. -/
theorem deploymentSnapshot_key {event : GithubEvent} {row : DeploymentSnapshot}
    (h : deploymentSnapshot server event = .ok row) :
    row.toLineage = event.toLineage
    ∧ ∀ k, row.deploymentKey = some k →
        ∃ text n, server.bigint text = some n ∧ k = toString row.repositoryId ++ ":" ++ text := by
  unfold deploymentSnapshot at h
  obtain ⟨id, hid, h⟩ := bind_eq_ok h
  repeat obtain ⟨_, -, h⟩ := bind_eq_ok h
  cases h
  refine ⟨rfl, fun k hk => ?_⟩
  obtain ⟨text, htext, rfl⟩ := Option.map_eq_some_iff.mp hk
  have hcast : cast "bigint" server.bigint (some text) = .ok id := htext ▸ hid
  obtain ⟨n, hread⟩ := cast_some_ok hcast
  exact ⟨text, n, hread, rfl⟩

/-- The key of a workflow run has an attempt behind the repository and the run. -/
theorem workflowRunSnapshot_key {event : GithubEvent} {row : WorkflowRunSnapshot}
    (h : workflowRunSnapshot server event = .ok row) :
    row.toLineage = event.toLineage
    ∧ ∀ k, row.workflowRunKey = some k →
        ∃ text attempt, k = toString row.repositoryId ++ ":" ++ text ++ ":" ++ attempt := by
  unfold workflowRunSnapshot at h
  repeat obtain ⟨_, -, h⟩ := bind_eq_ok h
  cases h
  refine ⟨rfl, fun k hk => ?_⟩
  obtain ⟨whole, hwhole, rfl⟩ := Option.map_eq_some_iff.mp hk
  obtain ⟨text, -, rfl⟩ := Option.map_eq_some_iff.mp hwhole
  exact ⟨text, _, rfl⟩

/-! ## Intermediate models -/

section

variable {snapshots : List PullRequestSnapshot}

theorem map_key_intPrLifecycle :
    (intPrLifecycle server snapshots).map (·.pullRequestKey)
      = (snapshots.map (·.pullRequestKey)).dedup.reduceOption := by
  unfold intPrLifecycle
  rw [List.map_map]
  exact map_resolve fun _ _ _ _ => rfl

theorem intPrLifecycle_nodup :
    ((intPrLifecycle server snapshots).map (·.pullRequestKey)).Nodup := by
  rw [map_key_intPrLifecycle]
  exact (List.nodup_dedup _).filterMap fun _ _ _ h h' => h.trans h'.symm

theorem mem_map_key_intPrLifecycle {k : String} :
    k ∈ (intPrLifecycle server snapshots).map (·.pullRequestKey)
      ↔ some k ∈ snapshots.map (·.pullRequestKey) := by
  rw [map_key_intPrLifecycle, List.reduceOption_mem_iff, List.mem_dedup]

end

/-- The pull requests with a first review are those with an eligible one. -/
theorem map_key_intFirstEligibleReview {snapshots : List ReviewSnapshot}
    {pullRequests : List PullRequest} :
    (intFirstEligibleReview server snapshots pullRequests).map (·.pullRequestKey)
      = (((eligibleReviews server snapshots pullRequests).map fun row =>
          some row.pullRequestKey)).dedup.reduceOption := by
  unfold intFirstEligibleReview
  rw [List.map_map]
  exact map_resolve fun _ _ _ h => Option.some.inj h

/-- A pull request has one first review at most. -/
theorem intFirstEligibleReview_nodup {snapshots : List ReviewSnapshot}
    {pullRequests : List PullRequest} :
    ((intFirstEligibleReview server snapshots pullRequests).map (·.pullRequestKey)).Nodup := by
  rw [map_key_intFirstEligibleReview]
  exact (List.nodup_dedup _).filterMap fun _ _ _ h h' => h.trans h'.symm

/-- A pull request without a first review has no eligible one. -/
theorem eligibleReview_key_ne {snapshots : List ReviewSnapshot} {pullRequests : List PullRequest}
    {key : String} (h : ((intFirstEligibleReview server snapshots pullRequests).find? fun review =>
      key = review.pullRequestKey) = none) {row : EligibleReview}
    (hrow : row ∈ eligibleReviews server snapshots pullRequests) : row.pullRequestKey ≠ key := by
  intro hkey
  have hmem : key ∈ (intFirstEligibleReview server snapshots pullRequests).map
      (·.pullRequestKey) := by
    rw [map_key_intFirstEligibleReview, List.reduceOption_mem_iff, List.mem_dedup]
    exact List.mem_map.mpr ⟨row, hrow, congrArg some hkey⟩
  obtain ⟨first, hfirst, hfirstKey⟩ := List.mem_map.mp hmem
  exact List.find?_eq_none.mp h first hfirst (decide_eq_true hfirstKey.symm)

theorem mem_eligibleReviews {snapshots : List ReviewSnapshot} {pullRequests : List PullRequest}
    {row : EligibleReview} :
    row ∈ eligibleReviews server snapshots pullRequests
      ↔ ∃ key review rollup, (key, review, rollup) ∈ resolvedReviews snapshots
        ∧ ∃ pullRequest ∈ pullRequests, reviewOfPullRequest review pullRequest = true
          ∧ isEligibleReview server review pullRequest = true
          ∧ row = eligibleReview key review rollup pullRequest := by
  unfold eligibleReviews
  rw [List.mem_map]
  constructor
  · rintro ⟨⟨⟨key, review, rollup⟩, pullRequest⟩, hmem, rfl⟩
    obtain ⟨hjoined, heligible⟩ := List.mem_filter.mp hmem
    obtain ⟨hreview, hpullRequest, hon⟩ := mem_innerJoin.mp hjoined
    exact ⟨key, review, rollup, hreview, pullRequest, hpullRequest, hon, heligible, rfl⟩
  · rintro ⟨key, review, rollup, hreview, pullRequest, hpullRequest, hon, heligible, rfl⟩
    refine ⟨((key, review, rollup), pullRequest), List.mem_filter.mpr ⟨?_, heligible⟩, rfl⟩
    exact mem_innerJoin.mpr ⟨hreview, hpullRequest, hon⟩

/-- An eligible review has the time it was submitted at. -/
theorem submittedAt_of_mem_eligibleReviews {snapshots : List ReviewSnapshot}
    {pullRequests : List PullRequest} {row : EligibleReview}
    (h : row ∈ eligibleReviews server snapshots pullRequests) : ∃ t, row.submittedAt = some t := by
  obtain ⟨key, review, rollup, -, pullRequest, -, -, heligible, rfl⟩ := mem_eligibleReviews.mp h
  unfold isEligibleReview at heligible
  rw [Bool.and_eq_true] at heligible
  obtain ⟨createdAt, submittedAt, -, hsubmitted, -⟩ := holds_atMost.mp heligible.2
  exact ⟨submittedAt, hsubmitted⟩

/-- The first review of a pull request is the earliest of its eligible reviews. -/
theorem firstReviewAt_iff {snapshots : List ReviewSnapshot} {pullRequests : List PullRequest}
    {key : String} {t : Timestamp} :
    ((intFirstEligibleReview server snapshots pullRequests).find? fun review =>
        key = review.pullRequestKey).bind (·.firstReviewAt) = some t
      ↔ IsLeast {t | ∃ row ∈ eligibleReviews server snapshots pullRequests,
          row.pullRequestKey = key ∧ row.submittedAt = some t} t := by
  cases hfind : (intFirstEligibleReview server snapshots pullRequests).find? fun review =>
      key = review.pullRequestKey with
  | none =>
      -- No row of the model, and no eligible review.
      refine iff_of_false (fun h => nomatch h) ?_
      rintro ⟨⟨row, hrow, hkey, -⟩, -⟩
      exact eligibleReview_key_ne hfind hrow hkey
  | some found =>
      have hkey : key = found.pullRequestKey := by simpa using List.find?_some hfind
      obtain ⟨⟨k, first, rollup⟩, hresolved, rfl⟩ :=
        List.mem_map.mp (List.mem_of_find?_eq_some hfind)
      obtain ⟨hk, hfirst, -⟩ := mem_resolve.mp hresolved
      obtain rfl : k = key := (Option.some.inj hk).symm.trans hkey.symm
      have hmem := (List.mem_filter.mp (firstBy_mem hfirst)).1
      obtain ⟨submittedAt, hsubmitted⟩ := submittedAt_of_mem_eligibleReviews hmem
      have hleast : IsLeast {t | ∃ row ∈ eligibleReviews server snapshots pullRequests,
          row.pullRequestKey = k ∧ row.submittedAt = some t} submittedAt := by
        refine ⟨⟨first, hmem, hkey.symm, hsubmitted⟩, ?_⟩
        rintro other ⟨row, hrow, hrowKey, hrowSubmitted⟩
        have hle := isLE_of_compareLex (firstBy_isLE hfirst row
          (List.mem_filter.mpr ⟨hrow, decide_eq_true (congrArg some hrowKey)⟩))
        -- No eligible review has a null here, so the order is that of the timestamps.
        have horder : (nullsLast compare first.submittedAt row.submittedAt).isLE := hle
        rw [hsubmitted, hrowSubmitted] at horder
        exact Std.isLE_compare.mp horder
      show first.submittedAt = some t ↔ _
      rw [hsubmitted, Option.some.injEq]
      constructor
      · rintro rfl
        exact hleast
      · exact hleast.unique

theorem isParent_eq {deployment : DeploymentSnapshot} {parent : Int × Option Int}
    (h : isParent deployment parent = true) :
    parent = (deployment.repositoryId, deployment.deploymentId) := by
  unfold isParent at h
  rw [Bool.and_eq_true] at h
  obtain ⟨n, hid, hparent⟩ := holds_equal.mp h.2
  have hrepository : deployment.repositoryId = parent.1 := of_decide_eq_true h.1
  rw [hrepository, hid, ← hparent]

/-- The rows of `int_production_deployments`: one for each resolved production deployment, the
group of its statuses and its latest status beside it. -/
theorem intProductionDeployments_eq {deployments : List DeploymentSnapshot}
    {deploymentStatuses : List DeploymentStatusSnapshot} :
    intProductionDeployments deployments deploymentStatuses
      = ((resolvedDeployments deployments).filter fun (_, deployment, _) =>
          deployment.isProductionEnvironment).map fun (key, deployment, rollup) =>
        productionDeployment key deployment rollup
          (((statusRollup (resolvedStatuses deploymentStatuses)).find? fun (parent, _) =>
            isParent deployment parent).map Prod.snd)
          ((latestStatus (resolvedStatuses deploymentStatuses)).find? fun latest =>
            isParent deployment latest.parent) := by
  have hrollup : ∀ deployment, ((statusRollup (resolvedStatuses deploymentStatuses)).filter
      fun (parent, _) => isParent deployment parent).length ≤ 1 := fun deployment =>
    filter_length_le_one Prod.fst groupBy_nodup fun a _ b _ ha hb =>
      (isParent_eq ha).trans (isParent_eq hb).symm
  have hlatest : ∀ deployment, ((latestStatus (resolvedStatuses deploymentStatuses)).filter
      fun latest => isParent deployment latest.parent).length ≤ 1 := fun deployment =>
    filter_length_le_one _ partitionFirst_nodup fun a _ b _ ha hb =>
      (isParent_eq ha).trans (isParent_eq hb).symm
  unfold intProductionDeployments
  simp only
  -- Each join finds one row at most, so it adds a column and no rows.
  rw [leftJoin_eq_map fun a _ => hlatest a.1.2.1]
  rw [leftJoin_eq_map fun a _ => hrollup a.2.1]
  simp only [List.map_map, List.filter_map, Function.comp_def]

theorem map_key_intProductionDeployments {deployments : List DeploymentSnapshot}
    {deploymentStatuses : List DeploymentStatusSnapshot} :
    (intProductionDeployments deployments deploymentStatuses).map (·.deploymentKey)
      = ((resolvedDeployments deployments).filter fun (_, deployment, _) =>
          deployment.isProductionEnvironment).map Prod.fst := by
  rw [intProductionDeployments_eq, List.map_map]
  rfl

theorem intProductionDeployments_nodup {deployments : List DeploymentSnapshot}
    {deploymentStatuses : List DeploymentStatusSnapshot} :
    ((intProductionDeployments deployments deploymentStatuses).map (·.deploymentKey)).Nodup := by
  rw [map_key_intProductionDeployments]
  exact resolve_nodup.sublist (List.filter_sublist.map _)

/-! ## `dim_repository` -/

theorem map_id_observedGroups {rows : List ObservedRepository} :
    (observedGroups server rows).map (·.repositoryId) = (rows.map (·.repositoryId)).dedup := by
  unfold observedGroups
  rw [List.map_map]
  exact map_fst_groupBy

section

variable {pullRequests : List PullRequest} {deployments : List ProductionDeployment} {seed : Seed}

theorem observedRollup_nodup :
    ((observedRollup server pullRequests deployments).map (·.repositoryId)).Nodup := by
  unfold observedRollup
  rw [map_id_observedGroups]
  exact List.nodup_dedup _

theorem mem_map_id_observedRollup {repositoryId : Int} :
    repositoryId ∈ (observedRollup server pullRequests deployments).map (·.repositoryId)
      ↔ repositoryId ∈ pullRequests.map (·.repositoryId)
        ∨ repositoryId ∈ deployments.map (·.repositoryId) := by
  unfold observedRollup
  rw [map_id_observedGroups, List.mem_dedup, List.map_append, List.mem_append,
    map_id_observedGroups, map_id_observedGroups, List.mem_dedup, List.mem_dedup, List.map_map,
    List.map_map]
  rfl

theorem dimRepository_eq :
    dimRepository server pullRequests deployments seed
      = (repositoryIds (observedRollup server pullRequests deployments) seed).map fun repositoryId =>
          dimRepositoryRow repositoryId
            ((observedRollup server pullRequests deployments).find? fun row =>
              row.repositoryId = repositoryId)
            (seed.rows.find? fun row => row.repositoryId = repositoryId) := by
  have hobserved : ∀ repositoryId, ((observedRollup server pullRequests deployments).filter
      fun row => row.repositoryId = repositoryId).length ≤ 1 := fun repositoryId =>
    filter_length_le_one _ observedRollup_nodup fun a _ b _ ha hb =>
      (of_decide_eq_true ha).trans (of_decide_eq_true hb).symm
  have hconfig : ∀ repositoryId, (seed.rows.filter
      fun row => row.repositoryId = repositoryId).length ≤ 1 := fun repositoryId =>
    filter_length_le_one _ seed.repositoryId_unique fun a _ b _ ha hb =>
      (of_decide_eq_true ha).trans (of_decide_eq_true hb).symm
  unfold dimRepository
  simp only
  rw [leftJoin_eq_map fun a _ => hobserved a, leftJoin_eq_map fun a _ => hconfig a.1]
  simp only [List.map_map, Function.comp_def]

theorem map_id_dimRepository :
    (dimRepository server pullRequests deployments seed).map (·.repositoryId)
      = repositoryIds (observedRollup server pullRequests deployments) seed := by
  rw [dimRepository_eq, List.map_map]
  exact List.map_id _

theorem dimRepository_nodup :
    ((dimRepository server pullRequests deployments seed).map (·.repositoryId)).Nodup := by
  rw [map_id_dimRepository]
  exact List.nodup_dedup _

theorem mem_map_id_dimRepository {repositoryId : Int} :
    repositoryId ∈ (dimRepository server pullRequests deployments seed).map (·.repositoryId)
      ↔ repositoryId ∈ pullRequests.map (·.repositoryId)
        ∨ repositoryId ∈ deployments.map (·.repositoryId)
        ∨ repositoryId ∈ seed.rows.map (·.repositoryId) := by
  rw [map_id_dimRepository]
  unfold repositoryIds
  rw [List.mem_dedup, List.mem_append, mem_map_id_observedRollup, or_assoc]

/-- A configured repository stands in `dim_repository` with its configuration. -/
theorem mem_dimRepository_of_config {config : MetricConfig} (h : config ∈ seed.rows) :
    ∃ observed, dimRepositoryRow config.repositoryId observed (some config)
      ∈ dimRepository server pullRequests deployments seed := by
  have hid : config.repositoryId ∈ repositoryIds (observedRollup server pullRequests deployments)
      seed := by
    unfold repositoryIds
    rw [List.mem_dedup, List.mem_append]
    exact Or.inr (List.mem_map_of_mem h)
  have hfind : (seed.rows.find? fun row => row.repositoryId = config.repositoryId) = some config :=
    find?_of_nodup seed.repositoryId_unique (fun _ _ hb => of_decide_eq_true hb) h
      (decide_eq_true rfl)
  refine ⟨(observedRollup server pullRequests deployments).find? fun row =>
    row.repositoryId = config.repositoryId, ?_⟩
  rw [dimRepository_eq, ← hfind]
  exact List.mem_map.mpr ⟨config.repositoryId, hid, rfl⟩

end

/-! ## Joins with `dim_repository` -/

/-- A join with `dim_repository` on the repository finds one row at most. -/
theorem filter_repository_le_one {repositories : List DimRepository} {p : DimRepository → Bool}
    (hdistinct : (repositories.map (·.repositoryId)).Nodup) {repositoryId : Int}
    (hp : ∀ row, p row = true → repositoryId = row.repositoryId) :
    (repositories.filter p).length ≤ 1 :=
  filter_length_le_one _ hdistinct fun a _ b _ ha hb => (hp a ha).symm.trans (hp b hb)

/-- Facts of known repositories are kept by the join with `dim_repository`, one row for each. -/
theorem map_fst_joinRepository {α : Type} (repositoryId : α → Int) {facts : List α}
    {repositories : List DimRepository} (hdistinct : (repositories.map (·.repositoryId)).Nodup)
    (hknown : ∀ fact ∈ facts, repositoryId fact ∈ repositories.map (·.repositoryId)) :
    (innerJoin (fun fact (repository : DimRepository) =>
      decide (repositoryId fact = repository.repositoryId)) facts repositories).map Prod.fst
      = facts := by
  apply map_fst_innerJoin
  · intro fact _
    exact filter_repository_le_one hdistinct fun row h => of_decide_eq_true h
  · intro fact hfact
    obtain ⟨row, hrow, hid⟩ := List.mem_map.mp (hknown fact hfact)
    exact ⟨row, hrow, decide_eq_true hid.symm⟩

/-! ## `fct_deployments` -/

section

variable {deployments : List ProductionDeployment} {workflowRuns : List WorkflowRunSnapshot}
  {repositories : List DimRepository}

theorem isConfiguredWorkflow_repository {workflow : WorkflowRunSnapshot}
    {repository : DimRepository} (h : isConfiguredWorkflow server workflow repository = true) :
    workflow.repositoryId = repository.repositoryId := by
  unfold isConfiguredWorkflow at h
  rw [Bool.and_eq_true, Bool.and_eq_true] at h
  exact of_decide_eq_true h.1.1

/-- The evidence of workflow runs: the runs of the configured workflow of a repository. -/
theorem mem_workflowEvidenceRows {evidence : Evidence} :
    evidence ∈ workflowEvidenceRows server workflowRuns repositories
      ↔ ∃ key workflow rollup, (key, workflow, rollup) ∈ resolvedWorkflowRuns workflowRuns
        ∧ (∃ repository ∈ repositories, isConfiguredWorkflow server workflow repository = true)
        ∧ evidence = workflowEvidence key workflow rollup := by
  unfold workflowEvidenceRows
  rw [List.mem_map]
  constructor
  · rintro ⟨⟨⟨key, workflow, rollup⟩, repository⟩, hmem, rfl⟩
    obtain ⟨hrow, hrepository, hon⟩ := mem_innerJoin.mp hmem
    exact ⟨key, workflow, rollup, hrow, ⟨repository, hrepository, hon⟩, rfl⟩
  · rintro ⟨key, workflow, rollup, hrow, ⟨repository, hrepository, hon⟩, rfl⟩
    exact ⟨((key, workflow, rollup), repository), mem_innerJoin.mpr ⟨hrow, hrepository, hon⟩, rfl⟩

theorem workflowEvidenceRows_nodup (hdistinct : (repositories.map (·.repositoryId)).Nodup) :
    ((workflowEvidenceRows server workflowRuns repositories).map (·.deploymentKey)).Nodup := by
  unfold workflowEvidenceRows
  rw [List.map_map]
  have hsub := map_fst_innerJoin_sublist fun row (_ : row ∈ resolvedWorkflowRuns workflowRuns) =>
    filter_repository_le_one hdistinct fun repository
      (h : isConfiguredWorkflow server row.2.1 repository = true) =>
        isConfiguredWorkflow_repository h
  have hkeys := hsub.map Prod.fst
  rw [List.map_map] at hkeys
  exact resolve_nodup.sublist hkeys

theorem mem_fctDeployments {row : FctDeployment} :
    row ∈ fctDeployments server deployments workflowRuns repositories
      ↔ ∃ evidence ∈ allEvidence server deployments workflowRuns repositories,
          ∃ repository ∈ repositories, evidence.repositoryId = repository.repositoryId
            ∧ row = classified server evidence repository := by
  unfold fctDeployments
  rw [List.mem_map]
  constructor
  · rintro ⟨⟨evidence, repository⟩, hmem, rfl⟩
    obtain ⟨hevidence, hrepository, hon⟩ := mem_innerJoin.mp hmem
    exact ⟨evidence, hevidence, repository, hrepository, of_decide_eq_true hon, rfl⟩
  · rintro ⟨evidence, hevidence, repository, hrepository, hid, rfl⟩
    exact ⟨(evidence, repository),
      mem_innerJoin.mpr ⟨hevidence, hrepository, decide_eq_true hid⟩, rfl⟩

/-- Evidence counts only with the time of its success. -/
theorem successfulAt_of_isMeasured {evidence : Evidence} {repository : DimRepository}
    (h : (classified server evidence repository).isMeasured = true) :
    evidence.successfulAt.isSome := by
  cases hsuccess : evidence.successfulAt with
  | some t => rfl
  | none =>
      have hnot : notSuccessful evidence = true := by
        unfold notSuccessful
        rw [hsuccess, holds_either]
        exact Bool.or_true _
      unfold classified FctDeployment.isMeasured at h
      simp [hnot] at h

/-- No evidence is lost in the join with `dim_repository`. -/
theorem map_toEvidence_fctDeployments (hdistinct : (repositories.map (·.repositoryId)).Nodup)
    (hknown : ∀ row ∈ deployments, row.repositoryId ∈ repositories.map (·.repositoryId)) :
    (fctDeployments server deployments workflowRuns repositories).map (·.toEvidence)
      = allEvidence server deployments workflowRuns repositories := by
  have hall : ∀ evidence ∈ allEvidence server deployments workflowRuns repositories,
      evidence.repositoryId ∈ repositories.map (·.repositoryId) := by
    intro evidence hevidence
    unfold allEvidence at hevidence
    rcases List.mem_append.mp hevidence with hmem | hmem
    · obtain ⟨row, hrow, rfl⟩ := List.mem_map.mp hmem
      exact hknown row hrow
    · obtain ⟨_, workflow, _, -, ⟨repository, hrepository, hon⟩, rfl⟩ :=
        mem_workflowEvidenceRows.mp hmem
      have hid : workflow.repositoryId = repository.repositoryId :=
        isConfiguredWorkflow_repository hon
      exact List.mem_map.mpr ⟨repository, hrepository, hid.symm⟩
  unfold fctDeployments
  rw [List.map_map]
  exact map_fst_joinRepository _ hdistinct hall

end

/-! ## `fct_pull_requests` -/

section

variable {pullRequests : List PullRequest} {reviews : List FirstEligibleReview}
  {repositories : List DimRepository} {links : List ChangeToDeployment}
  {deployments : List FctDeployment}

/-- The rows of `fct_pull_requests`: one for each pull request, its first review, its repository
and its selected link beside it. -/
theorem fctPullRequests_eq (hreviews : (reviews.map (·.pullRequestKey)).Nodup) :
    fctPullRequests server pullRequests reviews repositories links deployments
      = (innerJoin (fun (row : PullRequest × Option FirstEligibleReview) repository =>
            decide (row.1.repositoryId = repository.repositoryId))
          (pullRequests.map fun row =>
            (row, reviews.find? fun review => row.pullRequestKey = review.pullRequestKey))
          repositories).map fun ((row, review), repository) =>
        fctPullRequest row review repository
          ((selectedLinks server (allLinks pullRequests links deployments)).find? fun link =>
            row.pullRequestKey = link.pullRequestKey) := by
  have hreview : ∀ row : PullRequest, (reviews.filter fun review =>
      row.pullRequestKey = review.pullRequestKey).length ≤ 1 := fun row =>
    filter_length_le_one _ hreviews fun a _ b _ ha hb =>
      (of_decide_eq_true ha).symm.trans (of_decide_eq_true hb)
  have hlink : ∀ key, ((selectedLinks server (allLinks pullRequests links deployments)).filter
      fun link => key = link.pullRequestKey).length ≤ 1 := fun key =>
    filter_length_le_one _ partitionFirst_nodup fun a _ b _ ha hb =>
      (of_decide_eq_true ha).symm.trans (of_decide_eq_true hb)
  unfold fctPullRequests
  simp only
  rw [leftJoin_eq_map fun a _ => hreview a]
  rw [leftJoin_eq_map fun a _ => hlink a.1.1.pullRequestKey, List.map_map]
  rfl

theorem mem_fctPullRequests (hreviews : (reviews.map (·.pullRequestKey)).Nodup)
    {fact : FctPullRequest} :
    fact ∈ fctPullRequests server pullRequests reviews repositories links deployments
      ↔ ∃ row ∈ pullRequests, ∃ repository ∈ repositories,
          row.repositoryId = repository.repositoryId
          ∧ fact = fctPullRequest row
              (reviews.find? fun review => row.pullRequestKey = review.pullRequestKey) repository
              ((selectedLinks server (allLinks pullRequests links deployments)).find? fun link =>
                row.pullRequestKey = link.pullRequestKey) := by
  rw [fctPullRequests_eq hreviews, List.mem_map]
  constructor
  · rintro ⟨⟨⟨row, review⟩, repository⟩, hmem, rfl⟩
    obtain ⟨hrow, hrepository, hon⟩ := mem_innerJoin.mp hmem
    obtain ⟨source, hsource, heq⟩ := List.mem_map.mp hrow
    obtain ⟨rfl, rfl⟩ := Prod.mk.inj heq
    exact ⟨source, hsource, repository, hrepository, of_decide_eq_true hon, rfl⟩
  · rintro ⟨row, hrow, repository, hrepository, hid, rfl⟩
    exact ⟨((row, _), repository), mem_innerJoin.mpr
      ⟨List.mem_map.mpr ⟨row, hrow, rfl⟩, hrepository, decide_eq_true hid⟩, rfl⟩

/-- An eligible change has the time of its merge. -/
theorem mergedAt_of_isEligibleChange {row : PullRequest} {review : Option FirstEligibleReview}
    {repository : DimRepository} {link : Option CandidateLink}
    (h : holds (fctPullRequest row review repository link).isEligibleChange = true) :
    row.mergedAt.isSome := by
  unfold fctPullRequest at h
  rw [holds_both, holds_both, Bool.and_eq_true, Bool.and_eq_true] at h
  simpa using h.1.2

/-- No pull request is lost or repeated. -/
theorem map_key_fctPullRequests (hreviews : (reviews.map (·.pullRequestKey)).Nodup)
    (hdistinct : (repositories.map (·.repositoryId)).Nodup)
    (hknown : ∀ row ∈ pullRequests, row.repositoryId ∈ repositories.map (·.repositoryId)) :
    (fctPullRequests server pullRequests reviews repositories links deployments).map
        (·.pullRequestKey)
      = pullRequests.map (·.pullRequestKey) := by
  have hfacts : ∀ fact ∈ pullRequests.map (fun row =>
      (row, reviews.find? fun review => row.pullRequestKey = review.pullRequestKey)),
      fact.1.repositoryId ∈ repositories.map (·.repositoryId) := by
    intro fact hfact
    obtain ⟨row, hrow, rfl⟩ := List.mem_map.mp hfact
    exact hknown row hrow
  have hjoin := map_fst_joinRepository
    (fun (row : PullRequest × Option FirstEligibleReview) => row.1.repositoryId) hdistinct hfacts
  have hkeys := congrArg (List.map fun (row : PullRequest × Option FirstEligibleReview) =>
    row.1.pullRequestKey) hjoin
  rw [List.map_map, List.map_map] at hkeys
  rw [fctPullRequests_eq hreviews, List.map_map]
  exact hkeys

end

/-! ## `fct_delivery_performance_daily` -/

section

variable {deployments : List FctDeployment} {pullRequests : List FctPullRequest}
  {repositories : List DimRepository} {dates : List DimDate}

theorem isOn_iff {β : Type} {row : RepositoryDate} {group : (Int × Option Int) × β} :
    isOn row group = true ↔ group.1 = (row.repository.repositoryId, some row.date.dateDay) := by
  unfold isOn
  rw [Bool.and_eq_true, holds_equal]
  constructor
  · rintro ⟨hrepository, day, hday, hgroup⟩
    rw [hday, ← hgroup, of_decide_eq_true hrepository]
  · intro h
    rw [h]
    exact ⟨decide_eq_true rfl, row.date.dateDay, rfl, rfl⟩

theorem isOn_eq {β : Type} {repository : DimRepository} {date : DimDate} :
    isOn (β := β) ⟨repository, date⟩
      = fun group => decide (group.1 = (repository.repositoryId, some date.dateDay)) :=
  funext fun _ => Bool.eq_iff_iff.mpr (isOn_iff.trans decide_eq_true_iff.symm)

/-- The rows of `daily_inputs`: one for each repository and date, with the groups of that
repository and date. -/
theorem dailyInputs_eq :
    dailyInputs server deployments pullRequests repositories dates
      = (repositoryDates repositories dates).map fun row =>
          dailyInput row ((deploymentDaily server deployments repositories).find? (isOn row))
            ((changeDaily server pullRequests repositories).find? (isOn row)) := by
  have hdeployments : ∀ row, ((deploymentDaily server deployments repositories).filter
      (isOn row)).length ≤ 1 := fun row =>
    filter_length_le_one Prod.fst groupBy_nodup fun a _ b _ ha hb =>
      (isOn_iff.mp ha).trans (isOn_iff.mp hb).symm
  have hchanges : ∀ row, ((changeDaily server pullRequests repositories).filter
      (isOn row)).length ≤ 1 := fun row =>
    filter_length_le_one Prod.fst groupBy_nodup fun a _ b _ ha hb =>
      (isOn_iff.mp ha).trans (isOn_iff.mp hb).symm
  unfold dailyInputs
  simp only
  rw [leftJoin_eq_map fun row _ => hdeployments row, leftJoin_eq_map fun row _ => hchanges row.1]
  simp only [List.map_map, Function.comp_def]

end

/-! ## `dim_date` -/

theorem dateSeries_nodup (startDate endDate : Int) : (dateSeries startDate endDate).Nodup := by
  apply List.Nodup.map
  · intro m n h
    have hcast : startDate + (m : Int) = startDate + (n : Int) := h
    omega
  · exact List.nodup_range

theorem dimDate_nodup {pullRequests : List PullRequest} {deployments : List ProductionDeployment} :
    ((dimDate pullRequests deployments).map (·.dateDay)).Nodup := by
  unfold dimDate
  simp only
  split
  · rw [List.map_map]
    exact (List.map_id _).symm ▸ dateSeries_nodup _ _
  · exact List.nodup_nil

/-! ## The build -/

section

variable (server : Server) (seed : Seed) (staged : Staged)

theorem build_intPrLifecycle : (build server seed staged).intPrLifecycle
    = intPrLifecycle server staged.pullRequests := by
  unfold build
  with_reducible rfl

theorem build_intFirstEligibleReview : (build server seed staged).intFirstEligibleReview
    = intFirstEligibleReview server staged.reviews (build server seed staged).intPrLifecycle := by
  unfold build
  with_reducible rfl

theorem build_intProductionDeployments : (build server seed staged).intProductionDeployments
    = intProductionDeployments staged.deployments staged.deploymentStatuses := by
  unfold build
  with_reducible rfl

theorem build_intChangeToDeployment : (build server seed staged).intChangeToDeployment
    = intChangeToDeployment staged.pullRequestCommits (build server seed staged).intPrLifecycle
        (build server seed staged).intProductionDeployments := by
  unfold build
  with_reducible rfl

theorem build_dimDate : (build server seed staged).dimDate
    = dimDate (build server seed staged).intPrLifecycle
        (build server seed staged).intProductionDeployments := by
  unfold build
  with_reducible rfl

theorem build_dimRepository : (build server seed staged).dimRepository
    = dimRepository server (build server seed staged).intPrLifecycle
        (build server seed staged).intProductionDeployments seed := by
  unfold build
  with_reducible rfl

theorem build_fctDeployments : (build server seed staged).fctDeployments
    = fctDeployments server (build server seed staged).intProductionDeployments staged.workflowRuns
        (build server seed staged).dimRepository := by
  unfold build
  with_reducible rfl

theorem build_fctPullRequests : (build server seed staged).fctPullRequests
    = fctPullRequests server (build server seed staged).intPrLifecycle
        (build server seed staged).intFirstEligibleReview (build server seed staged).dimRepository
        (build server seed staged).intChangeToDeployment
        (build server seed staged).fctDeployments := by
  unfold build
  with_reducible rfl

theorem build_fctDeliveryPerformanceDaily :
    (build server seed staged).fctDeliveryPerformanceDaily
      = fctDeliveryPerformanceDaily server (build server seed staged).fctDeployments
          (build server seed staged).fctPullRequests (build server seed staged).dimRepository
          (build server seed staged).dimDate := by
  unfold build
  with_reducible rfl

theorem repositories_nodup :
    ((build server seed staged).dimRepository.map (·.repositoryId)).Nodup := by
  rw [build_dimRepository]
  exact dimRepository_nodup

theorem dates_nodup : ((build server seed staged).dimDate.map (·.dateDay)).Nodup := by
  rw [build_dimDate]
  exact dimDate_nodup

theorem reviews_nodup :
    ((build server seed staged).intFirstEligibleReview.map (·.pullRequestKey)).Nodup := by
  rw [build_intFirstEligibleReview]
  exact intFirstEligibleReview_nodup

theorem pullRequests_nodup :
    ((build server seed staged).intPrLifecycle.map (·.pullRequestKey)).Nodup := by
  rw [build_intPrLifecycle]
  exact intPrLifecycle_nodup

theorem productions_nodup :
    ((build server seed staged).intProductionDeployments.map (·.deploymentKey)).Nodup := by
  rw [build_intProductionDeployments]
  exact intProductionDeployments_nodup

theorem pullRequest_known : ∀ row ∈ (build server seed staged).intPrLifecycle,
    row.repositoryId ∈ (build server seed staged).dimRepository.map (·.repositoryId) := by
  intro row hrow
  rw [build_dimRepository, mem_map_id_dimRepository]
  exact Or.inl (List.mem_map.mpr ⟨row, hrow, rfl⟩)

theorem deployment_known : ∀ row ∈ (build server seed staged).intProductionDeployments,
    row.repositoryId ∈ (build server seed staged).dimRepository.map (·.repositoryId) := by
  intro row hrow
  rw [build_dimRepository, mem_map_id_dimRepository]
  exact Or.inr (Or.inl (List.mem_map.mpr ⟨row, hrow, rfl⟩))

/-- Every row of `fct_deployments` is classified evidence of a known repository. -/
theorem mem_build_fctDeployments {row : FctDeployment}
    (h : row ∈ (build server seed staged).fctDeployments) :
    ∃ evidence repository, repository ∈ (build server seed staged).dimRepository
      ∧ evidence.repositoryId = repository.repositoryId
      ∧ row = classified server evidence repository := by
  rw [build_fctDeployments] at h
  obtain ⟨evidence, -, repository, hrepository, hid, hrow⟩ := mem_fctDeployments.mp h
  exact ⟨evidence, repository, hrepository, hid, hrow⟩

/-- Every row of `fct_pull_requests` is a pull request of a known repository, with the rows
joined to it. -/
theorem mem_build_fctPullRequests {fact : FctPullRequest} :
    fact ∈ (build server seed staged).fctPullRequests
      ↔ ∃ row ∈ (build server seed staged).intPrLifecycle,
          ∃ repository ∈ (build server seed staged).dimRepository,
            row.repositoryId = repository.repositoryId
            ∧ fact = fctPullRequest row
              ((build server seed staged).intFirstEligibleReview.find? fun review =>
                row.pullRequestKey = review.pullRequestKey)
              repository
              ((selectedLinks server (allLinks (build server seed staged).intPrLifecycle
                (build server seed staged).intChangeToDeployment
                (build server seed staged).fctDeployments)).find? fun link =>
                  row.pullRequestKey = link.pullRequestKey) := by
  rw [build_fctPullRequests]
  exact mem_fctPullRequests (reviews_nodup server seed staged)

/-- `fct_pull_requests` has the keys of `int_pr_lifecycle`, each in one row. -/
theorem map_key_build_fctPullRequests :
    (build server seed staged).fctPullRequests.map (·.pullRequestKey)
      = (build server seed staged).intPrLifecycle.map (·.pullRequestKey) := by
  rw [build_fctPullRequests]
  exact map_key_fctPullRequests (reviews_nodup server seed staged)
    (repositories_nodup server seed staged) (pullRequest_known server seed staged)

theorem fctPullRequests_nodup :
    ((build server seed staged).fctPullRequests.map (·.pullRequestKey)).Nodup := by
  rw [map_key_build_fctPullRequests]
  exact pullRequests_nodup server seed staged

/-- Every pull request has its row in `fct_pull_requests`. -/
theorem exists_fctPullRequest {row : PullRequest}
    (hrow : row ∈ (build server seed staged).intPrLifecycle) :
    ∃ repository ∈ (build server seed staged).dimRepository,
      fctPullRequest row
          ((build server seed staged).intFirstEligibleReview.find? fun review =>
            row.pullRequestKey = review.pullRequestKey)
          repository
          ((selectedLinks server (allLinks (build server seed staged).intPrLifecycle
            (build server seed staged).intChangeToDeployment
            (build server seed staged).fctDeployments)).find? fun link =>
              row.pullRequestKey = link.pullRequestKey)
        ∈ (build server seed staged).fctPullRequests := by
  obtain ⟨repository, hrepository, hid⟩ :=
    List.mem_map.mp (pullRequest_known server seed staged row hrow)
  exact ⟨repository, hrepository, (mem_build_fctPullRequests server seed staged).mpr
    ⟨row, hrow, repository, hrepository, hid.symm, rfl⟩⟩

theorem fctDeployment_known : ∀ row ∈ (build server seed staged).fctDeployments,
    row.repositoryId ∈ (build server seed staged).dimRepository.map (·.repositoryId) := by
  intro row hrow
  obtain ⟨evidence, repository, hrepository, hid, rfl⟩ :=
    mem_build_fctDeployments server seed staged hrow
  exact List.mem_map.mpr ⟨repository, hrepository, hid.symm⟩

theorem fctPullRequest_known : ∀ row ∈ (build server seed staged).fctPullRequests,
    row.repositoryId ∈ (build server seed staged).dimRepository.map (·.repositoryId) := by
  intro fact hfact
  obtain ⟨row, -, repository, hrepository, hid, rfl⟩ :=
    (mem_build_fctPullRequests server seed staged).mp hfact
  exact List.mem_map.mpr ⟨repository, hrepository, hid.symm⟩

theorem measured_has_success : ∀ row ∈ (build server seed staged).fctDeployments,
    row.isMeasured = true → row.successfulAt.isSome := by
  intro row hrow hmeasured
  obtain ⟨evidence, repository, -, -, rfl⟩ := mem_build_fctDeployments server seed staged hrow
  exact successfulAt_of_isMeasured hmeasured

theorem eligible_has_merge : ∀ row ∈ (build server seed staged).fctPullRequests,
    holds row.isEligibleChange = true → row.mergedAt.isSome := by
  intro fact hfact heligible
  obtain ⟨row, -, repository, -, -, rfl⟩ := (mem_build_fctPullRequests server seed staged).mp hfact
  exact mergedAt_of_isEligibleChange heligible

end

end Dbt
