import DeliveryIntelligence.Dbt.Rows

set_option autoImplicit false

/-!
# The grain of the marts

`fct_pull_requests` has one row for each pull request, `fct_deployments` one for each resolved
production deployment and one for each run of a configured workflow, and
`fct_delivery_performance_daily` one for each repository, date and metric: no chain of rankings,
groups, unions and joins loses a row or repeats one (`marts_grain`).
-/

namespace Dbt

open Postgres Query
open RawEvents (RawEvent)

variable {server : Server}

/-! ## Latest snapshots -/

/-- The snapshot of a key that no other snapshot of the key comes before. -/
structure IsLatest {ρ : Type} (key : ρ → Option String) (order : ρ → ρ → Ordering)
    (rows : List ρ) (k : String) (latest : ρ) : Prop where
  mem : latest ∈ rows
  key_eq : key latest = some k
  first : ∀ row ∈ rows, key row = some k → (order latest row).isLE

/-- The order of snapshots ends in the event id, so it tells two events apart. -/
theorem eventId_of_snapshotOrder {ρ : Type} {lineage : ρ → Lineage}
    {changedAt : ρ → Option Timestamp} {a b : ρ} (h : snapshotOrder lineage changedAt a b = .eq) :
    (lineage a).eventId = (lineage b).eventId := by
  unfold snapshotOrder at h
  rw [compareLex_eq_eq, compareLex_eq_eq, compareLex_eq_eq] at h
  have hid : compare (lineage b).eventId (lineage a).eventId = .eq := h.2.2.2
  exact (Std.LawfulEqCmp.eq_of_compare hid).symm

/-- The rows of a query over the latest snapshots: with distinct event ids, one for each key and
its latest snapshot. -/
theorem isLatest_iff_resolved {ρ β : Type} {key : ρ → Option String} {lineage : ρ → Lineage}
    {changedAt : ρ → Option Timestamp} {aggregate : List ρ → β} {rows : List ρ}
    (hids : (rows.map fun row => (lineage row).eventId).Nodup) {k : String} {latest : ρ} :
    IsLatest key (snapshotOrder lineage changedAt) rows k latest
      ↔ ∃ rollup, (k, latest, rollup)
          ∈ resolve key (snapshotOrder lineage changedAt) aggregate rows := by
  have htotal : ∀ a ∈ rows.filter (fun row => key row = some k),
      ∀ b ∈ rows.filter (fun row => key row = some k),
      snapshotOrder lineage changedAt a b = .eq → a = b := fun a ha b hb heq =>
    List.inj_on_of_nodup_map hids (List.mem_filter.mp ha).1 (List.mem_filter.mp hb).1
      (eventId_of_snapshotOrder heq)
  constructor
  · intro hlatest
    refine ⟨_, mem_resolve.mpr ⟨hlatest.key_eq, (firstBy_eq_some_iff htotal).mpr ⟨?_, ?_⟩, rfl⟩⟩
    · exact List.mem_filter.mpr ⟨hlatest.mem, decide_eq_true hlatest.key_eq⟩
    · intro row hrow
      obtain ⟨hmem, hk⟩ := List.mem_filter.mp hrow
      exact hlatest.first row hmem (of_decide_eq_true hk)
  · rintro ⟨rollup, hresolved⟩
    obtain ⟨hkey, hfirst, -⟩ := mem_resolve.mp hresolved
    obtain ⟨hmem, hle⟩ := (firstBy_eq_some_iff htotal).mp hfirst
    -- The first of the window is the row nothing of its key comes before.
    refine ⟨(List.mem_filter.mp hmem).1, hkey, fun row hrow hk => ?_⟩
    exact hle row (List.mem_filter.mpr ⟨hrow, decide_eq_true hk⟩)

/-! ## Deployment keys and workflow run keys -/

/-- The text of a repository id contains no separator. -/
theorem separator_notMem_id (repositoryId : Int) : ':' ∉ (toString repositoryId).toList :=
  Text.notMem_intText (by decide) (by decide)

/-- A deployment key is not a workflow run key: behind the repository, the one has no separator
and the other has one. -/
theorem deploymentKey_ne_workflowRunKey {repositoryId repositoryId' : Int}
    {text text' attempt : String} (htext : ':' ∉ text.toList) :
    toString repositoryId ++ ":" ++ text
      ≠ toString repositoryId' ++ ":" ++ text' ++ ":" ++ attempt := by
  intro heq
  have hlists : (toString repositoryId).toList ++ ':' :: text.toList
      = (toString repositoryId').toList ++ ':' :: (text'.toList ++ ':' :: attempt.toList) := by
    have := congrArg String.toList heq
    simpa [String.toList_append] using this
  have hrest := (Text.append_separator_inj (separator_notMem_id repositoryId)
    (separator_notMem_id repositoryId') hlists).2
  apply htext
  rw [hrest]
  exact List.mem_append_right _ List.mem_cons_self

section

variable {events : List RawEvent} {staged : Staged}

theorem key_of_deployment (h : staging server events = .ok staged) {k : String}
    {latest : DeploymentSnapshot} {rollup : DeploymentRollup}
    (hmem : (k, latest, rollup) ∈ resolvedDeployments staged.deployments) :
    ∃ text, ':' ∉ text.toList ∧ k = toString latest.repositoryId ++ ":" ++ text := by
  obtain ⟨hkey, hfirst, -⟩ := mem_resolve.mp hmem
  have hlatest : latest ∈ staged.deployments := (List.mem_filter.mp (firstBy_mem hfirst)).1
  obtain ⟨event, -, hevent⟩ := mem_of_mapM (staging_iff.mp h).deployments hlatest
  obtain ⟨text, n, hread, hk⟩ := (deploymentSnapshot_key hevent).2 k hkey
  exact ⟨text, server.bigint_separator hread, hk⟩

theorem key_of_workflowRun (h : staging server events = .ok staged) {k : String}
    {latest : WorkflowRunSnapshot} {rollup : WorkflowRollup}
    (hmem : (k, latest, rollup) ∈ resolvedWorkflowRuns staged.workflowRuns) :
    ∃ text attempt, k = toString latest.repositoryId ++ ":" ++ text ++ ":" ++ attempt := by
  obtain ⟨hkey, hfirst, -⟩ := mem_resolve.mp hmem
  have hlatest : latest ∈ staged.workflowRuns := (List.mem_filter.mp (firstBy_mem hfirst)).1
  obtain ⟨event, -, hevent⟩ := mem_of_mapM (staging_iff.mp h).workflowRuns hlatest
  exact (workflowRunSnapshot_key hevent).2 k hkey

/-- No two rows of evidence share a key, whatever their kind. -/
theorem allEvidence_nodup {repositories : List DimRepository}
    (h : staging server events = .ok staged)
    (hdistinct : (repositories.map (·.repositoryId)).Nodup) :
    ((allEvidence server (intProductionDeployments staged.deployments staged.deploymentStatuses)
      staged.workflowRuns repositories).map (·.deploymentKey)).Nodup := by
  unfold allEvidence
  rw [List.map_append, List.map_map]
  apply List.Nodup.append
  · exact intProductionDeployments_nodup
  · exact workflowEvidenceRows_nodup hdistinct
  -- A key of both kinds would be one text with one separator and with two.
  · intro k hdeployment hworkflow
    have hkeys : k ∈ (intProductionDeployments staged.deployments staged.deploymentStatuses).map
        (·.deploymentKey) := hdeployment
    rw [map_key_intProductionDeployments] at hkeys
    obtain ⟨⟨key, latest, rollup⟩, hmem, rfl⟩ := List.mem_map.mp hkeys
    obtain ⟨text, htext, hk⟩ := key_of_deployment h (List.mem_filter.mp hmem).1
    obtain ⟨evidence, hevidence, heq⟩ := List.mem_map.mp hworkflow
    obtain ⟨key', run, rollup', hrun, -, rfl⟩ := mem_workflowEvidenceRows.mp hevidence
    obtain ⟨text', attempt, hk'⟩ := key_of_workflowRun h hrun
    have heq' : key' = key := heq
    exact deploymentKey_ne_workflowRunKey htext (hk.symm.trans (heq'.symm.trans hk'))

end

/-! ## The daily fact -/

/-- One row for each repository, date and metric, in that order. -/
theorem fctDeliveryPerformanceDaily_product {deployments : List FctDeployment}
    {pullRequests : List FctPullRequest} {repositories : List DimRepository}
    {dates : List DimDate} :
    (fctDeliveryPerformanceDaily server deployments pullRequests repositories dates).map
        (fun row => (row.repositoryId, row.dateDay, row.metricName))
      = (repositories.map (·.repositoryId)) ×ˢ ((dates.map (·.dateDay)) ×ˢ metricNames) := by
  have hrows : (fctDeliveryPerformanceDaily server deployments pullRequests repositories
        dates).map (fun row => (row.repositoryId, row.dateDay, row.metricName))
      = (repositoryDates repositories dates).flatMap fun row =>
          metricNames.map fun metric => (row.repository.repositoryId, row.date.dateDay, metric) := by
    unfold fctDeliveryPerformanceDaily
    rw [dailyInputs_eq, List.flatMap_map, List.map_flatMap]
    rfl
  have hproduct : ∀ repositoryId : Int,
      ((dates.map (·.dateDay)) ×ˢ metricNames).map (Prod.mk repositoryId)
        = dates.flatMap fun date =>
            metricNames.map fun metric => (repositoryId, date.dateDay, metric) := by
    intro repositoryId
    show ((dates.map (·.dateDay)).flatMap fun day => metricNames.map (Prod.mk day)).map
      (Prod.mk repositoryId) = _
    rw [List.map_flatMap, List.flatMap_map]
    rfl
  calc (fctDeliveryPerformanceDaily server deployments pullRequests repositories dates).map
        (fun row => (row.repositoryId, row.dateDay, row.metricName))
      = (repositoryDates repositories dates).flatMap fun row =>
          metricNames.map fun metric =>
            (row.repository.repositoryId, row.date.dateDay, metric) := hrows
    _ = repositories.flatMap fun repository => dates.flatMap fun date =>
          metricNames.map fun metric => (repository.repositoryId, date.dateDay, metric) := by
        unfold repositoryDates
        rw [List.flatMap_assoc]
        simp only [List.flatMap_map]
    _ = (repositories.map (·.repositoryId)).flatMap fun repositoryId =>
          ((dates.map (·.dateDay)) ×ˢ metricNames).map (Prod.mk repositoryId) := by
        rw [List.flatMap_map]
        simp only [hproduct]
    _ = (repositories.map (·.repositoryId)) ×ˢ ((dates.map (·.dateDay)) ×ˢ metricNames) := rfl

/-! ## The grain -/

/-- A run of the workflow its repository is configured to measure by. -/
def IsConfiguredRun (server : Server) (seed : Seed) (run : WorkflowRunSnapshot) : Prop :=
  ∃ config ∈ seed.rows, config.repositoryId = run.repositoryId
    ∧ config.productionSignal = some "workflow_run"
    ∧ ∃ name, run.workflowName.map server.lower = some name
        ∧ config.productionWorkflowName.map server.lower = some name

/-- One row for each thing a fact is about, and no other row. -/
structure Grain (server : Server) (seed : Seed) (events : List RawEvent) (staged : Staged)
    (marts : Marts) : Prop where
  pullRequests_distinct : (marts.fctPullRequests.map (·.pullRequestKey)).Nodup
  pullRequests_all : ∀ k, k ∈ marts.fctPullRequests.map (·.pullRequestKey)
    ↔ ∃ event ∈ stgGithubEvents server events,
        event.eventName = "pull_request" ∧ pullRequestKey server event = some k
  deployments_distinct : (marts.fctDeployments.map (·.deploymentKey)).Nodup
  deployments_all : ∀ k, (∃ row ∈ marts.fctDeployments, row.deploymentKey = k
      ∧ row.evidenceType = .deploymentStatus)
    ↔ ∃ latest, IsLatest DeploymentSnapshot.deploymentKey deploymentOrder staged.deployments k latest
        ∧ latest.isProductionEnvironment = true
  workflowRuns_all : ∀ k, (∃ row ∈ marts.fctDeployments, row.deploymentKey = k
      ∧ row.evidenceType = .workflowRun)
    ↔ ∃ latest, IsLatest WorkflowRunSnapshot.workflowRunKey workflowOrder staged.workflowRuns k latest
        ∧ IsConfiguredRun server seed latest
  daily_distinct : (marts.fctDeliveryPerformanceDaily.map fun row =>
    (row.repositoryId, row.dateDay, row.metricName)).Nodup
  daily_all : marts.fctDeliveryPerformanceDaily.map
      (fun row => (row.repositoryId, row.dateDay, row.metricName))
    = (marts.dimRepository.map (·.repositoryId))
        ×ˢ ((marts.dimDate.map (·.dateDay)) ×ˢ metricNames)

/-- A run joins a repository of `dim_repository` as its configured workflow exactly if the seed
says so. -/
theorem configuredRun_iff {pullRequests : List PullRequest}
    {deployments : List ProductionDeployment} {seed : Seed} {run : WorkflowRunSnapshot} :
    (∃ repository ∈ dimRepository server pullRequests deployments seed,
        isConfiguredWorkflow server run repository = true)
      ↔ IsConfiguredRun server seed run := by
  unfold isConfiguredWorkflow
  constructor
  · rintro ⟨repository, hrepository, hon⟩
    rw [Bool.and_eq_true, Bool.and_eq_true] at hon
    obtain ⟨⟨hid, hsignal⟩, hname⟩ := hon
    rw [dimRepository_eq] at hrepository
    obtain ⟨repositoryId, -, rfl⟩ := List.mem_map.mp hrepository
    obtain ⟨signal, hconfigured, hworkflow⟩ := holds_equal.mp hsignal
    obtain ⟨config, hfind, hconfig⟩ := Option.bind_eq_some_iff.mp hconfigured
    -- The columns of the seed are those of the first row with the id.
    have hconfigId : config.repositoryId = repositoryId := by simpa using List.find?_some hfind
    have hrunId : run.repositoryId = repositoryId := of_decide_eq_true hid
    obtain ⟨name, hrun, hconfigName⟩ := holds_equal.mp hname
    refine ⟨config, List.mem_of_find?_eq_some hfind, hconfigId.trans hrunId.symm, ?_, name, hrun,
      ?_⟩
    · rw [hconfig, ← hworkflow]
    · have hname' : ((some config).bind (·.productionWorkflowName)).map server.lower = some name :=
        hfind ▸ hconfigName
      exact hname'
  · rintro ⟨config, hconfig, hid, hsignal, name, hrun, hname⟩
    obtain ⟨observed, hrow⟩ : ∃ observed, dimRepositoryRow config.repositoryId observed (some config)
        ∈ dimRepository server pullRequests deployments seed := mem_dimRepository_of_config hconfig
    refine ⟨_, hrow, ?_⟩
    rw [Bool.and_eq_true, Bool.and_eq_true]
    refine ⟨⟨decide_eq_true hid.symm, ?_⟩, ?_⟩
    · exact holds_equal.mpr ⟨"workflow_run", hsignal, rfl⟩
    · exact holds_equal.mpr ⟨name, hrun, hname⟩

section

variable {seed : Seed} {events : List RawEvent} {staged : Staged}

theorem map_toEvidence_build :
    (build server seed staged).fctDeployments.map (·.toEvidence)
      = allEvidence server (intProductionDeployments staged.deployments staged.deploymentStatuses)
          staged.workflowRuns (build server seed staged).dimRepository := by
  rw [build_fctDeployments, map_toEvidence_fctDeployments (repositories_nodup server seed staged)
    (deployment_known server seed staged), build_intProductionDeployments]

theorem fctDeployments_nodup (h : staging server events = .ok staged) :
    ((build server seed staged).fctDeployments.map (·.deploymentKey)).Nodup := by
  have hkeys : ((build server seed staged).fctDeployments.map (·.toEvidence)).map
      (·.deploymentKey) = _ := congrArg (List.map (·.deploymentKey)) map_toEvidence_build
  rw [List.map_map] at hkeys
  have hdistinctKeys := allEvidence_nodup h (repositories_nodup server seed staged)
  rw [← hkeys] at hdistinctKeys
  exact hdistinctKeys

/-- What the rows of `fct_deployments` are evidence of. -/
theorem exists_fctDeployment_iff {p : Evidence → Prop} :
    (∃ row ∈ (build server seed staged).fctDeployments, p row.toEvidence)
      ↔ ∃ evidence ∈ allEvidence server
          (intProductionDeployments staged.deployments staged.deploymentStatuses)
          staged.workflowRuns (build server seed staged).dimRepository, p evidence := by
  rw [← map_toEvidence_build]
  constructor
  · rintro ⟨row, hrow, hp⟩
    exact ⟨row.toEvidence, List.mem_map.mpr ⟨row, hrow, rfl⟩, hp⟩
  · rintro ⟨evidence, hevidence, hp⟩
    obtain ⟨row, hrow, rfl⟩ := List.mem_map.mp hevidence
    exact ⟨row, hrow, hp⟩

theorem deploymentEvidence_iff (h : staging server events = .ok staged)
    (hdistinct : (events.map (·.eventId)).Nodup) {k : String} :
    (∃ row ∈ (build server seed staged).fctDeployments, row.deploymentKey = k
        ∧ row.evidenceType = .deploymentStatus)
      ↔ ∃ latest, IsLatest DeploymentSnapshot.deploymentKey deploymentOrder staged.deployments k
            latest ∧ latest.isProductionEnvironment = true := by
  have hids := stage_eventId_nodup (staging_iff.mp h).deployments
    (fun _ _ hrow => (deploymentSnapshot_key hrow).1) hdistinct
  rw [exists_fctDeployment_iff (p := fun evidence => evidence.deploymentKey = k
    ∧ evidence.evidenceType = .deploymentStatus)]
  constructor
  · rintro ⟨evidence, hevidence, rfl, htype⟩
    rcases List.mem_append.mp hevidence with hmem | hmem
    · obtain ⟨row, hrow, rfl⟩ := List.mem_map.mp hmem
      have hkey : row.deploymentKey ∈ (intProductionDeployments staged.deployments
          staged.deploymentStatuses).map (·.deploymentKey) := List.mem_map.mpr ⟨row, hrow, rfl⟩
      rw [map_key_intProductionDeployments] at hkey
      obtain ⟨⟨key, latest, rollup⟩, hlatest, hk⟩ := List.mem_map.mp hkey
      obtain ⟨hin, hproduction⟩ := List.mem_filter.mp hlatest
      -- The deployment of the row is the latest snapshot of its key.
      have hk' : key = (deploymentEvidence row).deploymentKey := hk
      subst hk'
      exact ⟨latest, (isLatest_iff_resolved hids).mpr ⟨rollup, hin⟩, hproduction⟩
    · obtain ⟨_, _, _, -, -, rfl⟩ := mem_workflowEvidenceRows.mp hmem
      cases htype
  · rintro ⟨latest, hlatest, hproduction⟩
    obtain ⟨rollup, hin⟩ : ∃ rollup, (k, latest, rollup) ∈ resolvedDeployments staged.deployments :=
      (isLatest_iff_resolved hids).mp hlatest
    have hkey : k ∈ (intProductionDeployments staged.deployments
        staged.deploymentStatuses).map (·.deploymentKey) := by
      rw [map_key_intProductionDeployments]
      exact List.mem_map.mpr
        ⟨(k, latest, rollup), List.mem_filter.mpr ⟨hin, hproduction⟩, rfl⟩
    obtain ⟨row, hrow, hk⟩ := List.mem_map.mp hkey
    exact ⟨deploymentEvidence row, List.mem_append_left _ (List.mem_map.mpr ⟨row, hrow, rfl⟩), hk,
      rfl⟩

theorem workflowEvidence_iff (h : staging server events = .ok staged)
    (hdistinct : (events.map (·.eventId)).Nodup) {k : String} :
    (∃ row ∈ (build server seed staged).fctDeployments, row.deploymentKey = k
        ∧ row.evidenceType = .workflowRun)
      ↔ ∃ latest, IsLatest WorkflowRunSnapshot.workflowRunKey workflowOrder staged.workflowRuns k
            latest ∧ IsConfiguredRun server seed latest := by
  have hids := stage_eventId_nodup (staging_iff.mp h).workflowRuns
    (fun _ _ hrow => (workflowRunSnapshot_key hrow).1) hdistinct
  rw [exists_fctDeployment_iff (p := fun evidence => evidence.deploymentKey = k
    ∧ evidence.evidenceType = .workflowRun), build_dimRepository]
  constructor
  · rintro ⟨evidence, hevidence, rfl, htype⟩
    rcases List.mem_append.mp hevidence with hmem | hmem
    · obtain ⟨row, -, rfl⟩ := List.mem_map.mp hmem
      cases htype
    · obtain ⟨key, run, rollup, hrun, hconfigured, rfl⟩ := mem_workflowEvidenceRows.mp hmem
      exact ⟨run, (isLatest_iff_resolved hids).mpr ⟨rollup, hrun⟩,
        configuredRun_iff.mp hconfigured⟩
  · rintro ⟨run, hlatest, hconfigured⟩
    obtain ⟨rollup, hrun⟩ : ∃ rollup, (k, run, rollup) ∈ resolvedWorkflowRuns staged.workflowRuns :=
      (isLatest_iff_resolved hids).mp hlatest
    refine ⟨workflowEvidence k run rollup, List.mem_append_right _ ?_, rfl, rfl⟩
    exact mem_workflowEvidenceRows.mpr
      ⟨k, run, rollup, hrun, configuredRun_iff.mpr hconfigured, rfl⟩

/-- **The grain of the marts**, for every set of raw events with distinct ids and every seed with
distinct repositories. -/
theorem marts_grain (hdistinct : (events.map (·.eventId)).Nodup)
    (h : staging server events = .ok staged) :
    Grain server seed events staged (build server seed staged) where
  pullRequests_distinct := fctPullRequests_nodup server seed staged
  pullRequests_all k := by
    have hkeys := stage_map (staging_iff.mp h).pullRequests fun _ _ hrow =>
      (pullRequestSnapshot_key hrow).2
    rw [map_key_build_fctPullRequests, build_intPrLifecycle, mem_map_key_intPrLifecycle, hkeys,
      List.mem_map]
    constructor
    · rintro ⟨event, hevent, hk⟩
      obtain ⟨hmem, hname⟩ := List.mem_filter.mp hevent
      exact ⟨event, hmem, of_decide_eq_true hname, hk⟩
    · rintro ⟨event, hmem, hname, hk⟩
      exact ⟨event, List.mem_filter.mpr ⟨hmem, decide_eq_true hname⟩, hk⟩
  deployments_distinct := fctDeployments_nodup h
  deployments_all k := deploymentEvidence_iff h hdistinct
  workflowRuns_all k := workflowEvidence_iff h hdistinct
  daily_distinct := by
    rw [build_fctDeliveryPerformanceDaily, fctDeliveryPerformanceDaily_product]
    exact (repositories_nodup server seed staged).product
      ((dates_nodup server seed staged).product (by decide))
  daily_all := by
    rw [build_fctDeliveryPerformanceDaily, fctDeliveryPerformanceDaily_product]

end

/-- A pull request and a deployment. -/
def demoEvents : List RawEvent :=
  demoEvent 1 "pull_request" 0
      [("pull_request", .object [("number", .number 17 0), ("state", .string "open")])]
    :: demoDeployment 2 0 "abc"

theorem marts_grain_demo :
    ∃ staged, staging (smallServer [] []) demoEvents = .ok staged
      ∧ Grain (smallServer [] []) (demoSeed "UTC") demoEvents staged
          (build (smallServer [] []) (demoSeed "UTC") staged) := by
  have hok : ∃ staged, staging (smallServer [] []) demoEvents = .ok staged := by decide +kernel
  obtain ⟨staged, h⟩ := hok
  exact ⟨staged, h, marts_grain (by decide) h⟩

end Dbt
