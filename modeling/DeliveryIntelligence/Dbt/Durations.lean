import DeliveryIntelligence.Dbt.Listing

set_option autoImplicit false

/-!
# The durations of deployments

`seconds_to_success` of `fct_deployments` is tested to be null or not negative. The evidence of a
workflow run guards the subtraction, that of a deployment status does not, although both are
classified as `impossible_success_timestamp` afterwards. So the test fails exactly for a success
that lies before every time its deployment was created at (`durations_iff`).
-/

namespace Dbt

open Postgres Query
open RawEvents (RawEvent)

variable {server : Server}

/-- The duration is null or not negative, and null where the success precedes the creation. -/
structure DurationFits (evidence : Evidence) : Prop where
  nonneg : ∀ seconds ∈ evidence.secondsToSuccess, 0 ≤ seconds
  impossible : impossibleSuccess evidence = true → evidence.secondsToSuccess = none

theorem below_eq_false_of_atMost {earlier later : Option Timestamp}
    (h : holds (atMost earlier later) = true) : holds (below later earlier) = false := by
  obtain ⟨s, t, rfl, rfl, hle⟩ := holds_atMost.mp h
  show holds (some (decide (t < s))) = false
  rw [holds_some, decide_eq_false (not_lt.mpr hle)]

/-- A duration is not negative unless its end precedes its start. -/
theorem secondsBetween_nonneg_of_below {later earlier : Option Timestamp}
    (h : holds (below later earlier) = false) :
    ∀ seconds ∈ secondsBetween later earlier, 0 ≤ seconds := by
  intro seconds hseconds
  obtain ⟨t, s, rfl, rfl, -⟩ := Option.map₂_eq_some_iff.mp hseconds
  have hle : s ≤ t := by
    by_contra hlt
    have hbelow : holds (below (some t) (some s)) = true :=
      holds_below.mpr ⟨t, s, rfl, rfl, not_le.mp hlt⟩
    rw [h] at hbelow
    exact Bool.false_ne_true hbelow
  exact secondsBetween_nonneg (holds_atMost.mpr ⟨s, t, rfl, rfl, hle⟩) hseconds

/-- A workflow run has a duration only if it was updated after its creation. -/
theorem durationFits_workflow (key : String) (workflow : WorkflowRunSnapshot)
    (rollup : WorkflowRollup) : DurationFits (workflowEvidence key workflow rollup) := by
  let isSuccessful := both (equal workflow.workflowStatus (some "completed"))
    (equal workflow.conclusion (some "success"))
  have hseconds : (workflowEvidence key workflow rollup).secondsToSuccess
      = if holds isSuccessful && holds (atMost workflow.createdAt workflow.updatedAt) then
          secondsBetween workflow.updatedAt workflow.createdAt
        else none := rfl
  have himpossible : impossibleSuccess (workflowEvidence key workflow rollup)
      = holds (below (if holds isSuccessful then workflow.updatedAt else none)
          workflow.createdAt) := rfl
  constructor
  · rw [hseconds]
    split
    · rename_i hboth
      rw [Bool.and_eq_true] at hboth
      exact fun seconds h => secondsBetween_nonneg hboth.2 h
    · intro seconds h
      cases h
  · intro h
    rw [himpossible] at h
    rw [hseconds]
    apply if_neg
    intro hboth
    rw [Bool.and_eq_true] at hboth
    rw [if_pos hboth.1, below_eq_false_of_atMost hboth.2] at h
    exact Bool.false_ne_true h

/-! ## Deployments -/

/-- A deployment has a duration whenever it has a success, so the duration fits exactly if the
success does not precede the creation. -/
theorem durationFits_deployment_iff {key : String} {deployment : DeploymentSnapshot}
    {rollup : DeploymentRollup} {status : Option StatusRollup}
    {latest : Option DeploymentStatusSnapshot} :
    DurationFits (deploymentEvidence (productionDeployment key deployment rollup status latest))
      ↔ holds (below (status.bind (·.successfulAt)) rollup.createdAt) = false := by
  let successfulAt := status.bind (·.successfulAt)
  have hseconds : (deploymentEvidence
      (productionDeployment key deployment rollup status latest)).secondsToSuccess
        = if successfulAt.isSome then secondsBetween successfulAt rollup.createdAt else none := rfl
  constructor
  · intro hfits
    by_contra hbelow
    rw [Bool.not_eq_false] at hbelow
    have hnone := hfits.impossible hbelow
    obtain ⟨t, s, hsuccess, hcreated, -⟩ := holds_below.mp hbelow
    have hsuccess' : successfulAt = some t := hsuccess
    rw [hseconds, hsuccess', hcreated] at hnone
    cases hnone
  · intro hbelow
    constructor
    · rw [hseconds]
      split
      · exact secondsBetween_nonneg_of_below hbelow
      · intro seconds h
        cases h
    · intro himpossible
      have himpossible' : holds (below successfulAt rollup.createdAt) = true := himpossible
      rw [hbelow] at himpossible'
      exact absurd himpossible' Bool.false_ne_true

/-- A deployment without an id is the parent of no status. -/
theorem isParent_eq_decide {deployment : DeploymentSnapshot} {id : Int}
    (hid : deployment.deploymentId = some id) (parent : Int × Option Int) :
    isParent deployment parent
      = decide (parent = (deployment.repositoryId, deployment.deploymentId)) := by
  rw [Bool.eq_iff_iff, decide_eq_true_iff]
  constructor
  · exact isParent_eq
  · rintro rfl
    unfold isParent
    rw [Bool.and_eq_true]
    exact ⟨decide_eq_true rfl, holds_equal.mpr ⟨id, hid, hid⟩⟩

/-- `successful_at`: the first success of the statuses of the deployment. -/
theorem successfulAt_eq (deployment : DeploymentSnapshot)
    (statuses : List (DeploymentStatusSnapshot × Nat)) :
    (((statusRollup statuses).find? fun (parent, _) => isParent deployment parent).map
        Prod.snd).bind (·.successfulAt)
      = minimum compare ((statuses.filter fun (row, _) =>
          row.deploymentState = some "success" && isParent deployment row.parent).map
            fun (row, _) => row.createdAt) := by
  cases hid : deployment.deploymentId with
  | none =>
      have hno : ∀ parent, isParent deployment parent = false := by
        intro parent
        unfold isParent
        rw [hid]
        exact Bool.and_false _
      simp only [hno, Bool.and_false, List.filter_false]
      have hfind : ((statusRollup statuses).find? fun _ => false) = none :=
        List.find?_eq_none.mpr fun _ _ => Bool.false_ne_true
      rw [hfind]
      rfl
  | some id =>
      simp only [isParent_eq_decide hid]
      rw [Option.bind_map]
      refine (bind_find?_groupBy rfl).trans ?_
      rw [List.filter_filter]

/-! ## Builds -/

/-- The latest snapshot of its status; the snapshots without a key count as one status. -/
structure IsLatestStatus (staged : Staged) (status : DeploymentStatusSnapshot) : Prop where
  mem : status ∈ staged.deploymentStatuses
  first : ∀ other ∈ staged.deploymentStatuses,
    other.deploymentStatusKey = status.deploymentStatusKey →
      (deploymentStatusOrder status other).isLE

/-- The status reports a success of the deployment before each of the times at which the snapshots
of the deployment say it was created. -/
structure PrecedesCreation (staged : Staged) (k : String) (deployment : DeploymentSnapshot)
    (status : DeploymentStatusSnapshot) : Prop where
  state : status.deploymentState = some "success"
  parent : isParent deployment status.parent = true
  created : ∃ row ∈ staged.deployments, row.deploymentKey = some k ∧ row.createdAt.isSome
  before : ∃ success, status.createdAt = some success ∧ ∀ row ∈ staged.deployments,
    row.deploymentKey = some k → ∀ createdAt ∈ row.createdAt, success < createdAt

section

variable {seed : Seed} {events : List RawEvent} {staged : Staged}

theorem mem_resolvedStatuses_iff (hids : (staged.deploymentStatuses.map (·.eventId)).Nodup)
    {status : DeploymentStatusSnapshot} :
    status ∈ (resolvedStatuses staged.deploymentStatuses).map Prod.fst
      ↔ IsLatestStatus staged status := by
  have htotal : ∀ a ∈ staged.deploymentStatuses.filter
        (fun other => other.deploymentStatusKey = status.deploymentStatusKey),
      ∀ b ∈ staged.deploymentStatuses.filter
        (fun other => other.deploymentStatusKey = status.deploymentStatusKey),
      deploymentStatusOrder a b = .eq → a = b := fun a ha b hb heq =>
    List.inj_on_of_nodup_map hids (List.mem_filter.mp ha).1 (List.mem_filter.mp hb).1
      (eventId_of_snapshotOrder heq)
  rw [map_fst_resolvedStatuses, mem_partitionFirst, firstBy_eq_some_iff htotal]
  simp only [List.mem_filter, decide_eq_true_eq, and_true, and_imp]
  exact ⟨fun ⟨hmem, hfirst⟩ => ⟨hmem, hfirst⟩, fun ⟨hmem, hfirst⟩ => ⟨hmem, hfirst⟩⟩

/-- The evidence of a production deployment does not fit exactly if one of its latest statuses
reports a success before its creation. -/
theorem precedesCreation_iff (hids : (staged.deploymentStatuses.map (·.eventId)).Nodup) {k : String}
    {deployment : DeploymentSnapshot} {rollup : DeploymentRollup}
    (hresolved : (k, deployment, rollup) ∈ resolvedDeployments staged.deployments) :
    holds (below ((((statusRollup (resolvedStatuses staged.deploymentStatuses)).find?
          fun (parent, _) => isParent deployment parent).map Prod.snd).bind (·.successfulAt))
        rollup.createdAt) = true
      ↔ ∃ status, IsLatestStatus staged status ∧ PrecedesCreation staged k deployment status := by
  obtain ⟨-, -, rfl⟩ := mem_resolve.mp hresolved
  have hcreated : ∀ createdAt, some createdAt
      ∈ (staged.deployments.filter fun row => row.deploymentKey = some k).map (·.createdAt)
        ↔ ∃ row ∈ staged.deployments, row.deploymentKey = some k
          ∧ row.createdAt = some createdAt := by
    intro createdAt
    simp only [List.mem_map, List.mem_filter, decide_eq_true_eq, and_assoc]
  have hsuccess : ∀ success, some success
      ∈ ((resolvedStatuses staged.deploymentStatuses).filter fun (row, _) =>
          row.deploymentState = some "success" && isParent deployment row.parent).map
            (fun (row, _) => row.createdAt)
        ↔ ∃ status, IsLatestStatus staged status ∧ status.deploymentState = some "success"
          ∧ isParent deployment status.parent = true ∧ status.createdAt = some success := by
    intro success
    simp only [← mem_resolvedStatuses_iff hids, List.mem_map, List.mem_filter, Bool.and_eq_true,
      decide_eq_true_eq]
    constructor
    · rintro ⟨⟨status, count⟩, ⟨hmem, hstate, hparent⟩, hat⟩
      exact ⟨status, ⟨(status, count), hmem, rfl⟩, hstate, hparent, hat⟩
    · rintro ⟨status, ⟨⟨status', count⟩, hmem, rfl⟩, hstate, hparent, hat⟩
      exact ⟨(status', count), ⟨hmem, hstate, hparent⟩, hat⟩
  rw [successfulAt_eq]
  refine holds_below_minimum.trans ?_
  constructor
  · rintro ⟨success, hmem, ⟨createdAt, hother⟩, hbefore⟩
    obtain ⟨status, hlatest, hstate, hparent, hat⟩ := (hsuccess success).mp hmem
    obtain ⟨row, hrow, hkey, hrowAt⟩ := (hcreated createdAt).mp hother
    refine ⟨status, hlatest, hstate, hparent,
      ⟨row, hrow, hkey, Option.isSome_iff_exists.mpr ⟨createdAt, hrowAt⟩⟩, success, hat, ?_⟩
    intro row' hrow' hkey' createdAt' hat'
    exact hbefore createdAt' ((hcreated createdAt').mpr ⟨row', hrow', hkey', hat'⟩)
  · rintro ⟨status, hlatest, hstate, hparent, ⟨row, hrow, hkey, hsome⟩, success, hat, hbefore⟩
    obtain ⟨createdAt, hrowAt⟩ := Option.isSome_iff_exists.mp hsome
    refine ⟨success, (hsuccess success).mpr ⟨status, hlatest, hstate, hparent, hat⟩,
      ⟨createdAt, (hcreated createdAt).mpr ⟨row, hrow, hkey, hrowAt⟩⟩, fun other hother => ?_⟩
    obtain ⟨row', hrow', hkey', hat'⟩ := (hcreated other).mp hother
    exact hbefore row' hrow' hkey' other hat'

/-- Only the evidence of deployments may not fit. -/
theorem durations_iff_production :
    (∀ row ∈ (build server seed staged).fctDeployments, DurationFits row.toEvidence)
      ↔ ∀ row ∈ intProductionDeployments staged.deployments staged.deploymentStatuses,
          DurationFits (deploymentEvidence row) := by
  have hrows : (∀ row ∈ (build server seed staged).fctDeployments, DurationFits row.toEvidence)
      ↔ ∀ evidence ∈ allEvidence server
          (intProductionDeployments staged.deployments staged.deploymentStatuses)
          staged.workflowRuns (build server seed staged).dimRepository, DurationFits evidence := by
    rw [← map_toEvidence_build, List.forall_mem_map]
  rw [hrows]
  unfold allEvidence
  rw [List.forall_mem_append, List.forall_mem_map]
  refine and_iff_left fun evidence hevidence => ?_
  obtain ⟨key, workflow, rollup, -, -, rfl⟩ := mem_workflowEvidenceRows.mp hevidence
  exact durationFits_workflow key workflow rollup

/-- **The durations of a build** fit exactly if no latest status of a production deployment reports
a success before the deployment was created. -/
theorem durations_iff (hdistinct : (events.map (·.eventId)).Nodup)
    (h : staging server events = .ok staged) :
    (∀ row ∈ (build server seed staged).fctDeployments, DurationFits row.toEvidence)
      ↔ ∀ k deployment status,
          IsLatest DeploymentSnapshot.deploymentKey deploymentOrder staged.deployments k deployment →
          deployment.isProductionEnvironment = true → IsLatestStatus staged status →
          ¬ PrecedesCreation staged k deployment status := by
  have hfrom := staging_iff.mp h
  have hids := stage_eventId_nodup hfrom.deployments
    (fun _ _ hrow => (deploymentSnapshot_key hrow).1) hdistinct
  have hstatusIds := stage_eventId_nodup hfrom.deploymentStatuses
    (fun _ _ hrow => deploymentStatusSnapshot_lineage hrow) hdistinct
  rw [durations_iff_production, intProductionDeployments_eq, List.forall_mem_map]
  constructor
  · intro hall k deployment status hlatest hproduction hstatus hprecedes
    obtain ⟨rollup, hresolved⟩ : ∃ rollup,
        (k, deployment, rollup) ∈ resolvedDeployments staged.deployments :=
      (isLatest_iff_resolved hids).mp hlatest
    have hfits := hall (k, deployment, rollup) (List.mem_filter.mpr ⟨hresolved, hproduction⟩)
    have hbelow := (precedesCreation_iff hstatusIds hresolved).mpr ⟨status, hstatus, hprecedes⟩
    rw [durationFits_deployment_iff.mp hfits] at hbelow
    exact Bool.false_ne_true hbelow
  · rintro hnone ⟨k, deployment, rollup⟩ hmem
    obtain ⟨hresolved, hproduction⟩ := List.mem_filter.mp hmem
    refine durationFits_deployment_iff.mpr (Bool.eq_false_iff.mpr fun hbelow => ?_)
    obtain ⟨status, hstatus, hprecedes⟩ := (precedesCreation_iff hstatusIds hresolved).mp hbelow
    exact hnone k deployment status ((isLatest_iff_resolved hids).mpr ⟨rollup, hresolved⟩)
      hproduction hstatus hprecedes

end

/-- A production deployment created at one time, with a success at another. -/
def createdAndSucceeded (createdAt succeededAt : String) : List RawEvent :=
  [ demoEvent 1 "deployment" 0
      [("deployment", .object
        [("id", .number 70001 0), ("environment", .string "production"), ("sha", .string "abc"),
          ("production_environment", .bool true), ("created_at", .string createdAt)])]
  , demoEvent 2 "deployment_status" 0
      [("deployment", .object [("id", .number 70001 0)]),
        ("deployment_status", .object
          [("id", .number 80001 0), ("state", .string "success"),
            ("created_at", .string succeededAt)])] ]

/-- Created at 8 and successful at 9. -/
theorem durations_iff_later :
    ∃ staged, staging hourServer
        (createdAndSucceeded "2026-07-24T08:00:00Z" "2026-07-24T09:00:00Z") = .ok staged
      ∧ (build hourServer (demoSeed "UTC") staged).fctDeployments.map (·.secondsToSuccess)
        = [some 3600]
      ∧ ∀ k deployment status,
          IsLatest DeploymentSnapshot.deploymentKey deploymentOrder staged.deployments k deployment →
          deployment.isProductionEnvironment = true → IsLatestStatus staged status →
          ¬ PrecedesCreation staged k deployment status := by
  have hrun : ∃ staged, staging hourServer
        (createdAndSucceeded "2026-07-24T08:00:00Z" "2026-07-24T09:00:00Z") = .ok staged
      ∧ (build hourServer (demoSeed "UTC") staged).fctDeployments.map (·.secondsToSuccess)
        = [some 3600]
      ∧ ∀ row ∈ (build hourServer (demoSeed "UTC") staged).fctDeployments,
        impossibleSuccess row.toEvidence = false := by
    decide +kernel
  obtain ⟨staged, h, hseconds, hpossible⟩ := hrun
  have hall : ∀ row ∈ (build hourServer (demoSeed "UTC") staged).fctDeployments,
      DurationFits row.toEvidence := by
    intro row hrow
    constructor
    · intro seconds hrowSeconds
      have hmem : row.secondsToSuccess ∈ [some 3600] := hseconds ▸ List.mem_map_of_mem hrow
      rw [List.mem_singleton.mp hmem] at hrowSeconds
      cases hrowSeconds
      decide
    · intro himpossible
      rw [hpossible row hrow] at himpossible
      cases himpossible
  exact ⟨staged, h, hseconds, (durations_iff (by decide) h).mp hall⟩

/-- Created at 12 and successful at 9: the row has a negative duration. -/
theorem negative_duration :
    ∃ staged, staging hourServer
        (createdAndSucceeded "2026-07-24T12:00:00Z" "2026-07-24T09:00:00Z") = .ok staged
      ∧ (∃ row ∈ (build hourServer (demoSeed "UTC") staged).fctDeployments,
          row.secondsToSuccess = some (-10800)
          ∧ row.exclusionReason = some .impossibleSuccessTimestamp)
      ∧ ¬ ∀ row ∈ (build hourServer (demoSeed "UTC") staged).fctDeployments,
        DurationFits row.toEvidence := by
  have hrun : ∃ staged, staging hourServer
        (createdAndSucceeded "2026-07-24T12:00:00Z" "2026-07-24T09:00:00Z") = .ok staged
      ∧ ∃ row ∈ (build hourServer (demoSeed "UTC") staged).fctDeployments,
        row.secondsToSuccess = some (-10800)
        ∧ row.exclusionReason = some .impossibleSuccessTimestamp := by
    decide +kernel
  obtain ⟨staged, h, row, hrow, hseconds, hreason⟩ := hrun
  refine ⟨staged, h, ⟨row, hrow, hseconds, hreason⟩, fun hall => ?_⟩
  have hnonneg := (hall row hrow).nonneg (-10800) hseconds
  omega

end Dbt
