import DeliveryIntelligence.Dbt.DailyMetrics
import DeliveryIntelligence.Dbt.DateKeys
import DeliveryIntelligence.Dbt.Durations
import DeliveryIntelligence.Dbt.KnownColumns

set_option autoImplicit false

/-!
# The declared tests

Over staged rows and a seed that pass their own tests, the data tests of the intermediate and the
mart models pass on every build (`intermediateTests`, `martTests`), but for those that depend on
the dates, the timestamps and the conclusions GitHub reports (`declared_tests_pass`).
-/

namespace Dbt

open Postgres Query
open RawEvents (RawEvent)

section

variable {server : Server} {seed : Seed} {staged : Staged}

/-! ## Links of changes -/

/-- A change and a deployment are told apart in the joined key: behind the last `>` there is the
key of the deployment. -/
theorem changeDeploymentKey_inj {key key' : String} {repositoryId repositoryId' : Int}
    {text text' : String} (htext : ':' ∉ text.toList) (htext' : ':' ∉ text'.toList)
    (h : key ++ "->" ++ (toString repositoryId ++ ":" ++ text)
      = key' ++ "->" ++ (toString repositoryId' ++ ":" ++ text')) :
    key = key' ∧ toString repositoryId ++ ":" ++ text = toString repositoryId' ++ ":" ++ text' := by
  -- from behind: first the id up to the separator, then the repository up to the arrow
  have hlists := congrArg (fun s : String => s.toList.reverse) h
  simp only [String.toList_append, List.reverse_append, List.append_assoc] at hlists
  have hcolon : (":" : String).toList.reverse = [':'] := rfl
  have harrow : ("->" : String).toList.reverse = ['>', '-'] := rfl
  rw [hcolon, harrow] at hlists
  have hcolons : ':' ∉ text.toList.reverse := fun hmem => htext (List.mem_reverse.mp hmem)
  have hcolons' : ':' ∉ text'.toList.reverse := fun hmem => htext' (List.mem_reverse.mp hmem)
  obtain ⟨hid, hrest⟩ := Text.append_separator_inj hcolons hcolons' hlists
  have hdigits : ∀ id : Int, '>' ∉ (toString id).toList.reverse := fun id hmem =>
    Text.notMem_intText (n := id) (by decide) (by decide) (List.mem_reverse.mp hmem)
  obtain ⟨hrepository, hkey⟩ :=
    Text.append_separator_inj (hdigits repositoryId) (hdigits repositoryId') hrest
  have hkeys : key.toList = key'.toList :=
    List.reverse_injective (List.cons.inj hkey).2
  have htexts : text.toList = text'.toList := List.reverse_injective hid
  have hids : (toString repositoryId).toList = (toString repositoryId').toList :=
    List.reverse_injective hrepository
  exact ⟨String.toList_inj.mp hkeys, by
    rw [String.toList_inj.mp htexts, String.toList_inj.mp hids]⟩

/-- The key of a production deployment has no separator behind that of the repository. -/
theorem key_of_production {events : List RawEvent} (h : staging server events = .ok staged)
    {production : ProductionDeployment}
    (hmem : production ∈ (build server seed staged).intProductionDeployments) :
    ∃ repositoryId : Int, ∃ text, ':' ∉ text.toList
      ∧ production.deploymentKey = toString repositoryId ++ ":" ++ text := by
  have hkey : production.deploymentKey ∈ (intProductionDeployments staged.deployments
      staged.deploymentStatuses).map (·.deploymentKey) := by
    rw [← build_intProductionDeployments server seed]
    exact List.mem_map_of_mem hmem
  rw [map_key_intProductionDeployments] at hkey
  obtain ⟨⟨key, latest, rollup⟩, hlatest, hk⟩ := List.mem_map.mp hkey
  obtain ⟨text, htext, hkey⟩ := key_of_deployment h (List.mem_filter.mp hlatest).1
  have hk' : key = production.deploymentKey := hk
  exact ⟨latest.repositoryId, text, htext, hk'.symm.trans hkey⟩

/-- A change and a deployment are linked once, and the joined key tells them. -/
theorem changeDeploymentKey_nodup {events : List RawEvent}
    (h : staging server events = .ok staged) :
    ((build server seed staged).intChangeToDeployment.map (·.changeDeploymentKey)).Nodup := by
  have hpairs : ((build server seed staged).intChangeToDeployment.map fun row =>
      (row.change.pullRequestKey, row.deploymentKey)).Nodup := by
    rw [build_intChangeToDeployment]
    exact partitionFirst_nodup
  rw [nodup_map_iff_of_key hpairs]
  intro link hlink other hother heq
  obtain ⟨_, -, production, hproduction, _, _, _, -, rfl⟩ := exists_candidateLink hlink
  obtain ⟨_, -, production', hproduction', _, _, _, -, rfl⟩ := exists_candidateLink hother
  obtain ⟨repositoryId, text, htext, htold⟩ := key_of_production h hproduction
  obtain ⟨repositoryId', text', htext', htold'⟩ := key_of_production h hproduction'
  unfold candidateLink ChangeToDeployment.changeDeploymentKey at heq
  dsimp only at heq
  rw [htold, htold'] at heq
  obtain ⟨hpullRequest, hdeployment⟩ := changeDeploymentKey_inj htext htext' heq
  rw [← htold, ← htold'] at hdeployment
  exact Prod.ext hpullRequest hdeployment

/-! ## Evidence -/

/-- `fct_deployments` has the evidence of the production deployments and that of the runs of
configured workflows. -/
theorem forall_evidence_iff {P : Evidence → Prop} :
    (∀ row ∈ (build server seed staged).fctDeployments, P row.toEvidence)
      ↔ (∀ row ∈ (build server seed staged).intProductionDeployments, P (deploymentEvidence row))
        ∧ ∀ key run rollup, (key, run, rollup) ∈ resolvedWorkflowRuns staged.workflowRuns →
          IsConfiguredRun server seed run → P (workflowEvidence key run rollup) := by
  have hrows : (∀ row ∈ (build server seed staged).fctDeployments, P row.toEvidence)
      ↔ ∀ evidence ∈ allEvidence server (build server seed staged).intProductionDeployments
          staged.workflowRuns (build server seed staged).dimRepository, P evidence := by
    rw [build_intProductionDeployments, ← map_toEvidence_build, List.forall_mem_map]
  rw [hrows]
  unfold allEvidence
  rw [List.forall_mem_append, List.forall_mem_map]
  refine and_congr_right fun _ => ?_
  constructor
  · intro hall key run rollup hrun hconfigured
    refine hall _ (mem_workflowEvidenceRows.mpr ⟨key, run, rollup, hrun, ?_, rfl⟩)
    rw [build_dimRepository]
    exact configuredRun_iff.mpr hconfigured
  · intro hall evidence hevidence
    obtain ⟨key, run, rollup, hrun, hconfigured, rfl⟩ := mem_workflowEvidenceRows.mp hevidence
    rw [build_dimRepository] at hconfigured
    exact hall key run rollup hrun (configuredRun_iff.mp hconfigured)

/-- The latest snapshot of a resolved run is a staged one. -/
theorem mem_of_resolvedWorkflowRuns {snapshots : List WorkflowRunSnapshot} {key : String}
    {run : WorkflowRunSnapshot} {rollup : WorkflowRollup}
    (h : (key, run, rollup) ∈ resolvedWorkflowRuns snapshots) : run ∈ snapshots :=
  (List.mem_filter.mp (firstBy_mem (mem_resolve.mp h).2.1)).1

/-- What is known of evidence. -/
structure Evidence.Known (evidence : Evidence) : Prop where
  repositoryFullName : evidence.repositoryFullName.isSome
  deploymentSha : evidence.deploymentSha.isSome
  createdAt : evidence.createdAt.isSome
  environment : evidence.evidenceType = .deploymentStatus → evidence.environment.isSome

theorem known_of_evidence (hstaged : staged.Tests) :
    ∀ row ∈ (build server seed staged).fctDeployments, row.toEvidence.Known := by
  refine (forall_evidence_iff (P := Evidence.Known)).mpr ⟨fun production hproduction => ?_, ?_⟩
  · have hknown := known_of_production hstaged hproduction
    exact ⟨hknown.repositoryFullName, hknown.deploymentSha, hknown.createdAt,
      fun _ => hknown.environment⟩
  · intro key run rollup hrun _
    have hmem := mem_of_resolvedWorkflowRuns hrun
    exact ⟨hstaged.workflowRun_repositoryFullName_not_null run hmem,
      hstaged.workflowRun_headSha_not_null run hmem,
      hstaged.workflowRun_createdAt_not_null run hmem, fun htype => nomatch htype⟩

theorem isPrimaryEvidence_known (htests : seed.Tests) (hstaged : staged.Tests) :
    ∀ row ∈ (build server seed staged).fctDeployments, row.isPrimaryEvidence.isSome := by
  intro row hrow
  have hsome := (known_of_evidence hstaged row hrow).environment
  obtain ⟨evidence, repository, hrepository, -, rfl⟩ :=
    mem_build_fctDeployments server seed staged hrow
  exact isPrimaryEvidence_isSome htests hrepository hsome

/-! ## Pull requests -/

theorem eq_or_eq_of_coalesce {value other : Option Timestamp} {t : Timestamp}
    (h : coalesce [value, other] = some t) : value = some t ∨ other = some t := by
  cases value with
  | none => exact Or.inr (by simpa [coalesce] using h)
  | some s => exact Or.inl (by simpa [coalesce] using h)

/-- A resolved pull request was merged or closed at the time one of its snapshots reports. -/
theorem mem_resolvedAt {row : PullRequest}
    (h : row ∈ (build server seed staged).intPrLifecycle) {t : Timestamp}
    (ht : row.resolvedAt = some t) :
    ∃ snapshot ∈ staged.pullRequests,
      (snapshot.mergedAt = some t ∨ snapshot.closedAt = some t)
      ∧ ∀ s ∈ snapshot.createdAt, ∃ createdAt, row.createdAt = some createdAt ∧ createdAt ≤ s := by
  obtain ⟨key, latest, -, group, hsubset, hlatest, rfl⟩ := exists_snapshots h
  -- the creation is that of the snapshot that reports the earliest one
  have hcreated : ∀ snapshot ∈ group, ∀ s ∈ snapshot.createdAt,
      ∃ createdAt, minimum compare (group.map (·.createdAt)) = some createdAt
        ∧ createdAt ≤ s := by
    intro snapshot hmem s hs
    have hvalue : some s ∈ group.map (·.createdAt) := List.mem_map.mpr ⟨snapshot, hmem, hs⟩
    obtain ⟨least, hleast⟩ := exists_minimum hvalue
    exact ⟨least, hleast, (isLeast_minimum hleast).2 hvalue⟩
  have hreported : ∀ column : PullRequestSnapshot → Option Timestamp,
      coalesce [column latest, maximum compare (group.map column)] = some t →
        ∃ snapshot ∈ group, column snapshot = some t := by
    intro column hcolumn
    rcases eq_or_eq_of_coalesce hcolumn with hvalue | hgreatest
    · exact ⟨latest, hlatest, hvalue⟩
    · exact List.mem_map.mp (isGreatest_maximum hgreatest).1
  have hcases : coalesce [latest.mergedAt, maximum compare (group.map (·.mergedAt))] = some t
      ∨ coalesce [latest.closedAt, maximum compare (group.map (·.closedAt))] = some t := by
    unfold resolvedPullRequest pullRequestRollup at ht
    simp only at ht
    split_ifs at ht <;> first | exact Or.inl ht | exact Or.inr ht
  rcases hcases with hmerged | hclosed
  · obtain ⟨snapshot, hmem, hat⟩ := hreported (·.mergedAt) hmerged
    exact ⟨snapshot, hsubset hmem, Or.inl hat, hcreated snapshot hmem⟩
  · obtain ⟨snapshot, hmem, hat⟩ := hreported (·.closedAt) hclosed
    exact ⟨snapshot, hsubset hmem, Or.inr hat, hcreated snapshot hmem⟩

/-- Whether a change is eligible is known wherever its creation is: without a merge it is not, and a
merged pull request is known to be merged. -/
theorem isEligibleChange_known (hstaged : staged.Tests) :
    ∀ fact ∈ (build server seed staged).fctPullRequests, fact.isEligibleChange.isSome := by
  intro fact hfact
  obtain ⟨row, hrow, repository, -, -, rfl⟩ := (mem_build_fctPullRequests server seed staged).mp hfact
  obtain ⟨createdAt, hcreated⟩ := Option.isSome_iff_exists.mp
    (known_of_pullRequest hstaged hrow).createdAt
  have hmerged := mergedAt_isMerged server seed staged row hrow
  show (both (both row.isMerged (some row.mergedAt.isSome))
    (atMost row.createdAt row.mergedAt)).isSome
  rw [hcreated]
  cases hat : row.mergedAt with
  | none =>
      rcases row.isMerged with _ | _ | _ <;> rfl
  | some mergedAt =>
      have hknown : row.isMerged = some true := by
        have hholds := hmerged (by rw [hat]; rfl)
        simpa [holds] using hholds
      rw [hknown]
      rfl

/-- A lead time is measured to a success at or after the completion of the change. -/
theorem leadTime_nonneg {events : List RawEvent} (h : staging server events = .ok staged) :
    ∀ fact ∈ (build server seed staged).fctPullRequests,
      ∀ seconds ∈ fact.leadTimeSeconds, 0 ≤ seconds := by
  intro fact hfact seconds hseconds
  obtain ⟨row, hrow, repository, -, -, rfl⟩ := (mem_build_fctPullRequests server seed staged).mp hfact
  obtain ⟨link, hfind, hlead⟩ := Option.bind_eq_some_iff.mp hseconds
  have hlink : link ∈ buildLinks server seed staged :=
    partitionFirst_subset (List.mem_of_find?_eq_some hfind)
  have hkey : row.pullRequestKey = link.pullRequestKey := by simpa using List.find?_some hfind
  obtain ⟨deployment, -, -, type, start, hstart, rfl⟩ :=
    linkStart_of_mem_buildLinks h hrow hlink hkey.symm
  have hafter : holds (atMost start deployment.successfulAt) = true := by
    cases hstart with
    | merge hmerge => exact hmerge.2.2
    | commit _ hlatest => exact hlatest.reaches.2.2.2.2
  exact secondsBetween_nonneg hafter hlead

theorem reviewToMerge_nonneg :
    ∀ fact ∈ (build server seed staged).fctPullRequests,
      ∀ seconds ∈ fact.secondsFromFirstReviewToMerge, 0 ≤ seconds := by
  intro fact hfact seconds hseconds
  obtain ⟨row, -, repository, -, -, rfl⟩ := (mem_build_fctPullRequests server seed staged).mp hfact
  unfold fctPullRequest at hseconds
  simp only at hseconds
  split at hseconds
  · rename_i hafter
    exact secondsBetween_nonneg hafter hseconds
  · cases hseconds

/-! ## Coverage -/

/-- Rounding does not leave the unit interval. -/
theorem roundedTo_mem_unit (digits : Nat) {q : ℚ} (hnonneg : 0 ≤ q) (hle : q ≤ 1) :
    0 ≤ roundedTo digits q ∧ roundedTo digits q ≤ 1 := by
  have hpos : (0 : ℚ) < 10 ^ digits := by positivity
  have hscaled : 0 ≤ q * 10 ^ digits := mul_nonneg hnonneg hpos.le
  have hunit : roundedTo digits q = (⌊q * 10 ^ digits + 1 / 2⌋ : Int) / 10 ^ digits := by
    unfold roundedTo
    simp only [if_pos hscaled]
  have hfloor : (0 : Int) ≤ ⌊q * 10 ^ digits + 1 / 2⌋ := Int.floor_nonneg.mpr (by linarith)
  rw [hunit]
  constructor
  · exact div_nonneg (by exact_mod_cast hfloor) hpos.le
  · rw [div_le_one hpos]
    -- at most the scale itself, which is an integer
    have hbelow : q * 10 ^ digits ≤ 10 ^ digits := by nlinarith
    have hlt : ⌊q * 10 ^ digits + 1 / 2⌋ < (10 ^ digits : Int) + 1 := by
      rw [Int.floor_lt]
      push_cast
      linarith
    exact_mod_cast Int.lt_add_one_iff.mp hlt

theorem coverageRatio_mem_unit {inputs : DailyInputs} (h : inputs.Ordered) (metric : MetricName) :
    ∀ ratio ∈ (dailyMetric inputs metric).coverageRatio, 0 ≤ ratio ∧ ratio ≤ 1 := by
  intro ratio hratio
  obtain ⟨quotient, hquotient, rfl⟩ := Option.map_eq_some_iff.mp hratio
  rw [coverageRatio_eq] at hquotient
  split_ifs at hquotient with hpos
  cases hquotient
  have hdenominator : (0 : ℚ) < ((coverageDenominator inputs metric : Int) : ℚ) := by
    exact_mod_cast hpos
  have hle : ((coverageNumerator inputs metric : Int) : ℚ)
      ≤ ((coverageDenominator inputs metric : Int) : ℚ) := by
    exact_mod_cast coverageNumerator_le h metric
  have hnonneg : (0 : ℚ) ≤ ((coverageNumerator inputs metric : Int) : ℚ) := by positivity
  obtain ⟨hlow, hhigh⟩ := roundedTo_mem_unit
    (divisionScale (coverageNumerator inputs metric) (coverageDenominator inputs metric))
    (div_nonneg hnonneg hdenominator.le) ((div_le_one hdenominator).mpr hle)
  exact roundedTo_mem_unit 6 hlow hhigh

/-- The rows of the daily fact come from ordered counts. -/
theorem daily_ordered (htests : seed.Tests) (hstaged : staged.Tests) {row : DailyMetric}
    (h : row ∈ (build server seed staged).fctDeliveryPerformanceDaily) :
    ∃ inputs metric, inputs.Ordered ∧ row = dailyMetric inputs metric
      ∧ inputs.repository ∈ (build server seed staged).dimRepository
      ∧ inputs.date ∈ (build server seed staged).dimDate := by
  obtain ⟨repository, hrepository, date, hdate, metric, rfl⟩ := mem_build_daily.mp h
  exact ⟨_, metric, inputsOn_ordered
    (measured_isPrimary htests hstaged.deployment_environment_not_null) linked_has_leadTime _, rfl,
    hrepository, hdate⟩

/-! ## Timestamps -/

theorem succeededAfterCreation_ne_false {successfulAt createdAt : Option Timestamp} :
    succeededAfterCreation successfulAt createdAt ≠ some false
      ↔ holds (below successfulAt createdAt) = false := by
  cases successfulAt with
  | none => exact iff_of_true (fun h => nomatch h) rfl
  | some t =>
      cases createdAt with
      | none => exact iff_of_true (fun h => nomatch h) rfl
      | some s =>
          show either (some false) (some (decide (s ≤ t))) ≠ some false
            ↔ holds (some (decide (t < s))) = false
          rw [holds_some, decide_eq_false_iff_not, not_lt]
          show some (decide (s ≤ t)) ≠ some false ↔ _
          simp

/-- A duration that is rounded to a negative number is half a second or more before zero. -/
theorem wholeSeconds_neg_iff {micros : Int} : wholeSeconds micros < 0 ↔ micros ≤ -500000 := by
  unfold wholeSeconds Datetime.microsPerSecond
  split_ifs <;> omega

/-- The time to success of a production deployment is measured from its creation. -/
theorem secondsToSuccess_of_production {row : ProductionDeployment}
    (h : row ∈ (build server seed staged).intProductionDeployments) :
    row.secondsToSuccess = secondsBetween row.successfulAt row.createdAt := by
  rw [build_intProductionDeployments, intProductionDeployments_eq] at h
  obtain ⟨⟨key, deployment, rollup⟩, -, rfl⟩ := List.mem_map.mp h
  unfold productionDeployment
  simp only
  generalize Option.bind _ StatusRollup.successfulAt = successfulAt
  cases successfulAt <;> rfl

theorem secondsBetween_nonneg_iff {later earlier : Option Timestamp} :
    (∀ seconds ∈ secondsBetween later earlier, 0 ≤ seconds)
      ↔ ∀ t ∈ later, ∀ s ∈ earlier, -500000 < t - s := by
  constructor
  · rintro h t rfl s rfl
    have hnonneg : 0 ≤ wholeSeconds (t - s) := h _ rfl
    exact not_le.mp fun hle => not_lt.mpr hnonneg (wholeSeconds_neg_iff.mpr hle)
  · intro h seconds hseconds
    obtain ⟨t, s, hlater, hearlier, rfl⟩ := Option.map₂_eq_some_iff.mp hseconds
    exact not_lt.mp fun hneg =>
      not_le.mpr (h t hlater s hearlier) (wholeSeconds_neg_iff.mp hneg)

theorem nonneg_of_ne_false {value : Option Int} :
    either (some value.isNone) (atMost (some 0) value) ≠ some false
      ↔ ∀ seconds ∈ value, 0 ≤ seconds := by
  cases value with
  | none => exact iff_of_true (by decide) (by simp)
  | some seconds =>
      show some (decide (0 ≤ seconds)) ≠ some false ↔ _
      simp

/-- A row that is not `completed` is known not to be successful. -/
theorem isSuccessful_isSome_iff {run : WorkflowRunSnapshot} (hstatus : run.workflowStatus.isSome)
    (key : String) (rollup : WorkflowRollup) :
    (workflowEvidence key run rollup).isSuccessful.isSome
      ↔ (run.workflowStatus = some "completed" → run.conclusion.isSome) := by
  obtain ⟨status, hstatus⟩ := Option.isSome_iff_exists.mp hstatus
  show (both (equal run.workflowStatus (some "completed"))
    (equal run.conclusion (some "success"))).isSome ↔ _
  rw [hstatus]
  by_cases hcompleted : status = "completed"
  · have htrue : equal (some status) (some "completed") = some true := by
      rw [hcompleted]
      rfl
    rw [htrue, hcompleted]
    cases run.conclusion with
    | none => exact iff_of_false (fun h => nomatch h) fun h => nomatch h rfl
    | some conclusion => exact iff_of_true rfl fun _ => rfl
  · have hfalse : equal (some status) (some "completed") = some false :=
      congrArg some (decide_eq_false hcompleted)
    rw [hfalse]
    exact iff_of_true rfl fun h => absurd (Option.some.inj h) hcompleted

/-- The success of a run and its creation. -/
theorem below_successfulAt_workflow {run : WorkflowRunSnapshot} (key : String)
    (rollup : WorkflowRollup) :
    holds (below (workflowEvidence key run rollup).successfulAt
        (workflowEvidence key run rollup).createdAt) = false
      ↔ (run.workflowStatus = some "completed" → run.conclusion = some "success" →
        holds (below run.updatedAt run.createdAt) = false) := by
  show holds (below (if holds (both (equal run.workflowStatus (some "completed"))
    (equal run.conclusion (some "success"))) then run.updatedAt else none) run.createdAt) = false ↔ _
  have hsuccess : holds (both (equal run.workflowStatus (some "completed"))
        (equal run.conclusion (some "success"))) = true
      ↔ run.workflowStatus = some "completed" ∧ run.conclusion = some "success" := by
    rw [holds_both, Bool.and_eq_true, holds_equal, holds_equal]
    constructor
    · rintro ⟨⟨x, hstatus, hx⟩, y, hconclusion, hy⟩
      exact ⟨hstatus.trans hx.symm, hconclusion.trans hy.symm⟩
    · rintro ⟨hstatus, hconclusion⟩
      exact ⟨⟨_, hstatus, rfl⟩, _, hconclusion, rfl⟩
  by_cases hboth : run.workflowStatus = some "completed" ∧ run.conclusion = some "success"
  · rw [if_pos (hsuccess.mpr hboth)]
    exact ⟨fun h _ _ => h, fun h => h hboth.1 hboth.2⟩
  · rw [if_neg fun h => hboth (hsuccess.mp h)]
    exact iff_of_true rfl fun hstatus hconclusion => absurd ⟨hstatus, hconclusion⟩ hboth

/-- A pull request is not resolved before its creation where no snapshot reports that. -/
theorem resolved_after_creation (hstaged : staged.Tests)
    (hsnapshots : ∀ snapshot ∈ staged.pullRequests, ∀ t,
      snapshot.mergedAt = some t ∨ snapshot.closedAt = some t →
      ∀ createdAt ∈ snapshot.createdAt, createdAt ≤ t)
    {row : PullRequest} (h : row ∈ (build server seed staged).intPrLifecycle) :
    holds (below row.resolvedAt row.createdAt) = false := by
  rw [Bool.eq_false_iff]
  intro hbelow
  obtain ⟨t, s, hresolved, hcreated, hlt⟩ := holds_below.mp hbelow
  obtain ⟨snapshot, hmem, hat, hearliest⟩ := mem_resolvedAt h hresolved
  obtain ⟨reported, hreported⟩ := Option.isSome_iff_exists.mp
    (hstaged.pullRequest_createdAt_not_null snapshot hmem)
  obtain ⟨createdAt, hrow, hle⟩ := hearliest reported hreported
  have hsame : s = createdAt := Option.some.inj (hcreated.symm.trans hrow)
  have hafter : reported ≤ t := hsnapshots snapshot hmem t hat reported hreported
  exact absurd (hle.trans hafter) (by rw [← hsame]; exact not_le.mpr hlt)

/-! ## The intermediate models pass their tests -/

theorem intPrLifecycleTests_pass (hstaged : staged.Tests) :
    ∀ test ∈ intPrLifecycleTests, test.passes (build server seed staged) := by
  have hknown : ∀ row ∈ (build server seed staged).intPrLifecycle, row.Known :=
    fun _ hrow => known_of_pullRequest hstaged hrow
  simp only [intPrLifecycleTests, forall_mem_testsOn, List.forall_mem_cons, List.not_mem_nil,
    IsEmpty.forall_iff, implies_true, and_true, true_and, Option.isSome_some, notNull_passes_iff,
    unique_some_passes_iff, acceptedValues_passes_iff]
  exact ⟨fun row hrow => (hknown row hrow).repositoryFullName,
    pullRequests_nodup server seed staged, fun row hrow => (hknown row hrow).pullRequestNumber,
    fun row hrow => isSome_of_accepted (hknown row hrow).pullRequestState,
    fun row hrow => mem_of_accepted (hknown row hrow).pullRequestState,
    fun row hrow => (hknown row hrow).title, fun row hrow => (hknown row hrow).authorLogin,
    fun row hrow => (hknown row hrow).createdAt, fun row hrow => (hknown row hrow).isMerged,
    fun row hrow => (hknown row hrow).isClosed, fun row hrow => (hknown row hrow).firstIngestedAt,
    fun row hrow => (hknown row hrow).lastIngestedAt⟩

/-- A known number that is not negative. -/
theorem atMost_of_nonneg {value : Option Int} (h : ∃ n, 0 ≤ n ∧ value = some n) :
    atMost (some 0) value ≠ some false ∧ value.isSome := by
  obtain ⟨n, hnonneg, rfl⟩ := h
  exact ⟨atMost_zero_ne_false hnonneg, rfl⟩

theorem intFirstEligibleReviewTests_pass (hstaged : staged.Tests) :
    ∀ test ∈ intFirstEligibleReviewTests, test.passes (build server seed staged) := by
  have hknown : ∀ row ∈ (build server seed staged).intFirstEligibleReview,
      row.Known (build server seed staged).intPrLifecycle :=
    fun _ hrow => known_of_review hstaged hrow
  simp only [intFirstEligibleReviewTests, List.forall_mem_append, forall_mem_testsOn,
    List.forall_mem_cons, List.not_mem_nil, IsEmpty.forall_iff, implies_true, and_true, true_and,
    Option.isSome_some, Option.mem_def, Option.some.injEq, forall_eq', notNull_passes_iff,
    unique_some_passes_iff, acceptedValues_passes_iff, expressionIsTrue_passes_iff,
    relationships_passes_iff]
  exact ⟨⟨fun row hrow => (atMost_of_nonneg (hknown row hrow).secondsToFirstReview).1,
    fun row hrow => (hknown row hrow).repositoryFullName, reviews_nodup server seed staged,
    fun row hrow => (hknown row hrow).pullRequestNumber,
    fun row hrow => isSome_of_accepted (hknown row hrow).reviewState,
    fun row hrow => mem_of_accepted (hknown row hrow).reviewState,
    fun row hrow => (hknown row hrow).reviewerLogin,
    fun row hrow => (hknown row hrow).firstReviewAt,
    fun row hrow => (atMost_of_nonneg (hknown row hrow).secondsToFirstReview).2,
    fun row hrow => (hknown row hrow).isPreMergeReview⟩,
    fun row hrow => (hknown row hrow).pullRequestKey⟩

theorem intProductionDeploymentsTests_pass (hstaged : staged.Tests) :
    ∀ test ∈ intProductionDeploymentsTests, test.passes (build server seed staged) := by
  have hknown : ∀ row ∈ (build server seed staged).intProductionDeployments, row.Known :=
    fun _ hrow => known_of_production hstaged hrow
  simp only [intProductionDeploymentsTests, forall_mem_testsOn, List.forall_mem_cons,
    List.not_mem_nil, IsEmpty.forall_iff, implies_true, and_true, true_and, Option.isSome_some,
    notNull_passes_iff, unique_some_passes_iff, acceptedValues_passes_iff]
  exact ⟨fun row hrow => (hknown row hrow).repositoryFullName,
    productions_nodup server seed staged, fun row hrow => (hknown row hrow).deploymentId,
    fun row hrow => (hknown row hrow).environment,
    fun row hrow => (hknown row hrow).deploymentSha, fun row hrow => (hknown row hrow).createdAt,
    fun row hrow => (hknown row hrow).latestDeploymentState,
    fun row hrow => (hknown row hrow).firstIngestedAt,
    fun row hrow => (hknown row hrow).lastIngestedAt⟩

theorem LinkageType.name_mem (linkage : LinkageType) :
    linkage.name ∈ ["merge_commit", "pull_request_commit"] := by
  cases linkage <;> decide

theorem intChangeToDeploymentTests_pass {events : List RawEvent}
    (h : staging server events = .ok staged) (hstaged : staged.Tests) :
    ∀ test ∈ intChangeToDeploymentTests, test.passes (build server seed staged) := by
  have hknown : ∀ link ∈ (build server seed staged).intChangeToDeployment,
      link.Known (build server seed staged) := fun _ hlink => known_of_link hstaged hlink
  simp only [intChangeToDeploymentTests, List.forall_mem_append, forall_mem_testsOn,
    List.forall_mem_cons, List.not_mem_nil, IsEmpty.forall_iff, implies_true, and_true, true_and,
    Option.isSome_some, Option.mem_def, Option.some.injEq, forall_eq', notNull_passes_iff,
    unique_some_passes_iff, acceptedValues_passes_iff, expressionIsTrue_passes_iff,
    relationships_passes_iff]
  exact ⟨⟨fun link hlink => (atMost_of_nonneg (hknown link hlink).leadTimeSeconds).1,
    changeDeploymentKey_nodup h, fun link hlink => (hknown link hlink).repositoryFullName,
    fun link hlink => (hknown link hlink).pullRequestNumber,
    fun link hlink => (hknown link hlink).deploymentId,
    fun link hlink => (hknown link hlink).environment,
    fun link hlink => (hknown link hlink).changeSha,
    fun link _ => link.change.linkageType.name_mem,
    fun link hlink => (hknown link hlink).changeCompletedAt,
    fun link hlink => (hknown link hlink).deployedAt,
    fun link hlink => (atMost_of_nonneg (hknown link hlink).leadTimeSeconds).2⟩,
    fun link hlink => (hknown link hlink).pullRequestKey,
    fun link hlink => (hknown link hlink).deploymentKey⟩

theorem intermediateTests_pass {events : List RawEvent} (h : staging server events = .ok staged)
    (hstaged : staged.Tests) :
    ∀ test ∈ intermediateTests, test.passes (build server seed staged) := by
  unfold intermediateTests
  simp only [List.forall_mem_append]
  exact ⟨⟨⟨intPrLifecycleTests_pass hstaged, intFirstEligibleReviewTests_pass hstaged⟩,
    intProductionDeploymentsTests_pass hstaged⟩, intChangeToDeploymentTests_pass h hstaged⟩

/-! ## The marts pass their tests -/

theorem dimRepositoryTests_pass (htests : seed.Tests) (hstaged : staged.Tests) :
    ∀ test ∈ dimRepositoryTests, test.passes (build server seed staged) := by
  simp only [dimRepositoryTests, forall_mem_testsOn, List.forall_mem_cons, List.not_mem_nil,
    IsEmpty.forall_iff, implies_true, and_true, true_and, Option.isSome_some, notNull_passes_iff,
    unique_some_passes_iff, acceptedValues_passes_iff]
  exact ⟨repositories_nodup server seed staged,
    fun _ hrepository => repository_named htests hstaged hrepository,
    fun _ hrepository => productionSignal_mem htests hrepository⟩

theorem dimDateTests_pass : ∀ test ∈ dimDateTests, test.passes (build server seed staged) := by
  simp only [dimDateTests, forall_mem_testsOn, List.forall_mem_cons, List.not_mem_nil,
    IsEmpty.forall_iff, implies_true, and_true, true_and, Option.isSome_some, notNull_passes_iff,
    unique_some_passes_iff]
  exact dates_nodup server seed staged

theorem MeasurementStatus.name_mem (status : MeasurementStatus) :
    status.name ∈ ["measured", "configured_proxy", "unavailable"] := by
  cases status <;> decide

theorem EvidenceType.name_mem (evidence : EvidenceType) :
    evidence.name ∈ ["deployment_status", "workflow_run"] := by
  cases evidence <;> decide

theorem MetricName.name_mem (metric : MetricName) :
    metric.name ∈ [ "deployment_frequency", "change_lead_time", "failed_deployment_recovery_time"
      , "change_failure_rate", "deployment_rework_rate" ] := by
  cases metric <;> decide

theorem measurementTests_pass {ρ : Type} (measurementStatus : ρ → MeasurementStatus)
    (definitionVersion : ρ → String) (rows : List ρ) :
    ∀ test ∈ measurementTests measurementStatus definitionVersion, test.passes rows := by
  simp only [measurementTests, List.forall_mem_cons, List.not_mem_nil, IsEmpty.forall_iff,
    implies_true, and_true, true_and, Option.isSome_some, Option.mem_def, Option.some.injEq,
    forall_eq', notNull_passes_iff, acceptedValues_passes_iff]
  exact fun row _ => (measurementStatus row).name_mem

theorem fctDeploymentsTests_pass {events : List RawEvent} (h : staging server events = .ok staged)
    (htests : seed.Tests) (hstaged : staged.Tests) :
    ∀ test ∈ fctDeploymentsTests, test.passes (build server seed staged) := by
  have hknown : ∀ row ∈ (build server seed staged).fctDeployments, row.toEvidence.Known :=
    known_of_evidence hstaged
  simp only [fctDeploymentsTests, List.forall_mem_append, forall_mem_testsOn,
    List.forall_mem_cons, List.not_mem_nil, IsEmpty.forall_iff, implies_true, and_true, true_and,
    Option.isSome_some, Option.mem_def, Option.some.injEq, forall_eq', notNull_passes_iff,
    unique_some_passes_iff, acceptedValues_passes_iff, relationships_passes_iff]
  refine ⟨⟨⟨fctDeployments_nodup h, fun row hrow => (hknown row hrow).repositoryFullName,
    fun row _ => row.evidenceType.name_mem, fun row hrow => (hknown row hrow).deploymentSha,
    fun row hrow => (hknown row hrow).createdAt, isPrimaryEvidence_known htests hstaged⟩,
    measurementTests_pass _ _ _⟩, fun row hrow => ?_⟩
  exact List.mem_map.mp (fctDeployment_known server seed staged row hrow)

/-- A fact about a pull request has the columns of `int_pr_lifecycle`. -/
theorem exists_pullRequest {fact : FctPullRequest}
    (h : fact ∈ (build server seed staged).fctPullRequests) :
    ∃ row ∈ (build server seed staged).intPrLifecycle,
      fact.repositoryFullName = row.repositoryFullName
      ∧ fact.pullRequestNumber = row.pullRequestNumber
      ∧ fact.pullRequestState = row.pullRequestState ∧ fact.title = row.title
      ∧ fact.createdAt = row.createdAt := by
  obtain ⟨row, hrow, repository, -, -, rfl⟩ := (mem_build_fctPullRequests server seed staged).mp h
  exact ⟨row, hrow, rfl, rfl, rfl, rfl, rfl⟩

theorem fctPullRequestsTests_pass {events : List RawEvent} (h : staging server events = .ok staged)
    (hstaged : staged.Tests) :
    ∀ test ∈ fctPullRequestsTests, test.passes (build server seed staged) := by
  have hcolumns : ∀ fact ∈ (build server seed staged).fctPullRequests,
      fact.repositoryFullName.isSome ∧ fact.pullRequestNumber.isSome
        ∧ fact.pullRequestState.isSome ∧ fact.title.isSome ∧ fact.createdAt.isSome := by
    intro fact hfact
    obtain ⟨row, hrow, hname, hnumber, hstate, htitle, hcreated⟩ := exists_pullRequest hfact
    have hknown := known_of_pullRequest hstaged hrow
    rw [hname, hnumber, hstate, htitle, hcreated]
    exact ⟨hknown.repositoryFullName, hknown.pullRequestNumber,
      isSome_of_accepted hknown.pullRequestState, hknown.title, hknown.createdAt⟩
  simp only [fctPullRequestsTests, List.forall_mem_append, forall_mem_testsOn,
    List.forall_mem_cons, List.not_mem_nil, IsEmpty.forall_iff, implies_true, and_true, true_and,
    Option.isSome_some, Option.mem_map, forall_exists_index, and_imp, notNull_passes_iff,
    unique_some_passes_iff, acceptedValues_passes_iff, expressionIsTrue_passes_iff]
  refine ⟨⟨fun fact hfact => nonneg_of_ne_false.mpr (leadTime_nonneg h fact hfact),
    fun fact hfact => nonneg_of_ne_false.mpr (reviewToMerge_nonneg fact hfact),
    fun fact _ => atMost_zero_ne_false (Int.natCast_nonneg fact.reviewReworkCycleCount),
    fun fact hfact => (hcolumns fact hfact).1, fctPullRequests_nodup server seed staged,
    fun fact hfact => (hcolumns fact hfact).2.1, fun fact hfact => (hcolumns fact hfact).2.2.1,
    fun fact hfact => (hcolumns fact hfact).2.2.2.1,
    fun fact hfact => (hcolumns fact hfact).2.2.2.2, isEligibleChange_known hstaged, ?_, ?_⟩,
    measurementTests_pass _ _ _⟩
  · rintro fact - _ linkage - rfl
    exact linkage.name_mem
  · rintro fact - _ evidence - rfl
    exact evidence.name_mem

theorem fctDeliveryPerformanceDailyTests_pass (htests : seed.Tests) (hstaged : staged.Tests) :
    ∀ test ∈ fctDeliveryPerformanceDailyTests, test.passes (build server seed staged) := by
  simp only [fctDeliveryPerformanceDailyTests, List.forall_mem_append, forall_mem_testsOn,
    List.forall_mem_cons, List.not_mem_nil, IsEmpty.forall_iff, implies_true, and_true, true_and,
    Option.isSome_some, Option.mem_def, Option.some.injEq, forall_eq', notNull_passes_iff,
    acceptedValues_passes_iff, expressionIsTrue_passes_iff, relationships_passes_iff]
  refine ⟨⟨⟨fun row hrow => ?_, fun row hrow => ?_, fun row hrow => ?_, fun row hrow => ?_,
    fun row _ => row.metricName.name_mem⟩, measurementTests_pass _ _ _⟩, fun row hrow => ?_⟩
  all_goals
    obtain ⟨inputs, metric, hordered, rfl, hrepository, hdate⟩ := daily_ordered htests hstaged hrow
  · have hunit := coverageRatio_mem_unit hordered metric
    cases hratio : (dailyMetric inputs metric).coverageRatio with
    | none =>
        show some true ≠ some false
        decide
    | some ratio =>
        show some (decide (0 ≤ ratio ∧ ratio ≤ 1)) ≠ some false
        rw [decide_eq_true (hunit ratio hratio)]
        decide
  · have hle := (dailyMetric_contract hordered hrepository metric).coverage_le
    rw [decide_eq_true hle]
    decide
  · have hnull := (dailyMetric_contract hordered hrepository metric).value_null
    by_cases hunavailable : (dailyMetric inputs metric).measurementStatus = .unavailable
    · rw [hnull.mp hunavailable]
      cases decide ((dailyMetric inputs metric).measurementStatus ≠ .unavailable) <;> decide
    · rw [decide_eq_true hunavailable]
      show some true ≠ some false
      decide
  · exact repository_named htests hstaged hrepository
  · exact ⟨inputs.date, hdate, rfl⟩

theorem martTests_pass {events : List RawEvent} (h : staging server events = .ok staged)
    (htests : seed.Tests) (hstaged : staged.Tests) :
    ∀ test ∈ martTests, test.passes (build server seed staged) := by
  unfold martTests
  simp only [List.forall_mem_append]
  exact ⟨⟨⟨⟨dimRepositoryTests_pass htests hstaged, dimDateTests_pass⟩,
    fctDeploymentsTests_pass h htests hstaged⟩, fctPullRequestsTests_pass h hstaged⟩,
    fctDeliveryPerformanceDailyTests_pass htests hstaged⟩

/-- **The declared tests.** Over staged rows and a seed that pass their own tests every declared
test passes, but for those on the keys of dates, which are told apart exactly if no date of the
calendar is shown like one before the common era, and on timestamps. A pull request is not resolved
before its creation if no snapshot reports that. A success in `fct_deployments` does not precede its
creation exactly if none does in `int_production_deployments` and no successful run of a configured
workflow was last updated before it was created; a duration is not negative exactly if no
production deployment succeeded half a second or more before its creation; and it is known whether a
deployment succeeded exactly if no configured run is completed without a conclusion. -/
theorem declared_tests_pass {events : List RawEvent} (h : staging server events = .ok staged)
    (htests : seed.Tests) (hstaged : staged.Tests) :
    let marts := build server seed staged
    (∀ test ∈ intermediateTests ++ martTests, test.passes marts)
    ∧ (dateKeyUnique.passes marts ↔ ∀ date ∈ marts.dimDate, ∀ other ∈ marts.dimDate,
        ¬ Mirrored date.dateDay other.dateDay)
    ∧ (dailyKeyUnique.passes marts ↔ marts.dimRepository = [] ∨ dateKeyUnique.passes marts)
    ∧ ((∀ snapshot ∈ staged.pullRequests, ∀ t,
          snapshot.mergedAt = some t ∨ snapshot.closedAt = some t →
          ∀ createdAt ∈ snapshot.createdAt, createdAt ≤ t) →
        resolvedAfterCreation.passes marts)
    ∧ (deploymentAfterCreation.passes marts ↔ productionAfterCreation.passes marts
        ∧ ∀ key run rollup, (key, run, rollup) ∈ resolvedWorkflowRuns staged.workflowRuns →
          IsConfiguredRun server seed run → run.workflowStatus = some "completed" →
          run.conclusion = some "success" → holds (below run.updatedAt run.createdAt) = false)
    ∧ (durationNonneg.passes marts ↔ ∀ row ∈ marts.intProductionDeployments,
        ∀ successfulAt ∈ row.successfulAt, ∀ createdAt ∈ row.createdAt,
          -500000 < successfulAt - createdAt)
    ∧ (successKnown.passes marts
        ↔ ∀ key run rollup, (key, run, rollup) ∈ resolvedWorkflowRuns staged.workflowRuns →
          IsConfiguredRun server seed run → run.workflowStatus = some "completed" →
          run.conclusion.isSome) := by
  intro marts
  refine ⟨?_, ?_, ?_, ?_, ?_, ?_, ?_⟩
  · exact List.forall_mem_append.mpr ⟨intermediateTests_pass h hstaged,
      martTests_pass h htests hstaged⟩
  · unfold dateKeyUnique
    rw [on_passes_iff, unique_some_passes_iff]
    exact dateKeys_nodup_iff
  · unfold dailyKeyUnique dateKeyUnique
    rw [on_passes_iff, on_passes_iff, unique_some_passes_iff, unique_some_passes_iff]
    exact dailyKeys_nodup_iff
  · intro hsnapshots
    unfold resolvedAfterCreation
    rw [on_passes_iff, expressionIsTrue_passes_iff]
    exact fun row hrow => succeededAfterCreation_ne_false.mpr
      (resolved_after_creation hstaged hsnapshots hrow)
  · unfold deploymentAfterCreation productionAfterCreation
    rw [on_passes_iff, on_passes_iff, expressionIsTrue_passes_iff, expressionIsTrue_passes_iff]
    simp only [succeededAfterCreation_ne_false]
    refine (forall_evidence_iff (P := fun evidence =>
      holds (below evidence.successfulAt evidence.createdAt) = false)).trans ?_
    refine and_congr Iff.rfl ?_
    refine forall_congr' fun key => forall_congr' fun run => forall_congr' fun rollup => ?_
    exact forall_congr' fun _ => forall_congr' fun _ => below_successfulAt_workflow key rollup
  · unfold durationNonneg
    rw [on_passes_iff, expressionIsTrue_passes_iff]
    simp only [nonneg_of_ne_false]
    refine (forall_evidence_iff (P := fun evidence =>
      ∀ seconds ∈ evidence.secondsToSuccess, 0 ≤ seconds)).trans ?_
    have hworkflow : ∀ key run rollup,
        (key, run, rollup) ∈ resolvedWorkflowRuns staged.workflowRuns →
          IsConfiguredRun server seed run →
          ∀ seconds ∈ (workflowEvidence key run rollup).secondsToSuccess, 0 ≤ seconds :=
      fun key run rollup _ _ => (durationFits_workflow key run rollup).nonneg
    rw [and_iff_left hworkflow]
    refine forall_congr' fun row => forall_congr' fun hrow => ?_
    show (∀ seconds ∈ row.secondsToSuccess, 0 ≤ seconds) ↔ _
    rw [secondsToSuccess_of_production hrow]
    exact secondsBetween_nonneg_iff
  · unfold successKnown
    rw [on_passes_iff, notNull_passes_iff]
    refine (forall_evidence_iff (P := fun evidence => evidence.isSuccessful.isSome)).trans ?_
    have hproduction : ∀ row ∈ marts.intProductionDeployments,
        (deploymentEvidence row).isSuccessful.isSome := fun _ _ => rfl
    rw [and_iff_right hproduction]
    refine forall_congr' fun key => forall_congr' fun run => forall_congr' fun rollup => ?_
    refine forall_congr' fun hrun => forall_congr' fun _ => ?_
    exact isSuccessful_isSome_iff
      (hstaged.workflowRun_workflowStatus_not_null run (mem_of_resolvedWorkflowRuns hrun)) key rollup

end

/-! ## A pull request that is reviewed, merged and released -/

/-- The repository is measured by the runs of the workflow `release`. -/
def releaseSeed : Seed where
  rows :=
    [{ demoConfig "UTC" with
        productionSignal := some "workflow_run"
        productionEnvironmentNames := none
        productionWorkflowName := some "release" }]
  repositoryId_unique := List.nodup_singleton _

theorem releaseSeed_tests : releaseSeed.Tests where
  repositoryFullName_unique := List.nodup_singleton _
  repositoryFullName_not_null row hrow := by
    rw [List.mem_singleton.mp hrow]
    rfl
  repositoryTimezone_not_null row hrow := by
    rw [List.mem_singleton.mp hrow]
    rfl
  definitionVersion_not_null row hrow := by
    rw [List.mem_singleton.mp hrow]
    rfl
  one_signal row hrow := by
    rw [List.mem_singleton.mp hrow]
    exact Or.inr ⟨rfl, rfl, rfl⟩

/-- Created at 8, reviewed at 9, merged at 12, then deployed and released. -/
def releaseEvents : List RawEvent :=
  [ demoEvent 1 "pull_request" (july24 12)
      [("pull_request", .object
        [ ("number", .number 17 0), ("node_id", .string "PR_17"), ("state", .string "closed")
        , ("title", .string "Release"), ("user", .object [("login", .string "author")])
        , ("created_at", .string "2026-07-24T08:00:00Z")
        , ("closed_at", .string "2026-07-24T12:00:00Z")
        , ("merged_at", .string "2026-07-24T12:00:00Z"), ("merge_commit_sha", .string "def") ])]
  , demoEvent 2 "pull_request_review" (july24 9)
      [ ("pull_request", .object [("number", .number 17 0), ("node_id", .string "PR_17")])
      , ("review", .object
        [ ("id", .number 50017 0), ("state", .string "approved")
        , ("user", .object [("login", .string "reviewer")])
        , ("submitted_at", .string "2026-07-24T09:00:00Z") ]) ]
  , demoEvent 3 "workflow_run" (july24 15)
      [("workflow_run", .object
        [ ("id", .number 60001 0), ("name", .string "release"), ("status", .string "completed")
        , ("conclusion", .string "success"), ("head_sha", .string "def")
        , ("created_at", .string "2026-07-24T12:00:00Z")
        , ("updated_at", .string "2026-07-24T12:00:00Z") ])] ]
  ++ demoDeployment 4 (july24 15) "def"

theorem declared_tests_pass_release :
    ∃ staged, staging hourServer releaseEvents = .ok staged
      ∧ (build hourServer releaseSeed staged).fctPullRequests.map (·.leadTimeSeconds) = [some 0]
      ∧ (∀ test ∈ intermediateTests ++ martTests,
          test.passes (build hourServer releaseSeed staged))
      ∧ dailyKeyUnique.passes (build hourServer releaseSeed staged)
      ∧ deploymentAfterCreation.passes (build hourServer releaseSeed staged)
      ∧ successKnown.passes (build hourServer releaseSeed staged) := by
  have hrun : ∃ staged, staging hourServer releaseEvents = .ok staged
      ∧ staged.Tests
      ∧ (build hourServer releaseSeed staged).fctPullRequests.map (·.leadTimeSeconds) = [some 0]
      ∧ dateKeyUnique.passes (build hourServer releaseSeed staged)
      ∧ productionAfterCreation.passes (build hourServer releaseSeed staged)
      ∧ ∀ run ∈ staged.workflowRuns, run.conclusion.isSome
        ∧ holds (below run.updatedAt run.createdAt) = false := by
    decide +kernel
  obtain ⟨staged, h, hstaged, hlead, hdates, hproduction, hruns⟩ := hrun
  obtain ⟨hpass, -, hdaily, -, hafter, -, hknown⟩ :=
    declared_tests_pass h releaseSeed_tests hstaged
  refine ⟨staged, h, hlead, hpass, hdaily.mpr (Or.inr hdates), hafter.mpr ⟨hproduction, ?_⟩,
    hknown.mpr ?_⟩
  · intro key run rollup hrun _ _ _
    exact (hruns run (mem_of_resolvedWorkflowRuns hrun)).2
  · intro key run rollup hrun _ _
    exact (hruns run (mem_of_resolvedWorkflowRuns hrun)).1

end Dbt
