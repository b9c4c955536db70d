import DeliveryIntelligence.Dbt.Calendar
import DeliveryIntelligence.Dbt.Grain

set_option autoImplicit false

/-!
# Where lead time starts

`fct_pull_requests` links a pull request to the first production deployment that ran its merge
commit or one of its commits, and measures from the time the linked commit was completed: the
merge, or the commit itself. `leadTimeFromMerge_iff` says for which pull requests and deployments
that is the time from merge to production.
-/

namespace Dbt

open Postgres Query
open RawEvents (RawEvent)

variable {server : Server}

/-! ## Commits that ran in production -/

/-- Evidence of a success of this commit in its repository, at or after the time it was
completed. -/
def Ran (repositoryId : Int) (sha : Option String) (completedAt : Option Timestamp)
    (evidence : Evidence) : Prop :=
  repositoryId = evidence.repositoryId ∧ holds (equal sha evidence.deploymentSha) = true
    ∧ holds (atMost completedAt evidence.successfulAt) = true

/-- The merge commit ran in production after the merge. -/
def MergeReaches (row : PullRequest) (evidence : Evidence) : Prop :=
  Ran row.repositoryId row.mergeCommitSha row.mergedAt evidence

/-- A commit of the pull request ran in a deployment. -/
def CommitReaches (row : PullRequest) (commit : PullRequestCommit) (evidence : Evidence) : Prop :=
  commitOfPullRequest commit row = true ∧ evidence.evidenceType = .deploymentStatus
    ∧ Ran row.repositoryId commit.commitSha commit.committedAt evidence

instance (row : PullRequest) (commit : PullRequestCommit) (evidence : Evidence) :
    Decidable (CommitReaches row commit evidence) :=
  inferInstanceAs (Decidable (_ ∧ _ ∧ _ ∧ _ ∧ _))

/-- What ran had been completed. -/
theorem Ran.completed {repositoryId : Int} {sha : Option String} {completedAt : Option Timestamp}
    {evidence : Evidence} (h : Ran repositoryId sha completedAt evidence) : completedAt.isSome := by
  obtain ⟨at', _, hat, -, -⟩ := holds_atMost.mp h.2.2
  exact Option.isSome_iff_exists.mpr ⟨at', hat⟩

/-- Of the commits of the pull request that ran in a deployment, the last one completed. -/
structure IsLatestCommit (commits : List PullRequestCommit) (row : PullRequest)
    (evidence : Evidence) (commit : PullRequestCommit) : Prop where
  mem : commit ∈ commits
  reaches : CommitReaches row commit evidence
  latest : ∀ other ∈ commits, CommitReaches row other evidence →
    holds (atMost other.committedAt commit.committedAt) = true

/-- The commit a pull request and a deployment are linked by, and when it was completed: the merge
commit if it ran, the latest commit otherwise. -/
inductive LinkStart (commits : List PullRequestCommit) (row : PullRequest) (evidence : Evidence) :
    LinkageType → Option Timestamp → Prop
  | merge : MergeReaches row evidence → LinkStart commits row evidence .mergeCommit row.mergedAt
  | commit {commit : PullRequestCommit} : ¬ MergeReaches row evidence →
      IsLatestCommit commits row evidence commit →
      LinkStart commits row evidence .pullRequestCommit commit.committedAt

theorem linkStart_unique {commits : List PullRequestCommit} {row : PullRequest}
    {evidence : Evidence} {type type' : LinkageType} {start start' : Option Timestamp}
    (h : LinkStart commits row evidence type start)
    (h' : LinkStart commits row evidence type' start') : type = type' ∧ start = start' := by
  cases h with
  | merge hmerge =>
      cases h' with
      | merge _ => exact ⟨rfl, rfl⟩
      | commit hnot _ => exact absurd hmerge hnot
  | commit hnot hlatest =>
      cases h' with
      | merge hmerge => exact absurd hmerge hnot
      | commit _ hlatest' =>
          -- Each of the two latest commits was completed no later than the other.
          have hle := hlatest.latest _ hlatest'.mem hlatest'.reaches
          have hge := hlatest'.latest _ hlatest.mem hlatest.reaches
          exact ⟨rfl, holds_atMost_antisymm hge hle⟩

/-- A deployment that ran some commit of a pull request is linked by one of them. -/
theorem exists_linkStart {commits : List PullRequestCommit} {row : PullRequest}
    {evidence : Evidence} (h : MergeReaches row evidence
      ∨ ∃ commit ∈ commits, CommitReaches row commit evidence) :
    ∃ type start, LinkStart commits row evidence type start := by
  by_cases hmerge : MergeReaches row evidence
  · exact ⟨_, _, .merge hmerge⟩
  · obtain ⟨commit, hcommit, hreaches⟩ := h.resolve_left hmerge
    have hmem : commit ∈ commits.filter fun other => CommitReaches row other evidence :=
      List.mem_filter.mpr ⟨hcommit, decide_eq_true hreaches⟩
    obtain ⟨latest, hfirst⟩ := exists_firstBy (descending compare PullRequestCommit.committedAt) hmem
    obtain ⟨hin, hran⟩ := List.mem_filter.mp (firstBy_mem hfirst)
    refine ⟨_, _, .commit hmerge ⟨hin, of_decide_eq_true hran, fun other hother hreaches' => ?_⟩⟩
    have hle := firstBy_isLE hfirst other
      (List.mem_filter.mpr ⟨hother, decide_eq_true hreaches'⟩)
    exact holds_atMost_of_isLE hreaches'.2.2.completed (of_decide_eq_true hran).2.2.completed hle

theorem reaches_of_linkStart {commits : List PullRequestCommit} {row : PullRequest}
    {evidence : Evidence} {type : LinkageType} {start : Option Timestamp}
    (h : LinkStart commits row evidence type start) : MergeReaches row evidence
      ∨ ∃ commit ∈ commits, CommitReaches row commit evidence := by
  cases h with
  | merge hmerge => exact Or.inl hmerge
  | commit _ hlatest => exact Or.inr ⟨_, hlatest.mem, hlatest.reaches⟩

/-! ## The rows of `int_change_to_deployment` -/

theorem isMerged_of_mergedAt {snapshots : List PullRequestSnapshot} {row : PullRequest}
    (hrow : row ∈ intPrLifecycle server snapshots) (h : row.mergedAt.isSome) :
    holds row.isMerged = true := by
  obtain ⟨⟨key, latest, rollup⟩, -, rfl⟩ := List.mem_map.mp hrow
  have hmerged : (coalesce [latest.mergedAt, rollup.observedMergedAt]).isSome := h
  show holds (equal (if (coalesce [latest.mergedAt, rollup.observedMergedAt]).isSome
    then some "merged" else latest.pullRequestState) (some "merged")) = true
  rw [if_pos hmerged]
  exact holds_equal.mpr ⟨"merged", rfl, rfl⟩

theorem isSuccessful_eq {deployments : List DeploymentSnapshot}
    {deploymentStatuses : List DeploymentStatusSnapshot} {deployment : ProductionDeployment}
    (h : deployment ∈ intProductionDeployments deployments deploymentStatuses) :
    deployment.isSuccessful = deployment.successfulAt.isSome := by
  rw [intProductionDeployments_eq] at h
  obtain ⟨⟨key, latest, rollup⟩, -, rfl⟩ := List.mem_map.mp h
  rfl

/-- A successful production deployment runs a change exactly if its evidence says that the
change's commit ran. -/
theorem runsChange_iff {row : PullRequest} {sha : Option String} {type : LinkageType}
    {completedAt : Option Timestamp} {deployment : ProductionDeployment}
    (hsuccess : deployment.isSuccessful = deployment.successfulAt.isSome) :
    runsChange (change row sha type completedAt) deployment = true
      ↔ Ran row.repositoryId sha completedAt (deploymentEvidence deployment) := by
  unfold runsChange Ran
  rw [Bool.and_eq_true, Bool.and_eq_true, Bool.and_eq_true, decide_eq_true_iff]
  constructor
  · rintro ⟨⟨⟨hrepository, hsha⟩, -⟩, htime⟩
    exact ⟨hrepository, hsha, htime⟩
  · rintro ⟨hrepository, hsha, htime⟩
    obtain ⟨_, success, -, hat, -⟩ := holds_atMost.mp htime
    have hat' : deployment.successfulAt = some success := hat
    refine ⟨⟨⟨hrepository, hsha⟩, ?_⟩, htime⟩
    rw [hsuccess, hat']
    rfl

section

variable {commits : List PullRequestCommit} {pullRequests : List PullRequest}
  {deployments : List ProductionDeployment}

theorem mem_candidateLinks {link : ChangeToDeployment} :
    link ∈ candidateLinks (changes commits pullRequests) deployments
      ↔ ∃ deployment ∈ deployments, ∃ row ∈ pullRequests, ∃ sha type completedAt,
          ((type = .mergeCommit ∧ sha = row.mergeCommitSha ∧ completedAt = row.mergedAt
              ∧ holds row.isMerged = true)
            ∨ ∃ commit ∈ commits, commitOfPullRequest commit row = true
              ∧ type = .pullRequestCommit ∧ sha = commit.commitSha
              ∧ completedAt = commit.committedAt)
          ∧ runsChange (change row sha type completedAt) deployment = true
          ∧ link = candidateLink (change row sha type completedAt) deployment := by
  unfold candidateLinks
  rw [List.mem_map]
  constructor
  · rintro ⟨⟨found, deployment⟩, hmem, rfl⟩
    obtain ⟨hchange, hdeployment, hruns⟩ := mem_innerJoin.mp hmem
    refine ⟨deployment, hdeployment, ?_⟩
    rcases List.mem_append.mp hchange with hin | hin
    · obtain ⟨row, hrow, rfl⟩ := List.mem_map.mp hin
      obtain ⟨hmem', hmerged⟩ := List.mem_filter.mp hrow
      rw [Bool.and_eq_true, Bool.and_eq_true] at hmerged
      exact ⟨row, hmem', _, _, _, Or.inl ⟨rfl, rfl, rfl, hmerged.1.1⟩, hruns, rfl⟩
    · obtain ⟨⟨commit, row⟩, hpair, rfl⟩ := List.mem_map.mp hin
      obtain ⟨hcommit, hrow, hon⟩ := mem_innerJoin.mp (List.mem_filter.mp hpair).1
      exact ⟨row, hrow, _, _, _, Or.inr ⟨commit, hcommit, hon, rfl, rfl, rfl⟩, hruns, rfl⟩
  · rintro ⟨deployment, hdeployment, row, hrow, sha, type, completedAt, hsource, hruns, rfl⟩
    refine ⟨(change row sha type completedAt, deployment),
      mem_innerJoin.mpr ⟨List.mem_append.mpr ?_, hdeployment, hruns⟩, rfl⟩
    -- The commit that ran has a SHA and a time, as the two `where` clauses ask.
    have hran := hruns
    unfold runsChange at hran
    rw [Bool.and_eq_true, Bool.and_eq_true, Bool.and_eq_true] at hran
    obtain ⟨_, hsha, -⟩ := holds_equal.mp hran.1.1.2
    obtain ⟨_, _, hat, -, -⟩ := holds_atMost.mp hran.2
    have hsha' : sha.isSome := Option.isSome_iff_exists.mpr ⟨_, hsha⟩
    have hat' : completedAt.isSome := Option.isSome_iff_exists.mpr ⟨_, hat⟩
    rcases hsource with ⟨rfl, rfl, rfl, hmerged⟩ | ⟨commit, hcommit, hon, rfl, rfl, rfl⟩
    · refine Or.inl (List.mem_map.mpr ⟨row, List.mem_filter.mpr ⟨hrow, ?_⟩, rfl⟩)
      rw [hmerged, hsha', hat']
      rfl
    · refine Or.inr (List.mem_map.mpr ⟨(commit, row),
        List.mem_filter.mpr ⟨mem_innerJoin.mpr ⟨hcommit, hrow, hon⟩, ?_⟩, rfl⟩)
      show (commit.commitSha.isSome && commit.committedAt.isSome) = true
      rw [hsha', hat']
      rfl

instance : Std.TransCmp linkageOrder := by
  unfold linkageOrder
  infer_instance

theorem linkageOrder_isLE {link other : ChangeToDeployment}
    (h : (linkageOrder link other).isLE) :
    link.change.linkageType.priority < other.change.linkageType.priority
    ∨ link.change.linkageType = other.change.linkageType
      ∧ (descending compare (fun row : ChangeToDeployment => row.change.changeCompletedAt)
          link other).isLE := by
  have hle : ((compare link.change.linkageType.priority other.change.linkageType.priority).then
      (descending compare (fun row : ChangeToDeployment => row.change.changeCompletedAt)
        link other)).isLE := h
  cases hlink : link.change.linkageType <;> cases hother : other.change.linkageType <;>
    rw [hlink, hother] at hle
  · exact Or.inr ⟨rfl, hle⟩
  · exact Or.inl (by decide)
  · cases hle
  · exact Or.inr ⟨rfl, hle⟩

/-- The link of a pull request and a deployment starts where `LinkStart` says. -/
theorem linkStart_of_mem (hdistinct : (pullRequests.map (·.pullRequestKey)).Nodup)
    (hkeys : (deployments.map (·.deploymentKey)).Nodup)
    (hsuccess : ∀ deployment ∈ deployments,
      deployment.isSuccessful = deployment.successfulAt.isSome)
    (hmerged : ∀ row ∈ pullRequests, row.mergedAt.isSome → holds row.isMerged = true)
    {row : PullRequest} (hrow : row ∈ pullRequests) {deployment : ProductionDeployment}
    (hdeployment : deployment ∈ deployments) {link : ChangeToDeployment}
    (hlink : link ∈ intChangeToDeployment commits pullRequests deployments)
    (hpullRequest : link.change.pullRequestKey = row.pullRequestKey)
    (hkey : link.deploymentKey = deployment.deploymentKey) :
    LinkStart commits row (deploymentEvidence deployment) link.change.linkageType
      link.change.changeCompletedAt := by
  have hfirst := mem_partitionFirst.mp hlink
  obtain ⟨found, hfound, source, hsource, sha, type, completedAt, hfrom, hruns, rfl⟩ :=
    mem_candidateLinks.mp (List.mem_filter.mp (firstBy_mem hfirst)).1
  obtain rfl : source = row := List.inj_on_of_nodup_map hdistinct hsource hrow hpullRequest
  obtain rfl : found = deployment := List.inj_on_of_nodup_map hkeys hfound hdeployment hkey
  have hran := (runsChange_iff (hsuccess found hfound)).mp hruns
  -- Every other change the deployment runs is a candidate of the same window.
  have hfirst' : ∀ sha' type' completedAt', ((type' = .mergeCommit ∧ sha' = source.mergeCommitSha
        ∧ completedAt' = source.mergedAt ∧ holds source.isMerged = true)
      ∨ ∃ commit ∈ commits, commitOfPullRequest commit source = true
        ∧ type' = .pullRequestCommit ∧ sha' = commit.commitSha
        ∧ completedAt' = commit.committedAt) →
      Ran source.repositoryId sha' completedAt' (deploymentEvidence found) →
      (linkageOrder (candidateLink (change source sha type completedAt) found)
        (candidateLink (change source sha' type' completedAt') found)).isLE := by
    intro sha' type' completedAt' hfrom' hran'
    refine firstBy_isLE hfirst _ (List.mem_filter.mpr ⟨mem_candidateLinks.mpr ?_, ?_⟩)
    · exact ⟨found, hfound, source, hsource, sha', type', completedAt', hfrom',
        (runsChange_iff (hsuccess found hfound)).mpr hran', rfl⟩
    · exact decide_eq_true rfl
  rcases hfrom with ⟨rfl, rfl, rfl, -⟩ | ⟨commit, hcommit, hon, rfl, rfl, rfl⟩
  · exact .merge hran
  · refine .commit (fun hmerge => ?_) ⟨hcommit, ⟨hon, rfl, hran⟩, fun other hother hreaches => ?_⟩
    · -- The merge would have been a candidate of a lower priority.
      rcases linkageOrder_isLE (hfirst' _ _ _
        (Or.inl ⟨rfl, rfl, rfl, hmerged source hsource hmerge.completed⟩) hmerge) with hlt | ⟨heq, -⟩
      · have hbefore : LinkageType.pullRequestCommit.priority < LinkageType.mergeCommit.priority :=
          hlt
        exact absurd hbefore (by decide)
      · cases heq
    · rcases linkageOrder_isLE (hfirst' _ _ _
        (Or.inr ⟨other, hother, hreaches.1, rfl, rfl, rfl⟩) hreaches.2.2) with hlt | ⟨-, hle⟩
      · exact absurd hlt (lt_irrefl LinkageType.pullRequestCommit.priority)
      · exact holds_atMost_of_isLE hreaches.2.2.completed hran.completed hle

/-- A deployment that ran some commit of a pull request is linked to it. -/
theorem exists_link (hmerged : ∀ row ∈ pullRequests, row.mergedAt.isSome →
      holds row.isMerged = true)
    {row : PullRequest} (hrow : row ∈ pullRequests) {deployment : ProductionDeployment}
    (hdeployment : deployment ∈ deployments)
    (hsuccess : deployment.isSuccessful = deployment.successfulAt.isSome)
    {type : LinkageType} {start : Option Timestamp}
    (hstart : LinkStart commits row (deploymentEvidence deployment) type start) :
    ∃ link ∈ intChangeToDeployment commits pullRequests deployments,
      link.change.pullRequestKey = row.pullRequestKey
      ∧ link.deploymentKey = deployment.deploymentKey := by
  have hcandidate : ∃ candidate ∈ candidateLinks (changes commits pullRequests) deployments,
      (candidate.change.pullRequestKey, candidate.deploymentKey)
        = (row.pullRequestKey, deployment.deploymentKey) := by
    cases hstart with
    | merge hmerge =>
        exact ⟨_, mem_candidateLinks.mpr ⟨deployment, hdeployment, row, hrow, _, _, _,
          Or.inl ⟨rfl, rfl, rfl, hmerged row hrow hmerge.completed⟩,
          (runsChange_iff hsuccess).mpr hmerge, rfl⟩, rfl⟩
    | commit _ hlatest =>
        obtain ⟨hon, -, hran⟩ := hlatest.reaches
        exact ⟨_, mem_candidateLinks.mpr ⟨deployment, hdeployment, row, hrow, _, _, _,
          Or.inr ⟨_, hlatest.mem, hon, rfl, rfl, rfl⟩,
          (runsChange_iff hsuccess).mpr hran, rfl⟩, rfl⟩
  obtain ⟨candidate, hmem, hkey⟩ := hcandidate
  have hkeys : (row.pullRequestKey, deployment.deploymentKey)
      ∈ (intChangeToDeployment commits pullRequests deployments).map fun link =>
        (link.change.pullRequestKey, link.deploymentKey) := by
    unfold intChangeToDeployment
    rw [map_partitionFirst, List.mem_dedup]
    exact List.mem_map.mpr ⟨candidate, hmem, hkey⟩
  obtain ⟨link, hlink, heq⟩ := List.mem_map.mp hkeys
  obtain ⟨hpullRequest, hdeploymentKey⟩ := Prod.mk.inj heq
  exact ⟨link, hlink, hpullRequest, hdeploymentKey⟩

end

/-! ## The links of a build -/

/-- Workflow runs are a configured proxy, never measured. -/
theorem configuredProxy_of_isMeasured {evidence : Evidence} {repository : DimRepository}
    (htype : evidence.evidenceType = .workflowRun)
    (h : (classified server evidence repository).isMeasured = true) :
    (classified server evidence repository).measurementStatus = .configuredProxy := by
  have hstatus : (classified server evidence repository).measurementStatus ≠ .measured := by
    unfold classified
    simp only [htype, ↓reduceIte]
    repeat' split
    all_goals decide
  unfold FctDeployment.isMeasured at h
  rw [Bool.or_eq_true, decide_eq_true_iff, decide_eq_true_iff] at h
  exact h.resolve_left hstatus

section

variable (server : Server) (seed : Seed) (staged : Staged)

theorem mergedAt_isMerged : ∀ row ∈ (build server seed staged).intPrLifecycle,
    row.mergedAt.isSome → holds row.isMerged = true := by
  rw [build_intPrLifecycle]
  exact fun row hrow => isMerged_of_mergedAt hrow

theorem production_isSuccessful : ∀ production ∈ (build server seed staged).intProductionDeployments,
    production.isSuccessful = production.successfulAt.isSome := by
  rw [build_intProductionDeployments]
  exact fun production hproduction => isSuccessful_eq hproduction

end

section

variable {seed : Seed} {events : List RawEvent} {staged : Staged}

/-- The links of `fct_pull_requests` over one build. -/
def buildLinks (server : Server) (seed : Seed) (staged : Staged) : List CandidateLink :=
  allLinks (build server seed staged).intPrLifecycle
    (build server seed staged).intChangeToDeployment (build server seed staged).fctDeployments

/-- The deployment counts, and ran the merge commit of the pull request or one of its commits. -/
def Reaches (staged : Staged) (row : PullRequest) (deployment : FctDeployment) : Prop :=
  deployment.isMeasured = true
    ∧ (MergeReaches row deployment.toEvidence
      ∨ ∃ commit ∈ staged.pullRequestCommits, CommitReaches row commit deployment.toEvidence)

theorem toEvidence_mem {deployment : FctDeployment}
    (h : deployment ∈ (build server seed staged).fctDeployments) :
    (∃ production ∈ (build server seed staged).intProductionDeployments,
      deployment.toEvidence = deploymentEvidence production)
    ∨ deployment.evidenceType = .workflowRun := by
  have hmem : deployment.toEvidence ∈ (build server seed staged).fctDeployments.map (·.toEvidence) :=
    List.mem_map_of_mem h
  rw [map_toEvidence_build, ← build_intProductionDeployments] at hmem
  rcases List.mem_append.mp hmem with hin | hin
  · obtain ⟨production, hproduction, heq⟩ := List.mem_map.mp hin
    exact Or.inl ⟨production, hproduction, heq.symm⟩
  · obtain ⟨_, _, _, -, -, heq⟩ := mem_workflowEvidenceRows.mp hin
    refine Or.inr ?_
    rw [heq]
    rfl

/-- Evidence is told by its key. -/
theorem toEvidence_eq (h : staging server events = .ok staged) {production : ProductionDeployment}
    (hproduction : production ∈ (build server seed staged).intProductionDeployments)
    {deployment : FctDeployment} (hdeployment : deployment ∈ (build server seed staged).fctDeployments)
    (hkey : production.deploymentKey = deployment.deploymentKey) :
    deployment.toEvidence = deploymentEvidence production := by
  have hmem : deploymentEvidence production
      ∈ (build server seed staged).fctDeployments.map (·.toEvidence) := by
    rw [map_toEvidence_build, ← build_intProductionDeployments]
    exact List.mem_append_left _ (List.mem_map_of_mem hproduction)
  obtain ⟨other, hother, heq⟩ := List.mem_map.mp hmem
  have hotherKey : other.deploymentKey = deployment.deploymentKey := by
    rw [heq]
    exact hkey
  rw [← List.inj_on_of_nodup_map (fctDeployments_nodup h) hother hdeployment hotherKey, heq]

/-- A link of a pull request is to a deployment that counts and ran it. -/
theorem linkStart_of_mem_buildLinks (h : staging server events = .ok staged) {row : PullRequest}
    (hrow : row ∈ (build server seed staged).intPrLifecycle) {link : CandidateLink}
    (hlink : link ∈ buildLinks server seed staged) (hkey : link.pullRequestKey = row.pullRequestKey) :
    ∃ deployment ∈ (build server seed staged).fctDeployments, deployment.isMeasured = true
      ∧ ∃ type start, LinkStart staged.pullRequestCommits row deployment.toEvidence type start
        ∧ link = linkTo row.pullRequestKey type start deployment := by
  have hpullRequests := pullRequests_nodup server seed staged
  unfold buildLinks allLinks at hlink
  rcases List.mem_append.mp hlink with hstatus | hrun
  · -- A link of `int_change_to_deployment`, joined to the fact of its deployment.
    obtain ⟨⟨found, deployment⟩, hpair, rfl⟩ := List.mem_map.mp hstatus
    obtain ⟨hfound, hdeployment, hon⟩ := mem_innerJoin.mp hpair
    rw [Bool.and_eq_true, decide_eq_true_iff] at hon
    obtain ⟨heq, hmeasured⟩ := hon
    refine ⟨deployment, hdeployment, hmeasured, found.change.linkageType,
      found.change.changeCompletedAt, ?_, ?_⟩
    · rw [build_intChangeToDeployment] at hfound
      obtain ⟨production, hmem, _, -, _, _, _, -, -, hcandidate⟩ :=
        mem_candidateLinks.mp (partitionFirst_subset hfound)
      have hproductionKey : found.deploymentKey = production.deploymentKey := by rw [hcandidate]; rfl
      rw [toEvidence_eq h hmem hdeployment (hproductionKey.symm.trans heq)]
      exact linkStart_of_mem hpullRequests (productions_nodup server seed staged)
        (production_isSuccessful server seed staged) (mergedAt_isMerged server seed staged)
        hrow hmem hfound hkey hproductionKey
    · rw [← hkey]
      rfl
  · -- A workflow run that ran the merge commit.
    obtain ⟨⟨source, deployment⟩, hpair, rfl⟩ := List.mem_map.mp hrun
    obtain ⟨hsource, hdeployment, hon⟩ := mem_innerJoin.mp (List.mem_filter.mp hpair).1
    obtain rfl : source = row := List.inj_on_of_nodup_map hpullRequests hsource hrow hkey
    unfold runsMerge at hon
    simp only [Bool.and_eq_true, decide_eq_true_iff] at hon
    obtain ⟨⟨⟨⟨hrepository, hsha⟩, htime⟩, hproxy⟩, -⟩ := hon
    refine ⟨deployment, hdeployment, ?_, .mergeCommit, source.mergedAt,
      .merge ⟨hrepository, hsha, htime⟩, rfl⟩
    unfold FctDeployment.isMeasured
    rw [hproxy]
    rfl

/-- A workflow run that ran the merge commit, and counts, is linked to the pull request. -/
theorem mem_buildLinks_of_workflowRun {row : PullRequest}
    (hrow : row ∈ (build server seed staged).intPrLifecycle) {deployment : FctDeployment}
    (hdeployment : deployment ∈ (build server seed staged).fctDeployments)
    (hworkflow : deployment.evidenceType = .workflowRun) (hmeasured : deployment.isMeasured = true)
    (hmerge : MergeReaches row deployment.toEvidence) :
    linkTo row.pullRequestKey .mergeCommit row.mergedAt deployment
      ∈ buildLinks server seed staged := by
  have hmergedAt := hmerge.completed
  obtain ⟨hrepository, hsha, htime⟩ := hmerge
  obtain ⟨sha, hcommit, -⟩ := holds_equal.mp hsha
  obtain ⟨evidence, repository, -, -, rfl⟩ :=
    mem_build_fctDeployments server seed staged hdeployment
  have hproxy := configuredProxy_of_isMeasured hworkflow hmeasured
  unfold buildLinks allLinks
  refine List.mem_append_right _ (List.mem_map.mpr ⟨(row, classified server evidence repository),
    List.mem_filter.mpr ⟨mem_innerJoin.mpr ⟨hrow, hdeployment, ?_⟩, ?_⟩, rfl⟩)
  · unfold runsMerge
    simp only [Bool.and_eq_true, decide_eq_true_iff]
    exact ⟨⟨⟨⟨hrepository, hsha⟩, htime⟩, hproxy⟩, hworkflow⟩
  · show (holds row.isMerged && row.mergedAt.isSome && row.mergeCommitSha.isSome) = true
    rw [mergedAt_isMerged server seed staged row hrow hmergedAt, hmergedAt, hcommit]
    rfl

/-- A production deployment that ran the pull request, and counts, is linked to it. -/
theorem mem_buildLinks_of_production {row : PullRequest}
    (hrow : row ∈ (build server seed staged).intPrLifecycle) {deployment : FctDeployment}
    (hdeployment : deployment ∈ (build server seed staged).fctDeployments)
    (hmeasured : deployment.isMeasured = true) {production : ProductionDeployment}
    (hmem : production ∈ (build server seed staged).intProductionDeployments)
    (hevidence : deployment.toEvidence = deploymentEvidence production)
    {type : LinkageType} {start : Option Timestamp}
    (hstart : LinkStart staged.pullRequestCommits row deployment.toEvidence type start) :
    linkTo row.pullRequestKey type start deployment ∈ buildLinks server seed staged := by
  have hmerged := mergedAt_isMerged server seed staged
  have hsuccess := production_isSuccessful server seed staged
  rw [hevidence] at hstart
  obtain ⟨found, hfound, hkey, hproductionKey⟩ :=
    exists_link hmerged hrow hmem (hsuccess production hmem) hstart
  have hfoundStart := linkStart_of_mem (pullRequests_nodup server seed staged)
    (productions_nodup server seed staged) hsuccess hmerged hrow hmem hfound hkey hproductionKey
  -- Both are what this deployment is linked by.
  obtain ⟨rfl, rfl⟩ := linkStart_unique hstart hfoundStart
  rw [← build_intChangeToDeployment] at hfound
  have hdeploymentKey : deployment.deploymentKey = production.deploymentKey := by
    rw [hevidence]
    rfl
  unfold buildLinks allLinks
  refine List.mem_append_left _ (List.mem_map.mpr ⟨(found, deployment),
    mem_innerJoin.mpr ⟨hfound, hdeployment, ?_⟩, ?_⟩)
  · rw [hmeasured, hproductionKey, hdeploymentKey]
    simp
  · rw [← hkey]

/-- The links of one pull request: one for each deployment that counts and reaches it. -/
theorem mem_buildLinks (h : staging server events = .ok staged) {row : PullRequest}
    (hrow : row ∈ (build server seed staged).intPrLifecycle) {link : CandidateLink} :
    link ∈ buildLinks server seed staged ∧ link.pullRequestKey = row.pullRequestKey
      ↔ ∃ deployment ∈ (build server seed staged).fctDeployments, deployment.isMeasured = true
        ∧ ∃ type start, LinkStart staged.pullRequestCommits row deployment.toEvidence type start
          ∧ link = linkTo row.pullRequestKey type start deployment := by
  constructor
  · rintro ⟨hlink, hkey⟩
    exact linkStart_of_mem_buildLinks h hrow hlink hkey
  · rintro ⟨deployment, hdeployment, hmeasured, type, start, hstart, rfl⟩
    refine ⟨?_, rfl⟩
    rcases toEvidence_mem hdeployment with ⟨production, hmem, hevidence⟩ | hworkflow
    · exact mem_buildLinks_of_production hrow hdeployment hmeasured hmem hevidence hstart
    · cases hstart with
      | merge hmerge => exact mem_buildLinks_of_workflowRun hrow hdeployment hworkflow hmeasured hmerge
      | commit _ hlatest =>
        -- Only deployment statuses are linked by commits.
        have hstatus := hlatest.reaches.2.1
        rw [hworkflow] at hstatus
        cases hstatus

/-! ## The selected link -/

/-- `order by deployed_at, deployment_key`, over deployments. -/
def successOrder (server : Server) : FctDeployment → FctDeployment → Ordering :=
  compareLex (ascending compare fun row => row.successfulAt)
    (ascending server.compareText fun row => some row.deploymentKey)

/-- The first deployment that counts and ran some commit of the pull request. -/
structure FirstReached (server : Server) (seed : Seed) (staged : Staged) (row : PullRequest)
    (deployment : FctDeployment) : Prop where
  mem : deployment ∈ (build server seed staged).fctDeployments
  reaches : Reaches staged row deployment
  first : ∀ other ∈ (build server seed staged).fctDeployments, Reaches staged row other →
    (successOrder server deployment other).isLE

instance : Std.TransCmp (linkOrder server) := by
  unfold linkOrder
  infer_instance

theorem deploymentKey_of_linkOrder {link other : CandidateLink}
    (h : linkOrder server link other = .eq) : link.deploymentKey = other.deploymentKey := by
  unfold linkOrder at h
  rw [compareLex_eq_eq] at h
  have hkey : server.compareText link.deploymentKey other.deploymentKey = .eq := h.2
  exact Std.LawfulEqCmp.eq_of_compare hkey

theorem exists_row_of_mem_buildLinks {link : CandidateLink}
    (h : link ∈ buildLinks server seed staged) :
    ∃ row ∈ (build server seed staged).intPrLifecycle, link.pullRequestKey = row.pullRequestKey := by
  rcases List.mem_append.mp h with hlink | hlink
  · obtain ⟨⟨found, deployment⟩, hpair, rfl⟩ := List.mem_map.mp hlink
    obtain ⟨hfound, -, -⟩ := mem_innerJoin.mp hpair
    rw [build_intChangeToDeployment] at hfound
    obtain ⟨_, -, row, hrow, _, _, _, -, -, rfl⟩ :=
      mem_candidateLinks.mp (partitionFirst_subset hfound)
    exact ⟨row, hrow, rfl⟩
  · obtain ⟨⟨row, deployment⟩, hpair, rfl⟩ := List.mem_map.mp hlink
    exact ⟨row, (mem_innerJoin.mp (List.mem_filter.mp hpair).1).1, rfl⟩

/-- Two links of one pull request with the same deployment are one link. -/
theorem buildLinks_apart (h : staging server events = .ok staged) {a b : CandidateLink}
    (ha : a ∈ buildLinks server seed staged) (hb : b ∈ buildLinks server seed staged)
    (hkey : a.pullRequestKey = b.pullRequestKey) (heq : linkOrder server a b = .eq) : a = b := by
  obtain ⟨row, hrow, hrowKey⟩ := exists_row_of_mem_buildLinks ha
  obtain ⟨deployment, hdeployment, -, type, start, hstart, rfl⟩ :=
    (mem_buildLinks h hrow).mp ⟨ha, hrowKey⟩
  obtain ⟨deployment', hdeployment', -, type', start', hstart', rfl⟩ :=
    (mem_buildLinks h hrow).mp ⟨hb, hkey.symm.trans hrowKey⟩
  obtain rfl : deployment = deployment' := List.inj_on_of_nodup_map (fctDeployments_nodup h)
    hdeployment hdeployment' (deploymentKey_of_linkOrder heq)
  obtain ⟨rfl, rfl⟩ := linkStart_unique hstart hstart'
  rfl

/-- A pull request with a candidate link has a selected one. -/
theorem exists_selectedLink {key : String} {link : CandidateLink}
    (hlink : link ∈ buildLinks server seed staged) (hkey : link.pullRequestKey = key) :
    ∃ selected, ((selectedLinks server (buildLinks server seed staged)).find? fun other =>
      key = other.pullRequestKey) = some selected := by
  unfold selectedLinks
  rw [find?_partitionFirst]
  exact exists_firstBy (linkOrder server)
    (List.mem_filter.mpr ⟨hlink, decide_eq_true hkey⟩)

/-- The link joined to a pull request is that of the first deployment that reached it. -/
theorem selectedLink_iff (h : staging server events = .ok staged) {row : PullRequest}
    (hrow : row ∈ (build server seed staged).intPrLifecycle) {link : CandidateLink} :
    ((selectedLinks server (buildLinks server seed staged)).find? fun other =>
        row.pullRequestKey = other.pullRequestKey) = some link
      ↔ ∃ deployment type start, FirstReached server seed staged row deployment
        ∧ LinkStart staged.pullRequestCommits row deployment.toEvidence type start
        ∧ link = linkTo row.pullRequestKey type start deployment := by
  have hmem : ∀ {other : CandidateLink}, other ∈ (buildLinks server seed staged).filter
        (fun other => other.pullRequestKey = row.pullRequestKey)
      ↔ ∃ deployment ∈ (build server seed staged).fctDeployments, deployment.isMeasured = true
        ∧ ∃ type start, LinkStart staged.pullRequestCommits row deployment.toEvidence type start
          ∧ other = linkTo row.pullRequestKey type start deployment := by
    intro other
    rw [List.mem_filter, decide_eq_true_iff]
    exact mem_buildLinks h hrow
  have htotal : ∀ a ∈ (buildLinks server seed staged).filter
        (fun other => other.pullRequestKey = row.pullRequestKey),
      ∀ b ∈ (buildLinks server seed staged).filter
        (fun other => other.pullRequestKey = row.pullRequestKey),
      linkOrder server a b = .eq → a = b := by
    intro a ha b hb heq
    obtain ⟨hin, hkey⟩ := List.mem_filter.mp ha
    obtain ⟨hin', hkey'⟩ := List.mem_filter.mp hb
    exact buildLinks_apart h hin hin'
      ((of_decide_eq_true hkey).trans (of_decide_eq_true hkey').symm) heq
  unfold selectedLinks
  rw [find?_partitionFirst, firstBy_eq_some_iff htotal, hmem]
  constructor
  · rintro ⟨⟨deployment, hdeployment, hmeasured, type, start, hstart, rfl⟩, hfirst⟩
    refine ⟨deployment, type, start, ⟨hdeployment, ⟨hmeasured, ?_⟩, ?_⟩, hstart, rfl⟩
    · exact reaches_of_linkStart hstart
    · intro other hother hreaches
      obtain ⟨type', start', hstart'⟩ := exists_linkStart hreaches.2
      exact hfirst _ (hmem.mpr ⟨other, hother, hreaches.1, type', start', hstart', rfl⟩)
  · rintro ⟨deployment, type, start, hfirst, hstart, rfl⟩
    refine ⟨⟨deployment, hfirst.mem, hfirst.reaches.1, type, start, hstart, rfl⟩, ?_⟩
    intro other hother
    obtain ⟨deployment', hdeployment', hmeasured', type', start', hstart', rfl⟩ := hmem.mp hother
    exact hfirst.first deployment' hdeployment' ⟨hmeasured', reaches_of_linkStart hstart'⟩

end

/-! ## Merge to production -/

/-- `is_eligible_change`, of the pull request itself. -/
def PullRequest.isEligibleChange (row : PullRequest) : Bool :=
  holds row.isMerged && row.mergedAt.isSome && holds (atMost row.createdAt row.mergedAt)

/-- The lead time of a fact is its time from merge to production, which came after the merge. -/
structure FromMerge (fact : FctPullRequest) : Prop where
  deployed_after_merge : holds (atMost fact.mergedAt fact.deployedAt) = true
  leadTime_eq : fact.leadTimeSeconds = secondsBetween fact.deployedAt fact.mergedAt

section

variable (server : Server) (seed : Seed) (staged : Staged)

/-- The linked changes of a repository that merged on one of its dates. -/
def linkedOn (repository : DimRepository) (day : Int) : List FctPullRequest :=
  (build server seed staged).fctPullRequests.filter fun fact =>
    (decide (fact.repositoryId = repository.repositoryId) && fact.isLinkedChange)
      && decide (mergeDate server fact repository = some day)

/-- The seconds from merge to production of these changes. -/
def mergeToProduction (repository : DimRepository) (day : Int) : List Int :=
  ((linkedOn server seed staged repository day).map fun fact =>
    secondsBetween fact.deployedAt fact.mergedAt).reduceOption

/-- Lead time is measured from merge: in every linked change, and so in the daily average. -/
structure LeadTimeFromMerge : Prop where
  facts : ∀ fact ∈ (build server seed staged).fctPullRequests, fact.isLinkedChange = true →
    FromMerge fact
  daily : ∀ row ∈ (build server seed staged).fctDeliveryPerformanceDaily,
    row.metricName = .changeLeadTime → ∀ value, row.metricValue = some value →
      ∃ repository ∈ (build server seed staged).dimRepository,
        repository.repositoryId = row.repositoryId
        ∧ (∀ seconds ∈ mergeToProduction server seed staged repository row.dateDay, 0 ≤ seconds)
        ∧ (average (mergeToProduction server seed staged repository row.dateDay)).map (roundedTo 6)
          = some value

/-- The merge commit ran in the deployment, or the deployment came after the merge and the latest
commit it ran was completed at the second of the merge. -/
def StartsAtMerge (row : PullRequest) (deployment : FctDeployment) : Prop :=
  MergeReaches row deployment.toEvidence
  ∨ ∃ commit, IsLatestCommit staged.pullRequestCommits row deployment.toEvidence commit
    ∧ holds (atMost row.mergedAt deployment.successfulAt) = true
    ∧ secondsBetween deployment.successfulAt commit.committedAt
      = secondsBetween deployment.successfulAt row.mergedAt

end

section

variable {seed : Seed} {events : List RawEvent} {staged : Staged}

theorem fromMerge_iff {row : PullRequest} {review : Option FirstEligibleReview}
    {repository : DimRepository} {deployment : FctDeployment} {type : LinkageType}
    {start : Option Timestamp}
    (hstart : LinkStart staged.pullRequestCommits row deployment.toEvidence type start) :
    FromMerge (fctPullRequest row review repository
        (some (linkTo row.pullRequestKey type start deployment)))
      ↔ StartsAtMerge staged row deployment := by
  have hfact : FromMerge (fctPullRequest row review repository
        (some (linkTo row.pullRequestKey type start deployment)))
      ↔ holds (atMost row.mergedAt deployment.successfulAt) = true
        ∧ secondsBetween deployment.successfulAt start
          = secondsBetween deployment.successfulAt row.mergedAt :=
    ⟨fun h => ⟨h.deployed_after_merge, h.leadTime_eq⟩, fun h => ⟨h.1, h.2⟩⟩
  rw [hfact]
  unfold StartsAtMerge
  cases hstart with
  | merge hmerge => exact ⟨fun _ => Or.inl hmerge, fun _ => ⟨hmerge.2.2, rfl⟩⟩
  | commit hnot hlatest =>
      constructor
      · rintro ⟨hafter, hequal⟩
        exact Or.inr ⟨_, hlatest, hafter, hequal⟩
      · rintro (hmerge | ⟨commit, hlatest', hafter, hequal⟩)
        · exact absurd hmerge hnot
        · obtain ⟨-, hsame⟩ := linkStart_unique (.commit hnot hlatest) (.commit hnot hlatest')
          rw [hsame]
          exact ⟨hafter, hequal⟩

/-- The linked changes in the group of a date are those that merged on it. -/
theorem linked_joined {repository : DimRepository} {day : Int}
    (hrepository : repository ∈ (build server seed staged).dimRepository) :
    (((((innerJoin (fun (fact : FctPullRequest) (repository : DimRepository) =>
        decide (fact.repositoryId = repository.repositoryId))
        (build server seed staged).fctPullRequests (build server seed staged).dimRepository).filter
        fun (fact, _) => fact.mergedAt.isSome).filter fun (fact, other) =>
          decide ((fact.repositoryId, mergeDate server fact other)
            = (repository.repositoryId, some day))).filter
        fun (fact, _) => fact.isLinkedChange).map Prod.fst)
      = linkedOn server seed staged repository day := by
  have hjoined := filter_joined (mergeDate server)
    FctPullRequest.isLinkedChange day (repositories_nodup server seed staged)
    (fctPullRequest_known server seed staged) hrepository
  unfold linkedOn
  rw [← hjoined, List.filter_filter, List.filter_filter, List.filter_filter]
  -- the query drops the pull requests that are not merged, and none of them is a linked change
  refine congrArg (List.map Prod.fst) (List.filter_congr ?_)
  rintro ⟨fact, other⟩ hmem
  have hmerged := eligible_has_merge server seed staged fact (mem_innerJoin.mp hmem).1
  cases hlinked : fact.isLinkedChange with
  | false => simp [hlinked]
  | true =>
      have heligible : holds fact.isEligibleChange = true := by
        unfold FctPullRequest.isLinkedChange at hlinked
        rw [Bool.and_eq_true] at hlinked
        exact hlinked.1
      simp [hlinked, hmerged heligible]

/-- The average of one date is over the linked changes that merged on it. -/
theorem averageLeadTime_inputsOn {repository : DimRepository} {date : DimDate}
    (hrepository : repository ∈ (build server seed staged).dimRepository) :
    (inputsOn server (build server seed staged).fctDeployments
        (build server seed staged).fctPullRequests (build server seed staged).dimRepository
        ⟨repository, date⟩).averageLeadTimeSeconds
      = average ((linkedOn server seed staged repository date.dateDay).map
          (·.leadTimeSeconds)).reduceOption := by
  show ((changeDaily server (build server seed staged).fctPullRequests
    (build server seed staged).dimRepository).find? (isOn ⟨repository, date⟩)).bind
    (·.2.averageLeadTimeSeconds) = _
  rw [isOn_eq]
  unfold changeDaily
  rw [bind_find?_groupBy (f := ChangeDaily.averageLeadTimeSeconds) rfl, ← linked_joined hrepository,
    List.map_map]
  rfl

/-- The linked changes of one date are counted. -/
theorem linkedChangeCount_inputsOn {repository : DimRepository} {date : DimDate}
    (hrepository : repository ∈ (build server seed staged).dimRepository) :
    (inputsOn server (build server seed staged).fctDeployments
        (build server seed staged).fctPullRequests (build server seed staged).dimRepository
        ⟨repository, date⟩).linkedChangeCount
      = (linkedOn server seed staged repository date.dateDay).length := by
  show (((changeDaily server (build server seed staged).fctPullRequests
    (build server seed staged).dimRepository).find? (isOn ⟨repository, date⟩)).map
    (·.2.linkedChangeCount)).getD 0 = _
  rw [isOn_eq]
  unfold changeDaily
  rw [getD_find?_groupBy (f := ChangeDaily.linkedChangeCount) rfl, ← linked_joined hrepository,
    List.length_map, ← List.countP_eq_length_filter]

theorem holds_isEligibleChange {row : PullRequest} {review : Option FirstEligibleReview}
    {repository : DimRepository} {link : Option CandidateLink} :
    holds (fctPullRequest row review repository link).isEligibleChange = row.isEligibleChange := by
  show holds (both (both row.isMerged (some row.mergedAt.isSome))
    (atMost row.createdAt row.mergedAt)) = _
  rw [holds_both, holds_both, holds_some]
  rfl

theorem secondsBetween_nonneg {later earlier : Option Timestamp} {seconds : Int}
    (hafter : holds (atMost earlier later) = true)
    (h : secondsBetween later earlier = some seconds) : 0 ≤ seconds := by
  obtain ⟨start, finish, hstart, hfinish, hle⟩ := holds_atMost.mp hafter
  rw [hstart, hfinish] at h
  have hseconds : wholeSeconds (finish - start) = seconds := Option.some.inj h
  rw [← hseconds]
  exact wholeSeconds_nonneg (sub_nonneg.mpr hle)

/-- Where every linked change is measured from merge, the daily average is one of merge-to-production
times. -/
theorem daily_of_facts (hfacts : ∀ fact ∈ (build server seed staged).fctPullRequests,
      fact.isLinkedChange = true → FromMerge fact) :
    LeadTimeFromMerge server seed staged where
  facts := hfacts
  daily := by
    intro row hrow hmetric value hvalue
    have hlinked : ∀ repository day, ∀ fact ∈ linkedOn server seed staged repository day,
        FromMerge fact := by
      intro repository day fact hfact
      obtain ⟨hmem, hon⟩ := List.mem_filter.mp hfact
      rw [Bool.and_eq_true, Bool.and_eq_true] at hon
      exact hfacts fact hmem hon.1.2
    obtain ⟨repository, hrepository, date, -, metric, rfl⟩ := mem_build_daily.mp hrow
    obtain rfl : metric = .changeLeadTime := hmetric
    refine ⟨repository, hrepository, rfl, ?_, ?_⟩
    · intro seconds hseconds
      obtain ⟨fact, hfact, hsome⟩ := List.mem_map.mp (List.reduceOption_mem_iff.mp hseconds)
      exact secondsBetween_nonneg (hlinked _ _ fact hfact).deployed_after_merge hsome
    · have hinputs : (metricValue (inputsOn server (build server seed staged).fctDeployments
          (build server seed staged).fctPullRequests (build server seed staged).dimRepository
          ⟨repository, date⟩) .changeLeadTime).map (roundedTo 6) = some value := hvalue
      have hleadTimes : (linkedOn server seed staged repository date.dateDay).map
            (·.leadTimeSeconds)
          = (linkedOn server seed staged repository date.dateDay).map fun fact =>
            secondsBetween fact.deployedAt fact.mergedAt :=
        List.map_congr_left fun fact hfact => (hlinked _ _ fact hfact).leadTime_eq
      unfold metricValue at hinputs
      simp only at hinputs
      split at hinputs
      · rw [averageLeadTime_inputsOn hrepository, hleadTimes] at hinputs
        exact hinputs
      · cases hinputs

/-- **Where lead time is measured from merge**: everywhere, exactly if the first deployment that
reached each eligible pull request ran its merge commit, or gives its latest commit the time from
merge. -/
theorem leadTimeFromMerge_iff (h : staging server events = .ok staged) :
    LeadTimeFromMerge server seed staged
      ↔ ∀ row ∈ (build server seed staged).intPrLifecycle, row.isEligibleChange = true →
          ∀ deployment, FirstReached server seed staged row deployment →
            StartsAtMerge staged row deployment := by
  constructor
  · intro hall row hrow heligible deployment hfirst
    obtain ⟨type, start, hstart⟩ := exists_linkStart hfirst.reaches.2
    have hlink := (selectedLink_iff h hrow).mpr ⟨deployment, type, start, hfirst, hstart, rfl⟩
    obtain ⟨repository, -, hfact⟩ := exists_fctPullRequest server seed staged hrow
    unfold buildLinks at hlink
    rw [hlink] at hfact
    refine (fromMerge_iff hstart).mp (hall.facts _ hfact ?_)
    unfold FctPullRequest.isLinkedChange
    rw [holds_isEligibleChange, heligible]
    rfl
  · intro hcondition
    refine daily_of_facts fun fact hfact hlinked => ?_
    obtain ⟨row, hrow, repository, -, -, rfl⟩ :=
      (mem_build_fctPullRequests server seed staged).mp hfact
    unfold FctPullRequest.isLinkedChange at hlinked
    rw [holds_isEligibleChange, Bool.and_eq_true] at hlinked
    obtain ⟨heligible, hlink⟩ := hlinked
    obtain ⟨link, hlink⟩ := Option.isSome_iff_exists.mp hlink
    obtain ⟨deployment, type, start, hfirst, hstart, heq⟩ := (selectedLink_iff h hrow).mp hlink
    rw [hlink, heq]
    exact (fromMerge_iff hstart).mpr (hcondition row hrow heligible deployment hfirst)

end

/-- A server that knows three hours of 24 July 2026. -/
def hourServer : Server :=
  smallServer [("2026-07-24T08:00:00Z", july24 8), ("2026-07-24T09:00:00Z", july24 9),
    ("2026-07-24T12:00:00Z", july24 12)] []

/-- A pull request created at 8, with a commit of 9, merged at 12. -/
def mergedAtNoon : List RawEvent :=
  [ demoEvent 1 "pull_request" 0
      [("pull_request", .object
        [("number", .number 17 0), ("node_id", .string "PR_17"), ("state", .string "closed"),
          ("created_at", .string "2026-07-24T08:00:00Z"),
          ("merged_at", .string "2026-07-24T12:00:00Z"),
          ("merge_commit_sha", .string "def")])]
  , demoEvent 2 "pull_request_commit" 0
      [("pull_request_id", .string "PR_17"),
        ("pull_request_commit", .object
          [("commit", .object
            [("oid", .string "abc"), ("committedDate", .string "2026-07-24T09:00:00Z")])])] ]

/-- The commit of the branch is deployed at 10, two hours before the merge: the fact has a lead
time of one hour, from the commit. -/
theorem deployed_before_merge :
    ∃ staged, staging hourServer
        (mergedAtNoon ++ demoDeployment 3 (july24 10) "abc") = .ok staged
      ∧ (demoSeed "UTC").Tests
      ∧ (∃ fact ∈ (build hourServer (demoSeed "UTC") staged).fctPullRequests,
          fact.isLinkedChange = true
          ∧ fact.mergedAt = some (july24 12)
          ∧ fact.deployedAt = some (july24 10)
          ∧ fact.leadTimeSeconds = some 3600)
      ∧ ¬ LeadTimeFromMerge hourServer (demoSeed "UTC") staged := by
  have hrun : ∃ staged, staging hourServer
        (mergedAtNoon ++ demoDeployment 3 (july24 10) "abc")
          = .ok staged
      ∧ ∃ fact ∈ (build hourServer (demoSeed "UTC") staged).fctPullRequests,
        fact.isLinkedChange = true
        ∧ fact.mergedAt = some (july24 12)
        ∧ fact.deployedAt = some (july24 10)
        ∧ fact.leadTimeSeconds = some 3600 := by
    decide +kernel
  obtain ⟨staged, h, fact, hfact, hlinked, hmerged, hdeployed, hlead⟩ := hrun
  refine ⟨staged, h, demoSeed_tests _, ⟨fact, hfact, hlinked, hmerged, hdeployed, hlead⟩,
    fun hall => ?_⟩
  have hafter := (hall.facts fact hfact hlinked).deployed_after_merge
  rw [hmerged, hdeployed] at hafter
  exact absurd hafter (by decide)

/-- The merge commit deployed at 15 gives the time from merge. -/
theorem leadTimeFromMerge_iff_merge :
    ∃ staged, staging hourServer
        (mergedAtNoon ++ demoDeployment 3 (july24 15) "def") = .ok staged
      ∧ (∃ fact ∈ (build hourServer (demoSeed "UTC") staged).fctPullRequests,
          fact.isLinkedChange = true ∧ fact.leadTimeSeconds = some 10800)
      ∧ LeadTimeFromMerge hourServer (demoSeed "UTC") staged
      ∧ ∀ row ∈ (build hourServer (demoSeed "UTC") staged).intPrLifecycle,
          row.isEligibleChange = true →
          ∀ deployment, FirstReached hourServer (demoSeed "UTC") staged row deployment →
            StartsAtMerge staged row deployment := by
  have hrun : ∃ staged, staging hourServer
        (mergedAtNoon ++ demoDeployment 3 (july24 15) "def")
          = .ok staged
      ∧ (∃ fact ∈ (build hourServer (demoSeed "UTC") staged).fctPullRequests,
          fact.isLinkedChange = true ∧ fact.leadTimeSeconds = some 10800)
      ∧ ∀ fact ∈ (build hourServer (demoSeed "UTC") staged).fctPullRequests,
          fact.isLinkedChange = true → holds (atMost fact.mergedAt fact.deployedAt) = true
            ∧ fact.leadTimeSeconds = secondsBetween fact.deployedAt fact.mergedAt := by
    decide +kernel
  obtain ⟨staged, h, hlinked, hfacts⟩ := hrun
  have hall : LeadTimeFromMerge hourServer (demoSeed "UTC") staged :=
    daily_of_facts fun fact hfact hlinked =>
      ⟨(hfacts fact hfact hlinked).1, (hfacts fact hfact hlinked).2⟩
  exact ⟨staged, h, hlinked, hall, (leadTimeFromMerge_iff h).mp hall⟩

end Dbt
