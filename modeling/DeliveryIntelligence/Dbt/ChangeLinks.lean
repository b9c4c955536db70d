import DeliveryIntelligence.Dbt.LeadTime

set_option autoImplicit false

/-!
# Which changes are linked

A pull request is linked to a deployment by its merge commit or by one of its commits. The query
of the commits does not ask whether the pull request is merged (`linksAreMerged_iff`), and
`fct_pull_requests` selects the link of the first deployment, whatever it is linked by
(`mergeCommitPreferred_iff`).
-/

namespace Dbt

open Postgres Query
open RawEvents (RawEvent)

/-! ## Merged pull requests -/

/-- The pull request of this key is merged. -/
def IsMergedKey (marts : Marts) (key : String) : Prop :=
  ∃ row ∈ marts.intPrLifecycle, row.pullRequestKey = key ∧ holds row.isMerged = true

instance (marts : Marts) (key : String) : Decidable (IsMergedKey marts key) :=
  inferInstanceAs (Decidable (∃ row ∈ marts.intPrLifecycle, _ ∧ _))

/-- Links come from merged pull requests only. -/
structure LinksAreMerged (marts : Marts) : Prop where
  links : ∀ link ∈ marts.intChangeToDeployment, IsMergedKey marts link.change.pullRequestKey
  facts : ∀ fact ∈ marts.fctPullRequests, fact.isChangeLinked = true →
    IsMergedKey marts fact.pullRequestKey

section

variable {server : Server} {seed : Seed} {staged : Staged}

/-- The production deployments run no commit of a pull request that is not merged. -/
def OnlyMergedRan (server : Server) (seed : Seed) (staged : Staged) : Prop :=
  ∀ row ∈ (build server seed staged).intPrLifecycle, holds row.isMerged = false →
    ∀ commit ∈ staged.pullRequestCommits,
      ∀ production ∈ (build server seed staged).intProductionDeployments,
        ¬ CommitReaches row commit (deploymentEvidence production)

/-- Where every change that is linked to a deployment is of a merged pull request, so is every
link of the facts: workflow runs link merge commits only. -/
theorem isMergedKey_of_mem_buildLinks
    (hlinks : ∀ link ∈ (build server seed staged).intChangeToDeployment,
      IsMergedKey (build server seed staged) link.change.pullRequestKey)
    {link : CandidateLink} (h : link ∈ buildLinks server seed staged) :
    IsMergedKey (build server seed staged) link.pullRequestKey := by
  unfold buildLinks allLinks at h
  rcases List.mem_append.mp h with hdeployment | hworkflow
  · obtain ⟨⟨found, deployment⟩, hpair, rfl⟩ := List.mem_map.mp hdeployment
    have hfound := (mem_innerJoin.mp hpair).1
    exact hlinks found hfound
  · obtain ⟨⟨row, deployment⟩, hpair, rfl⟩ := List.mem_map.mp hworkflow
    obtain ⟨hjoined, hmerged⟩ := List.mem_filter.mp hpair
    rw [Bool.and_eq_true, Bool.and_eq_true] at hmerged
    exact ⟨row, (mem_innerJoin.mp hjoined).1, rfl, hmerged.1.1⟩

/-- A fact that is linked has the key of one of the links. -/
theorem exists_link_of_isChangeLinked {fact : FctPullRequest}
    (hfact : fact ∈ (build server seed staged).fctPullRequests)
    (hlinked : fact.isChangeLinked = true) :
    ∃ link ∈ buildLinks server seed staged, link.pullRequestKey = fact.pullRequestKey := by
  obtain ⟨row, -, repository, -, -, rfl⟩ :=
    (mem_build_fctPullRequests server seed staged).mp hfact
  obtain ⟨link, hfind⟩ := Option.isSome_iff_exists.mp hlinked
  have hselected := List.mem_of_find?_eq_some hfind
  have hkey : row.pullRequestKey = link.pullRequestKey := by simpa using List.find?_some hfind
  exact ⟨link, partitionFirst_subset hselected, hkey.symm⟩

/-- **When links come from merged pull requests only**: exactly if no commit of any other pull
request ran in production. -/
theorem linksAreMerged_iff :
    LinksAreMerged (build server seed staged) ↔ OnlyMergedRan server seed staged := by
  have hmerged := mergedAt_isMerged server seed staged
  have hsuccess := production_isSuccessful server seed staged
  constructor
  · intro h row hrow hopen commit hcommit production hproduction hreaches
    obtain ⟨type, start, hstart⟩ := exists_linkStart (Or.inr ⟨commit, hcommit, hreaches⟩)
    obtain ⟨link, hlink, hkey, -⟩ :=
      exists_link hmerged hrow hproduction (hsuccess production hproduction) hstart
    rw [← build_intChangeToDeployment] at hlink
    obtain ⟨other, hother, hotherKey, hisMerged⟩ := h.links link hlink
    -- the key of the link is that of the open pull request
    obtain rfl : other = row := List.inj_on_of_nodup_map (pullRequests_nodup server seed staged)
      hother hrow (hotherKey.trans hkey)
    rw [hopen] at hisMerged
    cases hisMerged
  · intro h
    have hlinks : ∀ link ∈ (build server seed staged).intChangeToDeployment,
        IsMergedKey (build server seed staged) link.change.pullRequestKey := by
      intro link hlink
      rw [build_intChangeToDeployment] at hlink
      obtain ⟨production, hproduction, row, hrow, sha, type, completedAt, hfrom, hruns, rfl⟩ :=
        mem_candidateLinks.mp (partitionFirst_subset hlink)
      refine ⟨row, hrow, rfl, ?_⟩
      rcases hfrom with ⟨-, -, -, hisMerged⟩ | ⟨commit, hcommit, hon, -, rfl, rfl⟩
      -- the query of merge commits asks for a merged pull request
      · exact hisMerged
      -- that of the other commits does not: here the hypothesis has to
      · by_contra hnot
        have hran := (runsChange_iff (hsuccess production hproduction)).mp hruns
        exact h row hrow (Bool.eq_false_iff.mpr hnot) commit hcommit production hproduction
          ⟨hon, rfl, hran⟩
    refine ⟨hlinks, fun fact hfact hlinked => ?_⟩
    obtain ⟨link, hlink, hkey⟩ := exists_link_of_isChangeLinked hfact hlinked
    rw [← hkey]
    exact isMergedKey_of_mem_buildLinks hlinks hlink

end

/-- A pull request created at 8 and still open, with a commit of 9. -/
def openAtNoon : List RawEvent :=
  [ demoEvent 11 "pull_request" 0
      [("pull_request", .object
        [("number", .number 18 0), ("node_id", .string "PR_18"), ("state", .string "open"),
          ("created_at", .string "2026-07-24T08:00:00Z")])]
  , demoEvent 12 "pull_request_commit" 0
      [("pull_request_id", .string "PR_18"),
        ("pull_request_commit", .object
          [("commit", .object
            [("oid", .string "abc"), ("committedDate", .string "2026-07-24T09:00:00Z")])])] ]

/-- The commit of an open pull request is deployed: the pull request is linked. -/
theorem open_pullRequest_linked :
    ∃ staged, staging hourServer
        (openAtNoon ++ demoDeployment 13 (july24 10) "abc") = .ok staged
      ∧ (demoSeed "UTC").Tests
      ∧ (∃ fact ∈ (build hourServer (demoSeed "UTC") staged).fctPullRequests,
          fact.isChangeLinked = true ∧ fact.pullRequestState = some "open")
      ∧ ¬ LinksAreMerged (build hourServer (demoSeed "UTC") staged) := by
  have hrun : ∃ staged, staging hourServer
        (openAtNoon ++ demoDeployment 13 (july24 10) "abc")
          = .ok staged
      ∧ ∃ fact ∈ (build hourServer (demoSeed "UTC") staged).fctPullRequests,
        fact.isChangeLinked = true ∧ fact.pullRequestState = some "open"
        ∧ ¬ IsMergedKey (build hourServer (demoSeed "UTC") staged) fact.pullRequestKey := by
    decide +kernel
  obtain ⟨staged, h, fact, hfact, hlinked, hopen, hnot⟩ := hrun
  exact ⟨staged, h, demoSeed_tests _, ⟨fact, hfact, hlinked, hopen⟩,
    fun hall => hnot (hall.facts fact hfact hlinked)⟩

/-! ## Merge commits and other commits -/

/-- The link of a pull request is by its merge commit wherever a candidate link is, and by another
commit only where none is. -/
structure MergeCommitPreferred (server : Server) (seed : Seed) (staged : Staged) : Prop where
  preferred : ∀ fact ∈ (build server seed staged).fctPullRequests,
    ∀ link ∈ buildLinks server seed staged, link.pullRequestKey = fact.pullRequestKey →
      link.linkageType = .mergeCommit → fact.linkageType = some .mergeCommit
  otherwise : ∀ fact ∈ (build server seed staged).fctPullRequests,
    fact.linkageType = some .pullRequestCommit →
      ∀ link ∈ buildLinks server seed staged, link.pullRequestKey = fact.pullRequestKey →
        link.linkageType ≠ .mergeCommit

/-- Where the merge commit of a pull request ran in a deployment that counts, every deployment that
ran a commit of it is, or comes after, one that ran the merge commit. -/
def MergeRanFirst (server : Server) (seed : Seed) (staged : Staged) : Prop :=
  ∀ row ∈ (build server seed staged).intPrLifecycle,
    ∀ merge ∈ (build server seed staged).fctDeployments, merge.isMeasured = true →
      MergeReaches row merge.toEvidence →
        ∀ deployment ∈ (build server seed staged).fctDeployments, Reaches staged row deployment →
          ∃ first ∈ (build server seed staged).fctDeployments, first.isMeasured = true
            ∧ MergeReaches row first.toEvidence
            ∧ (successOrder server first deployment).isLE

section

variable {server : Server} {seed : Seed} {events : List RawEvent} {staged : Staged}

/-- Two deployments of one place in the order of successes are one deployment. -/
theorem deployment_unique (h : staging server events = .ok staged)
    {a b : FctDeployment} (ha : a ∈ (build server seed staged).fctDeployments)
    (hb : b ∈ (build server seed staged).fctDeployments) (hab : (successOrder server a b).isLE)
    (hba : (successOrder server b a).isLE) : a = b := by
  -- the order of the links to them, of any one pull request
  have heq : linkOrder server (linkTo "" .mergeCommit none a) (linkTo "" .mergeCommit none b)
      = .eq := Std.OrientedCmp.isLE_antisymm hab hba
  exact List.inj_on_of_nodup_map (fctDeployments_nodup h) ha hb (deploymentKey_of_linkOrder heq)

/-- **When merge commits are preferred**: exactly if no deployment ran another commit of a pull
request before the first one that ran its merge commit. -/
theorem mergeCommitPreferred_iff (h : staging server events = .ok staged) :
    MergeCommitPreferred server seed staged ↔ MergeRanFirst server seed staged := by
  constructor
  · intro hpreferred row hrow merge hmerge hmeasured hmergeReaches deployment hdeployment hreaches
    -- the deployment of the link that is selected ran the merge commit, and is the first
    obtain ⟨repository, -, hfact⟩ := exists_fctPullRequest server seed staged hrow
    obtain ⟨hlink, hkey⟩ := (mem_buildLinks h hrow).mpr
      ⟨merge, hmerge, hmeasured, .mergeCommit, row.mergedAt, .merge hmergeReaches, rfl⟩
    have htype := hpreferred.preferred _ hfact _ hlink hkey rfl
    obtain ⟨selected, hselected, hmergeCommit⟩ := Option.map_eq_some_iff.mp htype
    obtain ⟨first, type, start, hfirst, hstart, rfl⟩ := (selectedLink_iff h hrow).mp hselected
    have hreached : MergeReaches row first.toEvidence := by
      cases hstart with
      | merge hran => exact hran
      | commit _ _ => cases hmergeCommit
    exact ⟨first, hfirst.mem, hfirst.reaches.1, hreached,
      hfirst.first deployment hdeployment hreaches⟩
  · intro hfirst
    have hpreferred : ∀ fact ∈ (build server seed staged).fctPullRequests,
        ∀ link ∈ buildLinks server seed staged, link.pullRequestKey = fact.pullRequestKey →
          link.linkageType = .mergeCommit → fact.linkageType = some .mergeCommit := by
      intro fact hfact link hlink hkey hmergeCommit
      obtain ⟨row, hrow, repository, -, -, rfl⟩ :=
        (mem_build_fctPullRequests server seed staged).mp hfact
      obtain ⟨merge, hmerge, hmeasured, type, start, hstart, rfl⟩ :=
        (mem_buildLinks h hrow).mp ⟨hlink, hkey⟩
      have hmergeReaches : MergeReaches row merge.toEvidence := by
        cases hstart with
        | merge hran => exact hran
        | commit _ _ => cases hmergeCommit
      obtain ⟨selected, hselected⟩ := exists_selectedLink hlink hkey
      obtain ⟨deployment, type', start', hreached, hstart', rfl⟩ :=
        (selectedLink_iff h hrow).mp hselected
      obtain ⟨first, hmem, hfirstMeasured, hfirstReaches, hle⟩ :=
        hfirst row hrow merge hmerge hmeasured hmergeReaches deployment hreached.mem
          hreached.reaches
      -- that one is not before the deployment selected, so it is the deployment selected
      obtain rfl : first = deployment := deployment_unique h hmem hreached.mem hle
        (hreached.first first hmem ⟨hfirstMeasured, Or.inl hfirstReaches⟩)
      obtain ⟨rfl, -⟩ := linkStart_unique (.merge hfirstReaches) hstart'
      exact congrArg (Option.map CandidateLink.linkageType) hselected
    refine ⟨hpreferred, fun fact hfact hcommit link hlink hkey hmergeCommit => ?_⟩
    have hmerge := hpreferred fact hfact link hlink hkey hmergeCommit
    rw [hcommit] at hmerge
    cases hmerge

end

/-- Another production deployment of a commit and its success. -/
def laterDeployment (eventId : Nat) (occurredAt : Timestamp) (sha : String) : List RawEvent :=
  [ demoEvent eventId "deployment" occurredAt
      [("deployment", .object
        [("id", .number 70002 0), ("environment", .string "production"), ("sha", .string sha),
          ("production_environment", .bool true)])]
  , demoEvent (eventId + 1) "deployment_status" occurredAt
      [("deployment", .object [("id", .number 70002 0)]),
        ("deployment_status", .object [("id", .number 80002 0), ("state", .string "success")])] ]

/-- The pull request merged at 12, its commit deployed at 10 and its merge commit at 15. -/
def branchThenMerge : List RawEvent :=
  mergedAtNoon ++ demoDeployment 3 (july24 10) "abc"
    ++ laterDeployment 5 (july24 15) "def"

/-- The branch is deployed before the merge: the link by its commit is selected, next to a link by
the merge commit. -/
theorem branch_commit_selected :
    ∃ staged, staging hourServer branchThenMerge = .ok staged
      ∧ (demoSeed "UTC").Tests
      ∧ (∃ fact ∈ (build hourServer (demoSeed "UTC") staged).fctPullRequests,
          fact.linkageType = some .pullRequestCommit
          ∧ ∃ link ∈ buildLinks hourServer (demoSeed "UTC") staged,
            link.pullRequestKey = fact.pullRequestKey ∧ link.linkageType = .mergeCommit)
      ∧ ¬ MergeCommitPreferred hourServer (demoSeed "UTC") staged := by
  have hrun : ∃ staged, staging hourServer branchThenMerge = .ok staged
      ∧ ∃ fact ∈ (build hourServer (demoSeed "UTC") staged).fctPullRequests,
        fact.linkageType = some .pullRequestCommit
        ∧ ∃ link ∈ buildLinks hourServer (demoSeed "UTC") staged,
          link.pullRequestKey = fact.pullRequestKey ∧ link.linkageType = .mergeCommit := by
    decide +kernel
  obtain ⟨staged, h, fact, hfact, hcommit, link, hlink, hkey, hmerge⟩ := hrun
  exact ⟨staged, h, demoSeed_tests _, ⟨fact, hfact, hcommit, link, hlink, hkey, hmerge⟩,
    fun hall => hall.otherwise fact hfact hcommit link hlink hkey hmerge⟩

/-- The merge commit deployed at 15 and the commit of the branch again behind it. -/
theorem mergeCommitPreferred_iff_merge :
    ∃ staged, staging hourServer
        (mergedAtNoon ++ demoDeployment 3 (july24 15) "def"
          ++ laterDeployment 5 (july24 16) "abc") = .ok staged
      ∧ MergeCommitPreferred hourServer (demoSeed "UTC") staged
      ∧ MergeRanFirst hourServer (demoSeed "UTC") staged := by
  have hrun : ∃ staged, staging hourServer
        (mergedAtNoon ++ demoDeployment 3 (july24 15) "def"
          ++ laterDeployment 5 (july24 16) "abc") = .ok staged
      ∧ ∀ fact ∈ (build hourServer (demoSeed "UTC") staged).fctPullRequests,
        fact.linkageType = some .mergeCommit := by
    decide +kernel
  obtain ⟨staged, h, hfacts⟩ := hrun
  have hpreferred : MergeCommitPreferred hourServer (demoSeed "UTC") staged := by
    refine ⟨fun fact hfact _ _ _ _ => hfacts fact hfact, fun fact hfact hcommit => ?_⟩
    rw [hfacts fact hfact] at hcommit
    cases hcommit
  exact ⟨staged, h, hpreferred, (mergeCommitPreferred_iff h).mp hpreferred⟩

end Dbt
