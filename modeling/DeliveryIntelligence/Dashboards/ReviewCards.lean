import DeliveryIntelligence.Dashboards.Cards
import DeliveryIntelligence.Dashboards.LocalDates
import DeliveryIntelligence.Dbt.KnownColumns

set_option autoImplicit false

/-!
# The three review cards

The latency distribution takes the pull requests with a time to the first review, the rework card
those with an eligible review, and the trend counts both over a join with the repositories. All
three count the same pull requests of each repository (`review_cards_agree`), and the shares of the
rework card are shares of that count.
-/

namespace Dashboards

open Postgres Query Dbt

variable {Double : Type} {doubles : Doubles Double} {server : Server} {seed : Seed}
  {staged : Staged}

/-- The pull request is no draft and has an eligible review. -/
def isReviewed (fact : FctPullRequest) : Bool :=
  !fact.isDraft && decide (0 < fact.eligibleReviewCount)

/-- The reviewed pull requests that carry a repository name. -/
def reviewedCount (marts : Marts) (name : Option String) : Nat :=
  marts.fctPullRequests.countP fun fact => isReviewed fact
    && decide (fact.repositoryFullName = name)

/-! ## Eligible reviews -/

/-- A first review has been counted. -/
theorem eligibleReviewCount_pos {row : FirstEligibleReview}
    (h : row ∈ (build server seed staged).intFirstEligibleReview) :
    0 < row.rollup.eligibleReviewCount := by
  rw [build_intFirstEligibleReview] at h
  obtain ⟨⟨key, review, rollup⟩, hresolved, rfl⟩ := List.mem_map.mp h
  obtain ⟨-, hfirst, rfl⟩ := mem_resolve.mp hresolved
  exact List.length_pos_of_mem (firstBy_mem hfirst)

/-- A pull request has a time to its first review exactly if it has an eligible review. -/
theorem secondsToFirstReview_isSome_iff {fact : FctPullRequest}
    (h : fact ∈ (build server seed staged).fctPullRequests) :
    fact.secondsToFirstReview.isSome ↔ 0 < fact.eligibleReviewCount := by
  obtain ⟨row, -, repository, -, -, rfl⟩ := (mem_build_fctPullRequests server seed staged).mp h
  cases hreview : (build server seed staged).intFirstEligibleReview.find? fun review =>
      row.pullRequestKey = review.pullRequestKey with
  | none => exact iff_of_false Bool.false_ne_true (Nat.lt_irrefl 0)
  | some review =>
      have hmem := List.mem_of_find?_eq_some hreview
      obtain ⟨key, _, -, rollup, _, -, heligible, heq⟩ := exists_eligibleReview hmem
      obtain ⟨_, _, -, -, hseconds⟩ := review_after_creation heligible key rollup
      refine iff_of_true ?_ (eligibleReviewCount_pos hmem)
      show review.review.secondsToFirstReview.isSome
      rw [heq, hseconds]
      rfl

/-! ## The counts -/

theorem sum_reviewLatencyDistribution (name : Option String) :
    (((reviewLatencyDistribution server (build server seed staged)).filter fun row =>
        row.1.repositoryFullName = name).map (·.2)).sum
      = reviewedCount (build server seed staged) name := by
  unfold reviewLatencyDistribution
  rw [(((orderBy_perm _ _).filter _).map _).sum_eq]
  refine (sum_length_groupBy id (bucketed (build server seed staged).fctPullRequests)
    fun group => decide (group.repositoryFullName = name)).trans ?_
  unfold bucketed reviewedCount
  rw [List.countP_filterMap]
  apply List.countP_congr
  intro fact hfact
  have hreviewed := secondsToFirstReview_isSome_iff hfact
  unfold isReviewed
  cases hdraft : fact.isDraft with
  | true => simp
  | false =>
      cases hseconds : fact.secondsToFirstReview with
      | none =>
          rw [hseconds] at hreviewed
          have hzero : ¬ 0 < fact.eligibleReviewCount := fun hpos => by
            cases hreviewed.mpr hpos
          simp [hzero]
      | some seconds =>
          rw [hseconds] at hreviewed
          have hpos : 0 < fact.eligibleReviewCount := hreviewed.mp rfl
          simp [hpos]

/-- `sum(pull_request_count) over (partition by repository_full_name)` -/
theorem repositoryTotal_eq (name : Option String) :
    repositoryTotal (reworkDistribution (build server seed staged).fctPullRequests) name
      = reviewedCount (build server seed staged) name := by
  refine (sum_length_groupBy reworkGroup _
    fun group => decide (group.repositoryFullName = name)).trans ?_
  rw [List.countP_filter]
  exact List.countP_congr fun fact _ => by rw [Bool.and_comm]; rfl

variable (server seed staged) in
theorem sum_reviewRework (name : Option String) :
    (((reviewRework server (build server seed staged)).filter fun row =>
        row.repositoryFullName = name).map (·.pullRequestCount)).sum
      = reviewedCount (build server seed staged) name := by
  unfold reviewRework
  rw [(((orderBy_perm _ _).filter _).map _).sum_eq, List.filter_map, List.map_map]
  exact repositoryTotal_eq name

theorem length_reduceOption_map {α : Type} (f : α → Option Int) (rows : List α) :
    (rows.map f).reduceOption.length = rows.countP fun row => (f row).isSome := by
  induction rows with
  | nil => rfl
  | cons row rows ih =>
      rw [List.map_cons, List.countP_cons]
      cases hrow : f row with
      | none => simpa [List.reduceOption_cons_of_none] using ih
      | some value => simpa [List.reduceOption_cons_of_some] using ih

/-- A count of the facts beside their repositories counts the facts. -/
theorem countP_withRepository (p : FctPullRequest → Bool) :
    ((withRepository (build server seed staged).fctPullRequests
        (build server seed staged).dimRepository).countP fun pair => p pair.1)
      = (build server seed staged).fctPullRequests.countP p := by
  have hfacts : (withRepository (build server seed staged).fctPullRequests
      (build server seed staged).dimRepository).map Prod.fst
      = (build server seed staged).fctPullRequests :=
    map_fst_joinRepository FctPullRequest.repositoryId (repositories_nodup server seed staged)
      (fctPullRequest_known server seed staged)
  conv_rhs => rw [← hfacts]
  rw [List.countP_map]
  rfl

theorem sum_reviewLatencyTrend (name : Option String) :
    (((reviewLatencyTrendCard doubles server (build server seed staged)).filter fun row =>
        row.1.repositoryFullName = name).map (·.2.reviewedPrCount)).sum
      = reviewedCount (build server seed staged) name := by
  unfold reviewLatencyTrendCard
  rw [(((orderBy_perm _ _).filter _).map _).sum_eq]
  refine (sum_groupBy _ (undraftedPullRequests (build server seed staged))
    ReviewLatencies.reviewedPrCount (fun rows => length_reduceOption_map _ rows)
    fun group : ReviewLatencyGroup => decide (group.repositoryFullName = name)).trans ?_
  unfold undraftedPullRequests
  rw [List.countP_filter]
  refine (countP_withRepository fun fact => fact.secondsToFirstReview.isSome
    && decide (fact.repositoryFullName = name) && !fact.isDraft).trans ?_
  apply List.countP_congr
  intro fact hfact
  have hreviewed := secondsToFirstReview_isSome_iff hfact
  unfold isReviewed
  simp only [Bool.and_eq_true, decide_eq_true_iff, Bool.not_eq_true', hreviewed]
  tauto

/-- The pull requests of the trend that are not reviewed count as eligible too. -/
theorem sum_eligibleReviewLatencyTrend (name : Option String) :
    (((reviewLatencyTrendCard doubles server (build server seed staged)).filter fun row =>
        row.1.repositoryFullName = name).map (·.2.eligiblePrCount)).sum
      = (build server seed staged).fctPullRequests.countP fun fact =>
          !fact.isDraft && decide (fact.repositoryFullName = name) := by
  unfold reviewLatencyTrendCard
  rw [(((orderBy_perm _ _).filter _).map _).sum_eq]
  refine (sum_groupBy _ (undraftedPullRequests (build server seed staged))
    ReviewLatencies.eligiblePrCount (q := fun _ => true) (fun rows => List.countP_true ▸ rfl)
    fun group : ReviewLatencyGroup => decide (group.repositoryFullName = name)).trans ?_
  unfold undraftedPullRequests
  rw [List.countP_filter]
  refine (countP_withRepository fun fact => true && decide (fact.repositoryFullName = name)
    && !fact.isDraft).trans ?_
  exact List.countP_congr fun fact _ => by rw [Bool.true_and, Bool.and_comm]

/-! ## The shares -/

theorem abs_share_sub_le {count total : Nat} (h : count ≤ total) :
    |roundedTo 4 (numericDivision count total) - (count : ℚ) / total|
      ≤ 1 / (2 * 10 ^ 4) + 1 / (2 * 10 ^ 16) :=
  (abs_sub_le _ (numericDivision count total) _).trans
    (add_le_add (abs_roundedTo_sub_le 4 _) (abs_numericDivision_sub_le h))

/-- Rounded shares of a total add up to one, up to the rounding of each. -/
theorem abs_sum_share_sub_le {total : Nat} {counts : List Nat}
    (hle : ∀ count ∈ counts, count ≤ total) :
    |(counts.map fun count : Nat => roundedTo 4 (numericDivision count total)).sum
        - (counts.sum : ℚ) / total|
      ≤ counts.length * (1 / (2 * 10 ^ 4) + 1 / (2 * 10 ^ 16)) := by
  induction counts with
  | nil => simp
  | cons count counts ih =>
      have hhead := abs_share_sub_le (hle count List.mem_cons_self)
      have htail := ih fun other hother => hle other (List.mem_cons_of_mem _ hother)
      rw [List.map_cons, List.sum_cons, List.sum_cons, List.length_cons, Nat.cast_add, Nat.cast_add,
        Nat.cast_one, add_div, add_mul, one_mul]
      rw [abs_le] at hhead htail ⊢
      constructor <;> linarith

theorem share_of_mem {row : ReworkRow}
    (h : row ∈ reviewRework server (build server seed staged)) :
    row.repositoryShare = roundedTo 4 (numericDivision row.pullRequestCount
      (reviewedCount (build server seed staged) row.repositoryFullName)) := by
  unfold reviewRework at h
  obtain ⟨group, -, rfl⟩ := List.mem_map.mp (mem_orderBy.mp h)
  show roundedTo 4 (numericDivision group.2 (repositoryTotal _ group.1.repositoryFullName)) = _
  rw [repositoryTotal_eq]
  rfl

/-! ## Agreement -/

/-- What the three cards say about the repository of one name. -/
structure ReviewCardsAgree (doubles : Doubles Double) (server : Server) (marts : Marts)
    (name : Option String) : Prop where
  distribution : (((reviewLatencyDistribution server marts).filter fun row =>
    row.1.repositoryFullName = name).map (·.2)).sum = reviewedCount marts name
  rework : (((reviewRework server marts).filter fun row =>
    row.repositoryFullName = name).map (·.pullRequestCount)).sum = reviewedCount marts name
  trend : (((reviewLatencyTrendCard doubles server marts).filter fun row =>
    row.1.repositoryFullName = name).map (·.2.reviewedPrCount)).sum = reviewedCount marts name
  eligible : (((reviewLatencyTrendCard doubles server marts).filter fun row =>
      row.1.repositoryFullName = name).map (·.2.eligiblePrCount)).sum
    = marts.fctPullRequests.countP fun fact =>
        !fact.isDraft && decide (fact.repositoryFullName = name)
  share : ∀ row ∈ reviewRework server marts, row.repositoryFullName = name →
    row.repositoryShare
      = roundedTo 4 (numericDivision row.pullRequestCount (reviewedCount marts name))
  shares : 0 < reviewedCount marts name →
    |(((reviewRework server marts).filter fun row =>
        row.repositoryFullName = name).map (·.repositoryShare)).sum - 1|
      ≤ ((reviewRework server marts).filter fun row => row.repositoryFullName = name).length
        * (1 / (2 * 10 ^ 4) + 1 / (2 * 10 ^ 16))

/-- **The three review cards agree**: for every repository name the buckets of the distribution,
the cycles of the rework card and the dates of the trend count the same pull requests, and the
shares of the rework card are shares of them, which add up to one but for their rounding. -/
theorem review_cards_agree (doubles : Doubles Double) (server : Server) (seed : Seed)
    (staged : Staged) (name : Option String) :
    ReviewCardsAgree doubles server (build server seed staged) name where
  distribution := sum_reviewLatencyDistribution name
  rework := sum_reviewRework server seed staged name
  trend := sum_reviewLatencyTrend name
  eligible := sum_eligibleReviewLatencyTrend name
  share row hrow hname := hname ▸ share_of_mem hrow
  shares hpos := by
    have hsum := sum_reviewRework server seed staged name
    have hshares : ((reviewRework server (build server seed staged)).filter fun row =>
          row.repositoryFullName = name).map (·.repositoryShare)
        = (((reviewRework server (build server seed staged)).filter fun row =>
          row.repositoryFullName = name).map (·.pullRequestCount)).map fun count : Nat =>
            roundedTo 4 (numericDivision count
              (reviewedCount (build server seed staged) name)) := by
      rw [List.map_map]
      apply List.map_congr_left
      intro row hrow
      obtain ⟨hmem, hname⟩ := List.mem_filter.mp hrow
      have hshare := share_of_mem hmem
      rw [of_decide_eq_true hname] at hshare
      exact hshare
    generalize ((reviewRework server (build server seed staged)).filter fun row =>
      row.repositoryFullName = name) = rows at hsum hshares ⊢
    have hle : ∀ count ∈ rows.map (·.pullRequestCount),
        count ≤ reviewedCount (build server seed staged) name := fun count hcount =>
      hsum ▸ List.single_le_sum (fun _ _ => Nat.zero_le _) count hcount
    have hbound := abs_sum_share_sub_le hle
    have hne : ((reviewedCount (build server seed staged) name : Nat) : ℚ) ≠ 0 :=
      Nat.cast_ne_zero.mpr hpos.ne'
    rw [hsum, div_self hne, List.length_map] at hbound
    rw [hshares]
    exact hbound

end Dashboards
