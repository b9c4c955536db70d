import DeliveryIntelligence.Dbt.Grain

set_option autoImplicit false

/-!
# The identity of a review

A review reaches `raw.github_events` as a webhook, which gives its database id and its node id, or
as a node of the backfill query, which gives the node id and the database id only where GitHub
does. `stg_github__reviews` takes the first id there is as the key, so a review of both paths can
have two keys: `countedOnce_iff` says when a pull request counts such a review twice.
-/

namespace Dbt

open Postgres Query
open RawEvents (RawEvent)

variable {server : Server}

/-! ## Reviews of GitHub -/

/-- A review as GitHub identifies it: the database id is a numeral and the node id is not. -/
structure GithubReview where
  repositoryId : Int
  databaseId : String
  nodeId : String
  databaseId_numeral : isNumeral databaseId = true
  nodeId_text : isNumeral nodeId = false

/-- A webhook carries both ids. -/
structure WebhookShows (server : Server) (review : GithubReview) (payload : Json) : Prop where
  databaseId : textAt server payload ["review", "id"] = some review.databaseId
  nodeId : textAt server payload ["review", "node_id"] = some review.nodeId

/-- A node of the backfill carries the node id, and a `fullDatabaseId` that may be null or absent. -/
structure NodeShows (server : Server) (review : GithubReview) (payload : Json) : Prop where
  no_id : textAt server payload ["review", "id"] = none
  no_node_id : textAt server payload ["review", "node_id"] = none
  nodeId : textAt server payload ["pull_request_review", "id"] = some review.nodeId
  fullDatabaseId : textAt server payload ["pull_request_review", "fullDatabaseId"] = none
    ∨ textAt server payload ["pull_request_review", "fullDatabaseId"] = some review.databaseId

/-- Every review event shows a review of GitHub, and reviews are told apart by their node ids. -/
structure ReviewLanding (server : Server) (reviews : List GithubReview) (events : List RawEvent) :
    Prop where
  nodeId_unique : (reviews.map (·.nodeId)).Nodup
  shown : ∀ event ∈ events, event.eventName = "pull_request_review" →
    ∃ review ∈ reviews, event.repositoryId = review.repositoryId
      ∧ (WebhookShows server review event.payload ∨ NodeShows server review event.payload)

/-! ## Snapshots -/

/-- A staged snapshot of a review: its key is the database id where it has one and the node id
otherwise. -/
structure IsReviewSnapshot (review : GithubReview) (row : ReviewSnapshot) : Prop where
  repositoryId : row.repositoryId = review.repositoryId
  nodeId : row.reviewNodeId = some review.nodeId
  key : row.reviewId.isSome ∧ row.reviewKey = repositoryKey review.repositoryId review.databaseId
    ∨ row.reviewId = none ∧ row.reviewKey = repositoryKey review.repositoryId review.nodeId

/-- The columns of a snapshot that identify the review, as texts of the payload. -/
theorem reviewSnapshot_ids {event : GithubEvent} {row : ReviewSnapshot}
    (h : reviewSnapshot server event = .ok row) :
    row.repositoryId = event.repositoryId
      ∧ row.reviewKey = repositoryKey event.repositoryId (coalesce
          [textAt server event.payload ["review", "id"],
            textAt server event.payload ["pull_request_review", "fullDatabaseId"],
            textAt server event.payload ["pull_request_review", "id"]])
      ∧ row.reviewNodeId = coalesce [textAt server event.payload ["review", "node_id"],
          nodeId (textAt server event.payload ["pull_request_review", "id"])]
      ∧ githubBigint server (coalesce [textAt server event.payload ["review", "id"],
          textAt server event.payload ["pull_request_review", "fullDatabaseId"]])
        = .ok row.reviewId := by
  unfold reviewSnapshot at h
  obtain ⟨reviewId, hreviewId, h⟩ := bind_eq_ok h
  repeat obtain ⟨_, -, h⟩ := bind_eq_ok h
  cases h
  exact ⟨rfl, rfl, rfl, hreviewId⟩

theorem isSome_of_githubBigint {text : String} {value : Option Int}
    (hnumeral : isNumeral text = true) (h : githubBigint server (some text) = .ok value) :
    value.isSome := by
  unfold githubBigint at h
  rw [Option.filter_some_pos hnumeral] at h
  obtain ⟨n, hread⟩ := cast_some_ok h
  unfold cast at h
  simp only [hread] at h
  cases h
  rfl

/-- An event that shows a review is staged as a snapshot of it. -/
theorem isReviewSnapshot {review : GithubReview} {event : GithubEvent} {row : ReviewSnapshot}
    (h : reviewSnapshot server event = .ok row) (hid : event.repositoryId = review.repositoryId)
    (hshows : WebhookShows server review event.payload ∨ NodeShows server review event.payload) :
    IsReviewSnapshot review row := by
  obtain ⟨hrepository, hkey, hnodeId, hreviewId⟩ := reviewSnapshot_ids h
  rw [hid] at hrepository hkey
  rcases hshows with hwebhook | hnode
  · rw [hwebhook.databaseId] at hkey hreviewId
    rw [hwebhook.nodeId] at hnodeId
    exact ⟨hrepository, hnodeId,
      Or.inl ⟨isSome_of_githubBigint review.databaseId_numeral hreviewId, hkey⟩⟩
  · rw [hnode.no_id] at hkey hreviewId
    rw [hnode.nodeId] at hkey hnodeId
    rw [hnode.no_node_id, nodeId, Option.filter_some_pos (by rw [review.nodeId_text]; rfl)] at hnodeId
    refine ⟨hrepository, hnodeId, ?_⟩
    rcases hnode.fullDatabaseId with hnone | hsome
    -- without a database id the key is the node id, and there is no number
    · rw [hnone] at hkey hreviewId
      exact Or.inr ⟨(Except.ok.inj hreviewId).symm, hkey⟩
    · rw [hsome] at hkey hreviewId
      exact Or.inl ⟨isSome_of_githubBigint review.databaseId_numeral hreviewId, hkey⟩

/-- Every staged snapshot is of one of the reviews. -/
theorem exists_isReviewSnapshot {reviews : List GithubReview} {events : List RawEvent}
    {staged : Staged} (h : staging server events = .ok staged)
    (hlanding : ReviewLanding server reviews events) {row : ReviewSnapshot}
    (hrow : row ∈ staged.reviews) : ∃ review ∈ reviews, IsReviewSnapshot review row := by
  obtain ⟨event, hevent, hsnapshot⟩ := mem_of_mapM (staging_iff.mp h).reviews hrow
  obtain ⟨hin, hname⟩ := List.mem_filter.mp hevent
  obtain ⟨raw, hraw, rfl⟩ := List.mem_map.mp hin
  obtain ⟨review, hreview, hid, hshows⟩ := hlanding.shown raw hraw (of_decide_eq_true hname)
  exact ⟨review, hreview, isReviewSnapshot hsnapshot hid hshows⟩

/-- A database id and a node id make different keys. -/
theorem numberKey_ne_nodeKey (review : GithubReview) (repositoryId : Int) :
    repositoryKey repositoryId (some review.databaseId)
      ≠ repositoryKey repositoryId (some review.nodeId) := by
  intro heq
  have htexts : toString repositoryId ++ ":" ++ review.databaseId
      = toString repositoryId ++ ":" ++ review.nodeId := Option.some.inj heq
  have hlists := congrArg String.toList htexts
  simp only [String.toList_append] at hlists
  have hsame : review.databaseId = review.nodeId :=
    String.toList_inj.mp (List.append_cancel_left hlists)
  have hnumeral := review.databaseId_numeral
  rw [hsame, review.nodeId_text] at hnumeral
  cases hnumeral

/-! ## The eligible reviews of a pull request -/

/-- The number of a pull request in `review_rollup`: zero where it has no eligible review. -/
theorem eligibleReviewCount_eq {snapshots : List ReviewSnapshot} {pullRequests : List PullRequest}
    {key : String} :
    (((intFirstEligibleReview server snapshots pullRequests).find? fun review =>
        key = review.pullRequestKey).map (·.rollup.eligibleReviewCount)).getD 0
      = ((eligibleReviews server snapshots pullRequests).filter fun row =>
          row.pullRequestKey = key).length := by
  cases hfind : (intFirstEligibleReview server snapshots pullRequests).find? fun review =>
      key = review.pullRequestKey with
  | none =>
      have hempty : ((eligibleReviews server snapshots pullRequests).filter fun row =>
          row.pullRequestKey = key) = [] := by
        rw [List.filter_eq_nil_iff]
        intro row hrow hkey
        exact eligibleReview_key_ne hfind hrow (of_decide_eq_true hkey)
      rw [hempty]
      rfl
  | some found =>
      have hkey : key = found.pullRequestKey := by simpa using List.find?_some hfind
      obtain ⟨⟨k, first, rollup⟩, hresolved, rfl⟩ :=
        List.mem_map.mp (List.mem_of_find?_eq_some hfind)
      obtain ⟨hk, -, hrollup⟩ := mem_resolve.mp hresolved
      obtain rfl : k = key := (Option.some.inj hk).symm.trans hkey.symm
      show rollup.eligibleReviewCount = _
      rw [hrollup]
      simp only [eligibleReviewRollup, Option.some.injEq]

theorem eligibleReviews_nodup {snapshots : List ReviewSnapshot} {pullRequests : List PullRequest}
    (hkeys : (pullRequests.map (·.pullRequestKey)).Nodup) :
    ((eligibleReviews server snapshots pullRequests).map fun row =>
      (row.reviewKey, row.pullRequestKey)).Nodup := by
  unfold eligibleReviews
  rw [List.map_map]
  have hresolved : ((resolvedReviews snapshots).map Prod.fst).Nodup := resolve_nodup
  exact (innerJoin_nodup hresolved hkeys).sublist (List.filter_sublist.map _)

/-! ## Reviews with two keys -/

/-- The snapshot is the latest of its key, and an eligible review of the pull request. -/
structure CountsFor (server : Server) (snapshots : List ReviewSnapshot) (row : PullRequest)
    (review : ReviewSnapshot) : Prop where
  latest : ∃ k, IsLatest ReviewSnapshot.reviewKey reviewOrder snapshots k review
  on : reviewOfPullRequest review row = true
  eligible : isEligibleReview server review row = true

/-- A review with a database id in some of its snapshots and without it in others, both eligible. -/
def CountedTwice (server : Server) (snapshots : List ReviewSnapshot) (row : PullRequest) : Prop :=
  ∃ numbered unnumbered, CountsFor server snapshots row numbered
    ∧ CountsFor server snapshots row unnumbered ∧ numbered.reviewId.isSome
    ∧ unnumbered.reviewId = none ∧ numbered.reviewNodeId = unnumbered.reviewNodeId

section

variable (server : Server) (seed : Seed) (staged : Staged)

/-- The rows of `eligible_reviews` of one pull request. -/
def eligibleReviewsOf (key : String) : List EligibleReview :=
  (eligibleReviews server staged.reviews (build server seed staged).intPrLifecycle).filter fun row =>
    row.pullRequestKey = key

end

section

variable {reviews : List GithubReview} {seed : Seed} {events : List RawEvent} {staged : Staged}

/-- The eligible rows of a pull request are the snapshots that count for it. -/
theorem mem_eligibleReviewsOf (hids : (staged.reviews.map (·.eventId)).Nodup) {row : PullRequest}
    (hrow : row ∈ (build server seed staged).intPrLifecycle) {key : String}
    {nodeId : Option String} :
    (∃ eligible ∈ eligibleReviewsOf server seed staged row.pullRequestKey,
        eligible.reviewKey = key ∧ eligible.reviewNodeId = nodeId)
      ↔ ∃ review, CountsFor server staged.reviews row review ∧ review.reviewKey = some key
          ∧ review.reviewNodeId = nodeId := by
  have hkeys := pullRequests_nodup server seed staged
  constructor
  · rintro ⟨eligible, hmem, rfl, rfl⟩
    obtain ⟨hin, hkey⟩ := List.mem_filter.mp hmem
    obtain ⟨key, review, rollup, hresolved, other, hother, hon, heligible, rfl⟩ :=
      mem_eligibleReviews.mp hin
    obtain rfl : other = row := List.inj_on_of_nodup_map hkeys hother hrow (of_decide_eq_true hkey)
    have hlatest : IsLatest ReviewSnapshot.reviewKey reviewOrder staged.reviews key review :=
      (isLatest_iff_resolved hids).mpr ⟨rollup, hresolved⟩
    exact ⟨review, ⟨⟨key, hlatest⟩, hon, heligible⟩, hlatest.key_eq, rfl⟩
  · rintro ⟨review, ⟨⟨k, hlatest⟩, hon, heligible⟩, hkey, rfl⟩
    obtain rfl : k = key := Option.some.inj (hlatest.key_eq.symm.trans hkey)
    obtain ⟨rollup, hresolved⟩ : ∃ rollup, (k, review, rollup) ∈ resolvedReviews staged.reviews :=
      (isLatest_iff_resolved hids).mp hlatest
    refine ⟨eligibleReview k review rollup row, List.mem_filter.mpr ⟨?_, decide_eq_true rfl⟩,
      rfl, rfl⟩
    exact mem_eligibleReviews.mpr ⟨k, review, rollup, hresolved, row, hrow, hon, heligible, rfl⟩

/-- Where every snapshot is of a known review, a review that counts has its node id, and its key is
one of two. -/
theorem exists_review_of_countsFor (h : staging server events = .ok staged)
    (hlanding : ReviewLanding server reviews events) {row : PullRequest} {snapshot : ReviewSnapshot}
    (hcounts : CountsFor server staged.reviews row snapshot) :
    ∃ review ∈ reviews, IsReviewSnapshot review snapshot := by
  obtain ⟨k, hlatest⟩ := hcounts.latest
  exact exists_isReviewSnapshot h hlanding hlatest.mem

/-- Two snapshots that count and show one node id are of one review. -/
theorem exists_review_of_nodeId (h : staging server events = .ok staged)
    (hlanding : ReviewLanding server reviews events) {row : PullRequest} {a b : ReviewSnapshot}
    (ha : CountsFor server staged.reviews row a) (hb : CountsFor server staged.reviews row b)
    (hsame : a.reviewNodeId = b.reviewNodeId) :
    ∃ review, IsReviewSnapshot review a ∧ IsReviewSnapshot review b := by
  obtain ⟨review, hreview, hasnapshot⟩ := exists_review_of_countsFor h hlanding ha
  obtain ⟨other, hother, hbsnapshot⟩ := exists_review_of_countsFor h hlanding hb
  have hnodeId : some review.nodeId = some other.nodeId := by
    rw [← hasnapshot.nodeId, ← hbsnapshot.nodeId, hsame]
  obtain rfl : review = other := List.inj_on_of_nodup_map hlanding.nodeId_unique hreview hother
    (Option.some.inj hnodeId)
  exact ⟨review, hasnapshot, hbsnapshot⟩

/-- Two snapshots that count and show one node id have one key, unless their review is counted
twice. -/
theorem reviewKey_eq_of_nodeId (h : staging server events = .ok staged)
    (hlanding : ReviewLanding server reviews events) {row : PullRequest}
    (hnot : ¬ CountedTwice server staged.reviews row) {a b : ReviewSnapshot}
    (ha : CountsFor server staged.reviews row a) (hb : CountsFor server staged.reviews row b)
    (hsame : a.reviewNodeId = b.reviewNodeId) : a.reviewKey = b.reviewKey := by
  obtain ⟨review, hasnapshot, hbsnapshot⟩ := exists_review_of_nodeId h hlanding ha hb hsame
  -- one of them has a database id and the other has not only where the review is counted twice
  rcases hasnapshot.key with ⟨hanumber, hakey⟩ | ⟨hanone, hakey⟩
  · rcases hbsnapshot.key with ⟨-, hbkey⟩ | ⟨hbnone, -⟩
    · rw [hakey, hbkey]
    · exact absurd ⟨a, b, ha, hb, hanumber, hbnone, hsame⟩ hnot
  · rcases hbsnapshot.key with ⟨hbnumber, -⟩ | ⟨-, hbkey⟩
    · exact absurd ⟨b, a, hb, ha, hbnumber, hanone, hsame.symm⟩ hnot
    · rw [hakey, hbkey]

/-- The two snapshots of a review that is counted twice have different keys. -/
theorem reviewKey_ne_of_countedTwice (h : staging server events = .ok staged)
    (hlanding : ReviewLanding server reviews events) {row : PullRequest}
    {numbered unnumbered : ReviewSnapshot}
    (hnumbered : CountsFor server staged.reviews row numbered)
    (hunnumbered : CountsFor server staged.reviews row unnumbered)
    (hsome : numbered.reviewId.isSome) (hnone : unnumbered.reviewId = none)
    (hsame : numbered.reviewNodeId = unnumbered.reviewNodeId) :
    numbered.reviewKey ≠ unnumbered.reviewKey := by
  obtain ⟨review, hsnapshot, hsnapshot'⟩ :=
    exists_review_of_nodeId h hlanding hnumbered hunnumbered hsame
  rcases hsnapshot.key with ⟨-, hkey⟩ | ⟨hnumberless, -⟩
  · rcases hsnapshot'.key with ⟨hnumber, -⟩ | ⟨-, hkey'⟩
    · rw [hnone] at hnumber
      cases hnumber
    · rw [hkey, hkey']
      exact numberKey_ne_nodeKey review review.repositoryId
  · rw [hnumberless] at hsome
    cases hsome

/-- **When each review is counted once**: the count of a pull request is the number of node ids of
its eligible reviews exactly if none of them is counted under both of its ids. -/
theorem countedOnce_iff (hdistinct : (events.map (·.eventId)).Nodup)
    (h : staging server events = .ok staged) (hlanding : ReviewLanding server reviews events)
    {row : PullRequest} (hrow : row ∈ (build server seed staged).intPrLifecycle)
    {fact : FctPullRequest} (hfact : fact ∈ (build server seed staged).fctPullRequests)
    (hkey : fact.pullRequestKey = row.pullRequestKey) :
    fact.eligibleReviewCount = countDistinct
        ((eligibleReviewsOf server seed staged row.pullRequestKey).map (·.reviewNodeId)).reduceOption
      ↔ ¬ CountedTwice server staged.reviews row := by
  have hids : (staged.reviews.map (·.eventId)).Nodup :=
    stage_eventId_nodup (staging_iff.mp h).reviews
      (fun _ _ hsnapshot => reviewSnapshot_lineage hsnapshot) hdistinct
  -- the count is the number of the eligible rows
  have hcount : fact.eligibleReviewCount
      = (eligibleReviewsOf server seed staged row.pullRequestKey).length := by
    obtain ⟨other, hother, repository, -, -, rfl⟩ :=
      (mem_build_fctPullRequests server seed staged).mp hfact
    obtain rfl : other = row := List.inj_on_of_nodup_map (pullRequests_nodup server seed staged)
      hother hrow hkey
    show (((build server seed staged).intFirstEligibleReview.find? fun review =>
      other.pullRequestKey = review.pullRequestKey).map (·.rollup.eligibleReviewCount)).getD 0 = _
    rw [build_intFirstEligibleReview]
    exact eligibleReviewCount_eq
  have hrows : ((eligibleReviewsOf server seed staged row.pullRequestKey).map fun eligible =>
      (eligible.reviewKey, eligible.pullRequestKey)).Nodup :=
    (eligibleReviews_nodup (pullRequests_nodup server seed staged)).sublist
      (List.filter_sublist.map _)
  -- none of their node ids is null
  have hnodeId : ∀ eligible ∈ eligibleReviewsOf server seed staged row.pullRequestKey,
      eligible.reviewNodeId = some (eligible.reviewNodeId.getD "") := by
    intro eligible hmem
    obtain ⟨snapshot, hcounts, -, hsame⟩ := (mem_eligibleReviewsOf hids hrow).mp
      ⟨eligible, hmem, rfl, rfl⟩
    obtain ⟨review, -, hsnapshot⟩ := exists_review_of_countsFor h hlanding hcounts
    rw [← hsame, hsnapshot.nodeId]
    rfl
  have hlength : countDistinct ((eligibleReviewsOf server seed staged row.pullRequestKey).map
        fun eligible => eligible.reviewNodeId.getD "")
        = (eligibleReviewsOf server seed staged row.pullRequestKey).length
      ↔ ((eligibleReviewsOf server seed staged row.pullRequestKey).map
        fun eligible => eligible.reviewNodeId.getD "").Nodup := by
    rw [← countDistinct_eq_length_iff, List.length_map]
  rw [hcount, List.map_congr_left hnodeId, reduceOption_map_some, eq_comm, hlength,
    nodup_map_iff_of_key hrows]
  -- what is left: a node id tells the eligible rows apart
  constructor
  · rintro htells ⟨numbered, unnumbered, hnumbered, hunnumbered, hsome, hnone, hsame⟩
    obtain ⟨k, hlatest⟩ := hnumbered.latest
    obtain ⟨k', hlatest'⟩ := hunnumbered.latest
    obtain ⟨a, ha, hakey, hanode⟩ := (mem_eligibleReviewsOf hids hrow).mpr
      ⟨numbered, hnumbered, hlatest.key_eq, rfl⟩
    obtain ⟨b, hb, hbkey, hbnode⟩ := (mem_eligibleReviewsOf hids hrow).mpr
      ⟨unnumbered, hunnumbered, hlatest'.key_eq, rfl⟩
    have hpair := htells a ha b hb (by rw [hanode, hbnode, hsame])
    apply reviewKey_ne_of_countedTwice h hlanding hnumbered hunnumbered hsome hnone hsame
    rw [hlatest.key_eq, hlatest'.key_eq, ← hakey, ← hbkey, (Prod.mk.inj hpair).1]
  · intro hnot a ha b hb hsame
    obtain ⟨snapshot, hcounts, hskey, hsnode⟩ := (mem_eligibleReviewsOf hids hrow).mp
      ⟨a, ha, rfl, rfl⟩
    obtain ⟨snapshot', hcounts', hskey', hsnode'⟩ := (mem_eligibleReviewsOf hids hrow).mp
      ⟨b, hb, rfl, rfl⟩
    have hnodes : snapshot.reviewNodeId = snapshot'.reviewNodeId := by
      rw [hsnode, hsnode', hnodeId a ha, hnodeId b hb, hsame]
    have hkeys := reviewKey_eq_of_nodeId h hlanding hnot hcounts hcounts' hnodes
    rw [hskey, hskey', Option.some.injEq] at hkeys
    have hpullRequests : a.pullRequestKey = b.pullRequestKey :=
      (of_decide_eq_true (List.mem_filter.mp ha).2).trans
        (of_decide_eq_true (List.mem_filter.mp hb).2).symm
    exact Prod.ext hkeys hpullRequests

end

/-! ## A review of both paths -/

def exampleReview : GithubReview where
  repositoryId := 20001
  databaseId := "901"
  nodeId := "PRR_901"
  databaseId_numeral := by decide
  nodeId_text := by decide

/-- A server that knows the instants of the example. -/
def reviewServer : Server :=
  smallServer [("2026-07-24T08:00:00Z", july24 8), ("2026-07-24T11:00:00Z", july24 11)] []

/-- The pull request that is reviewed. -/
def reviewedPullRequest : RawEvent :=
  demoEvent 31 "pull_request" 0
    [("pull_request", .object
      [("number", .number 20 0), ("node_id", .string "PR_20"), ("state", .string "open"),
        ("user", .object [("login", .string "example-author")]),
        ("created_at", .string "2026-07-24T08:00:00Z")])]

/-- The review as a webhook. -/
def reviewWebhook : RawEvent :=
  demoEvent 32 "pull_request_review" 0
    [("pull_request", .object [("number", .number 20 0), ("node_id", .string "PR_20")]),
      ("review", .object
        [("id", .number 901 0), ("node_id", .string "PRR_901"), ("state", .string "approved"),
          ("user", .object [("login", .string "example-reviewer")]),
          ("submitted_at", .string "2026-07-24T11:00:00Z")])]

/-- The review as a node of the backfill, with the given `fullDatabaseId`. -/
def reviewNode (fullDatabaseId : Json) : RawEvent :=
  { demoEvent 33 "pull_request_review" 0
      [("pull_request_id", .string "PR_20"),
        ("pull_request_review", .object
          [("id", .string "PRR_901"), ("fullDatabaseId", fullDatabaseId),
            ("state", .string "APPROVED"), ("author", .object [("login", .string "example-reviewer")]),
            ("submittedAt", .string "2026-07-24T11:00:00Z")])]
    with source := .backfill }

theorem reviewLanding_example (fullDatabaseId : Json)
    (hid : textAt reviewServer (reviewNode fullDatabaseId).payload
        ["pull_request_review", "fullDatabaseId"] = none
      ∨ textAt reviewServer (reviewNode fullDatabaseId).payload
        ["pull_request_review", "fullDatabaseId"] = some "901") :
    ReviewLanding reviewServer [exampleReview]
      [reviewedPullRequest, reviewWebhook, reviewNode fullDatabaseId] where
  nodeId_unique := List.nodup_singleton _
  shown event hevent hname := by
    refine ⟨exampleReview, List.mem_singleton_self _, ?_⟩
    simp only [List.mem_cons, List.not_mem_nil, or_false] at hevent
    rcases hevent with rfl | rfl | rfl
    · exact absurd hname (by decide)
    · exact ⟨rfl, Or.inl ⟨by decide +kernel, by decide +kernel⟩⟩
    · exact ⟨rfl, Or.inr ⟨rfl, rfl, rfl, hid⟩⟩

/-- GitHub gives no `fullDatabaseId`: the review of both paths is counted twice. -/
theorem review_counted_twice :
    ∃ staged, staging reviewServer [reviewedPullRequest, reviewWebhook, reviewNode .null] = .ok staged
      ∧ ReviewLanding reviewServer [exampleReview]
          [reviewedPullRequest, reviewWebhook, reviewNode .null]
      ∧ ∃ fact ∈ (build reviewServer (demoSeed "UTC") staged).fctPullRequests,
          fact.eligibleReviewCount = 2
          ∧ countDistinct ((eligibleReviewsOf reviewServer (demoSeed "UTC") staged
              fact.pullRequestKey).map (·.reviewNodeId)).reduceOption = 1 := by
  have hrun : ∃ staged, staging reviewServer
        [reviewedPullRequest, reviewWebhook, reviewNode .null] = .ok staged
      ∧ ∃ fact ∈ (build reviewServer (demoSeed "UTC") staged).fctPullRequests,
          fact.eligibleReviewCount = 2
          ∧ countDistinct ((eligibleReviewsOf reviewServer (demoSeed "UTC") staged
              fact.pullRequestKey).map (·.reviewNodeId)).reduceOption = 1 := by
    decide +kernel
  obtain ⟨staged, h, hfact⟩ := hrun
  exact ⟨staged, h, reviewLanding_example _ (Or.inl rfl), hfact⟩

/-- With the `fullDatabaseId` the two snapshots have one key. -/
theorem countedOnce_iff_numbered :
    ∃ staged, staging reviewServer
        [reviewedPullRequest, reviewWebhook, reviewNode (.string "901")] = .ok staged
      ∧ ∃ row ∈ (build reviewServer (demoSeed "UTC") staged).intPrLifecycle,
        ∃ fact ∈ (build reviewServer (demoSeed "UTC") staged).fctPullRequests,
          fact.eligibleReviewCount = 1
          ∧ fact.eligibleReviewCount = countDistinct ((eligibleReviewsOf reviewServer
              (demoSeed "UTC") staged row.pullRequestKey).map (·.reviewNodeId)).reduceOption
          ∧ ¬ CountedTwice reviewServer staged.reviews row := by
  have hrun : ∃ staged, staging reviewServer
        [reviewedPullRequest, reviewWebhook, reviewNode (.string "901")] = .ok staged
      ∧ ∃ row ∈ (build reviewServer (demoSeed "UTC") staged).intPrLifecycle,
        ∃ fact ∈ (build reviewServer (demoSeed "UTC") staged).fctPullRequests,
          fact.pullRequestKey = row.pullRequestKey ∧ fact.eligibleReviewCount = 1
          ∧ countDistinct ((eligibleReviewsOf reviewServer (demoSeed "UTC") staged
              row.pullRequestKey).map (·.reviewNodeId)).reduceOption = 1 := by
    decide +kernel
  obtain ⟨staged, h, row, hrow, fact, hfact, hkey, hone, hnodes⟩ := hrun
  have hlanding := reviewLanding_example (.string "901") (Or.inr rfl)
  have hcount := hone.trans hnodes.symm
  exact ⟨staged, h, row, hrow, fact, hfact, hone, hcount,
    (countedOnce_iff (by decide) h hlanding hrow hfact hkey).mp hcount⟩

end Dbt
