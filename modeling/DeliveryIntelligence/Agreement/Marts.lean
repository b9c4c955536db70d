import DeliveryIntelligence.Agreement.Projection
import DeliveryIntelligence.Agreement.Staged

set_option autoImplicit false

/-!
# The marts show the events

`int_pr_lifecycle` and `int_first_eligible_review` over the staged events give each pull request a
row of `fct_pull_requests` that shows them (`marts_show`), so the warehouse and the serving
projection agree (`projection_agrees_with_marts`).
-/

namespace Agreement

open Consumers Monitor Postgres Query
open PrStorage (PullRequestKey PullRequestState SubmittedReview Call Serving)
open RawEvents (RawEvent RawTable Generated)
open Warehouse (WebhookRawEvent)
open Dbt (Server Seed Staged july24)

variable {parsers : PayloadParsers} {server : Server} {events : List (Event parsers)}
  {staged : Staged}

/-! ## Keys -/

theorem keyText_inj {n n' m m' : Int}
    (h : toString n ++ ":" ++ toString m = toString n' ++ ":" ++ toString m') :
    n = n' ∧ m = m' := by
  have htext := congrArg String.toList h
  rw [String.toList_append, String.toList_append, String.toList_append, String.toList_append,
    List.append_assoc, List.append_assoc] at htext
  have hcolon : ∀ k : Int, ':' ∉ Text.intText k :=
    fun k => Text.notMem_intText (by decide) (by decide)
  obtain ⟨hn, hm⟩ := Text.append_separator_inj (hcolon n) (hcolon n') htext
  exact ⟨Text.intText_injective hn, Text.intText_injective hm⟩

/-- The key text of the warehouse and the key of the projection tell the same pull requests
apart. -/
theorem Consistent.keyText_eq_iff (h : Consistent server events) {e e' : Event parsers}
    (he : e ∈ events) (he' : e' ∈ events) : e.keyText = e'.keyText ↔ e.key = e'.key := by
  rw [h.key_of_number he he']
  constructor
  · exact keyText_inj
  · rintro ⟨hrepository, hnumber⟩
    unfold Event.keyText
    rw [hrepository, hnumber]

/-! ## `int_pr_lifecycle` -/

/-- The row of `int_pr_lifecycle` that the events of a pull request make, the latest of its
pull_request events being `l`. -/
structure IsLifecycleRow (server : Server) (events : List (Event parsers)) (l : Event parsers)
    (row : Dbt.PullRequest) : Prop where
  isLatest : IsLatest events l.key l
  repositoryId : row.repositoryId = l.snapshot.repositoryId
  key_eq : row.pullRequestKey = l.keyText
  number : row.pullRequestNumber = some l.snapshot.pullRequestNumber
  nodeId : ∀ id, row.pullRequestNodeId = some id →
    ∃ o ∈ events, o.key = l.key ∧ o.nodeId server = some id
  authorLogin : row.authorLogin = some l.snapshot.authorLogin
  createdAt : row.createdAt = some l.snapshot.openedAt
  state : row.pullRequestState = some "merged"
      ∧ (∃ m ∈ events, m.review = none ∧ m.key = l.key ∧ m.IsMerged server)
    ∨ row.pullRequestState = some (stateText l.state)

/-- The pull_request rows with one key are those of the events of one pull request. -/
theorem mem_group (hconsistent : Consistent server events) (hstaged : IsStaged server events staged)
    {l : Event parsers} (hl : l ∈ events) {row : Dbt.PullRequestSnapshot}
    (hrow : row ∈ staged.pullRequests.filter fun row => row.pullRequestKey = some l.keyText) :
    ∃ e ∈ events, e.review = none ∧ e.key = l.key ∧ IsPullRequestRow server e row := by
  obtain ⟨hmem, hkey⟩ := List.mem_filter.mp hrow
  obtain ⟨e, he, hnone, hof⟩ := hstaged.pullRequest row hmem
  have htext : e.keyText = l.keyText :=
    Option.some.inj (hof.key_eq.symm.trans (of_decide_eq_true hkey))
  exact ⟨e, he, hnone, (hconsistent.keyText_eq_iff he hl).mp htext, hof⟩

/-- The first row of a group in the order of snapshots is that of its latest event. -/
theorem updatedAt_le_of_first (hconsistent : Consistent server events)
    (hstaged : IsStaged server events staged) {l o : Event parsers}
    {latest : Dbt.PullRequestSnapshot} (hl : l ∈ events)
    (hfirst : firstBy Dbt.pullRequestOrder
      (staged.pullRequests.filter fun row => row.pullRequestKey = some l.keyText) = some latest)
    (hof : IsPullRequestRow server l latest) (ho : o ∈ events) (hnone : o.review = none)
    (hkey : o.key = l.key) : o.updatedAt ≤ l.updatedAt := by
  obtain ⟨row, hrow, horow⟩ := hstaged.pullRequests o ho hnone
  have htext : o.keyText = l.keyText := (hconsistent.keyText_eq_iff ho hl).mpr hkey
  have hle := isLE_of_compareLex (firstBy_isLE hfirst row (List.mem_filter.mpr
    ⟨hrow, decide_eq_true (horow.key_eq.trans (congrArg some htext))⟩))
  -- the order compares the first of five times, and both rows have the first of these
  have hchanged : (nullsLast compare
      (coalesce [row.updatedAt, row.mergedAt, row.closedAt, row.occurredAt, some row.ingestedAt])
      (coalesce [latest.updatedAt, latest.mergedAt, latest.closedAt, latest.occurredAt,
        some latest.ingestedAt])).isLE := hle
  rw [horow.updatedAt, hof.updatedAt] at hchanged
  exact Std.isLE_compare.mp hchanged

/-- The time of a merge comes from a row of the group. -/
theorem exists_merged_of_coalesce {rows : List Dbt.PullRequestSnapshot}
    {latest : Dbt.PullRequestSnapshot} (hlatest : latest ∈ rows) {mergedAt : Timestamp}
    (h : coalesce [latest.mergedAt, (Dbt.pullRequestRollup server rows).observedMergedAt]
      = some mergedAt) : ∃ row ∈ rows, row.mergedAt.isSome = true := by
  cases hown : latest.mergedAt with
  | some t => exact ⟨latest, hlatest, by rw [hown]; rfl⟩
  | none =>
      rw [hown] at h
      have hobserved : maximum compare (rows.map (·.mergedAt)) = some mergedAt := by
        simpa [coalesce, Dbt.pullRequestRollup] using h
      obtain ⟨row, hrow, hat⟩ := List.mem_map.mp
        (List.reduceOption_mem_iff.mp (firstBy_mem hobserved))
      exact ⟨row, hrow, by rw [hat]; rfl⟩

theorem isLifecycleRow (hconsistent : Consistent server events)
    (hstaged : IsStaged server events staged) {row : Dbt.PullRequest}
    (hrow : row ∈ Dbt.intPrLifecycle server staged.pullRequests) :
    ∃ l, IsLifecycleRow server events l row := by
  obtain ⟨⟨key, latest, rollup⟩, hresolved, rfl⟩ := List.mem_map.mp hrow
  obtain ⟨hkey, hfirst, rfl⟩ := mem_resolve.mp hresolved
  obtain ⟨l, hl, hnone, hof⟩ := hstaged.pullRequest latest
    (List.mem_filter.mp (firstBy_mem hfirst)).1
  obtain rfl : l.keyText = key := Option.some.inj (hof.key_eq.symm.trans hkey)
  have hgroup := fun row hrow => @mem_group _ _ _ _ hconsistent hstaged l hl row hrow
  have hlatest : IsLatest events l.key l :=
    ⟨hl, hnone, rfl, fun o ho honone hokey =>
      updatedAt_le_of_first hconsistent hstaged hl hfirst hof ho honone hokey⟩
  refine ⟨l, hlatest, hof.repositoryId, rfl, hof.number, fun id hid => ?_, hof.authorLogin, ?_, ?_⟩
  -- the node id is one of the group
  · have hmem := List.reduceOption_mem_iff.mp (firstBy_mem hid)
    obtain ⟨row, hrow, hnode⟩ := List.mem_map.mp hmem
    obtain ⟨o, ho, -, hokey, horow⟩ := hgroup row hrow
    exact ⟨o, ho, hokey, horow.nodeId.symm.trans hnode⟩
  -- the first time of creation is that of every row of the group
  · refine minimum_eq_some (List.mem_map.mpr ⟨latest, firstBy_mem hfirst, hof.createdAt⟩) ?_
    intro createdAt hmem
    obtain ⟨row, hrow, hcreated⟩ := List.mem_map.mp hmem
    obtain ⟨o, ho, -, hokey, horow⟩ := hgroup row hrow
    have hsame : o.snapshot.openedAt = l.snapshot.openedAt := (hconsistent.author o ho l hl hokey).2
    have heq : o.snapshot.openedAt = createdAt :=
      Option.some.inj (horow.createdAt.symm.trans hcreated)
    rw [← heq, hsame]
    exact Std.ReflCmp.isLE_rfl
  -- the state is merged where any row of the group is
  · show (if (coalesce [latest.mergedAt, _]).isSome then some "merged"
      else latest.pullRequestState) = _ ∧ _ ∨ (if _ then _ else _) = _
    cases hmerged : coalesce [latest.mergedAt,
        (Dbt.pullRequestRollup server (staged.pullRequests.filter fun row =>
          row.pullRequestKey = some l.keyText)).observedMergedAt] with
    | none => exact Or.inr hof.state
    | some mergedAt =>
        obtain ⟨row, hrow, hat⟩ := exists_merged_of_coalesce (firstBy_mem hfirst) hmerged
        obtain ⟨m, hm, hmnone, hmkey, hmrow⟩ := hgroup row hrow
        exact Or.inl ⟨rfl, m, hm, hmnone, hmkey, hmrow.merged hat⟩

/-- Every pull request of the log has a row. -/
theorem exists_lifecycleRow (hconsistent : Consistent server events)
    (hstaged : IsStaged server events staged) {e : Event parsers} (he : e ∈ events) :
    ∃ row ∈ Dbt.intPrLifecycle server staged.pullRequests, row.pullRequestKey = e.keyText := by
  obtain ⟨o, ho, hnone, hkey⟩ := hconsistent.observed e he
  obtain ⟨snapshot, hsnapshot, hof⟩ := hstaged.pullRequests o ho hnone
  have htext : o.keyText = e.keyText := (hconsistent.keyText_eq_iff ho he).mpr hkey
  have hmem : e.keyText ∈ (Dbt.intPrLifecycle server staged.pullRequests).map (·.pullRequestKey) :=
    Dbt.mem_map_key_intPrLifecycle.mpr
      (List.mem_map.mpr ⟨snapshot, hsnapshot, hof.key_eq.trans (congrArg some htext)⟩)
  exact List.mem_map.mp hmem

/-- A row of `int_pr_lifecycle` is open when the newest snapshot of its pull request is. -/
theorem IsLifecycleRow.isOpen_iff (hconsistent : Consistent server events) {l : Event parsers}
    {row : Dbt.PullRequest} (h : IsLifecycleRow server events l row) :
    row.pullRequestState = some "open"
      ↔ ∃ n, IsNewest events l.key n ∧ n.state = .open := by
  obtain ⟨n, hn⟩ := exists_isNewest h.isLatest.mem
  have hnewest : ∀ n', IsNewest events l.key n' → n'.state = l.state :=
    fun n' hn' => hconsistent.state_of_newest h.isLatest hn'
  rcases h.state with ⟨hstate, m, hm, hnone, hkey, hmerged⟩ | hstate
  · have hclosed : ∀ n', IsNewest events l.key n' → n'.state = .closed :=
      fun n' hn' => hconsistent.closed_of_merged hm hnone hmerged hkey hn'
    refine iff_of_false ?_ ?_
    · rw [hstate]
      decide
    · rintro ⟨n', hn', hopen⟩
      rw [hclosed n' hn'] at hopen
      cases hopen
  · rw [hstate]
    cases hl : l.state with
    | «open» => exact iff_of_true rfl ⟨n, hn, (hnewest n hn).trans hl⟩
    | closed =>
        refine iff_of_false (by decide) ?_
        rintro ⟨n', hn', hopen⟩
        rw [hnewest n' hn', hl] at hopen
        cases hopen

/-! ## `int_first_eligible_review` -/

/-- Ids and case-folded logins tell the same reviewers from the author. -/
theorem Consistent.reviewer_iff (h : Consistent server events) {e l : Event parsers}
    {r : SubmittedReview} (he : e ∈ events) (hl : l ∈ events) (hr : e.review = some r)
    (hkey : e.key = l.key) :
    r.reviewerId ≠ r.pullRequest.authorId
      ↔ server.lower r.reviewerLogin ≠ server.lower l.snapshot.authorLogin := by
  have hauthor : r.pullRequest.authorId = l.snapshot.authorId := by
    rw [← Event.snapshot_of_review hr]
    exact (h.author e he l hl hkey).1
  have hreviewer : (r.reviewerId, r.reviewerLogin) ∈ e.users := by
    unfold Event.users
    rw [hr]
    exact List.mem_cons_of_mem _ List.mem_cons_self
  have hsame := h.user e he l hl _ hreviewer _ List.mem_cons_self
  rw [hauthor]
  exact not_congr hsame

/-- A staged review and a row of `int_pr_lifecycle` belong together when their events are of one
pull request. -/
theorem reviewOfPullRequest_iff (hconsistent : Consistent server events) {e l : Event parsers}
    {r : SubmittedReview} {review : Dbt.ReviewSnapshot} {row : Dbt.PullRequest} (he : e ∈ events)
    (hreview : IsReviewRow server e r review) (hrow : IsLifecycleRow server events l row) :
    Dbt.reviewOfPullRequest review row = true ↔ e.key = l.key := by
  have hl := hrow.isLatest.mem
  unfold Dbt.reviewOfPullRequest
  rw [Bool.and_eq_true, Bool.or_eq_true, decide_eq_true_iff, holds_equal, holds_equal,
    hreview.repositoryId, hrow.repositoryId]
  constructor
  · rintro ⟨hrepository, ⟨id, hid, hid'⟩ | ⟨number, hnumber, hnumber'⟩⟩
    · obtain ⟨o, ho, hokey, honode⟩ := hrow.nodeId id hid'
      have horepository : o.snapshot.repositoryId = l.snapshot.repositoryId :=
        congrArg PullRequestKey.repositoryId hokey
      have hsame := hconsistent.nodeId e he o ho (hrepository.trans horepository.symm) id
        (hreview.nodeId.symm.trans hid) honode
      exact hsame.trans hokey
    · rw [hconsistent.key_of_number he hl]
      refine ⟨hrepository, ?_⟩
      rw [hreview.number] at hnumber
      rw [hrow.number] at hnumber'
      exact (Option.some.inj hnumber).trans (Option.some.inj hnumber').symm
  · intro hkey
    obtain ⟨hrepository, hnumber⟩ := (hconsistent.key_of_number he hl).mp hkey
    refine ⟨hrepository, Or.inr ⟨l.snapshot.pullRequestNumber, ?_, hrow.number⟩⟩
    rw [hreview.number, hnumber]

/-- A staged review counts when the reviewer is not the author. -/
theorem isEligibleReview_iff (hconsistent : Consistent server events) {e l : Event parsers}
    {r : SubmittedReview} {review : Dbt.ReviewSnapshot} {row : Dbt.PullRequest} (he : e ∈ events)
    (hr : e.review = some r) (hkey : e.key = l.key) (hreview : IsReviewRow server e r review)
    (hrow : IsLifecycleRow server events l row) :
    Dbt.isEligibleReview server review row = true ↔ r.reviewerId ≠ r.pullRequest.authorId := by
  have hl := hrow.isLatest.mem
  have hstate : holds (negate (equal review.reviewState (some "pending"))) = true := by
    have hall : ∀ text ∈ ["approved", "changes_requested", "commented"],
        holds (negate (equal (some text) (some "pending"))) = true := by decide
    obtain ⟨text, hmem, hstate⟩ := hreview.state
    rw [hstate]
    exact hall text hmem
  have hcreated : holds (atMost row.createdAt review.submittedAt) = true := by
    rw [holds_atMost]
    refine ⟨_, _, hrow.createdAt, hreview.submittedAt, ?_⟩
    rw [← (hconsistent.author e he l hl hkey).2]
    exact hconsistent.submitted e he r hr
  rw [hconsistent.reviewer_iff he hl hr hkey]
  unfold Dbt.isEligibleReview
  rw [hstate, hcreated, hreview.reviewerLogin, hrow.authorLogin]
  simp [negate, equal]

/-- The eligible reviews of a pull request are the reviews of users other than its author. -/
theorem reviewedAt_iff (hconsistent : Consistent server events)
    (hstaged : IsStaged server events staged) {l : Event parsers} {row : Dbt.PullRequest}
    (hin : row ∈ Dbt.intPrLifecycle server staged.pullRequests)
    (hrow : IsLifecycleRow server events l row) {t : Timestamp} :
    (∃ eligible ∈ Dbt.eligibleReviews server staged.reviews
          (Dbt.intPrLifecycle server staged.pullRequests),
        eligible.pullRequestKey = l.keyText ∧ eligible.submittedAt = some t)
      ↔ ReviewedAt events l.key t := by
  constructor
  · rintro ⟨eligible, hmem, hkey, hsubmitted⟩
    obtain ⟨_, review, _, hresolved, row', hrow', hon, heligible, rfl⟩ :=
      Dbt.mem_eligibleReviews.mp hmem
    obtain ⟨-, hfirst, -⟩ := mem_resolve.mp hresolved
    obtain ⟨e, he, r, hr, hreview⟩ := hstaged.review review
      (List.mem_filter.mp (firstBy_mem hfirst)).1
    obtain ⟨l', hl'⟩ := isLifecycleRow hconsistent hstaged hrow'
    have hsame : l'.key = l.key :=
      (hconsistent.keyText_eq_iff hl'.isLatest.mem hrow.isLatest.mem).mp
        (hl'.key_eq.symm.trans hkey)
    have hekey : e.key = l'.key := (reviewOfPullRequest_iff hconsistent he hreview hl').mp hon
    have hother := (isEligibleReview_iff hconsistent he hr hekey hreview hl').mp heligible
    have hat : r.submittedAt = t := Option.some.inj (hreview.submittedAt.symm.trans hsubmitted)
    exact ⟨e, he, r, hr, hekey.trans hsame, hother, hat⟩
  · rintro ⟨e, he, r, hr, hekey, hother, rfl⟩
    obtain ⟨snapshot, hsnapshot, hof⟩ := hstaged.reviews e he r hr
    have hgroup : snapshot ∈ staged.reviews.filter fun row =>
        row.reviewKey = some (e.reviewKeyText r) :=
      List.mem_filter.mpr ⟨hsnapshot, decide_eq_true hof.key_eq⟩
    obtain ⟨review, hfirst⟩ := exists_firstBy Dbt.reviewOrder hgroup
    obtain ⟨hreviewMem, hreviewKey⟩ := List.mem_filter.mp (firstBy_mem hfirst)
    obtain ⟨e', he', r', hr', hreview⟩ := hstaged.review review hreviewMem
    -- the resolved row may come from another event that carries the same review
    obtain ⟨hrepository, hid⟩ := keyText_inj (Option.some.inj
      (hreview.key_eq.symm.trans (of_decide_eq_true hreviewKey)))
    obtain ⟨hsameKey, hreviewer, hsubmitted⟩ :=
      hconsistent.review e' he' e he r' r hr' hr hrepository hid
    have hekey' : e'.key = l.key := hsameKey.trans hekey
    have hauthor : r'.pullRequest.authorId = r.pullRequest.authorId := by
      rw [← Event.snapshot_of_review hr', ← Event.snapshot_of_review hr]
      exact (hconsistent.author e' he' e he hsameKey).1
    have hother' : r'.reviewerId ≠ r'.pullRequest.authorId := by
      rw [hreviewer, hauthor]
      exact hother
    refine ⟨_, Dbt.mem_eligibleReviews.mpr ⟨_, review, _, mem_resolve.mpr
      ⟨of_decide_eq_true hreviewKey, hfirst, rfl⟩, row, hin, ?_, ?_, rfl⟩, hrow.key_eq, ?_⟩
    · exact (reviewOfPullRequest_iff hconsistent he' hreview hrow).mpr hekey'
    · exact (isEligibleReview_iff hconsistent he' hr' hekey' hreview hrow).mpr hother'
    · exact hreview.submittedAt.trans (congrArg some hsubmitted)

/-! ## `fct_pull_requests` -/

/-- **The marts show the events**: each pull request has one row, and it shows them. -/
theorem marts_show (hconsistent : Consistent server events)
    (hstaged : IsStaged server events staged) (seed : Seed) {e : Event parsers} (he : e ∈ events) :
    ∃ fact ∈ (Dbt.build server seed staged).fctPullRequests, fact.pullRequestKey = e.keyText
      ∧ (∀ other ∈ (Dbt.build server seed staged).fctPullRequests,
          other.pullRequestKey = e.keyText → other = fact)
      ∧ Shows events e.key (fact.pullRequestState = some "open") fact.firstReviewAt := by
  obtain ⟨row, hrow, hkey⟩ := exists_lifecycleRow hconsistent hstaged he
  obtain ⟨l, hl⟩ := isLifecycleRow hconsistent hstaged hrow
  have htext : l.keyText = e.keyText := hl.key_eq.symm.trans hkey
  have hlkey : l.key = e.key := (hconsistent.keyText_eq_iff hl.isLatest.mem he).mp htext
  have hbuilt : row ∈ (Dbt.build server seed staged).intPrLifecycle := by
    rw [Dbt.build_intPrLifecycle]
    exact hrow
  obtain ⟨repository, -, hfact⟩ := Dbt.exists_fctPullRequest server seed staged hbuilt
  refine ⟨_, hfact, hkey, fun other hother hotherKey => ?_, ?_, fun t => ?_⟩
  · exact List.inj_on_of_nodup_map (Dbt.fctPullRequests_nodup server seed staged) hother hfact
      (hotherKey.trans hkey.symm)
  · rw [← hlkey]
    exact hl.isOpen_iff hconsistent
  · show ((Dbt.build server seed staged).intFirstEligibleReview.find? _).bind _ = some t ↔ _
    rw [Dbt.build_intFirstEligibleReview, Dbt.build_intPrLifecycle, Dbt.firstReviewAt_iff,
      hl.key_eq]
    simp only [reviewedAt_iff hconsistent hstaged hrow hl, hlkey]

/-- The marts speak of no other pull request. -/
theorem event_of_fact (hconsistent : Consistent server events)
    (hstaged : IsStaged server events staged) (seed : Seed) {fact : Dbt.FctPullRequest}
    (hfact : fact ∈ (Dbt.build server seed staged).fctPullRequests) :
    ∃ e ∈ events, fact.pullRequestKey = e.keyText := by
  obtain ⟨row, hrow, -, -, -, rfl⟩ := (Dbt.mem_build_fctPullRequests server seed staged).mp hfact
  rw [Dbt.build_intPrLifecycle] at hrow
  obtain ⟨l, hl⟩ := isLifecycleRow hconsistent hstaged hrow
  exact ⟨l, hl.isLatest.mem, hl.key_eq⟩

/-- The warehouse and the projection show the same of a pull request. -/
structure Agree (db : Serving) (marts : Dbt.Marts) (e : Event parsers) (fact : Dbt.FctPullRequest) :
    Prop where
  mem : fact ∈ marts.fctPullRequests
  key_eq : fact.pullRequestKey = e.keyText
  unique : ∀ other ∈ marts.fctPullRequests, other.pullRequestKey = e.keyText → other = fact
  isOpen_iff : (∃ row, db.openPullRequests.lookup e.key = some row)
    ↔ fact.pullRequestState = some "open"
  firstReviewAt : (db.firstReviews.lookup e.key).map (·.submittedAt) = fact.firstReviewAt

/-- **The serving projection and the warehouse agree** on every pull request of the log, and no
other has a row in either. -/
theorem projection_agrees_with_marts {calls : List Call} {db : Serving}
    {deliveries : List (WebhookRawEvent × Generated)} {table : RawTable} {rows : List RawEvent}
    (hconsistent : Consistent server events) (hreads : ∀ e ∈ events, ReadsAlike server e)
    (hcalls : Projected events calls) (hrun : PrStorage.execAll calls .empty = .ok db)
    (hdelivered : Delivered events deliveries) (hinsert : insertAll deliveries ∅ = .ok table)
    (hrows : rows.Perm (table.rows.map Prod.snd))
    (hstaging : Dbt.staging server rows = .ok staged) (seed : Seed) :
    (∀ e ∈ events, ∃ fact, Agree db (Dbt.build server seed staged) e fact)
    ∧ (∀ fact ∈ (Dbt.build server seed staged).fctPullRequests,
        ∃ e ∈ events, fact.pullRequestKey = e.keyText)
    ∧ ∀ k, (∀ e ∈ events, e.key ≠ k) →
        db.openPullRequests.lookup k = none ∧ db.firstReviews.lookup k = none := by
  have hlanded := landed_of_insertAll hconsistent hdelivered hinsert hrows
  have hstaged := staged_of_landing hreads hlanded hstaging
  refine ⟨fun e he => ?_, fun fact hfact => event_of_fact hconsistent hstaged seed hfact,
    fun k hk => ?_⟩
  · obtain ⟨fact, hfact, hkey, hunique, hmarts⟩ := marts_show hconsistent hstaged seed he
    have hserving := projection_shows hconsistent hcalls hrun e.key
    obtain ⟨hopen, hfirst⟩ := hserving.agree hmarts
    exact ⟨fact, hfact, hkey, hunique, hopen, hfirst⟩
  · exact (projection_shows hconsistent hcalls hrun k).nothing hk

/-! ## A pull request that is reviewed and merged -/

def sampleInstants : List (String × Timestamp) :=
  [ ("2026-07-24T08:00:00Z", july24 8), ("2026-07-24T09:00:00Z", july24 9)
  , ("2026-07-24T12:00:00Z", july24 12) ]

def sampleServer : Server := Dbt.smallServer sampleInstants []

/-- The `pull_request` object of a webhook, and a review where there is one. -/
def samplePayload (state updatedAt : String) (mergedAt : Json) (rest : List (String × Json)) :
    List (String × Json) :=
  ("pull_request", .object
    [ ("id", .number 30007 0), ("number", .number 27 0), ("node_id", .string "PR_27")
    , ("state", .string state), ("title", .string "Review a feature")
    , ("user", .object [("id", .number 40007 0), ("login", .string "author")])
    , ("draft", .bool false), ("created_at", .string "2026-07-24T08:00:00Z")
    , ("updated_at", .string updatedAt), ("merged_at", mergedAt) ]) :: rest

def sampleEnvelope (deliveryId action : String) (htexts : deliveryId ≠ "" ∧ action ≠ "")
    (eventName : GitHubEventName) (payload : List (String × Json)) : GitHubEventEnvelope where
  deliveryId := deliveryId
  eventName := eventName
  action := action
  installationId := 1
  repositoryId := 20007
  repositoryFullName := "example-org/delivery-demo"
  receivedAt := ⟨july24 12, 0⟩
  payload := payload
  texts_nonempty := htexts
  identities_pos := by decide

/-- What `_PullRequest` reads from the sample payloads. -/
def samplePullRequest (payload : List (String × Json)) : Option PullRequest :=
  let text (name : String) :=
    Dbt.textAt sampleServer (.object payload) ["pull_request", name]
  (text "updated_at").bind fun updatedAt => (sampleInstants.lookup updatedAt).map fun instant =>
    { id := 30007
      number := 27
      state := if text "state" = some "open" then .open else .closed
      title := "Review a feature"
      user := ⟨40007, "author", by decide, by decide⟩
      draft := false
      createdAt := ⟨july24 8, 0⟩
      updatedAt := ⟨instant, 0⟩
      identities_pos := by decide
      title_nonempty := by decide }

def sampleReview : Review where
  id := 50007
  user := ⟨40008, "reviewer", by decide, by decide⟩
  submittedAt := ⟨july24 9, 0⟩
  id_pos := by decide

def openedEnvelope : GitHubEventEnvelope :=
  sampleEnvelope "w-1" "opened" (by decide) .pullRequest
    (samplePayload "open" "2026-07-24T08:00:00Z" .null [])

def reviewedEnvelope : GitHubEventEnvelope :=
  sampleEnvelope "w-2" "submitted" (by decide) .pullRequestReview
    (samplePayload "open" "2026-07-24T09:00:00Z" .null
      [("review", .object
        [ ("id", .number 50007 0), ("state", .string "approved")
        , ("user", .object [("id", .number 40008 0), ("login", .string "reviewer")])
        , ("submitted_at", .string "2026-07-24T09:00:00Z") ])])

def mergedEnvelope : GitHubEventEnvelope :=
  sampleEnvelope "w-3" "closed" (by decide) .pullRequest
    (samplePayload "closed" "2026-07-24T12:00:00Z" (.string "2026-07-24T12:00:00Z") [])

/-- The parsers of the sample, with one byte for each of its messages. -/
def sampleParsers : PayloadParsers where
  envelope bytes :=
    if bytes = [1] then .ok openedEnvelope
    else if bytes = [2] then .ok reviewedEnvelope
    else if bytes = [3] then .ok mergedEnvelope
    else .error .validation
  datetime _ := none
  jsonLoads _ := .error .decode
  pullRequestPayload payload := (samplePullRequest payload).map fun p => ⟨p⟩
  submittedReviewPayload payload := (samplePullRequest payload).map fun p => ⟨⟨p⟩, sampleReview⟩

/-- The snapshot of the sample in the given delivery. -/
def sampleSnapshot (deliveryId : String) (hdelivery : Python.hasText deliveryId = true)
    (state : PullRequestState) (updatedAt : Timestamp) : PrStorage.PullRequestSnapshot where
  deliveryId := deliveryId
  repositoryId := 20007
  repositoryFullName := "example-org/delivery-demo"
  pullRequestId := 30007
  pullRequestNumber := 27
  state := state
  title := "Review a feature"
  authorId := 40007
  authorLogin := "author"
  isDraft := false
  openedAt := july24 8
  updatedAt := updatedAt
  identities_pos := by decide
  texts_nonempty := ⟨hdelivery, by decide, by decide, by decide⟩

def opened : Event sampleParsers where
  envelope := openedEnvelope
  command := .pullRequest (sampleSnapshot "w-1" (by decide) .open (july24 8))
  accepted := rfl

def reviewed : Event sampleParsers where
  envelope := reviewedEnvelope
  command := .submittedReview
    { pullRequest := sampleSnapshot "w-2" (by decide) .open (july24 9)
      reviewId := 50007
      reviewerId := 40008
      reviewerLogin := "reviewer"
      submittedAt := july24 9
      identities_pos := by decide
      login_nonempty := by decide }
  accepted := rfl

def merged : Event sampleParsers where
  envelope := mergedEnvelope
  command := .pullRequest (sampleSnapshot "w-3" (by decide) .closed (july24 12))
  accepted := rfl

/-- The log of the sample. -/
def sampleLog : List (Event sampleParsers) := [opened, reviewed, merged]

theorem mem_sampleLog {e : Event sampleParsers} (h : e ∈ sampleLog) :
    e = opened ∨ e = reviewed ∨ e = merged := by
  simpa [sampleLog] using h

theorem key_of_mem_sampleLog {e e' : Event sampleParsers} (he : e ∈ sampleLog)
    (he' : e' ∈ sampleLog) : e.key = e'.key := by
  have hall : ∀ e ∈ sampleLog, ∀ e' ∈ sampleLog, e.key = e'.key := by decide +kernel
  exact hall e he e' he'

theorem sampleLog_consistent : Consistent sampleServer sampleLog where
  delivery e he e' he' hdelivery := by
    rcases mem_sampleLog he with rfl | rfl | rfl <;> rcases mem_sampleLog he' with rfl | rfl | rfl
    all_goals first
      | exact ⟨rfl, rfl, rfl⟩
      | exact absurd hdelivery (by decide)
  number := by decide +kernel
  nodeId e he e' he' _ _ _ _ := key_of_mem_sampleLog he he'
  user := by decide +kernel
  review e he e' he' r r' hr hr' _ _ := by
    have hone : ∀ e ∈ sampleLog, ∀ r, e.review = some r → some r = reviewed.review := by
      intro e he r hr
      rcases mem_sampleLog he with rfl | rfl | rfl
      · cases hr
      · exact hr.symm
      · cases hr
    have hsame : r = r' := Option.some.inj ((hone e he r hr).trans (hone e' he' r' hr').symm)
    rw [hsame]
    exact ⟨key_of_mem_sampleLog he he', rfl, rfl⟩
  author := by decide +kernel
  submitted e he r hr := by
    rcases mem_sampleLog he with rfl | rfl | rfl
    · cases hr
    · cases hr
      decide
    · cases hr
  observed e he := ⟨opened, List.mem_cons_self, rfl, key_of_mem_sampleLog List.mem_cons_self he⟩
  sameTime := by decide +kernel
  merged e he hnone hmerged e' he' _ hle := by
    rcases mem_sampleLog he with rfl | rfl | rfl
    · exact absurd hmerged (by unfold Event.IsMerged; decide +kernel)
    · cases hnone
    · revert e' hle
      decide +kernel
  carried e he r hr l hl hnone _ hlt _ := by
    rcases mem_sampleLog he with rfl | rfl | rfl
    · cases hr
    · rcases mem_sampleLog hl with rfl | rfl | rfl
      · rfl
      · cases hnone
      · exact absurd hlt (by decide)
    · cases hr

theorem sampleLog_readsAlike : ∀ e ∈ sampleLog, ReadsAlike sampleServer e := by
  intro e he
  rcases mem_sampleLog he with rfl | rfl | rfl
  · refine ⟨by decide +kernel, by decide +kernel, fun _ => ?_, fun r hr => nomatch hr⟩
    constructor <;> decide +kernel
  · refine ⟨by decide +kernel, by decide +kernel, (fun hr => nomatch hr), fun r hr => ?_⟩
    cases hr
    constructor <;> decide +kernel
  · refine ⟨by decide +kernel, by decide +kernel, fun _ => ?_, fun r hr => nomatch hr⟩
    constructor <;> decide +kernel

/-- The monitor gets the merge first and the opening twice, with a sweep between. -/
def sampleCalls : List Call :=
  [ merged.command.call, reviewed.command.call, .createStaleAlerts (july24 10) (july24 12)
  , opened.command.call, opened.command.call ]

theorem sampleCalls_projected : Projected sampleLog sampleCalls := by
  intro c hc
  constructor
  · intro hmem
    simp only [sampleCalls, List.mem_cons, List.not_mem_nil, or_false] at hmem
    rcases hmem with rfl | rfl | rfl | rfl | rfl
    · exact ⟨merged, by simp [sampleLog], rfl⟩
    · exact ⟨reviewed, by simp [sampleLog], rfl⟩
    · cases hc
    · exact ⟨opened, by simp [sampleLog], rfl⟩
    · exact ⟨opened, by simp [sampleLog], rfl⟩
  · rintro ⟨e, he, rfl⟩
    rcases mem_sampleLog he with rfl | rfl | rfl <;> simp [sampleCalls]

def sampleDelivery (e : Event sampleParsers) (id : Nat) : WebhookRawEvent × Generated :=
  (⟨e.envelope, 0, id, none, by decide, Int.natCast_nonneg id⟩, ⟨id, july24 12⟩)

/-- The writer gets the review first and the merge twice. -/
def sampleDeliveries : List (WebhookRawEvent × Generated) :=
  [sampleDelivery reviewed 1, sampleDelivery merged 2, sampleDelivery merged 3,
    sampleDelivery opened 4]

theorem sampleDeliveries_delivered : Delivered sampleLog sampleDeliveries := by
  intro envelope
  simp only [sampleDeliveries, sampleDelivery, sampleLog, List.mem_cons, List.not_mem_nil,
    or_false, exists_eq_or_imp, exists_eq_left]
  tauto

theorem projection_agrees_with_marts_sample :
    ∃ db table staged, PrStorage.execAll sampleCalls .empty = .ok db
      ∧ insertAll sampleDeliveries ∅ = .ok table
      ∧ Dbt.staging sampleServer (table.rows.map Prod.snd) = .ok staged
      ∧ ∃ fact, Agree db (Dbt.build sampleServer ⟨[], List.nodup_nil⟩ staged) opened fact := by
  have hrun : ∃ db, PrStorage.execAll sampleCalls .empty = .ok db := ⟨_, rfl⟩
  obtain ⟨db, hdb⟩ := hrun
  have hbuilt : ∃ table, insertAll sampleDeliveries ∅ = .ok table
      ∧ ∃ staged, Dbt.staging sampleServer (table.rows.map Prod.snd) = .ok staged := by
    decide +kernel
  obtain ⟨table, hinsert, staged, hstaging⟩ := hbuilt
  obtain ⟨hagree, -, -⟩ := projection_agrees_with_marts sampleLog_consistent
    sampleLog_readsAlike sampleCalls_projected hdb sampleDeliveries_delivered hinsert
    (List.Perm.refl _) hstaging ⟨[], List.nodup_nil⟩
  exact ⟨db, table, staged, hdb, hinsert, hstaging, hagree opened List.mem_cons_self⟩

end Agreement
