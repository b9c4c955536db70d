import DeliveryIntelligence.Consumers.PrDelivery

set_option autoImplicit false

/-!
# Watermarks and first reviews in any order of delivery

Whatever the order, however often a command is delivered and wherever sweeps come between, a run
whose calls all commit leaves the same watermark and the same first review: the greatest
`updated_at` of the snapshots and the least `submitted_at` of the eligible reviews (`Summary`).
-/

namespace PrStorage

open Postgres

/-! ## Greatest and least elements of a growing list -/

theorem max?_concat (ts : List Timestamp) (t : Timestamp) :
    (ts ++ [t]).max? = some (match ts.max? with | none => t | some greatest => max greatest t) := by
  cases ts with
  | nil => rfl
  | cons first rest =>
      rw [List.cons_append, List.max?_cons', List.max?_cons', List.foldl_append]
      rfl

theorem min?_concat (ts : List Timestamp) (t : Timestamp) :
    (ts ++ [t]).min? = some (match ts.min? with | none => t | some least => min least t) := by
  cases ts with
  | nil => rfl
  | cons first rest =>
      rw [List.cons_append, List.min?_cons', List.min?_cons', List.foldl_append]
      rfl

theorem max?_congr {ts ts' : List Timestamp} (h : ∀ t, t ∈ ts ↔ t ∈ ts') : ts.max? = ts'.max? := by
  apply Option.ext
  intro greatest
  rw [List.max?_eq_some_iff, List.max?_eq_some_iff, h]
  refine and_congr_right fun _ => ?_
  constructor
  · intro hle t ht
    exact hle t ((h t).mpr ht)
  · intro hle t ht
    exact hle t ((h t).mp ht)

theorem min?_congr {ts ts' : List Timestamp} (h : ∀ t, t ∈ ts ↔ t ∈ ts') : ts.min? = ts'.min? := by
  apply Option.ext
  intro least
  rw [List.min?_eq_some_iff, List.min?_eq_some_iff, h]
  refine and_congr_right fun _ => ?_
  constructor
  · intro hle t ht
    exact hle t ((h t).mpr ht)
  · intro hle t ht
    exact hle t ((h t).mp ht)

/-! ## What a run leaves -/

def Call.review : Call → Option SubmittedReview
  | .applyReview r => some r
  | _ => none

/-- The eligible reviews of one pull request, in delivery order. -/
def eligibleReviewsOf (k : PullRequestKey) (calls : List Call) : List SubmittedReview :=
  (calls.filterMap Call.review).filter fun r => r.key = k && r.eligible

/-- The watermark and the first review of a pull request after the calls: the greatest time of its
snapshots and the least of its eligible reviews. -/
structure Summary (k : PullRequestKey) (calls : List Call) (db : Serving) : Prop where
  watermark : (db.watermarks.lookup k).map (·.lastEventAt)
    = ((snapshotsOf k calls).map (·.updatedAt)).max?
  first_review : (db.firstReviews.lookup k).map (·.submittedAt)
    = ((eligibleReviewsOf k calls).map (·.submittedAt)).min?

theorem snapshotsOf_concat (k : PullRequestKey) (calls : List Call) (c : Call) :
    snapshotsOf k (calls ++ [c]) = snapshotsOf k calls ++ snapshotsOf k [c] := by
  unfold snapshotsOf
  rw [List.filterMap_append, List.filter_append]

theorem eligibleReviewsOf_concat (k : PullRequestKey) (calls : List Call) (c : Call) :
    eligibleReviewsOf k (calls ++ [c])
      = eligibleReviewsOf k calls ++ eligibleReviewsOf k [c] := by
  unfold eligibleReviewsOf
  rw [List.filterMap_append, List.filter_append]

/-- A snapshot raises the watermark of its pull request to its time. -/
theorem lastEventAt_observe {db : Serving} {p : PullRequestSnapshot} {ts : List Timestamp}
    (h : (db.watermarks.lookup p.key).map (·.lastEventAt) = ts.max?) :
    ((db.observe p).watermarks.lookup p.key).map (·.lastEventAt)
      = (ts ++ [p.updatedAt]).max? := by
  rw [watermarks_observe, if_pos rfl, max?_concat, ← h, Option.map_some, lastEventAt_advance]
  cases db.watermarks.lookup p.key with
  | none => rfl
  | some w => rfl

/-- An eligible review lowers the first review of its pull request to its time. -/
theorem submittedAt_recordReview {db : Serving} {r : SubmittedReview} {ts : List Timestamp}
    (heligible : r.eligible = true)
    (h : (db.firstReviews.lookup r.key).map (·.submittedAt) = ts.min?) :
    ((db.recordReview r).firstReviews.lookup r.key).map (·.submittedAt)
      = (ts ++ [r.submittedAt]).min? := by
  rw [firstReviews_recordReview, if_pos rfl, min?_concat, ← h, submittedAt_earliest heligible]
  cases db.firstReviews.lookup r.key with
  | none => rfl
  | some first => rfl

theorem Summary.observe {k : PullRequestKey} {calls : List Call} {db : Serving}
    (h : Summary k calls db) {c : Call} {p : PullRequestSnapshot} (hc : c.snapshot = some p) :
    ((db.observe p).watermarks.lookup k).map (·.lastEventAt)
      = ((snapshotsOf k (calls ++ [c])).map (·.updatedAt)).max? := by
  rw [snapshotsOf_concat, List.map_append]
  by_cases hk : p.key = k
  · subst hk
    have hone : snapshotsOf p.key [c] = [p] := by simp [snapshotsOf, hc]
    rw [hone]
    exact lastEventAt_observe h.watermark
  · have hnone : snapshotsOf k [c] = [] := by simp [snapshotsOf, hc, hk]
    rw [hnone, List.map_nil, List.append_nil, watermarks_observe, if_neg (Ne.symm hk)]
    exact h.watermark

theorem Summary.effect {k : PullRequestKey} {calls : List Call} {db : Serving}
    (h : Summary k calls db) (c : Call) : Summary k (calls ++ [c]) (c.effect db) := by
  cases c with
  | applyPullRequest p =>
      refine ⟨h.observe rfl, ?_⟩
      have hnone : eligibleReviewsOf k [.applyPullRequest p] = [] := rfl
      rw [eligibleReviewsOf_concat, hnone, List.append_nil]
      show ((db.observe p).firstReviews.lookup k).map _ = _
      rw [firstReviews_observe]
      exact h.first_review
  | applyReview r =>
      refine ⟨?_, ?_⟩
      · show (((db.observe r.pullRequest).recordReview r).watermarks.lookup k).map _ = _
        rw [watermarks_recordReview]
        exact h.observe rfl
      -- the snapshot of the review leaves the first reviews
      · have hobserved : ((db.observe r.pullRequest).firstReviews.lookup k).map (·.submittedAt)
            = ((eligibleReviewsOf k calls).map (·.submittedAt)).min? := by
          rw [firstReviews_observe]
          exact h.first_review
        show (((db.observe r.pullRequest).recordReview r).firstReviews.lookup k).map _ = _
        rw [eligibleReviewsOf_concat, List.map_append]
        by_cases hcounts : r.key = k ∧ r.eligible = true
        · obtain ⟨rfl, heligible⟩ := hcounts
          have hone : eligibleReviewsOf r.key [.applyReview r] = [r] := by
            simp [eligibleReviewsOf, Call.review, heligible]
          rw [hone]
          exact submittedAt_recordReview heligible hobserved
        · have hnone : eligibleReviewsOf k [.applyReview r] = [] := by
            simpa [eligibleReviewsOf, Call.review] using hcounts
          rw [hnone, List.map_nil, List.append_nil, firstReviews_recordReview]
          by_cases hk : k = r.key
          -- a review by the author does not count
          · have hother : r.eligible = false := by
              simpa [hk] using hcounts
            rw [if_pos hk, ← hk]
            unfold SubmittedReview.earliest
            rw [hother]
            exact hobserved
          · rw [if_neg hk]
            exact hobserved
  | createStaleAlerts staleCutoff createdAt =>
      refine ⟨?_, ?_⟩
      · rw [snapshotsOf_concat]
        exact (List.append_nil (snapshotsOf k calls)).symm ▸ h.watermark
      · rw [eligibleReviewsOf_concat]
        exact (List.append_nil (eligibleReviewsOf k calls)).symm ▸ h.first_review

theorem summary_execAll {k : PullRequestKey} {before calls : List Call} {db db' : Serving}
    (hrun : execAll calls db = .ok db') (h : Summary k before db) :
    Summary k (before ++ calls) db' := by
  induction calls generalizing db before with
  | nil =>
      cases hrun
      rw [List.append_nil]
      exact h
  | cons c calls ih =>
      obtain ⟨next, hone, hrest⟩ := bind_eq_ok hrun
      have heffect : next = c.effect db := exec_ok hone
      have hstep := ih hrest (heffect ▸ h.effect c)
      rw [List.append_assoc] at hstep
      exact hstep

theorem summary_empty (k : PullRequestKey) : Summary k [] .empty := ⟨rfl, rfl⟩

/-! ## Order of delivery -/

/-- A delivered command, not a sweep. -/
def Call.isCommand : Call → Bool
  | .createStaleAlerts _ _ => false
  | _ => true

theorem mem_snapshotsOf {k : PullRequestKey} {calls : List Call} {p : PullRequestSnapshot} :
    p ∈ snapshotsOf k calls ↔ ∃ c ∈ calls, c.snapshot = some p ∧ p.key = k := by
  unfold snapshotsOf
  rw [List.mem_filter, List.mem_filterMap, decide_eq_true_iff]
  constructor
  · rintro ⟨⟨c, hc, hp⟩, hk⟩
    exact ⟨c, hc, hp, hk⟩
  · rintro ⟨c, hc, hp, hk⟩
    exact ⟨⟨c, hc, hp⟩, hk⟩

theorem mem_eligibleReviewsOf {k : PullRequestKey} {calls : List Call} {r : SubmittedReview} :
    r ∈ eligibleReviewsOf k calls
      ↔ .applyReview r ∈ calls ∧ r.key = k ∧ r.reviewerId ≠ r.pullRequest.authorId := by
  unfold eligibleReviewsOf
  rw [List.mem_filter, List.mem_filterMap, Bool.and_eq_true, decide_eq_true_iff]
  have heligible : r.eligible = true ↔ r.reviewerId ≠ r.pullRequest.authorId := bne_iff_ne
  rw [heligible]
  refine and_congr_left fun _ => ?_
  constructor
  · rintro ⟨c, hc, hr⟩
    cases c with
    | applyReview r' =>
        cases hr
        exact hc
    | applyPullRequest p => cases hr
    | createStaleAlerts staleCutoff createdAt => cases hr
  · intro hc
    exact ⟨_, hc, rfl⟩

/-- The summaries of runs over the same commands are equal. -/
theorem Summary.congr {k : PullRequestKey} {calls calls' : List Call} {db db' : Serving}
    (h : Summary k calls db) (h' : Summary k calls' db')
    (hsame : ∀ c, c.isCommand = true → (c ∈ calls ↔ c ∈ calls')) :
    (db.watermarks.lookup k).map (·.lastEventAt) = (db'.watermarks.lookup k).map (·.lastEventAt)
    ∧ (db.firstReviews.lookup k).map (·.submittedAt)
      = (db'.firstReviews.lookup k).map (·.submittedAt) := by
  have hsnapshots : ∀ p, p ∈ snapshotsOf k calls ↔ p ∈ snapshotsOf k calls' := by
    intro p
    rw [mem_snapshotsOf, mem_snapshotsOf]
    refine exists_congr fun c => and_congr_left fun hc => hsame c ?_
    cases c with
    | createStaleAlerts staleCutoff createdAt => cases hc.1
    | applyPullRequest p => rfl
    | applyReview r => rfl
  have hreviews : ∀ r, r ∈ eligibleReviewsOf k calls ↔ r ∈ eligibleReviewsOf k calls' := by
    intro r
    rw [mem_eligibleReviewsOf, mem_eligibleReviewsOf, hsame _ rfl]
  constructor
  · rw [h.watermark, h'.watermark]
    apply max?_congr
    intro t
    simp only [List.mem_map, hsnapshots]
  · rw [h.first_review, h'.first_review]
    apply min?_congr
    intro t
    simp only [List.mem_map, hreviews]

/-- **Order-independent watermarks and first reviews.** After every run whose calls all commit the
watermark is the greatest `updated_at` of the snapshots, a first review is there exactly if some
reviewer is not the author, and it is the earliest of these; a run over the same commands in any
other order, with other duplicates and sweeps, leaves the same. -/
theorem order_independent {calls : List Call} {db : Serving}
    (hrun : execAll calls .empty = .ok db) (k : PullRequestKey) :
    (db.watermarks.lookup k).map (·.lastEventAt)
        = ((snapshotsOf k calls).map (·.updatedAt)).max?
    ∧ ((∃ first, db.firstReviews.lookup k = some first)
        ↔ ∃ r, .applyReview r ∈ calls ∧ r.key = k ∧ r.reviewerId ≠ r.pullRequest.authorId)
    ∧ (db.firstReviews.lookup k).map (·.submittedAt)
        = ((eligibleReviewsOf k calls).map (·.submittedAt)).min?
    ∧ ∀ calls' db', execAll calls' .empty = .ok db' →
        (∀ c, c.isCommand = true → (c ∈ calls ↔ c ∈ calls')) →
        (db.watermarks.lookup k).map (·.lastEventAt)
            = (db'.watermarks.lookup k).map (·.lastEventAt)
        ∧ (db.firstReviews.lookup k).map (·.submittedAt)
            = (db'.firstReviews.lookup k).map (·.submittedAt) := by
  have hsummary : Summary k calls db := summary_execAll hrun (summary_empty k)
  refine ⟨hsummary.watermark, ?_, hsummary.first_review, fun calls' db' hrun' hsame => ?_⟩
  · have hnone : db.firstReviews.lookup k = none ↔ eligibleReviewsOf k calls = [] := by
      rw [← Option.map_eq_none_iff (f := FirstReview.submittedAt), hsummary.first_review,
        List.min?_eq_none_iff, List.map_eq_nil_iff]
    constructor
    · rintro ⟨first, hfirst⟩
      obtain ⟨r, hr⟩ := List.exists_mem_of_ne_nil _ fun hnil => by
        rw [hnone.mpr hnil] at hfirst
        cases hfirst
      exact ⟨r, mem_eligibleReviewsOf.mp hr⟩
    · rintro ⟨r, hr⟩
      cases hfirst : db.firstReviews.lookup k with
      | some first => exact ⟨first, rfl⟩
      | none =>
          have hmem := mem_eligibleReviewsOf.mpr hr
          rw [hnone.mp hfirst] at hmem
          cases hmem
  · exact hsummary.congr (summary_execAll hrun' (summary_empty k)) hsame

/-- A review of the pull request an hour after it was opened. -/
def hourReview : SubmittedReview where
  pullRequest := openedSnapshot
  reviewId := 50001
  reviewerId := 40002
  reviewerLogin := "example-reviewer"
  submittedAt := 1784984400000000
  identities_pos := by decide
  login_nonempty := by decide

/-- A later review that carries the closed pull request. -/
def closingReview : SubmittedReview where
  pullRequest := { closedSnapshot with updatedAt := 1784991600000000 }
  reviewId := 50002
  reviewerId := 40002
  reviewerLogin := "example-reviewer"
  submittedAt := 1784991600000000
  identities_pos := by decide
  login_nonempty := by decide

def lateFirst : List Call :=
  [ .applyReview closingReview, .createStaleAlerts 1784991600000000 1784991600000000
  , .applyReview hourReview, .applyPullRequest openedSnapshot, .applyReview closingReview ]

/-- The later review comes first and twice, with a sweep between. -/
theorem order_independent_lateFirst :
    ∃ db, execAll lateFirst .empty = .ok db
      ∧ (db.watermarks.lookup openedSnapshot.key).map (·.lastEventAt) = some 1784991600000000
      ∧ (db.firstReviews.lookup openedSnapshot.key).map (·.submittedAt)
        = some 1784984400000000 := by
  have hrun : ∃ db, execAll lateFirst .empty = .ok db := ⟨_, rfl⟩
  obtain ⟨db, hdb⟩ := hrun
  obtain ⟨hwatermark, -, hfirst, -⟩ := order_independent hdb openedSnapshot.key
  exact ⟨db, hdb, hwatermark.trans (by decide), hfirst.trans (by decide)⟩

end PrStorage
