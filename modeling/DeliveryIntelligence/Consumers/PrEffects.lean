import DeliveryIntelligence.Consumers.PrStorage

set_option autoImplicit false

/-!
# What a committed call does to the projection

Every storage operation that commits has the effect of a total function on the tables:
`observe` for a snapshot, `observe` then `recordReview` for a review, `sweep` for the stale
alerts. `exec_ok` states it once for the three calls; the invariants and the replay argument
are proved about `Call.effect` and never look at the statements again.
-/

namespace PrStorage

open Postgres

/-! ## Effects -/

/-- The snapshot is newer than the watermark of its pull request, if there is one. -/
def Serving.isNewer (db : Serving) (p : PullRequestSnapshot) : Bool :=
  match db.watermarks.lookup p.key with
  | none => true
  | some w => decide (w.lastEventAt < p.updatedAt)

/-- The open row a snapshot leaves, given the row and the first review it meets. -/
def snapshotRow (p : PullRequestSnapshot) (old : Option OpenPullRequest)
    (first : Option FirstReview) : OpenPullRequest :=
  match first, old with
  | some first, _ => (openRow p).withReview first
  | none, none => openRow p
  | none, some old =>
      { openRow p with
        firstEligibleReviewAt := old.firstEligibleReviewAt
        firstEligibleReviewId := old.firstEligibleReviewId
        firstEligibleReviewerId := old.firstEligibleReviewerId
        firstEligibleReviewerLogin := old.firstEligibleReviewerLogin }

/-- The effect of `_apply_snapshot_state`. -/
def Serving.project (db : Serving) (p : PullRequestSnapshot) : Serving :=
  match p.state with
  | .open =>
      { db with
        openPullRequests := db.openPullRequests.insert p.key
          (snapshotRow p (db.openPullRequests.lookup p.key) (db.firstReviews.lookup p.key)) }
  | .closed => cancelPendingAlert p (deleteClosedPullRequest p db)

/-- The effect of a snapshot: nothing unless it is newer than the watermark. -/
def Serving.observe (db : Serving) (p : PullRequestSnapshot) : Serving :=
  if db.isNewer p then
    Serving.project
      { db with watermarks := db.watermarks.insert p.key ⟨p.updatedAt, p.deliveryId⟩ } p
  else db

/-- The review is earlier than the recorded first review, if there is one. -/
def Serving.isEarlier (db : Serving) (r : SubmittedReview) : Bool :=
  match db.firstReviews.lookup r.key with
  | none => true
  | some first => decide (r.submittedAt < first.submittedAt)

def SubmittedReview.first (r : SubmittedReview) : FirstReview :=
  ⟨r.reviewId, r.reviewerId, r.reviewerLogin, r.submittedAt⟩

/-- The reviewer is not the author of the pull request. -/
def SubmittedReview.eligible (r : SubmittedReview) : Bool :=
  r.reviewerId != r.pullRequest.authorId

/-- The effect of the review part of `apply_review`. -/
def Serving.recordReview (db : Serving) (r : SubmittedReview) : Serving :=
  if r.eligible && db.isEarlier r then
    { db with
      firstReviews := db.firstReviews.insert r.key r.first
      openPullRequests := db.openPullRequests.updateRow r.key fun old =>
        some (old.withReview r.first) }
  else db

/-- The effect of a stale sweep. -/
def Serving.sweep (db : Serving) (staleCutoff createdAt : Timestamp) : Serving :=
  { db with
    alertOutbox := (db.alertOutbox.insertMissing (selectStale staleCutoff createdAt db)).1 }

def Call.effect (c : Call) (db : Serving) : Serving :=
  match c with
  | .applyPullRequest p => db.observe p
  | .applyReview r => (db.observe r.pullRequest).recordReview r
  | .createStaleAlerts staleCutoff createdAt => db.sweep staleCutoff createdAt

/-! ## The statements have these effects -/

/-- A stale watermark keeps everything; otherwise the new watermark is stored. -/
theorem advanceWatermark_ok {p : PullRequestSnapshot} {db db' : Serving}
    {returned : Option Watermark} (h : advanceWatermark p db = .ok (db', returned)) :
    (returned = none ∧ db.isNewer p = false ∧ db' = db)
    ∨ (∃ w, returned = some w ∧ db.isNewer p = true
        ∧ db' = { db with watermarks := db.watermarks.insert p.key ⟨p.updatedAt, p.deliveryId⟩ }) := by
  obtain ⟨_, _, h⟩ := bind_eq_ok h
  simp only [pure, Except.pure, Except.ok.injEq, Prod.mk.injEq] at h
  obtain ⟨rfl, hret⟩ := h
  generalize hup : db.watermarks.upsert p.key (Watermark.mk p.updatedAt p.deliveryId) _ = up at hret
  obtain ⟨t, ret⟩ := up
  cases ret with
  | none =>
      obtain ⟨rfl, old, hold, hcond⟩ := Table.upsert_eq_none hup
      have hle : ¬ old.lastEventAt < p.updatedAt := by
        intro hlt
        simp [hlt] at hcond
      exact Or.inl ⟨hret.symm, by simp [Serving.isNewer, hold, hle], rfl⟩
  | some w =>
      obtain ⟨rfl, hwhy⟩ := Table.upsert_eq_some hup
      refine Or.inr ⟨w, hret.symm, ?_, ?_⟩
      · rcases hwhy with ⟨hnone, -⟩ | ⟨old, hold, hcond⟩
        · simp [Serving.isNewer, hnone]
        · have hlt : old.lastEventAt < p.updatedAt := by
            by_contra hcon
            simp [hcon] at hcond
          simp [Serving.isNewer, hold, hlt]
      · rcases hwhy with ⟨-, rfl⟩ | ⟨old, -, hcond⟩
        · rfl
        · have hw : w = ⟨p.updatedAt, p.deliveryId⟩ := by
            by_cases hlt : old.lastEventAt < p.updatedAt
            · simpa [hlt, eq_comm] using hcond
            · simp [hlt] at hcond
          rw [hw]

theorem syncFirstReviewToOpen_ok {k : PullRequestKey} {db db' : Serving}
    (h : syncFirstReviewToOpen k db = .ok db') :
    db' = match db.firstReviews.lookup k with
      | none => db
      | some first =>
          { db with
            openPullRequests := db.openPullRequests.updateRow k fun old =>
              some (old.withReview first) } := by
  unfold syncFirstReviewToOpen at h
  split at h
  · rename_i first row hfirst hrow
    obtain ⟨_, _, h⟩ := bind_eq_ok h
    cases h
    rw [hfirst]
  · rename_i hnone
    cases h
    cases hfirst : db.firstReviews.lookup k with
    | none => rfl
    | some first =>
        cases hrow : db.openPullRequests.lookup k with
        | some row => exact absurd hrow (hnone first row hfirst)
        | none => simp [Table.updateRow, hrow]

/-- The upsert and the sync of an open snapshot store one row. -/
theorem applySnapshotState_ok {p : PullRequestSnapshot} {db db' : Serving}
    (h : applySnapshotState p db = .ok db') : db' = db.project p := by
  unfold applySnapshotState at h
  unfold Serving.project
  cases hs : p.state with
  | closed =>
      simp only [hs] at h ⊢
      cases h
      rfl
  | «open» =>
      simp only [hs] at h ⊢
      obtain ⟨db1, hupsert, hsync⟩ := bind_eq_ok h
      obtain ⟨_, _, hunique⟩ := bind_eq_ok hupsert
      obtain ⟨_, _, hstored⟩ := bind_eq_ok hunique
      cases hstored
      rw [syncFirstReviewToOpen_ok hsync]
      -- both writes are inserts under the key of the snapshot
      cases hold : db.openPullRequests.lookup p.key with
      | none =>
          cases hfirst : db.firstReviews.lookup p.key with
          | none => simp [snapshotRow]
          | some first => simp [Table.updateRow, snapshotRow, OpenPullRequest.withReview]
      | some old =>
          cases hfirst : db.firstReviews.lookup p.key with
          | none => simp [snapshotRow]
          | some first => simp [Table.updateRow, snapshotRow, OpenPullRequest.withReview]

theorem applyPullRequest_ok {p : PullRequestSnapshot} {db db' : Serving} {o : ProjectionOutcome}
    (h : applyPullRequest p db = .ok (o, db')) :
    db' = db.observe p ∧ (o = .applied ↔ db.isNewer p = true) := by
  obtain ⟨⟨db1, advanced⟩, hadv, hrest⟩ := bind_eq_ok h
  rcases advanceWatermark_ok hadv with ⟨hret, hnew, hdb⟩ | ⟨w, hret, hnew, hdb⟩
  · rw [hret] at hrest
    cases hrest
    exact ⟨by simp [Serving.observe, hnew, hdb], by simp [hnew]⟩
  · rw [hret] at hrest
    obtain ⟨db2, hstate, hout⟩ := bind_eq_ok hrest
    cases hout
    refine ⟨?_, by simp [hnew]⟩
    rw [applySnapshotState_ok hstate, hdb]
    simp [Serving.observe, hnew]

/-- The first part of `apply_review` is the effect of its snapshot. -/
theorem observe_of_advance {p : PullRequestSnapshot} {db db1 db2 : Serving}
    {advanced : Option Watermark} (hadv : advanceWatermark p db = .ok (db1, advanced))
    (hstate : (if advanced.isSome then applySnapshotState p db1 else pure db1) = .ok db2) :
    db2 = db.observe p := by
  rcases advanceWatermark_ok hadv with ⟨hret, hnew, hdb⟩ | ⟨w, hret, hnew, hdb⟩
  · rw [hret] at hstate
    cases hstate
    simp [Serving.observe, hnew, hdb]
  · rw [hret] at hstate
    rw [applySnapshotState_ok hstate, hdb]
    simp [Serving.observe, hnew]

theorem recordFirstEligibleReview_ok {r : SubmittedReview} {db db' : Serving}
    {returned : Option FirstReview} (h : recordFirstEligibleReview r db = .ok (db', returned)) :
    (returned = none ∧ db.isEarlier r = false ∧ db' = db)
    ∨ (∃ first, returned = some first ∧ db.isEarlier r = true
        ∧ db' = { db with firstReviews := db.firstReviews.insert r.key r.first }) := by
  obtain ⟨_, _, h⟩ := bind_eq_ok h
  simp only [pure, Except.pure, Except.ok.injEq, Prod.mk.injEq] at h
  obtain ⟨rfl, hret⟩ := h
  generalize hup : db.firstReviews.upsert r.key
    (FirstReview.mk r.reviewId r.reviewerId r.reviewerLogin r.submittedAt) _ = up at hret
  obtain ⟨t, ret⟩ := up
  cases ret with
  | none =>
      obtain ⟨rfl, old, hold, hcond⟩ := Table.upsert_eq_none hup
      have hle : ¬ r.submittedAt < old.submittedAt := by
        intro hlt
        simp [hlt] at hcond
      exact Or.inl ⟨hret.symm, by simp [Serving.isEarlier, hold, hle], rfl⟩
  | some first =>
      obtain ⟨rfl, hwhy⟩ := Table.upsert_eq_some hup
      refine Or.inr ⟨first, hret.symm, ?_, ?_⟩
      · rcases hwhy with ⟨hnone, -⟩ | ⟨old, hold, hcond⟩
        · simp [Serving.isEarlier, hnone]
        · have hlt : r.submittedAt < old.submittedAt := by
            by_contra hcon
            simp [hcon] at hcond
          simp [Serving.isEarlier, hold, hlt]
      · rcases hwhy with ⟨-, rfl⟩ | ⟨old, -, hcond⟩
        · rfl
        · have hf : first = r.first := by
            by_cases hlt : r.submittedAt < old.submittedAt
            · simpa [hlt, eq_comm, SubmittedReview.first] using hcond
            · simp [hlt] at hcond
          rw [hf]

theorem applyReview_ok {r : SubmittedReview} {db db' : Serving} {o : ReviewOutcome}
    (h : applyReview r db = .ok (o, db')) :
    db' = (db.observe r.pullRequest).recordReview r
    ∧ (o = .recorded ↔ r.eligible = true ∧ (db.observe r.pullRequest).isEarlier r = true) := by
  obtain ⟨⟨db1, advanced⟩, hadv, hafter⟩ := bind_eq_ok h
  obtain ⟨db2, hstate, hreview⟩ := bind_eq_ok hafter
  have hobs : db2 = db.observe r.pullRequest := observe_of_advance hadv hstate
  rw [← hobs]
  by_cases hauthor : r.reviewerId = r.pullRequest.authorId
  · rw [if_pos hauthor] at hreview
    cases hreview
    have hel : r.eligible = false := by simp [SubmittedReview.eligible, hauthor]
    exact ⟨by simp [Serving.recordReview, hel], by simp [hel]⟩
  rw [if_neg hauthor] at hreview
  have hel : r.eligible = true := by simp [SubmittedReview.eligible, hauthor]
  obtain ⟨⟨db3, recorded⟩, hrec, hlast⟩ := bind_eq_ok hreview
  rcases recordFirstEligibleReview_ok hrec with ⟨hret, hear, hdb⟩ | ⟨first, hret, hear, hdb⟩
  · rw [hret] at hlast
    cases hlast
    exact ⟨by simp [Serving.recordReview, hear, hdb], by simp [hear]⟩
  · rw [hret] at hlast
    obtain ⟨db4, hsync, hout⟩ := bind_eq_ok hlast
    cases hout
    refine ⟨?_, by simp [hel, hear]⟩
    rw [syncFirstReviewToOpen_ok hsync, hdb]
    simp [Serving.recordReview, hel, hear]

theorem createStaleAlerts_ok {staleCutoff createdAt : Timestamp} {db db' : Serving} {n : Nat}
    (h : createStaleAlerts staleCutoff createdAt db = .ok (n, db')) :
    db' = db.sweep staleCutoff createdAt := by
  obtain ⟨_, _, h⟩ := bind_eq_ok h
  cases h
  rfl

/-- A committed call has its effect. -/
theorem exec_ok {c : Call} {db db' : Serving} (h : c.exec db = .ok db') : db' = c.effect db := by
  cases c with
  | applyPullRequest p =>
      obtain ⟨⟨o, _⟩, ho, rfl⟩ := map_eq_ok_iff.mp h
      exact (applyPullRequest_ok ho).1
  | applyReview r =>
      obtain ⟨⟨o, _⟩, ho, rfl⟩ := map_eq_ok_iff.mp h
      exact (applyReview_ok ho).1
  | createStaleAlerts staleCutoff createdAt =>
      obtain ⟨⟨n, _⟩, hn, rfl⟩ := map_eq_ok_iff.mp h
      exact createStaleAlerts_ok hn

/-- A transaction has the effect of its call or none. -/
theorem run_eq (t : Transaction) (db : Serving) : t.run db = t.call.effect db ∨ t.run db = db := by
  unfold Transaction.run
  split
  · exact Or.inr rfl
  · split
    · rename_i db' hexec
      exact Or.inl (exec_ok hexec)
    · exact Or.inr rfl

/-- A property of the tables that every effect keeps holds after every sequence of
transactions. -/
theorem runAll_induction {P : Serving → Prop} (hstep : ∀ (c : Call) db, P db → P (c.effect db))
    (ts : List Transaction) {db : Serving} (h : P db) : P (runAll ts db) := by
  induction ts generalizing db with
  | nil => exact h
  | cons t ts ih =>
      have hone : P (t.run db) := by
        rcases run_eq t db with heq | heq
        · rw [heq]; exact hstep t.call db h
        · rw [heq]; exact h
      exact ih hone

/-! ## Which tables an effect touches -/

@[simp] theorem firstReviews_observe (db : Serving) (p : PullRequestSnapshot) :
    (db.observe p).firstReviews = db.firstReviews := by
  unfold Serving.observe Serving.project
  split
  · split
    · rfl
    · rfl
  · rfl

@[simp] theorem watermarks_recordReview (db : Serving) (r : SubmittedReview) :
    (db.recordReview r).watermarks = db.watermarks := by
  unfold Serving.recordReview
  split
  · rfl
  · rfl

@[simp] theorem alertOutbox_recordReview (db : Serving) (r : SubmittedReview) :
    (db.recordReview r).alertOutbox = db.alertOutbox := by
  unfold Serving.recordReview
  split
  · rfl
  · rfl

/-- The watermark a snapshot leaves. -/
def PullRequestSnapshot.advance (p : PullRequestSnapshot) (old : Option Watermark) : Watermark :=
  match old with
  | none => ⟨p.updatedAt, p.deliveryId⟩
  | some w => if w.lastEventAt < p.updatedAt then ⟨p.updatedAt, p.deliveryId⟩ else w

/-- A newer snapshot leaves its own watermark, any other the one it meets. -/
theorem advance_lookup (db : Serving) (p : PullRequestSnapshot) :
    some (p.advance (db.watermarks.lookup p.key))
      = if db.isNewer p then some ⟨p.updatedAt, p.deliveryId⟩ else db.watermarks.lookup p.key := by
  unfold Serving.isNewer PullRequestSnapshot.advance
  cases hw : db.watermarks.lookup p.key with
  | none => rfl
  | some w =>
      by_cases hlt : w.lastEventAt < p.updatedAt
      · simp [hlt]
      · simp [hlt]

/-- The watermark is the later of the two times. -/
theorem lastEventAt_advance (p : PullRequestSnapshot) (old : Option Watermark) :
    (p.advance old).lastEventAt
      = match old with
        | none => p.updatedAt
        | some w => max w.lastEventAt p.updatedAt := by
  unfold PullRequestSnapshot.advance
  cases old with
  | none => rfl
  | some w =>
      by_cases hlt : w.lastEventAt < p.updatedAt
      · simp [hlt, max_eq_right (le_of_lt hlt)]
      · simp [hlt, max_eq_left (not_lt.mp hlt)]

theorem watermarks_observe (db : Serving) (p : PullRequestSnapshot) (k : PullRequestKey) :
    (db.observe p).watermarks.lookup k
      = if k = p.key then some (p.advance (db.watermarks.lookup p.key))
        else db.watermarks.lookup k := by
  have hproject : ∀ db : Serving, (db.project p).watermarks = db.watermarks := by
    intro db
    unfold Serving.project
    split
    · rfl
    · rfl
  unfold Serving.observe
  by_cases hk : k = p.key
  · subst hk
    rw [if_pos rfl, advance_lookup]
    split
    · rw [hproject]
      exact AList.lookup_insert _
    · rfl
  · rw [if_neg hk]
    split
    · rw [hproject]
      exact AList.lookup_insert_ne hk
    · rfl

/-- The first review a review leaves. -/
def SubmittedReview.earliest (r : SubmittedReview) (old : Option FirstReview) :
    Option FirstReview :=
  if r.eligible then
    match old with
    | none => some r.first
    | some first => if r.submittedAt < first.submittedAt then some r.first else some first
  else old

/-- An eligible earlier review is the first one, any other leaves the one it meets. -/
theorem earliest_lookup (db : Serving) (r : SubmittedReview) :
    r.earliest (db.firstReviews.lookup r.key)
      = if r.eligible && db.isEarlier r then some r.first else db.firstReviews.lookup r.key := by
  unfold Serving.isEarlier SubmittedReview.earliest
  cases r.eligible with
  | false => rfl
  | true =>
      cases db.firstReviews.lookup r.key with
      | none => rfl
      | some first =>
          by_cases hlt : r.submittedAt < first.submittedAt
          · simp [hlt]
          · simp [hlt]

/-- An eligible review leaves the earlier of the two times. -/
theorem submittedAt_earliest {r : SubmittedReview} (h : r.eligible = true)
    (old : Option FirstReview) :
    (r.earliest old).map (·.submittedAt)
      = some (match old with
        | none => r.submittedAt
        | some first => min first.submittedAt r.submittedAt) := by
  unfold SubmittedReview.earliest
  rw [if_pos h]
  cases old with
  | none => rfl
  | some first =>
      by_cases hlt : r.submittedAt < first.submittedAt
      · simp [hlt, min_eq_right (le_of_lt hlt), SubmittedReview.first]
      · simp [hlt, min_eq_left (not_lt.mp hlt)]

theorem firstReviews_recordReview (db : Serving) (r : SubmittedReview) (k : PullRequestKey) :
    (db.recordReview r).firstReviews.lookup k
      = if k = r.key then r.earliest (db.firstReviews.lookup r.key)
        else db.firstReviews.lookup k := by
  unfold Serving.recordReview
  by_cases hk : k = r.key
  · subst hk
    rw [if_pos rfl, earliest_lookup]
    split
    · exact AList.lookup_insert _
    · rfl
  · rw [if_neg hk]
    split
    · exact AList.lookup_insert_ne hk
    · rfl

end PrStorage
