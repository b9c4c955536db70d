import DeliveryIntelligence.Library.Table
import DeliveryIntelligence.Library.Text
import DeliveryIntelligence.Common.Postgres
import DeliveryIntelligence.Common.Python

set_option autoImplicit false

/-!
# The pull-request projection and the stale-alert outbox

The four tables of `infra/init/003_create_pr_monitor.sql` and the SQL statements of
`consumers/pr_storage.py`, each as a function on the tables, composed into the three storage
operations `applyPullRequest`, `applyReview` and `createStaleAlerts`. A statement that breaks
a column type, a `CHECK` or a `UNIQUE` constraint is an error, and an error aborts the whole
operation.

The bookkeeping columns `updated_at`, `projected_at`, `alert_id`, `attempt_count`,
`dispatched_at` and `last_error` are left out: no statement reads them.
-/

namespace PrStorage

open Postgres

/-! ## Commands -/

/-- Source states relevant to the open-pull-request projection. -/
inductive PullRequestState
  | open
  | closed
  deriving DecidableEq, Repr

/-- Result of applying a pull-request source snapshot. -/
inductive ProjectionOutcome
  | applied
  | stale
  deriving DecidableEq, Repr

/-- Result of considering one submitted review. -/
inductive ReviewOutcome
  | recorded
  | ineligible
  | unchanged
  deriving DecidableEq, Repr

/-- The columns every table of the projection is keyed by. -/
structure PullRequestKey where
  repositoryId : Int
  pullRequestId : Int
  deriving DecidableEq, Repr

/-- The arguments of `PullRequestSnapshot`. Its timestamps are timezone-aware, so they stand
for instants. -/
structure SnapshotFields where
  deliveryId : String
  repositoryId : Int
  repositoryFullName : String
  pullRequestId : Int
  pullRequestNumber : Int
  state : PullRequestState
  title : String
  authorId : Int
  authorLogin : String
  isDraft : Bool
  openedAt : Timestamp
  updatedAt : Timestamp
  deriving DecidableEq, Repr

/-- Complete source snapshot required by the PR monitor, with what `__post_init__` checked. -/
structure PullRequestSnapshot extends SnapshotFields where
  identities_pos : 0 < repositoryId ∧ 0 < pullRequestId ∧ 0 < pullRequestNumber ∧ 0 < authorId
  texts_nonempty : Python.hasText deliveryId = true ∧ Python.hasText repositoryFullName = true
    ∧ Python.hasText title = true ∧ Python.hasText authorLogin = true
  deriving DecidableEq

/-- `PullRequestSnapshot.__post_init__`: the check of `tzinfo` has nothing to reject here. -/
def PullRequestSnapshot.postInit (f : SnapshotFields) : Except String PullRequestSnapshot :=
  if hid : 0 < f.repositoryId ∧ 0 < f.pullRequestId ∧ 0 < f.pullRequestNumber
      ∧ 0 < f.authorId then
    if htext : Python.hasText f.deliveryId = true ∧ Python.hasText f.repositoryFullName = true
        ∧ Python.hasText f.title = true ∧ Python.hasText f.authorLogin = true then
      .ok ⟨f, hid, htext⟩
    else .error "pull-request text fields must be nonempty"
  else .error "pull-request identities must be positive"

def PullRequestSnapshot.key (p : PullRequestSnapshot) : PullRequestKey :=
  ⟨p.repositoryId, p.pullRequestId⟩

/-- The arguments of `SubmittedReview`. -/
structure ReviewFields where
  pullRequest : PullRequestSnapshot
  reviewId : Int
  reviewerId : Int
  reviewerLogin : String
  submittedAt : Timestamp
  deriving DecidableEq

/-- Submitted review paired with the PR snapshot carried by its webhook. -/
structure SubmittedReview extends ReviewFields where
  identities_pos : 0 < reviewId ∧ 0 < reviewerId
  login_nonempty : Python.hasText reviewerLogin = true
  deriving DecidableEq

/-- `SubmittedReview.__post_init__` -/
def SubmittedReview.postInit (f : ReviewFields) : Except String SubmittedReview :=
  if hid : 0 < f.reviewId ∧ 0 < f.reviewerId then
    if hlogin : Python.hasText f.reviewerLogin = true then .ok ⟨f, hid, hlogin⟩
    else .error "reviewer login must be nonempty"
  else .error "review identities must be positive"

def SubmittedReview.key (r : SubmittedReview) : PullRequestKey := r.pullRequest.key

/-! ## Tables -/

/-- A row of `serving.pull_request_projection_watermarks`. -/
structure Watermark where
  lastEventAt : Timestamp
  lastDeliveryId : String
  deriving DecidableEq, Repr

/-- A row of `serving.pull_request_first_reviews`. -/
structure FirstReview where
  reviewId : Int
  reviewerId : Int
  reviewerLogin : String
  submittedAt : Timestamp
  deriving DecidableEq, Repr

/-- A row of `serving.open_pull_requests`. -/
structure OpenPullRequest where
  pullRequestNumber : Int
  repositoryFullName : String
  title : String
  authorId : Int
  authorLogin : String
  isDraft : Bool
  openedAt : Timestamp
  lastSourceUpdatedAt : Timestamp
  firstEligibleReviewAt : Option Timestamp
  firstEligibleReviewId : Option Int
  firstEligibleReviewerId : Option Int
  firstEligibleReviewerLogin : Option String
  deriving DecidableEq, Repr

inductive AlertType
  | stalePullRequest
  deriving DecidableEq, Repr

inductive AlertStatus
  | pending
  | sent
  | cancelled
  deriving DecidableEq, Repr

/-- The `jsonb_build_object` of a stale alert. -/
structure AlertPayload where
  repositoryId : Int
  repositoryFullName : String
  pullRequestId : Int
  pullRequestNumber : Int
  title : String
  authorLogin : String
  openedAt : Timestamp
  staleCutoff : Timestamp
  deriving DecidableEq, Repr

/-- A row of `ops.alert_outbox`, which is keyed by `alert_key`. -/
structure Alert where
  alertType : AlertType
  repositoryId : Int
  pullRequestId : Int
  pullRequestNumber : Int
  createdAt : Timestamp
  payload : AlertPayload
  status : AlertStatus
  deriving DecidableEq, Repr

def Alert.key (a : Alert) : PullRequestKey := ⟨a.repositoryId, a.pullRequestId⟩

structure Serving where
  watermarks : Table PullRequestKey Watermark
  firstReviews : Table PullRequestKey FirstReview
  openPullRequests : Table PullRequestKey OpenPullRequest
  alertOutbox : Table String Alert
  deriving DecidableEq

/-- The tables as the schema creates them. -/
def Serving.empty : Serving := ⟨∅, ∅, ∅, ∅⟩

/-- `'stale-pull-request:' || repository_id || ':' || pull_request_id` -/
def alertKey (k : PullRequestKey) : String :=
  s!"stale-pull-request:{k.repositoryId}:{k.pullRequestId}"

theorem alertKey_toList (k : PullRequestKey) :
    (alertKey k).toList
      = "stale-pull-request:".toList
        ++ (Text.intText k.repositoryId ++ ':' :: Text.intText k.pullRequestId) := by
  show ("stale-pull-request:" ++ toString k.repositoryId ++ ":" ++ toString k.pullRequestId).toList
    = _
  rw [String.toList_append, String.toList_append, String.toList_append, List.append_assoc,
    List.append_assoc]
  rfl

/-- The key of an alert determines the pull request. -/
theorem alertKey_injective {k k' : PullRequestKey} (h : alertKey k = alertKey k') : k = k' := by
  have htext := congrArg String.toList h
  rw [alertKey_toList, alertKey_toList] at htext
  have hcolon : ∀ n : Int, ':' ∉ Text.intText n :=
    fun n => Text.notMem_intText (by decide) (by decide)
  obtain ⟨hrepository, hpullRequest⟩ := Text.append_separator_inj (hcolon _) (hcolon _)
    (List.append_cancel_left htext)
  have h1 : k.repositoryId = k'.repositoryId := Text.intText_injective hrepository
  have h2 : k.pullRequestId = k'.pullRequestId := Text.intText_injective hpullRequest
  cases k
  cases k'
  simp only at h1 h2
  rw [h1, h2]

/-! ## Constraints of the schema -/

def watermarkConstraints : List (Constraint (PullRequestKey × Watermark)) :=
  [ bigintColumn "repository_id" (·.1.repositoryId)
  , bigintColumn "pull_request_id" (·.1.pullRequestId)
  , textColumn "last_delivery_id" (·.2.lastDeliveryId)
  , positiveCheck "pull_request_watermark_repository_id_positive" (·.1.repositoryId)
  , positiveCheck "pull_request_watermark_pull_request_id_positive" (·.1.pullRequestId)
  , nonemptyCheck "pull_request_watermark_delivery_id_nonempty" (·.2.lastDeliveryId) ]

def firstReviewConstraints : List (Constraint (PullRequestKey × FirstReview)) :=
  [ bigintColumn "repository_id" (·.1.repositoryId)
  , bigintColumn "pull_request_id" (·.1.pullRequestId)
  , bigintColumn "review_id" (·.2.reviewId)
  , bigintColumn "reviewer_id" (·.2.reviewerId)
  , textColumn "reviewer_login" (·.2.reviewerLogin)
  , positiveCheck "pull_request_first_reviews_repository_id_positive" (·.1.repositoryId)
  , positiveCheck "pull_request_first_reviews_pull_request_id_positive" (·.1.pullRequestId)
  , positiveCheck "pull_request_first_reviews_review_id_positive" (·.2.reviewId)
  , positiveCheck "pull_request_first_reviews_reviewer_id_positive" (·.2.reviewerId)
  , nonemptyCheck "pull_request_first_reviews_reviewer_login_nonempty" (·.2.reviewerLogin) ]

/-- `open_pull_requests_review_fields_complete` -/
def OpenPullRequest.reviewFieldsComplete (row : OpenPullRequest) : Bool :=
  match row.firstEligibleReviewAt, row.firstEligibleReviewId, row.firstEligibleReviewerId,
      row.firstEligibleReviewerLogin with
  | none, none, none, none => true
  | some _, some reviewId, some reviewerId, some login =>
      decide (0 < reviewId) && decide (0 < reviewerId) && nonempty login
  | _, _, _, _ => false

def openPullRequestConstraints : List (Constraint (PullRequestKey × OpenPullRequest)) :=
  [ bigintColumn "repository_id" (·.1.repositoryId)
  , bigintColumn "pull_request_id" (·.1.pullRequestId)
  , integerColumn "pull_request_number" (·.2.pullRequestNumber)
  , textColumn "repository_full_name" (·.2.repositoryFullName)
  , textColumn "title" (·.2.title)
  , bigintColumn "author_id" (·.2.authorId)
  , textColumn "author_login" (·.2.authorLogin)
  , positiveCheck "open_pull_requests_repository_id_positive" (·.1.repositoryId)
  , positiveCheck "open_pull_requests_pull_request_id_positive" (·.1.pullRequestId)
  , positiveCheck "open_pull_requests_pull_request_number_positive" (·.2.pullRequestNumber)
  , positiveCheck "open_pull_requests_author_id_positive" (·.2.authorId)
  , nonemptyCheck "open_pull_requests_repository_full_name_nonempty" (·.2.repositoryFullName)
  , nonemptyCheck "open_pull_requests_title_nonempty" (·.2.title)
  , nonemptyCheck "open_pull_requests_author_login_nonempty" (·.2.authorLogin)
  , ⟨.check "open_pull_requests_review_fields_complete", fun row => row.2.reviewFieldsComplete⟩ ]

def alertConstraints : List (Constraint (String × Alert)) :=
  [ nonemptyCheck "alert_outbox_alert_key_nonempty" (·.1)
  , positiveCheck "alert_outbox_repository_id_positive" (·.2.repositoryId)
  , positiveCheck "alert_outbox_pull_request_id_positive" (·.2.pullRequestId)
  , positiveCheck "alert_outbox_pull_request_number_positive" (·.2.pullRequestNumber) ]

/-! ## Statements -/

/-- `_ADVANCE_WATERMARK`; the second component is the row of `RETURNING`. -/
def advanceWatermark (p : PullRequestSnapshot) (db : Serving) :
    Except Error (Serving × Option Watermark) := do
  let new : Watermark := ⟨p.updatedAt, p.deliveryId⟩
  enforce watermarkConstraints (p.key, new)
  let (watermarks, returned) := db.watermarks.upsert p.key new fun old =>
    if new.lastEventAt > old.lastEventAt then some new else none
  return ({ db with watermarks }, returned)

/-- `open_pull_requests_repository_number_unique`: no other row of the repository has the
number. -/
def checkNumberUnique (db : Serving) (k : PullRequestKey) (number : Int) : Except Error Unit :=
  if db.openPullRequests.rows.any fun (k', row) =>
      k' != k && k'.repositoryId == k.repositoryId && row.pullRequestNumber == number then
    .error (.unique "open_pull_requests_repository_number_unique")
  else .ok ()

/-- The row `_UPSERT_OPEN_PULL_REQUEST` inserts: no value for the review columns. -/
def openRow (p : PullRequestSnapshot) : OpenPullRequest where
  pullRequestNumber := p.pullRequestNumber
  repositoryFullName := p.repositoryFullName
  title := p.title
  authorId := p.authorId
  authorLogin := p.authorLogin
  isDraft := p.isDraft
  openedAt := p.openedAt
  lastSourceUpdatedAt := p.updatedAt
  firstEligibleReviewAt := none
  firstEligibleReviewId := none
  firstEligibleReviewerId := none
  firstEligibleReviewerLogin := none

/-- `_UPSERT_OPEN_PULL_REQUEST`: on conflict the review columns keep their values. -/
def upsertOpenPullRequest (p : PullRequestSnapshot) (db : Serving) : Except Error Serving := do
  let new := openRow p
  enforce openPullRequestConstraints (p.key, new)
  checkNumberUnique db p.key p.pullRequestNumber
  let (openPullRequests, _) := db.openPullRequests.upsert p.key new fun old =>
    some { new with
      firstEligibleReviewAt := old.firstEligibleReviewAt
      firstEligibleReviewId := old.firstEligibleReviewId
      firstEligibleReviewerId := old.firstEligibleReviewerId
      firstEligibleReviewerLogin := old.firstEligibleReviewerLogin }
  return { db with openPullRequests }

/-- `_DELETE_CLOSED_PULL_REQUEST` -/
def deleteClosedPullRequest (p : PullRequestSnapshot) (db : Serving) : Serving :=
  { db with openPullRequests := db.openPullRequests.erase p.key }

/-- `_CANCEL_PENDING_ALERT` -/
def cancelPendingAlert (p : PullRequestSnapshot) (db : Serving) : Serving :=
  { db with
    alertOutbox := db.alertOutbox.updateRow (alertKey p.key) fun old =>
      if old.status = .pending then some { old with status := .cancelled } else none }

/-- `_RECORD_FIRST_ELIGIBLE_REVIEW` -/
def recordFirstEligibleReview (r : SubmittedReview) (db : Serving) :
    Except Error (Serving × Option FirstReview) := do
  let new : FirstReview := ⟨r.reviewId, r.reviewerId, r.reviewerLogin, r.submittedAt⟩
  enforce firstReviewConstraints (r.key, new)
  let (firstReviews, returned) := db.firstReviews.upsert r.key new fun old =>
    if new.submittedAt < old.submittedAt then some new else none
  return ({ db with firstReviews }, returned)

/-- The four review columns set from a first review. -/
def OpenPullRequest.withReview (row : OpenPullRequest) (first : FirstReview) :
    OpenPullRequest :=
  { row with
    firstEligibleReviewAt := some first.submittedAt
    firstEligibleReviewId := some first.reviewId
    firstEligibleReviewerId := some first.reviewerId
    firstEligibleReviewerLogin := some first.reviewerLogin }

/-- `_SYNC_FIRST_REVIEW_TO_OPEN`: an update that joins the open row with the first review. -/
def syncFirstReviewToOpen (k : PullRequestKey) (db : Serving) : Except Error Serving :=
  match db.firstReviews.lookup k, db.openPullRequests.lookup k with
  | some first, some row => do
      enforce openPullRequestConstraints (k, row.withReview first)
      return { db with
        openPullRequests := db.openPullRequests.updateRow k fun old =>
          some (old.withReview first) }
  | _, _ => .ok db

/-- The alert `_INSERT_STALE_ALERTS` selects for an open row. -/
def staleAlert (staleCutoff createdAt : Timestamp) (k : PullRequestKey)
    (row : OpenPullRequest) : Alert where
  alertType := .stalePullRequest
  repositoryId := k.repositoryId
  pullRequestId := k.pullRequestId
  pullRequestNumber := row.pullRequestNumber
  createdAt := createdAt
  payload :=
    { repositoryId := k.repositoryId
      repositoryFullName := row.repositoryFullName
      pullRequestId := k.pullRequestId
      pullRequestNumber := row.pullRequestNumber
      title := row.title
      authorLogin := row.authorLogin
      openedAt := row.openedAt
      staleCutoff := staleCutoff }
  status := .pending

/-- The `WHERE` of `_INSERT_STALE_ALERTS`. -/
def OpenPullRequest.isStale (staleCutoff : Timestamp) (row : OpenPullRequest) : Bool :=
  decide (row.openedAt ≤ staleCutoff) && row.firstEligibleReviewAt.isNone && !row.isDraft

/-- The rows `_INSERT_STALE_ALERTS` selects, under their `alert_key`. -/
def selectStale (staleCutoff createdAt : Timestamp) (db : Serving) : List (String × Alert) :=
  (db.openPullRequests.rows.filter fun (_, row) => row.isStale staleCutoff).map
    fun (k, row) => (alertKey k, staleAlert staleCutoff createdAt k row)

/-! ## Operations -/

/-- `_apply_snapshot_state` -/
def applySnapshotState (p : PullRequestSnapshot) (db : Serving) : Except Error Serving :=
  match p.state with
  | .open => do
      let db ← upsertOpenPullRequest p db
      syncFirstReviewToOpen p.key db
  | .closed => .ok (cancelPendingAlert p (deleteClosedPullRequest p db))

/-- Apply a newer source snapshot without allowing delayed state regression. -/
def applyPullRequest (p : PullRequestSnapshot) (db : Serving) :
    Except Error (ProjectionOutcome × Serving) := do
  let (db, advanced) ← advanceWatermark p db
  -- No row of `RETURNING`: the snapshot is not newer.
  match advanced with
  | none => return (.stale, db)
  | some _ => do
      let db ← applySnapshotState p db
      return (.applied, db)

/-- Project its PR snapshot and retain only the first non-author review. -/
def applyReview (r : SubmittedReview) (db : Serving) :
    Except Error (ReviewOutcome × Serving) := do
  let (db, advanced) ← advanceWatermark r.pullRequest db
  -- A review of an older snapshot is still recorded below.
  let db ← (if advanced.isSome then applySnapshotState r.pullRequest db else pure db)
  if r.reviewerId = r.pullRequest.authorId then
    return (.ineligible, db)
  let (db, recorded) ← recordFirstEligibleReview r db
  match recorded with
  | none => return (.unchanged, db)
  | some _ => do
      let db ← syncFirstReviewToOpen r.key db
      return (.recorded, db)

/-- Create at most one durable alert intent for every eligible stale PR; the result counts
the inserted rows. -/
def createStaleAlerts (staleCutoff createdAt : Timestamp) (db : Serving) :
    Except Error (Nat × Serving) := do
  let selected := selectStale staleCutoff createdAt db
  selected.forM (enforce alertConstraints)
  let (alertOutbox, inserted) := db.alertOutbox.insertMissing selected
  return (inserted.length, { db with alertOutbox })

/-! ## Runs -/

inductive Call
  | applyPullRequest (p : PullRequestSnapshot)
  | applyReview (r : SubmittedReview)
  | createStaleAlerts (staleCutoff createdAt : Timestamp)
  deriving DecidableEq

/-- The tables after the transaction of a call commits. -/
def Call.exec (c : Call) (db : Serving) : Except Error Serving :=
  match c with
  | .applyPullRequest p => (PrStorage.applyPullRequest p db).map Prod.snd
  | .applyReview r => (PrStorage.applyReview r db).map Prod.snd
  | .createStaleAlerts staleCutoff createdAt =>
      (PrStorage.createStaleAlerts staleCutoff createdAt db).map Prod.snd

/-- A call as one atomic transaction. `aborts` is an abort the tables do not explain: a lost
connection, a crash of the process, a deadlock. -/
structure Transaction where
  call : Call
  aborts : Bool
  deriving DecidableEq

/-- The tables after a transaction, committed or not. -/
def Transaction.run (t : Transaction) (db : Serving) : Serving :=
  if t.aborts then db
  else
    match t.call.exec db with
    | .ok db' => db'
    | .error _ => db

/-- The tables after a sequence of transactions. -/
def runAll (ts : List Transaction) (db : Serving) : Serving :=
  ts.foldl (fun db t => t.run db) db

/-- All calls of a sequence commit, one after the other. -/
def execAll (calls : List Call) (db : Serving) : Except Error Serving :=
  calls.foldlM (fun db c => c.exec db) db

end PrStorage
