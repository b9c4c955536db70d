import DeliveryIntelligence.Consumers.PrMonitor
import DeliveryIntelligence.Dbt.Staging
import Mathlib.Data.List.MinMax
import Mathlib.Order.Bounds.Basic

set_option autoImplicit false

/-!
# Pull requests as their webhooks show them

The serving projection and the warehouse read the same webhooks by different code: the one folds
conditional upserts keyed by ids, the other ranks snapshots keyed by numbers and joins them by
logins. `Shows` says what both are for, in terms of the events alone; it determines what it
speaks about (`Shows.agree`). `Consistent` is what GitHub promises of the events.
-/

namespace Agreement

open Consumers Monitor Postgres
open PrStorage (PullRequestKey PullRequestState SubmittedReview)
open Dbt (Server textAt)

/-! ## Events -/

/-- A webhook the monitor makes a command of. -/
structure Event (parsers : PayloadParsers) where
  envelope : GitHubEventEnvelope
  command : ProjectionCommand
  accepted : projectionCommand parsers envelope = .ok (some command)

variable {parsers : PayloadParsers}

namespace Event

/-- The snapshot of the pull request the event carries. -/
def snapshot (e : Event parsers) : PrStorage.PullRequestSnapshot :=
  match e.command with
  | .pullRequest p => p
  | .submittedReview r => r.pullRequest

/-- The review of a review event; a pull_request event has none. -/
def review (e : Event parsers) : Option SubmittedReview :=
  match e.command with
  | .pullRequest _ => none
  | .submittedReview r => some r

def key (e : Event parsers) : PullRequestKey := e.snapshot.key

def updatedAt (e : Event parsers) : Timestamp := e.snapshot.updatedAt

def state (e : Event parsers) : PullRequestState := e.snapshot.state

/-- `repository_id::text || ':' || number` -/
def keyText (e : Event parsers) : String :=
  toString e.snapshot.repositoryId ++ ":" ++ toString e.snapshot.pullRequestNumber

/-- The users the event names, by id and login. -/
def users (e : Event parsers) : List (Int × String) :=
  (e.snapshot.authorId, e.snapshot.authorLogin)
    :: e.review.toList.map fun r => (r.reviewerId, r.reviewerLogin)

theorem snapshot_of_review {e : Event parsers} {r : SubmittedReview} (h : e.review = some r) :
    e.snapshot = r.pullRequest := by
  unfold review at h
  unfold snapshot
  cases hcommand : e.command with
  | pullRequest p =>
      rw [hcommand] at h
      cases h
  | submittedReview r' =>
      rw [hcommand] at h
      cases h
      rfl

theorem key_of_review {e : Event parsers} {r : SubmittedReview} (h : e.review = some r) :
    r.key = e.key := by
  show r.pullRequest.key = e.snapshot.key
  rw [snapshot_of_review h]

/-- The snapshot a monitor builds has the repository of the envelope. -/
theorem repositoryId_of_snapshot {envelope : GitHubEventEnvelope} {pullRequest : PullRequest}
    {p : PrStorage.PullRequestSnapshot} (h : Monitor.snapshot envelope pullRequest = .ok p) :
    p.repositoryId = envelope.repositoryId := by
  unfold Monitor.snapshot PrStorage.PullRequestSnapshot.postInit at h
  simp only at h
  split at h
  · split at h
    · cases h
      rfl
    · cases h
  · cases h

/-- A pull_request event has no review and a pull_request_review event has one. -/
theorem eventName_review (e : Event parsers) :
    e.snapshot.repositoryId = e.envelope.repositoryId
    ∧ (e.envelope.eventName = .pullRequest ∧ e.review = none
      ∨ e.envelope.eventName = .pullRequestReview ∧ ∃ r, e.review = some r) := by
  obtain ⟨envelope, command, accepted⟩ := e
  unfold projectionCommand at accepted
  cases hname : envelope.eventName with
  | pullRequest =>
      simp only [hname] at accepted
      split at accepted
      · cases accepted
      · obtain ⟨built, hbuilt, accepted⟩ := bind_eq_ok accepted
        cases accepted
        exact ⟨repositoryId_of_snapshot hbuilt, Or.inl ⟨rfl, rfl⟩⟩
  | pullRequestReview =>
      simp only [hname] at accepted
      split at accepted
      · cases accepted
      · split at accepted
        · cases accepted
        · obtain ⟨built, hbuilt, accepted⟩ := bind_eq_ok accepted
          obtain ⟨review, hreview, accepted⟩ := bind_eq_ok accepted
          cases accepted
          refine ⟨?_, Or.inr ⟨rfl, review, rfl⟩⟩
          -- the review keeps the snapshot it is built with
          have hkeeps : review.pullRequest = built := by
            unfold SubmittedReview.postInit at hreview
            split at hreview
            · split at hreview
              · cases hreview
                rfl
              · cases hreview
            · cases hreview
          show review.pullRequest.repositoryId = envelope.repositoryId
          rw [hkeeps]
          exact repositoryId_of_snapshot hbuilt
  | workflowRun => simp [hname] at accepted
  | deployment => simp [hname] at accepted
  | deploymentStatus => simp [hname] at accepted

theorem repositoryId_eq (e : Event parsers) :
    e.snapshot.repositoryId = e.envelope.repositoryId := e.eventName_review.1

theorem review_eq_none_iff (e : Event parsers) :
    e.review = none ↔ e.envelope.eventName = .pullRequest := by
  rcases e.eventName_review.2 with ⟨hname, hreview⟩ | ⟨hname, r, hreview⟩
  · exact iff_of_true hreview hname
  · refine iff_of_false ?_ ?_
    · rw [hreview]
      exact Option.some_ne_none r
    · rw [hname]
      decide

theorem exists_review_iff (e : Event parsers) :
    (∃ r, e.review = some r) ↔ e.envelope.eventName = .pullRequestReview := by
  rcases e.eventName_review.2 with ⟨hname, hreview⟩ | ⟨hname, hreview⟩
  · refine iff_of_false ?_ ?_
    · rw [hreview]
      rintro ⟨r, hr⟩
      cases hr
    · rw [hname]
      decide
  · exact iff_of_true hreview hname

end Event

/-! ## What the events show -/

/-- An event of the pull request than which none is newer. -/
structure IsNewest (events : List (Event parsers)) (k : PullRequestKey) (e : Event parsers) :
    Prop where
  mem : e ∈ events
  key_eq : e.key = k
  newest : ∀ other ∈ events, other.key = k → other.updatedAt ≤ e.updatedAt

/-- Some user other than the author reviewed the pull request at that time. -/
def ReviewedAt (events : List (Event parsers)) (k : PullRequestKey) (t : Timestamp) : Prop :=
  ∃ e ∈ events, ∃ r, e.review = some r ∧ e.key = k ∧ r.reviewerId ≠ r.pullRequest.authorId
    ∧ r.submittedAt = t

/-- What the events show of a pull request: it is open when its newest snapshot is, and its first
review is the earliest one that is not the author's. -/
structure Shows (events : List (Event parsers)) (k : PullRequestKey) (isOpen : Prop)
    (firstReviewAt : Option Timestamp) : Prop where
  isOpen_iff : isOpen ↔ ∃ e, IsNewest events k e ∧ e.state = .open
  firstReviewAt_iff : ∀ t, firstReviewAt = some t ↔ IsLeast {t | ReviewedAt events k t} t

/-- Two views that show the events agree. -/
theorem Shows.agree {events : List (Event parsers)} {k : PullRequestKey} {isOpen isOpen' : Prop}
    {firstReviewAt firstReviewAt' : Option Timestamp} (h : Shows events k isOpen firstReviewAt)
    (h' : Shows events k isOpen' firstReviewAt') :
    (isOpen ↔ isOpen') ∧ firstReviewAt = firstReviewAt' := by
  constructor
  · rw [h.isOpen_iff, h'.isOpen_iff]
  · apply Option.ext
    intro t
    show firstReviewAt = some t ↔ firstReviewAt' = some t
    rw [h.firstReviewAt_iff, h'.firstReviewAt_iff]

/-! ## What PostgreSQL reads -/

/-- The state of a payload. -/
def stateText : PullRequestState → String
  | .open => "open"
  | .closed => "closed"

variable (server : Server)

/-- `payload #>> path` -/
def Event.text (e : Event parsers) (path : List String) : Option String :=
  textAt server (.object e.envelope.payload) path

/-- `text::timestamptz` -/
def Event.instant (e : Event parsers) (path : List String) : Except Error (Option Timestamp) :=
  Dbt.cast "timestamptz" server.timestamptz (e.text server path)

/-- PostgreSQL reads from a pull_request payload what `_PullRequestPayload` read. -/
structure ReadsPullRequest (e : Event parsers) : Prop where
  state : (e.text server ["pull_request", "state"]).map server.lower = some (stateText e.state)
  authorLogin : e.text server ["pull_request", "user", "login"] = some e.snapshot.authorLogin
  createdAt : e.instant server ["pull_request", "created_at"] = .ok (some e.snapshot.openedAt)
  updatedAt : e.instant server ["pull_request", "updated_at"] = .ok (some e.updatedAt)

/-- PostgreSQL reads from a review payload what `_SubmittedReviewPayload` read; `_ReviewState`
admits three states. -/
structure ReadsReview (e : Event parsers) (r : SubmittedReview) : Prop where
  id : e.text server ["review", "id"] = some (toString r.reviewId)
  state : ∃ text ∈ ["approved", "changes_requested", "commented"],
    (e.text server ["review", "state"]).map server.lower = some text
  reviewerLogin : e.text server ["review", "user", "login"] = some r.reviewerLogin
  submittedAt : e.instant server ["review", "submitted_at"] = .ok (some r.submittedAt)

/-- PostgreSQL and the payload models read the payload alike. -/
structure ReadsAlike (e : Event parsers) : Prop where
  number : e.text server ["pull_request", "number"] = some (toString e.snapshot.pullRequestNumber)
  integer : server.integer (toString e.snapshot.pullRequestNumber)
    = some e.snapshot.pullRequestNumber
  pullRequest : e.review = none → ReadsPullRequest server e
  review : ∀ r, e.review = some r → ReadsReview server e r

/-- The node id of the pull request, as the staging models find it. -/
def Event.nodeId (e : Event parsers) : Option String :=
  Query.coalesce [e.text server ["pull_request", "node_id"],
    match e.review with
    | none => Dbt.nodeId (e.text server ["pull_request", "id"])
    | some _ => e.text server ["pull_request_id"]]

/-- The payload names the time of a merge. -/
def Event.IsMerged (e : Event parsers) : Prop :=
  (e.text server ["pull_request", "merged_at"]).isSome = true
    ∨ (e.text server ["pull_request", "mergedAt"]).isSome = true

/-! ## What GitHub promises -/

/-- The two events are deliveries of one webhook. -/
structure SameWebhook (e e' : Event parsers) : Prop where
  eventName : e.envelope.eventName = e'.envelope.eventName
  repositoryId : e.envelope.repositoryId = e'.envelope.repositoryId
  payload : e.envelope.payload = e'.envelope.payload

/-- The promises about a log of events. -/
structure Consistent (events : List (Event parsers)) : Prop where
  delivery : ∀ e ∈ events, ∀ e' ∈ events, e.envelope.deliveryId = e'.envelope.deliveryId →
    SameWebhook e e'
  /-- id and number of a pull request correspond within a repository -/
  number : ∀ e ∈ events, ∀ e' ∈ events, e.snapshot.repositoryId = e'.snapshot.repositoryId →
    (e.snapshot.pullRequestId = e'.snapshot.pullRequestId
      ↔ e.snapshot.pullRequestNumber = e'.snapshot.pullRequestNumber)
  /-- a node id belongs to one pull request -/
  nodeId : ∀ e ∈ events, ∀ e' ∈ events, e.snapshot.repositoryId = e'.snapshot.repositoryId →
    ∀ id, e.nodeId server = some id → e'.nodeId server = some id → e.key = e'.key
  /-- user id and case-folded login correspond -/
  user : ∀ e ∈ events, ∀ e' ∈ events, ∀ u ∈ e.users, ∀ u' ∈ e'.users,
    u.1 = u'.1 ↔ server.lower u.2 = server.lower u'.2
  /-- a review id always carries the same review -/
  review : ∀ e ∈ events, ∀ e' ∈ events, ∀ r r', e.review = some r → e'.review = some r' →
    e.snapshot.repositoryId = e'.snapshot.repositoryId → r.reviewId = r'.reviewId →
    e.key = e'.key ∧ r.reviewerId = r'.reviewerId ∧ r.submittedAt = r'.submittedAt
  /-- author and creation of a pull request are fixed -/
  author : ∀ e ∈ events, ∀ e' ∈ events, e.key = e'.key →
    e.snapshot.authorId = e'.snapshot.authorId ∧ e.snapshot.openedAt = e'.snapshot.openedAt
  /-- reviews are submitted at or after creation -/
  submitted : ∀ e ∈ events, ∀ r, e.review = some r → e.snapshot.openedAt ≤ r.submittedAt
  /-- each pull request has a pull_request event -/
  observed : ∀ e ∈ events, ∃ o ∈ events, o.review = none ∧ o.key = e.key
  /-- snapshots with equal `updated_at` have equal state -/
  sameTime : ∀ e ∈ events, ∀ e' ∈ events, e.key = e'.key → e.updatedAt = e'.updatedAt →
    e.state = e'.state
  /-- a merged pull request stays closed -/
  merged : ∀ e ∈ events, e.review = none → e.IsMerged server → ∀ e' ∈ events, e'.key = e.key →
    e.updatedAt ≤ e'.updatedAt → e'.state = .closed
  /-- a snapshot that a review carries has the state of the latest pull_request event before it -/
  carried : ∀ e ∈ events, ∀ r, e.review = some r → ∀ l ∈ events, l.review = none → l.key = e.key →
    l.updatedAt < e.updatedAt →
    (∀ o ∈ events, o.review = none → o.key = e.key → o.updatedAt ≤ e.updatedAt →
      o.updatedAt ≤ l.updatedAt) →
    e.state = l.state

/-- Key texts tell pull requests apart. -/
theorem Consistent.key_of_number {server : Server} {events : List (Event parsers)}
    (h : Consistent server events) {e e' : Event parsers} (he : e ∈ events) (he' : e' ∈ events) :
    e.key = e'.key ↔ e.snapshot.repositoryId = e'.snapshot.repositoryId
      ∧ e.snapshot.pullRequestNumber = e'.snapshot.pullRequestNumber := by
  constructor
  · intro hkey
    have hrepository : e.snapshot.repositoryId = e'.snapshot.repositoryId :=
      congrArg PullRequestKey.repositoryId hkey
    have hid : e.snapshot.pullRequestId = e'.snapshot.pullRequestId :=
      congrArg PullRequestKey.pullRequestId hkey
    exact ⟨hrepository, (h.number e he e' he' hrepository).mp hid⟩
  · rintro ⟨hrepository, hnumber⟩
    have hid := (h.number e he e' he' hrepository).mpr hnumber
    show (⟨_, _⟩ : PullRequestKey) = ⟨_, _⟩
    rw [hrepository, hid]

/-! ## The state of a pull request -/

/-- A pull_request event of the pull request than which no other is newer. -/
structure IsLatest (events : List (Event parsers)) (k : PullRequestKey) (l : Event parsers) :
    Prop where
  mem : l ∈ events
  review_eq : l.review = none
  key_eq : l.key = k
  latest : ∀ o ∈ events, o.review = none → o.key = k → o.updatedAt ≤ l.updatedAt

theorem exists_isNewest {events : List (Event parsers)} {e : Event parsers} (he : e ∈ events) :
    ∃ n, IsNewest events e.key n := by
  have hmem : e ∈ events.filter fun other => other.key = e.key :=
    List.mem_filter.mpr ⟨he, decide_eq_true rfl⟩
  cases hmax : (events.filter fun other => other.key = e.key).argmax Event.updatedAt with
  | none =>
      rw [List.argmax_eq_none.mp hmax] at hmem
      cases hmem
  | some n =>
      obtain ⟨hn, hkey⟩ := List.mem_filter.mp (List.argmax_mem hmax)
      refine ⟨n, hn, of_decide_eq_true hkey, fun other hother hk => ?_⟩
      exact List.le_of_mem_argmax (List.mem_filter.mpr ⟨hother, decide_eq_true hk⟩) hmax

section

variable {server : Server} {events : List (Event parsers)} {k : PullRequestKey}

/-- The newest snapshot has the state of the latest pull_request event, whether a review carries it
or not. -/
theorem Consistent.state_of_newest (h : Consistent server events) {l n : Event parsers}
    (hl : IsLatest events k l) (hn : IsNewest events k n) : n.state = l.state := by
  have hkey : n.key = l.key := hn.key_eq.trans hl.key_eq.symm
  rcases (hn.newest l hl.mem hl.key_eq).eq_or_lt with heq | hlt
  · exact h.sameTime n hn.mem l hl.mem hkey heq.symm
  · cases hreview : n.review with
    | none =>
        have hle := hl.latest n hn.mem hreview hn.key_eq
        exact absurd hlt (not_lt.mpr hle)
    | some r =>
        refine h.carried n hn.mem r hreview l hl.mem hl.review_eq hkey.symm hlt ?_
        intro o ho hnone hsame _
        exact hl.latest o ho hnone (hsame.trans hn.key_eq)

/-- The newest snapshot of a merged pull request is closed. -/
theorem Consistent.closed_of_merged (h : Consistent server events) {m n : Event parsers}
    (hm : m ∈ events) (hreview : m.review = none) (hmerged : m.IsMerged server) (hkey : m.key = k)
    (hn : IsNewest events k n) : n.state = .closed :=
  h.merged m hm hreview hmerged n hn.mem (hn.key_eq.trans hkey.symm) (hn.newest m hm hkey)

end

end Agreement
