import DeliveryIntelligence.Consumers.PrStorage
import DeliveryIntelligence.Consumers.Worker

set_option autoImplicit false

/-!
# The pull-request monitor

`consumers/pr_monitor.py`: each message of the partition becomes a transaction on the
projection, a dead letter or nothing, and only then is its offset committed; between two
messages the monitor may sweep for stale pull requests. Log lines are left out.

The database keeps, next to the projection, the history of its committed transactions with
the message each was for. The code never reads the history.
-/

namespace Monitor

open Consumers Datetime Postgres PrStorage Program

/-! ## Payload models -/

/-- `_Actor` -/
structure Actor where
  id : Int
  login : String
  id_pos : 0 < id
  login_nonempty : login ≠ ""

/-- `_PullRequest` -/
structure PullRequest where
  id : Int
  number : Int
  state : PullRequestState
  title : String
  user : Actor
  draft : Bool
  createdAt : Aware
  updatedAt : Aware
  identities_pos : 0 < id ∧ 0 < number
  title_nonempty : title ≠ ""

/-- `_PullRequestPayload` -/
structure PullRequestPayload where
  pullRequest : PullRequest

/-- `_Review`; nothing reads its `state`. -/
structure Review where
  id : Int
  user : Actor
  submittedAt : Aware
  id_pos : 0 < id

/-- `_SubmittedReviewPayload` -/
structure SubmittedReviewPayload extends PullRequestPayload where
  review : Review

/-- `model_validate` of the two payload models, `none` for a `ValidationError`. -/
structure PayloadParsers extends Parsers where
  pullRequestPayload : List (String × Json) → Option PullRequestPayload
  submittedReviewPayload : List (String × Json) → Option SubmittedReviewPayload

/-! ## Commands -/

/-- Why a validated envelope gives no command. -/
inductive CommandFailure
  | validation
  /-- a constructor raises `ValueError` -/
  | valueError (message : String)
  deriving DecidableEq, Repr

/-- `_snapshot` -/
def snapshot (envelope : GitHubEventEnvelope) (pullRequest : PullRequest) :
    Except CommandFailure PullRequestSnapshot :=
  let built := PullRequestSnapshot.postInit
    { deliveryId := envelope.deliveryId
      repositoryId := envelope.repositoryId
      repositoryFullName := envelope.repositoryFullName
      pullRequestId := pullRequest.id
      pullRequestNumber := pullRequest.number
      state := pullRequest.state
      title := pullRequest.title
      authorId := pullRequest.user.id
      authorLogin := pullRequest.user.login
      isDraft := pullRequest.draft
      openedAt := pullRequest.createdAt.instant
      updatedAt := pullRequest.updatedAt.instant }
  built.mapError .valueError

/-- `type ProjectionCommand = PullRequestSnapshot | SubmittedReview` -/
inductive ProjectionCommand
  | pullRequest (snapshot : PullRequestSnapshot)
  | submittedReview (review : SubmittedReview)

/-- The storage call the monitor makes for a command. -/
def ProjectionCommand.call : ProjectionCommand → Call
  | .pullRequest p => .applyPullRequest p
  | .submittedReview r => .applyReview r

/-- `_projection_command` -/
def projectionCommand (parsers : PayloadParsers) (envelope : GitHubEventEnvelope) :
    Except CommandFailure (Option ProjectionCommand) :=
  match envelope.eventName with
  | .pullRequest =>
      match parsers.pullRequestPayload envelope.payload with
      | none => .error .validation
      | some payload => do
          let built ← snapshot envelope payload.pullRequest
          return some (.pullRequest built)
  | .pullRequestReview =>
      -- Only submitted reviews are parsed; the payload of the others is not looked at.
      if envelope.action ≠ "submitted" then .ok none
      else
        match parsers.submittedReviewPayload envelope.payload with
        | none => .error .validation
        | some payload => do
            let built ← snapshot envelope payload.pullRequest
            let review ← (SubmittedReview.postInit
              { pullRequest := built
                reviewId := payload.review.id
                reviewerId := payload.review.user.id
                reviewerLogin := payload.review.user.login
                submittedAt := payload.review.submittedAt.instant }).mapError .valueError
            return some (.submittedReview review)
  | _ => .ok none

/-! ## The database and its history -/

/-- A committed transaction. -/
inductive Entry
  | applied (offset : Nat) (command : ProjectionCommand)
  | sweep (staleCutoff createdAt : Timestamp)

/-- The call of an entry. -/
def Entry.call : Entry → Call
  | .applied _ command => command.call
  | .sweep staleCutoff createdAt => .createStaleAlerts staleCutoff createdAt

/-- The projection and the transactions that led to it, the latest first. -/
structure Projection where
  serving : Serving
  history : List Entry

/-- What a storage call returns. -/
def CallReply : Call → Type
  | .applyPullRequest _ => ProjectionOutcome
  | .applyReview _ => ReviewOutcome
  | .createStaleAlerts _ _ => Nat

/-- A call in its transaction. -/
def answer : (call : Call) → Serving → Except Postgres.Error (CallReply call × Serving)
  | .applyPullRequest p, db => PrStorage.applyPullRequest p db
  | .applyReview r, db => PrStorage.applyReview r db
  | .createStaleAlerts staleCutoff createdAt, db =>
      PrStorage.createStaleAlerts staleCutoff createdAt db

/-- The entry a committed call leaves: an instance at `position` is working on the message
before it. -/
def entryOf (position : Nat) : Call → Entry
  | .applyPullRequest p => .applied (position - 1) (.pullRequest p)
  | .applyReview r => .applied (position - 1) (.submittedReview r)
  | .createStaleAlerts staleCutoff createdAt => .sweep staleCutoff createdAt

def callAct (call : Call) (fault : Fault) (position : Nat) (db : Projection) :
    Except WorkerError (CallReply call) × Projection :=
  match answer call db.serving, fault with
  -- A lost connection; the monitor cannot tell it from one after the commit.
  | _, .beforeCommit => (.error .external, db)
  | .error _, _ => (.error .external, db)
  | .ok (_, serving), .afterCommit =>
      (.error .external, ⟨serving, entryOf position call :: db.history⟩)
  | .ok (outcome, serving), .none =>
      (.ok outcome, ⟨serving, entryOf position call :: db.history⟩)

def projectionDatabase : Database Call CallReply Projection where
  Choice _ := Fault
  act := callAct
  Disturbance := Empty
  disturb d := nomatch d

/-! ## Processing -/

/-- Observable result after the source offset is committed. -/
inductive MonitorOutcome
  | projected
  | stale
  | reviewRecorded
  | reviewIneligible
  | reviewUnchanged
  | ignored
  | dlq
  deriving DecidableEq, Repr

def projectionOutcome : ProjectionOutcome → MonitorOutcome
  | .applied => .projected
  | .stale => .stale

def reviewOutcome : ReviewOutcome → MonitorOutcome
  | .recorded => .reviewRecorded
  | .ineligible => .reviewIneligible
  | .unchanged => .reviewUnchanged

/-- The settings and collaborators of one monitor; durations in microseconds, timeouts in
seconds. -/
structure PrMonitor where
  rawTopic : String
  pollTimeoutSeconds : Rat
  staleAfter : Int
  staleSweepInterval : Int
  dlqTopic : String
  publishTimeoutSeconds : Rat
  /-- `process` is called with an `after_database_commit` hook -/
  hooked : Bool
  /-- the number of polls after which the monitor is interrupted -/
  fuel : Nat

section

variable (parsers : PayloadParsers) (monitor : PrMonitor)

/-- `_dead_letter` -/
def deadLetter (message : Message) (failureReason : DlqFailureReason) :
    Worker CallReply MonitorOutcome := do
  let failedAt ← Worker.clock
  let record ← Prog.ofExcept
    (DeadLetterRecord.fromMessage parsers.toParsers message failedAt failureReason)
  publish monitor.dlqTopic monitor.publishTimeoutSeconds monitor.fuel record
  commitSourceOffset message
  return .dlq

/-- `if after_database_commit is not None: after_database_commit()` -/
def runHook : Worker CallReply Unit :=
  if monitor.hooked then Worker.afterDatabaseCommit >>= Prog.ofExcept else pure ()

/-- The storage call of a command and its outcome. -/
def applyCommand : ProjectionCommand → Worker CallReply MonitorOutcome
  | .pullRequest p => do
      let reply ← Worker.storage (Call.applyPullRequest p)
      let outcome : ProjectionOutcome ← Prog.ofExcept reply
      return projectionOutcome outcome
  | .submittedReview r => do
      let reply ← Worker.storage (Call.applyReview r)
      let outcome : ReviewOutcome ← Prog.ofExcept reply
      return reviewOutcome outcome

/-- Produce one durable effect, then commit that message's source offset. -/
def process (message : Message) : Worker CallReply MonitorOutcome :=
  match message.error with
  | some error => .raise (.kafkaException error)
  | none =>
      match validateEnvelope parsers.toParsers message.value with
      | .error .typeError => deadLetter parsers monitor message .invalidGithubEventEnvelope
      | .error .validation => deadLetter parsers monitor message .invalidGithubEventEnvelope
      -- Neither `TypeError` nor `ValidationError`: not caught.
      | .error _ => .raise .external
      | .ok envelope =>
          match projectionCommand parsers envelope with
          | .error .validation => deadLetter parsers monitor message .invalidPrMonitorEvent
          -- Raised by `__post_init__`, which `_projection_command` does not guard.
          | .error (.valueError text) => .raise (.valueError text)
          | .ok none => do
              commitSourceOffset message
              return .ignored
          | .ok (some command) => do
              let outcome ← applyCommand command
              runHook monitor
              commitSourceOffset message
              return outcome

/-- Create idempotent stale-alert intents for eligible open PRs. -/
def sweepStale (now : Aware) : Worker CallReply Nat := do
  let reply ← Worker.storage
    (Call.createStaleAlerts (now.instant - monitor.staleAfter) now.instant)
  Prog.ofExcept reply

/-- A sweep when it is due; the result is the instant of the next one. -/
def sweepWhenDue (nextSweepAt : Timestamp) : Worker CallReply Timestamp := do
  let now ← Worker.clock
  if now.instant ≥ nextSweepAt then do
    let _ ← sweepStale monitor now
    return now.instant + monitor.staleSweepInterval
  else return nextSweepAt

/-- The loop of `run_forever`. -/
def loop (nextSweepAt : Timestamp) : Nat → Worker CallReply Unit
  | 0 => .raise .interrupted
  | fuel + 1 => do
      let nextSweepAt ← sweepWhenDue monitor nextSweepAt
      let reply ← Worker.poll monitor.pollTimeoutSeconds
      let polled ← Prog.ofExcept reply
      match polled with
      | none => loop nextSweepAt fuel
      | some message => do
          let _ ← process parsers monitor message
          let _ ← Prog.ofExcept (messageLineage message)
          loop nextSweepAt fuel

/-- Poll and sweep until interrupted; durable-boundary failures stop the worker. -/
def runForever : Worker CallReply Unit := do
  let started ← Worker.clock
  loop parsers monitor started.instant monitor.fuel

end

/-- Any number of monitors over one partition; one at a time is a special case. -/
def monitorSystem (parsers : PayloadParsers) (p : Partition) :
    System (WorkerOp Call) (WorkerReply CallReply) WorkerError Unit (World Projection)
      Instance :=
  workerSystem p projectionDatabase (runForever parsers)

/-- No message, no committed offset, empty tables, no monitor. -/
def emptyPool (parsers : PayloadParsers) (p : Partition) : (monitorSystem parsers p).Pool :=
  ⟨⟨⟨[], [], []⟩, ⟨.empty, []⟩⟩, []⟩

end Monitor
