import DeliveryIntelligence.Common.RawEvents
import DeliveryIntelligence.Consumers.Worker

set_option autoImplicit false

/-!
# The warehouse writer

`consumers/warehouse.py` with the raw-event storage of `consumers/storage.py`: each message of
the partition becomes a webhook row of `raw.github_events` or a dead letter, and only then is
its offset committed. Log lines are left out.
-/

namespace Warehouse

open Consumers Datetime Postgres Program RawEvents

/-! ## Storage -/

/-- Validated envelope plus its Kafka lineage. -/
structure WebhookRawEvent where
  envelope : GitHubEventEnvelope
  kafkaPartition : Int
  kafkaOffset : Int
  occurredAt : Option Aware
  lineage_nonneg : 0 ≤ kafkaPartition ∧ 0 ≤ kafkaOffset

/-- `WebhookRawEvent.__post_init__` -/
def WebhookRawEvent.postInit (envelope : GitHubEventEnvelope) (kafkaPartition kafkaOffset : Int)
    (occurredAt : Option Aware) : Except WorkerError WebhookRawEvent :=
  if hp : 0 ≤ kafkaPartition then
    if ho : 0 ≤ kafkaOffset then .ok ⟨envelope, kafkaPartition, kafkaOffset, occurredAt, hp, ho⟩
    else .error (.valueError "Kafka offset must be nonnegative")
  else .error (.valueError "Kafka partition must be nonnegative")

/-- The row of `_INSERT_RAW_EVENT`. -/
def WebhookRawEvent.row (event : WebhookRawEvent) (generated : Generated) : RawEvent where
  eventId := generated.eventId
  source := .webhook
  sourceRecordKey := event.envelope.deliveryId
  deliveryId := some event.envelope.deliveryId
  eventName := event.envelope.eventName.text
  action := event.envelope.action
  repositoryId := event.envelope.repositoryId
  installationId := event.envelope.installationId
  occurredAt := event.occurredAt.map Aware.instant
  receivedAt := some event.envelope.receivedAt.instant
  ingestedAt := generated.ingestedAt
  payload := .object event.envelope.payload
  kafkaPartition := some event.kafkaPartition
  kafkaOffset := some event.kafkaOffset

/-- `_INSERT_RAW_EVENT` in a transaction of its own. -/
inductive StorageOp
  | insertRawEvent (event : WebhookRawEvent)

/-- The `event_id` of `RETURNING`. -/
def StorageReply : StorageOp → Type
  | .insertRawEvent _ => Option Nat

structure StatementChoice where
  generated : Generated
  fault : Fault

def insertAct (event : WebhookRawEvent) (choice : StatementChoice) (events : RawTable) :
    Except WorkerError (Option Nat) × RawTable :=
  match insertRow (event.row choice.generated) events, choice.fault with
  -- A lost connection; the writer cannot tell it from one after the commit.
  | _, .beforeCommit => (.error .external, events)
  | .error _, _ => (.error .external, events)
  | .ok (events', _), .afterCommit => (.error .external, events')
  | .ok (events', returned), .none => (.ok returned, events')

/-- What the backfills do to the table meanwhile. -/
def backfillInsert (row : RawEvent) (events : RawTable) : RawTable :=
  match row.source, insertRow row events with
  | .backfill, .ok (events', _) => events'
  | _, _ => events

def rawDatabase : Database StorageOp StorageReply RawTable where
  Choice _ := StatementChoice
  act
    | .insertRawEvent event, choice, _, events => insertAct event choice events
  Disturbance := RawEvent
  disturb := backfillInsert

/-- Durable effect produced by one raw-event insert attempt. -/
inductive InsertOutcome
  | inserted
  | duplicate
  deriving DecidableEq, Repr

/-- `PostgresRawEventStorage.insert` -/
def insert (event : WebhookRawEvent) : Worker StorageReply InsertOutcome := do
  let answer ← Worker.storage (StorageOp.insertRawEvent event)
  let result : Option Nat ← Prog.ofExcept answer
  return if result.isNone then .duplicate else .inserted

/-! ## Processing -/

/-- Observable result after the source offset is committed. -/
inductive ProcessingOutcome
  | inserted
  | duplicate
  | dlq
  deriving DecidableEq, Repr

def InsertOutcome.processing : InsertOutcome → ProcessingOutcome
  | .inserted => .inserted
  | .duplicate => .duplicate

/-- The table of `_extract_occurred_at`. -/
def occurredAtPath : GitHubEventName → String × String
  | .pullRequest => ("pull_request", "updated_at")
  | .pullRequestReview => ("review", "submitted_at")
  | .workflowRun => ("workflow_run", "updated_at")
  | .deployment => ("deployment", "created_at")
  | .deploymentStatus => ("deployment_status", "created_at")

/-- `_extract_occurred_at` -/
def extractOccurredAt (parsers : Parsers) (envelope : GitHubEventEnvelope) : Option Aware :=
  let path := occurredAtPath envelope.eventName
  match envelope.payloadGet path.1 with
  | .object members =>
      match parsers.datetime (((Json.object members).member path.2).getD .null) with
      -- A datetime without an offset is dropped.
      | some parsed => parsed.utcOffset.map fun utcOffset => ⟨parsed.wallClock, utcOffset⟩
      | none => none
  | _ => none

/-- The settings and collaborators of one writer. -/
structure WarehouseWriter where
  rawTopic : String
  pollTimeoutSeconds : Rat
  dlqTopic : String
  publishTimeoutSeconds : Rat
  /-- `process` is called with an `after_database_commit` hook -/
  hooked : Bool
  /-- the number of polls after which the writer is interrupted -/
  fuel : Nat

section

variable (parsers : Parsers) (writer : WarehouseWriter)

/-- The branch of `process` for an invalid envelope. -/
def deadLetter (message : Message) : Worker StorageReply ProcessingOutcome := do
  let failedAt ← Worker.clock
  let record ← Prog.ofExcept
    (DeadLetterRecord.fromMessage parsers message failedAt .invalidGithubEventEnvelope)
  publish writer.dlqTopic writer.publishTimeoutSeconds writer.fuel record
  commitSourceOffset message
  return .dlq

/-- `if after_database_commit is not None: after_database_commit()` -/
def runHook : Worker StorageReply Unit :=
  if writer.hooked then Worker.afterDatabaseCommit >>= Prog.ofExcept else pure ()

/-- The branch of `process` for a valid envelope. -/
def land (message : Message) (partition offset : Int) (envelope : GitHubEventEnvelope) :
    Worker StorageReply ProcessingOutcome := do
  let event ← Prog.ofExcept
    (WebhookRawEvent.postInit envelope partition offset (extractOccurredAt parsers envelope))
  let outcome ← insert event
  runHook writer
  commitSourceOffset message
  return outcome.processing

/-- Produce one durable effect, then synchronously commit its source offset. -/
def process (message : Message) : Worker StorageReply ProcessingOutcome :=
  match message.error with
  | some error => .raise (.kafkaException error)
  | none => do
      let (_, partition, offset) ← Prog.ofExcept (messageLineage message)
      match validateEnvelope parsers message.value with
      | .ok envelope => land parsers writer message partition offset envelope
      -- `except (TypeError, ValidationError)`
      | .error .typeError => deadLetter parsers writer message
      | .error .validation => deadLetter parsers writer message
      | .error _ => .raise .external

/-- Poll until interrupted; processing failures stop the worker. -/
def runForever : Nat → Worker StorageReply Unit
  | 0 => .raise .interrupted
  | fuel + 1 => do
      let answer ← Worker.poll writer.pollTimeoutSeconds
      let polled ← Prog.ofExcept answer
      match polled with
      | none => runForever fuel
      | some message => do
          let _ ← process parsers writer message
          let _ ← Prog.ofExcept (messageLineage message)
          runForever fuel

end

/-- An entry of the partition has its lineage and no error. -/
theorem process_message {parsers : Parsers} {writer : WarehouseWriter} {p : Partition}
    {offset : Nat} {record : Record} :
    process parsers writer (p.message offset record)
      = match validateEnvelope parsers record.value with
        | .ok envelope => land parsers writer (p.message offset record) p.partition offset envelope
        | .error .typeError => deadLetter parsers writer (p.message offset record)
        | .error .validation => deadLetter parsers writer (p.message offset record)
        | .error _ => .raise .external := rfl

/-- Any number of writers over one partition. -/
def warehouseSystem (parsers : Parsers) (p : Partition) :
    System (WorkerOp StorageOp) (WorkerReply StorageReply) WorkerError Unit (World RawTable)
      Instance :=
  workerSystem p rawDatabase fun writer : WarehouseWriter =>
    runForever parsers writer writer.fuel

/-- No message, no committed offset, no row, no writer. -/
def emptyPool (parsers : Parsers) (p : Partition) : (warehouseSystem parsers p).Pool :=
  ⟨⟨⟨[], [], []⟩, ∅⟩, []⟩

end Warehouse
