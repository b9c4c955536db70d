import DeliveryIntelligence.Consumers.DeadLetter
import DeliveryIntelligence.Library.Program

set_option autoImplicit false

/-!
# Kafka workers

The operations both consumers perform on the outside world, the parts of their code that are
the same in both (the dead-letter publisher and the synchronous offset commit), and the world
they run in: one partition with its committed offsets, the dead letters the broker has
acknowledged, and a database that is a parameter (`Database`). Any number of instances of one
consumer group run over it, each from an offset that was committed at some time.

An operation that may fail has an `Except` as its reply, and its `Choice` says whether its
effect happened; an exception that the code does not catch stops the instance.
-/

namespace Consumers

open Datetime Program

/-! ## Operations -/

/-- A record handed to the DLQ producer. -/
structure ProducedMessage where
  topic : String
  value : DeadLetterRecord
  key : Option Bytes
  deriving DecidableEq

/-- The exceptions of the Kafka producer. -/
inductive ProducerError
  | bufferError
  | kafkaException
  | runtimeError
  | other
  deriving DecidableEq, Repr

/-- What a worker does; `Storage` are the operations of its database. -/
inductive WorkerOp (Storage : Type)
  | poll (timeout : Rat)
  | clock
  | monotonic
  | produce (message : ProducedMessage)
  | pollProducer (timeout : Rat)
  | storage (op : Storage)
  | afterDatabaseCommit
  | commit (message : Message)

/-- The delivery reports `Producer.poll` serves are the errors its callback is called with. -/
def WorkerReply {Storage : Type} (reply : Storage → Type) : WorkerOp Storage → Type
  | .poll _ => Except WorkerError (Option Message)
  | .clock => Aware
  | .monotonic => Rat
  | .produce _ => Except ProducerError Unit
  | .pollProducer _ => Except ProducerError (List (Option KafkaError))
  | .storage op => Except WorkerError (reply op)
  | .afterDatabaseCommit => Except WorkerError Unit
  | .commit _ => Except WorkerError (Option (List (Option KafkaError)))

section

variable {Storage : Type} {reply : Storage → Type}

/-- A part of the code of a worker. -/
abbrev Worker (reply : Storage → Type) (α : Type) :=
  Prog (WorkerOp Storage) (WorkerReply reply) WorkerError α

namespace Worker

def poll (timeout : Rat) : Worker reply (Except WorkerError (Option Message)) :=
  Prog.perform (WorkerOp.poll timeout)

def clock : Worker reply Aware := Prog.perform WorkerOp.clock

def monotonic : Worker reply Rat := Prog.perform WorkerOp.monotonic

def produce (message : ProducedMessage) : Worker reply (Except ProducerError Unit) :=
  Prog.perform (WorkerOp.produce message)

def pollProducer (timeout : Rat) :
    Worker reply (Except ProducerError (List (Option KafkaError))) :=
  Prog.perform (WorkerOp.pollProducer timeout)

def storage (op : Storage) : Worker reply (Except WorkerError (reply op)) :=
  Prog.perform (WorkerOp.storage op)

def afterDatabaseCommit : Worker reply (Except WorkerError Unit) :=
  Prog.perform WorkerOp.afterDatabaseCommit

def commit (message : Message) :
    Worker reply (Except WorkerError (Option (List (Option KafkaError)))) :=
  Prog.perform (WorkerOp.commit message)

end Worker

/-! ## Shared code -/

/-- The loop of `KafkaDlqPublisher.publish` until `completed` is set. -/
def awaitDelivery (deadline : Rat) (completed : Bool) (errors : List KafkaError) :
    Nat → Worker reply Unit
  | 0 => .raise .interrupted
  | fuel + 1 =>
      if completed then
        if errors ≠ [] then .raise (.dlqPublishError "Kafka rejected the poison record")
        else pure ()
      else do
        let now ← Worker.monotonic
        if deadline - now ≤ 0 then
          .raise (.dlqPublishError "DLQ delivery acknowledgement timed out")
        else do
          let served ← Worker.pollProducer (min (deadline - now) (1 / 10))
          match served with
          | .ok reports =>
              -- Any report sets the event, also one of an error.
              awaitDelivery deadline (!reports.isEmpty) (errors ++ reports.filterMap id) fuel
          -- Of the exceptions of `poll` only these two are caught.
          | .error .kafkaException =>
              .raise (.dlqPublishError "DLQ delivery acknowledgement failed")
          | .error .runtimeError =>
              .raise (.dlqPublishError "DLQ delivery acknowledgement failed")
          | .error _ => .raise .external

/-- `KafkaDlqPublisher.publish` with a producer for `topic`. -/
def publish (topic : String) (publishTimeoutSeconds : Rat) (fuel : Nat)
    (record : DeadLetterRecord) : Worker reply Unit := do
  let queued ← Worker.produce ⟨topic, record, record.kafkaKey⟩
  match queued with
  | .ok () => do
      let now ← Worker.monotonic
      awaitDelivery (now + publishTimeoutSeconds) false [] fuel
  -- `BufferError`, `KafkaException` and `RuntimeError` are caught.
  | .error .other => .raise .external
  | .error _ => .raise (.dlqPublishError "poison record could not be queued for the DLQ")

/-- `_commit_source_offset` -/
def commitSourceOffset (message : Message) : Worker reply Unit := do
  let answer ← Worker.commit message
  let committed ← Prog.ofExcept answer
  -- `committed or []`
  match (committed.getD []).findSome? id with
  | some error => .raise (.kafkaException error)
  | none => pure ()

/-- `_message_lineage` -/
def messageLineage (message : Message) : Except WorkerError (String × Int × Int) :=
  match message.topic, message.partition, message.offset with
  | some topic, some partition, some offset => .ok (topic, partition, offset)
  | _, _, _ => .error (.valueError "consumed message is missing source lineage")

end

/-! ## The world of the workers -/

/-- An entry of the partition. -/
structure Record where
  key : Option Bytes
  value : Option Bytes
  deriving DecidableEq

structure Partition where
  topic : String
  partition : Nat

/-- The message a consumer gets for an entry. -/
def Partition.message (p : Partition) (offset : Nat) (record : Record) : Message where
  error := none
  topic := some p.topic
  partition := some p.partition
  offset := some offset
  key := record.key
  value := record.value

@[simp] theorem Partition.message_error (p : Partition) (offset : Nat) (record : Record) :
    (p.message offset record).error = none := rfl

@[simp] theorem Partition.message_value (p : Partition) (offset : Nat) (record : Record) :
    (p.message offset record).value = record.value := rfl

structure Broker where
  log : List Record
  /-- every offset the group committed, the latest first -/
  committed : List Nat
  /-- the dead letters the broker has stored and acknowledged -/
  dlq : List ProducedMessage

structure World (D : Type) where
  broker : Broker
  database : D

/-- The state of an instance: the position of its consumer and the record its producer has
queued. -/
structure Instance where
  position : Nat
  queued : Option ProducedMessage

/-- The database of a worker. A choice says what may go wrong with a statement; the position
of the instance is there for databases that keep a history of what was done for which
message. -/
structure Database (Storage : Type) (reply : Storage → Type) (D : Type) where
  Choice : Storage → Type
  act : (op : Storage) → Choice op → (position : Nat) → D → Except WorkerError (reply op) × D
  Disturbance : Type
  disturb : Disturbance → D → D

inductive PollChoice
  | timeout
  | errorEvent (error : KafkaError)
  | raises
  | next

inductive ProducerChoice
  | nothing
  | delivered
  /-- the broker stores the record but the report does not arrive -/
  | deliveredUnseen
  | rejected (error : KafkaError)
  | raises (error : ProducerError)

/-- Whether the broker applies a commit, and what it answers. -/
structure CommitChoice where
  applied : Bool
  reply : Except WorkerError (Option (List (Option KafkaError)))

/-- An answer without an error is given only for an applied commit. -/
def CommitChoice.takesEffect (c : CommitChoice) : Bool :=
  match c.reply with
  | .ok partitions => c.applied || ((partitions.getD []).findSome? id).isNone
  | .error _ => c.applied

section

variable {Storage : Type} {reply : Storage → Type} {D : Type}

def WorkerChoice (db : Database Storage reply D) : WorkerOp Storage → Type
  | .poll _ => PollChoice
  | .clock => Aware
  | .monotonic => Rat
  | .produce _ => Except ProducerError Unit
  | .pollProducer _ => ProducerChoice
  | .storage op => db.Choice op
  | .afterDatabaseCommit => Except WorkerError Unit
  | .commit _ => CommitChoice

/-- Every operation succeeds at that time, and the database chooses for its statements. -/
def succeedsAt (db : Database Storage reply D) (now : Aware)
    (statement : (op : Storage) → db.Choice op) : (op : WorkerOp Storage) → WorkerChoice db op
  | .poll _ => PollChoice.next
  | .clock => now
  | .monotonic => (0 : Rat)
  | .produce _ => Except.ok ()
  | .pollProducer _ => ProducerChoice.delivered
  | .storage op => statement op
  | .afterDatabaseCommit => Except.ok ()
  | .commit _ => ⟨true, .ok none⟩

def pollAct (p : Partition) (choice : PollChoice) (w : World D) (inst : Instance) :
    Except WorkerError (Option Message) × World D × Instance :=
  match choice with
  | .timeout => (.ok none, w, inst)
  | .errorEvent error => (.ok (some ⟨some error, none, none, none, none, none⟩), w, inst)
  | .raises => (.error .external, w, inst)
  | .next =>
      match w.broker.log[inst.position]? with
      | none => (.ok none, w, inst)
      | some record =>
          (.ok (some (p.message inst.position record)), w,
            { inst with position := inst.position + 1 })

def produceAct (message : ProducedMessage) (choice : Except ProducerError Unit) (w : World D)
    (inst : Instance) : Except ProducerError Unit × World D × Instance :=
  match choice with
  | .ok () => (.ok (), w, { inst with queued := some message })
  | .error e => (.error e, w, inst)

def acknowledge (w : World D) (message : ProducedMessage) : World D :=
  { w with broker := { w.broker with dlq := message :: w.broker.dlq } }

def pollProducerAct (choice : ProducerChoice) (w : World D) (inst : Instance) :
    Except ProducerError (List (Option KafkaError)) × World D × Instance :=
  match choice, inst.queued with
  | .raises e, _ => (.error e, w, inst)
  | .delivered, some message =>
      (.ok [none], acknowledge w message, { inst with queued := none })
  | .deliveredUnseen, some message => (.ok [], acknowledge w message, inst)
  | .rejected error, some _ => (.ok [some error], w, { inst with queued := none })
  | _, _ => (.ok [], w, inst)

def commitAct (message : Message) (choice : CommitChoice) (w : World D) : World D :=
  match message.offset with
  | some offset =>
      if choice.takesEffect then
        { w with broker :=
            { w.broker with committed := (offset.toNat + 1) :: w.broker.committed } }
      else w
  | none => w

/-- What an operation of an instance does to the world. -/
def workerAct (p : Partition) (db : Database Storage reply D) :
    (op : WorkerOp Storage) → WorkerChoice db op → World D → Instance →
      WorkerReply reply op × World D × Instance
  | .poll _, choice, w, inst => pollAct p choice w inst
  | .clock, now, w, inst => (now, w, inst)
  | .monotonic, now, w, inst => (now, w, inst)
  | .produce message, choice, w, inst => produceAct message choice w inst
  | .pollProducer _, choice, w, inst => pollProducerAct choice w inst
  | .storage op, choice, w, inst =>
      let (result, database) := db.act op choice inst.position w.database
      (result, { w with database }, inst)
  | .afterDatabaseCommit, result, w, inst => (result, w, inst)
  | .commit message, choice, w, inst => (choice.reply, commitAct message choice w, inst)

/-- What changes without any instance of the group: producers append, a record queued earlier
is stored late, other programs use the database. -/
inductive WorkerDisturbance (db : Database Storage reply D)
  | append (record : Record)
  | lateDeadLetter (message : ProducedMessage)
  | database (d : db.Disturbance)

def workerDisturb (db : Database Storage reply D) (d : WorkerDisturbance db) (w : World D) :
    World D :=
  match d with
  | .append record => { w with broker := { w.broker with log := w.broker.log ++ [record] } }
  | .lateDeadLetter message => acknowledge w message
  | .database d => { w with database := db.disturb d w.database }

/-- How an instance is started: the offset is the `committed`-th of those ever committed,
counted from the latest, and 0 when there is none. -/
structure StartArguments (A : Type) where
  committed : Nat
  argument : A

/-- Instances of one consumer group over one partition. -/
def workerSystem {A : Type} (p : Partition) (db : Database Storage reply D)
    (program : A → Worker reply Unit) :
    System (WorkerOp Storage) (WorkerReply reply) WorkerError Unit (World D) Instance where
  Choice := WorkerChoice db
  act := workerAct p db
  Disturbance := WorkerDisturbance db
  disturb := workerDisturb db
  Start := StartArguments A
  start a w := (program a.argument, ⟨w.broker.committed.getD a.committed 0, none⟩)

end

end Consumers
