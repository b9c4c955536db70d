import DeliveryIntelligence.Consumers.PrMonitor
import DeliveryIntelligence.Consumers.Warehouse

set_option autoImplicit false

/-!
# Which poison records become dead letters

Both consumers handle a record with an invalid envelope in the same way: `from_message` reads
the bytes a second time to recover the delivery id, the letter is published, and the offset is
committed. Publishing and committing succeed with a healthy broker (`returns_poison`), so the
outcome depends on the second reading alone: `Recoverable` is what it needs.
-/

namespace Consumers

open Datetime Program

/-! ## A healthy broker -/

section

variable {Storage : Type} {reply : Storage → Type} {D : Type} {db : Database Storage reply D}

/-- What the outside world answers to one operation, whichever it is. -/
abbrev Answer (db : Database Storage reply D) := (op : WorkerOp Storage) → WorkerChoice db op

namespace Answer

def failedAt (a : Answer db) : Aware := a .clock

def now (a : Answer db) : Rat := a .monotonic

def queues (a : Answer db) (message : ProducedMessage) : Except ProducerError Unit :=
  a (.produce message)

def report (a : Answer db) (timeout : Rat) : ProducerChoice := a (.pollProducer timeout)

def commits (a : Answer db) (message : Message) : CommitChoice := a (.commit message)

end Answer

/-- The polls of the producer, each after a look at the clock: the report comes before the
deadline. -/
inductive Acknowledges (deadline : Rat) : List (Answer db) → Prop
  | delivered {clock poll : Answer db} (early : clock.now < deadline)
      (report : ∀ timeout, poll.report timeout = .delivered) :
      Acknowledges deadline [clock, poll]
  | waiting {clock poll : Answer db} {rest : List (Answer db)} (early : clock.now < deadline)
      (silent : ∀ timeout, poll.report timeout = .nothing) (later : Acknowledges deadline rest) :
      Acknowledges deadline (clock :: poll :: rest)

/-- The answers of a healthy DLQ and broker to a worker with one poison record: what is queued is
acknowledged in time, and the offset is committed without an error. The bound of the model on the
number of polls is not reached. -/
structure Healthy (db : Database Storage reply D) (message : Message)
    (publishTimeoutSeconds : Rat) (fuel : Nat) where
  clock : Answer db
  queued : Answer db
  started : Answer db
  polls : List (Answer db)
  commit : Answer db
  acknowledged : Acknowledges (started.now + publishTimeoutSeconds) polls
  enough : polls.length < 2 * fuel
  committed : ∃ partitions, (commit.commits message).reply = .ok partitions
    ∧ (partitions.getD []).findSome? id = none

/-- The letter is accepted by the producer. -/
def Healthy.Accepts {message : Message} {publishTimeoutSeconds : Rat} {fuel : Nat}
    (h : Healthy db message publishTimeoutSeconds fuel) (letter : ProducedMessage) : Prop :=
  h.queued.queues letter = .ok ()

def Healthy.answers {message : Message} {publishTimeoutSeconds : Rat} {fuel : Nat}
    (h : Healthy db message publishTimeoutSeconds fuel) : List (Answer db) :=
  h.clock :: h.queued :: h.started :: (h.polls ++ [h.commit])

/-! ## The program of a poison record -/

/-- `_dead_letter` of both consumers, with the outcome it returns. -/
def poison {α : Type} (parsers : Parsers) (dlqTopic : String) (publishTimeoutSeconds : Rat)
    (fuel : Nat) (message : Message) (failureReason : DlqFailureReason) (outcome : α) :
    Worker reply α := do
  let failedAt ← Worker.clock
  let record ← Prog.ofExcept
    (DeadLetterRecord.fromMessage parsers message failedAt failureReason)
  publish dlqTopic publishTimeoutSeconds fuel record
  commitSourceOffset message
  return outcome

variable {A : Type} {p : Partition} {program : A → Worker reply Unit} {γ : Type}
  {a : Answer db} {rest : List (Answer db)} {w w' w₁ : World D} {inst inst' inst₁ : Instance}
  {c : γ}

/-! ## One operation -/

theorem returns_clock {f : Aware → Worker reply γ}
    (h : (workerSystem p db program).Returns rest (f a.failedAt) w inst c w' inst') :
    (workerSystem p db program).Returns (a :: rest) (Worker.clock >>= f) w inst c w' inst' :=
  .perform h

theorem returns_monotonic {f : Rat → Worker reply γ}
    (h : (workerSystem p db program).Returns rest (f a.now) w inst c w' inst') :
    (workerSystem p db program).Returns (a :: rest) (Worker.monotonic >>= f) w inst c w' inst' :=
  .perform h

theorem returns_produce {message : ProducedMessage} {f : Except ProducerError Unit → Worker reply γ}
    (hqueues : a.queues message = .ok ())
    (h : (workerSystem p db program).Returns rest (f (.ok ())) w
      { inst with queued := some message } c w' inst') :
    (workerSystem p db program).Returns (a :: rest) (Worker.produce message >>= f) w inst c w'
      inst' := by
  refine .perform ?_
  show (workerSystem p db program).Returns rest (f (produceAct message (a.queues message) w inst).1)
    (produceAct message (a.queues message) w inst).2.1
    (produceAct message (a.queues message) w inst).2.2 c w' inst'
  rw [hqueues]
  exact h

theorem returns_pollProducer {timeout : Rat}
    {f : Except ProducerError (List (Option KafkaError)) → Worker reply γ}
    {reports : Except ProducerError (List (Option KafkaError))}
    (hpoll : pollProducerAct (a.report timeout) w inst = (reports, w₁, inst₁))
    (h : (workerSystem p db program).Returns rest (f reports) w₁ inst₁ c w' inst') :
    (workerSystem p db program).Returns (a :: rest) (Worker.pollProducer timeout >>= f) w inst c w'
      inst' := by
  refine .perform ?_
  show (workerSystem p db program).Returns rest (f (pollProducerAct (a.report timeout) w inst).1)
    (pollProducerAct (a.report timeout) w inst).2.1
    (pollProducerAct (a.report timeout) w inst).2.2 c w' inst'
  rw [hpoll]
  exact h

theorem returns_commit {message : Message}
    {f : Except WorkerError (Option (List (Option KafkaError))) → Worker reply γ}
    (h : (workerSystem p db program).Returns rest (f (a.commits message).reply)
      (commitAct message (a.commits message) w) inst c w' inst') :
    (workerSystem p db program).Returns (a :: rest) (Worker.commit message >>= f) w inst c w'
      inst' :=
  .perform h

/-- A commit that reports no error for any partition returns. -/
theorem returns_commitSourceOffset {message : Message} {f : Unit → Worker reply γ}
    {partitions : Option (List (Option KafkaError))}
    (hreply : (a.commits message).reply = .ok partitions)
    (hclean : (partitions.getD []).findSome? id = none)
    (h : (workerSystem p db program).Returns rest (f ())
      (commitAct message (a.commits message) w) inst c w' inst') :
    (workerSystem p db program).Returns (a :: rest) (commitSourceOffset message >>= f) w inst c w'
      inst' := by
  refine returns_commit ?_
  rw [hreply]
  simp only [bind, Prog.bind, Prog.ofExcept, hclean]
  exact h

/-! ## Publishing and committing -/

/-- The loop of `publish` ends with the report. -/
theorem returns_awaitDelivery {deadline : Rat} {polls : List (Answer db)}
    (h : Acknowledges deadline polls) {fuel : Nat} (hfuel : polls.length < 2 * fuel)
    {message : ProducedMessage} (hqueued : inst.queued = some message) :
    (workerSystem p db program).Returns polls (awaitDelivery deadline false [] fuel) w inst ()
      (acknowledge w message) { inst with queued := none } := by
  induction h generalizing fuel with
  -- the poll that reports the delivery ends the loop
  | @delivered clock poll early report =>
      obtain ⟨fuel, rfl⟩ : ∃ n, fuel = n + 2 := ⟨fuel - 2, by simp at hfuel; omega⟩
      unfold awaitDelivery
      rw [if_neg Bool.false_ne_true]
      refine returns_monotonic ?_
      rw [if_neg (by linarith)]
      have hpoll : ∀ timeout, pollProducerAct (poll.report timeout) w inst
          = (.ok [none], acknowledge w message, { inst with queued := none }) := by
        intro timeout
        simp only [report, pollProducerAct, hqueued]
      exact returns_pollProducer (hpoll _) (.pure () _ _)
  -- a silent poll before the deadline uses one round
  | @waiting clock poll rest early silent later ih =>
      obtain ⟨fuel, rfl⟩ : ∃ n, fuel = n + 1 := ⟨fuel - 1, by simp at hfuel; omega⟩
      unfold awaitDelivery
      rw [if_neg Bool.false_ne_true]
      refine returns_monotonic ?_
      rw [if_neg (by linarith)]
      have hpoll : ∀ timeout, pollProducerAct (poll.report timeout) w inst = (.ok [], w, inst) := by
        intro timeout
        simp only [silent, pollProducerAct, hqueued]
      exact returns_pollProducer (hpoll _) (ih (by simp at hfuel; omega))

/-- The world after a poison record: its letter is stored and its offset committed. -/
def World.poisoned (w : World D) (letter : ProducedMessage) (offset : Nat) : World D :=
  { w with broker :=
      { w.broker with
        dlq := letter :: w.broker.dlq
        committed := (offset + 1) :: w.broker.committed } }

/-- With a healthy broker everything after `from_message` succeeds. -/
theorem returns_poison {α : Type} {parsers : Parsers} {dlqTopic : String}
    {publishTimeoutSeconds : Rat} {fuel offset : Nat} {record : Record}
    {failureReason : DlqFailureReason} {outcome : α} {letter : DeadLetterRecord}
    (env : Healthy db (p.message offset record) publishTimeoutSeconds fuel)
    (hletter : DeadLetterRecord.fromMessage parsers (p.message offset record) env.clock.failedAt
      failureReason = .ok letter)
    (haccepts : env.Accepts ⟨dlqTopic, letter, letter.kafkaKey⟩) :
    (workerSystem p db program).Returns env.answers
      (poison parsers dlqTopic publishTimeoutSeconds fuel (p.message offset record) failureReason
        outcome) w inst outcome (w.poisoned ⟨dlqTopic, letter, letter.kafkaKey⟩ offset)
      { inst with queued := none } := by
  refine returns_clock ?_
  rw [hletter]
  show (workerSystem p db program).Returns (env.queued :: env.started :: (env.polls ++ [env.commit]))
    (publish dlqTopic publishTimeoutSeconds fuel letter >>= fun _ =>
      commitSourceOffset (p.message offset record) >>= fun _ => pure outcome) w inst outcome _ _
  -- the letter is queued and acknowledged
  have hpublish : (workerSystem p db program).Returns (env.queued :: env.started :: env.polls)
      (publish dlqTopic publishTimeoutSeconds fuel letter) w inst ()
      (acknowledge w ⟨dlqTopic, letter, letter.kafkaKey⟩) { inst with queued := none } := by
    refine returns_produce haccepts (returns_monotonic ?_)
    exact returns_awaitDelivery env.acknowledged env.enough rfl
  -- then the offset is committed
  have hcommit : (workerSystem p db program).Returns [env.commit]
      (commitSourceOffset (p.message offset record) >>= fun _ => pure outcome)
      (acknowledge w ⟨dlqTopic, letter, letter.kafkaKey⟩) { inst with queued := none } outcome
      (w.poisoned ⟨dlqTopic, letter, letter.kafkaKey⟩ offset) { inst with queued := none } := by
    obtain ⟨partitions, hreply, hclean⟩ := env.committed
    have htakes : (env.commit.commits (p.message offset record)).takesEffect = true := by
      simp [CommitChoice.takesEffect, hreply, hclean]
    have hact : commitAct (p.message offset record) (env.commit.commits (p.message offset record))
        (acknowledge w ⟨dlqTopic, letter, letter.kafkaKey⟩)
          = w.poisoned ⟨dlqTopic, letter, letter.kafkaKey⟩ offset := by
      show (if (env.commit.commits (p.message offset record)).takesEffect = true then _ else _) = _
      rw [if_pos htakes]
      rfl
    refine returns_commitSourceOffset hreply hclean ?_
    rw [hact]
    exact .pure outcome _ _
  exact hpublish.bind hcommit

end

/-! ## The second reading -/

/-- `json.loads` rejects the bytes as undecodable, or the delivery id it finds is valid
Unicode once it is stripped. Without a string under `delivery_id` there is nothing to check. -/
def Recoverable (parsers : Parsers) (value : Option Bytes) : Prop :=
  ∀ bytes, value = some bytes → parsers.jsonLoads bytes = .error .decode
    ∨ ∃ decoded, parsers.jsonLoads bytes = .ok decoded
      ∧ ∀ members codePoints, decoded = .dict members →
        Python.get members "delivery_id" = some (.str codePoints) →
          (Python.text (Python.strip codePoints)).isSome = true

theorem text_ne_empty {codePoints : List Nat} {s : String} (h : Python.text codePoints = some s)
    (hne : codePoints ≠ []) : s ≠ "" := by
  unfold Python.text at h
  split at h
  · cases h
    intro hempty
    have hlist := congrArg String.toList hempty
    rw [String.toList_ofList] at hlist
    exact hne (List.map_eq_nil_iff.mp hlist)
  · cases h

/-- The two steps that recover a delivery id, with the check of the record they fill. -/
def Recovers (parsers : Parsers) (value : Option Bytes) : Prop :=
  ∃ recovered deliveryId, extractDeliveryId parsers value = .ok recovered
    ∧ validateDeliveryId recovered = .ok deliveryId ∧ ∀ id ∈ deliveryId, id ≠ ""

/-- Nothing to recover is nothing to check. -/
theorem recovers_none {parsers : Parsers} {value : Option Bytes}
    (h : extractDeliveryId parsers value = .ok none) : Recovers parsers value :=
  ⟨none, none, h, rfl, fun _ hid => by cases hid⟩

theorem recoverable_of_recovers {parsers : Parsers} {bytes : Bytes}
    (h : Recovers parsers (some bytes)) :
    parsers.jsonLoads bytes = .error .decode
    ∨ ∃ decoded, parsers.jsonLoads bytes = .ok decoded
      ∧ ∀ members codePoints, decoded = .dict members →
        Python.get members "delivery_id" = some (.str codePoints) →
          (Python.text (Python.strip codePoints)).isSome = true := by
  obtain ⟨recovered, deliveryId, hextract, hvalid, -⟩ := h
  unfold extractDeliveryId at hextract
  cases hloads : parsers.jsonLoads bytes with
  | error failure =>
      cases failure with
      | decode => exact Or.inl rfl
      -- `except (json.JSONDecodeError, UnicodeDecodeError)` catches nothing else
      | typeError => simp [hloads] at hextract
      | validation => simp [hloads] at hextract
      | other => simp [hloads] at hextract
  | ok decoded =>
      refine Or.inr ⟨decoded, rfl, fun members codePoints hdict hget => ?_⟩
      subst hdict
      simp only [hloads, hget] at hextract
      split at hextract
      · rename_i hblank
        rw [hblank]
        rfl
      · cases hextract
        unfold validateDeliveryId at hvalid
        cases htext : Python.text (Python.strip codePoints) with
        | none => simp [htext] at hvalid
        | some id => rfl

theorem recovers_of_recoverable {parsers : Parsers} {value : Option Bytes}
    (h : Recoverable parsers value) : Recovers parsers value := by
  cases value with
  | none => exact recovers_none rfl
  | some bytes =>
      rcases h bytes rfl with hdecode | ⟨decoded, hloads, hid⟩
      · exact recovers_none (by simp only [extractDeliveryId, hdecode])
      · cases decoded with
        | dict members =>
            by_cases hstring : ∃ codePoints, Python.get members "delivery_id" = some (.str codePoints)
            · obtain ⟨codePoints, hget⟩ := hstring
              by_cases hblank : Python.strip codePoints = []
              · exact recovers_none (by simp [extractDeliveryId, hloads, hget, hblank])
              · obtain ⟨id, htext⟩ := Option.isSome_iff_exists.mp (hid members codePoints rfl hget)
                refine ⟨some (Python.strip codePoints), some id, ?_, ?_, ?_⟩
                · simp [extractDeliveryId, hloads, hget, hblank]
                · simp only [validateDeliveryId, htext]
                · intro id' hid'
                  cases hid'
                  exact text_ne_empty htext hblank
            · refine recovers_none ?_
              simp only [extractDeliveryId, hloads]
              split
              · rename_i codePoints hget
                exact absurd ⟨codePoints, hget⟩ hstring
              · rfl
        -- only an object can have a delivery id
        | _ => exact recovers_none (by simp only [extractDeliveryId, hloads])

/-- The two steps succeed on exactly the recoverable values. -/
theorem recovers_iff {parsers : Parsers} {value : Option Bytes} :
    Recovers parsers value ↔ Recoverable parsers value := by
  constructor
  · rintro h bytes rfl
    exact recoverable_of_recovers h
  · exact recovers_of_recoverable

/-- `from_message` returns a record for exactly the recoverable messages of a named topic. -/
theorem fromMessage_iff {parsers : Parsers} {p : Partition} {offset : Nat} {record : Record}
    {failedAt : Aware} {failureReason : DlqFailureReason} :
    (∃ letter, DeadLetterRecord.fromMessage parsers (p.message offset record) failedAt
        failureReason = .ok letter)
      ↔ p.topic ≠ "" ∧ Recoverable parsers record.value := by
  have hlineage : (0 : Int) ≤ p.partition ∧ (0 : Int) ≤ offset :=
    ⟨Int.natCast_nonneg _, Int.natCast_nonneg _⟩
  rw [← recovers_iff, Recovers]
  constructor
  · rintro ⟨letter, hletter⟩
    obtain ⟨recovered, hextract, hrest⟩ := Postgres.bind_eq_ok hletter
    obtain ⟨deliveryId, hvalid, hbuilt⟩ := Postgres.bind_eq_ok hrest
    split at hbuilt
    · rename_i hchecks
      exact ⟨hchecks.1, recovered, deliveryId, hextract, hvalid, hchecks.2.2⟩
    · cases hbuilt
  · rintro ⟨htopic, recovered, deliveryId, hextract, hvalid, hid⟩
    have hchecks : p.topic ≠ "" ∧ ((0 : Int) ≤ p.partition ∧ (0 : Int) ≤ offset)
        ∧ ∀ id ∈ deliveryId, id ≠ "" := ⟨htopic, hlineage, hid⟩
    unfold DeadLetterRecord.fromMessage
    simp only [Partition.message, hextract]
    show ∃ letter, (validateDeliveryId recovered >>= _) = .ok letter
    rw [hvalid]
    exact ⟨_, dif_pos hchecks⟩

/-! ## Dead-lettering is total on recoverable records -/

/-- The poison record becomes a dead letter that carries it, whatever the time and the reason; and
in both consumers a healthy broker that accepts the letter of the time then has it and the
commit. -/
structure DeadLettered (parsers : Monitor.PayloadParsers) (p : Partition) (offset : Nat)
    (record : Record) : Prop where
  carried : ∀ failedAt failureReason, ∃ letter, DeadLetterRecord.fromMessage parsers.toParsers
    (p.message offset record) failedAt failureReason = .ok letter
      ∧ letter.Carries (p.message offset record)
  monitor : ∀ (monitor : Monitor.PrMonitor) w inst
    (env : Healthy Monitor.projectionDatabase (p.message offset record)
      monitor.publishTimeoutSeconds monitor.fuel), ∃ letter,
      DeadLetterRecord.fromMessage parsers.toParsers (p.message offset record) env.clock.failedAt
          .invalidGithubEventEnvelope = .ok letter
        ∧ letter.Carries (p.message offset record)
        ∧ (env.Accepts ⟨monitor.dlqTopic, letter, letter.kafkaKey⟩ →
          (Monitor.monitorSystem parsers p).Returns env.answers
          (Monitor.process parsers monitor (p.message offset record)) w inst .dlq
          (w.poisoned ⟨monitor.dlqTopic, letter, letter.kafkaKey⟩ offset)
          { inst with queued := none })
  warehouse : ∀ (writer : Warehouse.WarehouseWriter) w inst
    (env : Healthy Warehouse.rawDatabase (p.message offset record)
      writer.publishTimeoutSeconds writer.fuel), ∃ letter,
      DeadLetterRecord.fromMessage parsers.toParsers (p.message offset record) env.clock.failedAt
          .invalidGithubEventEnvelope = .ok letter
        ∧ letter.Carries (p.message offset record)
        ∧ (env.Accepts ⟨writer.dlqTopic, letter, letter.kafkaKey⟩ →
          (Warehouse.warehouseSystem parsers.toParsers p).Returns env.answers
          (Warehouse.process parsers.toParsers writer (p.message offset record)) w inst .dlq
          (w.poisoned ⟨writer.dlqTopic, letter, letter.kafkaKey⟩ offset)
          { inst with queued := none })

/-- The envelope of the record is invalid. -/
def Poison (parsers : Parsers) (value : Option Bytes) : Prop :=
  validateEnvelope parsers value = .error .typeError
    ∨ validateEnvelope parsers value = .error .validation

theorem monitor_process_poison {parsers : Monitor.PayloadParsers} {monitor : Monitor.PrMonitor}
    {p : Partition} {offset : Nat} {record : Record} (h : Poison parsers.toParsers record.value) :
    Monitor.process parsers monitor (p.message offset record)
      = poison parsers.toParsers monitor.dlqTopic monitor.publishTimeoutSeconds monitor.fuel
          (p.message offset record) .invalidGithubEventEnvelope .dlq := by
  rcases h with h | h
  · simp only [Monitor.process, Partition.message, h]
    rfl
  · simp only [Monitor.process, Partition.message, h]
    rfl

theorem warehouse_process_poison {parsers : Parsers} {writer : Warehouse.WarehouseWriter}
    {p : Partition} {offset : Nat} {record : Record} (h : Poison parsers record.value) :
    Warehouse.process parsers writer (p.message offset record)
      = poison parsers writer.dlqTopic writer.publishTimeoutSeconds writer.fuel
          (p.message offset record) .invalidGithubEventEnvelope .dlq := by
  rw [Warehouse.process_message]
  rcases h with h | h
  · rw [h]
    rfl
  · rw [h]
    rfl

/-- **Dead-lettering** of a record with an invalid envelope succeeds exactly when the topic has
a name and the second reading of the bytes recovers what it looks for. -/
theorem deadLettered_iff (parsers : Monitor.PayloadParsers) (p : Partition) (offset : Nat)
    (record : Record) (hpoison : Poison parsers.toParsers record.value) :
    DeadLettered parsers p offset record
      ↔ p.topic ≠ "" ∧ Recoverable parsers.toParsers record.value := by
  constructor
  · intro h
    obtain ⟨letter, hletter, -⟩ := h.carried ⟨0, 0⟩ .invalidGithubEventEnvelope
    exact fromMessage_iff.mp ⟨letter, hletter⟩
  · intro h
    have hletters : ∀ failedAt failureReason, ∃ letter, DeadLetterRecord.fromMessage
        parsers.toParsers (p.message offset record) failedAt failureReason = .ok letter
          ∧ letter.Carries (p.message offset record) := by
      intro failedAt failureReason
      obtain ⟨letter, hletter⟩ := fromMessage_iff.mpr h
      exact ⟨letter, hletter, fromMessage_carries hletter⟩
    refine ⟨hletters, fun monitor w inst env => ?_, fun writer w inst env => ?_⟩
    · obtain ⟨letter, hletter, hcarries⟩ :=
        hletters env.clock.failedAt .invalidGithubEventEnvelope
      refine ⟨letter, hletter, hcarries, fun haccepts => ?_⟩
      rw [monitor_process_poison hpoison]
      exact returns_poison env hletter haccepts
    · obtain ⟨letter, hletter, hcarries⟩ :=
        hletters env.clock.failedAt .invalidGithubEventEnvelope
      refine ⟨letter, hletter, hcarries, fun haccepts => ?_⟩
      rw [warehouse_process_poison hpoison]
      exact returns_poison env hletter haccepts

/-- The parsers on a document that is no envelope, with what `json.loads` makes of it. -/
def parsersOf (decoded : Python.Value) : Monitor.PayloadParsers where
  envelope _ := .error .validation
  datetime _ := none
  jsonLoads _ := .ok decoded
  pullRequestPayload _ := none
  submittedReviewPayload _ := none

/-- A record with a key whose object has a delivery id and nothing else of an envelope. -/
def deliveryOnly : Record :=
  ⟨some ("20001".toList.map fun c => c.toNat.toUInt8),
    some ("\x7b\"delivery_id\":\" d-7\"\x7d".toList.map fun c => c.toNat.toUInt8)⟩

/-- What `json.loads` makes of it. -/
def deliveryOnlyParsers : Monitor.PayloadParsers :=
  parsersOf (.dict [("delivery_id".toList.map Char.toNat, .str (" d-7".toList.map Char.toNat))])

example : (DeadLetterRecord.fromMessage deliveryOnlyParsers.toParsers
    (Partition.message ⟨"github.events.raw", 0⟩ 7 deliveryOnly) ⟨0, 0⟩
    .invalidGithubEventEnvelope).toOption.map (·.deliveryId) = some (some "d-7") := by
  decide

theorem deadLettered_deliveryOnly :
    DeadLettered deliveryOnlyParsers ⟨"github.events.raw", 0⟩ 7 deliveryOnly := by
  refine (deadLettered_iff _ _ _ _ (Or.inr rfl)).mpr ⟨by decide, fun bytes _ => Or.inr ?_⟩
  refine ⟨_, rfl, fun members codePoints hdict hget => ?_⟩
  cases hdict
  cases hget
  decide

/-! ## A lone surrogate -/

/-- The bytes of an object whose `delivery_id` is the escape of `U+D800`. -/
def loneSurrogate : Record :=
  ⟨none, some ("\x7b\"delivery_id\":\"\\ud800\"\x7d".toList.map fun c => c.toNat.toUInt8)⟩

/-- `json.loads` reads the lone surrogate, and the record of the dead letter rejects it. -/
theorem loneSurrogate_not_deadLettered :
    let parsers := parsersOf (.dict [("delivery_id".toList.map Char.toNat, .str [0xD800])])
    Poison parsers.toParsers loneSurrogate.value
      ∧ ¬ DeadLettered parsers ⟨"github.events.raw", 0⟩ 7 loneSurrogate := by
  intro parsers
  refine ⟨Or.inr rfl, fun h => ?_⟩
  obtain ⟨letter, hletter, -⟩ := h.carried ⟨0, 0⟩ .invalidGithubEventEnvelope
  have hraises : DeadLetterRecord.fromMessage parsers.toParsers
      (Partition.message ⟨"github.events.raw", 0⟩ 7 loneSurrogate) ⟨0, 0⟩
      .invalidGithubEventEnvelope = .error .validationError := by
    decide
  rw [hraises] at hletter
  cases hletter

end Consumers
