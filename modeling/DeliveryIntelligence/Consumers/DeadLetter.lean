import DeliveryIntelligence.Consumers.Envelope
import DeliveryIntelligence.Library.Base64

set_option autoImplicit false

/-!
# Dead letters

The poison-record contract of `consumers/dlq.py`: a record keeps the bytes of the source
message in base64 together with its topic, partition and offset. `Carries` says what a reader
of the record gets back; `fromMessage_carries` that every record built from a message does.
-/

namespace Consumers

open Datetime

/-- An error object of the Kafka client, by its code. -/
abbrev KafkaError := Int

/-- A message as `Consumer.poll` returns it. -/
structure Message where
  error : Option KafkaError
  topic : Option String
  partition : Option Int
  offset : Option Int
  key : Option Bytes
  value : Option Bytes
  deriving DecidableEq

/-- Why a consumer stops. -/
inductive WorkerError
  | kafkaException (error : KafkaError)
  | valueError (message : String)
  | validationError
  | dlqPublishError (message : String)
  /-- an exception of the storage, the broker client, a hook or a parser -/
  | external
  /-- the process is interrupted -/
  | interrupted
  deriving DecidableEq, Repr

inductive DlqFailureReason
  | invalidGithubEventEnvelope
  | invalidPrMonitorEvent
  deriving DecidableEq, Repr

/-- Versioned poison-record contract with complete source bytes and lineage. -/
structure DeadLetterRecord where
  failedAt : Aware
  failureReason : DlqFailureReason
  sourceTopic : String
  sourcePartition : Int
  sourceOffset : Int
  deliveryId : Option String
  sourceKeyBase64 : Option String
  sourceValueBase64 : Option String
  topic_nonempty : sourceTopic ≠ ""
  lineage_nonneg : 0 ≤ sourcePartition ∧ 0 ≤ sourceOffset
  delivery_nonempty : ∀ id ∈ deliveryId, id ≠ ""
  deriving DecidableEq

/-- `_extract_delivery_id`: only decoding errors are caught. -/
def extractDeliveryId (parsers : Parsers) (value : Option Bytes) :
    Except WorkerError (Option (List Nat)) :=
  match value with
  | none => .ok none
  | some bytes =>
      match parsers.jsonLoads bytes with
      | .error .decode => .ok none
      | .error _ => .error .external
      | .ok (.dict members) =>
          match Python.get members "delivery_id" with
          -- `isinstance(delivery_id, str) and delivery_id.strip()`
          | some (.str codePoints) =>
              if Python.strip codePoints = [] then .ok none
              else .ok (some (Python.strip codePoints))
          | _ => .ok none
      | .ok _ => .ok none

/-- `_encode_optional_bytes` -/
def encodeOptionalBytes (value : Option Bytes) : Option String :=
  value.map fun bytes => String.ofList (Base64.encode bytes)

/-- The model checks of `DeadLetterRecord` on the delivery id. -/
def validateDeliveryId (deliveryId : Option (List Nat)) : Except WorkerError (Option String) :=
  match deliveryId with
  | none => .ok none
  | some codePoints =>
      match Python.text codePoints with
      | some id => .ok (some id)
      -- An unpaired surrogate is not a `str` for pydantic.
      | none => .error .validationError

/-- Retain source bytes and use a real delivery ID only when recoverable. -/
def DeadLetterRecord.fromMessage (parsers : Parsers) (message : Message) (failedAt : Aware)
    (failureReason : DlqFailureReason) : Except WorkerError DeadLetterRecord :=
  match message.topic, message.partition, message.offset with
  | some topic, some partition, some offset => do
      let recovered ← extractDeliveryId parsers message.value
      let deliveryId ← validateDeliveryId recovered
      if h : topic ≠ "" ∧ (0 ≤ partition ∧ 0 ≤ offset) ∧ ∀ id ∈ deliveryId, id ≠ "" then
        return {
          failedAt := failedAt
          failureReason := failureReason
          sourceTopic := topic
          sourcePartition := partition
          sourceOffset := offset
          deliveryId := deliveryId
          sourceKeyBase64 := encodeOptionalBytes message.key
          sourceValueBase64 := encodeOptionalBytes message.value
          topic_nonempty := h.1
          lineage_nonneg := h.2.1
          delivery_nonempty := h.2.2 }
      else .error .validationError
  | _, _, _ => .error (.valueError "consumed message is missing source lineage")

/-- Key by the real delivery ID when the poison bytes expose one. -/
def DeadLetterRecord.kafkaKey (record : DeadLetterRecord) : Option Bytes :=
  record.deliveryId.map fun id => id.toUTF8.toList

/-! ## What a record carries -/

/-- The bytes of a base64 field. -/
def decodeOptionalBytes (encoded : Option String) : Option (Option Bytes) :=
  match encoded with
  | none => some none
  | some text => (Base64.decode text.toList).map some

/-- The record carries the exact bytes and the lineage of the message. -/
structure DeadLetterRecord.Carries (record : DeadLetterRecord) (message : Message) : Prop where
  topic : message.topic = some record.sourceTopic
  partition : message.partition = some record.sourcePartition
  offset : message.offset = some record.sourceOffset
  key : decodeOptionalBytes record.sourceKeyBase64 = some message.key
  value : decodeOptionalBytes record.sourceValueBase64 = some message.value

theorem decode_encodeOptionalBytes (value : Option Bytes) :
    decodeOptionalBytes (encodeOptionalBytes value) = some value := by
  cases value with
  | none => rfl
  | some bytes =>
      show (Base64.decode (String.ofList (Base64.encode bytes)).toList).map some = _
      rw [String.toList_ofList, Base64.decode_encode]
      rfl

/-- Every record built from a message carries it. -/
theorem fromMessage_carries {parsers : Parsers} {message : Message} {failedAt : Aware}
    {failureReason : DlqFailureReason} {record : DeadLetterRecord}
    (h : DeadLetterRecord.fromMessage parsers message failedAt failureReason = .ok record) :
    record.Carries message := by
  unfold DeadLetterRecord.fromMessage at h
  split at h
  · rename_i topic partition offset htopic hpartition hoffset
    obtain ⟨_, _, hrest⟩ := Postgres.bind_eq_ok h
    obtain ⟨_, _, hlast⟩ := Postgres.bind_eq_ok hrest
    split at hlast
    · cases hlast
      exact ⟨htopic, hpartition, hoffset, decode_encodeOptionalBytes _,
        decode_encodeOptionalBytes _⟩
    · cases hlast
  · cases h

end Consumers
