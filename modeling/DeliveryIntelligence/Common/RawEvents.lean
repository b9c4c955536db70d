import DeliveryIntelligence.Common.Json
import DeliveryIntelligence.Library.Table

set_option autoImplicit false

/-!
# The raw event table

`raw.github_events` of `infra/init/002_create_raw_github_events.sql`: one row for each event of
a source, whichever way it was ingested. Both writers insert with `ON CONFLICT (source,
source_record_key) DO NOTHING`, so the table only grows (`Extends`). The column default of
`event_id` and `ingested_at` is drawn by the database (`Generated`).
-/

namespace RawEvents

open Postgres

/-- The values `github_events_source_allowed` admits. -/
inductive Source
  | webhook
  | backfill
  deriving DecidableEq, Repr

/-- A row of `raw.github_events`. -/
structure RawEvent where
  eventId : Nat
  source : Source
  sourceRecordKey : String
  deliveryId : Option String
  eventName : String
  action : String
  repositoryId : Int
  installationId : Int
  occurredAt : Option Timestamp
  receivedAt : Option Timestamp
  ingestedAt : Timestamp
  payload : Json
  kafkaPartition : Option Int
  kafkaOffset : Option Int

/-- The column defaults of one row. -/
structure Generated where
  eventId : Nat
  ingestedAt : Timestamp
  deriving Inhabited

/-- The columns of `github_events_source_record_key_unique`. -/
def RawEvent.key (row : RawEvent) : Source × String := (row.source, row.sourceRecordKey)

abbrev RawTable := Table (Source × String) RawEvent

def rawEventConstraints : List (Constraint RawEvent) :=
  [ textColumn "source_record_key" (·.sourceRecordKey)
  , nullable (textColumn "delivery_id" id) (·.deliveryId)
  , textColumn "event_name" (·.eventName)
  , textColumn "action" (·.action)
  , bigintColumn "repository_id" (·.repositoryId)
  , bigintColumn "installation_id" (·.installationId)
  , jsonbColumn "payload" (·.payload)
  , nullable (integerColumn "kafka_partition" id) (·.kafkaPartition)
  , nullable (bigintColumn "kafka_offset" id) (·.kafkaOffset)
  , nonemptyCheck "github_events_source_record_key_nonempty" (·.sourceRecordKey)
  , nullable (nonemptyCheck "github_events_delivery_id_nonempty" id) (·.deliveryId)
  , nonemptyCheck "github_events_event_name_nonempty" (·.eventName)
  , nonemptyCheck "github_events_action_nonempty" (·.action)
  , positiveCheck "github_events_repository_id_positive" (·.repositoryId)
  , positiveCheck "github_events_installation_id_positive" (·.installationId)
  , ⟨.check "github_events_kafka_partition_nonnegative",
      fun row => row.kafkaPartition.all fun n => decide (0 ≤ n)⟩
  , ⟨.check "github_events_kafka_offset_nonnegative",
      fun row => row.kafkaOffset.all fun n => decide (0 ≤ n)⟩
  , ⟨.check "github_events_webhook_lineage_complete",
      fun row => row.source != .webhook || (row.deliveryId.isSome && row.receivedAt.isSome
        && row.kafkaPartition.isSome && row.kafkaOffset.isSome)⟩
  , ⟨.check "github_events_backfill_has_no_webhook_identity",
      fun row => row.source != .backfill || row.deliveryId.isNone⟩ ]

/-- `INSERT INTO raw.github_events .. ON CONFLICT (source, source_record_key) DO NOTHING
RETURNING event_id` -/
def insertRow (row : RawEvent) (events : RawTable) : Except Error (RawTable × Option Nat) := do
  enforce rawEventConstraints row
  let (events', inserted) := events.upsert row.key row fun _ => none
  if inserted.isSome && events.rows.any fun (_, old) => old.eventId == row.eventId then
    .error (.unique "github_events_pkey")
  else return (events', inserted.map (·.eventId))

/-- Every row stands under its own key, and a webhook row under its delivery. -/
def WellKeyed (events : RawTable) : Prop :=
  ∀ k row, events.lookup k = some row →
    k = row.key ∧ (row.source = .webhook → row.deliveryId = some row.sourceRecordKey)

/-- Every row of `events` is a row of `events'`, unchanged. -/
def Extends (events events' : RawTable) : Prop :=
  ∀ k row, events.lookup k = some row → events'.lookup k = some row

theorem Extends.refl (events : RawTable) : Extends events events := fun _ _ h => h

theorem Extends.trans {a b c : RawTable} (h₁ : Extends a b) (h₂ : Extends b c) : Extends a c :=
  fun k row h => h₂ k row (h₁ k row h)

theorem wellKeyed_empty : WellKeyed ∅ := fun k row h => by simp at h

/-- An insert finds its key taken and changes nothing, or stores its row. -/
theorem insertRow_cases {row : RawEvent} {events events' : RawTable} {returned : Option Nat}
    (h : insertRow row events = .ok (events', returned)) :
    (returned = none ∧ events' = events ∧ ∃ old, events.lookup row.key = some old)
    ∨ (returned = some row.eventId ∧ events' = events.insert row.key row
        ∧ events.lookup row.key = none) := by
  obtain ⟨_, _, h⟩ := bind_eq_ok h
  generalize hup : events.upsert row.key row (fun _ => none) = up at h
  obtain ⟨t, inserted⟩ := up
  simp only at h
  split at h
  · cases h
  cases h
  cases inserted with
  | none =>
      obtain ⟨rfl, old, hold, -⟩ := Table.upsert_eq_none hup
      exact Or.inl ⟨rfl, rfl, old, hold⟩
  | some new =>
      obtain ⟨rfl, hwhy⟩ := Table.upsert_eq_some hup
      rcases hwhy with ⟨hmissing, rfl⟩ | ⟨old, -, hcond⟩
      · exact Or.inr ⟨rfl, rfl, hmissing⟩
      · cases hcond

/-- An insert keeps every row and leaves a row under its key; the returned id tells whether the
row is new. -/
theorem insertRow_ok {row : RawEvent} {events events' : RawTable} {returned : Option Nat}
    (h : insertRow row events = .ok (events', returned)) :
    Extends events events' ∧ (∃ stored, events'.lookup row.key = some stored)
    ∧ (∀ k stored, events'.lookup k = some stored →
        events.lookup k = some stored ∨ (k = row.key ∧ stored = row))
    ∧ (returned = none ↔ ∃ old, events.lookup row.key = some old) := by
  rcases insertRow_cases h with ⟨rfl, rfl, old, hold⟩ | ⟨rfl, rfl, hmissing⟩
  · exact ⟨Extends.refl _, ⟨old, hold⟩, fun k stored hs => Or.inl hs, by simp [hold]⟩
  · refine ⟨fun k stored hs => ?_, ⟨_, AList.lookup_insert _⟩, fun k stored hs => ?_, ?_⟩
    · have hk : k ≠ row.key := by
        rintro rfl
        rw [hmissing] at hs
        cases hs
      rwa [AList.lookup_insert_ne hk]
    · by_cases hk : k = row.key
      · subst hk
        rw [AList.lookup_insert] at hs
        cases hs
        exact Or.inr ⟨rfl, rfl⟩
      · rw [AList.lookup_insert_ne hk] at hs
        exact Or.inl hs
    · simp [hmissing]

theorem insertRow_wellKeyed {row : RawEvent} {events events' : RawTable} {returned : Option Nat}
    (h : insertRow row events = .ok (events', returned)) (hkeyed : WellKeyed events)
    (hrow : row.source = .webhook → row.deliveryId = some row.sourceRecordKey) :
    WellKeyed events' := by
  intro k stored hs
  rcases (insertRow_ok h).2.2.1 k stored hs with hold | ⟨rfl, rfl⟩
  · exact hkeyed k stored hold
  · exact ⟨rfl, hrow⟩

end RawEvents
