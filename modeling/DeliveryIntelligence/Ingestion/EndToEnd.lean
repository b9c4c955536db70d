import DeliveryIntelligence.Ingestion.Pipeline

set_option autoImplicit false

/-!
# From a signed request to its row

Over every run of the pipeline a webhook row holds what the consumers read of a record the
receiver wrote for a request with the digest of its body. A request answered with 202 has its
record in the log, and when the group has committed past it, its delivery has a row, unless the
consumers could not read the record; then a dead letter carries it (`end_to_end`).

Nothing is assumed of the JSON libraries. Where they do as they are documented, what is read is
the envelope the receiver built.
-/

namespace Ingestion

open Consumers Datetime Program RawEvents Warehouse Webhook

section

variable {runtime : Runtime} {settings : WebhookSettings}
  {datetime : Json → Option ParsedDatetime} {p : Partition}

/-- The envelope the receiver builds of the request. -/
def Exchange.Builds (runtime : Runtime) (settings : WebhookSettings) (x : Exchange)
    (envelope : Envelope Dict) : Prop :=
  ∃ header, prepare runtime settings x.now x.request = .ok (header, envelope)

/-- The row holds the fields of the envelope. -/
structure Holds (envelope : GitHubEventEnvelope) (row : RawEvent) : Prop where
  sourceRecordKey : row.sourceRecordKey = envelope.deliveryId
  deliveryId : row.deliveryId = some envelope.deliveryId
  eventName : row.eventName = envelope.eventName.text
  action : row.action = envelope.action
  installationId : row.installationId = envelope.installationId
  repositoryId : row.repositoryId = envelope.repositoryId
  receivedAt : row.receivedAt = some envelope.receivedAt.instant
  payload : row.payload = .object envelope.payload

/-- What is read is the envelope the receiver built, with the payload as it was dumped. -/
def IsBuilt (envelope : Envelope Dict) (decoded : GitHubEventEnvelope) : Prop :=
  ∃ members, (Python.Value.dict envelope.payload).dumpJson = some (.object members)
    ∧ decoded = { envelope with payload := members }.toConsumer

/-! ## A record and the envelope it was written for -/

variable (datetime) in
/-- Where the libraries do as they are documented, a record is read as the envelope it was
written for, and it is read when the reader goes that deep. -/
theorem isBuilt_of_valid {x : Exchange} {envelope : Envelope Dict} {record : Record}
    {format : JsonFormat} (hdoc : Documented runtime format x.now envelope)
    (hbuilds : x.Builds runtime settings envelope)
    (hrecord : envelopeRecord runtime envelope = .ok record) :
    (∀ decoded, validateEnvelope (runtime.parsers datetime) record.value = .ok decoded →
      IsBuilt envelope decoded)
    ∧ (format.Reads envelope → ∃ decoded,
      validateEnvelope (runtime.parsers datetime) record.value = .ok decoded
        ∧ decoded.deliveryId = envelope.deliveryId.text) := by
  obtain ⟨header, hprepared⟩ := hbuilds
  obtain ⟨key, value, members, rfl, hmembers, hread, hunread⟩ :=
    envelope_of_record hdoc hprepared hrecord
  constructor
  · intro decoded hvalid
    have hvalue : runtime.envelope value = .ok decoded := hvalid
    by_cases hdeep : format.Reads envelope
    · rw [hread hdeep] at hvalue
      cases hvalue
      exact ⟨members, hmembers, rfl⟩
    · rw [hunread hdeep] at hvalue
      cases hvalue
  · intro hdeep
    exact ⟨_, hread hdeep, rfl⟩

/-! ## The two ends -/

/-- Every record in the log was written for an envelope of an exchange. -/
theorem built_of_mem_log {s : Pipeline runtime datetime p} (hfed : Fed settings s)
    {record : Record} (hrecord : record ∈ s.pool.shared.broker.log) :
    ∃ x ∈ s.exchanges, Signed settings x.request ∧ ∃ envelope, x.Builds runtime settings envelope
      ∧ envelopeRecord runtime envelope = .ok record := by
  obtain ⟨x, hx, hpublished⟩ := hfed.published record (List.mem_append_left _ hrecord)
  obtain ⟨header, envelope, hprepared, hwritten⟩ := record_of_mem hpublished
  exact ⟨x, hx, signed_of_prepare hprepared, envelope, ⟨header, hprepared⟩, hwritten⟩

/-- The row holds what the consumers read of a record in the log. -/
structure Sourced (runtime : Runtime) (settings : WebhookSettings)
    (datetime : Json → Option ParsedDatetime) (log : List Record) (x : Exchange)
    (row : RawEvent) : Prop where
  signed : Signed settings x.request
  written : ∃ envelope record decoded, x.Builds runtime settings envelope
    ∧ envelopeRecord runtime envelope = .ok record ∧ record ∈ log
    ∧ validateEnvelope (runtime.parsers datetime) record.value = .ok decoded ∧ Holds decoded row
    ∧ ∀ format, Documented runtime format x.now envelope → IsBuilt envelope decoded

/-- A row comes from a signed request. -/
theorem row_of_signed {s : Pipeline runtime datetime p} (hfed : Fed settings s)
    (hfrom : FromLanding (runtime.parsers datetime) p s.pool.shared.broker.log
      s.pool.shared.database) {deliveryId : String} {row : RawEvent}
    (hrow : s.pool.shared.database.lookup (.webhook, deliveryId) = some row) :
    ∃ x ∈ s.exchanges,
      Sourced runtime settings datetime s.pool.shared.broker.log x row := by
  obtain ⟨i, decoded, generated, hlanding, rfl⟩ := hfrom deliveryId row hrow
  obtain ⟨⟨record, hget, hcarried⟩, -⟩ := landing_eq_some_iff.mp hlanding
  obtain ⟨hvalid, -⟩ := carried_eq_some.mp hcarried
  have hmem : record ∈ s.pool.shared.broker.log := List.mem_of_getElem? hget
  obtain ⟨x, hx, hsigned, envelope, hbuilds, hwritten⟩ := built_of_mem_log hfed hmem
  refine ⟨x, hx, hsigned, envelope, record, decoded, hbuilds, hwritten, hmem, hvalid,
    ⟨rfl, rfl, rfl, rfl, rfl, rfl, rfl, rfl⟩, fun format hdoc => ?_⟩
  exact (isBuilt_of_valid datetime hdoc hbuilds hwritten).1 decoded hvalid

/-- What the group owes the record of an envelope once it has committed past it. -/
structure Delivered (runtime : Runtime) (datetime : Json → Option ParsedDatetime) (p : Partition)
    (x : Exchange) (envelope : Envelope Dict) (i : Nat) (record : Record) (w : World RawTable) :
    Prop where
  landed : ∀ decoded, validateEnvelope (runtime.parsers datetime) record.value = .ok decoded →
    ∃ row, w.database.lookup (.webhook, decoded.deliveryId) = some row
  deadLettered :
    (¬ ∃ decoded, validateEnvelope (runtime.parsers datetime) record.value = .ok decoded) →
    ∃ message ∈ w.broker.dlq, message.value.Carries (p.message i record)
  /-- a record the libraries carry lands under the delivery of its request -/
  documented : ∀ format, Documented runtime format x.now envelope → format.Reads envelope →
    ∃ row, w.database.lookup (.webhook, envelope.deliveryId.text) = some row

theorem delivered {s : Pipeline runtime datetime p}
    (hhandled : (guarantee (runtime.parsers datetime) p).Kept s.pool.shared)
    (hkeyed : (lineage (runtime.parsers datetime) p).Kept s.pool.shared) {x : Exchange}
    {envelope : Envelope Dict} (hbuilds : x.Builds runtime settings envelope)
    {record : Record} (hwritten : envelopeRecord runtime envelope = .ok record) {i c : Nat}
    (hget : s.pool.shared.broker.log[i]? = some record)
    (hc : c ∈ s.pool.shared.broker.committed) (hi : i < c) :
    Delivered runtime datetime p x envelope i record s.pool.shared := by
  have hlands : ∀ decoded, validateEnvelope (runtime.parsers datetime) record.value = .ok decoded →
      ∃ row, s.pool.shared.database.lookup (.webhook, decoded.deliveryId) = some row := by
    intro decoded hvalid
    exact (hkeyed.committed c hc).2 i record hi hget decoded hvalid
  refine ⟨hlands, fun hinvalid => ?_, fun format hdoc hreads => ?_⟩
  · rcases (hhandled.committed c hc).2 i record hi hget with ⟨decoded, row, hvalid, -⟩ | hletter
    · exact absurd ⟨decoded, hvalid⟩ hinvalid
    · exact hletter
  · obtain ⟨decoded, hvalid, hsame⟩ :=
      (isBuilt_of_valid datetime hdoc hbuilds hwritten).2 hreads
    rw [← hsame]
    exact hlands decoded hvalid

/-- **End to end.** After every run of the pipeline each webhook row holds what the consumers read
of a record written for a signed request, and each request answered with 202 has its record in
the log, where the group cannot commit past it without a row or, when the consumers do not read
it, a dead letter with it. -/
theorem end_to_end (runtime : Runtime) (settings : WebhookSettings)
    (datetime : Json → Option ParsedDatetime) (p : Partition)
    (events : List (Event runtime settings datetime p)) :
    let w := (run events).pool.shared
    (∀ deliveryId row, w.database.lookup (.webhook, deliveryId) = some row →
      ∃ x ∈ (run events).exchanges, Sourced runtime settings datetime w.broker.log x row)
    ∧ ∀ x ∈ (run events).exchanges, ∀ id,
      (x.result runtime settings).2 = some (.accepted id) →
      ∃ envelope record i, x.Builds runtime settings envelope ∧ id = envelope.deliveryId
        ∧ envelopeRecord runtime envelope = .ok record ∧ w.broker.log[i]? = some record
        ∧ ∀ c ∈ w.broker.committed, i < c →
          Delivered runtime datetime p x envelope i record w := by
  intro w
  have hfed : Fed settings (run events) := fed_run events
  obtain ⟨schedule, hschedule⟩ := exists_schedule events
  obtain ⟨⟨hhandled, -⟩, -⟩ := warehouse_sound.run schedule emptyPool_ok
    ((writers runtime datetime p).admissible_true schedule _)
  obtain ⟨⟨hkeyed, -⟩, -⟩ := lineage_sound.run schedule emptyPool_lineage
    ((writers runtime datetime p).admissible_true schedule _)
  rw [← hschedule] at hhandled hkeyed
  refine ⟨fun deliveryId row hrow => row_of_signed hfed hkeyed.inv.2 hrow, fun x hx id hid => ?_⟩
  obtain ⟨header, envelope, record, hprepared, hwritten, hsame, hone⟩ :=
    published_of_accepted hid
  have hstored : record ∈ w.broker.log := by
    refine hfed.acknowledged x hx id hid record ?_
    rw [Exchange.result, hone]
    exact List.mem_singleton_self record
  obtain ⟨i, hget⟩ := List.mem_iff_getElem?.mp hstored
  exact ⟨envelope, record, i, ⟨header, hprepared⟩, hsame, hwritten, hget, fun c hc hi =>
    delivered hhandled hkeyed ⟨header, hprepared⟩ hwritten hget hc hi⟩

end

/-! ## A request that is answered with 202 -/

section Added

def addedDigest : String := "06569b16d4aa7df1ce2907600847d10b3fb6b12b90e6d126a98dbd17f2b3e1fe"

def addedNote : Python.Value := .str ("added".toList.map Char.toNat)

def addedRuntime : Runtime :=
  notedRuntime addedNote (notedDocument (.string "added")) (notedRecordText "\"added\"")

def addedExchange : Exchange :=
  ⟨notedRequest "\"added\"" addedDigest, ⟨0, 0⟩, acknowledgingProducer⟩

/-- The request is received while a writer waits for its record; then the writer polls, inserts
and commits. -/
def addedEvents : List (Event addedRuntime (notedSettings addedDigest) (fun _ => none) ⟨"t", 0⟩) :=
  [ .worker (.start ⟨0, ⟨"t", 1, "dlq", 1, false, 2⟩⟩) rfl
  , .receive addedExchange true fun _ _ => rfl ]
  ++ List.replicate 3
    (.worker (.act 0 (succeedsAt rawDatabase ⟨0, 0⟩ fun _ => ⟨⟨1, 0⟩, .none⟩)) rfl)

theorem builds_added :
    addedExchange.Builds addedRuntime (notedSettings addedDigest) (notedEnvelope addedNote) :=
  ⟨"d-1", prepare_noted addedNote (notedDocument (.string "added")) (notedRecordText "\"added\"")
    "\"added\"" addedDigest (by decide) (by decide)⟩

theorem documented_added : Documented addedRuntime (notedFormat (notedRecordText "\"added\""))
    ⟨0, 0⟩ (notedEnvelope addedNote) :=
  documented_noted addedNote (notedRecordText "\"added\"") (by decide) (Or.inl (by rfl)) (by decide)

theorem answered_added : ∃ id,
    (addedExchange.result addedRuntime (notedSettings addedDigest)).2 = some (.accepted id) := by
  obtain ⟨header, hprepared⟩ := builds_added
  obtain ⟨_, _, -, hbuilt⟩ := prepare_ok hprepared
  obtain ⟨-, -, hid, -⟩ := fromWebhook_some hbuilt
  refine ⟨(notedEnvelope addedNote).deliveryId, ?_⟩
  have hresult := receive_acknowledged hprepared rfl
    (show Acknowledges (notedSettings addedDigest) addedExchange.producer from
      acknowledges_noted addedDigest)
  rw [Exchange.result, hresult]
  unfold receipt
  rw [hid]

theorem committed_added : (run addedEvents).pool.shared.broker.committed = [1]
    ∧ (run addedEvents).pool.shared.broker.log.length = 1 := by
  decide +kernel

theorem end_to_end_added :
    ∃ envelope row members,
      addedExchange.Builds addedRuntime (notedSettings addedDigest) envelope
      ∧ (run addedEvents).pool.shared.database.lookup (.webhook, envelope.deliveryId.text)
        = some row
      ∧ (Python.Value.dict envelope.payload).dumpJson = some (.object members)
      ∧ Holds { envelope with payload := members }.toConsumer row := by
  obtain ⟨hrows, haccepted⟩ :=
    end_to_end addedRuntime (notedSettings addedDigest) (fun _ => none) ⟨"t", 0⟩ addedEvents
  obtain ⟨id, hid⟩ := answered_added
  obtain ⟨hcommitted, hlength⟩ := committed_added
  have honly : ∀ x ∈ (run addedEvents).exchanges, x = addedExchange :=
    fun x hx => List.mem_singleton.mp hx
  have hsame : ∀ {envelope}, addedExchange.Builds addedRuntime (notedSettings addedDigest) envelope →
      envelope = notedEnvelope addedNote := by
    rintro envelope ⟨header, hprepared⟩
    obtain ⟨header', hprepared'⟩ := builds_added
    rw [hprepared'] at hprepared
    cases hprepared
    rfl
  obtain ⟨envelope, record, i, hbuilds, -, -, hget, hdelivered⟩ :=
    haccepted addedExchange (List.mem_singleton_self _) id hid
  obtain rfl := hsame hbuilds
  obtain ⟨hi, -⟩ := List.getElem?_eq_some_iff.mp hget
  rw [hlength] at hi
  have hreads : (notedFormat (notedRecordText "\"added\"")).Reads (notedEnvelope addedNote) := by
    intro payload hpayload
    cases hpayload
    show Json.depth _ < 200
    decide
  -- the writer has committed past the record
  obtain ⟨row, hrow⟩ := (hdelivered 1 (by rw [hcommitted]; exact List.mem_singleton_self 1)
    hi).documented _ documented_added hreads
  obtain ⟨x, hx, -, built, _, decoded, hbuilds', -, -, -, hholds, hbuilt⟩ := hrows _ row hrow
  obtain rfl := honly x hx
  obtain rfl := hsame hbuilds'
  obtain ⟨members, hmembers, rfl⟩ := hbuilt _ documented_added
  exact ⟨_, row, members, hbuilds, hrow, hmembers, hholds⟩

end Added

end Ingestion
