import DeliveryIntelligence.Consumers.Worker
import DeliveryIntelligence.Webhook.Models

set_option autoImplicit false

/-!
# The webhook receiver

`webhook/app.py` with the Kafka publisher of `webhook/kafka.py`: a request is authenticated,
validated and published, and answered only after the broker has reported on the record. The
metrics and the other routes are left out.
-/

namespace Webhook

open Consumers Datetime Pydantic

/-! ## What the receiver runs on -/

/-- The standard library and the JSON of pydantic. -/
structure Runtime where
  /-- `json.loads` -/
  jsonLoads : Bytes → Except ParseFailure Python.Value
  lax : Lax
  /-- `model_dump_json` with its encoding, with none where it raises `PydanticSerializationError` -/
  modelDumpJson : Envelope Dict → Option Bytes
  /-- the reader of `model_validate_json` -/
  parseJson : Bytes → Option Json

/-- `WebhookSettings`, as far as the receiver reads it; durations in microseconds. -/
structure WebhookSettings where
  /-- the HMAC-SHA256 hex digest of a body under the configured secret -/
  hexdigest : Bytes → String
  webhookMaxBodyBytes : Nat
  publishTimeout : Int

/-- A request by its body chunks and the headers the handler asks for. -/
structure Request where
  chunks : List Bytes
  /-- `X-Hub-Signature-256` -/
  signature : Option String
  /-- `X-GitHub-Event` -/
  event : Option String
  /-- `X-GitHub-Delivery` -/
  delivery : Option String

inductive ProducerError
  | bufferError
  | kafkaException
  | runtimeError
  deriving DecidableEq, Repr

/-- What the handler raises. -/
inductive Raised
  | http (status : Nat) (detail : String)
  | publishError (message : String)
  | producer (error : ProducerError)
  | typeError
  | valueError
  | validationError
  /-- `PydanticSerializationError` -/
  | serializationError
  /-- `json.loads` fails with something other than a decoding error -/
  | parser
  deriving DecidableEq, Repr

/-! ## Validation of a request -/

/-- `_read_limited_body`, with the bytes read so far. -/
def readLimitedBody (maximumBytes : Nat) (body : Bytes) : List Bytes → Except Raised Bytes
  | [] => .ok body
  | chunk :: chunks =>
      -- The chunk is added before the length is checked.
      if maximumBytes < (body ++ chunk).length then
        .error (.http 413 "webhook request body is too large")
      else readLimitedBody maximumBytes (body ++ chunk) chunks

/-- `hmac.compare_digest` of two strings. -/
def compareDigest (a b : String) : Except Raised Bool :=
  if (a.toList ++ b.toList).all fun c => decide (c.toNat < 128) then .ok (a == b)
  -- `compare_digest` takes strings of ASCII characters only.
  else .error .typeError

/-- `has_valid_signature` -/
def hasValidSignature (settings : WebhookSettings) (body : Bytes) (signature : String) :
    Except Raised Bool :=
  compareDigest ("sha256=" ++ settings.hexdigest body) signature

def checkSignature (settings : WebhookSettings) (body : Bytes) (signature : Option String) :
    Except Raised Unit := do
  let valid ← match signature with
    -- `signature is None or not has_valid_signature(..)`
    | none => pure false
    | some signature => hasValidSignature settings body signature
  if valid then return ()
  else throw (.http 401 "invalid webhook signature")

/-- `_required_header` -/
def requiredHeader (name : String) (value : Option String) : Except Raised String :=
  match value with
  | some value =>
      if Python.hasText value then .ok value
      else .error (.http 400 s!"missing required header: {name}")
  | none => .error (.http 400 s!"missing required header: {name}")

/-- `_parse_payload` -/
def parsePayload (runtime : Runtime) (body : Bytes) : Except Raised Dict :=
  match runtime.jsonLoads body with
  | .ok (.dict payload) => .ok payload
  | .ok _ => .error (.http 422 "webhook payload must be a JSON object")
  | .error .decode => .error (.http 422 "invalid JSON webhook payload")
  | .error _ => .error .parser

/-- The handler up to the envelope: the delivery header and the envelope of a request. -/
def prepare (runtime : Runtime) (settings : WebhookSettings) (now : Aware) (request : Request) :
    Except Raised (String × Envelope Dict) := do
  let body ← readLimitedBody settings.webhookMaxBodyBytes [] request.chunks
  checkSignature settings body request.signature
  let eventHeader ← requiredHeader "X-GitHub-Event" request.event
  let deliveryId ← requiredHeader "X-GitHub-Delivery" request.delivery
  match eventNameOfText eventHeader with
  | none => throw (.http 422 "unsupported webhook event")
  | some eventName => do
      let payload ← parsePayload runtime body
      match fromWebhook runtime.lax deliveryId eventName now payload with
      | none => throw (.http 422 "invalid webhook payload")
      | some envelope => return (deliveryId, envelope)

/-! ## Publishing -/

/-- One turn of the loop in `_publish_sync`: the clock, and what `poll` does. -/
structure Poll where
  monotonic : Int
  raises : Option ProducerError
  /-- the errors of the delivery reports served -/
  reports : List (Option KafkaError)

/-- What the producer does with one record. -/
structure Producer where
  raises : Option ProducerError
  monotonic : Int
  polls : List Poll

/-- The loop of `_publish_sync`, with no result while it is still polling. -/
def awaitDelivery (deadline : Int) : List Poll → Option (Except Raised Unit)
  | [] => none
  | poll :: polls =>
      if deadline ≤ poll.monotonic then
        some (.error (.publishError "Kafka delivery acknowledgement timed out"))
      else
        match poll.raises with
        | some error => some (.error (.producer error))
        | none =>
            if poll.reports = [] then awaitDelivery deadline polls
            -- Any report ends the loop; one error among them is enough to fail.
            else if poll.reports.all Option.isNone then some (.ok ())
            else some (.error (.publishError "Kafka rejected the event"))

/-- A poll that neither ends the wait nor raises. -/
def Poll.Quiet (deadline : Int) (poll : Poll) : Prop :=
  poll.monotonic < deadline ∧ poll.raises = none ∧ poll.reports = []

/-- How a poll that is not quiet ends the wait. -/
def Poll.verdict (deadline : Int) (poll : Poll) : Except Raised Unit :=
  if deadline ≤ poll.monotonic then
    .error (.publishError "Kafka delivery acknowledgement timed out")
  else
    match poll.raises with
    | some error => .error (.producer error)
    | none =>
        if poll.reports.all Option.isNone then .ok ()
        else .error (.publishError "Kafka rejected the event")

theorem awaitDelivery_of_quiet {deadline : Int} {quiet : List Poll}
    (hquiet : ∀ poll ∈ quiet, poll.Quiet deadline) (polls : List Poll) :
    awaitDelivery deadline (quiet ++ polls) = awaitDelivery deadline polls := by
  induction quiet with
  | nil => rfl
  | cons poll quiet ih =>
      obtain ⟨htime, hraises, hreports⟩ := hquiet poll List.mem_cons_self
      rw [List.cons_append, awaitDelivery, if_neg (by omega), hraises]
      simp only [hreports, if_true]
      exact ih fun other hother => hquiet other (List.mem_cons_of_mem _ hother)

theorem awaitDelivery_of_not_quiet {deadline : Int} {poll : Poll} (h : ¬ poll.Quiet deadline)
    (polls : List Poll) :
    awaitDelivery deadline (poll :: polls) = some (poll.verdict deadline) := by
  unfold Poll.verdict
  rw [awaitDelivery]
  by_cases hlate : deadline ≤ poll.monotonic
  · rw [if_pos hlate, if_pos hlate]
  · rw [if_neg hlate, if_neg hlate]
    cases hraises : poll.raises with
    | some error => rfl
    | none =>
        have hreports : poll.reports ≠ [] := fun hnone => h ⟨by omega, hraises, hnone⟩
        dsimp only
        rw [if_neg hreports]
        split <;> rfl

/-- The record of an envelope. -/
def envelopeRecord (runtime : Runtime) (envelope : Envelope Dict) : Except Raised Record :=
  match runtime.modelDumpJson envelope with
  | none => .error .serializationError
  | some value =>
      match Python.str envelope.repositoryId with
      | none => .error .valueError
      | some key => .ok ⟨some (key.toList.map fun c => c.toNat.toUInt8), some value⟩

/-- `_publish_sync`: the records handed to the producer and the outcome. -/
def publishSync (runtime : Runtime) (settings : WebhookSettings) (producer : Producer)
    (envelope : Envelope Dict) : List Record × Option (Except Raised Unit) :=
  match envelopeRecord runtime envelope with
  | .error raised => ([], some (.error raised))
  | .ok record =>
      match producer.raises with
      -- `except (BufferError, KafkaException, RuntimeError)`
      | some _ => ([], some (.error (.publishError "event could not be queued for Kafka")))
      | none =>
          ([record], awaitDelivery (producer.monotonic + settings.publishTimeout) producer.polls)

/-! ## The handler -/

inductive Response
  /-- 202 with a `WebhookReceipt` -/
  | accepted (deliveryId : NonEmptyString)
  | rejected (status : Nat) (detail : String)
  /-- 500 for an exception no handler is registered for -/
  | unhandled (raised : Raised)

def Response.ofRaised : Raised → Response
  | .http status detail => .rejected status detail
  | raised => .unhandled raised

/-- The receipt of an acknowledged event. -/
def receipt (deliveryId : String) : Response :=
  match NonEmptyString.validate deliveryId with
  | some id => .accepted id
  | none => .unhandled .validationError

/-- `receive_github_webhook`: the published records and the response, with none while the
producer is still being polled. -/
def receiveGithubWebhook (runtime : Runtime) (settings : WebhookSettings) (producer : Producer)
    (now : Aware) (request : Request) : List Record × Option Response :=
  match prepare runtime settings now request with
  | .error raised => ([], some (.ofRaised raised))
  | .ok (deliveryId, envelope) =>
      match publishSync runtime settings producer envelope with
      | (records, none) => (records, none)
      | (records, some (.ok ())) => (records, some (receipt deliveryId))
      | (records, some (.error (.publishError _))) =>
          (records, some (.rejected 503 "webhook event could not be published"))
      | (records, some (.error raised)) => (records, some (.unhandled raised))

/-! ## The consumers' side -/

/-- `GitHubEventEnvelope.model_validate_json` -/
def Runtime.envelope (runtime : Runtime) (bytes : Bytes) :
    Except ParseFailure GitHubEventEnvelope :=
  match runtime.parseJson bytes with
  | none => .error .validation
  | some document =>
      match modelValidate runtime.lax document with
      | none => .error .validation
      | some envelope => .ok envelope.toConsumer

/-- The parsers of the consumers, with theirs for `TypeAdapter(datetime)`. -/
def Runtime.parsers (runtime : Runtime) (datetime : Json → Option ParsedDatetime) : Parsers where
  envelope := runtime.envelope
  datetime := datetime
  jsonLoads := runtime.jsonLoads

end Webhook
