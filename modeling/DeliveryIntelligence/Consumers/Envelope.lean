import DeliveryIntelligence.Common.Datetime
import DeliveryIntelligence.Common.Json
import DeliveryIntelligence.Common.Python

set_option autoImplicit false

/-!
# The event envelope and its parsers

The contract of `webhook/models.py` between the receiver and the consumers, and the third-party
parsers both consumers call (`Parsers`). What the model promises about a parsed envelope is a
field of its structure.
-/

namespace Consumers

open Datetime

abbrev Bytes := List UInt8

/-- Webhook event families supported by the MVP contract. -/
inductive GitHubEventName
  | pullRequest
  | pullRequestReview
  | workflowRun
  | deployment
  | deploymentStatus
  deriving DecidableEq, Repr

/-- The value of a `GitHubEventName`. -/
def GitHubEventName.text : GitHubEventName → String
  | .pullRequest => "pull_request"
  | .pullRequestReview => "pull_request_review"
  | .workflowRun => "workflow_run"
  | .deployment => "deployment"
  | .deploymentStatus => "deployment_status"

/-- Stable contract published by the receiver after request validation. -/
structure GitHubEventEnvelope where
  deliveryId : String
  eventName : GitHubEventName
  action : String
  installationId : Int
  repositoryId : Int
  repositoryFullName : String
  receivedAt : Aware
  payload : List (String × Json)
  texts_nonempty : deliveryId ≠ "" ∧ action ≠ ""
  identities_pos : 0 < installationId ∧ 0 < repositoryId

/-- `payload.get(name)`; Python's `None` is the JSON `null`. -/
def GitHubEventEnvelope.payloadGet (envelope : GitHubEventEnvelope) (name : String) : Json :=
  ((Json.object envelope.payload).member name).getD .null

/-! ## Parsers -/

/-- How reading a message may fail. -/
inductive ParseFailure
  /-- a `TypeError`: there is nothing to read -/
  | typeError
  /-- a `ValidationError` -/
  | validation
  /-- a `JSONDecodeError` or a `UnicodeDecodeError` -/
  | decode
  /-- any other exception -/
  | other
  deriving DecidableEq, Repr

/-- What `TypeAdapter(datetime)` returns: a datetime that may be naive. -/
structure ParsedDatetime where
  wallClock : Int
  utcOffset : Option Int

/-- The parsers of pydantic and of the standard library that the consumers call. -/
structure Parsers where
  /-- `GitHubEventEnvelope.model_validate_json` -/
  envelope : Bytes → Except ParseFailure GitHubEventEnvelope
  /-- `_AWARE_DATETIME.validate_python`, `none` for a `ValidationError` -/
  datetime : Json → Option ParsedDatetime
  /-- `json.loads` -/
  jsonLoads : Bytes → Except ParseFailure Python.Value

/-- `_validate_envelope` -/
def validateEnvelope (parsers : Parsers) (value : Option Bytes) :
    Except ParseFailure GitHubEventEnvelope :=
  match value with
  | none => .error .typeError
  | some bytes => parsers.envelope bytes

end Consumers
