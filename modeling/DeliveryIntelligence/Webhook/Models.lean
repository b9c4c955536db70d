import DeliveryIntelligence.Common.Pydantic
import DeliveryIntelligence.Common.PythonJson
import DeliveryIntelligence.Consumers.Envelope

set_option autoImplicit false

/-!
# The models of the receiver

`webhook/models.py`: what `GitHubEventEnvelope` accepts of a JSON document, how `from_webhook`
builds an envelope from the payload `json.loads` returned, and the document that stands for an
envelope. The receiver's envelope holds a Python dictionary, the consumers' one the members of a
document.
-/

namespace Webhook

open Consumers Datetime Pydantic

/-! ## Field types -/

/-- A segment of `^[^/\s]+/[^/\s]+$`, where `isSpace` stands for `\s`. -/
def nameSegment (isSpace : Char → Bool) (segment : List Char) : Bool :=
  !segment.isEmpty && segment.all fun c => c != '/' && !isSpace c

/-- `^[^/\s]+/[^/\s]+$` -/
def matchesFullName (isSpace : Char → Bool) (s : List Char) : Bool :=
  match s.dropWhile (· != '/') with
  | [] => false
  | _ :: name => nameSegment isSpace (s.takeWhile (· != '/')) && nameSegment isSpace name

/-- `RepositoryFullName`: the class `\s` of the pattern is the Unicode white space. -/
structure RepositoryFullName where
  text : String
  stripped : Stripped text
  matched : matchesFullName isWhiteSpace text.toList = true

def RepositoryFullName.validate (s : String) : Option RepositoryFullName :=
  if h : matchesFullName isWhiteSpace (strip s).toList = true then
    some ⟨strip s, stripped_strip s, h⟩
  else none

theorem RepositoryFullName.validate_text (t : RepositoryFullName) : validate t.text = some t := by
  have hstrip := strip_of_stripped t.stripped
  unfold validate
  rw [dif_pos (by rw [hstrip]; exact t.matched)]
  congr 1
  cases t
  simp only [mk.injEq]
  exact hstrip

/-- The member of `GitHubEventName` with this value. -/
def eventNameOfText (s : String) : Option GitHubEventName :=
  [.pullRequest, .pullRequestReview, .workflowRun, .deployment, .deploymentStatus].find?
    fun name : GitHubEventName => name.text == s

theorem eventNameOfText_text (name : GitHubEventName) : eventNameOfText name.text = some name := by
  cases name <;> decide

/-! ## The envelope -/

/-- `GitHubEventEnvelope`, whatever stands for its payload. -/
structure Envelope (Payload : Type) where
  deliveryId : NonEmptyString
  eventName : GitHubEventName
  action : NonEmptyString
  installationId : PositiveInt
  repositoryId : PositiveInt
  repositoryFullName : RepositoryFullName
  receivedAt : Aware
  payload : Payload

/-- The members of a JSON object. -/
abbrev Members := List (String × Json)

/-- The items of a Python dictionary. -/
abbrev Dict := List (List Nat × Python.Value)

/-- The envelope as the consumers hold it. -/
def Envelope.toConsumer (e : Envelope Members) : GitHubEventEnvelope where
  deliveryId := e.deliveryId.text
  eventName := e.eventName
  action := e.action.text
  installationId := e.installationId
  repositoryId := e.repositoryId
  repositoryFullName := e.repositoryFullName.text
  receivedAt := e.receivedAt
  payload := e.payload
  texts_nonempty := ⟨e.deliveryId.nonempty, e.action.nonempty⟩
  identities_pos := ⟨e.installationId.property, e.repositoryId.property⟩

/-! ## Validation of a document -/

def fieldNames : List String :=
  [ "schema_version", "delivery_id", "event_name", "action", "installation_id", "repository_id"
  , "repository_full_name", "received_at", "payload" ]

def textOf : Json → Option String
  | .string s => some s
  | _ => none

def objectOf : Json → Option Members
  | .object members => some members
  | _ => none

def positiveInt (lax : Lax) (value : Json) : Option PositiveInt := do
  let n ← lax.int value
  PositiveInt.check n

/-- A field of the document without a default. -/
def field {α : Type} (document : Json) (name : String) (read : Json → Option α) : Option α :=
  (document.member name).bind read

/-- `schema_version: Literal[1] = 1` -/
def schemaVersionOne (lax : Lax) (document : Json) : Bool :=
  match document.member "schema_version" with
  | none => true
  | some value => lax.one value

/-- `extra="forbid"` -/
def noExtraFields : Json → Bool
  | .object members => members.all fun m => fieldNames.contains m.1
  | _ => false

/-- `model_validate_json` after the document has been read. -/
def modelValidate (lax : Lax) (document : Json) : Option (Envelope Members) := do
  guard (noExtraFields document && schemaVersionOne lax document)
  let deliveryId ← field document "delivery_id" fun v => textOf v >>= NonEmptyString.validate
  let eventName ← field document "event_name" fun v => textOf v >>= eventNameOfText
  let action ← field document "action" fun v => textOf v >>= NonEmptyString.validate
  let installationId ← field document "installation_id" (positiveInt lax)
  let repositoryId ← field document "repository_id" (positiveInt lax)
  let repositoryFullName ← field document "repository_full_name" fun v =>
    textOf v >>= RepositoryFullName.validate
  let receivedAt ← field document "received_at" lax.awareDatetime
  let payload ← field document "payload" objectOf
  return { deliveryId, eventName, action, installationId, repositoryId, repositoryFullName,
           receivedAt, payload }

/-! ## Building an envelope -/

/-- `_WebhookPayload`, with the `id` of its `_Installation` and the fields of its
`_Repository`. -/
structure WebhookPayload where
  action : NonEmptyString
  installationId : PositiveInt
  repositoryId : PositiveInt
  fullName : RepositoryFullName

/-- A dictionary under a key of another one. -/
def dictOf (name : String) (members : Dict) : Option Dict :=
  match Python.get members name with
  | some (.dict inner) => some inner
  | _ => none

/-- A field of a model read from a dictionary: the conversions are those of a document. -/
def item {α : Type} (members : Dict) (name : String) (read : Json → Option α) : Option α :=
  ((Python.get members name).bind Python.Value.toJson).bind read

/-- `_WebhookPayload.model_validate` -/
def WebhookPayload.modelValidate (lax : Lax) (payload : Dict) : Option WebhookPayload := do
  let action ← item payload "action" fun v => textOf v >>= NonEmptyString.validate
  let installation ← dictOf "installation" payload
  let installationId ← item installation "id" (positiveInt lax)
  let repository ← dictOf "repository" payload
  let repositoryId ← item repository "id" (positiveInt lax)
  let fullName ← item repository "full_name" fun v => textOf v >>= RepositoryFullName.validate
  return { action, installationId, repositoryId, fullName }

/-- Build an envelope while retaining the complete original JSON object. -/
def fromWebhook (lax : Lax) (deliveryId : String) (eventName : GitHubEventName)
    (receivedAt : Aware) (payload : Dict) : Option (Envelope Dict) := do
  let common ← WebhookPayload.modelValidate lax payload
  let deliveryId ← NonEmptyString.validate deliveryId
  let action ← NonEmptyString.validate common.action.text
  let installationId ← PositiveInt.check common.installationId
  let repositoryId ← PositiveInt.check common.repositoryId
  let repositoryFullName ← RepositoryFullName.validate common.fullName.text
  return { deliveryId, eventName, action, installationId, repositoryId, repositoryFullName,
           receivedAt, payload }

/-! ## Writing an envelope -/

/-- The document of an envelope: floats of its payload that are not finite are `null`, and with an
unpaired surrogate in it there is none. Where `model_dump_json` does as it is documented, it writes
this document (`Documented.dumps`). -/
def Envelope.dump (datetimeText : Aware → String) (e : Envelope Dict) : Option Json := do
  let payload ← (Python.Value.dict e.payload).dumpJson
  return .object
    [ ("schema_version", .number 1 0), ("delivery_id", .string e.deliveryId.text)
    , ("event_name", .string e.eventName.text), ("action", .string e.action.text)
    , ("installation_id", .number e.installationId 0)
    , ("repository_id", .number e.repositoryId 0)
    , ("repository_full_name", .string e.repositoryFullName.text)
    , ("received_at", .string (datetimeText e.receivedAt)), ("payload", payload) ]

/-! ## What is written is read back -/

theorem dump_eq_some {datetimeText : Aware → String} {e : Envelope Dict} {document : Json}
    (h : e.dump datetimeText = some document) :
    ∃ members, (Python.Value.dict e.payload).dumpJson = some (.object members)
      ∧ document = .object
        [ ("schema_version", .number 1 0), ("delivery_id", .string e.deliveryId.text)
        , ("event_name", .string e.eventName.text), ("action", .string e.action.text)
        , ("installation_id", .number e.installationId 0)
        , ("repository_id", .number e.repositoryId 0)
        , ("repository_full_name", .string e.repositoryFullName.text)
        , ("received_at", .string (datetimeText e.receivedAt)), ("payload", .object members) ] := by
  obtain ⟨payload, hpayload, h⟩ := Option.bind_eq_some_iff.mp h
  obtain ⟨members, hmembers, rfl⟩ := Option.map_eq_some_iff.mp hpayload
  cases h
  exact ⟨members, hpayload, rfl⟩

/-- The document of an envelope is read as that envelope, with the dumped payload. -/
theorem modelValidate_dump {lax : Lax} {datetimeText : Aware → String} {e : Envelope Dict}
    {document : Json} (h : e.dump datetimeText = some document)
    (hdatetime : lax.awareDatetime (.string (datetimeText e.receivedAt)) = some e.receivedAt) :
    ∃ members, (Python.Value.dict e.payload).dumpJson = some (.object members)
      ∧ modelValidate lax document = some { e with payload := members } := by
  obtain ⟨members, hmembers, rfl⟩ := dump_eq_some h
  refine ⟨members, hmembers, ?_⟩
  have hinstallation : positiveInt lax (.number e.installationId 0) = some e.installationId :=
    PositiveInt.check_val e.installationId
  have hrepository : positiveInt lax (.number e.repositoryId 0) = some e.repositoryId :=
    PositiveInt.check_val e.repositoryId
  -- every field is found under its name and passes its type once more
  simp [modelValidate, noExtraFields, fieldNames, schemaVersionOne, Lax.one, field, Json.member,
    textOf, objectOf, NonEmptyString.validate_text, RepositoryFullName.validate_text,
    eventNameOfText_text, hinstallation, hrepository, hdatetime]

end Webhook
