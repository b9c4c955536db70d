import DeliveryIntelligence.Webhook.Receiver

set_option autoImplicit false

/-!
# What is published is what was received

An envelope passes three JSON implementations: `json.loads` reads the request, `model_dump_json`
writes the record, `model_validate_json` reads it for the consumers. The first one accepts more
than the other two carry, and `round_trip_iff` says how much more.
-/

namespace Webhook

open Consumers Datetime Pydantic

/-! ## Identities -/

/-- The number of digits is within what Python converts. -/
def shortDigits (n : Int) : Prop := (Python.str n).isSome = true

/-- How pydantic spells a document, and how far its reader goes. -/
structure JsonFormat where
  datetimeText : Aware → String
  print : Json → Bytes
  /-- the levels of nesting the reader counts in a document -/
  nesting : Json → Nat
  nestingLimit : Nat

/-- What the libraries promise about a request at `now` and the envelope built of it: `json.loads`
and the conversions to `int` keep the limit on digits, `model_dump_json` writes the document of the
envelope, a datetime is read back, and so is a printable document that is not nested too deeply. -/
structure Documented (runtime : Runtime) (format : JsonFormat) (now : Aware)
    (envelope : Envelope Dict) : Prop where
  loads : ∀ body v, runtime.jsonLoads body = .ok v → v.withinDigits = true
  ofFloat : ∀ mantissa places n, runtime.lax.intOfFloat mantissa places = some n → shortDigits n
  ofText : ∀ s n, runtime.lax.intOfText s = some n → shortDigits n
  dumps : runtime.modelDumpJson envelope = (envelope.dump format.datetimeText).map format.print
  datetime : runtime.lax.awareDatetime (.string (format.datetimeText now)) = some now
  /-- an envelope is nested one level more than its payload -/
  nests : ∀ document payload, envelope.dump format.datetimeText = some document →
    (Python.Value.dict envelope.payload).dumpJson = some payload →
    format.nesting document = format.nesting payload + 1
  reads : ∀ document, envelope.dump format.datetimeText = some document →
    document.printable = true →
    runtime.parseJson (format.print document)
      = if format.nesting document ≤ format.nestingLimit then some document else none

/-- The reader goes as deep as the payload and the envelope around it. -/
def JsonFormat.Reads (format : JsonFormat) (envelope : Envelope Dict) : Prop :=
  ∀ payload, (Python.Value.dict envelope.payload).dumpJson = some payload →
    format.nesting payload < format.nestingLimit

theorem get_mem {members : Dict} {name : String} {v : Python.Value}
    (h : Python.get members name = some v) : ∃ m ∈ members, m.2 = v := by
  obtain ⟨m, hm, rfl⟩ := Option.map_eq_some_iff.mp h
  exact ⟨m, List.mem_reverse.mp (List.mem_of_find?_eq_some hm), rfl⟩

theorem withinDigits_get {members : Dict} {name : String} {v : Python.Value}
    (hdigits : (Python.Value.dict members).withinDigits = true)
    (h : Python.get members name = some v) : v.withinDigits = true := by
  obtain ⟨m, hm, rfl⟩ := get_mem h
  exact (Python.Value.forAll_dict.mp hdigits m hm).2

theorem withinDigits_dictOf {members inner : Dict} {name : String}
    (hdigits : (Python.Value.dict members).withinDigits = true)
    (h : dictOf name members = some inner) :
    (Python.Value.dict inner).withinDigits = true := by
  unfold dictOf at h
  split at h
  · cases h
    exact withinDigits_get hdigits ‹_›
  · cases h

/-- The identity an item is read as is short, whatever it is converted from. -/
theorem shortDigits_item {runtime : Runtime} {format : JsonFormat} {now : Aware}
    {envelope : Envelope Dict} (hdoc : Documented runtime format now envelope) {members : Dict}
    {name : String} {n : PositiveInt} (hdigits : (Python.Value.dict members).withinDigits = true)
    (h : item members name (positiveInt runtime.lax) = some n) : shortDigits n := by
  obtain ⟨d, hd, hn⟩ := Option.bind_eq_some_iff.mp h
  obtain ⟨v, hv, hjson⟩ := Option.bind_eq_some_iff.mp hd
  obtain ⟨m, hm, hcheck⟩ := Option.bind_eq_some_iff.mp hn
  have hnm : n.val = m := by
    unfold PositiveInt.check at hcheck
    split at hcheck
    · cases hcheck
      rfl
    · cases hcheck
  rw [hnm]
  have hshort := withinDigits_get hdigits hv
  cases v with
  | none => cases hjson; cases hm
  | bool b =>
      cases hjson
      cases hm
      show (Python.str _).isSome = true
      cases b <;> decide
  | int k => cases hjson; cases hm; exact hshort
  -- A float is dumped as its value, or as `null` when it is not finite.
  | float repr =>
      cases hjson
      unfold Python.floatJson at hm
      cases hword : Python.nonFiniteWord repr with
      | some word =>
          rw [hword] at hm
          cases hm
      | none =>
          obtain ⟨places, hplaces⟩ := Python.exists_places repr
          rw [hword] at hm
          simp only [hplaces] at hm
          exact hdoc.ofFloat _ _ m hm
  | str codePoints =>
      obtain ⟨s, -, rfl⟩ := Option.map_eq_some_iff.mp hjson
      exact hdoc.ofText s m hm
  | list items =>
      obtain ⟨values, -, rfl⟩ := Option.map_eq_some_iff.mp hjson
      cases hm
  | dict inner =>
      obtain ⟨named, -, rfl⟩ := Option.map_eq_some_iff.mp hjson
      cases hm

/-- What `from_webhook` takes from its arguments. -/
theorem fromWebhook_some {lax : Lax} {deliveryId : String} {eventName : GitHubEventName}
    {now : Aware} {payload : Dict} {e : Envelope Dict}
    (h : fromWebhook lax deliveryId eventName now payload = some e) :
    e.payload = payload ∧ e.receivedAt = now
      ∧ NonEmptyString.validate deliveryId = some e.deliveryId
      ∧ (∃ installation, dictOf "installation" payload = some installation
        ∧ item installation "id" (positiveInt lax) = some e.installationId)
      ∧ ∃ repository, dictOf "repository" payload = some repository
        ∧ item repository "id" (positiveInt lax) = some e.repositoryId := by
  obtain ⟨common, hcommon, h⟩ := Option.bind_eq_some_iff.mp h
  obtain ⟨id, hid, h⟩ := Option.bind_eq_some_iff.mp h
  obtain ⟨action, -, h⟩ := Option.bind_eq_some_iff.mp h
  obtain ⟨_, hfirst, h⟩ := Option.bind_eq_some_iff.mp h
  obtain ⟨_, hsecond, h⟩ := Option.bind_eq_some_iff.mp h
  obtain ⟨name, -, h⟩ := Option.bind_eq_some_iff.mp h
  rw [PositiveInt.check_val] at hfirst hsecond
  cases hfirst
  cases hsecond
  cases h
  obtain ⟨_, -, hcommon⟩ := Option.bind_eq_some_iff.mp hcommon
  obtain ⟨installation, hinstallation, hcommon⟩ := Option.bind_eq_some_iff.mp hcommon
  obtain ⟨installationId, hinstallationId, hcommon⟩ := Option.bind_eq_some_iff.mp hcommon
  obtain ⟨repository, hrepository, hcommon⟩ := Option.bind_eq_some_iff.mp hcommon
  obtain ⟨repositoryId, hrepositoryId, hcommon⟩ := Option.bind_eq_some_iff.mp hcommon
  obtain ⟨_, -, hcommon⟩ := Option.bind_eq_some_iff.mp hcommon
  cases hcommon
  exact ⟨rfl, rfl, hid, ⟨installation, hinstallation, hinstallationId⟩, repository, hrepository,
    hrepositoryId⟩

/-- What the handler has when it starts to publish. -/
theorem prepare_ok {runtime : Runtime} {settings : WebhookSettings} {now : Aware}
    {request : Request} {deliveryId : String} {e : Envelope Dict}
    (h : prepare runtime settings now request = .ok (deliveryId, e)) :
    ∃ body eventName, runtime.jsonLoads body = .ok (.dict e.payload)
      ∧ fromWebhook runtime.lax deliveryId eventName now e.payload = some e := by
  unfold prepare at h
  obtain ⟨body, -, h⟩ := Postgres.bind_eq_ok h
  obtain ⟨_, -, h⟩ := Postgres.bind_eq_ok h
  obtain ⟨event, -, h⟩ := Postgres.bind_eq_ok h
  obtain ⟨id, -, h⟩ := Postgres.bind_eq_ok h
  split at h
  · cases h
  · rename_i eventName hevent
    obtain ⟨payload, hpayload, h⟩ := Postgres.bind_eq_ok h
    split at h
    · cases h
    · rename_i built hbuilt
      cases h
      obtain ⟨hsame, -⟩ := fromWebhook_some hbuilt
      refine ⟨body, eventName, ?_, by rw [hsame]; exact hbuilt⟩
      rw [hsame]
      unfold parsePayload at hpayload
      split at hpayload
      · cases hpayload
        assumption
      · cases hpayload
      · cases hpayload
      · cases hpayload

/-! ## The record -/

/-- What a consumer gets: the fields of the receiver's envelope, and a payload that is the
document of the dictionary. -/
structure SameEnvelope (decoded : GitHubEventEnvelope) (envelope : Envelope Dict) : Prop where
  deliveryId : decoded.deliveryId = envelope.deliveryId.text
  eventName : decoded.eventName = envelope.eventName
  action : decoded.action = envelope.action.text
  installationId : decoded.installationId = envelope.installationId
  repositoryId : decoded.repositoryId = envelope.repositoryId
  repositoryFullName : decoded.repositoryFullName = envelope.repositoryFullName.text
  receivedAt : decoded.receivedAt = envelope.receivedAt
  payload : (Python.Value.dict envelope.payload).toJson = some (.object decoded.payload)

/-- The request is answered with 202, and the one record published for it is a valid envelope
for the consumers, the one the receiver built. -/
structure RoundTrips (runtime : Runtime) (datetime : Json → Option ParsedDatetime)
    (envelope : Envelope Dict) (result : List Record × Option Response) : Prop where
  answered : result.2 = some (.accepted envelope.deliveryId)
  published : ∃ key value decoded, result.1 = [⟨some key, some value⟩]
    ∧ validateEnvelope (runtime.parsers datetime) (some value) = .ok decoded
    ∧ SameEnvelope decoded envelope

/-- A broker that reports success before the deadline, after any number of polls without a
report. -/
def Acknowledges (settings : WebhookSettings) (producer : Producer) : Prop :=
  producer.raises = none ∧ ∃ quiet report rest, producer.polls = quiet ++ report :: rest
    ∧ (∀ poll ∈ quiet ++ [report],
        poll.monotonic < producer.monotonic + settings.publishTimeout ∧ poll.raises = none)
    ∧ (∀ poll ∈ quiet, poll.reports = []) ∧ report.reports = [none]

theorem awaitDelivery_acknowledged {deadline : Int} {quiet : List Poll} {report : Poll}
    (rest : List Poll)
    (hall : ∀ poll ∈ quiet ++ [report], poll.monotonic < deadline ∧ poll.raises = none)
    (hquiet : ∀ poll ∈ quiet, poll.reports = []) (hreport : report.reports = [none]) :
    awaitDelivery deadline (quiet ++ report :: rest) = some (.ok ()) := by
  have hsilent : ∀ poll ∈ quiet, poll.Quiet deadline := by
    intro poll hpoll
    obtain ⟨htime, hraises⟩ := hall poll (List.mem_append_left _ hpoll)
    exact ⟨htime, hraises, hquiet poll hpoll⟩
  obtain ⟨htime, hraises⟩ := hall report (List.mem_append_right _ List.mem_cons_self)
  have hends : ¬ report.Quiet deadline := by
    rintro ⟨-, -, hnone⟩
    rw [hreport] at hnone
    cases hnone
  rw [awaitDelivery_of_quiet hsilent, awaitDelivery_of_not_quiet hends]
  unfold Poll.verdict
  rw [if_neg (by omega), hraises, hreport]
  rfl

theorem printable_dump {datetimeText : Aware → String} {e : Envelope Dict} {document : Json}
    (h : e.dump datetimeText = some document)
    (hdigits : (Python.Value.dict e.payload).withinDigits = true)
    (hinstallation : shortDigits e.installationId) (hrepository : shortDigits e.repositoryId) :
    document.printable = true := by
  obtain ⟨members, hmembers, rfl⟩ := dump_eq_some h
  have hpayload := Python.printable_dumpJson hdigits hmembers
  have hone : (Python.str 1).isSome = true := by decide
  unfold shortDigits at hinstallation hrepository
  rw [Json.printable] at hpayload
  simp [Json.printable, Json.membersPrintable, hone, hinstallation, hrepository, hpayload]

theorem isSome_dump (datetimeText : Aware → String) (e : Envelope Dict) :
    (e.dump datetimeText).isSome = (Python.Value.dict e.payload).paired := by
  rw [← Python.isSome_convert fun _ => Json.null]
  unfold Envelope.dump Python.Value.dumpJson
  cases (Python.Value.dict e.payload).convert fun _ => Json.null with
  | none => rfl
  | some d => rfl

section

variable {runtime : Runtime} {format : JsonFormat} {settings : WebhookSettings} {now : Aware}
  {request : Request} {deliveryId : String} {envelope : Envelope Dict} {document : Json}

/-- The identities of an envelope of a request are short. -/
theorem shortDigits_of_prepare (hdoc : Documented runtime format now envelope)
    (hprepared : prepare runtime settings now request = .ok (deliveryId, envelope)) :
    (Python.Value.dict envelope.payload).withinDigits = true
      ∧ shortDigits envelope.installationId ∧ shortDigits envelope.repositoryId := by
  obtain ⟨body, eventName, hloads, hbuilt⟩ := prepare_ok hprepared
  obtain ⟨-, -, -, ⟨installation, hinstallation, hinstallationId⟩, repository, hrepository,
    hrepositoryId⟩ := fromWebhook_some hbuilt
  have hdigits := hdoc.loads body _ hloads
  exact ⟨hdigits, shortDigits_item hdoc (withinDigits_dictOf hdigits hinstallation) hinstallationId,
    shortDigits_item hdoc (withinDigits_dictOf hdigits hrepository) hrepositoryId⟩

/-- What the consumers read of the document of an envelope: the envelope with the payload as it
was dumped, or nothing when it is nested too deeply. -/
theorem envelope_of_dump (hdoc : Documented runtime format now envelope)
    (hprepared : prepare runtime settings now request = .ok (deliveryId, envelope))
    (hdump : envelope.dump format.datetimeText = some document) :
    ∃ members, (Python.Value.dict envelope.payload).dumpJson = some (.object members)
      ∧ (format.Reads envelope → runtime.envelope (format.print document)
          = .ok { envelope with payload := members }.toConsumer)
      ∧ (¬ format.Reads envelope →
        runtime.envelope (format.print document) = .error .validation) := by
  obtain ⟨hdigits, hinstallation, hrepository⟩ := shortDigits_of_prepare hdoc hprepared
  obtain ⟨body, eventName, -, hbuilt⟩ := prepare_ok hprepared
  obtain ⟨-, hnow, -, -⟩ := fromWebhook_some hbuilt
  obtain ⟨members, hmembers, hvalid⟩ :=
    modelValidate_dump hdump (by rw [hnow]; exact hdoc.datetime)
  have hreads := hdoc.reads document hdump
    (printable_dump hdump hdigits hinstallation hrepository)
  have hnests := hdoc.nests document _ hdump hmembers
  have hiff : format.Reads envelope ↔ format.nesting document ≤ format.nestingLimit := by
    unfold JsonFormat.Reads
    rw [hmembers, hnests]
    constructor
    · intro hall
      exact hall _ rfl
    · rintro hle payload ⟨⟩
      exact hle
  refine ⟨members, hmembers, fun hdeep => ?_, fun hdeep => ?_⟩
  · unfold Runtime.envelope
    rw [hreads, if_pos (hiff.mp hdeep)]
    simp only [hvalid]
  · unfold Runtime.envelope
    rw [hreads, if_neg fun hle => hdeep (hiff.mpr hle)]

/-- Everything but the payload survives; the payload does when no float is lost. -/
theorem decode_iff (datetime : Json → Option ParsedDatetime)
    (hdoc : Documented runtime format now envelope)
    (hprepared : prepare runtime settings now request = .ok (deliveryId, envelope))
    (hdump : envelope.dump format.datetimeText = some document) :
    (∃ decoded, validateEnvelope (runtime.parsers datetime) (some (format.print document))
        = .ok decoded ∧ SameEnvelope decoded envelope)
      ↔ (Python.Value.dict envelope.payload).finite = true ∧ format.Reads envelope := by
  obtain ⟨hdigits, -, -⟩ := shortDigits_of_prepare hdoc hprepared
  obtain ⟨members, hmembers, hread, hunread⟩ := envelope_of_dump hdoc hprepared hdump
  show (∃ decoded, runtime.envelope (format.print document) = .ok decoded ∧ _) ↔ _
  -- the document is read back up to the limit on nesting, whatever it holds
  by_cases hdeep : format.Reads envelope
  · rw [hread hdeep]
    constructor
    · rintro ⟨decoded, hdecoded, hsame⟩
      cases hdecoded
      exact ⟨(Python.dumpJson_eq_toJson_iff hdigits hmembers).mp hsame.payload, hdeep⟩
    · rintro ⟨hfinite, -⟩
      exact ⟨_, rfl, ⟨rfl, rfl, rfl, rfl, rfl, rfl, rfl,
        (Python.dumpJson_eq_toJson_iff hdigits hmembers).mpr hfinite⟩⟩
  · rw [hunread hdeep]
    constructor
    · rintro ⟨decoded, hdecoded, -⟩
      cases hdecoded
    · rintro ⟨-, hread⟩
      exact absurd hread hdeep

end

/-! ## The round trip -/

section

variable {runtime : Runtime} {format : JsonFormat} {settings : WebhookSettings}
  {producer : Producer} {now : Aware} {request : Request} {deliveryId : String}
  {envelope : Envelope Dict}

/-- `PydanticSerializationError` is not among the errors `_publish_sync` catches. -/
theorem receive_unserializable
    (hprepared : prepare runtime settings now request = .ok (deliveryId, envelope))
    (hdump : runtime.modelDumpJson envelope = none) :
    receiveGithubWebhook runtime settings producer now request
      = ([], some (.unhandled .serializationError)) := by
  unfold receiveGithubWebhook publishSync envelopeRecord
  simp only [hprepared, hdump]

theorem receive_acknowledged
    (hprepared : prepare runtime settings now request = .ok (deliveryId, envelope))
    {record : Record} (hrecord : envelopeRecord runtime envelope = .ok record)
    (hbroker : Acknowledges settings producer) :
    receiveGithubWebhook runtime settings producer now request
      = ([record], some (receipt deliveryId)) := by
  obtain ⟨hproduce, quiet, report, rest, hpolls, hall, hquiet, hreport⟩ := hbroker
  unfold receiveGithubWebhook publishSync
  simp only [hprepared, hrecord, hproduce, hpolls,
    awaitDelivery_acknowledged rest hall hquiet hreport]

/-- A request the handler publishes makes the round trip exactly when its payload has no
unpaired surrogate, no float that is not finite, and room for one more level of nesting. -/
theorem round_trip_iff (datetime : Json → Option ParsedDatetime)
    (hdoc : Documented runtime format now envelope)
    (hprepared : prepare runtime settings now request = .ok (deliveryId, envelope))
    (hbroker : Acknowledges settings producer) :
    RoundTrips runtime datetime envelope
        (receiveGithubWebhook runtime settings producer now request)
      ↔ (Python.Value.dict envelope.payload).paired = true
        ∧ (Python.Value.dict envelope.payload).finite = true ∧ format.Reads envelope := by
  obtain ⟨-, -, hshort⟩ := shortDigits_of_prepare hdoc hprepared
  obtain ⟨key, hkey⟩ := Option.isSome_iff_exists.mp hshort
  have hwritten := hdoc.dumps
  rw [← isSome_dump format.datetimeText]
  cases hdump : envelope.dump format.datetimeText with
  | none =>
      -- An unpaired surrogate: `model_dump_json` raises before anything is published.
      rw [hdump] at hwritten
      rw [receive_unserializable hprepared hwritten]
      constructor
      · intro h
        cases h.answered
      · rintro ⟨hsome, -⟩
        cases hsome
  | some document =>
      rw [hdump] at hwritten
      have hrecord : envelopeRecord runtime envelope
          = .ok ⟨some (key.toList.map fun c => c.toNat.toUInt8),
            some (format.print document)⟩ := by
        unfold envelopeRecord
        simp only [hwritten, Option.map_some, hkey]
      obtain ⟨body, eventName, -, hbuilt⟩ := prepare_ok hprepared
      obtain ⟨-, -, hid, -⟩ := fromWebhook_some hbuilt
      have hanswer : receipt deliveryId = .accepted envelope.deliveryId := by
        unfold receipt
        rw [hid]
      have hdecode := decode_iff datetime hdoc hprepared hdump
      rw [receive_acknowledged hprepared hrecord hbroker, hanswer]
      constructor
      · intro h
        obtain ⟨key', value, decoded, hrecords, hvalid, hsame⟩ := h.published
        cases hrecords
        exact ⟨rfl, hdecode.mp ⟨decoded, hvalid, hsame⟩⟩
      · rintro ⟨-, hpayload⟩
        obtain ⟨decoded, hvalid, hsame⟩ := hdecode.mpr hpayload
        exact ⟨rfl, _, _, decoded, rfl, hvalid, hsame⟩

end

/-! ## One request with different notes -/

section Noted

/-- `{"action":"created","installation":{"id":5},"repository":{"id":11,"full_name":"acme/api"},
"note":..}` as `json.loads` returns it. -/
def notedPayload (note : Python.Value) : Dict :=
  [ ("action".toList.map Char.toNat, .str ("created".toList.map Char.toNat))
  , ("installation".toList.map Char.toNat, .dict [("id".toList.map Char.toNat, .int 5)])
  , ("repository".toList.map Char.toNat, .dict
      [ ("id".toList.map Char.toNat, .int 11)
      , ("full_name".toList.map Char.toNat, .str ("acme/api".toList.map Char.toNat)) ])
  , ("note".toList.map Char.toNat, note) ]

/-- The body of the request, by the text of the note. -/
def notedBody (note : String) : Bytes :=
  ("\x7b\"action\":\"created\",\"installation\":\x7b\"id\":5\x7d,\"repository\":\x7b\"id\":11,"
    ++ "\"full_name\":\"acme/api\"\x7d,\"note\":" ++ note ++ "\x7d").toList.map
    fun c => c.toNat.toUInt8

def notedEnvelope (note : Python.Value) : Envelope Dict where
  deliveryId := ⟨"d-1", by decide, by decide⟩
  eventName := .deployment
  action := ⟨"created", by decide, by decide⟩
  installationId := ⟨5, by decide⟩
  repositoryId := ⟨11, by decide⟩
  repositoryFullName := ⟨"acme/api", by decide, by decide⟩
  receivedAt := ⟨0, 0⟩
  payload := notedPayload note

/-- The document of that envelope. -/
def notedDocument (note : Json) : Json :=
  .object
    [ ("schema_version", .number 1 0), ("delivery_id", .string "d-1")
    , ("event_name", .string "deployment"), ("action", .string "created")
    , ("installation_id", .number 5 0), ("repository_id", .number 11 0)
    , ("repository_full_name", .string "acme/api")
    , ("received_at", .string "1970-01-01T00:00:00Z")
    , ("payload", .object
        [ ("action", .string "created"), ("installation", .object [("id", .number 5 0)])
        , ("repository", .object [("id", .number 11 0), ("full_name", .string "acme/api")])
        , ("note", note) ]) ]

/-- The record of that request at the epoch. -/
def notedFormat (text : String) : JsonFormat where
  datetimeText _ := "1970-01-01T00:00:00Z"
  print _ := text.toList.map fun c => c.toNat.toUInt8
  nesting := Json.depth
  nestingLimit := 200

/-- What the libraries do with that request. -/
def notedRuntime (note : Python.Value) (document : Json) (text : String) : Runtime where
  jsonLoads _ := .ok (.dict (notedPayload note))
  lax :=
    { intOfFloat := fun _ _ => none
      intOfText := fun _ => none
      literalOne := fun _ => false
      awareDatetime := fun _ => some ⟨0, 0⟩ }
  modelDumpJson envelope :=
    (envelope.dump (notedFormat text).datetimeText).map (notedFormat text).print
  parseJson _ := some document

def notedSettings (hexdigest : String) : WebhookSettings where
  hexdigest _ := hexdigest
  webhookMaxBodyBytes := 1048576
  publishTimeout := 10000000

def notedRequest (note hexdigest : String) : Request where
  chunks := [notedBody note]
  signature := some ("sha256=" ++ hexdigest)
  event := some "deployment"
  delivery := some "d-1"

/-- A producer whose second poll brings the report. -/
def acknowledgingProducer : Producer :=
  ⟨none, 0, [⟨0, none, []⟩, ⟨100000, none, [none]⟩]⟩

theorem acknowledges_noted (hexdigest : String) :
    Acknowledges (notedSettings hexdigest) acknowledgingProducer := by
  refine ⟨rfl, [⟨0, none, []⟩], ⟨100000, none, [none]⟩, [], rfl, ?_, ?_, rfl⟩
  · show ∀ poll ∈ ([⟨0, none, []⟩, ⟨100000, none, [none]⟩] : List Poll),
      poll.monotonic < 0 + 10000000 ∧ poll.raises = none
    decide
  · show ∀ poll ∈ ([⟨0, none, []⟩] : List Poll), poll.reports = []
    decide

theorem prepare_noted (note : Python.Value) (document : Json) (text : String)
    (noteText hexdigest : String) (hsize : (notedBody noteText).length ≤ 1048576)
    (hascii : hexdigest.toList.all (fun c => decide (c.toNat < 128)) = true) :
    prepare (notedRuntime note document text) (notedSettings hexdigest) ⟨0, 0⟩
      (notedRequest noteText hexdigest) = .ok ("d-1", notedEnvelope note) := by
  have hbody : readLimitedBody 1048576 [] [notedBody noteText] = .ok (notedBody noteText) := by
    rw [readLimitedBody, List.nil_append, if_neg (by omega), readLimitedBody]
  have hsignature : checkSignature (notedSettings hexdigest) (notedBody noteText)
      (some ("sha256=" ++ hexdigest)) = .ok () := by
    have hall : ("sha256=" ++ hexdigest).toList.all (fun c => decide (c.toNat < 128)) = true := by
      rw [String.toList_append, List.all_append, hascii]
      decide
    unfold checkSignature hasValidSignature compareDigest notedSettings
    simp only [List.all_append, hall, Bool.and_self, if_true, beq_self_eq_true]
    rfl
  unfold prepare
  show (readLimitedBody 1048576 [] [notedBody noteText] >>= _) = _
  rw [hbody]
  show (checkSignature (notedSettings hexdigest) (notedBody noteText)
      (some ("sha256=" ++ hexdigest)) >>= _) = _
  rw [hsignature]
  rfl

/-- The members around the payload are scalars. -/
theorem depth_dump {datetimeText : Aware → String} {e : Envelope Dict} {document payload : Json}
    (h : e.dump datetimeText = some document)
    (hpayload : (Python.Value.dict e.payload).dumpJson = some payload) :
    document.depth = payload.depth + 1 := by
  obtain ⟨members, hmembers, rfl⟩ := dump_eq_some h
  rw [hmembers] at hpayload
  cases hpayload
  simp [Json.depth, Json.membersDepth]

/-- The documented behaviour on that request, for a note within the limit on digits. -/
theorem documented_noted (note : Python.Value) {document : Json} (text : String)
    (hdigits : (Python.Value.dict (notedPayload note)).withinDigits = true)
    (hdump : (notedEnvelope note).dump (fun _ => "1970-01-01T00:00:00Z") = some document
      ∨ (notedEnvelope note).dump (fun _ => "1970-01-01T00:00:00Z") = none)
    (hdepth : document.depth ≤ 200) :
    Documented (notedRuntime note document text) (notedFormat text) ⟨0, 0⟩
      (notedEnvelope note) := by
  refine ⟨?_, ?_, ?_, rfl, rfl, fun _ _ => depth_dump, ?_⟩
  · rintro body v hv
    cases hv
    exact hdigits
  · rintro mantissa places n hn
    cases hn
  · rintro s n hn
    cases hn
  · intro written hwritten _
    have hsame : written = document := by
      rcases hdump with h | h
      · exact Option.some.inj (hwritten.symm.trans h)
      · cases hwritten.symm.trans h
    show some document = if written.depth ≤ 200 then some written else none
    rw [hsame, if_pos hdepth]

/-- The text of the record for a note of plain text. -/
def notedRecordText (note : String) : String :=
  "\x7b\"schema_version\":1,\"delivery_id\":\"d-1\",\"event_name\":\"deployment\","
    ++ "\"action\":\"created\",\"installation_id\":5,\"repository_id\":11,"
    ++ "\"repository_full_name\":\"acme/api\",\"received_at\":\"1970-01-01T00:00:00Z\","
    ++ "\"payload\":\x7b\"action\":\"created\",\"installation\":\x7b\"id\":5\x7d,"
    ++ "\"repository\":\x7b\"id\":11,\"full_name\":\"acme/api\"\x7d,\"note\":" ++ note
    ++ "\x7d\x7d"

theorem round_trip_added :
    RoundTrips (notedRuntime (.str ("added".toList.map Char.toNat))
        (notedDocument (.string "added")) (notedRecordText "\"added\""))
      (fun _ => none) (notedEnvelope (.str ("added".toList.map Char.toNat)))
      (receiveGithubWebhook
        (notedRuntime (.str ("added".toList.map Char.toNat)) (notedDocument (.string "added"))
          (notedRecordText "\"added\""))
        (notedSettings "06569b16d4aa7df1ce2907600847d10b3fb6b12b90e6d126a98dbd17f2b3e1fe")
        acknowledgingProducer ⟨0, 0⟩
        (notedRequest "\"added\""
          "06569b16d4aa7df1ce2907600847d10b3fb6b12b90e6d126a98dbd17f2b3e1fe")) := by
  have hdoc := documented_noted (.str ("added".toList.map Char.toNat))
    (notedRecordText "\"added\"") (by decide) (Or.inl (by rfl)) (by decide)
  have hprepared := prepare_noted (.str ("added".toList.map Char.toNat))
    (notedDocument (.string "added")) (notedRecordText "\"added\"") "\"added\""
    "06569b16d4aa7df1ce2907600847d10b3fb6b12b90e6d126a98dbd17f2b3e1fe" (by decide) (by decide)
  refine (round_trip_iff _ hdoc hprepared (acknowledges_noted _)).mpr
    ⟨by decide, by decide, fun payload hpayload => ?_⟩
  cases hpayload
  show Json.depth _ < 200
  decide

/-- `json.loads` reads the lone surrogate, and `model_dump_json` raises on it: the request is
answered with 500 and nothing is published. -/
theorem surrogate_not_round_trip :
    let runtime := notedRuntime (.str [0xD800]) (notedDocument .null) (notedRecordText "null")
    let hexdigest := "79fa727bba9e81843193f85420fc6ae50365ab981b88f8b3df34715ded8a6656"
    let result := receiveGithubWebhook runtime (notedSettings hexdigest) acknowledgingProducer
      ⟨0, 0⟩ (notedRequest "\"\\ud800\"" hexdigest)
    prepare runtime (notedSettings hexdigest) ⟨0, 0⟩ (notedRequest "\"\\ud800\"" hexdigest)
        = .ok ("d-1", notedEnvelope (.str [0xD800]))
      ∧ Documented runtime (notedFormat (notedRecordText "null")) ⟨0, 0⟩
          (notedEnvelope (.str [0xD800]))
      ∧ Acknowledges (notedSettings hexdigest) acknowledgingProducer
      ∧ ¬ RoundTrips runtime (fun _ => none) (notedEnvelope (.str [0xD800])) result := by
  intro runtime hexdigest result
  have hdump : (notedEnvelope (.str [0xD800])).dump (fun _ => "1970-01-01T00:00:00Z") = none := by
    rfl
  have hprepared : prepare runtime (notedSettings hexdigest) ⟨0, 0⟩
      (notedRequest "\"\\ud800\"" hexdigest) = .ok ("d-1", notedEnvelope (.str [0xD800])) :=
    prepare_noted _ _ _ _ _ (by decide) (by decide)
  refine ⟨hprepared, documented_noted _ _ (by decide) (Or.inr hdump) (by decide),
    acknowledges_noted _, fun h => ?_⟩
  have hresult : result = ([], some (.unhandled .serializationError)) :=
    receive_unserializable hprepared rfl
  have hanswered := h.answered
  rw [hresult] at hanswered
  cases hanswered

end Noted

end Webhook
