import DeliveryIntelligence.Webhook.Rejection

set_option autoImplicit false

/-!
# What the receiver publishes

Every record the receiver hands to its producer is that of an envelope it built of a request with
the digest of its body, and a request is answered with 202 only for such a record. Where the JSON
libraries do as they are documented, a consumer reads the record as that envelope unless it is
nested too deeply.
-/

namespace Webhook

open Consumers Datetime Pydantic

section

variable {runtime : Runtime} {settings : WebhookSettings} {producer : Producer} {now : Aware}
  {request : Request} {deliveryId : String} {envelope : Envelope Dict}

/-! ## Authentication -/

/-- The header of the request is the digest of its body. -/
def Signed (settings : WebhookSettings) (request : Request) : Prop :=
  request.signature = some ("sha256=" ++ settings.hexdigest request.body)

theorem signed_of_checkSignature {body : Bytes} {signature : Option String}
    (h : checkSignature settings body signature = .ok ()) :
    signature = some ("sha256=" ++ settings.hexdigest body) := by
  cases signature with
  | none => cases h
  | some signature =>
      obtain ⟨valid, hvalid, h⟩ := Postgres.bind_eq_ok
        (show (hasValidSignature settings body signature >>= _) = .ok () from h)
      unfold hasValidSignature at hvalid
      rw [compareDigest_eq] at hvalid
      split at hvalid
      · cases hvalid
        dsimp only at h
        split at h
        · rename_i hsame
          rw [eq_of_beq hsame]
        · cases h
      · cases hvalid

/-- Only a signed request becomes an envelope. -/
theorem signed_of_prepare
    (h : prepare runtime settings now request = .ok (deliveryId, envelope)) :
    Signed settings request := by
  unfold prepare at h
  rw [readLimitedBody_request] at h
  obtain ⟨body, hbody, h⟩ := Postgres.bind_eq_ok h
  obtain ⟨_, hcheck, h⟩ := Postgres.bind_eq_ok h
  split at hbody
  · cases hbody
  · cases hbody
    exact signed_of_checkSignature hcheck

/-! ## Records -/

/-- A published record is that of the envelope of the request. -/
theorem record_of_mem {record : Record}
    (h : record ∈ (receiveGithubWebhook runtime settings producer now request).1) :
    ∃ deliveryId envelope, prepare runtime settings now request = .ok (deliveryId, envelope)
      ∧ envelopeRecord runtime envelope = .ok record := by
  unfold receiveGithubWebhook at h
  cases hprepared : prepare runtime settings now request with
  | error raised =>
      rw [hprepared] at h
      cases h
  | ok prepared =>
      obtain ⟨deliveryId, envelope⟩ := prepared
      refine ⟨deliveryId, envelope, rfl, ?_⟩
      have hmem : record ∈ (publishSync runtime settings producer envelope).1 := by
        rw [hprepared] at h
        dsimp only at h
        generalize publishSync runtime settings producer envelope = published at h ⊢
        obtain ⟨records, outcome⟩ := published
        split at h <;> simp_all
      unfold publishSync at hmem
      cases hrecord : envelopeRecord runtime envelope with
      | error raised =>
          rw [hrecord] at hmem
          cases hmem
      | ok built =>
          rw [hrecord] at hmem
          dsimp only at hmem
          cases hraises : producer.raises with
          | some error =>
              rw [hraises] at hmem
              cases hmem
          | none =>
              rw [hraises] at hmem
              rw [List.mem_singleton.mp hmem]

/-- A request answered with 202 has one record published for it, under its delivery. -/
theorem published_of_accepted {id : NonEmptyString}
    (h : (receiveGithubWebhook runtime settings producer now request).2 = some (.accepted id)) :
    ∃ deliveryId envelope record,
      prepare runtime settings now request = .ok (deliveryId, envelope)
      ∧ envelopeRecord runtime envelope = .ok record ∧ id = envelope.deliveryId
      ∧ (receiveGithubWebhook runtime settings producer now request).1 = [record] := by
  unfold receiveGithubWebhook at h ⊢
  cases hprepared : prepare runtime settings now request with
  | error raised =>
      rw [hprepared] at h
      dsimp only [Response.ofRaised] at h
      cases raised <;> cases h
  | ok prepared =>
      obtain ⟨deliveryId, envelope⟩ := prepared
      rw [hprepared] at h
      dsimp only at h ⊢
      unfold publishSync at h ⊢
      cases hrecord : envelopeRecord runtime envelope with
      | error raised =>
          rw [hrecord] at h
          dsimp only at h
          cases raised <;> cases h
      | ok record =>
          rw [hrecord] at h
          dsimp only at h ⊢
          cases hraises : producer.raises with
          | some error =>
              rw [hraises] at h
              cases h
          | none =>
              rw [hraises] at h
              dsimp only at h ⊢
              cases houtcome : awaitDelivery (producer.monotonic + settings.publishTimeout)
                  producer.polls with
              | none =>
                  rw [houtcome] at h
                  cases h
              | some outcome =>
                  rw [houtcome] at h
                  cases outcome with
                  | error raised => cases raised <;> cases h
                  | ok _ =>
                      have hreceipt : receipt deliveryId = .accepted id := Option.some.inj h
                      obtain ⟨_, _, -, hbuilt⟩ := prepare_ok hprepared
                      obtain ⟨-, -, hid, -⟩ := fromWebhook_some hbuilt
                      unfold receipt at hreceipt
                      rw [hid] at hreceipt
                      cases hreceipt
                      exact ⟨deliveryId, envelope, record, rfl, hrecord, rfl, rfl⟩

/-- The value of a record is what `model_dump_json` wrote. -/
theorem value_of_record {record : Record} (h : envelopeRecord runtime envelope = .ok record) :
    ∃ key value, record = ⟨some key, some value⟩ ∧ runtime.modelDumpJson envelope = some value := by
  unfold envelopeRecord at h
  cases hdump : runtime.modelDumpJson envelope with
  | none =>
      rw [hdump] at h
      cases h
  | some value =>
      rw [hdump] at h
      dsimp only at h
      cases hkey : Python.str envelope.repositoryId with
      | none =>
          rw [hkey] at h
          cases h
      | some key =>
          rw [hkey] at h
          cases h
          exact ⟨_, value, rfl, rfl⟩

/-- What the consumers read of a record, where the libraries do as they are documented: the
envelope with the payload as it was dumped, or nothing when it is nested too deeply. -/
theorem envelope_of_record {format : JsonFormat} (hdoc : Documented runtime format now envelope)
    (hprepared : prepare runtime settings now request = .ok (deliveryId, envelope))
    {record : Record} (hrecord : envelopeRecord runtime envelope = .ok record) :
    ∃ key value members, record = ⟨some key, some value⟩
      ∧ (Python.Value.dict envelope.payload).dumpJson = some (.object members)
      ∧ (format.Reads envelope →
          runtime.envelope value = .ok { envelope with payload := members }.toConsumer)
      ∧ (¬ format.Reads envelope → runtime.envelope value = .error .validation) := by
  obtain ⟨key, value, rfl, hvalue⟩ := value_of_record hrecord
  have hdumps := hdoc.dumps
  rw [hvalue] at hdumps
  obtain ⟨document, hdump, hprint⟩ := Option.map_eq_some_iff.mp hdumps.symm
  obtain ⟨members, hmembers, hread, hunread⟩ := envelope_of_dump hdoc hprepared hdump
  rw [hprint] at hread hunread
  exact ⟨key, value, members, rfl, hmembers, hread, hunread⟩

end

end Webhook
