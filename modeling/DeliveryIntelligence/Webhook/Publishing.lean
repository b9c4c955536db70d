import DeliveryIntelligence.Webhook.RoundTrip

set_option autoImplicit false

/-!
# Acknowledged or rejected

A published event is acknowledged by the broker or `PublishError` is raised, whatever the producer
does, as long as the event can be serialized and no poll of the wait raises (`publishes_iff`): the
publisher of the dead-letter queue catches what `poll` raises, this one does not.
-/

namespace Webhook

open Consumers Datetime Pydantic

/-! ## Runs of a producer -/

/-- What the producer does with one record in a wait of any length. -/
structure Broker where
  raises : Option ProducerError
  monotonic : Int
  polls : ℕ → Poll
  clock_unbounded : ∀ time, ∃ n, time ≤ (polls n).monotonic

/-- The producer up to a poll. -/
def Broker.producer (broker : Broker) (n : ℕ) : Producer :=
  ⟨broker.raises, broker.monotonic, (List.range n).map broker.polls⟩

/-- From some poll on the outcome is the result. -/
def Settles {α : Type} (outcome : ℕ → Option α) (result : α) : Prop :=
  ∃ n, ∀ m, n ≤ m → outcome m = some result

theorem Settles.unique {α : Type} {outcome : ℕ → Option α} {result other : α}
    (h : Settles outcome result) (hother : Settles outcome other) : result = other := by
  obtain ⟨n, hn⟩ := h
  obtain ⟨m, hm⟩ := hother
  exact Option.some.inj ((hn (max n m) (le_max_left n m)).symm.trans
    (hm (max n m) (le_max_right n m)))

/-- What settles as an acknowledgement or `PublishError` settles as no other exception. -/
theorem Settles.isPublishError {outcome : ℕ → Option (Except Raised Unit)} {raised : Raised}
    (h : Settles outcome (.error raised)) {result : Except Raised Unit}
    (hresult : Settles outcome result) {Acknowledged : Prop}
    (hcases : result = .ok () ∧ Acknowledged ∨ ∃ message, result = .error (.publishError message)) :
    ∃ message, raised = .publishError message := by
  have hsame : result = .error raised := hresult.unique h
  rcases hcases with ⟨hok, -⟩ | ⟨message, herror⟩
  · cases hok.symm.trans hsame
  · exact ⟨message, Except.error.inj (hsame.symm.trans herror)⟩

section

variable (broker : Broker) (deadline : Int)

/-- The poll is made: the ones before it have left the wait open, and there is time left. -/
def Broker.Makes (n : ℕ) : Prop :=
  (∀ i < n, (broker.polls i).Quiet deadline) ∧ (broker.polls n).monotonic < deadline

/-- A poll that is made reports the record, without an error. -/
def Broker.Acknowledges : Prop :=
  ∃ n, broker.Makes deadline n ∧ (broker.polls n).reports ≠ []
    ∧ ∀ report ∈ (broker.polls n).reports, report = none

/-- The first poll that is not quiet ends the wait. -/
theorem exists_verdict :
    ∃ n, (∀ i < n, (broker.polls i).Quiet deadline) ∧ ¬ (broker.polls n).Quiet deadline
      ∧ Settles (fun m => awaitDelivery deadline ((List.range m).map broker.polls))
        ((broker.polls n).verdict deadline) := by
  classical
  have hends : ∃ n, ¬ (broker.polls n).Quiet deadline := by
    obtain ⟨n, hn⟩ := broker.clock_unbounded deadline
    exact ⟨n, fun hquiet => absurd hquiet.1 (by omega)⟩
  have hquiet : ∀ i < Nat.find hends, (broker.polls i).Quiet deadline :=
    fun i hi => not_not.mp (Nat.find_min hends hi)
  refine ⟨Nat.find hends, hquiet, Nat.find_spec hends, Nat.find hends + 1, fun m hm => ?_⟩
  obtain ⟨rest, rfl⟩ := Nat.exists_eq_add_of_le hm
  have hbefore : ∀ poll ∈ (List.range (Nat.find hends)).map broker.polls, poll.Quiet deadline := by
    intro poll hpoll
    obtain ⟨i, hi, rfl⟩ := List.mem_map.mp hpoll
    exact hquiet i (List.mem_range.mp hi)
  show awaitDelivery deadline _ = _
  rw [List.range_add, List.map_append, List.range_succ, List.map_append, List.append_assoc,
    awaitDelivery_of_quiet hbefore]
  exact awaitDelivery_of_not_quiet (Nat.find_spec hends) _

variable {broker deadline} {n : ℕ}

/-- The first poll that is not quiet is the last one made. -/
theorem le_of_makes (hends : ¬ (broker.polls n).Quiet deadline) {i : ℕ}
    (hmakes : broker.Makes deadline i) : i ≤ n := by
  by_contra hlt
  exact hends (hmakes.1 n (by omega))

/-- Where no poll that is made raises, the wait ends with an acknowledgement or `PublishError`. -/
theorem verdict_cases (hquiet : ∀ i < n, (broker.polls i).Quiet deadline)
    (hends : ¬ (broker.polls n).Quiet deadline)
    (hraises : broker.Makes deadline n → (broker.polls n).raises = none) :
    (broker.polls n).verdict deadline = .ok () ∧ broker.Acknowledges deadline
      ∨ ∃ message, (broker.polls n).verdict deadline = .error (.publishError message) := by
  unfold Poll.verdict
  by_cases hlate : deadline ≤ (broker.polls n).monotonic
  · rw [if_pos hlate]
    exact Or.inr ⟨_, rfl⟩
  · have hmakes : broker.Makes deadline n := ⟨hquiet, by omega⟩
    have hnone := hraises hmakes
    rw [if_neg hlate, hnone]
    by_cases hall : (broker.polls n).reports.all Option.isNone = true
    · refine Or.inl ⟨if_pos hall, n, hmakes, fun hreports => ?_, fun report hreport => ?_⟩
      · exact hends ⟨hmakes.2, hnone, hreports⟩
      · exact Option.isNone_iff_eq_none.mp (List.all_eq_true.mp hall report hreport)
    · exact Or.inr ⟨_, if_neg hall⟩

/-- A poll that is made and raises ends the wait with what it raises. -/
theorem verdict_of_raises (hmakes : broker.Makes deadline n) {error : ProducerError}
    (hraises : (broker.polls n).raises = some error) :
    (broker.polls n).verdict deadline = .error (.producer error) := by
  have htime := hmakes.2
  unfold Poll.verdict
  rw [if_neg (by omega), hraises]

end

/-! ## The record -/

theorem envelopeRecord_ok_iff (runtime : Runtime) (envelope : Envelope Dict) :
    (∃ record, envelopeRecord runtime envelope = .ok record)
      ↔ (runtime.modelDumpJson envelope).isSome = true ∧ shortDigits envelope.repositoryId := by
  unfold envelopeRecord shortDigits
  cases runtime.modelDumpJson envelope with
  | none => exact iff_of_false (fun ⟨_, h⟩ => nomatch h) fun h => Bool.false_ne_true h.1
  | some value =>
      cases Python.str envelope.repositoryId with
      | none => exact iff_of_false (fun ⟨_, h⟩ => nomatch h) fun h => Bool.false_ne_true h.2
      | some key => exact iff_of_true ⟨_, rfl⟩ ⟨rfl, rfl⟩

/-- What does not fit a record raises something else than `PublishError`. -/
theorem envelopeRecord_error {runtime : Runtime} {envelope : Envelope Dict} {raised : Raised}
    (h : envelopeRecord runtime envelope = .error raised) (message : String) :
    raised ≠ .publishError message := by
  unfold envelopeRecord at h
  rintro rfl
  split at h
  · cases h
  · split at h <;> cases h

/-! ## Publishing -/

section

variable (runtime : Runtime) (settings : WebhookSettings) (broker : Broker)
  (envelope : Envelope Dict)

/-- The deadline of the wait. -/
def Broker.deadline : Int := broker.monotonic + settings.publishTimeout

/-- The outcome of `publish` after a number of polls. -/
def publishOutcome (n : ℕ) : Option (Except Raised Unit) :=
  (publishSync runtime settings (broker.producer n) envelope).2

/-- A return has an acknowledgement behind it, and what is raised is `PublishError`. -/
def Broker.Justifies (result : Except Raised Unit) : Prop :=
  result = .ok () ∧ broker.Acknowledges (broker.deadline settings)
    ∨ ∃ message, result = .error (.publishError message)

/-- `publish` returns after an acknowledgement or raises `PublishError`, and a request for the
event is answered with 202 after an acknowledgement or with 503. -/
structure Publishes : Prop where
  outcome : ∃ result, Settles (publishOutcome runtime settings broker envelope) result
    ∧ broker.Justifies settings result
  answer : ∀ now request deliveryId,
    prepare runtime settings now request = .ok (deliveryId, envelope) →
    ∃ response, Settles
        (fun n => (receiveGithubWebhook runtime settings (broker.producer n) now request).2) response
      ∧ (response = .accepted envelope.deliveryId
          ∧ broker.Acknowledges (broker.deadline settings)
        ∨ response = .rejected 503 "webhook event could not be published")

variable {runtime settings broker envelope}

/-- The response to the end of `publish`. -/
def answerTo (deliveryId : String) : Except Raised Unit → Response
  | .ok () => receipt deliveryId
  | .error (.publishError _) => .rejected 503 "webhook event could not be published"
  | .error raised => .unhandled raised

theorem receive_of_outcome {now : Aware} {request : Request} {deliveryId : String}
    (hprepared : prepare runtime settings now request = .ok (deliveryId, envelope))
    {result : Except Raised Unit} {n : ℕ}
    (h : publishOutcome runtime settings broker envelope n = some result) :
    (receiveGithubWebhook runtime settings (broker.producer n) now request).2
      = some (answerTo deliveryId result) := by
  unfold publishOutcome at h
  unfold receiveGithubWebhook
  rw [hprepared]
  dsimp only
  cases hpublish : publishSync runtime settings (broker.producer n) envelope with
  | mk records outcome =>
      rw [hpublish] at h
      obtain rfl : outcome = some result := h
      cases result with
      | ok _ => rfl
      | error raised => cases raised <;> rfl

/-- How publishing ends: a record that is queued ends as its wait does. -/
theorem publishOutcome_eq {record : Record}
    (hrecord : envelopeRecord runtime envelope = .ok record) (hraises : broker.raises = none)
    (n : ℕ) :
    publishOutcome runtime settings broker envelope n
      = awaitDelivery (broker.deadline settings) ((List.range n).map broker.polls) := by
  unfold publishOutcome publishSync Broker.producer
  simp only [hrecord, hraises]
  rfl

/-- A record that no poll raises on is acknowledged or `PublishError` is raised. -/
theorem settles_of_polls {record : Record} (hrecord : envelopeRecord runtime envelope = .ok record)
    (hpolls : broker.raises.isSome
      ∨ ∀ n, broker.Makes (broker.deadline settings) n → (broker.polls n).raises = none) :
    ∃ result, Settles (publishOutcome runtime settings broker envelope) result
      ∧ broker.Justifies settings result := by
  cases hqueued : broker.raises with
  | some error =>
      refine ⟨_, ⟨0, fun m _ => ?_⟩, Or.inr ⟨"event could not be queued for Kafka", rfl⟩⟩
      unfold publishOutcome publishSync Broker.producer
      simp only [hrecord, hqueued]
  | none =>
      have hnone := hpolls.resolve_left (by rw [hqueued]; exact Bool.false_ne_true)
      obtain ⟨n, hquiet, hends, hverdict⟩ := exists_verdict broker (broker.deadline settings)
      simp only [← publishOutcome_eq hrecord hqueued] at hverdict
      exact ⟨_, hverdict, verdict_cases hquiet hends (hnone n)⟩

/-- An event that cannot be serialized ends `publish` with another exception. -/
theorem not_justifies_of_envelopeRecord {raised : Raised}
    (hrecord : envelopeRecord runtime envelope = .error raised) {result : Except Raised Unit}
    (hsettles : Settles (publishOutcome runtime settings broker envelope) result) :
    ¬ broker.Justifies settings result := by
  intro hresult
  have hraised : Settles (publishOutcome runtime settings broker envelope) (.error raised) := by
    refine ⟨0, fun m _ => ?_⟩
    unfold publishOutcome publishSync
    rw [hrecord]
  obtain ⟨message, hmessage⟩ := hraised.isPublishError hsettles hresult
  exact envelopeRecord_error hrecord message hmessage

/-- A poll that is made and raises ends `publish` with another exception. -/
theorem not_justifies_of_raises {record : Record}
    (hrecord : envelopeRecord runtime envelope = .ok record) (hqueued : broker.raises = none)
    {i : ℕ} (hmakes : broker.Makes (broker.deadline settings) i) {error : ProducerError}
    (hraises : (broker.polls i).raises = some error) {result : Except Raised Unit}
    (hsettles : Settles (publishOutcome runtime settings broker envelope) result) :
    ¬ broker.Justifies settings result := by
  intro hresult
  obtain ⟨n, hquiet, hends, hverdict⟩ := exists_verdict broker (broker.deadline settings)
  rcases (le_of_makes hends hmakes).lt_or_eq with hlt | rfl
  · -- the polls before the last one that is made do not raise
    have hnone := (hquiet i hlt).2.1
    cases hnone.symm.trans hraises
  · rw [verdict_of_raises hmakes hraises] at hverdict
    simp only [← publishOutcome_eq hrecord hqueued] at hverdict
    obtain ⟨message, hmessage⟩ := hverdict.isPublishError hsettles hresult
    cases hmessage

/-- The request is answered as publishing its event ends. -/
theorem answer_of_justifies {result : Except Raised Unit}
    (hsettles : Settles (publishOutcome runtime settings broker envelope) result)
    (hresult : broker.Justifies settings result) {now : Aware} {request : Request}
    {deliveryId : String} (hprepared : prepare runtime settings now request
      = .ok (deliveryId, envelope)) :
    ∃ response, Settles
        (fun n => (receiveGithubWebhook runtime settings (broker.producer n) now request).2) response
      ∧ (response = .accepted envelope.deliveryId
          ∧ broker.Acknowledges (broker.deadline settings)
        ∨ response = .rejected 503 "webhook event could not be published") := by
  obtain ⟨n, hn⟩ := hsettles
  refine ⟨answerTo deliveryId result, ⟨n, fun m hm => receive_of_outcome hprepared (hn m hm)⟩, ?_⟩
  rcases hresult with ⟨rfl, hack⟩ | ⟨message, rfl⟩
  · obtain ⟨body, eventName, -, hbuilt⟩ := prepare_ok hprepared
    obtain ⟨-, -, hid, -⟩ := fromWebhook_some hbuilt
    refine Or.inl ⟨?_, hack⟩
    show receipt deliveryId = _
    unfold receipt
    rw [hid]
  · exact Or.inr rfl

/-- **Publishing** is acknowledged or raises `PublishError` exactly if the event can be serialized
and, once its record is queued, no poll that is made raises. -/
theorem publishes_iff (runtime : Runtime) (settings : WebhookSettings) (broker : Broker)
    (envelope : Envelope Dict) :
    Publishes runtime settings broker envelope
      ↔ ((runtime.modelDumpJson envelope).isSome = true ∧ shortDigits envelope.repositoryId)
        ∧ (broker.raises.isSome
          ∨ ∀ n, broker.Makes (broker.deadline settings) n → (broker.polls n).raises = none) := by
  rw [← envelopeRecord_ok_iff runtime]
  constructor
  · rintro ⟨⟨result, hsettles, hresult⟩, -⟩
    cases hrecord : envelopeRecord runtime envelope with
    | error raised => exact absurd hresult (not_justifies_of_envelopeRecord hrecord hsettles)
    | ok record =>
        refine ⟨⟨record, rfl⟩, ?_⟩
        cases hqueued : broker.raises with
        | some error => exact Or.inl rfl
        | none =>
            refine Or.inr fun i hmakes => ?_
            cases hraises : (broker.polls i).raises with
            | none => rfl
            | some error =>
                exact absurd hresult
                  (not_justifies_of_raises hrecord hqueued hmakes hraises hsettles)
  · rintro ⟨⟨record, hrecord⟩, hpolls⟩
    obtain ⟨result, hsettles, hresult⟩ := settles_of_polls hrecord hpolls
    exact ⟨⟨result, hsettles, hresult⟩,
      fun now request deliveryId hprepared => answer_of_justifies hsettles hresult hprepared⟩

end

/-- Every poll raises `KafkaException`. -/
def raisingBroker : Broker where
  raises := none
  monotonic := 0
  polls n := ⟨n * 100000, some .kafkaException, []⟩
  clock_unbounded time := ⟨time.toNat, by dsimp only; omega⟩

/-- A poll that raises leaves the publisher with another exception than `PublishError`, and the
request with 500. -/
theorem poll_raises_through :
    let runtime := notedRuntime .none (notedDocument .null) (notedRecordText "null")
    let hexdigest := "c2cb7f4d9414a4434de6f62651538efedeeaed67b2eb56b107e08e3c47542266"
    Settles (publishOutcome runtime (notedSettings hexdigest) raisingBroker (notedEnvelope .none))
        (.error (.producer .kafkaException))
      ∧ Settles (fun n => (receiveGithubWebhook runtime (notedSettings hexdigest)
          (raisingBroker.producer n) ⟨0, 0⟩ (notedRequest "null" hexdigest)).2)
        (.unhandled (.producer .kafkaException))
      ∧ ¬ Publishes runtime (notedSettings hexdigest) raisingBroker (notedEnvelope .none) := by
  intro runtime hexdigest
  have hprepared : prepare runtime (notedSettings hexdigest) ⟨0, 0⟩ (notedRequest "null" hexdigest)
      = .ok ("d-1", notedEnvelope .none) := prepare_noted _ _ _ _ _ (by decide) (by decide)
  have houtcome : ∀ m, 1 ≤ m → publishOutcome runtime (notedSettings hexdigest) raisingBroker
      (notedEnvelope .none) m = some (.error (.producer .kafkaException)) := by
    intro m hm
    obtain ⟨rest, rfl⟩ := Nat.exists_eq_add_of_le' hm
    rw [publishOutcome_eq rfl rfl, List.range_succ_eq_map]
    rfl
  refine ⟨⟨1, houtcome⟩, ⟨1, fun m hm => receive_of_outcome hprepared (houtcome m hm)⟩, ?_⟩
  rintro ⟨⟨result, hsettles, hresult⟩, -⟩
  have hpoll : Settles (publishOutcome runtime (notedSettings hexdigest) raisingBroker
      (notedEnvelope .none)) (.error (.producer .kafkaException)) := ⟨1, houtcome⟩
  obtain ⟨message, hmessage⟩ := hpoll.isPublishError hsettles hresult
  cases hmessage

end Webhook
