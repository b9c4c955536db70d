import DeliveryIntelligence.Backfill.RateLimit

set_option autoImplicit false

/-!
# Responses marked as rate-limited

A status of 429 marks a response as rate-limited, and so does a 403 of the REST API with the headers
of a limit. Both clients read the body before they look at the marks. Once it is read, they sleep
and send the request again while attempts are left (`marked_retried`), unless an exhausted primary
limit comes without its reset, which is an error of its own.
-/

namespace Backfill

open Python Retry

/-! ## One client -/

section

variable (settings : RetrySettings) (world : HttpWorld) {P α : Type} (client : Client P α)
  (attempt : ℕ) (response : HttpResponse) (payload : P)

/-- A primary limit is exhausted and its end is not known. -/
def Client.OmitsReset : Prop :=
  client.isPrimaryLimit response payload = true
    ∧ integerHeader response.headers "x-ratelimit-reset" = none

/-- What follows a rate-limited response: an error where the reset is missing, and otherwise a sleep
as long as the response asks for and, when that returns, the next request. -/
def Client.RetriedAfter (run : List (Event Delay) × Except ClientError α) : Prop :=
  (client.OmitsReset response payload →
    run.2 = .error (.rateLimitError "GitHub omitted x-ratelimit-reset for an exhausted limit"))
  ∧ (¬ client.OmitsReset response payload →
    ∃ delay, client.Honours settings world attempt delay
      ∧ (world.sleeps delay = true →
        [.request attempt, .sleep delay, .request (attempt + 1)] <:+: run.1)
      ∧ (world.sleeps delay = false → run.2 = .error .overflowError))

end

section

variable {settings : RetrySettings} {world : HttpWorld} {P α : Type} {client : Client P α}
  {attempt : ℕ} {response : HttpResponse} {payload : P}

/-- The turn on a primary limit whose reset is missing. -/
theorem Client.turn_of_omitsReset (hattempt : attempt < settings.maxRetries)
    (hreply : world.reply attempt = some response) (hpayload : client.payload response = .ok payload)
    (homits : client.OmitsReset response payload) :
    client.turn settings world attempt = .finish
      (.error (.rateLimitError "GitHub omitted x-ratelimit-reset for an exhausted limit")) := by
  obtain ⟨hprimary, hreset⟩ := homits
  unfold Client.turn retryPrimary
  simp only [hreply, hpayload, hprimary, if_true, if_neg (not_le.mpr hattempt), hreset]

/-- The turn on any other rate-limited response. -/
theorem Client.turn_of_limited (hattempt : attempt < settings.maxRetries)
    (hreply : world.reply attempt = some response) (hpayload : client.payload response = .ok payload)
    (hlimited : client.isPrimaryLimit response payload = true
      ∨ client.isSecondaryLimit response payload = true)
    (hreset : ¬ client.OmitsReset response payload) :
    ∃ delay, client.Honours settings world attempt delay
      ∧ client.turn settings world attempt = world.sleep delay := by
  unfold Client.turn
  simp only [hreply, hpayload]
  by_cases hprimary : client.isPrimaryLimit response payload = true
  · obtain ⟨resetAt, hresetAt⟩ : ∃ resetAt,
        integerHeader response.headers "x-ratelimit-reset" = some resetAt := by
      rw [← Option.ne_none_iff_exists']
      exact fun hnone => hreset ⟨hprimary, hnone⟩
    obtain ⟨delay, hsleep, hdelay⟩ := retryPrimary_eq_sleep (α := α) settings world client.api
      response.headers attempt hattempt hresetAt
    rw [if_pos hprimary]
    have hhonours : client.Honours settings world attempt delay :=
      ⟨response, payload, hreply, hpayload, Or.inl ⟨hprimary, resetAt, hresetAt, hdelay⟩⟩
    exact ⟨delay, hhonours, hsleep⟩
  · have hsecondary := hlimited.resolve_left hprimary
    obtain ⟨delay, hsleep, hdelay⟩ := retrySecondary_eq_sleep (α := α) settings world client.api
      response.headers attempt hattempt
    rw [if_neg hprimary, if_pos hsecondary]
    rw [Bool.not_eq_true] at hprimary
    have hhonours : client.Honours settings world attempt delay :=
      Client.honours_secondary settings world hreply hpayload hprimary hsecondary hdelay
    exact ⟨delay, hhonours, hsleep⟩

/-- **One rate-limited response** whose body was read. -/
theorem Client.retriedAfter (hattempt : attempt < settings.maxRetries)
    (hreply : world.reply attempt = some response) (hpayload : client.payload response = .ok payload)
    (hlimited : client.isPrimaryLimit response payload = true
      ∨ client.isSecondaryLimit response payload = true)
    (hreached : .request attempt ∈ (client.request settings world).1) :
    client.RetriedAfter settings world attempt response payload (client.request settings world) := by
  constructor
  · intro homits
    exact retryLoop_of_finish (Client.turn_of_omitsReset hattempt hreply hpayload homits) hreached
  · intro hreset
    obtain ⟨delay, hhonours, hturn⟩ :=
      Client.turn_of_limited hattempt hreply hpayload hlimited hreset
    refine ⟨delay, hhonours, fun hsleeps => ?_, fun hsleeps => ?_⟩
    · have hretry : client.turn settings world attempt = .retry delay := by
        rw [hturn, HttpWorld.sleep, if_pos hsleeps]
      have hlast : attempt < 0 + settings.maxRetries := by omega
      unfold Client.request at hreached ⊢
      rw [List.range_eq_range'] at hreached ⊢
      exact infix_retryLoop hretry hlast hreached
    · have hfinish : client.turn settings world attempt = .finish (.error .overflowError) := by
        rw [hturn, HttpWorld.sleep, hsleeps]
        rfl
      exact retryLoop_of_finish hfinish hreached

end

/-! ## Both clients -/

namespace GitHubRestClient

/-- The status and the headers mark the response: 429, or 403 with `Retry-After` or with an
exhausted primary limit and its reset. -/
def IsMarked (response : HttpResponse) : Prop :=
  response.statusCode = 429
    ∨ response.statusCode = 403
      ∧ ((header response.headers "retry-after").isSome
        ∨ integerHeader response.headers "x-ratelimit-remaining" = some 0
          ∧ (integerHeader response.headers "x-ratelimit-reset").isSome)

theorem isLimit_of_isMarked {response : HttpResponse} (h : IsMarked response) (payload : Value) :
    client.isPrimaryLimit response payload = true
      ∨ client.isSecondaryLimit response payload = true := by
  show isPrimaryLimit response = true ∨ isSecondaryLimit response (message payload) = true
  unfold isPrimaryLimit isSecondaryLimit
  rcases h with hstatus | ⟨hstatus, hheader | ⟨hremaining, -⟩⟩
  · right
    simp [hstatus]
  · right
    simp [hstatus, hheader]
  · left
    simp [hstatus, hremaining]

end GitHubRestClient

namespace GitHubGraphQLClient

/-- The status marks the response. -/
def IsMarked (response : HttpResponse) : Prop := response.statusCode = 429

theorem isLimit_of_isMarked {response : HttpResponse} (h : IsMarked response) (payload : Members) :
    client.isPrimaryLimit response payload = true
      ∨ client.isSecondaryLimit response payload = true := by
  right
  show isSecondaryLimit response (errorMessages payload) = true
  unfold isSecondaryLimit IsMarked at *
  simp [h]

end GitHubGraphQLClient

/-- **Marked responses are retried.** When a client has read the body of a marked response and
attempts are left, it sleeps and sends the request again, unless an exhausted primary limit omits
its reset. -/
theorem marked_retried (settings : RetrySettings) (world : HttpWorld) (path : String)
    {attempt : ℕ} {response : HttpResponse} (hattempt : attempt < settings.maxRetries)
    (hreply : world.reply attempt = some response) :
    (∀ payload, GitHubRestClient.IsMarked response →
        GitHubRestClient.jsonPayload response = .ok payload →
        .request attempt ∈ (GitHubRestClient.get settings world path).1 →
      GitHubRestClient.client.RetriedAfter settings world attempt response payload
        (GitHubRestClient.get settings world path))
    ∧ (∀ payload, GitHubGraphQLClient.IsMarked response →
        GitHubGraphQLClient.jsonObject response = .ok payload →
        .request attempt ∈ (GitHubGraphQLClient.execute settings world).1 →
      GitHubGraphQLClient.client.RetriedAfter settings world attempt response payload
        (GitHubGraphQLClient.execute settings world)) := by
  constructor
  · intro payload hmarked hpayload hreached
    unfold GitHubRestClient.get at hreached ⊢
    by_cases hpath : path = ""
    · rw [if_pos hpath] at hreached
      cases hreached
    · rw [if_neg hpath] at hreached ⊢
      exact Client.retriedAfter hattempt hreply hpayload
        (GitHubRestClient.isLimit_of_isMarked hmarked payload) hreached
  · intro payload hmarked hpayload hreached
    exact Client.retriedAfter hattempt hreply hpayload
      (GitHubGraphQLClient.isLimit_of_isMarked hmarked payload) hreached

/-- The given response, and then an empty object. -/
def answeredOnce (response : HttpResponse) : HttpWorld :=
  { limitedOnce with
    reply := fun attempt => some
      (if attempt = 0 then response
      else { statusCode := 200, headers := [], body := .ok (.dict []) }) }

def threeRetries : RetrySettings := ⟨3, 60, le_rfl⟩

/-- A limit with a body to read. -/
def emptyObjectLimit : HttpResponse := ⟨429, [("Retry-After", "2.5")], .ok (.dict [])⟩

theorem marked_retried_emptyObject :
    GitHubRestClient.client.RetriedAfter threeRetries (answeredOnce emptyObjectLimit) 0
        emptyObjectLimit (.dict [])
        (GitHubRestClient.get threeRetries (answeredOnce emptyObjectLimit) "rate_limit")
      ∧ GitHubGraphQLClient.client.RetriedAfter threeRetries (answeredOnce emptyObjectLimit) 0
        emptyObjectLimit []
        (GitHubGraphQLClient.execute threeRetries (answeredOnce emptyObjectLimit)) := by
  have hreply : (answeredOnce emptyObjectLimit).reply 0 = some emptyObjectLimit := rfl
  have hrest : .request 0
      ∈ (GitHubRestClient.get threeRetries (answeredOnce emptyObjectLimit) "rate_limit").1 := by
    decide +kernel
  have hgraphql : .request 0
      ∈ (GitHubGraphQLClient.execute threeRetries (answeredOnce emptyObjectLimit)).1 := by
    decide +kernel
  have h := marked_retried threeRetries (answeredOnce emptyObjectLimit) "rate_limit"
    (by decide) hreply
  exact ⟨h.1 (.dict []) (Or.inl rfl) rfl hrest, h.2 [] rfl rfl hgraphql⟩

/-- A limit with the text of a proxy for a body. -/
def htmlLimit : HttpResponse := ⟨429, [], .error .value⟩

/-- A limit with an exhausted primary limit and no reset. -/
def omittedReset : HttpResponse := ⟨429, [("x-ratelimit-remaining", "0")], .ok (.dict [])⟩

/-- With attempts left, both clients raise on a body that is no JSON, and the REST client on a
missing reset, without a sleep. -/
theorem marked_not_retried :
    0 < threeRetries.maxRetries
    ∧ (GitHubRestClient.IsMarked htmlLimit
      ∧ GitHubRestClient.get threeRetries (answeredOnce htmlLimit) "rate_limit"
        = ([.request 0],
          .error (.requestError (codePoints "GitHub REST returned invalid JSON"))))
    ∧ (GitHubGraphQLClient.IsMarked htmlLimit
      ∧ GitHubGraphQLClient.execute threeRetries (answeredOnce htmlLimit)
        = ([.request 0],
          .error (.requestError (codePoints "GitHub GraphQL returned invalid JSON"))))
    ∧ (GitHubRestClient.IsMarked omittedReset
      ∧ GitHubRestClient.get threeRetries (answeredOnce omittedReset) "rate_limit"
        = ([.request 0], .error
          (.rateLimitError "GitHub omitted x-ratelimit-reset for an exhausted limit"))) := by
  have homits : GitHubRestClient.client.OmitsReset omittedReset (.dict []) := by
    constructor
    · show GitHubRestClient.isPrimaryLimit omittedReset = true
      decide +kernel
    · decide +kernel
  have hturn : GitHubRestClient.client.turn threeRetries (answeredOnce omittedReset) 0
      = .finish (.error
        (.rateLimitError "GitHub omitted x-ratelimit-reset for an exhausted limit")) :=
    Client.turn_of_omitsReset (by decide) rfl rfl homits
  refine ⟨by decide, ⟨Or.inl rfl, rfl⟩, ⟨rfl, rfl⟩, Or.inl rfl, ?_⟩
  have hpath : "rate_limit" ≠ "" := by decide
  unfold GitHubRestClient.get
  rw [if_neg hpath]
  show retryLoop (GitHubRestClient.client.turn threeRetries (answeredOnce omittedReset)) exhausted
    [0, 1, 2, 3] = _
  simp only [retryLoop, hturn]

end Backfill
