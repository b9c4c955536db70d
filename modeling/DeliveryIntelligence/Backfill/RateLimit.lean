import DeliveryIntelligence.Common.Python
import DeliveryIntelligence.Library.Retry

set_option autoImplicit false

/-!
# Rate limits of the GitHub clients

`backfill/rest.py` and `backfill/graphql.py`: a request is sent again after a delay as long as the
response is rate-limited and attempts are left. Times are rational numbers, a delay may be
infinite; what is sent is the same in every attempt and left out. `retries_bounded`: both loops are
bounded and wait at least as long as the server asks for.
-/

namespace Backfill

open Python Retry

/-! ## What the clients run on -/

/-- An exception of `response.json`. -/
inductive BodyError
  | value
  | other
  deriving DecidableEq

structure HttpResponse where
  statusCode : Int
  headers : List (String × String)
  /-- `json()` -/
  body : Except BodyError Value

/-- What the clients raise. -/
inductive ClientError
  | valueError (message : String)
  /-- `RestRequestError`, `GraphQLRequestError` -/
  | requestError (message : List Nat)
  /-- `RestRateLimitError`, `RateLimitError` -/
  | rateLimitError (message : String)
  | assertionError (message : String)
  /-- an exception of the HTTP library -/
  | httpError
  /-- `json()` fails with something other than a `ValueError` -/
  | decoderError
  /-- `time.sleep` of a duration the platform has no representation for -/
  | overflowError
  deriving DecidableEq

/-- A number of seconds. -/
abbrev Delay := WithTop ℚ

/-- The fields of a client the retries use. -/
structure RetrySettings where
  maxRetries : ℕ
  secondaryBackoff : ℚ
  backoff_le : 60 ≤ secondaryBackoff

/-- What an attempt meets. -/
structure HttpWorld where
  /-- the response, with none where the HTTP library raises -/
  reply : ℕ → Option HttpResponse
  epochTime : ℕ → ℚ
  jitter : ℕ → ℚ → ℚ
  /-- `sleep` returns -/
  sleeps : Delay → Bool
  jitter_nonneg : ∀ attempt upper, 0 ≤ jitter attempt upper

/-! ## Headers -/

/-- `_header` -/
def header (headers : List (String × String)) (name : String) : Option String :=
  (headers.find? fun member => lower (codePoints member.1) == lower (codePoints name)).map Prod.snd

/-- `_integer_header` -/
def integerHeader (headers : List (String × String)) (name : String) : Option Int :=
  (header headers name).bind Python.int

/-- `parsed if parsed >= 0 else None` -/
def nonnegative : FloatValue → Option Delay
  | .nan => none
  | .infinity negative => if negative then none else some ⊤
  | .finite value => if 0 ≤ value then some value else none

/-- `_float_header` -/
def floatHeader (headers : List (String × String)) (name : String) : Option Delay :=
  ((header headers name).bind Python.float).bind nonnegative

/-! ## Retries -/

section

variable (settings : RetrySettings) (world : HttpWorld) {α : Type}

def HttpWorld.sleep (delay : Delay) : Turn Delay ClientError α :=
  if world.sleeps delay then .retry delay else .finish (.error .overflowError)

/-- `_retry_primary` of the client of an API. -/
def retryPrimary (api : String) (headers : List (String × String)) (attempt : ℕ) :
    Turn Delay ClientError α :=
  if settings.maxRetries ≤ attempt then
    .finish (.error (.rateLimitError s!"{api} primary rate limit remained exhausted"))
  else
    match integerHeader headers "x-ratelimit-reset" with
    | none => .finish (.error
        (.rateLimitError "GitHub omitted x-ratelimit-reset for an exhausted limit"))
    | some resetAt => world.sleep
        ↑(max 0 ((resetAt : ℚ) - world.epochTime attempt) + world.jitter attempt 1)

/-- `base_delay` -/
def baseDelay (headers : List (String × String)) (attempt : ℕ) : Delay :=
  match floatHeader headers "retry-after" with
  | some retryAfter => retryAfter
  | none => ↑(settings.secondaryBackoff * 2 ^ attempt)

/-- `min(5.0, base_delay * 0.1)` -/
def jitterBound : Delay → ℚ
  | none => 5
  | some delay => min 5 (delay / 10)

/-- `_retry_secondary` of the client of an API. -/
def retrySecondary (api : String) (headers : List (String × String)) (attempt : ℕ) :
    Turn Delay ClientError α :=
  if settings.maxRetries ≤ attempt then
    .finish (.error (.rateLimitError s!"{api} secondary rate limit persisted"))
  else world.sleep (baseDelay settings headers attempt
    + ↑(world.jitter attempt (jitterBound (baseDelay settings headers attempt))))

end

/-! ## A client -/

/-- What a client of an API makes of a response, with a payload and a result of its own. -/
structure Client (P α : Type) where
  api : String
  payload : HttpResponse → Except ClientError P
  isPrimaryLimit : HttpResponse → P → Bool
  isSecondaryLimit : HttpResponse → P → Bool
  /-- the result of a response that is not rate-limited -/
  result : HttpResponse → P → Except ClientError α

/-- One turn of the loop in `get` or `execute`. -/
def Client.turn {P α : Type} (client : Client P α) (settings : RetrySettings) (world : HttpWorld)
    (attempt : ℕ) : Turn Delay ClientError α :=
  match world.reply attempt with
  | none => .finish (.error .httpError)
  | some response =>
      match client.payload response with
      | .error error => .finish (.error error)
      | .ok payload =>
          if client.isPrimaryLimit response payload then
            retryPrimary settings world client.api response.headers attempt
          else if client.isSecondaryLimit response payload then
            retrySecondary settings world client.api response.headers attempt
          else .finish (client.result response payload)

/-- The `AssertionError` behind the loop. -/
def exhausted : ClientError := .assertionError "rate-limit retry loop exhausted without returning"

/-- The loop: its requests and sleeps, and the result. -/
def Client.request {P α : Type} (client : Client P α) (settings : RetrySettings)
    (world : HttpWorld) : List (Event Delay) × Except ClientError α :=
  retryLoop (client.turn settings world) exhausted (List.range (settings.maxRetries + 1))

/-- The text of both kinds of secondary limits. -/
def mentionsSecondaryLimit (message : List Nat) : Bool :=
  decide (codePoints "secondary rate limit" <:+: lower message)
    || decide (codePoints "abuse detection" <:+: lower message)

/-! ## `backfill/rest.py` -/

namespace GitHubRestClient

/-- `_json_payload` -/
def jsonPayload (response : HttpResponse) : Except ClientError Value :=
  match response.body with
  | .error .value => .error (.requestError (codePoints "GitHub REST returned invalid JSON"))
  | .error .other => .error .decoderError
  | .ok (.dict members) => .ok (.dict members)
  | .ok (.list items) => .ok (.list items)
  | .ok _ => .error
      (.requestError (codePoints "GitHub REST returned neither an object nor an array"))

/-- `_message` -/
def message : Value → List Nat
  | .dict members =>
      match Python.get members "message" with
      | some (.str message) => message
      | _ => []
  | _ => []

/-- The condition of `_retry_primary`. -/
def isPrimaryLimit (response : HttpResponse) : Bool :=
  (response.statusCode == 403 || response.statusCode == 429)
    && integerHeader response.headers "x-ratelimit-remaining" == some 0

/-- `_is_secondary_limit` -/
def isSecondaryLimit (response : HttpResponse) (message : List Nat) : Bool :=
  response.statusCode == 429
    || response.statusCode == 403 && (header response.headers "retry-after").isSome
    || response.statusCode == 403 && mentionsSecondaryLimit message

def client : Client Value Value where
  api := "GitHub REST"
  payload := jsonPayload
  isPrimaryLimit response _ := isPrimaryLimit response
  isSecondaryLimit response payload := isSecondaryLimit response (message payload)
  result response payload :=
    if response.statusCode ≠ 200 then
      .error (.requestError (codePoints s!"GitHub REST returned HTTP {response.statusCode}"))
    else .ok payload

/-- Return a JSON object or array after bounded rate-limit retries. -/
def get (settings : RetrySettings) (world : HttpWorld) (path : String) :
    List (Event Delay) × Except ClientError Value :=
  if path = "" then ([], .error (.valueError "GitHub REST path must be nonempty"))
  else client.request settings world

end GitHubRestClient

/-! ## `backfill/graphql.py` -/

namespace GitHubGraphQLClient

/-- The members of an object. -/
abbrev Members := List (List Nat × Value)

/-- `_json_object` -/
def jsonObject (response : HttpResponse) : Except ClientError Members :=
  match response.body with
  | .error .value => .error (.requestError (codePoints "GitHub GraphQL returned invalid JSON"))
  | .error .other => .error .decoderError
  | .ok (.dict members) => .ok members
  | .ok _ => .error (.requestError (codePoints "GitHub GraphQL returned a non-object response"))

/-- The message of an entry of `errors`, if it has one. -/
def errorMessage : Value → Option (List Nat)
  | .dict members =>
      match Python.get members "message" with
      | some (.str message) => some message
      | _ => none
  | _ => none

/-- `_error_messages` -/
def errorMessages (payload : Members) : List (List Nat) :=
  match Python.get payload "errors" with
  | some (.list errors) => errors.filterMap errorMessage
  | _ => []

/-- The condition of `_retry_primary`. -/
def isPrimaryLimit (response : HttpResponse) (errors : List (List Nat)) : Bool :=
  !errors.isEmpty && integerHeader response.headers "x-ratelimit-remaining" == some 0

/-- `_is_secondary_limit` -/
def isSecondaryLimit (response : HttpResponse) (errors : List (List Nat)) : Bool :=
  response.statusCode == 429 || (header response.headers "retry-after").isSome
    || errors.any mentionsSecondaryLimit

def client : Client Members Members where
  api := "GitHub GraphQL"
  payload := jsonObject
  isPrimaryLimit response payload := isPrimaryLimit response (errorMessages payload)
  isSecondaryLimit response payload := isSecondaryLimit response (errorMessages payload)
  result response payload :=
    if response.statusCode ≠ 200 then
      .error (.requestError (codePoints s!"GitHub GraphQL returned HTTP {response.statusCode}"))
    else if errorMessages payload ≠ [] then
      .error (.requestError (codePoints "GitHub GraphQL errors: "
        ++ (codePoints "; ").intercalate (errorMessages payload)))
    else
      match Python.get payload "data" with
      | some (.dict data) => .ok data
      | _ => .error
          (.requestError (codePoints "GitHub GraphQL response is missing a data object"))

/-- Return the GraphQL data object after bounded rate-limit retries. -/
def execute (settings : RetrySettings) (world : HttpWorld) :
    List (Event Delay) × Except ClientError Members :=
  client.request settings world

end GitHubGraphQLClient

/-! ## One attempt -/

section

variable (settings : RetrySettings) (world : HttpWorld) {P α : Type}

/-- The response is rate-limited, and the delay is at least what it asks for: until the reset of a
primary limit, and of a secondary one for `Retry-After`, or the backoff where that header is
missing or has no number that is not negative. -/
def Client.Honours (client : Client P α) (attempt : ℕ) (delay : Delay) : Prop :=
  ∃ response payload, world.reply attempt = some response ∧ client.payload response = .ok payload
    ∧ (client.isPrimaryLimit response payload = true
        ∧ (∃ resetAt, integerHeader response.headers "x-ratelimit-reset" = some resetAt
          ∧ ↑(max 0 ((resetAt : ℚ) - world.epochTime attempt)) ≤ delay)
      ∨ client.isPrimaryLimit response payload = false
        ∧ client.isSecondaryLimit response payload = true
        ∧ (∀ retryAfter, floatHeader response.headers "retry-after" = some retryAfter →
          retryAfter ≤ delay)
        ∧ (floatHeader response.headers "retry-after" = none →
          ↑(settings.secondaryBackoff * 2 ^ attempt) ≤ delay))

/-- The value is the result of the response, which is not rate-limited. -/
def Client.Returns (client : Client P α) (attempt : ℕ) (value : α) : Prop :=
  ∃ response payload, world.reply attempt = some response ∧ client.payload response = .ok payload
    ∧ client.isPrimaryLimit response payload = false
    ∧ client.isSecondaryLimit response payload = false
    ∧ client.result response payload = .ok value

theorem sleep_cases (delay : Delay) :
    (world.sleep delay : Turn Delay ClientError α) = .retry delay
      ∨ (world.sleep delay : Turn Delay ClientError α) = .finish (.error .overflowError) := by
  unfold HttpWorld.sleep
  by_cases hsleeps : world.sleeps delay = true
  · exact Or.inl (if_pos hsleeps)
  · exact Or.inr (if_neg hsleeps)

/-- The jitter makes no delay shorter. -/
theorem le_add_jitter (delay : Delay) (attempt : ℕ) (upper : ℚ) :
    delay ≤ delay + ↑(world.jitter attempt upper) :=
  le_add_of_nonneg_right (WithTop.coe_nonneg.mpr (world.jitter_nonneg attempt upper))

section

variable (api : String) (headers : List (String × String)) (attempt : ℕ)

/-- Before the last attempt a primary limit is waited for, if its end is known. -/
theorem retryPrimary_eq_sleep (hattempt : attempt < settings.maxRetries) {resetAt : Int}
    (hreset : integerHeader headers "x-ratelimit-reset" = some resetAt) :
    ∃ delay, (retryPrimary settings world api headers attempt : Turn Delay ClientError α)
        = world.sleep delay
      ∧ ↑(max 0 ((resetAt : ℚ) - world.epochTime attempt)) ≤ delay := by
  refine ⟨↑(max 0 ((resetAt : ℚ) - world.epochTime attempt) + world.jitter attempt 1), ?_, ?_⟩
  · unfold retryPrimary
    rw [if_neg (not_le.mpr hattempt), hreset]
  · rw [WithTop.coe_add]
    exact le_add_jitter world _ attempt 1

/-- Before the last attempt a secondary limit is waited for. -/
theorem retrySecondary_eq_sleep (hattempt : attempt < settings.maxRetries) :
    ∃ delay, (retrySecondary settings world api headers attempt : Turn Delay ClientError α)
        = world.sleep delay
      ∧ baseDelay settings headers attempt ≤ delay := by
  refine ⟨baseDelay settings headers attempt
    + ↑(world.jitter attempt (jitterBound (baseDelay settings headers attempt))), ?_, ?_⟩
  · unfold retrySecondary
    rw [if_neg (not_le.mpr hattempt)]
  · exact le_add_jitter world _ attempt _

theorem retryPrimary_cases :
    (∃ error, (retryPrimary settings world api headers attempt : Turn Delay ClientError α)
        = .finish (.error error) ∧ error ≠ exhausted)
      ∨ ∃ delay, (retryPrimary settings world api headers attempt : Turn Delay ClientError α)
          = .retry delay
        ∧ attempt < settings.maxRetries
        ∧ ∃ resetAt, integerHeader headers "x-ratelimit-reset" = some resetAt
          ∧ ↑(max 0 ((resetAt : ℚ) - world.epochTime attempt)) ≤ delay := by
  by_cases hattempt : attempt < settings.maxRetries
  · cases hreset : integerHeader headers "x-ratelimit-reset" with
    | none =>
        refine Or.inl ⟨.rateLimitError "GitHub omitted x-ratelimit-reset for an exhausted limit",
          ?_, ClientError.noConfusion⟩
        unfold retryPrimary
        rw [if_neg (not_le.mpr hattempt), hreset]
    | some resetAt =>
        obtain ⟨delay, hsleep, hdelay⟩ := retryPrimary_eq_sleep (α := α) settings world api headers
          attempt hattempt hreset
        rw [hsleep]
        rcases sleep_cases world delay with hretry | hraises
        · exact Or.inr ⟨delay, hretry, hattempt, resetAt, rfl, hdelay⟩
        · exact Or.inl ⟨_, hraises, ClientError.noConfusion⟩
  · unfold retryPrimary
    rw [if_pos (not_lt.mp hattempt)]
    exact Or.inl ⟨_, rfl, ClientError.noConfusion⟩

theorem retrySecondary_cases :
    (∃ error, (retrySecondary settings world api headers attempt : Turn Delay ClientError α)
        = .finish (.error error) ∧ error ≠ exhausted)
      ∨ ∃ delay, (retrySecondary settings world api headers attempt : Turn Delay ClientError α)
          = .retry delay
        ∧ attempt < settings.maxRetries ∧ baseDelay settings headers attempt ≤ delay := by
  by_cases hattempt : attempt < settings.maxRetries
  · obtain ⟨delay, hsleep, hdelay⟩ := retrySecondary_eq_sleep (α := α) settings world api headers
      attempt hattempt
    rw [hsleep]
    rcases sleep_cases world delay with hretry | hraises
    · exact Or.inr ⟨delay, hretry, hattempt, hdelay⟩
    · exact Or.inl ⟨_, hraises, ClientError.noConfusion⟩
  · unfold retrySecondary
    rw [if_pos (not_lt.mp hattempt)]
    exact Or.inl ⟨_, rfl, ClientError.noConfusion⟩

theorem baseDelay_of_header {retryAfter : Delay}
    (h : floatHeader headers "retry-after" = some retryAfter) :
    baseDelay settings headers attempt = retryAfter := by
  unfold baseDelay
  rw [h]

theorem baseDelay_of_missing (h : floatHeader headers "retry-after" = none) :
    baseDelay settings headers attempt = ↑(settings.secondaryBackoff * 2 ^ attempt) := by
  unfold baseDelay
  rw [h]

end

section

variable {client : Client P α} {attempt : ℕ} {response : HttpResponse} {payload : P}

/-- A delay that is not shorter than the base delay honours a secondary limit. -/
theorem Client.honours_secondary (hreply : world.reply attempt = some response)
    (hpayload : client.payload response = .ok payload)
    (hprimary : client.isPrimaryLimit response payload = false)
    (hsecondary : client.isSecondaryLimit response payload = true) {delay : Delay}
    (hdelay : baseDelay settings response.headers attempt ≤ delay) :
    client.Honours settings world attempt delay := by
  refine ⟨response, payload, hreply, hpayload, Or.inr ⟨hprimary, hsecondary, ?_, ?_⟩⟩
  · intro retryAfter hheader
    rwa [baseDelay_of_header settings _ attempt hheader] at hdelay
  · intro hheader
    rwa [baseDelay_of_missing settings _ attempt hheader] at hdelay

end

/-- The errors a client raises itself are not the one behind the loop. -/
structure Client.Lawful (client : Client P α) : Prop where
  payload : ∀ response, client.payload response ≠ .error exhausted
  result : ∀ response payload, client.result response payload ≠ .error exhausted

/-- What an attempt can do. -/
theorem Client.turn_cases {client : Client P α} (hlawful : client.Lawful) (attempt : ℕ) :
    (∃ error, client.turn settings world attempt = .finish (.error error) ∧ error ≠ exhausted)
      ∨ (∃ delay, client.turn settings world attempt = .retry delay
        ∧ attempt < settings.maxRetries ∧ client.Honours settings world attempt delay)
      ∨ ∃ value, client.turn settings world attempt = .finish (.ok value)
        ∧ client.Returns world attempt value := by
  unfold Client.turn
  cases hreply : world.reply attempt with
  | none => exact Or.inl ⟨_, rfl, ClientError.noConfusion⟩
  | some response =>
      dsimp only
      cases hpayload : client.payload response with
      | error error =>
          exact Or.inl ⟨error, rfl, fun h => hlawful.payload response (h ▸ hpayload)⟩
      | ok payload =>
          dsimp only
          cases hprimary : client.isPrimaryLimit response payload with
          | true =>
              rw [if_pos rfl]
              rcases retryPrimary_cases settings world client.api response.headers attempt with
                hraises | ⟨delay, hretry, hattempt, hreset⟩
              · exact Or.inl hraises
              · exact Or.inr (Or.inl ⟨delay, hretry, hattempt, response, payload, hreply, hpayload,
                  Or.inl ⟨hprimary, hreset⟩⟩)
          | false =>
              rw [if_neg Bool.false_ne_true]
              cases hsecondary : client.isSecondaryLimit response payload with
              | true =>
                  rw [if_pos rfl]
                  rcases retrySecondary_cases settings world client.api response.headers attempt
                    with hraises | ⟨delay, hretry, hattempt, hdelay⟩
                  · exact Or.inl hraises
                  · exact Or.inr (Or.inl ⟨delay, hretry, hattempt,
                      Client.honours_secondary settings world hreply hpayload hprimary hsecondary
                        hdelay⟩)
              | false =>
                  rw [if_neg Bool.false_ne_true]
                  cases hresult : client.result response payload with
                  | error error =>
                      exact Or.inl ⟨error, rfl,
                        fun h => hlawful.result response payload (h ▸ hresult)⟩
                  | ok value =>
                      exact Or.inr (Or.inr ⟨value, rfl, response, payload, hreply, hpayload,
                        hprimary, hsecondary, hresult⟩)

/-- The loop of a client is a bounded one. -/
theorem Client.bounded_request {client : Client P α} (hlawful : client.Lawful) :
    Bounded settings.maxRetries exhausted (client.Honours settings world) (client.Returns world)
      (client.request settings world) := by
  have hcases := Client.turn_cases settings world hlawful
  refine bounded_retryLoop ?_ ?_ ?_ ?_
  · intro delay hturn
    rcases hcases settings.maxRetries with ⟨error, h, -⟩ | ⟨other, -, hlast, -⟩ | ⟨value, h, -⟩
    · cases hturn.symm.trans h
    · exact absurd hlast (lt_irrefl _)
    · cases hturn.symm.trans h
  · intro attempt delay hturn
    rcases hcases attempt with ⟨error, h, -⟩ | ⟨other, h, -, hhonours⟩ | ⟨value, h, -⟩
    · cases hturn.symm.trans h
    · cases hturn.symm.trans h
      exact hhonours
    · cases hturn.symm.trans h
  · intro attempt hturn
    rcases hcases attempt with ⟨error, h, hne⟩ | ⟨delay, h, -, -⟩ | ⟨value, h, -⟩
    · cases hturn.symm.trans h
      exact hne rfl
    · cases hturn.symm.trans h
    · cases hturn.symm.trans h
  · intro attempt value hturn
    rcases hcases attempt with ⟨error, h, -⟩ | ⟨delay, h, -, -⟩ | ⟨other, h, hreturns⟩
    · cases hturn.symm.trans h
    · cases hturn.symm.trans h
    · cases hturn.symm.trans h
      exact hreturns

end

/-! ## Both clients -/

namespace GitHubRestClient

theorem lawful : client.Lawful where
  payload response h := by
    have hpayload : jsonPayload response = .error exhausted := h
    unfold jsonPayload at hpayload
    split at hpayload <;> cases hpayload
  result response payload h := by
    dsimp only [client] at h
    split at h <;> cases h

/-- The payload is that of the response, which has status 200 and is not rate-limited. -/
def Returns (world : HttpWorld) (attempt : ℕ) (value : Value) : Prop :=
  ∃ response, world.reply attempt = some response ∧ response.statusCode = 200
    ∧ response.body = .ok value ∧ isPrimaryLimit response = false
    ∧ isSecondaryLimit response (message value) = false

theorem body_of_jsonPayload {response : HttpResponse} {payload : Value}
    (h : jsonPayload response = .ok payload) : response.body = .ok payload := by
  unfold jsonPayload at h
  split at h <;> cases h <;> assumption

theorem returns_of_client {world : HttpWorld} {attempt : ℕ} {value : Value}
    (h : client.Returns world attempt value) : Returns world attempt value := by
  obtain ⟨response, payload, hreply, hpayload, hprimary, hsecondary, hresult⟩ := h
  dsimp only [client] at hresult
  split at hresult
  · cases hresult
  · rename_i hstatus
    cases hresult
    exact ⟨response, hreply, not_not.mp hstatus, body_of_jsonPayload hpayload, hprimary,
      hsecondary⟩

end GitHubRestClient

namespace GitHubGraphQLClient

theorem lawful : client.Lawful where
  payload response h := by
    have hpayload : jsonObject response = .error exhausted := h
    unfold jsonObject at hpayload
    split at hpayload <;> cases hpayload
  result response payload h := by
    dsimp only [client] at h
    split at h
    · cases h
    · split at h
      · cases h
      · split at h <;> cases h

/-- The data is that of the response, which has status 200 and is not rate-limited. -/
def Returns (world : HttpWorld) (attempt : ℕ) (data : Members) : Prop :=
  ∃ response payload, world.reply attempt = some response ∧ response.statusCode = 200
    ∧ response.body = .ok (.dict payload) ∧ isPrimaryLimit response (errorMessages payload) = false
    ∧ isSecondaryLimit response (errorMessages payload) = false
    ∧ Python.get payload "data" = some (.dict data)

theorem body_of_jsonObject {response : HttpResponse} {payload : Members}
    (h : jsonObject response = .ok payload) : response.body = .ok (.dict payload) := by
  unfold jsonObject at h
  split at h <;> cases h
  assumption

theorem returns_of_client {world : HttpWorld} {attempt : ℕ} {data : Members}
    (h : client.Returns world attempt data) : Returns world attempt data := by
  obtain ⟨response, payload, hreply, hpayload, hprimary, hsecondary, hresult⟩ := h
  dsimp only [client] at hresult
  split at hresult
  · cases hresult
  · rename_i hstatus
    split at hresult
    · cases hresult
    · split at hresult
      · rename_i hdata
        cases hresult
        exact ⟨response, payload, hreply, not_not.mp hstatus, body_of_jsonObject hpayload, hprimary,
          hsecondary, hdata⟩
      · cases hresult

end GitHubGraphQLClient

/-- **Retries are bounded and honour the server.** A client sends at most one request more than it
may retry, sleeps once between two of them, at least as long as the first response asks for, and
not behind the last one, never leaves the loop without a result, and returns the payload of the
last response, which has status 200 and is not rate-limited. -/
theorem retries_bounded (settings : RetrySettings) (world : HttpWorld) (path : String) :
    Bounded settings.maxRetries exhausted (GitHubRestClient.client.Honours settings world)
        (GitHubRestClient.Returns world) (GitHubRestClient.get settings world path)
      ∧ Bounded settings.maxRetries exhausted (GitHubGraphQLClient.client.Honours settings world)
        (GitHubGraphQLClient.Returns world) (GitHubGraphQLClient.execute settings world) := by
  constructor
  · unfold GitHubRestClient.get
    by_cases hpath : path = ""
    · rw [if_pos hpath]
      exact ⟨Nat.zero_le _, Or.inl rfl, ClientError.noConfusion ∘ Except.error.inj,
        fun _ h => nomatch h⟩
    · rw [if_neg hpath]
      exact (Client.bounded_request settings world GitHubRestClient.lawful).mono
        fun _ _ h => GitHubRestClient.returns_of_client h
  · exact (Client.bounded_request settings world GitHubGraphQLClient.lawful).mono
      fun _ _ h => GitHubGraphQLClient.returns_of_client h

/-- A rate-limited response without a body to speak of, and then an empty object. -/
def limitedOnce : HttpWorld where
  reply attempt := some
    { statusCode := if attempt = 0 then 429 else 200
      headers := if attempt = 0 then [("Retry-After", "2.5")] else []
      body := .ok (.dict []) }
  epochTime _ := 0
  jitter _ _ := 0
  sleeps _ := true
  jitter_nonneg _ _ := le_rfl

example : (GitHubRestClient.get ⟨3, 60, le_rfl⟩ limitedOnce "rate_limit").1
    = [.request 0, .sleep ((5 / 2 : ℚ) : Delay), .request 1] := by decide +kernel

end Backfill
