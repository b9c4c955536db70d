import DeliveryIntelligence.Webhook.RoundTrip

set_option autoImplicit false

/-!
# Unauthenticated requests

A request without the digest of its body is rejected before its payload is looked at, with 413 or
401 by the length of the body alone, unless its header has a character outside ASCII, where
`compare_digest` raises (`rejected_iff`).
-/

namespace Webhook

open Consumers Datetime Pydantic

/-- The characters of a hex digest. -/
def hexDigits : List Char := "0123456789abcdef".toList

/-- What `hexdigest` of `hmac` returns. -/
def WebhookSettings.Digests (settings : WebhookSettings) : Prop :=
  ∀ body, ∀ c ∈ (settings.hexdigest body).toList, c ∈ hexDigits

def isAscii (s : String) : Bool := s.toList.all fun c => decide (c.toNat < 128)

/-- The body of a request in one piece. -/
def Request.body (request : Request) : Bytes := request.chunks.flatten

/-- The signature is missing or another one than that of the body. -/
def Unauthenticated (settings : WebhookSettings) (request : Request) : Prop :=
  request.signature ≠ some ("sha256=" ++ settings.hexdigest request.body)

/-- The status of a request that is not let in. -/
def rejectionStatus (settings : WebhookSettings) (length : Nat) : Nat :=
  if settings.webhookMaxBodyBytes < length then 413 else 401

/-- Whatever the parsers, the clock and the producer do, the handler raises an `HTTPException`
before there is an envelope, and publishes nothing. -/
def RejectedCleanly (settings : WebhookSettings) (request : Request) : Prop :=
  ∃ detail, ∀ runtime now,
    prepare runtime settings now request
        = .error (.http (rejectionStatus settings request.body.length) detail)
    ∧ ∀ producer, receiveGithubWebhook runtime settings producer now request
        = ([], some (.rejected (rejectionStatus settings request.body.length) detail))

/-! ## The body -/

/-- The chunks do not matter, only their sum does. -/
theorem readLimitedBody_eq {maximumBytes : Nat} {body : Bytes} (hbody : body.length ≤ maximumBytes)
    (chunks : List Bytes) :
    readLimitedBody maximumBytes body chunks
      = if maximumBytes < (body ++ chunks.flatten).length then
          .error (.http 413 "webhook request body is too large")
        else .ok (body ++ chunks.flatten) := by
  induction chunks generalizing body with
  | nil =>
      rw [List.flatten_nil, List.append_nil, if_neg (by omega)]
      rfl
  | cons chunk chunks ih =>
      rw [readLimitedBody, List.flatten_cons, ← List.append_assoc]
      by_cases hlong : maximumBytes < (body ++ chunk).length
      · -- what follows the chunk does not make the body any shorter
        have hall : maximumBytes < (body ++ chunk ++ chunks.flatten).length := by
          rw [List.length_append]
          omega
        rw [if_pos hlong, if_pos hall]
      · rw [if_neg hlong]
        exact ih (by omega)

theorem readLimitedBody_request (settings : WebhookSettings) (request : Request) :
    readLimitedBody settings.webhookMaxBodyBytes [] request.chunks
      = if settings.webhookMaxBodyBytes < request.body.length then
          .error (.http 413 "webhook request body is too large")
        else .ok request.body :=
  readLimitedBody_eq (Nat.zero_le _) request.chunks

/-! ## The signature -/

theorem isAscii_of_mem_hexDigits {s : String} (h : ∀ c ∈ s.toList, c ∈ hexDigits) :
    isAscii s = true := by
  have hdigits : hexDigits.all (fun c => decide (c.toNat < 128)) = true := by decide
  exact List.all_eq_true.mpr fun c hc => List.all_eq_true.mp hdigits c (h c hc)

theorem isAscii_append (s t : String) : isAscii (s ++ t) = (isAscii s && isAscii t) := by
  unfold isAscii
  rw [String.toList_append, List.all_append]

theorem compareDigest_eq (a b : String) :
    compareDigest a b
      = if (isAscii a && isAscii b) = true then .ok (a == b) else .error .typeError := by
  unfold compareDigest isAscii
  rw [List.all_append]

section

variable {settings : WebhookSettings} {request : Request}

/-- A wrong signature is compared with the expected one only if it is ASCII. -/
theorem checkSignature_eq (hdigests : settings.Digests) (h : Unauthenticated settings request) :
    checkSignature settings request.body request.signature
      = if request.signature.all isAscii then .error (.http 401 "invalid webhook signature")
        else .error .typeError := by
  unfold Unauthenticated at h
  unfold checkSignature
  cases hsignature : request.signature with
  | none => rfl
  | some signature =>
      have hexpected : isAscii ("sha256=" ++ settings.hexdigest request.body) = true := by
        rw [isAscii_append, isAscii_of_mem_hexDigits (hdigests request.body)]
        decide
      have hne : ("sha256=" ++ settings.hexdigest request.body == signature) = false := by
        rw [beq_eq_false_iff_ne]
        rintro rfl
        exact h hsignature
      have hcompare : hasValidSignature settings request.body signature
          = if isAscii signature = true then .ok false else .error .typeError := by
        unfold hasValidSignature
        rw [compareDigest_eq, hexpected, hne, Bool.true_and]
      simp only [hcompare, Option.all_some]
      by_cases hascii : isAscii signature = true
      · rw [if_pos hascii, if_pos hascii]
        rfl
      · rw [if_neg hascii, if_neg hascii]
        rfl

/-! ## The request -/

/-- An `HTTPException` before the envelope is the answer. -/
theorem receive_of_prepare_error {runtime : Runtime} {now : Aware} {raised : Raised}
    (h : prepare runtime settings now request = .error raised) (producer : Producer) :
    receiveGithubWebhook runtime settings producer now request = ([], some (.ofRaised raised)) := by
  unfold receiveGithubWebhook
  rw [h]

/-- How an unauthenticated request leaves the first two checks. -/
theorem prepare_unauthenticated (hdigests : settings.Digests)
    (h : Unauthenticated settings request) (runtime : Runtime) (now : Aware) :
    prepare runtime settings now request
      = if settings.webhookMaxBodyBytes < request.body.length then
          .error (.http 413 "webhook request body is too large")
        else if request.signature.all isAscii then .error (.http 401 "invalid webhook signature")
        else .error .typeError := by
  unfold prepare
  rw [readLimitedBody_request]
  by_cases hlong : settings.webhookMaxBodyBytes < request.body.length
  · rw [if_pos hlong, if_pos hlong]
    rfl
  · rw [if_neg hlong, if_neg hlong]
    show (checkSignature settings request.body request.signature >>= _) = _
    rw [checkSignature_eq hdigests h]
    by_cases hascii : request.signature.all isAscii = true
    · rw [if_pos hascii, if_pos hascii]
      rfl
    · rw [if_neg hascii, if_neg hascii]
      rfl

/-- **Unauthenticated requests** are rejected cleanly exactly if they are too long or their
signature, if they have one, is ASCII. -/
theorem rejected_iff (hdigests : settings.Digests) (h : Unauthenticated settings request) :
    RejectedCleanly settings request
      ↔ settings.webhookMaxBodyBytes < request.body.length
        ∨ ∀ signature ∈ request.signature, isAscii signature = true := by
  have hprepare := prepare_unauthenticated hdigests h
  have hrejected : ∀ {status : Nat} {detail : String},
      status = rejectionStatus settings request.body.length →
      (∀ runtime now, prepare runtime settings now request = .error (.http status detail)) →
      RejectedCleanly settings request := by
    rintro status detail rfl hall
    exact ⟨detail, fun runtime now =>
      ⟨hall runtime now, receive_of_prepare_error (hall runtime now)⟩⟩
  by_cases hlong : settings.webhookMaxBodyBytes < request.body.length
  · simp only [if_pos hlong] at hprepare
    exact iff_of_true (hrejected (if_pos hlong).symm hprepare) (Or.inl hlong)
  · simp only [if_neg hlong] at hprepare
    rw [or_iff_right hlong]
    by_cases hascii : request.signature.all isAscii = true
    · simp only [if_pos hascii] at hprepare
      exact iff_of_true (hrejected (if_neg hlong).symm hprepare)
        ((Option.all_eq_true _ _).mp hascii)
    · simp only [if_neg hascii] at hprepare
      refine iff_of_false ?_ fun hall => hascii ((Option.all_eq_true _ _).mpr hall)
      rintro ⟨detail, hall⟩
      have hstatus := (hall (notedRuntime .none .null "") ⟨0, 0⟩).1
      have hsame := (hprepare (notedRuntime .none .null "") ⟨0, 0⟩).symm.trans hstatus
      cases hsame

end

/-- The settings of a receiver that has seen one body. -/
def guardedSettings : WebhookSettings where
  hexdigest _ := "77325902caca812dc259733aacd046b73817372c777b8d95b402647474516e13"
  webhookMaxBodyBytes := 1048576
  publishTimeout := 5000000

theorem digests_guarded : guardedSettings.Digests := by
  have hall : (guardedSettings.hexdigest []).toList.all (fun c => decide (c ∈ hexDigits)) = true :=
    by decide +kernel
  exact fun _ c hc => of_decide_eq_true (List.all_eq_true.mp hall c hc)

/-- The body is an empty object, in two chunks. -/
def guardedRequest (signature : String) : Request where
  chunks := [[123], [125]]
  signature := some signature
  event := some "deployment"
  delivery := some "d-1"

/-- A digest of zeros is answered with 401. -/
theorem rejected_iff_zeros :
    RejectedCleanly guardedSettings (guardedRequest "sha256=00") :=
  (rejected_iff digests_guarded (by unfold Unauthenticated; decide +kernel)).mpr
    (Or.inr fun signature h => by cases h; decide)

/-- The byte E9 in the header is answered with 500. -/
theorem latin1_signature_unhandled :
    Unauthenticated guardedSettings (guardedRequest "sha256=é")
      ∧ (∀ producer, receiveGithubWebhook (notedRuntime .none .null "") guardedSettings producer
          ⟨0, 0⟩ (guardedRequest "sha256=é") = ([], some (.unhandled .typeError)))
      ∧ ¬ RejectedCleanly guardedSettings (guardedRequest "sha256=é") := by
  have hprepare : prepare (notedRuntime .none .null "") guardedSettings ⟨0, 0⟩
      (guardedRequest "sha256=é") = .error .typeError := rfl
  refine ⟨by unfold Unauthenticated; decide +kernel, receive_of_prepare_error hprepare, ?_⟩
  rintro ⟨detail, hall⟩
  cases hprepare.symm.trans (hall (notedRuntime .none .null "") ⟨0, 0⟩).1

end Webhook
