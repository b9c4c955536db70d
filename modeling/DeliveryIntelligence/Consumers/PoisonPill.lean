import DeliveryIntelligence.Common.Pydantic
import DeliveryIntelligence.Consumers.PrEffects
import DeliveryIntelligence.Consumers.PrMonitor
import DeliveryIntelligence.Consumers.Warehouse

set_option autoImplicit false

/-!
# Which validated messages the storage can take

Three validators follow each other: the pydantic models, `__post_init__` of the commands, and
the column types and `CHECK` constraints of the tables. Positive identities pass all three and
a text that passes the second passes the third; what the models let through and a later
validator rejects is listed in `SnapshotStorable`, `ReviewStorable` and `RawStorable`.
-/

namespace Consumers

open Datetime Monitor Postgres PrStorage RawEvents Warehouse

/-! ## What a message must satisfy -/

/-- The parameters of the statements for a snapshot fit the tables they are written to. -/
def SnapshotFits (p : PullRequestSnapshot) : Prop :=
  enforce watermarkConstraints (p.key, ⟨p.updatedAt, p.deliveryId⟩) = .ok ()
  ∧ (p.state = .open → enforce openPullRequestConstraints (p.key, openRow p) = .ok ())

/-- The parameters of the statements for a command fit the tables they are written to; a review
by the author is not written. -/
def CommandFits : ProjectionCommand → Prop
  | .pullRequest p => SnapshotFits p
  | .submittedReview r => SnapshotFits r.pullRequest
      ∧ (r.eligible = true → enforce firstReviewConstraints (r.key, r.first) = .ok ())

/-- `_projection_command` returns nothing, raises a `ValidationError` or returns a command that
fits. -/
def CommandHarmless (result : Except CommandFailure (Option ProjectionCommand)) : Prop :=
  (∀ text, result ≠ .error (.valueError text)) ∧ ∀ c, result = .ok (some c) → CommandFits c

/-- The envelope stops neither consumer: not the monitor, and not the writer, whose event is
built and fits its table whatever the column defaults are. -/
structure Harmless (parsers : PayloadParsers) (envelope : GitHubEventEnvelope)
    (partition offset : Nat) : Prop where
  command : CommandHarmless (projectionCommand parsers envelope)
  raw : ∃ event, WebhookRawEvent.postInit envelope partition offset
      (extractOccurredAt parsers.toParsers envelope) = .ok event
    ∧ ∀ generated, enforce rawEventConstraints (event.row generated) = .ok ()

/-- The texts of a snapshot that are made of more than what `str.strip` removes, and the values
that fit their columns. Only an open pull request has a row of its own. -/
structure SnapshotStorable (envelope : GitHubEventEnvelope) (pullRequest : PullRequest) :
    Prop where
  texts : Python.hasText envelope.deliveryId = true
    ∧ Python.hasText envelope.repositoryFullName = true
    ∧ Python.hasText pullRequest.title = true ∧ Python.hasText pullRequest.user.login = true
  watermark : fitsBigint envelope.repositoryId = true ∧ fitsBigint pullRequest.id = true
    ∧ fitsText envelope.deliveryId = true
  openRow : pullRequest.state = .open → fitsInteger pullRequest.number = true
    ∧ fitsBigint pullRequest.user.id = true ∧ fitsText envelope.repositoryFullName = true
    ∧ fitsText pullRequest.title = true ∧ fitsText pullRequest.user.login = true

structure ReviewStorable (envelope : GitHubEventEnvelope) (payload : SubmittedReviewPayload) :
    Prop where
  snapshot : SnapshotStorable envelope payload.pullRequest
  login : Python.hasText payload.review.user.login = true
  firstReview : payload.review.user.id ≠ payload.pullRequest.user.id →
    fitsBigint payload.review.id = true ∧ fitsBigint payload.review.user.id = true
    ∧ fitsText payload.review.user.login = true

/-- What the monitor needs of an envelope it makes a command of. -/
def CommandStorable (parsers : PayloadParsers) (envelope : GitHubEventEnvelope) : Prop :=
  match envelope.eventName with
  | .pullRequest => ∀ payload, parsers.pullRequestPayload envelope.payload = some payload →
      SnapshotStorable envelope payload.pullRequest
  | .pullRequestReview => envelope.action = "submitted" →
      ∀ payload, parsers.submittedReviewPayload envelope.payload = some payload →
        ReviewStorable envelope payload
  | _ => True

/-- What the warehouse writer needs of an envelope and its lineage. -/
structure RawStorable (envelope : GitHubEventEnvelope) (partition offset : Nat) : Prop where
  texts : fitsText envelope.deliveryId = true ∧ fitsText envelope.action = true
  identities : fitsBigint envelope.repositoryId = true
    ∧ fitsBigint envelope.installationId = true
  payload : (Json.object envelope.payload).fitsJsonb = true
  lineage : fitsInteger partition = true ∧ fitsBigint offset = true

/-! ## The tables of the projection -/

/-- Positive identities and texts with content pass the checks; the types remain. -/
theorem snapshotFits_iff (p : PullRequestSnapshot) :
    SnapshotFits p ↔ (fitsBigint p.repositoryId = true ∧ fitsBigint p.pullRequestId = true
        ∧ fitsText p.deliveryId = true)
      ∧ (p.state = .open → fitsInteger p.pullRequestNumber = true ∧ fitsBigint p.authorId = true
        ∧ fitsText p.repositoryFullName = true ∧ fitsText p.title = true
        ∧ fitsText p.authorLogin = true) := by
  obtain ⟨hrepository, hpullRequest, hnumber, hauthor⟩ := p.identities_pos
  obtain ⟨hdelivery, hname, htitle, hlogin⟩ := p.texts_nonempty
  have hwatermark : enforce watermarkConstraints (p.key, ⟨p.updatedAt, p.deliveryId⟩) = .ok ()
      ↔ fitsBigint p.repositoryId = true ∧ fitsBigint p.pullRequestId = true
        ∧ fitsText p.deliveryId = true := by
    rw [enforce_iff]
    simp [watermarkConstraints, bigintColumn, textColumn, positiveCheck, nonemptyCheck,
      PullRequestSnapshot.key, hrepository, hpullRequest, Pydantic.nonempty_of_hasText hdelivery]
  have hopen : enforce openPullRequestConstraints (p.key, openRow p) = .ok ()
      ↔ fitsBigint p.repositoryId = true ∧ fitsBigint p.pullRequestId = true
        ∧ fitsInteger p.pullRequestNumber = true ∧ fitsText p.repositoryFullName = true
        ∧ fitsText p.title = true ∧ fitsBigint p.authorId = true
        ∧ fitsText p.authorLogin = true := by
    rw [enforce_iff]
    simp [openPullRequestConstraints, bigintColumn, integerColumn, textColumn, positiveCheck,
      nonemptyCheck, PullRequestSnapshot.key, openRow, OpenPullRequest.reviewFieldsComplete,
      hrepository, hpullRequest, hnumber, hauthor, Pydantic.nonempty_of_hasText hname,
      Pydantic.nonempty_of_hasText htitle, Pydantic.nonempty_of_hasText hlogin]
  unfold SnapshotFits
  rw [hwatermark, hopen]
  constructor
  · rintro ⟨hfits, hrow⟩
    refine ⟨hfits, fun hs => ?_⟩
    obtain ⟨-, -, h1, h2, h3, h4, h5⟩ := hrow hs
    exact ⟨h1, h4, h2, h3, h5⟩
  · rintro ⟨hfits, hrow⟩
    refine ⟨hfits, fun hs => ?_⟩
    obtain ⟨h1, h4, h2, h3, h5⟩ := hrow hs
    exact ⟨hfits.1, hfits.2.1, h1, h2, h3, h4, h5⟩

theorem firstReviewFits_iff (r : SubmittedReview)
    (hkey : fitsBigint r.pullRequest.repositoryId = true
      ∧ fitsBigint r.pullRequest.pullRequestId = true) :
    enforce firstReviewConstraints (r.key, r.first) = .ok ()
      ↔ fitsBigint r.reviewId = true ∧ fitsBigint r.reviewerId = true
        ∧ fitsText r.reviewerLogin = true := by
  obtain ⟨hrepository, hpullRequest, -, -⟩ := r.pullRequest.identities_pos
  obtain ⟨hreview, hreviewer⟩ := r.identities_pos
  rw [enforce_iff]
  simp [firstReviewConstraints, bigintColumn, textColumn, positiveCheck, nonemptyCheck,
    SubmittedReview.key, PullRequestSnapshot.key, SubmittedReview.first, hkey.1, hkey.2,
    hrepository, hpullRequest, hreview, hreviewer, Pydantic.nonempty_of_hasText r.login_nonempty]

/-! ## The commands of the monitor -/

/-- The arguments `_snapshot` passes to `PullRequestSnapshot`. -/
def snapshotFields (envelope : GitHubEventEnvelope) (pullRequest : PullRequest) :
    SnapshotFields where
  deliveryId := envelope.deliveryId
  repositoryId := envelope.repositoryId
  repositoryFullName := envelope.repositoryFullName
  pullRequestId := pullRequest.id
  pullRequestNumber := pullRequest.number
  state := pullRequest.state
  title := pullRequest.title
  authorId := pullRequest.user.id
  authorLogin := pullRequest.user.login
  isDraft := pullRequest.draft
  openedAt := pullRequest.createdAt.instant
  updatedAt := pullRequest.updatedAt.instant

/-- The texts `PullRequestSnapshot.__post_init__` checks. -/
def SnapshotTexts (f : SnapshotFields) : Prop :=
  Python.hasText f.deliveryId = true ∧ Python.hasText f.repositoryFullName = true
    ∧ Python.hasText f.title = true ∧ Python.hasText f.authorLogin = true

instance (f : SnapshotFields) : Decidable (SnapshotTexts f) :=
  inferInstanceAs (Decidable (_ ∧ _))

/-- With positive identities only a blank text is left to reject. -/
theorem postInit_cases {f : SnapshotFields}
    (hid : 0 < f.repositoryId ∧ 0 < f.pullRequestId ∧ 0 < f.pullRequestNumber ∧ 0 < f.authorId) :
    (∃ p, PullRequestSnapshot.postInit f = .ok p ∧ p.toSnapshotFields = f ∧ SnapshotTexts f)
    ∨ (PullRequestSnapshot.postInit f = .error "pull-request text fields must be nonempty"
        ∧ ¬ SnapshotTexts f) := by
  unfold PullRequestSnapshot.postInit
  rw [dif_pos hid]
  by_cases htexts : SnapshotTexts f
  · left
    exact ⟨⟨f, hid, htexts⟩, dif_pos htexts, rfl, htexts⟩
  · right
    exact ⟨dif_neg htexts, htexts⟩

theorem snapshot_cases (envelope : GitHubEventEnvelope) (pullRequest : PullRequest) :
    (∃ p, snapshot envelope pullRequest = .ok p
        ∧ (SnapshotFits p ↔ SnapshotStorable envelope pullRequest)
        ∧ p.authorId = pullRequest.user.id ∧ p.repositoryId = envelope.repositoryId
        ∧ p.pullRequestId = pullRequest.id)
    ∨ (∃ text, snapshot envelope pullRequest = .error (.valueError text)
        ∧ ¬ SnapshotStorable envelope pullRequest) := by
  have hid : 0 < envelope.repositoryId ∧ 0 < pullRequest.id ∧ 0 < pullRequest.number
      ∧ 0 < pullRequest.user.id :=
    ⟨envelope.identities_pos.2, pullRequest.identities_pos.1, pullRequest.identities_pos.2,
      pullRequest.user.id_pos⟩
  have hbuilt : snapshot envelope pullRequest
      = (PullRequestSnapshot.postInit (snapshotFields envelope pullRequest)).mapError .valueError :=
    rfl
  rw [hbuilt]
  rcases postInit_cases (f := snapshotFields envelope pullRequest) hid with
    ⟨p, hp, hfields, htexts⟩ | ⟨hp, htexts⟩
  · left
    refine ⟨p, by rw [hp]; rfl, ?_, by rw [hfields]; rfl, by rw [hfields]; rfl,
      by rw [hfields]; rfl⟩
    rw [snapshotFits_iff, hfields]
    constructor
    · rintro ⟨hwatermark, hopen⟩
      exact ⟨htexts, hwatermark, hopen⟩
    · intro h
      exact ⟨h.watermark, h.openRow⟩
  · right
    exact ⟨_, by rw [hp]; rfl, fun h => htexts h.texts⟩

/-- The command of a payload whose snapshot is given. -/
theorem review_cases (envelope : GitHubEventEnvelope) (payload : SubmittedReviewPayload)
    {built : PullRequestSnapshot}
    (hfits : SnapshotFits built ↔ SnapshotStorable envelope payload.pullRequest)
    (hauthor : built.authorId = payload.pullRequest.user.id) :
    (∃ r, SubmittedReview.postInit
          { pullRequest := built
            reviewId := payload.review.id
            reviewerId := payload.review.user.id
            reviewerLogin := payload.review.user.login
            submittedAt := payload.review.submittedAt.instant } = .ok r
        ∧ (CommandFits (.submittedReview r) ↔ ReviewStorable envelope payload))
    ∨ (∃ text, SubmittedReview.postInit
          { pullRequest := built
            reviewId := payload.review.id
            reviewerId := payload.review.user.id
            reviewerLogin := payload.review.user.login
            submittedAt := payload.review.submittedAt.instant } = .error text
        ∧ ¬ ReviewStorable envelope payload) := by
  have hid : 0 < payload.review.id ∧ 0 < payload.review.user.id :=
    ⟨payload.review.id_pos, payload.review.user.id_pos⟩
  unfold SubmittedReview.postInit
  rw [dif_pos hid]
  by_cases hlogin : Python.hasText payload.review.user.login = true
  · left
    refine ⟨⟨_, hid, hlogin⟩, dif_pos hlogin, ?_⟩
    -- the first-review row is written for reviews of other accounts only
    have heligible : ∀ r : SubmittedReview, r.pullRequest = built →
        r.reviewerId = payload.review.user.id →
        (r.eligible = true ↔ payload.review.user.id ≠ payload.pullRequest.user.id) := by
      rintro r rfl hreviewer
      rw [SubmittedReview.eligible, hreviewer, hauthor, bne_iff_ne]
    unfold CommandFits
    constructor
    · rintro ⟨hsnapshot, hreview⟩
      refine ⟨hfits.mp hsnapshot, hlogin, fun hne => ?_⟩
      have hkey := ((snapshotFits_iff built).mp hsnapshot).1
      exact (firstReviewFits_iff _ ⟨hkey.1, hkey.2.1⟩).mp
        (hreview ((heligible _ rfl rfl).mpr hne))
    · intro h
      have hsnapshot := hfits.mpr h.snapshot
      refine ⟨hsnapshot, fun hel => ?_⟩
      have hkey := ((snapshotFits_iff built).mp hsnapshot).1
      exact (firstReviewFits_iff _ ⟨hkey.1, hkey.2.1⟩).mpr
        (h.firstReview ((heligible _ rfl rfl).mp hel))
  · right
    exact ⟨_, dif_neg hlogin, fun h => hlogin h.login⟩

theorem commandHarmless_of_ok {c : ProjectionCommand} :
    CommandHarmless (.ok (some c)) ↔ CommandFits c := by
  constructor
  · intro h
    exact h.2 c rfl
  · intro h
    refine ⟨fun text heq => (by cases heq), fun c' heq => ?_⟩
    cases heq
    exact h

theorem not_commandHarmless_valueError {text : String} :
    ¬ CommandHarmless (.error (.valueError text)) := fun h => h.1 text rfl

theorem commandHarmless_validation : CommandHarmless (.error .validation) :=
  ⟨fun text heq => (by cases heq), fun c heq => (by cases heq)⟩

theorem commandHarmless_none : CommandHarmless (.ok none) :=
  ⟨fun text heq => (by cases heq), fun c heq => (by cases heq)⟩

/-- A pull-request event makes a command of every valid payload. -/
theorem commandHarmless_pullRequest {parsers : PayloadParsers} {envelope : GitHubEventEnvelope}
    (hname : envelope.eventName = .pullRequest) :
    CommandHarmless (projectionCommand parsers envelope)
      ↔ CommandStorable parsers envelope := by
  unfold projectionCommand CommandStorable
  rw [hname]
  dsimp only
  cases hpayload : parsers.pullRequestPayload envelope.payload with
  | none =>
      constructor
      · intro _ payload hp
        cases hp
      · intro _
        exact commandHarmless_validation
  | some payload =>
      have honly : (∀ p, some payload = some p → SnapshotStorable envelope p.pullRequest)
          ↔ SnapshotStorable envelope payload.pullRequest := by
        simp
      rw [honly]
      rcases snapshot_cases envelope payload.pullRequest with
        ⟨p, hp, hfits, -⟩ | ⟨text, hp, hnot⟩
      · simp only [hp]
        exact commandHarmless_of_ok.trans hfits
      · simp only [hp]
        exact iff_of_false not_commandHarmless_valueError hnot

/-- A review event makes one only where the review is submitted. -/
theorem commandHarmless_review {parsers : PayloadParsers} {envelope : GitHubEventEnvelope}
    (hname : envelope.eventName = .pullRequestReview) :
    CommandHarmless (projectionCommand parsers envelope)
      ↔ CommandStorable parsers envelope := by
  unfold projectionCommand CommandStorable
  rw [hname]
  dsimp only
  by_cases haction : envelope.action = "submitted"
  · rw [if_neg (not_not.mpr haction)]
    cases hpayload : parsers.submittedReviewPayload envelope.payload with
    | none =>
        constructor
        · intro _ _ payload hp
          cases hp
        · intro _
          exact commandHarmless_validation
    | some payload =>
        have honly : (envelope.action = "submitted" →
              ∀ p, some payload = some p → ReviewStorable envelope p)
            ↔ ReviewStorable envelope payload := by
          simp [haction]
        rw [honly]
        rcases snapshot_cases envelope payload.pullRequest with
          ⟨p, hp, hfits, hauthor, -⟩ | ⟨text, hp, hnot⟩
        · rcases review_cases envelope payload hfits hauthor with
            ⟨r, hr, hreview⟩ | ⟨text, hr, hnot⟩
          · simp only [hp]
            show CommandHarmless (Except.mapError _ _ >>= _) ↔ _
            rw [hr]
            exact commandHarmless_of_ok.trans hreview
          · simp only [hp]
            show CommandHarmless (Except.mapError _ _ >>= _) ↔ _
            rw [hr]
            exact iff_of_false not_commandHarmless_valueError hnot
        -- the snapshot of the pull request is built, and fails, before the review is
        · simp only [hp]
          exact iff_of_false not_commandHarmless_valueError fun h => hnot h.snapshot
  · rw [if_pos haction]
    constructor
    · intro _ hsubmitted
      exact absurd hsubmitted haction
    · intro _
      exact commandHarmless_none

theorem commandHarmless_iff (parsers : PayloadParsers) (envelope : GitHubEventEnvelope) :
    CommandHarmless (projectionCommand parsers envelope)
      ↔ CommandStorable parsers envelope := by
  cases hname : envelope.eventName with
  | pullRequest => exact commandHarmless_pullRequest hname
  | pullRequestReview => exact commandHarmless_review hname
  | workflowRun | deployment | deploymentStatus =>
      -- the monitor ignores the other events
      unfold projectionCommand CommandStorable
      rw [hname]
      exact iff_of_true commandHarmless_none trivial

/-! ## The raw event -/

theorem fitsText_eventName (name : GitHubEventName) : fitsText name.text = true := by
  cases name <;> decide

theorem nonempty_eventName (name : GitHubEventName) : nonempty name.text = true := by
  cases name <;> decide

/-- Stripped texts that are not empty and positive identities pass the checks; the types
remain. -/
theorem rawFits_iff (event : WebhookRawEvent) (generated : Generated)
    (hstripped : Pydantic.Stripped event.envelope.deliveryId
      ∧ Pydantic.Stripped event.envelope.action) :
    enforce rawEventConstraints (event.row generated) = .ok ()
      ↔ (fitsText event.envelope.deliveryId = true ∧ fitsText event.envelope.action = true)
        ∧ (fitsBigint event.envelope.repositoryId = true
          ∧ fitsBigint event.envelope.installationId = true)
        ∧ (Json.object event.envelope.payload).fitsJsonb = true
        ∧ fitsInteger event.kafkaPartition = true ∧ fitsBigint event.kafkaOffset = true := by
  have hdelivery := Pydantic.nonempty_of_stripped hstripped.1 event.envelope.texts_nonempty.1
  have haction := Pydantic.nonempty_of_stripped hstripped.2 event.envelope.texts_nonempty.2
  obtain ⟨hinstallation, hrepository⟩ := event.envelope.identities_pos
  obtain ⟨hpartition, hoffset⟩ := event.lineage_nonneg
  rw [enforce_iff]
  simp [rawEventConstraints, WebhookRawEvent.row, textColumn, bigintColumn, jsonbColumn,
    integerColumn, nullable, nonemptyCheck, positiveCheck, fitsText_eventName,
    nonempty_eventName, hdelivery, haction, hinstallation, hrepository, hpartition, hoffset,
    and_assoc]

/-- The writer's part: an event is built, and its row fits. -/
theorem rawHarmless_iff {envelope : GitHubEventEnvelope}
    (hstripped : Pydantic.Stripped envelope.deliveryId ∧ Pydantic.Stripped envelope.action)
    (partition offset : Nat) (occurredAt : Option Aware) :
    (∃ event, WebhookRawEvent.postInit envelope partition offset occurredAt = .ok event
      ∧ ∀ generated, enforce rawEventConstraints (event.row generated) = .ok ())
    ↔ RawStorable envelope partition offset := by
  -- an offset is never negative, so the event is built
  have hlineage : (0 : Int) ≤ partition ∧ (0 : Int) ≤ offset := by omega
  have hbuilt : WebhookRawEvent.postInit envelope partition offset occurredAt
      = .ok ⟨envelope, partition, offset, occurredAt, hlineage⟩ := by
    unfold WebhookRawEvent.postInit
    rw [dif_pos hlineage.1, dif_pos hlineage.2]
  constructor
  · rintro ⟨event, hevent, hall⟩
    rw [hbuilt] at hevent
    cases hevent
    obtain ⟨htexts, hidentities, hpayload, hlineage⟩ :=
      (rawFits_iff _ default hstripped).mp (hall default)
    exact ⟨htexts, hidentities, hpayload, hlineage⟩
  · intro h
    refine ⟨_, hbuilt, fun generated => (rawFits_iff _ generated hstripped).mpr ?_⟩
    exact ⟨h.texts, h.identities, h.payload, h.lineage⟩

/-! ## No poison pill -/

/-- Exactly the messages that meet both conditions stop no consumer. The hypothesis is what
`strip_whitespace=True` promises of the two texts the writer stores. -/
theorem harmless_iff (parsers : PayloadParsers)
    (hstrip : ∀ bytes envelope, parsers.envelope bytes = .ok envelope →
      Pydantic.Stripped envelope.deliveryId ∧ Pydantic.Stripped envelope.action)
    {bytes : Bytes} {envelope : GitHubEventEnvelope}
    (h : validateEnvelope parsers.toParsers (some bytes) = .ok envelope)
    (partition offset : Nat) :
    Harmless parsers envelope partition offset
      ↔ CommandStorable parsers envelope ∧ RawStorable envelope partition offset := by
  have hcommand := commandHarmless_iff parsers envelope
  have hraw := rawHarmless_iff (hstrip bytes envelope h) partition offset
    (extractOccurredAt parsers.toParsers envelope)
  constructor
  · intro hharmless
    exact ⟨hcommand.mp hharmless.command, hraw.mp hharmless.raw⟩
  · rintro ⟨hstorable, hfits⟩
    exact ⟨hcommand.mpr hstorable, hraw.mpr hfits⟩

section Titled

/-- The text of a message about a pull request whose title is written as `title` in it. -/
def titledMessage (title : String) : Bytes :=
  (("\x7b\"schema_version\":1,\"delivery_id\":\"d-1\",\"event_name\":\"pull_request\","
    ++ "\"action\":\"opened\",\"installation_id\":5,\"repository_id\":11,"
    ++ "\"repository_full_name\":\"acme/api\",\"received_at\":\"1970-01-01T00:00:00Z\","
    ++ "\"payload\":\x7b\"pull_request\":\x7b\"id\":21,\"number\":3,\"state\":\"open\","
    ++ "\"title\":\"" ++ title ++ "\",\"user\":\x7b\"id\":7,\"login\":\"dev\"\x7d,\"draft\":false,"
    ++ "\"created_at\":\"1970-01-01T00:00:00Z\",\"updated_at\":\"1970-01-01T00:00:00Z\""
    ++ "\x7d\x7d\x7d").toList.map fun c => c.toNat.toUInt8)

/-- The pull request of that message, and the payload that contains it. -/
def titledPullRequest (title : String) (htitle : title ≠ "") : PullRequest where
  id := 21
  number := 3
  state := .open
  title := title
  user := ⟨7, "dev", by decide, by decide⟩
  draft := false
  createdAt := ⟨0, 0⟩
  updatedAt := ⟨0, 0⟩
  identities_pos := by decide
  title_nonempty := htitle

def titledPayload (title : String) : List (String × Json) :=
  [("pull_request", .object
    [ ("id", .number 21 0), ("number", .number 3 0), ("state", .string "open")
    , ("title", .string title)
    , ("user", .object [("id", .number 7 0), ("login", .string "dev")])
    , ("draft", .bool false), ("created_at", .string "1970-01-01T00:00:00Z")
    , ("updated_at", .string "1970-01-01T00:00:00Z") ])]

def titledEnvelope (title : String) : GitHubEventEnvelope where
  deliveryId := "d-1"
  eventName := .pullRequest
  action := "opened"
  installationId := 5
  repositoryId := 11
  repositoryFullName := "acme/api"
  receivedAt := ⟨0, 0⟩
  payload := titledPayload title
  texts_nonempty := by decide
  identities_pos := by decide

/-- What the parsers return for that message. -/
def titledParsers (title : String) (htitle : title ≠ "") : PayloadParsers where
  envelope _ := .ok (titledEnvelope title)
  datetime _ := some ⟨0, some 0⟩
  jsonLoads _ := .error .decode
  pullRequestPayload _ := some ⟨titledPullRequest title htitle⟩
  submittedReviewPayload _ := none

theorem harmless_addIndex :
    Harmless (titledParsers "Add index" (by decide)) (titledEnvelope "Add index") 0 0 := by
  have hstripped : Pydantic.Stripped "d-1" ∧ Pydantic.Stripped "opened" := by
    decide
  have hvalid : validateEnvelope (titledParsers "Add index" (by decide)).toParsers
      (some (titledMessage "Add index")) = .ok (titledEnvelope "Add index") := rfl
  refine (harmless_iff _ ?_ hvalid 0 0).mpr ⟨?_, ?_⟩
  · rintro bytes envelope hok
    cases hok
    exact hstripped
  · intro payload hpayload
    cases hpayload
    exact ⟨by decide, by decide, by decide⟩
  · exact ⟨by decide, by decide, by decide, by decide⟩

/-- The title `U+001C`: not empty for the model, blank for `str.strip`. -/
def fileSeparator : String := String.ofList [Char.ofNat 28]

theorem fileSeparator_ne : fileSeparator ≠ "" := by decide

theorem fileSeparator_not_harmless :
    (∀ bytes envelope,
        (titledParsers fileSeparator fileSeparator_ne).envelope bytes = .ok envelope →
        Pydantic.Stripped envelope.deliveryId ∧ Pydantic.Stripped envelope.action)
      ∧ validateEnvelope (titledParsers fileSeparator fileSeparator_ne).toParsers
          (some (titledMessage "\\u001c")) = .ok (titledEnvelope fileSeparator)
      ∧ projectionCommand (titledParsers fileSeparator fileSeparator_ne)
          (titledEnvelope fileSeparator)
          = .error (.valueError "pull-request text fields must be nonempty")
      ∧ ¬ Harmless (titledParsers fileSeparator fileSeparator_ne)
          (titledEnvelope fileSeparator) 0 0 := by
  have hbuilt : PullRequestSnapshot.postInit
      (snapshotFields (titledEnvelope fileSeparator)
        (titledPullRequest fileSeparator fileSeparator_ne))
      = .error "pull-request text fields must be nonempty" := by
    unfold PullRequestSnapshot.postInit
    rw [dif_pos (by decide), dif_neg (by decide)]
  have hraises : projectionCommand (titledParsers fileSeparator fileSeparator_ne)
      (titledEnvelope fileSeparator)
      = .error (.valueError "pull-request text fields must be nonempty") := by
    show (Except.mapError CommandFailure.valueError (PullRequestSnapshot.postInit
      (snapshotFields (titledEnvelope fileSeparator)
        (titledPullRequest fileSeparator fileSeparator_ne))) >>= _) = _
    rw [hbuilt]
    rfl
  refine ⟨?_, rfl, hraises, fun hharmless => hharmless.command.1 _ hraises⟩
  rintro bytes envelope hok
  cases hok
  decide

end Titled

end Consumers
