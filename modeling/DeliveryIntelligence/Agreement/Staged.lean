import DeliveryIntelligence.Agreement.Events
import DeliveryIntelligence.Consumers.Warehouse
import DeliveryIntelligence.Dbt.Rows

set_option autoImplicit false

/-!
# The events in the warehouse

The writer lands the events of a log in `raw.github_events`, in any order and with any duplicates,
and the staging models read them back: every staged row is the row of an event, and every event has
one (`staged_of_landing`).
-/

namespace Agreement

open Consumers Monitor Postgres Warehouse
open PrStorage (PullRequestKey SubmittedReview)
open RawEvents (RawEvent RawTable Generated insertRow Extends)
open Dbt (Server GithubEvent Staged)

variable {parsers : PayloadParsers}

/-! ## Landing -/

/-- The inserts of the writer, one after the other. -/
def insertAll (deliveries : List (WebhookRawEvent × Generated)) (table : RawTable) :
    Except Error RawTable :=
  deliveries.foldlM
    (fun table (event, generated) => (insertRow (event.row generated) table).map Prod.fst) table

/-- The envelopes of the deliveries are those of the events, each once or more. -/
def Delivered (events : List (Event parsers)) (deliveries : List (WebhookRawEvent × Generated)) :
    Prop :=
  ∀ envelope, (∃ delivery ∈ deliveries, delivery.1.envelope = envelope)
    ↔ ∃ e ∈ events, e.envelope = envelope

/-- A raw row holds the webhook of an event. -/
structure Carries (e : Event parsers) (row : RawEvent) : Prop where
  eventName : row.eventName = e.envelope.eventName.text
  repositoryId : row.repositoryId = e.envelope.repositoryId
  payload : row.payload = .object e.envelope.payload

/-- The raw rows are those of the events. -/
structure Landed (events : List (Event parsers)) (rows : List RawEvent) : Prop where
  only : ∀ row ∈ rows, ∃ e ∈ events, Carries e row
  all : ∀ e ∈ events, ∃ row ∈ rows, Carries e row

/-- The row a delivery inserts has the source and the delivery id for its key. -/
theorem key_row (event : WebhookRawEvent) (generated : Generated) :
    (event.row generated).key = (.webhook, event.envelope.deliveryId) := rfl

/-- The inserts keep every row, leave a row for each delivery and add no other. -/
theorem insertAll_ok {deliveries : List (WebhookRawEvent × Generated)} {table table' : RawTable}
    (h : insertAll deliveries table = .ok table') :
    Extends table table'
    ∧ (∀ delivery ∈ deliveries, ∃ stored,
        table'.lookup (delivery.1.row delivery.2).key = some stored)
    ∧ ∀ k stored, table'.lookup k = some stored →
        table.lookup k = some stored
        ∨ ∃ delivery ∈ deliveries, k = (delivery.1.row delivery.2).key
          ∧ stored = delivery.1.row delivery.2 := by
  induction deliveries generalizing table with
  | nil =>
      cases h
      exact ⟨Extends.refl _, fun _ hmem => absurd hmem List.not_mem_nil,
        fun k stored hstored => Or.inl hstored⟩
  | cons first rest ih =>
      obtain ⟨next, hfirst, hrest⟩ := bind_eq_ok h
      obtain ⟨⟨_, returned⟩, hinsert, rfl⟩ := map_eq_ok_iff.mp hfirst
      obtain ⟨hextends, ⟨stored, hstored⟩, honly, -⟩ := RawEvents.insertRow_ok hinsert
      obtain ⟨hextends', hall', honly'⟩ := ih hrest
      refine ⟨hextends.trans hextends', fun delivery hdelivery => ?_, fun k row hrow => ?_⟩
      · rcases List.mem_cons.mp hdelivery with rfl | hmem
        · exact ⟨stored, hextends' _ _ hstored⟩
        · exact hall' delivery hmem
      · rcases honly' k row hrow with hold | ⟨delivery, hmem, hk, rfl⟩
        · rcases honly k row hold with hbefore | ⟨hk, rfl⟩
          · exact Or.inl hbefore
          · exact Or.inr ⟨first, List.mem_cons_self, hk, rfl⟩
        · exact Or.inr ⟨delivery, List.mem_cons_of_mem _ hmem, hk, rfl⟩

/-- Whatever the order and the duplicates, the table holds the webhooks of the log. -/
theorem landed_of_insertAll {server : Server} {events : List (Event parsers)}
    {deliveries : List (WebhookRawEvent × Generated)} {table : RawTable} {rows : List RawEvent}
    (hconsistent : Consistent server events) (hdelivered : Delivered events deliveries)
    (h : insertAll deliveries ∅ = .ok table) (hrows : rows.Perm (table.rows.map Prod.snd)) :
    Landed events rows := by
  obtain ⟨-, hall, honly⟩ := insertAll_ok h
  have hmem : ∀ row, row ∈ rows ↔ ∃ k, table.lookup k = some row := by
    intro row
    rw [hrows.mem_iff, List.mem_map]
    constructor
    · rintro ⟨⟨k, row'⟩, hin, rfl⟩
      exact ⟨k, Table.mem_rows.mp hin⟩
    · rintro ⟨k, hk⟩
      exact ⟨(k, row), Table.mem_rows.mpr hk, rfl⟩
  have hsource : ∀ k row, table.lookup k = some row → ∃ e ∈ events,
      k = (.webhook, e.envelope.deliveryId) ∧ Carries e row := by
    intro k row hk
    rcases honly k row hk with hempty | ⟨⟨event, generated⟩, hdelivery, hkey, rfl⟩
    · simp at hempty
    · obtain ⟨e, he, henvelope⟩ := (hdelivered event.envelope).mp ⟨_, hdelivery, rfl⟩
      rw [key_row, ← henvelope] at hkey
      refine ⟨e, he, hkey, ?_, ?_, ?_⟩
      · rw [henvelope]
        rfl
      · rw [henvelope]
        rfl
      · rw [henvelope]
        rfl
  constructor
  · intro row hrow
    obtain ⟨k, hk⟩ := (hmem row).mp hrow
    obtain ⟨e, he, -, hcarries⟩ := hsource k row hk
    exact ⟨e, he, hcarries⟩
  · intro e he
    obtain ⟨⟨event, generated⟩, hdelivery, henvelope⟩ := (hdelivered e.envelope).mpr ⟨e, he, rfl⟩
    obtain ⟨stored, hstored⟩ := hall _ hdelivery
    refine ⟨stored, (hmem stored).mpr ⟨_, hstored⟩, ?_⟩
    obtain ⟨e', he', hkey, hcarries⟩ := hsource _ stored hstored
    -- the stored row may be of another delivery of the same webhook
    have hdelivery : e.envelope.deliveryId = e'.envelope.deliveryId := by
      rw [key_row, henvelope] at hkey
      exact (Prod.mk.inj hkey).2
    have hsame := hconsistent.delivery e he e' he' hdelivery
    constructor
    · rw [hsame.eventName]
      exact hcarries.eventName
    · rw [hsame.repositoryId]
      exact hcarries.repositoryId
    · rw [hsame.payload]
      exact hcarries.payload

/-! ## Staged rows -/

/-- The row of `stg_github__pull_requests` of an event. -/
structure IsPullRequestRow (server : Server) (e : Event parsers) (row : Dbt.PullRequestSnapshot) :
    Prop where
  repositoryId : row.repositoryId = e.snapshot.repositoryId
  key_eq : row.pullRequestKey = some e.keyText
  number : row.pullRequestNumber = some e.snapshot.pullRequestNumber
  nodeId : row.pullRequestNodeId = e.nodeId server
  state : row.pullRequestState = some (stateText e.state)
  authorLogin : row.authorLogin = some e.snapshot.authorLogin
  createdAt : row.createdAt = some e.snapshot.openedAt
  updatedAt : row.updatedAt = some e.updatedAt
  merged : row.mergedAt.isSome = true → e.IsMerged server

/-- `repository_id::text || ':' || review_id` -/
def Event.reviewKeyText (e : Event parsers) (r : SubmittedReview) : String :=
  toString e.snapshot.repositoryId ++ ":" ++ toString r.reviewId

/-- The row of `stg_github__reviews` of an event. -/
structure IsReviewRow (server : Server) (e : Event parsers) (r : SubmittedReview)
    (row : Dbt.ReviewSnapshot) : Prop where
  repositoryId : row.repositoryId = e.snapshot.repositoryId
  key_eq : row.reviewKey = some (e.reviewKeyText r)
  number : row.pullRequestNumber = some e.snapshot.pullRequestNumber
  nodeId : row.pullRequestNodeId = e.nodeId server
  state : ∃ text ∈ ["approved", "changes_requested", "commented"], row.reviewState = some text
  reviewerLogin : row.reviewerLogin = some r.reviewerLogin
  submittedAt : row.submittedAt = some r.submittedAt

section

variable {server : Server}

/-- A cast that is not null decides the `coalesce` it begins. -/
theorem coalesceCasts_of_ok {α : Type} {first : Except Error (Option α)} {value : α}
    (h : first = .ok (some value)) (rest : List (Except Error (Option α))) :
    Dbt.coalesceCasts (first :: rest) = .ok (some value) := by
  rw [h]
  rfl

/-- A value that two casts coalesce to is the value of one of the texts. -/
theorem isSome_of_coalesceCasts {α : Type} {type : String} {read : String → Option α}
    {text text' : Option String} {value : Option α}
    (h : Dbt.coalesceCasts [Dbt.cast type read text, Dbt.cast type read text'] = .ok value)
    (hvalue : value.isSome = true) : text.isSome = true ∨ text'.isSome = true := by
  cases text with
  | some text => exact Or.inl rfl
  | none =>
      cases text' with
      | some text' => exact Or.inr rfl
      | none =>
          cases h
          cases hvalue

theorem Event.keyText_eq {e : Event parsers} {event : GithubEvent}
    (hpayload : event.payload = .object e.envelope.payload)
    (hrepository : event.repositoryId = e.envelope.repositoryId) (hreads : ReadsAlike server e) :
    Dbt.pullRequestKey server event = some e.keyText := by
  have hnumber := hreads.number
  unfold Event.text at hnumber
  unfold Dbt.pullRequestKey Dbt.repositoryKey Event.keyText
  rw [hpayload, hnumber, hrepository, e.repositoryId_eq]
  rfl

/-- The number is a text that PostgreSQL reads back. -/
theorem ReadsAlike.number_cast {e : Event parsers} (hreads : ReadsAlike server e) :
    Dbt.cast "integer" server.integer (e.text server ["pull_request", "number"])
      = .ok (some e.snapshot.pullRequestNumber) := by
  rw [hreads.number]
  simp only [Dbt.cast, hreads.integer]

/-- A pull_request event is staged as its row. -/
theorem isPullRequestRow {e : Event parsers} {event : GithubEvent} {row : Dbt.PullRequestSnapshot}
    (hreview : e.review = none) (hreads : ReadsAlike server e)
    (hpayload : event.payload = .object e.envelope.payload)
    (hrepository : event.repositoryId = e.envelope.repositoryId)
    (h : Dbt.pullRequestSnapshot server event = .ok row) : IsPullRequestRow server e row := by
  have hpull := hreads.pullRequest hreview
  have hkey := Event.keyText_eq hpayload hrepository hreads
  have hnumber := hreads.number_cast
  have hnodeId : e.nodeId server = Query.coalesce [e.text server ["pull_request", "node_id"],
      Dbt.nodeId (e.text server ["pull_request", "id"])] := by
    unfold Event.nodeId
    rw [hreview]
  have hauthor : ∀ other, Query.coalesce [e.text server ["pull_request", "user", "login"], other]
      = some e.snapshot.authorLogin := by
    intro other
    rw [hpull.authorLogin]
    rfl
  unfold Dbt.pullRequestSnapshot at h
  rw [hpayload] at h
  -- the casts in the order of the select list
  obtain ⟨id, -, h⟩ := bind_eq_ok h
  obtain ⟨number, hnumber', h⟩ := bind_eq_ok h
  obtain ⟨isDraft, -, h⟩ := bind_eq_ok h
  obtain ⟨authorId, -, h⟩ := bind_eq_ok h
  obtain ⟨createdAt, hcreatedAt, h⟩ := bind_eq_ok h
  obtain ⟨updatedAt, hupdatedAt, h⟩ := bind_eq_ok h
  obtain ⟨closedAt, -, h⟩ := bind_eq_ok h
  obtain ⟨mergedAt, hmergedAt, h⟩ := bind_eq_ok h
  obtain ⟨additions, -, h⟩ := bind_eq_ok h
  obtain ⟨deletions, -, h⟩ := bind_eq_ok h
  obtain ⟨changedFiles, -, h⟩ := bind_eq_ok h
  -- three of the values are those of the event
  obtain rfl : some e.snapshot.pullRequestNumber = number :=
    Except.ok.inj (hnumber.symm.trans hnumber')
  obtain rfl : some e.snapshot.openedAt = createdAt :=
    Except.ok.inj ((coalesceCasts_of_ok hpull.createdAt _).symm.trans hcreatedAt)
  obtain rfl : some e.updatedAt = updatedAt :=
    Except.ok.inj ((coalesceCasts_of_ok hpull.updatedAt _).symm.trans hupdatedAt)
  cases h
  exact
    { repositoryId := hrepository.trans e.repositoryId_eq.symm
      key_eq := hkey
      number := rfl
      nodeId := hnodeId.symm
      state := hpull.state
      authorLogin := hauthor _
      createdAt := rfl
      updatedAt := rfl
      merged := isSome_of_coalesceCasts hmergedAt }

/-- A review event is staged as its row. -/
theorem isReviewRow {e : Event parsers} {r : SubmittedReview} {event : GithubEvent}
    {row : Dbt.ReviewSnapshot} (hreview : e.review = some r) (hreads : ReadsAlike server e)
    (hpayload : event.payload = .object e.envelope.payload)
    (hrepository : event.repositoryId = e.envelope.repositoryId)
    (h : Dbt.reviewSnapshot server event = .ok row) : IsReviewRow server e r row := by
  have hreads_r := hreads.review r hreview
  have hnumber := hreads.number_cast
  have hnodeId : e.nodeId server = Query.coalesce [e.text server ["pull_request", "node_id"],
      e.text server ["pull_request_id"]] := by
    unfold Event.nodeId
    rw [hreview]
  -- the first text of each `coalesce` is there, so the others do not matter
  have hid : ∀ rest, Query.coalesce (e.text server ["review", "id"] :: rest)
      = some (toString r.reviewId) := by
    intro rest
    rw [hreads_r.id]
    rfl
  have hlogin : ∀ other, Query.coalesce [e.text server ["review", "user", "login"], other]
      = some r.reviewerLogin := by
    intro other
    rw [hreads_r.reviewerLogin]
    rfl
  have hstate : ∀ other, ∃ text ∈ ["approved", "changes_requested", "commented"],
      (Query.coalesce [e.text server ["review", "state"], other]).map server.lower
        = some text := by
    intro other
    obtain ⟨text, hmem, hlower⟩ := hreads_r.state
    obtain ⟨raw, hraw, hlow⟩ := Option.map_eq_some_iff.mp hlower
    refine ⟨text, hmem, ?_⟩
    rw [hraw, ← hlow]
    rfl
  unfold Dbt.reviewSnapshot at h
  rw [hpayload] at h
  obtain ⟨id, -, h⟩ := bind_eq_ok h
  obtain ⟨number, hnumber', h⟩ := bind_eq_ok h
  obtain ⟨reviewerId, -, h⟩ := bind_eq_ok h
  obtain ⟨submittedAt, hsubmittedAt, h⟩ := bind_eq_ok h
  obtain ⟨updatedAt, -, h⟩ := bind_eq_ok h
  obtain rfl : some e.snapshot.pullRequestNumber = number :=
    Except.ok.inj (hnumber.symm.trans hnumber')
  obtain rfl : some r.submittedAt = submittedAt :=
    Except.ok.inj ((coalesceCasts_of_ok hreads_r.submittedAt _).symm.trans hsubmittedAt)
  cases h
  refine
    { repositoryId := hrepository.trans e.repositoryId_eq.symm
      key_eq := ?_
      number := rfl
      nodeId := hnodeId.symm
      state := hstate _
      reviewerLogin := hlogin _
      submittedAt := rfl }
  show Dbt.repositoryKey event.repositoryId _ = _
  rw [hrepository, ← e.repositoryId_eq]
  exact congrArg (Dbt.repositoryKey e.snapshot.repositoryId) (hid _)

/-- The staged rows are those of the events. -/
structure IsStaged (server : Server) (events : List (Event parsers)) (staged : Staged) : Prop where
  pullRequest : ∀ row ∈ staged.pullRequests,
    ∃ e ∈ events, e.review = none ∧ IsPullRequestRow server e row
  pullRequests : ∀ e ∈ events, e.review = none →
    ∃ row ∈ staged.pullRequests, IsPullRequestRow server e row
  review : ∀ row ∈ staged.reviews,
    ∃ e ∈ events, ∃ r, e.review = some r ∧ IsReviewRow server e r row
  reviews : ∀ e ∈ events, ∀ r, e.review = some r →
    ∃ row ∈ staged.reviews, IsReviewRow server e r row

/-- The event name tells which staging model reads an event. -/
theorem eventName_of_text {name name' : GitHubEventName} (h : name.text = name'.text) :
    name = name' := by
  revert h
  cases name <;> cases name' <;> decide

theorem stage_iff {ρ : Type} {eventName : String} {typed : GithubEvent → Except Error ρ}
    {rows : List RawEvent} {staged : List ρ}
    (h : Dbt.stage server eventName typed rows = .ok staged) :
    (∀ row ∈ staged, ∃ raw ∈ rows, ∃ event, raw.eventName = eventName
      ∧ event.payload = raw.payload ∧ event.repositoryId = raw.repositoryId
      ∧ typed event = .ok row)
    ∧ ∀ raw ∈ rows, raw.eventName = eventName → ∃ row ∈ staged, ∃ event : GithubEvent,
      event.payload = raw.payload ∧ event.repositoryId = raw.repositoryId
      ∧ typed event = .ok row := by
  constructor
  · intro row hrow
    obtain ⟨event, hevent, htyped⟩ := mem_of_mapM h hrow
    obtain ⟨hin, hname⟩ := List.mem_filter.mp hevent
    obtain ⟨raw, hraw, rfl⟩ := List.mem_map.mp hin
    exact ⟨raw, hraw, _, of_decide_eq_true hname, rfl, rfl, htyped⟩
  · intro raw hraw hname
    obtain ⟨row, hrow, htyped⟩ := exists_of_mapM h
      (List.mem_filter.mpr ⟨List.mem_map.mpr ⟨raw, hraw, rfl⟩, decide_eq_true hname⟩)
    exact ⟨row, hrow, _, rfl, rfl, htyped⟩

/-- **Every staged row is the row of an event, and every event is staged.** -/
theorem staged_of_landing {events : List (Event parsers)} {rows : List RawEvent} {staged : Staged}
    (hreads : ∀ e ∈ events, ReadsAlike server e) (hlanded : Landed events rows)
    (h : Dbt.staging server rows = .ok staged) : IsStaged server events staged := by
  have hfrom := Dbt.staging_iff.mp h
  obtain ⟨hpull, hpulls⟩ := stage_iff hfrom.pullRequests
  obtain ⟨hreview, hreviews⟩ := stage_iff hfrom.reviews
  constructor
  · intro row hrow
    obtain ⟨raw, hraw, event, hname, hpayload, hrepository, htyped⟩ := hpull row hrow
    obtain ⟨e, he, hcarries⟩ := hlanded.only raw hraw
    have hnone : e.review = none := e.review_eq_none_iff.mpr
      (eventName_of_text (hcarries.eventName.symm.trans hname))
    exact ⟨e, he, hnone, isPullRequestRow hnone (hreads e he) (hpayload.trans hcarries.payload)
      (hrepository.trans hcarries.repositoryId) htyped⟩
  · intro e he hnone
    obtain ⟨raw, hraw, hcarries⟩ := hlanded.all e he
    have hname : raw.eventName = "pull_request" := by
      rw [hcarries.eventName, e.review_eq_none_iff.mp hnone]
      rfl
    obtain ⟨row, hrow, event, hpayload, hrepository, htyped⟩ := hpulls raw hraw hname
    exact ⟨row, hrow, isPullRequestRow hnone (hreads e he) (hpayload.trans hcarries.payload)
      (hrepository.trans hcarries.repositoryId) htyped⟩
  · intro row hrow
    obtain ⟨raw, hraw, event, hname, hpayload, hrepository, htyped⟩ := hreview row hrow
    obtain ⟨e, he, hcarries⟩ := hlanded.only raw hraw
    obtain ⟨r, hr⟩ := e.exists_review_iff.mpr
      (eventName_of_text (hcarries.eventName.symm.trans hname))
    exact ⟨e, he, r, hr, isReviewRow hr (hreads e he) (hpayload.trans hcarries.payload)
      (hrepository.trans hcarries.repositoryId) htyped⟩
  · intro e he r hr
    obtain ⟨raw, hraw, hcarries⟩ := hlanded.all e he
    have hname : raw.eventName = "pull_request_review" := by
      rw [hcarries.eventName, e.exists_review_iff.mp ⟨r, hr⟩]
      rfl
    obtain ⟨row, hrow, event, hpayload, hrepository, htyped⟩ := hreviews raw hraw hname
    exact ⟨row, hrow, isReviewRow hr (hreads e he) (hpayload.trans hcarries.payload)
      (hrepository.trans hcarries.repositoryId) htyped⟩

end

end Agreement
