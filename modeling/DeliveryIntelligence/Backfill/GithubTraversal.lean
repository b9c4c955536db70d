import DeliveryIntelligence.Backfill.Coverage
import DeliveryIntelligence.Backfill.Github

set_option autoImplicit false

/-!
# Checkpoint safety of the GraphQL backfill

A cursor is a position of its connection whatever the page size, so every checkpoint stands at
a covered position: of the pull requests before it, those in the window have their record and
the records of all their reviews and commits. Any number of invocations may overwrite each
other's checkpoints, also backwards; each one's own cursor is covered as well, because the raw
table only grows.
-/

namespace Backfill

open Datetime Program RawEvents

/-! ## What a connection has to store -/

theorem NestedConnection.resource_ne (nested : NestedConnection) :
    nested.resource ≠ "pull_requests" := by
  cases nested with
  | reviews => decide
  | commits => decide

theorem NestedConnection.resource_inj {nested nested' : NestedConnection}
    (h : nested.resource = nested'.resource) : nested = nested' := by
  cases nested with
  | reviews =>
      cases nested' with
      | reviews => rfl
      | commits => exact absurd h (by decide)
  | commits =>
      cases nested' with
      | reviews => exact absurd h (by decide)
      | commits => rfl

namespace Connection

def resource : Connection → String
  | .pullRequests => "pull_requests"
  | .nested _ inner => inner.resource

def scope : Connection → String
  | .pullRequests => "repository"
  | .nested pullRequestId _ => pullRequestId

theorem named_inj (c c' : Connection) (hresource : c.resource = c'.resource)
    (hscope : c.scope = c'.scope) : c = c' := by
  cases c with
  | pullRequests =>
      cases c' with
      | pullRequests => rfl
      | nested id inner =>
          have hinner : "pull_requests" = inner.resource := hresource
          exact absurd hinner.symm inner.resource_ne
  | nested id inner =>
      cases c' with
      | pullRequests =>
          have hinner : inner.resource = "pull_requests" := hresource
          exact absurd hinner inner.resource_ne
      | nested id' inner' =>
          have hid : id = id' := hscope
          have hinner : inner.resource = inner'.resource := hresource
          rw [hid, NestedConnection.resource_inj hinner]

end Connection

/-- The review or commit has its record. -/
def NestedLanded (readers : Readers) (settings : Settings) (pullRequestId : String)
    (nested : NestedConnection) (events : RawTable) (item : Json) : Prop :=
  ∃ record, nested.record readers settings pullRequestId item = .ok record
    ∧ Stored events record

section

variable {readers : Readers} (repository : Repository readers) (settings : Settings)

/-- If the pull request was created in the window, it has its record, and so do all its reviews
and commits. -/
def PullRequestLanded (window : Window) (events : RawTable) (node : Json) : Prop :=
  ∀ createdAt, readers.awareDatetime (getMember node "createdAt") = some createdAt →
    window.contains createdAt →
    ∃ pullRequestId record, requiredString node "id" = .ok pullRequestId
      ∧ pullRequestRecord readers settings node createdAt = .ok record ∧ Stored events record
      ∧ ∀ nested, ∀ item ∈ repository.items (.nested pullRequestId nested),
          NestedLanded readers settings pullRequestId nested events item

/-- What a listed node owes. -/
def ConnectionLanded (connection : Connection) (window : Window) (events : RawTable)
    (node : Json) : Prop :=
  match connection with
  | .pullRequests => PullRequestLanded repository settings window events node
  | .nested pullRequestId nested =>
      NestedLanded readers settings pullRequestId nested events node

end

variable {readers : Readers} {repository : Repository readers} {settings : Settings}

theorem NestedLanded.mono {pullRequestId : String} {nested : NestedConnection}
    {events events' : RawTable} {item : Json}
    (h : NestedLanded readers settings pullRequestId nested events item)
    (hext : Extends events events') :
    NestedLanded readers settings pullRequestId nested events' item := by
  obtain ⟨record, hrecord, hstored⟩ := h
  exact ⟨record, hrecord, hstored.mono hext⟩

theorem PullRequestLanded.mono {window : Window} {events events' : RawTable} {node : Json}
    (h : PullRequestLanded repository settings window events node)
    (hext : Extends events events') :
    PullRequestLanded repository settings window events' node := by
  intro createdAt hcreated hin
  obtain ⟨id, record, hid, hrecord, hstored, hnested⟩ := h createdAt hcreated hin
  exact ⟨id, record, hid, hrecord, hstored.mono hext,
    fun nested item hitem => (hnested nested item hitem).mono hext⟩

/-- A pull request created at or after the end of the window owes nothing. -/
theorem pullRequestLanded_of_after {window : Window} {events : RawTable} {node : Json}
    (h : ∀ createdAt, readers.awareDatetime (getMember node "createdAt") = some createdAt →
      window.windowEnd.instant ≤ createdAt.instant) :
    PullRequestLanded repository settings window events node := by
  intro createdAt hcreated hin
  have hbefore : createdAt.instant < window.windowEnd.instant := hin.2
  exact absurd (h createdAt hcreated) (not_le.mpr hbefore)

/-- The traversals of the GraphQL backfill over a repository. -/
def connectionTraversals {readers : Readers} (repository : Repository readers)
    (settings : Settings) : Traversals Connection where
  resource := Connection.resource
  scope := Connection.scope
  named_inj := Connection.named_inj
  items := repository.items
  Landed := ConnectionLanded repository settings
  landed_mono connection window events events' node hext h := by
    cases connection with
    | pullRequests => exact PullRequestLanded.mono h hext
    | nested id nested => exact NestedLanded.mono h hext
  landed_congr connection window window' events node hstart hend h := by
    cases connection with
    | pullRequests =>
        intro createdAt hcreated hin
        exact h createdAt hcreated ((Window.contains_congr hstart hend).mpr hin)
    | nested id nested => exact h

/-- The position of a checkpoint: the end when it is completed, else that of its cursor. -/
def connectionPosition {readers : Readers} (repository : Repository readers)
    (connection : Connection) (cursor : Option String) (status : CheckpointStatus) :
    Option Nat :=
  match status with
  | .completed => some (repository.items connection).length
  | .inProgress => repository.positionOf connection (cursorVariable cursor)

/-- The invariant of the GraphQL backfill. -/
abbrev ConnectionsPlaced {readers : Readers} (repository : Repository readers)
    (settings : Settings) (tables : BackfillTables) : Prop :=
  (connectionTraversals repository settings).Placed settings.repositoryId
    (connectionPosition repository) tables

/-! ## Responses -/

/-- What a connection page that was served tells: the nodes are those from the start, and the
end cursor denotes the position after them. -/
structure PageRead (repository : Repository readers) (connection : Connection) (start size : Nat)
    (nodes : List Json) (endCursor : Option String) (hasNextPage : Bool) : Prop where
  nodes_eq : nodes = repository.nodes connection start size
  last : hasNextPage = false → (repository.items connection).length ≤ start + size
  cursor : hasNextPage = true →
    endCursor = some (repository.encode connection (start + nodes.length))

theorem endCursor_read {connection : Connection} {start size : Nat} {name : String}
    {endCursor : Option String}
    (h : endCursorOf (repository.pageInfo connection start size) name = .ok endCursor) :
    endCursor = none ∨ endCursor = some
      (repository.encode connection (start + (repository.nodes connection start size).length)) := by
  have hmember : getMember (repository.pageInfo connection start size) "endCursor"
      = if (repository.nodes connection start size).isEmpty then .null
        else .string (repository.encode connection
          (start + (repository.nodes connection start size).length)) := rfl
  unfold endCursorOf at h
  rw [hmember] at h
  -- An empty page has a null end cursor.
  by_cases hempty : (repository.nodes connection start size).isEmpty = true
  · rw [if_pos hempty] at h
    cases h
    exact Or.inl rfl
  · rw [if_neg hempty] at h
    cases h
    exact Or.inr rfl

theorem connectionPage_read {container : Json} {name : String} {connection : Connection}
    {start size : Nat} {nodes : List Json} {endCursor : Option String} {hasNextPage : Bool}
    (hpage : getMember container name = repository.page connection start size)
    (hread : connectionPage container name = .ok (nodes, endCursor, hasNextPage)) :
    PageRead repository connection start size nodes endCursor hasNextPage := by
  have hconnection : requiredObject container name
      = .ok (repository.page connection start size) := by
    unfold requiredObject
    rw [hpage]
    rfl
  obtain ⟨found, hfound, hread⟩ := Postgres.bind_eq_ok hread
  rw [hconnection] at hfound
  cases hfound
  obtain ⟨read, hnodes, hread⟩ := Postgres.bind_eq_ok hread
  have hread_eq : read = repository.nodes connection start size := by
    have hmember : getMember (repository.page connection start size) "nodes"
        = .array (repository.nodes connection start size) := rfl
    rw [hmember] at hnodes
    simp only at hnodes
    split at hnodes
    · cases hnodes
      rfl
    · cases hnodes
  subst hread_eq
  obtain ⟨info, hinfo, hread⟩ := Postgres.bind_eq_ok hread
  have hinfo_ok : requiredObject (repository.page connection start size) "pageInfo"
      = .ok (repository.pageInfo connection start size) := rfl
  rw [hinfo_ok] at hinfo
  cases hinfo
  have hnext : getMember (repository.pageInfo connection start size) "hasNextPage"
      = .bool (decide (start + size < (repository.items connection).length)) := rfl
  rw [hnext] at hread
  obtain ⟨read, hcursor, hread⟩ := Postgres.bind_eq_ok hread
  -- The guard of `_connection_page`: another page needs a cursor.
  split at hread
  · cases hread
  · rename_i hguard
    cases hread
    constructor
    · rfl
    · intro hlast
      have hle := of_decide_eq_false hlast
      omega
    · intro hmore
      rw [hmore, Bool.true_and] at hguard
      -- Another page with a null cursor is an error of `_connection_page`.
      rcases endCursor_read hcursor with hnone | hsome
      · rw [hnone] at hguard
        exact absurd rfl hguard
      · exact hsome

theorem requested_eq {connection : Connection} {cursor : Option String} {pageSize : Int}
    {vars : List (String × Json)} {page : Json}
    (hcursor : getMember (.object vars) "cursor" = cursorVariable cursor)
    (hsize : getMember (.object vars) "pageSize" = .number pageSize 0)
    (h : repository.requested connection vars = some page) :
    ∃ start, repository.positionOf connection (cursorVariable cursor) = some start
      ∧ page = repository.page connection start pageSize.toNat := by
  unfold Repository.requested at h
  rw [hcursor, hsize] at h
  cases hstart : repository.positionOf connection (cursorVariable cursor) with
  | none =>
      rw [hstart] at h
      cases h
  | some start =>
      rw [hstart] at h
      cases h
      exact ⟨start, rfl, rfl⟩

/-- What a nested traversal reads from the answer to its query. -/
theorem nestedResponse_read {pullRequestId : String} {nested : NestedConnection}
    {cursor : Option String} {data : Json} {records : List BackfillRecord}
    {endCursor : Option String} {hasNextPage : Bool} (hid : pullRequestId ≠ "")
    (hserve : repository.respond
      { query := nested.query
        vars :=
          [ ("pullRequestId", .string pullRequestId)
          , ("pageSize", .number settings.pageSize 0)
          , ("cursor", cursorVariable cursor) ] } = .ok data)
    (hread : nestedResponse readers settings pullRequestId nested data
      = .ok (records, endCursor, hasNextPage)) :
    ∃ start nodes,
      repository.positionOf (.nested pullRequestId nested) (cursorVariable cursor) = some start
      ∧ PageRead repository (.nested pullRequestId nested) start settings.pageSize.toNat nodes
          endCursor hasNextPage
      ∧ nestedRecords readers settings pullRequestId nested nodes = .ok records := by
  have hserve_nested : repository.respondNested nested
      [ ("pullRequestId", .string pullRequestId)
      , ("pageSize", .number settings.pageSize 0)
      , ("cursor", cursorVariable cursor) ] = .ok data := by
    cases nested with
    | reviews => exact hserve
    | commits => exact hserve
  have hid_read : (nonemptyString (.object
      [ ("pullRequestId", .string pullRequestId)
      , ("pageSize", .number settings.pageSize 0)
      , ("cursor", cursorVariable cursor) ]) "pullRequestId").getD "" = pullRequestId := by
    show (if pullRequestId = "" then none else some pullRequestId).getD "" = pullRequestId
    rw [if_neg hid]
    rfl
  unfold Repository.respondNested at hserve_nested
  simp only [hid_read] at hserve_nested
  split at hserve_nested
  · rename_i page hpage
    cases hserve_nested
    obtain ⟨start, hstart, rfl⟩ := requested_eq rfl rfl hpage
    obtain ⟨node, hnode, hread⟩ := Postgres.bind_eq_ok hread
    cases hnode
    have hconnection : getMember (.object [("__typename", .string "PullRequest"),
        (nested.connectionName, repository.page (.nested pullRequestId nested) start
          settings.pageSize.toNat)]) nested.connectionName
        = repository.page (.nested pullRequestId nested) start settings.pageSize.toNat := by
      cases nested with
      | reviews => rfl
      | commits => rfl
    split at hread
    · obtain ⟨⟨nodes, found, more⟩, hpage_read, hread⟩ := Postgres.bind_eq_ok hread
      obtain ⟨made, hrecords, hread⟩ := Postgres.bind_eq_ok hread
      cases hread
      exact ⟨start, nodes, hstart, connectionPage_read hconnection hpage_read, hrecords⟩
    · cases hread
  · cases hserve_nested

/-- What the traversal of pull requests reads from the answer to its query. -/
theorem pullRequestsResponse_read {cursor : Option String} {data : Json} {nodes : List Json}
    {endCursor : Option String} {hasNextPage : Bool}
    (hserve : repository.respond
      { query := .pullRequests
        vars :=
          [ ("owner", .string settings.owner)
          , ("name", .string settings.name)
          , ("pageSize", .number settings.pageSize 0)
          , ("cursor", cursorVariable cursor) ] } = .ok data)
    (hread : pullRequestsResponse settings data = .ok (nodes, endCursor, hasNextPage)) :
    ∃ start, repository.positionOf .pullRequests (cursorVariable cursor) = some start
      ∧ PageRead repository .pullRequests start settings.pageSize.toNat nodes endCursor
          hasNextPage := by
  unfold Repository.respond at hserve
  simp only at hserve
  split at hserve
  · rename_i page hpage
    cases hserve
    obtain ⟨start, hstart, rfl⟩ := requested_eq rfl rfl hpage
    refine ⟨start, hstart, ?_⟩
    obtain ⟨found, hfound, hread⟩ := Postgres.bind_eq_ok hread
    obtain ⟨_, -, hread⟩ := Postgres.bind_eq_ok hread
    cases hfound
    exact connectionPage_read rfl hread
  · cases hserve

end Backfill
