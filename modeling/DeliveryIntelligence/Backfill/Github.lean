import DeliveryIntelligence.Backfill.Process

set_option autoImplicit false

/-!
# The GraphQL backfill

`backfill/github.py`: the pull requests of a repository in creation order and, for each one in
the window, its reviews and commits, all traversed by opaque cursors. `while True` is a
recursion with fuel; an invocation that runs out of fuel is interrupted. The texts of the
queries are left out: a server is modelled by what it answers to each of them.
-/

namespace Backfill

open Datetime Program

/-! ## Reading responses -/

inductive GraphQLQuery
  | pullRequests
  | reviews
  | commits
  deriving DecidableEq, Repr

/-- `execute(query, variables)`; the second field are the variables. -/
structure GraphQLRequest where
  query : GraphQLQuery
  vars : List (String × Json)

/-- `_required_object` -/
def requiredObject (container : Json) (name : String) : Except BackfillError Json :=
  if isObject (getMember container name) then .ok (getMember container name)
  else .error (.graphQLDataError ("GitHub GraphQL response is missing " ++ name))

/-- `_required_string` -/
def requiredString (container : Json) (name : String) : Except BackfillError String :=
  match nonemptyString container name with
  | some value => .ok value
  | none => .error (.graphQLDataError ("GitHub GraphQL response is missing " ++ name))

/-- `_aware_datetime` -/
def awareDatetime (readers : Readers) (container : Json) (name : String) :
    Except BackfillError Aware :=
  match readers.awareDatetime (getMember container name) with
  | some value => .ok value
  | none => .error (.graphQLDataError ("GitHub GraphQL response has invalid " ++ name))

/-- `_optional_aware_datetime` -/
def optionalAwareDatetime (readers : Readers) (container : Json) (name : String) :
    Except BackfillError (Option Aware) :=
  match getMember container name with
  | .null => .ok none
  | _ => (awareDatetime readers container name).map some

/-- `end_cursor` of a page: a string or null. -/
def endCursorOf (pageInfo : Json) (name : String) : Except BackfillError (Option String) :=
  match getMember pageInfo "endCursor" with
  | .null => .ok none
  | .string cursor => .ok (some cursor)
  | _ => .error (.graphQLDataError (name ++ " pageInfo endCursor must be a string or null"))

/-- `_connection_page`: the nodes, the end cursor and whether another page follows. -/
def connectionPage (container : Json) (name : String) :
    Except BackfillError (List Json × Option String × Bool) := do
  let connection ← requiredObject container name
  let nodes ← (match getMember connection "nodes" with
    | .array nodes =>
        if nodes.all isObject then .ok nodes
        else .error (.graphQLDataError (name ++ " connection is missing object nodes"))
    | _ => .error (.graphQLDataError (name ++ " connection is missing object nodes")))
  let pageInfo ← requiredObject connection "pageInfo"
  match getMember pageInfo "hasNextPage" with
  | .bool hasNextPage => do
      let endCursor ← endCursorOf pageInfo name
      if hasNextPage && endCursor.all (· == "") then
        .error (.graphQLDataError (name ++ " has another page but no endCursor"))
      else return (nodes, endCursor, hasNextPage)
  | _ => .error (.graphQLDataError (name ++ " pageInfo is missing hasNextPage"))

/-- `GitHubPullRequestBackfill.__init__` -/
def GitHubPullRequestBackfill.init (repository : String)
    (repositoryId installationId pageSize : Int) : Except BackfillError Settings :=
  Settings.init "GitHub GraphQL page_size must be between 1 and 100" repository repositoryId
    installationId pageSize

/-- A cursor as a query variable. -/
def cursorVariable : Option String → Json
  | none => .null
  | some cursor => .string cursor

/-! ## Records -/

section

variable (readers : Readers) (settings : Settings)

/-- `_validate_repository` -/
def validateRepository (repository : Json) : Except BackfillError Unit :=
  if equalsInt (getMember repository "databaseId") settings.repositoryId then
    if equalsText (getMember repository "nameWithOwner") settings.repository then .ok ()
    else .error (.graphQLDataError "GitHub repository name does not match configuration")
  else .error (.graphQLDataError "GitHub repository databaseId does not match configuration")

/-- `_pull_request_record` -/
def pullRequestRecord (node : Json) (createdAt : Aware) :
    Except BackfillError BackfillRecord := do
  let nodeId ← requiredString node "id"
  let updatedAt ← awareDatetime readers node "updatedAt"
  let state ← requiredString node "state"
  BackfillRecord.postInit
    { sourceRecordKey := s!"github_graphql:pull_request:{nodeId}:" ++ updatedAt.isoformat
      eventName := "pull_request"
      action := readers.lower state
      repositoryId := settings.repositoryId
      installationId := settings.installationId
      occurredAt := some createdAt
      payload := .object (settings.payload "pull_request" node) }

/-- `_review_record` -/
def reviewRecord (pullRequestId : String) (node : Json) :
    Except BackfillError BackfillRecord := do
  let nodeId ← requiredString node "id"
  let state ← requiredString node "state"
  let submittedAt ← optionalAwareDatetime readers node "submittedAt"
  let occurredAt ← (match submittedAt with
    | some submittedAt => .ok submittedAt
    | none => awareDatetime readers node "updatedAt")
  BackfillRecord.postInit
    { sourceRecordKey :=
        s!"github_graphql:pull_request_review:{nodeId}:" ++ readers.lower state
      eventName := "pull_request_review"
      action := readers.lower state
      repositoryId := settings.repositoryId
      installationId := settings.installationId
      occurredAt := some occurredAt
      payload := .object (settings.payload "pull_request_review" node
        ++ [("pull_request_id", .string pullRequestId)]) }

/-- `_commit_record` -/
def commitRecord (pullRequestId : String) (node : Json) :
    Except BackfillError BackfillRecord := do
  let associationId ← requiredString node "id"
  let commit ← requiredObject node "commit"
  let occurredAt ← awareDatetime readers commit "committedDate"
  BackfillRecord.postInit
    { sourceRecordKey := s!"github_graphql:pull_request_commit:{associationId}"
      eventName := "pull_request_commit"
      action := "associated"
      repositoryId := settings.repositoryId
      installationId := settings.installationId
      occurredAt := some occurredAt
      payload := .object (settings.payload "pull_request_commit" node
        ++ [("pull_request_id", .string pullRequestId)]) }

/-! ## Nested traversals -/

/-- The two connections of a pull request. -/
inductive NestedConnection
  | reviews
  | commits
  deriving DecidableEq, Repr

namespace NestedConnection

def resource : NestedConnection → String
  | .reviews => "pull_request_reviews"
  | .commits => "pull_request_commits"

/-- `connection_name` -/
def connectionName : NestedConnection → String
  | .reviews => "reviews"
  | .commits => "commits"

def query : NestedConnection → GraphQLQuery
  | .reviews => .reviews
  | .commits => .commits

/-- `record_factory` -/
def record (pullRequestId : String) (node : Json) :
    NestedConnection → Except BackfillError BackfillRecord
  | .reviews => reviewRecord readers settings pullRequestId node
  | .commits => commitRecord readers settings pullRequestId node

end NestedConnection

/-- `[record_factory(item) for item in items]` -/
def nestedRecords (pullRequestId : String) (nested : NestedConnection) :
    List Json → Except BackfillError (List BackfillRecord)
  | [] => .ok []
  | item :: rest => do
      let record ← nested.record readers settings pullRequestId item
      let records ← nestedRecords pullRequestId nested rest
      return record :: records

/-- What `_backfill_nested` reads from a response. The error shows the identity with `repr`: here
the quotes without the escapes. -/
def nestedResponse (pullRequestId : String) (nested : NestedConnection) (data : Json) :
    Except BackfillError (List BackfillRecord × Option String × Bool) := do
  let node ← requiredObject data "node"
  if equalsText (getMember node "__typename") "PullRequest" then do
    let (items, endCursor, hasNextPage) ← connectionPage node nested.connectionName
    let records ← nestedRecords readers settings pullRequestId nested items
    return (records, endCursor, hasNextPage)
  else
    .error (.graphQLDataError s!"GitHub node '{pullRequestId}' is not a PullRequest")

/-- The loop of `_backfill_nested`. -/
def nestedLoop (pullRequestId : String) (nested : NestedConnection) (key : BackfillRunKey)
    (cursor : Option String) (summary : BackfillSummary) :
    Nat → Job GraphQLRequest BackfillSummary
  | 0 => .raise .interrupted
  | fuel + 1 => do
      let data ← Job.request
        { query := nested.query
          vars :=
            [ ("pullRequestId", .string pullRequestId)
            , ("pageSize", .number settings.pageSize 0)
            , ("cursor", cursorVariable cursor) ] }
      let (records, endCursor, hasNextPage) ←
        Prog.ofExcept (nestedResponse readers settings pullRequestId nested data)
      let outcome ← Job.persistPage key records (if hasNextPage then endCursor else none)
        (!hasNextPage)
      let summary := summary.plus outcome.summary
      if hasNextPage then nestedLoop pullRequestId nested key endCursor summary fuel
      else return summary

/-- The cursor a traversal starts with. -/
def cursorOf (checkpoint : Option BackfillCheckpoint) : Option String :=
  checkpoint.bind (·.cursor)

/-- `_backfill_nested` -/
def backfillNested (pullRequestId : String) (window : Window) (nested : NestedConnection)
    (fuel : Nat) : Job GraphQLRequest BackfillSummary := do
  let key ← Prog.ofExcept (BackfillRunKey.postInit
    ⟨settings.repositoryId, nested.resource, pullRequestId, window⟩)
  let checkpoint ← Job.loadCheckpoint key
  if isCompleted checkpoint then return .zero
  else nestedLoop readers settings pullRequestId nested key (cursorOf checkpoint) .zero fuel

/-! ## The traversal of pull requests -/

/-- The loop over the pull requests of a response: the records of those in the window, and
whether the end of the window was reached. -/
def pullRequestRecords (window : Window) (fuel : Nat) (summary : BackfillSummary) :
    List Json → Job GraphQLRequest (List BackfillRecord × Bool × BackfillSummary)
  | [] => pure ([], false, summary)
  | node :: rest => do
      let createdAt ← Prog.ofExcept (awareDatetime readers node "createdAt")
      -- `break`: the nodes after this one are not looked at.
      if createdAt.instant ≥ window.windowEnd.instant then return ([], true, summary)
      else if createdAt.instant < window.windowStart.instant then
        pullRequestRecords window fuel summary rest
      else do
        let pullRequestId ← Prog.ofExcept (requiredString node "id")
        let reviews ← backfillNested readers settings pullRequestId window .reviews fuel
        let commits ← backfillNested readers settings pullRequestId window .commits fuel
        let record ← Prog.ofExcept (pullRequestRecord readers settings node createdAt)
        let (records, reachedWindowEnd, summary) ←
          pullRequestRecords window fuel ((summary.plus reviews).plus commits) rest
        return (record :: records, reachedWindowEnd, summary)

/-- What `run` reads from a response before the loop over its nodes. -/
def pullRequestsResponse (data : Json) :
    Except BackfillError (List Json × Option String × Bool) := do
  let repository ← requiredObject data "repository"
  validateRepository settings repository
  connectionPage repository "pullRequests"

/-- The loop of `run`. -/
def pullRequestsLoop (window : Window) (nestedFuel : Nat) (key : BackfillRunKey)
    (cursor : Option String) (summary : BackfillSummary) :
    Nat → Job GraphQLRequest BackfillSummary
  | 0 => .raise .interrupted
  | fuel + 1 => do
      let data ← Job.request
        { query := .pullRequests
          vars :=
            [ ("owner", .string settings.owner)
            , ("name", .string settings.name)
            , ("pageSize", .number settings.pageSize 0)
            , ("cursor", cursorVariable cursor) ] }
      let (nodes, endCursor, hasNextPage) ← Prog.ofExcept (pullRequestsResponse settings data)
      let (records, reachedWindowEnd, summary) ←
        pullRequestRecords readers settings window nestedFuel summary nodes
      let completed := reachedWindowEnd || !hasNextPage
      let outcome ← Job.persistPage key records (if completed then none else endCursor) completed
      let summary := summary.plus outcome.summary
      if completed then return summary
      else pullRequestsLoop window nestedFuel key endCursor summary fuel

/-- `GitHubPullRequestBackfill.run` -/
def runPullRequests (window : Window) (fuel : Nat) : Job GraphQLRequest BackfillSummary := do
  let key ← Prog.ofExcept (BackfillRunKey.postInit
    ⟨settings.repositoryId, "pull_requests", "repository", window⟩)
  let checkpoint ← Job.loadCheckpoint key
  if isCompleted checkpoint then return .zero
  else pullRequestsLoop readers settings window fuel key (cursorOf checkpoint) .zero fuel

end

/-! ## A repository behind opaque cursors -/

/-- The connections a query can page through. -/
inductive Connection
  | pullRequests
  | nested (pullRequestId : String) (nested : NestedConnection)

/-- A repository as the API shows it. Its pull requests are sorted by creation, and a cursor
denotes a position of its connection: `decode` finds the position of each cursor that was
given out. -/
structure Repository (readers : Readers) where
  databaseId : Int
  nameWithOwner : String
  items : Connection → List Json
  sorted : (items .pullRequests).Pairwise fun a b => ∀ ta tb,
    readers.awareDatetime (getMember a "createdAt") = some ta →
    readers.awareDatetime (getMember b "createdAt") = some tb → ta.instant ≤ tb.instant
  encode : Connection → Nat → String
  decode : Connection → String → Option Nat
  decode_encode : ∀ connection n, decode connection (encode connection n) = some n

section

variable {readers : Readers} (repository : Repository readers)

/-- The position a query starts at. -/
def Repository.positionOf (connection : Connection) : Json → Option Nat
  | .null => some 0
  | .string cursor => repository.decode connection cursor
  | _ => none

/-- The `size` nodes from `start`. -/
def Repository.nodes (connection : Connection) (start size : Nat) : List Json :=
  ((repository.items connection).drop start).take size

/-- Whether another page follows, and the cursor of the position after the page: null when the
page is empty. -/
def Repository.pageInfo (connection : Connection) (start size : Nat) : Json :=
  .object
    [ ("hasNextPage", .bool (decide (start + size < (repository.items connection).length)))
    , ("endCursor",
        if (repository.nodes connection start size).isEmpty then .null
        else .string
          (repository.encode connection (start + (repository.nodes connection start size).length))) ]

def Repository.page (connection : Connection) (start size : Nat) : Json :=
  .object
    [ ("nodes", .array (repository.nodes connection start size))
    , ("pageInfo", repository.pageInfo connection start size) ]

/-- The page a query asks for. -/
def Repository.requested (connection : Connection) (vars : List (String × Json)) :
    Option Json :=
  match repository.positionOf connection (getMember (.object vars) "cursor"),
      getMember (.object vars) "pageSize" with
  | some start, .number size 0 => some (repository.page connection start size.toNat)
  | _, _ => none

/-- What the server answers to a query for a connection of a pull request. -/
def Repository.respondNested (nested : NestedConnection) (vars : List (String × Json)) :
    Except BackfillError Json :=
  let pullRequestId := (nonemptyString (.object vars) "pullRequestId").getD ""
  match repository.requested (.nested pullRequestId nested) vars with
  | some page => .ok (.object [("node", .object
      [("__typename", .string "PullRequest"), (nested.connectionName, page)])])
  | none => .error .external

/-- What the server answers; a query it does not understand is an error. -/
def Repository.respond (request : GraphQLRequest) : Except BackfillError Json :=
  match request.query with
  | .pullRequests =>
      match repository.requested .pullRequests request.vars with
      | some page => .ok (.object [("repository", .object
          [ ("databaseId", .number repository.databaseId 0)
          , ("nameWithOwner", .string repository.nameWithOwner)
          , ("pullRequests", page) ])])
      | none => .error .external
  | .reviews => repository.respondNested .reviews request.vars
  | .commits => repository.respondNested .commits request.vars

/-- How one invocation is started. -/
structure GraphQLStart where
  pageSize : Int
  window : Window
  fuel : Nat

/-- Any number of GraphQL backfills of one repository, over any windows and with any page
sizes. -/
def graphQLSystem (settings : Settings) :
    System (BackfillOp GraphQLRequest) BackfillReply BackfillError BackfillSummary
      BackfillTables Unit :=
  backfillSystem repository.respond fun start : GraphQLStart =>
    (Prog.ofExcept (GitHubPullRequestBackfill.init settings.repository settings.repositoryId
        settings.installationId start.pageSize)
      >>= fun configured => runPullRequests readers configured start.window start.fuel, ())

/-- No row, no checkpoint, no invocation. -/
def graphQLPool (settings : Settings) : (graphQLSystem repository settings).Pool :=
  ⟨emptyTables, []⟩

end

/-! ## A repository with two pull requests -/

def samplePullRequest (id createdAt : String) : Json :=
  .object
    [ ("id", .string id), ("createdAt", .string createdAt), ("updatedAt", .string createdAt)
    , ("state", .string "MERGED") ]

def sampleReview (id : String) : Json :=
  .object
    [ ("id", .string id), ("state", .string "APPROVED")
    , ("submittedAt", .string "2026-01-06T00:00:00Z") ]

def sampleCommit (id : String) : Json :=
  .object
    [("id", .string id), ("commit", .object [("committedDate", .string "2026-01-05T00:00:00Z")])]

/-- Each pull request has reviews and commits; the first one two reviews, the second one two
commits. -/
def sampleItems : Connection → List Json
  | .pullRequests =>
      [ samplePullRequest "PR_1" "2026-01-05T00:00:00Z"
      , samplePullRequest "PR_2" "2026-01-06T00:00:00Z" ]
  | .nested "PR_1" .reviews => [sampleReview "PRR_1", sampleReview "PRR_2"]
  | .nested "PR_1" .commits => [sampleCommit "PRC_1"]
  | .nested "PR_2" .reviews => [sampleReview "PRR_3"]
  | .nested "PR_2" .commits => [sampleCommit "PRC_2", sampleCommit "PRC_3"]
  | .nested _ _ => []

/-- Its cursors are as long as the positions they denote. -/
def sampleRepository : Repository sampleReaders where
  databaseId := 7
  nameWithOwner := "acme/api"
  items := sampleItems
  sorted := by
    have hfirst : sampleReaders.awareDatetime
        (getMember (samplePullRequest "PR_1" "2026-01-05T00:00:00Z") "createdAt")
        = some ⟨20458 * microsPerDay, 0⟩ := by rfl
    have hsecond : sampleReaders.awareDatetime
        (getMember (samplePullRequest "PR_2" "2026-01-06T00:00:00Z") "createdAt")
        = some ⟨20459 * microsPerDay, 0⟩ := by rfl
    refine List.pairwise_pair.mpr fun ta tb hta htb => ?_
    rw [hfirst] at hta
    rw [hsecond] at htb
    cases hta
    cases htb
    decide
  encode _ n := String.ofList (List.replicate n '*')
  decode _ cursor := some cursor.toList.length
  decode_encode _ n := by rw [String.toList_ofList, List.length_replicate]

end Backfill
