import DeliveryIntelligence.Dbt.Rows

set_option autoImplicit false

/-!
# The two ingestion paths of a pull request

A state of a pull request reaches `raw.github_events` as a webhook payload or as a node of the
backfill query, and the two spell most columns differently. `int_pr_lifecycle` resolves the same
row whichever path each state took and in whatever order the events came
(`resolution_of_landing`).
-/

namespace Dbt

open Postgres Query
open RawEvents (RawEvent Source)

variable {server : Server}

/-! ## True states -/

inductive Status
  | opened
  | closed (closedAt : Timestamp)
  | merged (closedAt mergedAt : Timestamp) (mergeCommitSha : String)
  deriving DecidableEq

def Status.closedAt : Status → Option Timestamp
  | .opened => none
  | .closed closedAt | .merged closedAt _ _ => some closedAt

def Status.mergedAt : Status → Option Timestamp
  | .merged _ mergedAt _ => some mergedAt
  | _ => none

def Status.mergeCommitSha : Status → Option String
  | .merged _ _ sha => some sha
  | _ => none

/-- What GitHub shows of a pull request at one time. -/
structure TrueState where
  updatedAt : Timestamp
  status : Status
  title : String
  isDraft : Bool
  baseRefName : String
  headRefName : String
  additions : Int
  deletions : Int
  changedFiles : Int
  deriving DecidableEq

/-- The states of one pull request: they differ in their times, and a merge is final. -/
structure History where
  repositoryId : Int
  number : Int
  createdAt : Timestamp
  authorLogin : Option String
  states : List TrueState
  states_ne_nil : states ≠ []
  updatedAt_distinct : (states.map (·.updatedAt)).Nodup
  merged_stays : ∀ state ∈ states, ∀ closedAt mergedAt sha,
    state.status = .merged closedAt mergedAt sha → ∀ later ∈ states,
      state.updatedAt ≤ later.updatedAt → ∃ closedAt', later.status = .merged closedAt' mergedAt sha

/-- `repository_id::text || ':' || number` -/
def History.key (history : History) : String :=
  toString history.repositoryId ++ ":" ++ toString history.number

/-! ## Spellings -/

/-- Where a payload has the columns that the two paths spell differently. -/
structure Spelling where
  isDraft : List String
  authorLogin : List String
  createdAt : List String
  updatedAt : List String
  closedAt : List String
  mergedAt : List String
  baseRefName : List String
  headRefName : List String
  mergeCommitSha : List String
  changedFiles : List String

/-- The `pull_request` object of a webhook. -/
def webhookSpelling : Spelling where
  isDraft := ["draft"]
  authorLogin := ["user", "login"]
  createdAt := ["created_at"]
  updatedAt := ["updated_at"]
  closedAt := ["closed_at"]
  mergedAt := ["merged_at"]
  baseRefName := ["base", "ref"]
  headRefName := ["head", "ref"]
  mergeCommitSha := ["merge_commit_sha"]
  changedFiles := ["changed_files"]

/-- A node of `_PULL_REQUESTS_QUERY`. -/
def backfillSpelling : Spelling where
  isDraft := ["isDraft"]
  authorLogin := ["author", "login"]
  createdAt := ["createdAt"]
  updatedAt := ["updatedAt"]
  closedAt := ["closedAt"]
  mergedAt := ["mergedAt"]
  baseRefName := ["baseRefName"]
  headRefName := ["headRefName"]
  mergeCommitSha := ["mergeCommit", "oid"]
  changedFiles := ["changedFiles"]

/-- The column of a payload at a path below `pull_request`. -/
def column (server : Server) (payload : Json) (path : List String) : Option String :=
  textAt server payload ("pull_request" :: path)

/-- A payload shows a state in one spelling, and has nothing in the other. The merge commit counts
when the pull request is merged. -/
structure Shows (server : Server) (own other : Spelling) (stateName : Status → String)
    (history : History) (state : TrueState) (payload : Json) : Prop where
  number : column server payload ["number"] = some (toString history.number)
  state_eq : (column server payload ["state"]).map server.lower = some (stateName state.status)
  title : column server payload ["title"] = some state.title
  isDraft : cast "boolean" server.boolean (column server payload own.isDraft)
    = .ok (some state.isDraft)
  authorLogin : column server payload own.authorLogin = history.authorLogin
  createdAt : cast "timestamptz" server.timestamptz (column server payload own.createdAt)
    = .ok (some history.createdAt)
  updatedAt : cast "timestamptz" server.timestamptz (column server payload own.updatedAt)
    = .ok (some state.updatedAt)
  closedAt : cast "timestamptz" server.timestamptz (column server payload own.closedAt)
    = .ok state.status.closedAt
  mergedAt : cast "timestamptz" server.timestamptz (column server payload own.mergedAt)
    = .ok state.status.mergedAt
  baseRefName : column server payload own.baseRefName = some state.baseRefName
  headRefName : column server payload own.headRefName = some state.headRefName
  mergeCommitSha : ∀ sha, state.status.mergeCommitSha = some sha →
    column server payload own.mergeCommitSha = some sha
  additions : cast "integer" server.integer (column server payload ["additions"])
    = .ok (some state.additions)
  deletions : cast "integer" server.integer (column server payload ["deletions"])
    = .ok (some state.deletions)
  changedFiles : cast "integer" server.integer (column server payload own.changedFiles)
    = .ok (some state.changedFiles)
  nothing_else : ∀ path ∈ [other.isDraft, other.authorLogin, other.createdAt, other.updatedAt,
    other.closedAt, other.mergedAt, other.baseRefName, other.headRefName, other.mergeCommitSha,
    other.changedFiles], column server payload path = none

/-- The state a webhook names: a merged pull request is `closed`. -/
def webhookState : Status → String
  | .opened => "open"
  | _ => "closed"

/-- The state the backfill names, in lower case. -/
def backfillState : Status → String
  | .opened => "open"
  | .closed _ => "closed"
  | .merged _ _ _ => "merged"

/-- An event that lands a state of the pull request, by one of the two paths. -/
structure Lands (server : Server) (history : History) (state : TrueState) (event : RawEvent) :
    Prop where
  eventName : event.eventName = "pull_request"
  repositoryId : event.repositoryId = history.repositoryId
  payload : event.source = .webhook
      ∧ Shows server webhookSpelling backfillSpelling webhookState history state event.payload
    ∨ event.source = .backfill
      ∧ Shows server backfillSpelling webhookSpelling backfillState history state event.payload

/-- The pull request events under the key of the history land its states, and each state landed. -/
structure Landing (server : Server) (history : History) (events : List RawEvent) : Prop where
  only : ∀ event ∈ events, event.eventName = "pull_request" →
    repositoryKey event.repositoryId (column server event.payload ["number"]) = some history.key →
    ∃ state ∈ history.states, Lands server history state event
  all : ∀ state ∈ history.states, ∃ event ∈ events, Lands server history state event

/-! ## Staged snapshots -/

/-- The row of an event that shows a state. -/
structure IsSnapshotOf (history : History) (state : TrueState) (row : PullRequestSnapshot) :
    Prop where
  state_eq : row.pullRequestState = some (webhookState state.status)
    ∨ row.pullRequestState = some (backfillState state.status)
  title : row.title = some state.title
  isDraft : row.isDraft = state.isDraft
  authorLogin : row.authorLogin = history.authorLogin
  createdAt : row.createdAt = some history.createdAt
  updatedAt : row.updatedAt = some state.updatedAt
  closedAt : row.closedAt = state.status.closedAt
  mergedAt : row.mergedAt = state.status.mergedAt
  baseRefName : row.baseRefName = some state.baseRefName
  headRefName : row.headRefName = some state.headRefName
  mergeCommitSha : ∀ sha, state.status.mergeCommitSha = some sha → row.mergeCommitSha = some sha
  additions : row.additions = some state.additions
  deletions : row.deletions = some state.deletions
  changedFiles : row.changedFiles = some state.changedFiles

/-- One of the two paths: its own spelling and the other one. -/
def IsPath (own other : Spelling) : Prop :=
  own = webhookSpelling ∧ other = backfillSpelling
    ∨ own = backfillSpelling ∧ other = webhookSpelling

/-- A coalesced column holds what the payload has in its own spelling. -/
theorem coalesce_of_path {own other : Spelling} (hpath : IsPath own other)
    (path : Spelling → List String) {payload : Json} {value : Option String}
    (hown : column server payload (path own) = value)
    (hother : column server payload (path other) = none) :
    coalesce [column server payload (path webhookSpelling),
      column server payload (path backfillSpelling)] = value := by
  rcases hpath with ⟨rfl, rfl⟩ | ⟨rfl, rfl⟩
  · rw [hown, hother]
    cases value <;> rfl
  · rw [hown, hother]
    cases value <;> rfl

theorem coalesceCasts_of_path {α : Type} {own other : Spelling} (hpath : IsPath own other)
    (path : Spelling → List String) {payload : Json} {type : String} {read : String → Option α}
    {value : Option α} (hown : cast type read (column server payload (path own)) = .ok value)
    (hother : column server payload (path other) = none) (rest : List (Except Error (Option α)))
    (hvalue : value.isSome ∨ rest = []) :
    coalesceCasts (cast type read (column server payload (path webhookSpelling))
      :: cast type read (column server payload (path backfillSpelling)) :: rest) = .ok value := by
  rcases hpath with ⟨rfl, rfl⟩ | ⟨rfl, rfl⟩ <;> rw [hown, hother] <;> cases value with
  | some found => rfl
  | none =>
      rw [hvalue.resolve_left (by simp)]
      rfl

/-- An event that shows a state is staged as a snapshot of it. -/
theorem isSnapshotOf {own other : Spelling} (hpath : IsPath own other)
    {stateName : Status → String} (hname : stateName = webhookState ∨ stateName = backfillState)
    {history : History} {state : TrueState} {event : GithubEvent} {row : PullRequestSnapshot}
    (h : pullRequestSnapshot server event = .ok row)
    (hshows : Shows server own other stateName history state event.payload) :
    IsSnapshotOf history state row := by
  have hother := hshows.nothing_else
  simp only [List.forall_mem_cons] at hother
  obtain ⟨hnoDraft, hnoLogin, hnoCreated, hnoUpdated, hnoClosed, hnoMerged, hnoBase, hnoHead,
    hnoSha, hnoChanged, -⟩ := hother
  unfold pullRequestSnapshot at h
  obtain ⟨id, -, h⟩ := bind_eq_ok h
  obtain ⟨number, -, h⟩ := bind_eq_ok h
  obtain ⟨isDraft, hisDraft, h⟩ := bind_eq_ok h
  obtain ⟨authorId, -, h⟩ := bind_eq_ok h
  obtain ⟨createdAt, hcreatedAt, h⟩ := bind_eq_ok h
  obtain ⟨updatedAt, hupdatedAt, h⟩ := bind_eq_ok h
  obtain ⟨closedAt, hclosedAt, h⟩ := bind_eq_ok h
  obtain ⟨mergedAt, hmergedAt, h⟩ := bind_eq_ok h
  obtain ⟨additions, hadditions, h⟩ := bind_eq_ok h
  obtain ⟨deletions, hdeletions, h⟩ := bind_eq_ok h
  obtain ⟨changedFiles, hchangedFiles, h⟩ := bind_eq_ok h
  -- A column that reads two paths finds a value on one of them and nothing on the other.
  have hisDraft' := coalesceCasts_of_path hpath Spelling.isDraft hshows.isDraft hnoDraft []
    (Or.inr rfl)
  have hcreatedAt' := coalesceCasts_of_path hpath Spelling.createdAt hshows.createdAt hnoCreated
    [.ok event.occurredAt] (Or.inl rfl)
  have hupdatedAt' := coalesceCasts_of_path hpath Spelling.updatedAt hshows.updatedAt hnoUpdated []
    (Or.inr rfl)
  have hclosedAt' := coalesceCasts_of_path hpath Spelling.closedAt hshows.closedAt hnoClosed []
    (Or.inr rfl)
  have hmergedAt' := coalesceCasts_of_path hpath Spelling.mergedAt hshows.mergedAt hnoMerged []
    (Or.inr rfl)
  have hchangedFiles' := coalesceCasts_of_path hpath Spelling.changedFiles hshows.changedFiles
    hnoChanged [] (Or.inr rfl)
  -- The row was built from these values.
  obtain rfl : some state.isDraft = isDraft := Except.ok.inj (hisDraft'.symm.trans hisDraft)
  obtain rfl : some history.createdAt = createdAt :=
    Except.ok.inj (hcreatedAt'.symm.trans hcreatedAt)
  obtain rfl : some state.updatedAt = updatedAt :=
    Except.ok.inj (hupdatedAt'.symm.trans hupdatedAt)
  obtain rfl : state.status.closedAt = closedAt := Except.ok.inj (hclosedAt'.symm.trans hclosedAt)
  obtain rfl : state.status.mergedAt = mergedAt := Except.ok.inj (hmergedAt'.symm.trans hmergedAt)
  obtain rfl : some state.additions = additions :=
    Except.ok.inj (hshows.additions.symm.trans hadditions)
  obtain rfl : some state.deletions = deletions :=
    Except.ok.inj (hshows.deletions.symm.trans hdeletions)
  obtain rfl : some state.changedFiles = changedFiles :=
    Except.ok.inj (hchangedFiles'.symm.trans hchangedFiles)
  cases h
  exact
    { state_eq := by
        rcases hname with rfl | rfl
        · exact Or.inl hshows.state_eq
        · exact Or.inr hshows.state_eq
      title := hshows.title
      isDraft := rfl
      authorLogin := coalesce_of_path hpath Spelling.authorLogin hshows.authorLogin hnoLogin
      createdAt := rfl
      updatedAt := rfl
      closedAt := rfl
      mergedAt := rfl
      baseRefName := coalesce_of_path hpath Spelling.baseRefName hshows.baseRefName hnoBase
      headRefName := coalesce_of_path hpath Spelling.headRefName hshows.headRefName hnoHead
      mergeCommitSha := fun sha hsha =>
        coalesce_of_path hpath Spelling.mergeCommitSha (hshows.mergeCommitSha sha hsha) hnoSha
      additions := rfl
      deletions := rfl
      changedFiles := rfl }

/-! ## Resolution -/

/-- The columns of `int_pr_lifecycle` that do not depend on the path. -/
structure Resolution where
  pullRequestState : Option String
  isMerged : Truth
  isClosed : Truth
  createdAt : Option Timestamp
  updatedAt : Option Timestamp
  closedAt : Option Timestamp
  mergedAt : Option Timestamp
  resolvedAt : Option Timestamp
  lifecycleSeconds : Option Int
  title : Option String
  isDraft : Bool
  authorLogin : Option String
  baseRefName : Option String
  headRefName : Option String
  additions : Option Int
  deletions : Option Int
  changedFiles : Option Int
  /-- of a merged pull request -/
  mergeCommitSha : Option String
  deriving DecidableEq

def PullRequest.resolution (row : PullRequest) : Resolution where
  pullRequestState := row.pullRequestState
  isMerged := row.isMerged
  isClosed := row.isClosed
  createdAt := row.createdAt
  updatedAt := row.updatedAt
  closedAt := row.closedAt
  mergedAt := row.mergedAt
  resolvedAt := row.resolvedAt
  lifecycleSeconds := row.lifecycleSeconds
  title := row.title
  isDraft := row.isDraft
  authorLogin := row.authorLogin
  baseRefName := row.baseRefName
  headRefName := row.headRefName
  additions := row.additions
  deletions := row.deletions
  changedFiles := row.changedFiles
  mergeCommitSha := if holds row.isMerged then row.mergeCommitSha else none

/-- What the last state of a pull request resolves to. -/
def TrueState.resolution (history : History) (last : TrueState) : Resolution where
  pullRequestState := some (backfillState last.status)
  isMerged := some (backfillState last.status = "merged")
  isClosed := some (backfillState last.status ≠ "open")
  createdAt := some history.createdAt
  updatedAt := some last.updatedAt
  closedAt := last.status.closedAt
  mergedAt := last.status.mergedAt
  resolvedAt := last.status.mergedAt.or last.status.closedAt
  lifecycleSeconds := secondsBetween (last.status.mergedAt.or last.status.closedAt)
    (some history.createdAt)
  title := some last.title
  isDraft := last.isDraft
  authorLogin := history.authorLogin
  baseRefName := some last.baseRefName
  headRefName := some last.headRefName
  additions := some last.additions
  deletions := some last.deletions
  changedFiles := some last.changedFiles
  mergeCommitSha := last.status.mergeCommitSha

/-- The state with the latest `updated_at`. -/
structure IsLast (history : History) (last : TrueState) : Prop where
  mem : last ∈ history.states
  latest : ∀ state ∈ history.states, state.updatedAt ≤ last.updatedAt

theorem isLast_unique {history : History} {last last' : TrueState} (h : IsLast history last)
    (h' : IsLast history last') : last = last' :=
  List.inj_on_of_nodup_map history.updatedAt_distinct h.mem h'.mem
    (le_antisymm (h'.latest last h.mem) (h.latest last' h'.mem))

/-- The staged rows of the pull request are snapshots of its states, and each state has one. -/
structure Snapshots (history : History) (group : List PullRequestSnapshot) : Prop where
  only : ∀ row ∈ group, ∃ state ∈ history.states, IsSnapshotOf history state row
  all : ∀ state ∈ history.states, ∃ row ∈ group, IsSnapshotOf history state row

/-- A merge that was seen is a merge of the last state. -/
theorem mergedAt_of_group {history : History} {group : List PullRequestSnapshot}
    (hgroup : Snapshots history group) {last : TrueState} (hlast : IsLast history last)
    {latest : PullRequestSnapshot} (hlatest : IsSnapshotOf history last latest) :
    coalesce [latest.mergedAt, maximum compare (group.map (·.mergedAt))]
      = last.status.mergedAt := by
  rw [hlatest.mergedAt]
  cases hstatus : last.status.mergedAt with
  | some mergedAt => rfl
  | none =>
      rw [maximum_eq_none]
      · rfl
      · intro mergedAt hmem
        obtain ⟨row, hrow, hmerged⟩ := List.mem_map.mp hmem
        obtain ⟨state, hstate, hshows⟩ := hgroup.only row hrow
        rw [hshows.mergedAt] at hmerged
        cases hstateStatus : state.status with
        | opened => simp [hstateStatus, Status.mergedAt] at hmerged
        | closed closedAt => simp [hstateStatus, Status.mergedAt] at hmerged
        | merged closedAt mergedAt sha =>
            obtain ⟨closedAt', hlastStatus⟩ := history.merged_stays state hstate closedAt mergedAt
              sha hstateStatus last hlast.mem (hlast.latest state hstate)
            rw [hlastStatus] at hstatus
            cases hstatus

theorem createdAt_of_group {history : History} {group : List PullRequestSnapshot}
    (hgroup : Snapshots history group) {last : TrueState} (hlast : IsLast history last) :
    minimum compare (group.map (·.createdAt)) = some history.createdAt := by
  obtain ⟨row, hrow, hshows⟩ := hgroup.all last hlast.mem
  refine minimum_eq_some (List.mem_map.mpr ⟨row, hrow, hshows.createdAt⟩) ?_
  intro createdAt hmem
  obtain ⟨other, hother, hcreated⟩ := List.mem_map.mp hmem
  obtain ⟨state, -, hshows'⟩ := hgroup.only other hother
  rw [hshows'.createdAt] at hcreated
  rw [Option.some.inj hcreated]
  exact Std.ReflCmp.isLE_rfl

theorem updatedAt_of_group {history : History} {group : List PullRequestSnapshot}
    (hgroup : Snapshots history group) {last : TrueState} (hlast : IsLast history last) :
    maximum compare (group.map (·.updatedAt)) = some last.updatedAt := by
  obtain ⟨row, hrow, hshows⟩ := hgroup.all last hlast.mem
  refine maximum_eq_some (List.mem_map.mpr ⟨row, hrow, hshows.updatedAt⟩) ?_
  intro updatedAt hmem
  obtain ⟨other, hother, hupdated⟩ := List.mem_map.mp hmem
  obtain ⟨state, hstate, hshows'⟩ := hgroup.only other hother
  rw [hshows'.updatedAt] at hupdated
  rw [← Option.some.inj hupdated]
  exact Std.isLE_compare.mpr (hlast.latest state hstate)

/-- The latest snapshot is the last state. -/
theorem latest_of_group {history : History} {group : List PullRequestSnapshot}
    (hgroup : Snapshots history group) {latest : PullRequestSnapshot}
    (hfirst : firstBy pullRequestOrder group = some latest) :
    ∃ last, IsLast history last ∧ IsSnapshotOf history last latest := by
  obtain ⟨last, hmem, hlatest⟩ := hgroup.only latest (firstBy_mem hfirst)
  refine ⟨last, ⟨hmem, fun state hstate => ?_⟩, hlatest⟩
  obtain ⟨row, hrow, hshows⟩ := hgroup.all state hstate
  have hle := isLE_of_compareLex (firstBy_isLE hfirst row hrow)
  have hchanged : (nullsLast compare
      (coalesce [row.updatedAt, row.mergedAt, row.closedAt, row.occurredAt, some row.ingestedAt])
      (coalesce [latest.updatedAt, latest.mergedAt, latest.closedAt, latest.occurredAt,
        some latest.ingestedAt])).isLE := hle
  rw [hshows.updatedAt, hlatest.updatedAt] at hchanged
  exact Std.isLE_compare.mp hchanged

/-- One resolved row shows the last state, whatever path its snapshots took. -/
theorem resolution_eq {history : History} {group : List PullRequestSnapshot}
    (hgroup : Snapshots history group) {last : TrueState} (hlast : IsLast history last)
    {latest : PullRequestSnapshot} (hlatest : IsSnapshotOf history last latest) (key : String) :
    (resolvedPullRequest key latest (pullRequestRollup server group)).resolution
      = last.resolution history := by
  have hcreated := createdAt_of_group hgroup hlast
  have hupdated := updatedAt_of_group hgroup hlast
  have hmerged := mergedAt_of_group hgroup hlast hlatest
  have hclosed := hlatest.closedAt
  unfold PullRequest.resolution resolvedPullRequest TrueState.resolution pullRequestRollup
  simp only [hcreated, hupdated, hmerged, hclosed, hlatest.title, hlatest.isDraft,
    hlatest.authorLogin, hlatest.baseRefName, hlatest.headRefName, hlatest.additions,
    hlatest.deletions, hlatest.changedFiles]
  have hsha := hlatest.mergeCommitSha
  rcases hlatest.state_eq with hstate | hstate <;> cases hstatus : last.status <;>
    simp [hstate, hstatus, hsha, webhookState, backfillState, Status.closedAt, Status.mergedAt,
      Status.mergeCommitSha, equal, either, holds, secondsBetween, coalesce]

/-- The rows of `int_pr_lifecycle` under the key of a pull request. -/
def lifecycleOf (server : Server) (history : History) (rows : List PullRequestSnapshot) :
    List PullRequest :=
  (intPrLifecycle server rows).filter fun row => row.pullRequestKey = history.key

section

variable {history : History} {events events' : List RawEvent}
  {rows rows' : List PullRequestSnapshot}

theorem isSnapshotOf_of_lands {state : TrueState} {event : RawEvent} {row : PullRequestSnapshot}
    {staged : GithubEvent} (hpayload : staged.payload = event.payload)
    (hlands : Lands server history state event) (h : pullRequestSnapshot server staged = .ok row) :
    IsSnapshotOf history state row := by
  rcases hlands.payload with ⟨-, hshows⟩ | ⟨-, hshows⟩
  · exact isSnapshotOf (Or.inl ⟨rfl, rfl⟩) (Or.inl rfl) h (hpayload ▸ hshows)
  · exact isSnapshotOf (Or.inr ⟨rfl, rfl⟩) (Or.inr rfl) h (hpayload ▸ hshows)

theorem key_of_lands {state : TrueState} {event : RawEvent}
    (hlands : Lands server history state event) :
    repositoryKey event.repositoryId (column server event.payload ["number"])
      = some history.key := by
  have hnumber : column server event.payload ["number"] = some (toString history.number) := by
    rcases hlands.payload with ⟨-, hshows⟩ | ⟨-, hshows⟩
    · exact hshows.number
    · exact hshows.number
  rw [hnumber, hlands.repositoryId]
  rfl

theorem snapshots_of_landing (h : stgGithubPullRequests server events = .ok rows)
    (hlanding : Landing server history events) :
    Snapshots history (rows.filter fun row => row.pullRequestKey = some history.key) where
  only row hrow := by
    obtain ⟨hmem, hkey⟩ := List.mem_filter.mp hrow
    obtain ⟨staged, hstaged, hsnapshot⟩ := mem_of_mapM h hmem
    obtain ⟨hin, hname⟩ := List.mem_filter.mp hstaged
    obtain ⟨event, hevent, rfl⟩ := List.mem_map.mp hin
    obtain ⟨state, hstate, hlands⟩ := hlanding.only event hevent (of_decide_eq_true hname)
      ((pullRequestSnapshot_key hsnapshot).2.symm.trans (of_decide_eq_true hkey))
    exact ⟨state, hstate, isSnapshotOf_of_lands rfl hlands hsnapshot⟩
  all state hstate := by
    obtain ⟨event, hevent, hlands⟩ := hlanding.all state hstate
    obtain ⟨row, hrow, hsnapshot⟩ := exists_of_mapM h (List.mem_filter.mpr
      ⟨List.mem_map.mpr ⟨event, hevent, rfl⟩, decide_eq_true hlands.eventName⟩)
    refine ⟨row, List.mem_filter.mpr ⟨hrow, decide_eq_true ?_⟩,
      isSnapshotOf_of_lands rfl hlands hsnapshot⟩
    exact (pullRequestSnapshot_key hsnapshot).2.trans (key_of_lands hlands)

/-- The pull request has one row, and it shows its last state. -/
theorem resolution_of_landing (h : stgGithubPullRequests server events = .ok rows)
    (hlanding : Landing server history events) :
    ∃ last, IsLast history last
      ∧ (lifecycleOf server history rows).map PullRequest.resolution
        = [last.resolution history] := by
  have hsnapshots := snapshots_of_landing h hlanding
  obtain ⟨state, hstate⟩ := List.exists_mem_of_ne_nil _ history.states_ne_nil
  obtain ⟨row, hrow, -⟩ := hsnapshots.all state hstate
  obtain ⟨latest, hfirst⟩ := exists_firstBy pullRequestOrder hrow
  obtain ⟨last, hlast, hlatest⟩ := latest_of_group hsnapshots hfirst
  refine ⟨last, hlast, ?_⟩
  have hkey : latest.pullRequestKey = some history.key :=
    of_decide_eq_true (List.mem_filter.mp (firstBy_mem hfirst)).2
  have hmem : resolvedPullRequest history.key latest
      (pullRequestRollup server (rows.filter fun row => row.pullRequestKey = some history.key))
        ∈ intPrLifecycle server rows :=
    List.mem_map.mpr ⟨(history.key, latest, _), mem_resolve.mpr ⟨hkey, hfirst, rfl⟩, rfl⟩
  have hin : _ ∈ lifecycleOf server history rows := List.mem_filter.mpr ⟨hmem, decide_eq_true rfl⟩
  have hone : (lifecycleOf server history rows).length ≤ 1 :=
    filter_length_le_one _ intPrLifecycle_nodup fun a _ b _ ha hb =>
      (of_decide_eq_true ha).trans (of_decide_eq_true hb).symm
  have hresolved : (resolvedPullRequest history.key latest (pullRequestRollup server _)).resolution
      = last.resolution history := resolution_eq hsnapshots hlast hlatest history.key
  match hfiltered : lifecycleOf server history rows with
  | [] =>
      rw [hfiltered] at hin
      cases hin
  | [found] =>
      rw [hfiltered] at hin
      rw [List.map_singleton, ← hresolved, List.mem_singleton.mp hin]
  | _ :: _ :: _ =>
      rw [hfiltered] at hone
      simp only [List.length_cons] at hone
      omega

/-- **The ingestion path does not matter**: two logs that land the states of one pull request, each
state by a webhook, by the backfill or by both and in any order, resolve to the same row. -/
theorem resolution_path_independent (h : stgGithubPullRequests server events = .ok rows)
    (hlanding : Landing server history events)
    (h' : stgGithubPullRequests server events' = .ok rows')
    (hlanding' : Landing server history events') :
    ∃ resolution,
      (lifecycleOf server history rows).map PullRequest.resolution = [resolution]
      ∧ (lifecycleOf server history rows').map PullRequest.resolution = [resolution] := by
  obtain ⟨last, hlast, hrows⟩ := resolution_of_landing h hlanding
  obtain ⟨last', hlast', hrows'⟩ := resolution_of_landing h' hlanding'
  obtain rfl := isLast_unique hlast hlast'
  exact ⟨_, hrows, hrows'⟩

end

/-! ## A pull request that is merged -/

/-- A server that knows the instants of the example. -/
def dayServer : Server :=
  smallServer [("2026-07-24T08:00:00Z", july24 8), ("2026-07-24T12:00:00Z", july24 12)] []

def openState : TrueState where
  updatedAt := july24 8
  status := .opened
  title := "Add a feature"
  isDraft := false
  baseRefName := "main"
  headRefName := "feature"
  additions := 1
  deletions := 0
  changedFiles := 1

def mergedState : TrueState :=
  { openState with updatedAt := july24 12, status := .merged (july24 12) (july24 12) "abc" }

def mergeHistory : History where
  repositoryId := 20001
  number := 17
  createdAt := july24 8
  authorLogin := some "octocat"
  states := [openState, mergedState]
  states_ne_nil := List.cons_ne_nil _ _
  updatedAt_distinct := by decide
  merged_stays := by
    intro state hstate closedAt mergedAt sha hstatus later hlater hle
    rcases List.mem_pair.mp hstate with rfl | rfl
    · cases hstatus
    · rcases List.mem_pair.mp hlater with rfl | rfl
      · exact absurd hle (by decide)
      · cases hstatus
        exact ⟨july24 12, rfl⟩

/-- The open state as a webhook. -/
def openWebhook : RawEvent :=
  demoEvent 1 "pull_request" 0
    [("pull_request", .object
      [("number", .number 17 0), ("state", .string "open"), ("title", .string "Add a feature"),
        ("draft", .bool false), ("user", .object [("login", .string "octocat")]),
        ("created_at", .string "2026-07-24T08:00:00Z"),
        ("updated_at", .string "2026-07-24T08:00:00Z"), ("closed_at", .null),
        ("merged_at", .null), ("base", .object [("ref", .string "main")]),
        ("head", .object [("ref", .string "feature")]), ("merge_commit_sha", .string "test"),
        ("additions", .number 1 0), ("deletions", .number 0 0), ("changed_files", .number 1 0)])]

/-- The merged state as a webhook. -/
def mergedWebhook : RawEvent :=
  demoEvent 2 "pull_request" 0
    [("pull_request", .object
      [("number", .number 17 0), ("state", .string "closed"), ("title", .string "Add a feature"),
        ("draft", .bool false), ("user", .object [("login", .string "octocat")]),
        ("created_at", .string "2026-07-24T08:00:00Z"),
        ("updated_at", .string "2026-07-24T12:00:00Z"),
        ("closed_at", .string "2026-07-24T12:00:00Z"),
        ("merged_at", .string "2026-07-24T12:00:00Z"),
        ("base", .object [("ref", .string "main")]),
        ("head", .object [("ref", .string "feature")]), ("merge_commit_sha", .string "abc"),
        ("additions", .number 1 0), ("deletions", .number 0 0), ("changed_files", .number 1 0)])]

/-- The merged state as a node of the backfill. -/
def mergedNode : RawEvent :=
  { demoEvent 3 "pull_request" 0
      [("pull_request", .object
        [("number", .number 17 0), ("state", .string "MERGED"), ("title", .string "Add a feature"),
          ("isDraft", .bool false), ("author", .object [("login", .string "octocat")]),
          ("createdAt", .string "2026-07-24T08:00:00Z"),
          ("updatedAt", .string "2026-07-24T12:00:00Z"),
          ("closedAt", .string "2026-07-24T12:00:00Z"),
          ("mergedAt", .string "2026-07-24T12:00:00Z"), ("baseRefName", .string "main"),
          ("headRefName", .string "feature"),
          ("mergeCommit", .object [("oid", .string "abc")]), ("additions", .number 1 0),
          ("deletions", .number 0 0), ("changedFiles", .number 1 0)])]
    with source := .backfill }

theorem openWebhook_lands : Lands dayServer mergeHistory openState openWebhook where
  eventName := rfl
  repositoryId := rfl
  payload := by
    refine Or.inl ⟨rfl, ?_⟩
    constructor
    case mergeCommitSha => rintro sha ⟨⟩
    all_goals decide +kernel

theorem mergedWebhook_lands : Lands dayServer mergeHistory mergedState mergedWebhook where
  eventName := rfl
  repositoryId := rfl
  payload := by
    refine Or.inl ⟨rfl, ?_⟩
    constructor
    case mergeCommitSha =>
      rintro sha ⟨⟩
      decide +kernel
    all_goals decide +kernel

theorem mergedNode_lands : Lands dayServer mergeHistory mergedState mergedNode where
  eventName := rfl
  repositoryId := rfl
  payload := by
    refine Or.inr ⟨rfl, ?_⟩
    constructor
    case mergeCommitSha =>
      rintro sha ⟨⟩
      decide +kernel
    all_goals decide +kernel

/-- Both states as webhooks, or the merge by the backfill first. -/
theorem resolution_path_independent_merged :
    ∃ rows rows' resolution,
      stgGithubPullRequests dayServer [openWebhook, mergedWebhook] = .ok rows
      ∧ stgGithubPullRequests dayServer [mergedNode, openWebhook] = .ok rows'
      ∧ (lifecycleOf dayServer mergeHistory rows).map PullRequest.resolution = [resolution]
      ∧ (lifecycleOf dayServer mergeHistory rows').map PullRequest.resolution = [resolution] := by
  have hok : ∃ rows, stgGithubPullRequests dayServer [openWebhook, mergedWebhook] = .ok rows := by
    decide +kernel
  have hok' : ∃ rows, stgGithubPullRequests dayServer [mergedNode, openWebhook] = .ok rows := by
    decide +kernel
  have hlanding : Landing dayServer mergeHistory [openWebhook, mergedWebhook] := by
    constructor
    · intro event hevent _ _
      rcases List.mem_pair.mp hevent with rfl | rfl
      · exact ⟨openState, List.mem_cons_self, openWebhook_lands⟩
      · exact ⟨mergedState, List.mem_cons_of_mem _ List.mem_cons_self, mergedWebhook_lands⟩
    · intro state hstate
      rcases List.mem_pair.mp hstate with rfl | rfl
      · exact ⟨_, List.mem_cons_self, openWebhook_lands⟩
      · exact ⟨_, List.mem_cons_of_mem _ List.mem_cons_self, mergedWebhook_lands⟩
  have hlanding' : Landing dayServer mergeHistory [mergedNode, openWebhook] := by
    constructor
    · intro event hevent _ _
      rcases List.mem_pair.mp hevent with rfl | rfl
      · exact ⟨mergedState, List.mem_cons_of_mem _ List.mem_cons_self, mergedNode_lands⟩
      · exact ⟨openState, List.mem_cons_self, openWebhook_lands⟩
    · intro state hstate
      rcases List.mem_pair.mp hstate with rfl | rfl
      · exact ⟨_, List.mem_cons_of_mem _ List.mem_cons_self, openWebhook_lands⟩
      · exact ⟨_, List.mem_cons_self, mergedNode_lands⟩
  obtain ⟨rows, h⟩ := hok
  obtain ⟨rows', h'⟩ := hok'
  obtain ⟨resolution, hrows, hrows'⟩ := resolution_path_independent h hlanding h' hlanding'
  exact ⟨rows, rows', resolution, h, h', hrows, hrows'⟩

end Dbt
