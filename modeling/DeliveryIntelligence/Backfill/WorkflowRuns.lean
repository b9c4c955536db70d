import DeliveryIntelligence.Backfill.Log
import DeliveryIntelligence.Backfill.RestCompleteness

set_option autoImplicit false

/-!
# One traversal of the workflow runs

`PageRun` describes the runs of the loop of `_run_workflow_runs` page by page: how a page can
fail, how the traversal completes, and when it goes on. `pageRun_of_ends` says that the loop has
no other runs, whatever the server and the storage answer.

The early-end check comes after the page is stored, so a traversal it stops has already moved its
checkpoint (`failed_page_keeps_checkpoint_iff`).
-/

namespace Backfill

open Datetime Program

section

variable (readers : Readers) (settings : Settings) (window : Window) (key : BackfillRunKey)

/-- The request for one page. -/
def workflowRunsRequest (page : Int) : RestRequest where
  path := settings.repositoryPath ++ "/actions/runs"
  params :=
    [ ("created", .string (githubTimestamp window.windowStart ++ ".."
        ++ githubTimestamp window.windowEnd))
    , ("exclude_pull_requests", .bool false)
    , ("per_page", .number settings.pageSize 0)
    , ("page", .number page 0) ]

/-- A run of the loop from a page on: its fuel, its log and its end. -/
inductive PageRun : Int → BackfillSummary → Nat → BackfillLog RestRequest →
    Except BackfillError BackfillSummary → Prop
  | interrupted (page : Int) (summary : BackfillSummary) :
      PageRun page summary 0 [] (.error .interrupted)
  | requestFailed (page : Int) (summary : BackfillSummary) (fuel : Nat) (e : BackfillError) :
      PageRun page summary (fuel + 1)
        [⟨.request (workflowRunsRequest settings window page), .error e⟩] (.error e)
  | malformed (page : Int) (summary : BackfillSummary) (fuel : Nat) {payload : Json}
      {e : BackfillError} (hread : workflowRunsResponse readers settings window payload = .error e) :
      PageRun page summary (fuel + 1)
        [⟨.request (workflowRunsRequest settings window page), .ok payload⟩] (.error e)
  | noCursor (page : Int) (summary : BackfillSummary) (fuel : Nat) {payload : Json}
      {totalCount : Int} {nodes : List Json} {records : List BackfillRecord}
      (hread : workflowRunsResponse readers settings window payload
        = .ok (totalCount, nodes, records))
      (hmore : page * settings.pageSize < totalCount) (hcursor : Python.str (page + 1) = none) :
      PageRun page summary (fuel + 1)
        [⟨.request (workflowRunsRequest settings window page), .ok payload⟩]
        (.error (.valueError "Exceeds the limit (4300 digits) for integer string conversion"))
  | persistFailed (page : Int) (summary : BackfillSummary) (fuel : Nat) {payload : Json}
      {totalCount : Int} {nodes : List Json} {records : List BackfillRecord}
      {nextCursor : Option String} {completed : Bool} {e : BackfillError}
      (hread : workflowRunsResponse readers settings window payload
        = .ok (totalCount, nodes, records)) :
      PageRun page summary (fuel + 1)
        [ ⟨.request (workflowRunsRequest settings window page), .ok payload⟩
        , ⟨.persistPage key records nextCursor completed, .error e⟩ ] (.error e)
  | completed (page : Int) (summary : BackfillSummary) (fuel : Nat) {payload : Json}
      {totalCount : Int} {nodes : List Json} {records : List BackfillRecord}
      {outcome : PageWriteOutcome}
      (hread : workflowRunsResponse readers settings window payload
        = .ok (totalCount, nodes, records))
      (hlast : totalCount ≤ page * settings.pageSize) :
      PageRun page summary (fuel + 1)
        [ ⟨.request (workflowRunsRequest settings window page), .ok payload⟩
        , ⟨.persistPage key records none true, .ok outcome⟩ ] (.ok (summary.plus outcome.summary))
  | endedEarly (page : Int) (summary : BackfillSummary) (fuel : Nat) {payload : Json}
      {totalCount : Int} {records : List BackfillRecord} {cursor : String}
      {outcome : PageWriteOutcome}
      (hread : workflowRunsResponse readers settings window payload = .ok (totalCount, [], records))
      (hmore : page * settings.pageSize < totalCount)
      (hcursor : Python.str (page + 1) = some cursor) :
      PageRun page summary (fuel + 1)
        [ ⟨.request (workflowRunsRequest settings window page), .ok payload⟩
        , ⟨.persistPage key records (some cursor) false, .ok outcome⟩ ]
        (.error (.restDataError "workflow-run pagination ended before total_count"))
  | next (page : Int) (summary : BackfillSummary) (fuel : Nat) {payload : Json}
      {totalCount : Int} {nodes : List Json} {records : List BackfillRecord} {cursor : String}
      {outcome : PageWriteOutcome} {log : BackfillLog RestRequest}
      {result : Except BackfillError BackfillSummary}
      (hread : workflowRunsResponse readers settings window payload
        = .ok (totalCount, nodes, records))
      (hmore : page * settings.pageSize < totalCount)
      (hcursor : Python.str (page + 1) = some cursor) (hnodes : nodes ≠ [])
      (rest : PageRun (page + 1) (summary.plus outcome.summary) fuel log result) :
      PageRun page summary (fuel + 1)
        (⟨.request (workflowRunsRequest settings window page), .ok payload⟩
          :: ⟨.persistPage key records (some cursor) false, .ok outcome⟩ :: log) result

end

variable {readers : Readers} {settings : Settings} {window : Window} {key : BackfillRunKey}

/-- Persisting a page needs the text of the next page number, unless the page is the last. -/
theorem ends_persistNumberedPage {β : Type} {records : List BackfillRecord} {page : Int}
    {completed : Bool} {f : PageWriteOutcome → Job RestRequest β} {log : BackfillLog RestRequest}
    {result : Except BackfillError β}
    (h : Ends log (persistNumberedPage key records page completed >>= f) result) :
    (completed = false ∧ Python.str (page + 1) = none ∧ log = []
      ∧ result
        = .error (.valueError "Exceeds the limit (4300 digits) for integer string conversion"))
    ∨ ∃ nextCursor reply rest,
        log = ⟨.persistPage key records nextCursor completed, reply⟩ :: rest
        ∧ Ends rest (Prog.ofExcept reply >>= f) result
        ∧ (completed = true → nextCursor = none)
        ∧ (completed = false →
            ∃ cursor, nextCursor = some cursor ∧ Python.str (page + 1) = some cursor) := by
  unfold persistNumberedPage at h
  cases completed with
  | true =>
      obtain ⟨reply, rest, rfl, hrest⟩ := ends_persist h
      exact Or.inr ⟨none, reply, rest, rfl, hrest, fun _ => rfl, fun hopen => Bool.noConfusion hopen⟩
  | false =>
      cases hcursor : Python.str (page + 1) with
      | none =>
          simp only [hcursor, Bool.false_eq_true, if_false] at h
          obtain ⟨rfl, rfl⟩ := ends_raise_iff.mp h
          exact Or.inl ⟨rfl, rfl, rfl, rfl⟩
      | some cursor =>
          simp only [hcursor, Bool.false_eq_true, if_false] at h
          obtain ⟨reply, rest, rfl, hrest⟩ := ends_persist h
          exact Or.inr ⟨some cursor, reply, rest, rfl, hrest,
            fun hdone => Bool.noConfusion hdone, fun _ => ⟨cursor, rfl, rfl⟩⟩

/-- The loop has no other runs. -/
theorem pageRun_of_ends {fuel : Nat} {page : Int} {summary : BackfillSummary}
    {log : BackfillLog RestRequest} {result : Except BackfillError BackfillSummary}
    (h : Ends log (workflowRunsLoop readers settings window key page summary fuel) result) :
    PageRun readers settings window key page summary fuel log result := by
  induction fuel generalizing page summary log with
  | zero =>
      obtain ⟨rfl, rfl⟩ := ends_raise_iff.mp h
      exact .interrupted page summary
  | succ fuel ih =>
      obtain ⟨reply, rest, rfl, hreply⟩ := ends_request h
      rcases ends_ofExcept_bind_iff.mp hreply with ⟨e, rfl, rfl, rfl⟩ | ⟨payload, rfl, hpayload⟩
      · exact .requestFailed page summary fuel e
      rcases ends_ofExcept_bind_iff.mp hpayload with
        ⟨e, hread, rfl, rfl⟩ | ⟨⟨totalCount, nodes, records⟩, hread, hpage⟩
      · exact .malformed page summary fuel hread
      dsimp only at hpage
      generalize hlast : decide (page * settings.pageSize ≥ totalCount) = completed at hpage
      rcases ends_persistNumberedPage hpage with
        ⟨rfl, hcursor, rfl, rfl⟩ | ⟨nextCursor, reply, rest, rfl, hafter, hdone, hopen⟩
      · exact .noCursor page summary fuel hread (not_le.mp (of_decide_eq_false hlast)) hcursor
      rcases ends_ofExcept_bind_iff.mp hafter with ⟨e, rfl, rfl, rfl⟩ | ⟨outcome, rfl, hrest⟩
      · exact .persistFailed page summary fuel hread
      -- the page is stored: it is the last one, or the traversal goes on unless it was empty
      cases completed with
      | true =>
          obtain ⟨rfl, rfl⟩ := ends_pure_iff.mp hrest
          rw [hdone rfl]
          exact .completed page summary fuel hread (of_decide_eq_true hlast)
      | false =>
          obtain ⟨cursor, rfl, hcursor⟩ := hopen rfl
          have hmore : page * settings.pageSize < totalCount :=
            not_le.mp (of_decide_eq_false hlast)
          cases nodes with
          | nil =>
              obtain ⟨rfl, rfl⟩ := ends_raise_iff.mp hrest
              exact .endedEarly page summary fuel hread hmore hcursor
          | cons node nodes =>
              exact .next page summary fuel hread hmore hcursor (List.cons_ne_nil _ _) (ih hrest)

/-! ## The checkpoint of a failed page -/

/-- The checkpoint is in progress and resumes at this page. -/
def PositionedAt (key : BackfillRunKey) (tables : BackfillTables) (page : Int) : Prop :=
  isCompleted (loadCheckpoint key tables) = false
  ∧ nextPage (loadCheckpoint key tables) = .ok page

/-- The reply is a well-formed page without workflow runs, short of its total count. -/
def EndsEarly (settings : Settings) (page : Int) (reply : Except BackfillError Json) : Prop :=
  ∃ payload totalCount, reply = .ok payload ∧ isObject payload = true
    ∧ requiredNonnegativeInt payload "total_count" = .ok totalCount
    ∧ totalCount ≤ maxFilteredWorkflowRuns
    ∧ requiredObjectList payload "workflow_runs" = .ok []
    ∧ page * settings.pageSize < totalCount

theorem workflowRunsResponse_le {payload : Json} {totalCount : Int} {nodes : List Json}
    {records : List BackfillRecord}
    (h : workflowRunsResponse readers settings window payload = .ok (totalCount, nodes, records)) :
    totalCount ≤ maxFilteredWorkflowRuns := by
  obtain ⟨response, -, hrest⟩ := Postgres.bind_eq_ok h
  obtain ⟨total, -, hchecked⟩ := Postgres.bind_eq_ok hrest
  by_cases hover : total > maxFilteredWorkflowRuns
  · rw [if_pos hover] at hchecked
    cases hchecked
  · rw [if_neg hover] at hchecked
    obtain ⟨found, -, hrecords⟩ := Postgres.bind_eq_ok hchecked
    obtain ⟨read, -, hresult⟩ := Postgres.bind_eq_ok hrecords
    cases hresult
    exact not_lt.mp hover

theorem workflowRunsResponse_nil_iff {payload : Json} {totalCount : Int}
    {records : List BackfillRecord} :
    workflowRunsResponse readers settings window payload = .ok (totalCount, [], records)
      ↔ isObject payload = true ∧ requiredNonnegativeInt payload "total_count" = .ok totalCount
        ∧ totalCount ≤ maxFilteredWorkflowRuns
        ∧ requiredObjectList payload "workflow_runs" = .ok [] ∧ records = [] := by
  constructor
  · intro h
    obtain ⟨htotal, hnodes, hrecords⟩ := workflowRunsResponse_ok h
    cases hrecords
    obtain ⟨response, hresponse, -⟩ := Postgres.bind_eq_ok h
    have hobject : isObject payload = true := by
      unfold requiredObjectPayload at hresponse
      by_contra hno
      rw [if_neg hno] at hresponse
      cases hresponse
    exact ⟨hobject, htotal, workflowRunsResponse_le h, hnodes, rfl⟩
  · rintro ⟨hobject, htotal, hcap, hnodes, rfl⟩
    simp [workflowRunsResponse, requiredObjectPayload, hobject, htotal, not_lt.mpr hcap, hnodes,
      windowRecords, bind, Except.bind, pure, Except.pure]

/-- After a page that is not the last, the checkpoint stands at the next one. -/
theorem positionedAt_next {page : Int} {cursor : String} {records : List BackfillRecord}
    {tables tables' : BackfillTables} (hpage : 1 ≤ page)
    (hcursor : Python.str (page + 1) = some cursor)
    (hcommitted : PageCommitted key records (some cursor) false tables tables') :
    PositionedAt key tables' (page + 1) := by
  obtain ⟨row, hrow, hstatus, hlookup⟩ := hcommitted.checkpoint
  have hload : loadCheckpoint key tables' = some row := hlookup
  rw [PositionedAt, hload]
  constructor
  · show (row.status == .completed) = false
    rw [hstatus]
    rfl
  · show pageOfCursor row.cursor = .ok (page + 1)
    rw [hrow]
    exact pageOfCursor_str hpage hcursor

/-- Along a run that ends in a `RestDataError` the checkpoint stands at the page of the last
request, unless that page was stored before it was found empty. -/
theorem positionedAt_iff_of_pageRun {page : Int} {summary : BackfillSummary} {fuel : Nat}
    {log : BackfillLog RestRequest} {result : Except BackfillError BackfillSummary}
    (h : PageRun readers settings window key page summary fuel log result)
    {message : String} (hresult : result = .error (.restDataError message))
    {tables tables' : BackfillTables} (hserved : Served tables log tables') (hpage : 1 ≤ page)
    (hat : PositionedAt key tables page) :
    ∃ last reply, (requests log).getLast? = some (workflowRunsRequest settings window last, reply)
      ∧ (PositionedAt key tables' last ↔ ¬ EndsEarly settings last reply) := by
  induction h generalizing tables with
  | interrupted page summary => cases hresult
  | noCursor page summary fuel hread hmore hcursor => cases hresult
  | completed page summary fuel hread hlast => cases hresult
  | requestFailed page summary fuel e =>
      -- nothing was stored since the checkpoint was loaded
      cases hserved with
      | cons hrequest hnil =>
          cases hnil
          rw [answered_request hrequest]
          refine ⟨page, _, rfl, fun _ => ?_, fun _ => hat⟩
          rintro ⟨payload, totalCount, hreply, -⟩
          cases hreply
  | malformed page summary fuel hread =>
      cases hserved with
      | cons hrequest hnil =>
          cases hnil
          rw [answered_request hrequest]
          refine ⟨page, _, rfl, fun _ => ?_, fun _ => hat⟩
          rintro ⟨payload, totalCount, hreply, hobject, htotal, hcap, hnodes, -⟩
          cases hreply
          rw [workflowRunsResponse_nil_iff.mpr ⟨hobject, htotal, hcap, hnodes, rfl⟩] at hread
          cases hread
  | persistFailed page summary fuel hread =>
      cases hresult
      cases hserved with
      | cons hrequest hrest =>
          cases hrest with
          | cons hpersist hnil => exact (persist_ne_restDataError hpersist).elim
  | @endedEarly page summary fuel payload totalCount records cursor outcome hread hmore hcursor =>
      cases hserved with
      | cons hrequest hrest =>
          cases hrest with
          | cons hpersist hnil =>
              cases hnil
              have hnext := positionedAt_next hpage hcursor (pageCommitted_of_answered hpersist)
              obtain ⟨hobject, htotal, hcap, hnodes, -⟩ := workflowRunsResponse_nil_iff.mp hread
              refine ⟨page, _, rfl, fun hstill => ?_, fun hnot => ?_⟩
              · have hsame := hstill.2.symm.trans hnext.2
                simp only [Except.ok.injEq] at hsame
                omega
              · exact absurd ⟨payload, totalCount, rfl, hobject, htotal, hcap, hnodes, hmore⟩ hnot
  | next page summary fuel hread hmore hcursor hnodes rest ih =>
      cases hserved with
      | cons hrequest hrest =>
          cases hrest with
          | cons hpersist hserved =>
              have hnext := positionedAt_next hpage hcursor (pageCommitted_of_answered hpersist)
              obtain ⟨last, reply, hlast, hiff⟩ := ih hresult hserved (by omega) hnext
              refine ⟨last, reply, ?_, hiff⟩
              rw [requests_request, requests_persist, List.getLast?_cons, hlast]
              rfl

theorem workflowRunsRequest_inj {page page' : Int}
    (h : workflowRunsRequest settings window page = workflowRunsRequest settings window page') :
    page = page' := by
  have hparam := congrArg (fun request => getMember (.object request.params) "page") h
  have hnumber : Json.number page 0 = Json.number page' 0 := hparam
  cases hnumber
  rfl

/-- The traversal loads the checkpoint once and, unless that fails, is completed or is unreadable,
runs the loop from the page it stands at. -/
theorem pageRun_of_ends_runWorkflowRuns {fuel : Nat} {log : BackfillLog RestRequest}
    {result : Except BackfillError BackfillSummary} {tables tables' : BackfillTables}
    (hkey : settings.runKey "workflow_runs" "repository" window = .ok key)
    (hrun : Ends log (runWorkflowRuns readers settings window fuel) result)
    (hserved : Served tables log tables') :
    ∃ (loaded : Except BackfillError (Option BackfillCheckpoint))
      (rest : BackfillLog RestRequest), log = ⟨.loadCheckpoint key, loaded⟩ :: rest
      ∧ Served tables rest tables'
      ∧ ((rest = [] ∧ ∀ checkpoint, loaded = .ok checkpoint →
            ∀ page, ¬ PositionedAt key tables page)
        ∨ ∃ first, PositionedAt key tables first
            ∧ PageRun readers settings window key first .zero fuel rest result) := by
  rcases ends_ofExcept_bind_iff.mp hrun with ⟨e, hno, -⟩ | ⟨key', hkey', hload⟩
  · rw [hkey] at hno
    cases hno
  rw [hkey] at hkey'
  cases hkey'
  obtain ⟨loaded, rest, rfl, hloaded⟩ := ends_load hload
  cases hserved with
  | cons hanswered hserved =>
      obtain ⟨rfl, hcheckpoint⟩ := answered_load hanswered
      refine ⟨loaded, rest, rfl, hserved, ?_⟩
      rcases ends_ofExcept_bind_iff.mp hloaded with ⟨e, rfl, rfl, -⟩ | ⟨checkpoint, hok, hbody⟩
      · refine Or.inl ⟨rfl, fun checkpoint hok => ?_⟩
        cases hok
      have hread := hcheckpoint checkpoint hok
      by_cases hdone : isCompleted checkpoint = true
      · rw [if_pos hdone] at hbody
        refine Or.inl ⟨(ends_pure_iff.mp hbody).1, fun _ _ page hat => ?_⟩
        rw [PositionedAt, ← hread, hdone] at hat
        exact Bool.noConfusion hat.1
      · rw [if_neg hdone] at hbody
        rcases ends_ofExcept_bind_iff.mp hbody with ⟨e, hpage, rfl, -⟩ | ⟨first, hfirst, hloop⟩
        · refine Or.inl ⟨rfl, fun _ _ page hat => ?_⟩
          rw [PositionedAt, ← hread, hpage] at hat
          cases hat.2
        · refine Or.inr ⟨first, ⟨hread ▸ by simpa using hdone, hread ▸ hfirst⟩, ?_⟩
          exact pageRun_of_ends hloop

/-- **Failed pages.** When a traversal raises `RestDataError` on page `page`, whatever the server
answered and wherever it started, the checkpoint stands at that page exactly if the page was not
an empty one short of its total count. -/
theorem failed_page_keeps_checkpoint_iff {fuel : Nat} {page : Int} {message : String}
    {log : BackfillLog RestRequest} {reply : Except BackfillError Json}
    {tables tables' : BackfillTables}
    (hkey : settings.runKey "workflow_runs" "repository" window = .ok key)
    (hrun : Ends log (runWorkflowRuns readers settings window fuel)
      (.error (.restDataError message)))
    (hserved : Served tables log tables')
    (hlast : (requests log).getLast? = some (workflowRunsRequest settings window page, reply)) :
    PositionedAt key tables' page ↔ ¬ EndsEarly settings page reply := by
  obtain ⟨loaded, rest, rfl, hserved, hrest⟩ :=
    pageRun_of_ends_runWorkflowRuns hkey hrun hserved
  rw [requests_load] at hlast
  rcases hrest with ⟨rfl, -⟩ | ⟨first, hat, hpages⟩
  · cases hlast
  · obtain ⟨last, reply', hlast', hiff⟩ :=
      positionedAt_iff_of_pageRun hpages rfl hserved (nextPage_pos hat.2) hat
    rw [hlast] at hlast'
    simp only [Option.some.injEq, Prod.mk.injEq] at hlast'
    obtain ⟨hrequest, rfl⟩ := hlast'
    rw [workflowRunsRequest_inj hrequest]
    exact hiff

/-- The run key of the workflow runs of `acme/api` in January. -/
def sampleRunsKey : BackfillRunKey where
  repositoryId := 7
  resource := "workflow_runs"
  scope := "repository"
  window := sampleWindow
  repositoryId_pos := sampleSettings.identities_pos.1
  texts_nonempty := by decide
  window_ordered := by decide

/-- A page without workflow runs. -/
def emptyRunsPage (totalCount : Int) : Json :=
  .object [("total_count", .number totalCount 0), ("workflow_runs", .array [])]

/-- The checkpoint after one page without records. -/
def onePage (nextCursor : Option String) (completed : Bool) : BackfillCheckpoint :=
  ⟨nextCursor, statusOf completed, 1, 0⟩

/-- An invocation that stores one empty page, and nothing after it. -/
def onePageLog (totalCount : Int) (nextCursor : Option String) (completed : Bool) :
    BackfillLog RestRequest :=
  [ ⟨.loadCheckpoint sampleRunsKey, .ok none⟩
  , ⟨.request (workflowRunsRequest sampleSettings sampleWindow 1), .ok (emptyRunsPage totalCount)⟩
  , ⟨.persistPage sampleRunsKey [] nextCursor completed,
      .ok ⟨0, 0, onePage nextCursor completed⟩⟩ ]

def onePageTables (nextCursor : Option String) (completed : Bool) : BackfillTables :=
  ⟨∅, AList.insert sampleRunsKey.parameters (onePage nextCursor completed) ∅⟩

theorem served_onePageLog (totalCount : Int) {nextCursor : Option String} {completed : Bool}
    (hpersist : persistAct sampleRunsKey [] nextCursor completed ⟨fun _ => default, .none⟩
        emptyTables
      = (.ok ⟨0, 0, onePage nextCursor completed⟩, onePageTables nextCursor completed)) :
    Served emptyTables (onePageLog totalCount nextCursor completed)
      (onePageTables nextCursor completed) := by
  refine .cons ⟨fun _ => .error .external, none, rfl⟩
    (.cons ⟨fun _ => .ok (emptyRunsPage totalCount), none, rfl⟩ (.cons ?_ (.nil _)))
  refine ⟨fun _ => .error .external, ⟨fun _ => default, .none⟩, ?_⟩
  simp only [backfillAct, hpersist]

/-- A window over the cap leaves the traversal at its first page. -/
theorem failed_page_keeps_checkpoint_iff_cap : PositionedAt sampleRunsKey emptyTables 1 := by
  have hserved : Served emptyTables ((onePageLog 1001 none true).take 2) emptyTables :=
    .cons ⟨fun _ => .error .external, none, rfl⟩
      (.cons ⟨fun _ => .ok (emptyRunsPage 1001), none, rfl⟩ (.nil _))
  have hrun : Ends ((onePageLog 1001 none true).take 2)
      (runWorkflowRuns sampleReaders sampleSettings sampleWindow 5)
      (.error (.restDataError ("workflow-run window exceeds GitHub's 1,000-result "
        ++ "filtered-search cap; use a smaller time window"))) :=
    .call (.call (.raise _))
  refine (failed_page_keeps_checkpoint_iff rfl hrun hserved rfl).mpr ?_
  rintro ⟨payload, totalCount, hpayload, -, htotal, hcap, -⟩
  cases hpayload
  cases htotal
  exact absurd hcap (by decide)

/-- The first page is empty although two runs are reported: the traversal raises, and its
checkpoint already stands at page 2. -/
theorem empty_page_moves_checkpoint :
    ∃ log tables' message,
      Ends log (runWorkflowRuns sampleReaders sampleSettings sampleWindow 5)
        (.error (.restDataError message))
      ∧ Served emptyTables log tables'
      ∧ (requests log).getLast?
        = some (workflowRunsRequest sampleSettings sampleWindow 1, .ok (emptyRunsPage 2))
      ∧ ¬ PositionedAt sampleRunsKey tables' 1 := by
  refine ⟨onePageLog 2 (some "2") false, onePageTables (some "2") false, _,
    .call (.call (.call (.raise _))), served_onePageLog 2 rfl, rfl, ?_⟩
  rintro ⟨-, hpage⟩
  have hnext : nextPage (loadCheckpoint sampleRunsKey (onePageTables (some "2") false)) = .ok 2 :=
    rfl
  rw [hnext] at hpage
  cases hpage

end Backfill
