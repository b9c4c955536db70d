import DeliveryIntelligence.Backfill.WorkflowRuns
import Mathlib.Data.Rat.Floor

set_option autoImplicit false

/-!
# The traversal of the workflow runs ends

The loop of `_run_workflow_runs` has no bound of its own: it ends because a total count over the
cap is rejected, so a page whose number times the page size reaches the cap is the last one. Up to
that page the server may change the total count and the nodes as it likes (`workflow_runs_terminate`).
-/

namespace Backfill

open Program

variable (readers : Readers) (settings : Settings) (window : Window)

/-- The requests left from a page on: the pages up to the cap, and one where the traversal starts
behind it. -/
def requestBound (page : Int) : Nat :=
  (max 1 (⌈(maxFilteredWorkflowRuns : ℚ) / settings.pageSize⌉ - page + 1)).toNat

variable {readers settings window}

theorem requestBound_pos (page : Int) : 1 ≤ requestBound settings page := by
  unfold requestBound
  omega

theorem requestBound_anti {page page' : Int} (h : page ≤ page') :
    requestBound settings page' ≤ requestBound settings page := by
  unfold requestBound
  omega

/-- After a page short of the cap one request less is left. -/
theorem requestBound_succ {page : Int}
    (hmore : page * settings.pageSize < maxFilteredWorkflowRuns) :
    requestBound settings (page + 1) + 1 ≤ requestBound settings page := by
  have hsize : (0 : ℚ) < settings.pageSize := by
    have hone := settings.pageSize_range.1
    exact_mod_cast hone
  have hpage : page < ⌈(maxFilteredWorkflowRuns : ℚ) / settings.pageSize⌉ := by
    rw [Int.lt_ceil, lt_div_iff₀ hsize]
    exact_mod_cast hmore
  unfold requestBound
  omega

/-- A page that is not the last one is short of the cap. -/
theorem short_of_cap {payload : Json} {totalCount page : Int} {nodes : List Json}
    {records : List BackfillRecord}
    (hread : workflowRunsResponse readers settings window payload
      = .ok (totalCount, nodes, records))
    (hmore : page * settings.pageSize < totalCount) :
    page * settings.pageSize < maxFilteredWorkflowRuns :=
  hmore.trans_le (workflowRunsResponse_le hread)

/-- With fuel for the requests left, more fuel changes nothing. -/
theorem workflowRunsLoop_congr {key : BackfillRunKey} {page : Int} {summary : BackfillSummary}
    {fuel fuel' : Nat} (h : requestBound settings page ≤ fuel)
    (h' : requestBound settings page ≤ fuel') :
    workflowRunsLoop readers settings window key page summary fuel
      = workflowRunsLoop readers settings window key page summary fuel' := by
  induction fuel generalizing page summary fuel' with
  | zero =>
      have hone : 1 ≤ requestBound settings page := requestBound_pos page
      omega
  | succ fuel ih =>
      cases fuel' with
      | zero =>
          have hone : 1 ≤ requestBound settings page := requestBound_pos page
          omega
      | succ fuel' =>
          unfold workflowRunsLoop
          refine bind_congr fun payload => Prog.ofExcept_bind_congr fun response hread => ?_
          obtain ⟨totalCount, nodes, records⟩ := response
          refine bind_congr fun outcome => ?_
          by_cases hlast : page * settings.pageSize ≥ totalCount
          · simp only [decide_eq_true hlast, if_true]
          · simp only [decide_eq_false hlast, Bool.false_eq_true, if_false]
            -- the next page has one request less left
            have hstep := requestBound_succ (short_of_cap hread (not_le.mp hlast))
            cases nodes with
            | nil => rfl
            | cons node nodes =>
                have hnext : requestBound settings (page + 1) ≤ fuel := by omega
                have hnext' : requestBound settings (page + 1) ≤ fuel' := by omega
                exact ih hnext hnext'

/-- The fuel of a whole traversal: its first page is positive. -/
theorem runWorkflowRuns_congr {fuel : Nat} (h : requestBound settings 1 ≤ fuel) :
    runWorkflowRuns readers settings window fuel
      = runWorkflowRuns readers settings window (requestBound settings 1) := by
  unfold runWorkflowRuns
  refine bind_congr fun key => bind_congr fun checkpoint => ?_
  by_cases hdone : isCompleted checkpoint = true
  · rw [if_pos hdone, if_pos hdone]
  · rw [if_neg hdone, if_neg hdone]
    refine Prog.ofExcept_bind_congr fun page hpage => ?_
    have hle : requestBound settings page ≤ requestBound settings 1 :=
      requestBound_anti (nextPage_pos hpage)
    exact workflowRunsLoop_congr (hle.trans h) hle

/-- A run of the loop makes no more requests than are left. -/
theorem requests_le_of_pageRun {key : BackfillRunKey} {page : Int} {summary : BackfillSummary}
    {fuel : Nat} {log : BackfillLog RestRequest} {result : Except BackfillError BackfillSummary}
    (h : PageRun readers settings window key page summary fuel log result) :
    (requests log).length ≤ requestBound settings page := by
  induction h with
  | interrupted page summary => exact Nat.zero_le _
  | requestFailed page | malformed page | noCursor page | persistFailed page | completed page
  | endedEarly page => exact requestBound_pos page
  | next page summary fuel hread hmore hcursor hnodes rest ih =>
      have hstep := requestBound_succ (short_of_cap hread hmore)
      rw [requests_request, requests_persist, List.length_cons]
      omega

/-- **The traversal ends.** Whatever the server and the storage answer, each time by all that
happened before, the traversal from page `first` ends after at most the requests left there: from
some fuel on, more fuel changes neither its log nor its end. -/
theorem workflow_runs_terminate {key : BackfillRunKey} {checkpoint : Option BackfillCheckpoint} {first : Int}
    (hkey : settings.runKey "workflow_runs" "repository" window = .ok key)
    (world : BackfillLog RestRequest → (op : BackfillOp RestRequest) → BackfillReply op)
    (hload : world [] (.loadCheckpoint key) = .ok checkpoint)
    (hfirst : nextPage checkpoint = .ok first) :
    ∃ log result,
      (∀ fuel, requestBound settings 1 ≤ fuel →
        (runWorkflowRuns readers settings window fuel).respond world [] = (log, result))
      ∧ (requests log).length ≤ requestBound settings first := by
  let run := (runWorkflowRuns readers settings window (requestBound settings 1)).respond world []
  refine ⟨run.1, run.2, fun fuel hfuel => ?_, ?_⟩
  · rw [runWorkflowRuns_congr hfuel]
  · have hends : Ends run.1 (runWorkflowRuns readers settings window (requestBound settings 1))
        run.2 := ends_respond _
    rcases ends_ofExcept_bind_iff.mp hends with ⟨e, hno, -⟩ | ⟨key', hkey', hrun⟩
    · rw [hkey] at hno
      cases hno
    rw [hkey] at hkey'
    cases hkey'
    obtain ⟨loaded, rest, hlog, hloaded⟩ := ends_load hrun
    have hreply : loaded = .ok checkpoint := (reply_of_respond hlog).trans hload
    subst hreply
    rw [hlog]
    show (requests rest).length ≤ requestBound settings first
    rcases ends_ofExcept_bind_iff.mp hloaded with ⟨e, hno, -⟩ | ⟨checkpoint', hok, hbody⟩
    · cases hno
    cases hok
    by_cases hdone : isCompleted checkpoint = true
    · rw [if_pos hdone] at hbody
      rw [(ends_pure_iff.mp hbody).1]
      exact Nat.zero_le _
    · rw [if_neg hdone] at hbody
      rcases ends_ofExcept_bind_iff.mp hbody with ⟨e, hno, -⟩ | ⟨page, hpage, hloop⟩
      · rw [hfirst] at hno
        cases hno
      rw [hfirst] at hpage
      cases hpage
      exact requests_le_of_pageRun (pageRun_of_ends hloop)

/-- A server that reports so many workflow runs and lists one node on every page, in front of a
storage that has no checkpoint and stores every page. -/
def reportingWorld (totalCount : Int) (_ : BackfillLog RestRequest) :
    (op : BackfillOp RestRequest) → BackfillReply op
  | .loadCheckpoint _ => .ok none
  | .persistPage _ _ nextCursor completed => .ok ⟨0, 0, onePage nextCursor completed⟩
  | .request _ => .ok (.object
      [("total_count", .number totalCount 0), ("workflow_runs", .array [sampleRun 1])])

/-- A window of exactly the cap, one run a page. -/
theorem workflow_runs_terminate_at_cap :
    ∃ log result,
      (∀ fuel, 1000 ≤ fuel →
        (runWorkflowRuns sampleReaders sampleSettings sampleWindow fuel).respond
          (reportingWorld 1000) [] = (log, result))
      ∧ (requests log).length ≤ 1000 := by
  have hbound : requestBound sampleSettings 1 = 1000 := by
    unfold requestBound maxFilteredWorkflowRuns sampleSettings
    norm_num
    rfl
  have hkey : sampleSettings.runKey "workflow_runs" "repository" sampleWindow = .ok sampleRunsKey :=
    rfl
  have hload : reportingWorld 1000 [] (.loadCheckpoint sampleRunsKey) = .ok none := rfl
  have hfirst : nextPage none = .ok 1 := rfl
  rw [← hbound]
  exact workflow_runs_terminate hkey (reportingWorld 1000) hload hfirst

end Backfill
