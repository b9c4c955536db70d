import DeliveryIntelligence.Backfill.RestTraversal

set_option autoImplicit false

/-!
# When the REST backfill loses no page

As long as every invocation resumes inside the stored part of a listing, the traversals keep
the invariant and a completed one has stored everything it selects (`rest_backfill_complete`).
One page size for all invocations is enough for that (`admissible_of_one_pageSize`); a page
size that is raised between two invocations is not (`raised_page_size_loses_a_run`).
-/

namespace Backfill

open Datetime Program RawEvents

variable {readers : Readers} {settings : Settings} {listing : String → Listing}

/-! ## The traversals keep the invariant -/

section

variable {Start β : Type} {start : Start → Job RestRequest BackfillSummary × Int}
  {post : β → BackfillTables → Int → Prop} {tables : BackfillTables} {l bound : Int}

/-- The program keeps the contract of the REST backfill. -/
abbrev RestKeeps (readers : Readers) (settings : Settings) (listing : String → Listing)
    (bound : Int) (start : Start → Job RestRequest BackfillSummary × Int)
    (post : β → BackfillTables → Int → Prop) (prog : Job RestRequest β) (tables : BackfillTables)
    (l : Int) : Prop :=
  JobKeeps (serve listing) start (RestPlaced readers settings listing bound)
    (Resumable readers settings listing) post prog tables l

variable {t : Traversal} {window : Window} {key : BackfillRunKey} {page : Int}
  (hbound : bound ≤ settings.pageSize)

include hbound

/-- A persisted page extends the covered part of the listing by one page. -/
theorem keeps_persistNumberedPage {records : List BackfillRecord} {completed : Bool}
    {f : PageWriteOutcome → Job RestRequest β}
    (hkey : key.toRunKeyFields
      = (restTraversals readers settings listing).runKey settings.repositoryId t window)
    (hpage : 1 ≤ page)
    (hbefore : (restTraversals readers settings listing).Covered t window
      ((page - 1) * settings.pageSize).toNat tables.events)
    (hrecords : ∀ node ∈ pageOf (listing (t.path settings)).items settings.pageSize page,
      Selects (t.select readers settings window node) (· ∈ records))
    (hlast : completed = true →
      (listing (t.path settings)).items.length ≤ (page * settings.pageSize).toNat)
    (h : ∀ outcome tables', (restTraversals readers settings listing).Covered t window
        (page * settings.pageSize).toNat tables'.events →
      RestKeeps readers settings listing bound start post (f outcome) tables' l) :
    RestKeeps readers settings listing bound start post
      (persistNumberedPage key records page completed >>= f) tables l := by
  have hcovered : ∀ events, Extends tables.events events →
      (∀ record ∈ records, Stored events record) →
      (restTraversals readers settings listing).Covered t window
        (page * settings.pageSize).toNat events :=
    fun events hext hstored =>
      covered_page hpage (hbefore.mono hext) fun node hnode => (hrecords node hnode).imp hstored
  have hle : (page * bound).toNat ≤ (page * settings.pageSize).toNat :=
    Int.toNat_le_toNat (mul_le_mul_of_nonneg_left hbound (by omega))
  -- the call with either cursor: only where the new checkpoint stands differs
  have hpersist : ∀ cursor,
      (completed = false → ∃ text, cursor = some text ∧ Python.str (page + 1) = some text) →
      RestKeeps readers settings listing bound start post
        (Job.persistPage key records cursor completed >>= f) tables l := by
    intro cursor hcursor
    refine jobKeeps_persist (fun before after hext hinv hcommitted => ?_)
      fun outcome tables' hext _ hstored => h outcome tables' (hcovered _ hext hstored)
    have hafter := hcovered after.events (hext.trans hcommitted.events) hcommitted.stored
    refine hinv.persist hkey hcommitted fun n hn => ?_
    cases completed with
    | true =>
        cases hn
        exact hafter.le (hlast rfl)
    | false =>
        obtain ⟨text, rfl, hstr⟩ := hcursor rfl
        have hposition : some (page * bound).toNat = some n := by
          rw [← hn]
          show _ = (pageOfCursor (some text)).toOption.map _
          rw [pageOfCursor_str hpage hstr]
          show _ = some ((page + 1 - 1) * bound).toNat
          rw [add_sub_cancel_right]
        cases hposition
        exact hafter.le hle
  cases completed with
  | true => exact hpersist none fun hfalse => Bool.noConfusion hfalse
  | false =>
      rw [persistNumberedPage, if_neg Bool.false_ne_true]
      cases hstr : Python.str (page + 1) with
      | none => trivial
      | some cursor => exact hpersist (some cursor) fun _ => ⟨cursor, rfl, hstr⟩

theorem keeps_workflowRunsLoop (summary : BackfillSummary) (fuel : Nat)
    (hkey : key.toRunKeyFields = (restTraversals readers settings listing).runKey
      settings.repositoryId .workflowRuns window)
    (hpage : 1 ≤ page)
    (hbefore : (restTraversals readers settings listing).Covered .workflowRuns window
      ((page - 1) * settings.pageSize).toNat tables.events) :
    RestKeeps readers settings listing bound start (fun _ _ l' => l' = l)
      (workflowRunsLoop readers settings window key page summary fuel) tables l := by
  induction fuel generalizing page summary tables with
  | zero => trivial
  | succ fuel ih =>
      refine jobKeeps_request fun tables1 payload hext1 _ hserve => ?_
      refine jobKeeps_ofExcept fun response hresponse => ?_
      obtain ⟨totalCount, nodes, records⟩ := response
      obtain ⟨htotal, hnodes, hrecords⟩ := workflowRunsResponse_ok hresponse
      -- the total count is that of the whole listing, so the last page is the last of the listing
      obtain ⟨rfl, hpageOf⟩ := serve_counted rfl rfl hserve htotal hnodes
      refine keeps_persistNumberedPage hbound hkey hpage (hbefore.mono hext1) (fun node hnode => ?_)
        (fun hdone => ?_) fun outcome tables2 hcovered => ?_
      · exact windowRecords_ok hrecords node (hpageOf ▸ hnode)
      · have hend : ((listing (settings.repositoryPath ++ "/actions/runs")).items.length : Int)
            ≤ page * settings.pageSize := of_decide_eq_true hdone
        show (listing (settings.repositoryPath ++ "/actions/runs")).items.length ≤ _
        omega
      · split
        · exact fun _ _ _ => rfl
        · split
          · trivial
          · refine ih _ (by omega) ?_
            rw [add_sub_cancel_right]
            exact hcovered

omit hbound in
/-- A short page ends a listing that is served as an array. -/
theorem short_page_last {nodes : List Json} (hpage : 1 ≤ page)
    (hnodes : nodes = pageOf (listing (t.path settings)).items settings.pageSize page)
    (hdone : decide ((nodes.length : Int) < settings.pageSize) = true) :
    (listing (t.path settings)).items.length ≤ (page * settings.pageSize).toNat := by
  have hshort := of_decide_eq_true hdone
  rw [hnodes] at hshort
  exact length_le_of_short settings.pageSize_range.1 hpage hshort

theorem keeps_statusesLoop (deploymentId : Int) (summary : BackfillSummary) (fuel : Nat)
    (hkey : key.toRunKeyFields = (restTraversals readers settings listing).runKey
      settings.repositoryId (.deploymentStatuses deploymentId) window)
    (hpage : 1 ≤ page)
    (hbefore : (restTraversals readers settings listing).Covered (.deploymentStatuses deploymentId) window
      ((page - 1) * settings.pageSize).toNat tables.events) :
    RestKeeps readers settings listing bound start (fun _ _ l' => l' = l)
      (statusesLoop readers settings deploymentId key page summary fuel) tables l := by
  induction fuel generalizing page summary tables with
  | zero => trivial
  | succ fuel ih =>
      refine jobKeeps_request fun tables1 payload hext1 _ hserve => ?_
      refine jobKeeps_ofExcept fun nodes hnodes => ?_
      refine jobKeeps_ofExcept fun records hrecords => ?_
      have hpageOf := serve_plain rfl rfl hserve hnodes
      refine keeps_persistNumberedPage hbound hkey hpage (hbefore.mono hext1) (fun node hnode => ?_)
        (short_page_last hpage hpageOf) fun outcome tables2 hcovered => ?_
      · exact statusRecords_ok hrecords node (hpageOf ▸ hnode)
      · split
        · exact fun _ _ _ => rfl
        · refine ih _ (by omega) ?_
          rw [add_sub_cancel_right]
          exact hcovered

omit hbound in
/-- A traversal begins with its checkpoint; the condition on the load covers the part before
the page it starts at. -/
theorem keeps_resume {fields : RunKeyFields}
    {f : BackfillRunKey → Int → Job RestRequest BackfillSummary}
    (hfields : fields
      = (restTraversals readers settings listing).runKey settings.repositoryId t window)
    (h : ∀ key page tables', Extends tables.events tables'.events →
      key.toRunKeyFields
        = (restTraversals readers settings listing).runKey settings.repositoryId t window →
      1 ≤ page →
      (restTraversals readers settings listing).Covered t window
        ((page - 1) * settings.pageSize).toNat tables'.events →
      RestKeeps readers settings listing bound start (fun _ _ l' => l' = settings.pageSize) (f key page) tables'
        settings.pageSize) :
    RestKeeps readers settings listing bound start (fun _ _ l' => l' = settings.pageSize)
      (Prog.ofExcept (BackfillRunKey.postInit fields) >>= fun key =>
        Job.loadCheckpoint key >>= fun checkpoint =>
        if isCompleted checkpoint then pure .zero
        else Prog.ofExcept (nextPage checkpoint) >>= fun page => f key page) tables
      settings.pageSize := by
  refine jobKeeps_ofExcept fun key hkey => ?_
  have hkeyFields := BackfillRunKey.postInit_ok hkey
  rw [hfields] at hkeyFields
  refine jobKeeps_load fun tables1 hext1 _ hguard => ?_
  split
  · exact fun _ _ _ => rfl
  · rename_i hopen
    refine jobKeeps_ofExcept fun page hpage => ?_
    refine h key page tables1 hext1 hkeyFields (nextPage_pos hpage) ?_
    exact hguard t window page hkeyFields (Bool.eq_false_iff.mpr hopen) hpage

theorem keeps_runWorkflowRuns (window : Window) (fuel : Nat) :
    RestKeeps readers settings listing bound start (fun _ _ l' => l' = settings.pageSize)
      (runWorkflowRuns readers settings window fuel) tables settings.pageSize :=
  keeps_resume rfl fun _ _ _ _ hkey hpage hbefore =>
    keeps_workflowRunsLoop hbound .zero fuel hkey hpage hbefore

theorem keeps_runDeploymentStatuses (deploymentId : Int) (window : Window) (fuel : Nat) :
    RestKeeps readers settings listing bound start (fun _ _ l' => l' = settings.pageSize)
      (runDeploymentStatuses readers settings deploymentId window fuel) tables
      settings.pageSize :=
  keeps_resume rfl fun _ _ _ _ hkey hpage hbefore =>
    keeps_statusesLoop hbound deploymentId .zero fuel hkey hpage hbefore

/-- The statuses of the deployments of a page are traversed on the way to its records. -/
theorem keeps_deploymentRecords (window : Window) (nestedFuel : Nat) (summary : BackfillSummary)
    (nodes : List Json) (hinv : RestPlaced readers settings listing bound tables) :
    RestKeeps readers settings listing bound start
      (fun result _ l' => (∀ node ∈ nodes,
          Selects (Traversal.deployments.select readers settings window node) (· ∈ result.1))
        ∧ l' = settings.pageSize)
      (deploymentRecords readers settings window nestedFuel summary nodes) tables
      settings.pageSize := by
  induction nodes generalizing summary tables with
  | nil => exact fun _ _ _ => ⟨fun node hmem => absurd hmem List.not_mem_nil, rfl⟩
  | cons first rest ih =>
      refine jobKeeps_ofExcept fun createdAt hcreated => ?_
      split
      · rename_i hin
        -- its statuses are traversed before its own record is made
        refine jobKeeps_ofExcept fun deploymentId _ => ?_
        refine jobKeeps_bind hinv (keeps_runDeploymentStatuses hbound deploymentId window nestedFuel)
          fun statuses tables1 l1 _ hinv1 hl1 => ?_
        subst hl1
        refine jobKeeps_ofExcept fun record hrecord => ?_
        refine jobKeeps_bind hinv1 (ih _ hinv1) fun result tables2 l2 _ _ hresult => ?_
        obtain ⟨hrest, rfl⟩ := hresult
        refine fun _ _ _ => ⟨fun node hmem => ?_, rfl⟩
        rcases List.mem_cons.mp hmem with rfl | hin_rest
        · refine ⟨some record, ?_, fun r hr => ?_⟩
          · simp [Traversal.select, hcreated, hin, hrecord, Except.map, bind, Except.bind]
          · cases hr
            exact List.mem_cons_self
        · exact (hrest node hin_rest).imp fun _ hr => List.mem_cons_of_mem _ hr
      -- outside the window the node selects nothing
      · rename_i hout
        refine (ih summary hinv).imp fun result _ _ hresult => ⟨fun node hmem => ?_, hresult.2⟩
        rcases List.mem_cons.mp hmem with rfl | hin_rest
        · refine ⟨none, ?_, fun r hr => absurd hr.symm (Option.some_ne_none r)⟩
          simp [Traversal.select, hcreated, hout, bind, Except.bind, pure, Except.pure]
        · exact hresult.1 node hin_rest

theorem keeps_deploymentsLoop (nestedFuel : Nat) (summary : BackfillSummary) (fuel : Nat)
    (hkey : key.toRunKeyFields = (restTraversals readers settings listing).runKey
      settings.repositoryId .deployments window) (hpage : 1 ≤ page)
    (hbefore : (restTraversals readers settings listing).Covered .deployments window
      ((page - 1) * settings.pageSize).toNat tables.events) :
    RestKeeps readers settings listing bound start (fun _ _ l' => l' = settings.pageSize)
      (deploymentsLoop readers settings window nestedFuel key page summary fuel) tables
      settings.pageSize := by
  induction fuel generalizing page summary tables with
  | zero => trivial
  | succ fuel ih =>
      refine jobKeeps_request fun tables1 payload hext1 hinv1 hserve => ?_
      refine jobKeeps_ofExcept fun nodes hnodes => ?_
      have hpageOf := serve_plain rfl rfl hserve hnodes
      refine jobKeeps_bind hinv1 (keeps_deploymentRecords hbound window nestedFuel summary nodes hinv1)
        fun result tables2 l2 hext2 _ hresult => ?_
      obtain ⟨hrecords, rfl⟩ := hresult
      refine keeps_persistNumberedPage hbound hkey hpage (hbefore.mono (hext1.trans hext2))
        (fun node hnode => ?_) (short_page_last hpage hpageOf) fun outcome tables3 hcovered => ?_
      · exact hrecords node (hpageOf ▸ hnode)
      · split
        · exact fun _ _ _ => rfl
        · refine ih _ (by omega) ?_
          rw [add_sub_cancel_right]
          exact hcovered

theorem keeps_runDeployments (window : Window) (fuel : Nat) :
    RestKeeps readers settings listing bound start (fun _ _ l' => l' = settings.pageSize)
      (runDeployments readers settings window fuel) tables settings.pageSize :=
  keeps_resume rfl fun _ _ _ _ hkey hpage hbefore =>
    keeps_deploymentsLoop hbound fuel .zero fuel hkey hpage hbefore

theorem keeps_runRest (window : Window) (fuel : Nat)
    (hinv : RestPlaced readers settings listing bound tables) :
    RestKeeps readers settings listing bound start (fun _ _ _ => True)
      (runRest readers settings window fuel) tables settings.pageSize := by
  refine jobKeeps_bind hinv (keeps_runWorkflowRuns hbound window fuel) fun runs tables1 l1 _ hinv1 hl1 => ?_
  subst hl1
  refine jobKeeps_bind hinv1 (keeps_runDeployments hbound window fuel) fun _ _ _ _ _ _ => ?_
  exact fun _ _ _ => trivial

end

/-- The invariant does not depend on the page size of the invocation. -/
theorem restPlaced_withPageSize {bound pageSize : Int} (hsize : 1 ≤ pageSize ∧ pageSize ≤ 100) :
    RestPlaced readers (settings.withPageSize pageSize hsize) listing bound
      = RestPlaced readers settings listing bound := rfl

theorem resumable_withPageSize {pageSize : Int} (hsize : 1 ≤ pageSize ∧ pageSize ≤ 100) :
    Resumable readers (settings.withPageSize pageSize hsize) listing
      = Resumable readers settings listing := rfl

section

variable {pageSizes : Set Int} {bound : Int}

/-- The contract of the REST backfill. -/
abbrev restContract (readers : Readers) (settings : Settings) (listing : String → Listing)
    (bound : Int) : Contract (BackfillOp RestRequest) BackfillTables Int :=
  backfillContract (RestPlaced readers settings listing bound)
    (Resumable readers settings listing)

/-- Every invocation keeps the invariant if its page size is not below the bound. -/
theorem rest_sound (hbound : ∀ pageSize ∈ pageSizes, 1 ≤ pageSize → bound ≤ pageSize) :
    (restSystem readers settings listing pageSizes).Sound
      (restContract readers settings listing bound) := by
  refine backfill_sound (fun tables events hext hinv => hinv.moreEvents hext) fun a tables hinv => ?_
  refine jobKeeps_ofExcept fun configured hconfigured => ?_
  obtain ⟨hsize, rfl⟩ := Settings.init_ok hconfigured
  rw [← restPlaced_withPageSize hsize, ← resumable_withPageSize hsize]
  exact keeps_runRest (hbound _ a.2 hsize.1) a.1.window a.1.fuel hinv

theorem restPool_ok : (restPool readers settings listing pageSizes).Ok
    (restContract readers settings listing bound) :=
  ⟨Traversals.placed_empty, fun _ ht => nomatch ht⟩

end

/-! ## One page size for all invocations -/

section

variable {pageSize : Int}

/-- Every invocation keeps its page size. -/
theorem pageSize_step {pool : (restSystem readers settings listing {pageSize}).Pool}
    (h : ∀ t ∈ pool.threads, t.2 = pageSize)
    (e : (restSystem readers settings listing {pageSize}).Event) :
    ∀ t ∈ ((restSystem readers settings listing {pageSize}).step e pool).threads,
      t.2 = pageSize := by
  cases e with
  | start a =>
      intro t ht
      rcases List.mem_append.mp ht with hold | hnew
      · exact h t hold
      · rw [List.mem_singleton.mp hnew]
        exact a.2
  | act i choice =>
      by_cases hcall : ∃ op k l, pool.threads[i]? = some (.call op k, l)
      · obtain ⟨op, k, l, hget⟩ := hcall
        rw [System.step_act _ hget]
        intro t ht
        rcases List.mem_or_eq_of_mem_set ht with hold | hnew
        · exact h t hold
        · have hl : l = pageSize := h _ (List.mem_of_getElem? hget)
          rw [hnew]
          exact (backfillAct_local (serve listing) op (choice op) pool.shared l).trans hl
      · rw [System.step_act_idle _ fun op k l hget => hcall ⟨op, k, l, hget⟩]
        exact h
  | stop i => exact fun t ht => h t (List.mem_of_mem_eraseIdx ht)
  | disturb row => exact h

/-- With one page size for all invocations every resumption is covered. -/
theorem admissible_of_one_pageSize
    (schedule : List (restSystem readers settings listing {pageSize}).Event) :
    (restSystem readers settings listing {pageSize}).Admissible
      (Resumable readers settings listing) schedule
      (restPool readers settings listing {pageSize}) := by
  have hsound : (restSystem readers settings listing {pageSize}).Sound
      (restContract readers settings listing pageSize) :=
    rest_sound fun other hother _ => le_of_eq hother.symm
  -- along the schedule go the invariant and the page size of every thread
  have hall : ∀ pool : (restSystem readers settings listing {pageSize}).Pool,
      pool.Ok (restContract readers settings listing pageSize) →
      (∀ t ∈ pool.threads, t.2 = pageSize) →
      (restSystem readers settings listing {pageSize}).Admissible
        (Resumable readers settings listing) schedule pool := by
    induction schedule with
    | nil => exact fun _ _ _ => trivial
    | cons e rest ih =>
        intro pool hok hsize
        have hallowed : (restSystem readers settings listing {pageSize}).Allowed
            (Resumable readers settings listing) e pool := by
          cases e with
          | act i choice =>
              intro op k l hget
              have hl : l = pageSize := hsize _ (List.mem_of_getElem? hget)
              rw [hl]
              exact resumable_of_placed hok.1 op
          | start a => trivial
          | stop i => trivial
          | disturb row => trivial
        exact ⟨hallowed, ih _ (hsound.step hok hallowed).1 (pageSize_step hsize e)⟩
  exact hall _ restPool_ok fun _ ht => nomatch ht

end

/-! ## Completeness -/

/-- **No page is lost when resumption is covered.** In every run of any number of invocations,
crashes and other writers in which each load of a checkpoint in progress finds everything
before the page it resumes at stored, a completed checkpoint implies that every listed resource
selected for its window is in the raw table. -/
theorem rest_backfill_complete (readers : Readers) (settings : Settings)
    (listing : String → Listing) (pageSizes : Set Int)
    (schedule : List (restSystem readers settings listing pageSizes).Event)
    (hresumable : (restSystem readers settings listing pageSizes).Admissible
      (Resumable readers settings listing) schedule
      (restPool readers settings listing pageSizes)) :
    Complete readers settings listing
      ((restSystem readers settings listing pageSizes).run schedule
        (restPool readers settings listing pageSizes)).shared := by
  have hsound : (restSystem readers settings listing pageSizes).Sound
      (restContract readers settings listing 0) := rest_sound fun pageSize _ hpos => by omega
  exact complete_of_placed (hsound.run schedule restPool_ok hresumable).1.1

/-! ## A run with an interruption -/

/-- A workflow run of the repository `acme/api`. -/
def sampleRun (id : Int) : Json :=
  .object
    [ ("id", .number id 0), ("run_attempt", .number 1 0), ("status", .string "completed")
    , ("created_at", .string "2026-01-05T00:00:00Z")
    , ("updated_at", .string "2026-01-05T00:00:00Z")
    , ("repository", .object [("id", .number 7 0), ("full_name", .string "acme/api")]) ]

/-- Two workflow runs and no deployment. -/
def sampleListing (path : String) : Listing :=
  if path = "repos/acme/api/actions/runs" then .counted "workflow_runs" [sampleRun 1, sampleRun 2]
  else .plain []

def sampleDeployment (id : Int) : Json :=
  .object [("id", .number id 0), ("created_at", .string "2026-01-05T00:00:00Z")]

def sampleStatus (id : Int) : Json :=
  .object
    [ ("id", .number id 0), ("state", .string "success")
    , ("created_at", .string "2026-01-06T00:00:00Z") ]

/-- Two workflow runs, one of them listed twice, and a deployment with two statuses. -/
def busyListing (path : String) : Listing :=
  if path = "repos/acme/api/actions/runs" then
    .counted "workflow_runs" [sampleRun 1, sampleRun 2, sampleRun 1]
  else if path = "repos/acme/api/deployments" then .plain [sampleDeployment 3]
  else if path = "repos/acme/api/deployments/3/statuses" then
    .plain [sampleStatus 4, sampleStatus 5]
  else .plain []

/-- An invocation crashes after its first page of workflow runs, and another one resumes. -/
def interruptedRun (pageSizes : Set Int) (first second : pageSizes) :
    List (restSystem sampleReaders sampleSettings sampleListing pageSizes).Event :=
  [ .start ⟨⟨first.1, sampleWindow, 5⟩, first.2⟩
  , .act 0 (smoothly 1), .act 0 (smoothly 1), .act 0 (smoothly 1), .stop 0
  , .start ⟨⟨second.1, sampleWindow, 5⟩, second.2⟩
  , .act 0 (smoothly 2), .act 0 (smoothly 2), .act 0 (smoothly 2) ]

/-- The tables after it. -/
def afterInterruption (pageSizes : Set Int) (first second : pageSizes) : BackfillTables :=
  ((restSystem sampleReaders sampleSettings sampleListing pageSizes).run
    (interruptedRun pageSizes first second)
    (restPool sampleReaders sampleSettings sampleListing pageSizes)).shared

/-- The checkpoint of the workflow runs. -/
def sampleCheckpoint (tables : BackfillTables) : Option BackfillCheckpoint :=
  tables.checkpoints.lookup ((restTraversals sampleReaders sampleSettings sampleListing).runKey
    sampleSettings.repositoryId .workflowRuns sampleWindow).parameters

theorem rest_backfill_complete_after_interruption :
    isCompleted (sampleCheckpoint (afterInterruption {1} ⟨1, rfl⟩ ⟨1, rfl⟩)) = true
    ∧ Complete sampleReaders sampleSettings sampleListing
        (afterInterruption {1} ⟨1, rfl⟩ ⟨1, rfl⟩) := by
  constructor
  · decide +kernel
  · exact rest_backfill_complete sampleReaders sampleSettings sampleListing {1}
      (interruptedRun {1} ⟨1, rfl⟩ ⟨1, rfl⟩) (admissible_of_one_pageSize _)

/-- A first invocation with one run a page and a second one with a hundred: the second resumes
at page 2, finds nothing there, and completes the traversal without the second run. -/
theorem raised_page_size_loses_a_run :
    isCompleted (sampleCheckpoint (afterInterruption Set.univ ⟨1, trivial⟩ ⟨100, trivial⟩)) = true
    ∧ ¬ Complete sampleReaders sampleSettings sampleListing
        (afterInterruption Set.univ ⟨1, trivial⟩ ⟨100, trivial⟩) := by
  have hdone : isCompleted (sampleCheckpoint
      (afterInterruption Set.univ ⟨1, trivial⟩ ⟨100, trivial⟩)) = true := by
    decide +kernel
  refine ⟨hdone, fun h => ?_⟩
  have hlisted : sampleRun 2
      ∈ (sampleListing (Traversal.workflowRuns.path sampleSettings)).items :=
    List.mem_cons_of_mem _ List.mem_cons_self
  obtain ⟨r, hr, hstored⟩ := h .workflowRuns sampleWindow hdone (sampleRun 2) hlisted
  have hkey : (Traversal.workflowRuns.select sampleReaders sampleSettings sampleWindow
      (sampleRun 2)).toOption.join.map (·.sourceRecordKey)
      = some "github_rest:workflow_run:2:1:2026-01-05T00:00:00+00:00" := by
    decide +kernel
  have hmissing : (afterInterruption Set.univ ⟨1, trivial⟩ ⟨100, trivial⟩).events.lookup
      (.backfill, "github_rest:workflow_run:2:1:2026-01-05T00:00:00+00:00") = none := by
    apply Option.isNone_iff_eq_none.mp
    decide +kernel
  rw [hr] at hkey
  obtain ⟨record, hrecord, hsource⟩ := Option.map_eq_some_iff.mp hkey
  obtain ⟨row, hrow⟩ := hstored record hrecord
  rw [hsource, hmissing] at hrow
  cases hrow

end Backfill
