import DeliveryIntelligence.Backfill.RestCompleteness

set_option autoImplicit false

/-!
# Deployments and their statuses

The statuses of a deployment are traversed before its record is made, under a checkpoint of their
own that a later invocation skips when it is completed. With one page size for all invocations the
checkpoint of the deployments still never runs ahead of the statuses: the deployments before it that
lie in the window have their record and every status listed for them (`rest_nesting`), whichever
invocations overlap, crash or overwrite each other's checkpoints. Every checkpoint in progress can be
resumed.
-/

namespace Backfill

open Datetime Program RawEvents

/-! ## What a deployment owes -/

section

variable (readers : Readers) (settings : Settings) (listing : String → Listing)

/-- Every status listed for the deployment has its record. -/
def StatusesStored (deploymentId : Int) (window : Window) (events : RawTable) : Prop :=
  ∀ node ∈ (listing ((Traversal.deploymentStatuses deploymentId).path settings)).items,
    Selects ((Traversal.deploymentStatuses deploymentId).select readers settings window node)
      (Stored events)

/-- If the deployment was created in the window, it has its record, and so do all its statuses. -/
def DeploymentLanded (window : Window) (events : RawTable) (node : Json) : Prop :=
  Selects (Traversal.deployments.select readers settings window node) (Stored events)
    ∧ ∀ createdAt, restAwareDatetime readers node "created_at" = .ok createdAt →
      window.contains createdAt →
      ∃ deploymentId, requiredPositiveInt node "id" = .ok deploymentId
        ∧ StatusesStored readers settings listing deploymentId window events

/-- What a listed resource owes. -/
def ResourceLanded (window : Window) (events : RawTable) (node : Json) : Traversal → Prop
  | .workflowRuns => Selects (Traversal.workflowRuns.select readers settings window node)
      (Stored events)
  | .deployments => DeploymentLanded readers settings listing window events node
  | .deploymentStatuses deploymentId =>
      Selects ((Traversal.deploymentStatuses deploymentId).select readers settings window node)
        (Stored events)

end

variable {readers : Readers} {settings : Settings} {listing : String → Listing}

theorem StatusesStored.mono {deploymentId : Int} {window : Window} {events events' : RawTable}
    (h : StatusesStored readers settings listing deploymentId window events)
    (hext : Extends events events') :
    StatusesStored readers settings listing deploymentId window events' :=
  fun node hnode => (h node hnode).mono hext

theorem DeploymentLanded.mono {window : Window} {events events' : RawTable} {node : Json}
    (h : DeploymentLanded readers settings listing window events node)
    (hext : Extends events events') :
    DeploymentLanded readers settings listing window events' node := by
  refine ⟨h.1.mono hext, fun createdAt hcreated hin => ?_⟩
  obtain ⟨deploymentId, hid, hstatuses⟩ := h.2 createdAt hcreated hin
  exact ⟨deploymentId, hid, hstatuses.mono hext⟩

theorem selects_of_instants {t : Traversal} {window window' : Window} {P : BackfillRecord → Prop}
    {node : Json} (hstart : window.windowStart.instant = window'.windowStart.instant)
    (hend : window.windowEnd.instant = window'.windowEnd.instant)
    (h : Selects (t.select readers settings window node) P) :
    Selects (t.select readers settings window' node) P := by
  rw [← t.select_congr node hstart hend]
  exact h

/-- What a resource owes depends only on the instants of the window. -/
theorem ResourceLanded.congr {t : Traversal} {window window' : Window} {events : RawTable}
    {node : Json} (hstart : window.windowStart.instant = window'.windowStart.instant)
    (hend : window.windowEnd.instant = window'.windowEnd.instant)
    (h : ResourceLanded readers settings listing window events node t) :
    ResourceLanded readers settings listing window' events node t := by
  cases t with
  | workflowRuns => exact selects_of_instants hstart hend h
  | deploymentStatuses deploymentId => exact selects_of_instants hstart hend h
  | deployments =>
      refine ⟨selects_of_instants hstart hend h.1, fun createdAt hcreated hin => ?_⟩
      have hin' : window.contains createdAt := (Window.contains_congr hstart hend).mpr hin
      obtain ⟨deploymentId, hid, hstatuses⟩ := h.2 createdAt hcreated hin'
      exact ⟨deploymentId, hid, fun status hstatus =>
        selects_of_instants hstart hend (hstatuses status hstatus)⟩

/-- The traversals of the REST backfill, where a deployment owes its statuses too. -/
def nestedTraversals (readers : Readers) (settings : Settings) (listing : String → Listing) :
    Traversals Traversal where
  resource := Traversal.resource
  scope := Traversal.scope
  named_inj := Traversal.named_inj
  items t := (listing (t.path settings)).items
  Landed t window events node := ResourceLanded readers settings listing window events node t
  landed_mono t _ _ _ _ hext h := by
    cases t with
    | workflowRuns => exact Selects.mono h hext
    | deployments => exact DeploymentLanded.mono h hext
    | deploymentStatuses deploymentId => exact Selects.mono h hext
  landed_congr _ _ _ _ _ hstart hend h := h.congr hstart hend

/-! ## The invariant -/

/-- Every checkpoint stands behind landed resources, and one in progress names its next page. -/
structure RestStanding (readers : Readers) (settings : Settings) (listing : String → Listing)
    (tables : BackfillTables) : Prop where
  placed : (nestedTraversals readers settings listing).Placed settings.repositoryId
    (restPosition settings listing settings.pageSize) tables
  resumes : ∀ key row, tables.checkpoints.lookup key = some row → row.status = .inProgress →
    ∃ page, pageOfCursor row.cursor = .ok page

theorem restStanding_empty : RestStanding readers settings listing emptyTables := by
  constructor
  · exact Traversals.placed_empty
  · intro key row hrow
    cases hrow

theorem RestStanding.moreEvents {tables : BackfillTables} {events : RawTable}
    (h : RestStanding readers settings listing tables) (hext : Extends tables.events events) :
    RestStanding readers settings listing { tables with events } :=
  ⟨h.placed.moreEvents hext, h.resumes⟩

/-- A traversal goes on behind a covered part. -/
theorem RestStanding.covered {tables : BackfillTables} {t : Traversal} {window : Window}
    {page : Int} (h : RestStanding readers settings listing tables)
    (hopen : isCompleted (tables.checkpoints.lookup
      ((nestedTraversals readers settings listing).runKey settings.repositoryId t
        window).parameters) = false)
    (hpage : nextPage (tables.checkpoints.lookup
      ((nestedTraversals readers settings listing).runKey settings.repositoryId t
        window).parameters) = .ok page) :
    (nestedTraversals readers settings listing).Covered t window
      ((page - 1) * settings.pageSize).toNat tables.events := by
  generalize hlookup : tables.checkpoints.lookup _ = row at hopen hpage
  cases row with
  | none =>
      cases hpage
      rw [sub_self, zero_mul]
      exact Traversals.covered_zero
  | some checkpoint =>
      have hstatus : checkpoint.status = .inProgress := by
        cases hs : checkpoint.status with
        | inProgress => rfl
        | completed =>
            have hclosed : (checkpoint.status == .completed) = false := hopen
            rw [hs] at hclosed
            cases hclosed
      have hposition : restPosition settings listing settings.pageSize t checkpoint.cursor
          checkpoint.status = some ((page - 1) * settings.pageSize).toNat := by
        rw [hstatus]
        show (pageOfCursor checkpoint.cursor).toOption.map _ = _
        rw [show pageOfCursor checkpoint.cursor = .ok page from hpage]
        rfl
      exact h.placed t window checkpoint _ hlookup hposition

/-- The nodes of a page extend the covered part to its end. -/
theorem Traversals.Covered.page {T : Type} {F : Traversals T} {t : T} {window : Window}
    {page perPage : Int} {events : RawTable} (hperPage : 1 ≤ perPage) (hpage : 1 ≤ page)
    (hbefore : F.Covered t window ((page - 1) * perPage).toNat events)
    (hlanded : ∀ node ∈ pageOf (F.items t) perPage page, F.Landed t window events node) :
    F.Covered t window (page * perPage).toNat events := by
  have hnonneg : 0 ≤ (page - 1) * perPage := mul_nonneg (by omega) (by omega)
  have hsplit : page * perPage = (page - 1) * perPage + perPage := by ring
  have hend : (page * perPage).toNat = ((page - 1) * perPage).toNat + perPage.toNat := by omega
  rw [hend]
  exact hbefore.slice hlanded

/-! ## The traversals keep the invariant -/

section

variable {Start β : Type} {start : Start → Job RestRequest BackfillSummary × Int}
  {post : β → BackfillTables → Int → Prop} {tables : BackfillTables} {l : Int}
  {t : Traversal} {window : Window} {key : BackfillRunKey} {page : Int}

/-- The program keeps the invariant, whatever the other invocations do. -/
abbrev Stands (readers : Readers) (settings : Settings) (listing : String → Listing)
    (start : Start → Job RestRequest BackfillSummary × Int)
    (post : β → BackfillTables → Int → Prop) (prog : Job RestRequest β) (tables : BackfillTables)
    (l : Int) : Prop :=
  JobKeeps (serve listing) start (RestStanding readers settings listing) (fun _ _ _ => True) post
    prog tables l

/-- A committed page whose nodes have landed leaves its checkpoint behind them. -/
theorem RestStanding.persist {records : List BackfillRecord} {cursor : Option String}
    {completed : Bool} {before after : BackfillTables}
    (h : RestStanding readers settings listing before)
    (hkey : key.toRunKeyFields
      = (nestedTraversals readers settings listing).runKey settings.repositoryId t window)
    (hpage : 1 ≤ page)
    (hcursor : completed = false →
      ∃ text, cursor = some text ∧ Python.str (page + 1) = some text)
    (hcovered : (nestedTraversals readers settings listing).Covered t window
      (page * settings.pageSize).toNat after.events)
    (hlast : completed = true →
      (listing (t.path settings)).items.length ≤ (page * settings.pageSize).toNat)
    (hcommitted : PageCommitted key records cursor completed before after) :
    RestStanding readers settings listing after := by
  constructor
  · refine h.placed.persist hkey hcommitted fun n hn => ?_
    cases completed with
    | true =>
        cases hn
        exact hcovered.le (hlast rfl)
    | false =>
        obtain ⟨text, rfl, hstr⟩ := hcursor rfl
        have hposition : some (page * settings.pageSize).toNat = some n := by
          rw [← hn]
          show _ = (pageOfCursor (some text)).toOption.map _
          rw [pageOfCursor_str hpage hstr]
          show _ = some ((page + 1 - 1) * settings.pageSize).toNat
          rw [add_sub_cancel_right]
        cases hposition
        exact hcovered
  · intro other row hrow hstatus
    by_cases hother : other = key.parameters
    · obtain ⟨written, hwritten, hwrittenStatus, hlookup⟩ := hcommitted.checkpoint
      rw [hother, hlookup] at hrow
      cases hrow
      have hopen : completed = false := by
        rw [hwrittenStatus] at hstatus
        cases completed with
        | false => rfl
        | true => cases hstatus
      obtain ⟨text, htext, hstr⟩ := hcursor hopen
      rw [hwritten, htext]
      exact ⟨page + 1, pageOfCursor_str hpage hstr⟩
    · rw [hcommitted.others other hother] at hrow
      exact h.resumes other row hrow hstatus

theorem stands_persistNumberedPage {records : List BackfillRecord} {completed : Bool}
    {f : PageWriteOutcome → Job RestRequest β}
    (hkey : key.toRunKeyFields
      = (nestedTraversals readers settings listing).runKey settings.repositoryId t window)
    (hpage : 1 ≤ page)
    (hbefore : (nestedTraversals readers settings listing).Covered t window
      ((page - 1) * settings.pageSize).toNat tables.events)
    (hlanded : ∀ events, Extends tables.events events →
      (∀ record ∈ records, Stored events record) →
      ∀ node ∈ pageOf (listing (t.path settings)).items settings.pageSize page,
        ResourceLanded readers settings listing window events node t)
    (hlast : completed = true →
      (listing (t.path settings)).items.length ≤ (page * settings.pageSize).toNat)
    (h : ∀ outcome tables', (nestedTraversals readers settings listing).Covered t window
        (page * settings.pageSize).toNat tables'.events →
      Stands readers settings listing start post (f outcome) tables' l) :
    Stands readers settings listing start post (persistNumberedPage key records page completed >>= f)
      tables l := by
  have hcovered : ∀ events, Extends tables.events events →
      (∀ record ∈ records, Stored events record) →
      (nestedTraversals readers settings listing).Covered t window
        (page * settings.pageSize).toNat events :=
    fun events hext hstored => Traversals.Covered.page settings.pageSize_range.1 hpage
      (hbefore.mono hext) (hlanded events hext hstored)
  have hpersist : ∀ cursor,
      (completed = false → ∃ text, cursor = some text ∧ Python.str (page + 1) = some text) →
      Stands readers settings listing start post
        (Job.persistPage key records cursor completed >>= f) tables l := by
    intro cursor hcursor
    refine jobKeeps_persist (fun before after hext hinv hcommitted => ?_)
      fun outcome tables' hext _ hstored => h outcome tables' (hcovered _ hext hstored)
    exact hinv.persist hkey hpage hcursor
      (hcovered after.events (hext.trans hcommitted.events) hcommitted.stored) hlast hcommitted
  cases completed with
  | true => exact hpersist none fun hfalse => Bool.noConfusion hfalse
  | false =>
      rw [persistNumberedPage, if_neg Bool.false_ne_true]
      cases hstr : Python.str (page + 1) with
      | none => trivial
      | some cursor => exact hpersist (some cursor) fun _ => ⟨cursor, rfl, hstr⟩

theorem stands_workflowRunsLoop (summary : BackfillSummary) (fuel : Nat)
    (hkey : key.toRunKeyFields
      = (nestedTraversals readers settings listing).runKey settings.repositoryId .workflowRuns window)
    (hpage : 1 ≤ page)
    (hbefore : (nestedTraversals readers settings listing).Covered .workflowRuns window
      ((page - 1) * settings.pageSize).toNat tables.events) :
    Stands readers settings listing start (fun _ _ l' => l' = l)
      (workflowRunsLoop readers settings window key page summary fuel) tables l := by
  induction fuel generalizing page summary tables with
  | zero => trivial
  | succ fuel ih =>
      refine jobKeeps_request fun tables1 payload hext1 _ hserve => ?_
      refine jobKeeps_ofExcept fun response hresponse => ?_
      obtain ⟨totalCount, nodes, records⟩ := response
      obtain ⟨htotal, hnodes, hrecords⟩ := workflowRunsResponse_ok hresponse
      obtain ⟨rfl, hpageOf⟩ := serve_counted rfl rfl hserve htotal hnodes
      refine stands_persistNumberedPage hkey hpage (hbefore.mono hext1) ?_ ?_
        fun outcome tables2 hcovered => ?_
      · intro events _ hstored node hnode
        exact (windowRecords_ok hrecords node (hpageOf ▸ hnode)).imp hstored
      · intro hdone
        have hend : ((listing (settings.repositoryPath ++ "/actions/runs")).items.length : Int)
            ≤ page * settings.pageSize := of_decide_eq_true hdone
        show (listing (settings.repositoryPath ++ "/actions/runs")).items.length ≤ _
        omega
      · split
        · exact fun _ _ _ => rfl
        · split
          · trivial
          · refine ih _ (by omega) ?_
            rw [add_sub_cancel_right]
            exact hcovered

theorem stands_statusesLoop (deploymentId : Int) (summary : BackfillSummary) (fuel : Nat)
    (hkey : key.toRunKeyFields = (nestedTraversals readers settings listing).runKey
      settings.repositoryId (.deploymentStatuses deploymentId) window)
    (hpage : 1 ≤ page)
    (hbefore : (nestedTraversals readers settings listing).Covered
      (.deploymentStatuses deploymentId) window ((page - 1) * settings.pageSize).toNat
      tables.events) :
    Stands readers settings listing start
      (fun _ tables' l' =>
        StatusesStored readers settings listing deploymentId window tables'.events ∧ l' = l)
      (statusesLoop readers settings deploymentId key page summary fuel) tables l := by
  induction fuel generalizing page summary tables with
  | zero => trivial
  | succ fuel ih =>
      refine jobKeeps_request fun tables1 payload hext1 _ hserve => ?_
      refine jobKeeps_ofExcept fun nodes hnodes => ?_
      refine jobKeeps_ofExcept fun records hrecords => ?_
      have hpageOf := serve_plain rfl rfl hserve hnodes
      have hlast := short_page_last (t := .deploymentStatuses deploymentId)
        hpage hpageOf
      refine stands_persistNumberedPage hkey hpage (hbefore.mono hext1) ?_ hlast
        fun outcome tables2 hcovered => ?_
      · intro events _ hstored node hnode
        exact (statusRecords_ok hrecords node (hpageOf ▸ hnode)).imp hstored
      · split
        · rename_i hdone
          have hall : StatusesStored readers settings listing deploymentId window tables2.events :=
            hcovered.all (hlast hdone)
          exact fun tables3 hext3 _ => ⟨hall.mono hext3, rfl⟩
        · refine ih _ (by omega) ?_
          rw [add_sub_cancel_right]
          exact hcovered

/-- The resources of a completed traversal have landed. -/
theorem RestStanding.landed (h : RestStanding readers settings listing tables)
    (hdone : isCompleted (tables.checkpoints.lookup
      ((nestedTraversals readers settings listing).runKey settings.repositoryId t
        window).parameters) = true) :
    ∀ node ∈ (listing (t.path settings)).items,
      ResourceLanded readers settings listing window tables.events node t := by
  generalize hlookup : tables.checkpoints.lookup _ = row at hdone
  cases row with
  | none => cases hdone
  | some checkpoint =>
      have hstatus : checkpoint.status = .completed := eq_of_beq hdone
      have hposition : restPosition settings listing settings.pageSize t checkpoint.cursor
          checkpoint.status = some (listing (t.path settings)).items.length := by
        rw [hstatus]
        rfl
      exact (h.placed t window checkpoint _ hlookup hposition).all le_rfl

/-- A traversal is completed, or goes on behind a covered part. -/
theorem stands_resume {fields : RunKeyFields}
    {f : BackfillRunKey → Int → Job RestRequest BackfillSummary}
    {post : BackfillSummary → BackfillTables → Int → Prop}
    (hfields : fields
      = (nestedTraversals readers settings listing).runKey settings.repositoryId t window)
    (hdone : ∀ tables', (∀ node ∈ (listing (t.path settings)).items,
      ResourceLanded readers settings listing window tables'.events node t) →
      post .zero tables' l)
    (h : ∀ key page tables',
      key.toRunKeyFields
        = (nestedTraversals readers settings listing).runKey settings.repositoryId t window →
      1 ≤ page →
      (nestedTraversals readers settings listing).Covered t window
        ((page - 1) * settings.pageSize).toNat tables'.events →
      Stands readers settings listing start post (f key page) tables' l) :
    Stands readers settings listing start post
      (Prog.ofExcept (BackfillRunKey.postInit fields) >>= fun key =>
        Job.loadCheckpoint key >>= fun checkpoint =>
        if isCompleted checkpoint then pure .zero
        else Prog.ofExcept (nextPage checkpoint) >>= fun page => f key page) tables l := by
  refine jobKeeps_ofExcept fun key hkey => ?_
  have hkeyFields := BackfillRunKey.postInit_ok hkey
  rw [hfields] at hkeyFields
  refine jobKeeps_load fun tables1 _ hinv _ => ?_
  have hcheckpoint : loadCheckpoint key tables1 = tables1.checkpoints.lookup
      ((nestedTraversals readers settings listing).runKey settings.repositoryId t
        window).parameters := by
    rw [loadCheckpoint, hkeyFields]
  rw [hcheckpoint]
  split
  · rename_i hcompleted
    have hall := hinv.landed hcompleted
    exact fun tables2 hext2 _ => hdone tables2 fun node hnode =>
      (nestedTraversals readers settings listing).landed_mono t window _ _ node hext2
        (hall node hnode)
  · rename_i hopen
    refine jobKeeps_ofExcept fun page hpage => ?_
    exact h key page tables1 hkeyFields (nextPage_pos hpage)
      (hinv.covered (Bool.eq_false_iff.mpr hopen) hpage)

theorem stands_runWorkflowRuns (window : Window) (fuel : Nat) :
    Stands readers settings listing start (fun _ _ l' => l' = l)
      (runWorkflowRuns readers settings window fuel) tables l :=
  stands_resume rfl (fun _ _ => rfl) fun _ _ _ hkey hpage hbefore =>
    stands_workflowRunsLoop .zero fuel hkey hpage hbefore

theorem stands_runDeploymentStatuses (deploymentId : Int) (window : Window) (fuel : Nat) :
    Stands readers settings listing start
      (fun _ tables' l' =>
        StatusesStored readers settings listing deploymentId window tables'.events ∧ l' = l)
      (runDeploymentStatuses readers settings deploymentId window fuel) tables l :=
  stands_resume rfl (fun _ hall => ⟨hall, rfl⟩) fun _ _ _ hkey hpage hbefore =>
    stands_statusesLoop deploymentId .zero fuel hkey hpage hbefore

/-- The deployment has been traversed: its statuses are stored, and its record is made. -/
def Walked (readers : Readers) (settings : Settings) (listing : String → Listing)
    (window : Window) (records : List BackfillRecord) (events : RawTable) (node : Json) : Prop :=
  Selects (Traversal.deployments.select readers settings window node) (· ∈ records)
    ∧ ∀ createdAt, restAwareDatetime readers node "created_at" = .ok createdAt →
      window.contains createdAt →
      ∃ deploymentId, requiredPositiveInt node "id" = .ok deploymentId
        ∧ StatusesStored readers settings listing deploymentId window events

theorem Walked.landed {records : List BackfillRecord} {events events' : RawTable} {node : Json}
    (h : Walked readers settings listing window records events node)
    (hext : Extends events events') (hstored : ∀ record ∈ records, Stored events' record) :
    DeploymentLanded readers settings listing window events' node := by
  refine ⟨h.1.imp hstored, fun createdAt hcreated hin => ?_⟩
  obtain ⟨deploymentId, hid, hstatuses⟩ := h.2 createdAt hcreated hin
  exact ⟨deploymentId, hid, hstatuses.mono hext⟩

theorem Walked.mono {records records' : List BackfillRecord} {events events' : RawTable}
    {node : Json} (h : Walked readers settings listing window records events node)
    (hrecords : ∀ record ∈ records, record ∈ records') (hext : Extends events events') :
    Walked readers settings listing window records' events' node := by
  refine ⟨h.1.imp hrecords, fun createdAt hcreated hin => ?_⟩
  obtain ⟨deploymentId, hid, hstatuses⟩ := h.2 createdAt hcreated hin
  exact ⟨deploymentId, hid, hstatuses.mono hext⟩

/-- The deployments of a page are traversed on the way to its records. -/
theorem stands_deploymentRecords (window : Window) (nestedFuel : Nat) (summary : BackfillSummary)
    (nodes : List Json) (hinv : RestStanding readers settings listing tables) :
    Stands readers settings listing start
      (fun result tables' l' =>
        (∀ node ∈ nodes, Walked readers settings listing window result.1 tables'.events node)
          ∧ l' = l)
      (deploymentRecords readers settings window nestedFuel summary nodes) tables l := by
  induction nodes generalizing summary tables with
  | nil => exact fun _ _ _ => ⟨fun node hmem => absurd hmem List.not_mem_nil, rfl⟩
  | cons first rest ih =>
      refine jobKeeps_ofExcept fun createdAt hcreated => ?_
      split
      · rename_i hin
        refine jobKeeps_ofExcept fun deploymentId hid => ?_
        refine jobKeeps_bind hinv (stands_runDeploymentStatuses deploymentId window nestedFuel)
          fun statuses tables1 l1 _ hinv1 hmid => ?_
        obtain ⟨hstatuses, rfl⟩ := hmid
        refine jobKeeps_ofExcept fun record hrecord => ?_
        refine jobKeeps_bind hinv1 (ih _ hinv1) fun result tables2 l2 hext2 _ hresult => ?_
        obtain ⟨hrest, rfl⟩ := hresult
        have hfirst : Walked readers settings listing window (record :: result.1) tables2.events
            first := by
          refine ⟨⟨some record, ?_, fun r hr => ?_⟩, fun createdAt' hcreated' _ => ?_⟩
          · simp [Traversal.select, hcreated, hin, hrecord, Except.map, bind, Except.bind]
          · cases hr
            exact List.mem_cons_self
          · exact ⟨deploymentId, hid, hstatuses.mono hext2⟩
        refine fun tables3 hext3 _ => ⟨fun node hmem => ?_, rfl⟩
        rcases List.mem_cons.mp hmem with rfl | hin_rest
        · exact hfirst.mono (fun _ => id) hext3
        · exact (hrest node hin_rest).mono (fun _ => List.mem_cons_of_mem _) hext3
      -- outside the window the deployment owes nothing
      · rename_i hout
        refine (ih summary hinv).imp fun result _ _ hresult => ⟨fun node hmem => ?_, hresult.2⟩
        rcases List.mem_cons.mp hmem with rfl | hin_rest
        · refine ⟨⟨none, ?_, fun r hr => absurd hr.symm (Option.some_ne_none r)⟩, ?_⟩
          · simp [Traversal.select, hcreated, hout, bind, Except.bind, pure, Except.pure]
          · intro createdAt' hcreated' hin
            rw [hcreated] at hcreated'
            cases hcreated'
            exact absurd hin hout
        · exact hresult.1 node hin_rest

theorem stands_deploymentsLoop (nestedFuel : Nat) (summary : BackfillSummary) (fuel : Nat)
    (hkey : key.toRunKeyFields
      = (nestedTraversals readers settings listing).runKey settings.repositoryId .deployments window)
    (hpage : 1 ≤ page)
    (hbefore : (nestedTraversals readers settings listing).Covered .deployments window
      ((page - 1) * settings.pageSize).toNat tables.events) :
    Stands readers settings listing start (fun _ _ l' => l' = l)
      (deploymentsLoop readers settings window nestedFuel key page summary fuel) tables l := by
  induction fuel generalizing page summary tables with
  | zero => trivial
  | succ fuel ih =>
      refine jobKeeps_request fun tables1 payload hext1 hinv1 hserve => ?_
      refine jobKeeps_ofExcept fun nodes hnodes => ?_
      have hpageOf := serve_plain rfl rfl hserve hnodes
      refine jobKeeps_bind hinv1 (stands_deploymentRecords window nestedFuel summary nodes hinv1)
        fun result tables2 l2 hext2 _ hresult => ?_
      obtain ⟨hwalked, rfl⟩ := hresult
      refine stands_persistNumberedPage (t := .deployments) hkey hpage
        (hbefore.mono (hext1.trans hext2)) ?_ (short_page_last hpage hpageOf)
        fun outcome tables3 hcovered => ?_
      · intro events hext hstored node hnode
        exact (hwalked node (hpageOf ▸ hnode)).landed hext hstored
      · split
        · exact fun _ _ _ => rfl
        · refine ih _ (by omega) ?_
          rw [add_sub_cancel_right]
          exact hcovered

theorem stands_runRest (window : Window) (fuel : Nat)
    (hinv : RestStanding readers settings listing tables) :
    Stands readers settings listing start (fun _ _ _ => True)
      (runRest readers settings window fuel) tables l := by
  refine jobKeeps_bind hinv (stands_runWorkflowRuns window fuel) fun runs tables1 l1 _ hinv1 _ => ?_
  have hdeployments : Stands readers settings listing start (fun _ _ l' => l' = l1)
      (runDeployments readers settings window fuel) tables1 l1 :=
    stands_resume rfl (fun _ _ => rfl) fun _ _ _ hkey hpage hbefore =>
      stands_deploymentsLoop fuel .zero fuel hkey hpage hbefore
  exact jobKeeps_bind hinv1 hdeployments fun _ _ _ _ _ _ _ _ _ => trivial

end

/-! ## Every reachable state -/

/-- The contract of the REST backfill with one page size. -/
abbrev standingContract (readers : Readers) (settings : Settings) (listing : String → Listing) :
    Contract (BackfillOp RestRequest) BackfillTables Int :=
  backfillContract (RestStanding readers settings listing) (fun _ _ _ => True)

theorem standing_sound (readers : Readers) (settings : Settings) (listing : String → Listing) :
    (restSystem readers settings listing {settings.pageSize}).Sound
      (standingContract readers settings listing) := by
  refine backfill_sound (fun tables events hext hinv => hinv.moreEvents hext) fun a tables hinv => ?_
  refine jobKeeps_ofExcept fun configured hconfigured => ?_
  obtain ⟨hsize, rfl⟩ := Settings.init_ok hconfigured
  have hsame : settings.withPageSize a.1.pageSize hsize = settings := by
    have hpageSize : a.1.pageSize = settings.pageSize := a.2
    unfold Settings.withPageSize
    simp only [hpageSize]
  rw [hsame]
  exact stands_runRest a.1.window a.1.fuel hinv

theorem standing_of_run (readers : Readers) (settings : Settings) (listing : String → Listing)
    (schedule : List (restSystem readers settings listing {settings.pageSize}).Event) :
    RestStanding readers settings listing
      ((restSystem readers settings listing {settings.pageSize}).run schedule
        (restPool readers settings listing {settings.pageSize})).shared := by
  have hpool : (restPool readers settings listing {settings.pageSize}).Ok
      (standingContract readers settings listing) :=
    ⟨restStanding_empty, fun _ ht => absurd ht List.not_mem_nil⟩
  exact ((standing_sound readers settings listing).run schedule hpool
    (System.admissible_true _ schedule _)).1.1

/-- **Deployments behind their statuses.** In every state that any number of invocations with one
page size can reach, overlapping, crashing and resuming beside other writers: the resources before
the position of each checkpoint have landed, where a deployment of the window has landed with its
record and all its statuses; a completed traversal has them all; and every checkpoint in progress
names the page to go on with. -/
theorem rest_nesting (readers : Readers) (settings : Settings) (listing : String → Listing)
    (schedule : List (restSystem readers settings listing {settings.pageSize}).Event) :
    RestStanding readers settings listing
      ((restSystem readers settings listing {settings.pageSize}).run schedule
        (restPool readers settings listing {settings.pageSize})).shared
    ∧ ∀ (t : Traversal) (window : Window),
      isCompleted (((restSystem readers settings listing {settings.pageSize}).run schedule
        (restPool readers settings listing {settings.pageSize})).shared.checkpoints.lookup
          ((nestedTraversals readers settings listing).runKey settings.repositoryId t
            window).parameters) = true →
      ∀ node ∈ (listing (t.path settings)).items,
        ResourceLanded readers settings listing window
          ((restSystem readers settings listing {settings.pageSize}).run schedule
            (restPool readers settings listing {settings.pageSize})).shared.events node t := by
  have hstanding := standing_of_run readers settings listing schedule
  exact ⟨hstanding, fun t window hdone => hstanding.landed hdone⟩

end Backfill
