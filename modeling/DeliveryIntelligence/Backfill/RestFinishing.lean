import DeliveryIntelligence.Backfill.RestNesting
import DeliveryIntelligence.Backfill.Steady
import DeliveryIntelligence.Common.Pydantic

set_option autoImplicit false

/-!
# An interrupted REST backfill can be finished

The page a checkpoint names may be one the traversal has already seen, one behind the end of the
listing or one another invocation wrote, and the statuses of a deployment may have been left half
way. Whatever overlapping, failing and crashing invocations have left behind, one that is not
disturbed any more returns, completes the traversals of its window and leaves every resource they
select stored (`interrupted_backfill_finishes`), provided the API lists resources the tables accept
(`WellServed`) and the counters of the checkpoints are not at the end of their columns.
-/

namespace Backfill

open Datetime Postgres Program RawEvents

/-! ## A server whose answers can be stored -/

/-- The listing has the form in which the traversal reads it. -/
def Listing.Suits : Listing → Traversal → Prop
  | .counted name items, .workflowRuns =>
      name = "workflow_runs" ∧ (items.length : Int) ≤ maxFilteredWorkflowRuns
  | .counted _ _, _ => False
  | .plain _, .workflowRuns => False
  | .plain _, _ => True

section

variable (readers : Readers) (settings : Settings) (listing : String → Listing) (window : Window)

/-- The traversals an invocation for the window makes. -/
def OfWindow : Traversal → Prop
  | .workflowRuns => True
  | .deployments => True
  | .deploymentStatuses deploymentId =>
      ∃ node ∈ (listing (Traversal.deployments.path settings)).items,
        (∃ createdAt, restAwareDatetime readers node "created_at" = .ok createdAt
          ∧ window.contains createdAt)
        ∧ requiredPositiveInt node "id" = .ok deploymentId

/-- For the window the API lists what it documents, as rows the raw table accepts. -/
structure WellServed : Prop where
  window_ordered : window.windowStart.instant < window.windowEnd.instant
  repositoryId_fits : fitsBigint settings.repositoryId = true
  suits : ∀ t, OfWindow readers settings listing window t → (listing (t.path settings)).Suits t
  objects : ∀ t, OfWindow readers settings listing window t →
    ∀ node ∈ (listing (t.path settings)).items, isObject node = true
  storable : ∀ t, OfWindow readers settings listing window t →
    ∀ node ∈ (listing (t.path settings)).items,
      Selects (t.select readers settings window node) Storable

end

variable {readers : Readers} {settings : Settings} {listing : String → Listing} {window : Window}

/-! ## Pages of a listing -/

theorem mem_of_mem_pageOf {items : List Json} {perPage page : Int} {node : Json}
    (h : node ∈ pageOf items perPage page) : node ∈ items :=
  List.mem_of_mem_drop (List.mem_of_mem_take h)

theorem length_pageOf_le (items : List Json) (perPage page : Int) :
    (pageOf items perPage page).length ≤ perPage.toNat := by
  unfold pageOf
  exact List.length_take_le _ _

/-- A full page lies inside the listing. -/
theorem le_length_of_full {items : List Json} {perPage page : Int} (hperPage : 1 ≤ perPage)
    (hpage : 1 ≤ page) (hfull : ¬ ((pageOf items perPage page).length : Int) < perPage) :
    page * perPage ≤ items.length := by
  have hstart : page * perPage = (page - 1) * perPage + perPage := by ring
  have hnonneg : 0 ≤ (page - 1) * perPage := mul_nonneg (by omega) (by omega)
  unfold pageOf at hfull
  rw [List.length_take, List.length_drop] at hfull
  omega

theorem serve_of_counted {request : RestRequest} {perPage page : Int} {name : String}
    {items : List Json}
    (hperPage : getMember (.object request.params) "per_page" = .number perPage 0)
    (hpage : getMember (.object request.params) "page" = .number page 0)
    (hlisting : listing request.path = .counted name items) :
    serve listing request = .ok (.object
      [("total_count", .number items.length 0), (name, .array (pageOf items perPage page))]) := by
  unfold serve
  rw [hperPage, hpage]
  simp only [hlisting]

theorem serve_of_plain {request : RestRequest} {perPage page : Int} {items : List Json}
    (hperPage : getMember (.object request.params) "per_page" = .number perPage 0)
    (hpage : getMember (.object request.params) "page" = .number page 0)
    (hlisting : listing request.path = .plain items) :
    serve listing request = .ok (.array (pageOf items perPage page)) := by
  unfold serve
  rw [hperPage, hpage]
  simp only [hlisting]

/-! ## Records of a page -/

/-- The tables accept the record under a checkpoint of the repository. -/
def Accepted (settings : Settings) (record : BackfillRecord) : Prop :=
  Storable record ∧ record.repositoryId = settings.repositoryId

theorem BackfillRecord.postInit_ok {f : RecordFields} {record : BackfillRecord}
    (h : BackfillRecord.postInit f = .ok record) : record.toRecordFields = f := by
  unfold BackfillRecord.postInit at h
  split at h
  · split at h
    · cases h
      rfl
    · cases h
  · cases h

theorem repositoryId_of_workflowRun {node : Json} {record : BackfillRecord}
    (h : workflowRunRecord readers settings node = .ok record) :
    record.repositoryId = settings.repositoryId := by
  obtain ⟨runId, -, h⟩ := bind_eq_ok h
  obtain ⟨attempt, -, h⟩ := bind_eq_ok h
  obtain ⟨createdAt, -, h⟩ := bind_eq_ok h
  obtain ⟨updatedAt, -, h⟩ := bind_eq_ok h
  obtain ⟨status, -, h⟩ := bind_eq_ok h
  obtain ⟨_, -, h⟩ := bind_eq_ok h
  rw [BackfillRecord.postInit_ok h]

theorem repositoryId_of_deployment {node : Json} {createdAt : Aware} {record : BackfillRecord}
    (h : deploymentRecord settings node createdAt = .ok record) :
    record.repositoryId = settings.repositoryId := by
  obtain ⟨deploymentId, -, h⟩ := bind_eq_ok h
  rw [BackfillRecord.postInit_ok h]

theorem repositoryId_of_status {deploymentId : Int} {node : Json} {record : BackfillRecord}
    (h : deploymentStatusRecord readers settings deploymentId node = .ok record) :
    record.repositoryId = settings.repositoryId := by
  obtain ⟨statusId, -, h⟩ := bind_eq_ok h
  obtain ⟨state, -, h⟩ := bind_eq_ok h
  obtain ⟨occurredAt, -, h⟩ := bind_eq_ok h
  rw [BackfillRecord.postInit_ok h]

theorem windowRecords_total (nodes : List Json)
    (h : ∀ node ∈ nodes, Selects (Traversal.workflowRuns.select readers settings window node)
      Storable) :
    ∃ records, windowRecords readers settings window nodes = .ok records
      ∧ (∀ record ∈ records, Accepted settings record) ∧ records.length ≤ nodes.length := by
  induction nodes with
  | nil => exact ⟨[], rfl, fun _ hmem => absurd hmem List.not_mem_nil, le_rfl⟩
  | cons first rest ih =>
      obtain ⟨records, hrecords, haccepted, hlength⟩ :=
        ih fun node hnode => h node (List.mem_cons_of_mem _ hnode)
      obtain ⟨r, hselect, hstorable⟩ := h first List.mem_cons_self
      obtain ⟨createdAt, hcreated, hselect⟩ := bind_eq_ok hselect
      unfold windowRecords
      rw [hcreated]
      by_cases hin : window.contains createdAt
      · rw [if_pos hin] at hselect
        obtain ⟨record, hrecord, rfl⟩ := map_eq_ok_iff.mp hselect
        refine ⟨record :: records, ?_, ?_, Nat.succ_le_succ hlength⟩
        · show (if window.contains createdAt then _ else _) = _
          rw [if_pos hin, hrecord]
          show (windowRecords readers settings window rest >>= _) = _
          rw [hrecords]
          rfl
        · intro other hother
          rcases List.mem_cons.mp hother with rfl | hmem
          · exact ⟨hstorable _ rfl, repositoryId_of_workflowRun hrecord⟩
          · exact haccepted other hmem
      · refine ⟨records, ?_, haccepted, hlength.trans (Nat.le_succ _)⟩
        show (if window.contains createdAt then _ else _) = _
        rw [if_neg hin]
        exact hrecords

theorem statusRecords_total {deploymentId : Int} (nodes : List Json)
    (h : ∀ node ∈ nodes, Selects
      ((Traversal.deploymentStatuses deploymentId).select readers settings window node) Storable) :
    ∃ records, statusRecords readers settings deploymentId nodes = .ok records
      ∧ (∀ record ∈ records, Accepted settings record) ∧ records.length ≤ nodes.length := by
  induction nodes with
  | nil => exact ⟨[], rfl, fun _ hmem => absurd hmem List.not_mem_nil, le_rfl⟩
  | cons first rest ih =>
      obtain ⟨records, hrecords, haccepted, hlength⟩ :=
        ih fun node hnode => h node (List.mem_cons_of_mem _ hnode)
      obtain ⟨r, hselect, hstorable⟩ := h first List.mem_cons_self
      obtain ⟨record, hrecord, rfl⟩ := map_eq_ok_iff.mp hselect
      refine ⟨record :: records, ?_, ?_, Nat.succ_le_succ hlength⟩
      · unfold statusRecords
        rw [hrecord]
        show (statusRecords readers settings deploymentId rest >>= _) = _
        rw [hrecords]
        rfl
      · intro other hother
        rcases List.mem_cons.mp hother with rfl | hmem
        · exact ⟨hstorable _ rfl, repositoryId_of_status hrecord⟩
        · exact haccepted other hmem

/-! ## What the server answers -/

/-- What `_run_workflow_runs` reads from a page. -/
theorem workflowRuns_read (h : WellServed readers settings listing window) {payload : Json}
    (page : Int)
    (hpayload : payload = .object
      [ ("total_count", .number (listing (Traversal.workflowRuns.path settings)).items.length 0)
      , ("workflow_runs", .array (pageOf (listing (Traversal.workflowRuns.path settings)).items
          settings.pageSize page)) ])
    (hcap : ((listing (Traversal.workflowRuns.path settings)).items.length : Int)
      ≤ maxFilteredWorkflowRuns) :
    ∃ records, workflowRunsResponse readers settings window payload
        = .ok ((listing (Traversal.workflowRuns.path settings)).items.length,
            pageOf (listing (Traversal.workflowRuns.path settings)).items settings.pageSize page,
            records)
      ∧ (∀ record ∈ records, Accepted settings record)
      ∧ records.length ≤ settings.pageSize.toNat := by
  generalize hitems : (listing (Traversal.workflowRuns.path settings)).items = items at *
  have hobjects : (pageOf items settings.pageSize page).all isObject = true := by
    refine List.all_eq_true.mpr fun node hnode => h.objects .workflowRuns trivial node ?_
    rw [hitems]
    exact mem_of_mem_pageOf hnode
  obtain ⟨records, hrecords, haccepted, hlength⟩ :=
    windowRecords_total (pageOf items settings.pageSize page) fun node hnode =>
      h.storable .workflowRuns trivial node (by rw [hitems]; exact mem_of_mem_pageOf hnode)
  have htotal : requiredNonnegativeInt payload "total_count" = .ok (items.length : Int) := by
    unfold requiredNonnegativeInt
    rw [hpayload, getMember_pair, if_neg (by decide), if_pos rfl]
    exact if_neg (not_lt.mpr (Int.natCast_nonneg _))
  have hnodes : requiredObjectList payload "workflow_runs"
      = .ok (pageOf items settings.pageSize page) := by
    unfold requiredObjectList
    rw [hpayload, getMember_pair, if_pos rfl]
    exact if_pos hobjects
  refine ⟨records, ?_, haccepted, hlength.trans (length_pageOf_le _ _ _)⟩
  have hobject : requiredObjectPayload payload "workflow-run response" = .ok payload := by
    rw [hpayload]
    rfl
  unfold workflowRunsResponse
  rw [hobject]
  show (requiredNonnegativeInt payload "total_count" >>= _) = _
  rw [htotal]
  show (if (items.length : Int) > maxFilteredWorkflowRuns then _ else _) = _
  rw [if_neg (not_lt.mpr hcap), hnodes]
  show (windowRecords readers settings window (pageOf items settings.pageSize page) >>= _) = _
  rw [hrecords]
  rfl

/-- What is read from a page that is served as an array. -/
theorem array_read (h : WellServed readers settings listing window) {t : Traversal}
    (ht : OfWindow readers settings listing window t) (page : Int) (name : String) :
    requiredArrayPayload (.array (pageOf (listing (t.path settings)).items settings.pageSize page))
      name = .ok (pageOf (listing (t.path settings)).items settings.pageSize page) := by
  have hobjects : (pageOf (listing (t.path settings)).items settings.pageSize page).all isObject
      = true :=
    List.all_eq_true.mpr fun node hnode => h.objects t ht node (mem_of_mem_pageOf hnode)
  unfold requiredArrayPayload
  exact if_pos hobjects

/-! ## Keys -/

theorem hasText_toString {n : Int} (h : 0 < n) : Python.hasText (toString n) = true := by
  obtain ⟨c, hc⟩ : ∃ c, c ∈ (toString n).toList := by
    cases n with
    | ofNat m =>
        have hne : Nat.toDigits 10 m ≠ [] := Nat.toDigits_ne_nil
        refine ⟨(Nat.toDigits 10 m).head hne, ?_⟩
        show _ ∈ Text.intText (Int.ofNat m)
        rw [Text.intText_ofNat]
        exact List.head_mem hne
    | negSucc m => omega
  exact List.any_eq_true.mpr ⟨c, hc, by simp [(isDigit_or_sign hc).2]⟩

/-- The scope of a traversal of the window can be stored. -/
theorem scope_fits {t : Traversal} (ht : OfWindow readers settings listing window t) :
    Python.hasText t.scope = true ∧ fitsText t.scope = true := by
  cases t with
  | workflowRuns => exact ⟨by decide, by decide⟩
  | deployments => exact ⟨by decide, by decide⟩
  | deploymentStatuses deploymentId =>
      obtain ⟨node, -, -, hid⟩ := ht
      have hpos : 0 < deploymentId := by
        obtain ⟨value, hvalue, hid⟩ := bind_eq_ok hid
        unfold requiredNonnegativeInt at hvalue
        split at hvalue
        · split at hvalue
          · cases hvalue
          · cases hvalue
            split at hid
            · cases hid
            · cases hid
              omega
        · cases hvalue
      exact ⟨hasText_toString hpos, fitsText_toString deploymentId⟩

theorem resource_fits (t : Traversal) :
    Python.hasText t.resource = true ∧ fitsText t.resource = true := by
  cases t with
  | workflowRuns => exact ⟨by decide, by decide⟩
  | deployments => exact ⟨by decide, by decide⟩
  | deploymentStatuses deploymentId =>
      exact ⟨(by decide : Python.hasText "deployment_statuses" = true),
        (by decide : fitsText "deployment_statuses" = true)⟩

/-- The key under which a traversal of the window stands. -/
def Traversal.key (settings : Settings) (window : Window) (t : Traversal) : CheckpointKey :=
  .ofRun settings.repositoryId t.resource t.scope window

theorem runKey_total (h : WellServed readers settings listing window) {t : Traversal}
    (ht : OfWindow readers settings listing window t) :
    ∃ key, settings.runKey t.resource t.scope window = .ok key
      ∧ key.parameters = t.key settings window ∧ KeyFits (t.key settings window) := by
  have hresource := resource_fits t
  have hscope := scope_fits ht
  have hkey : settings.runKey t.resource t.scope window
      = .ok ⟨⟨settings.repositoryId, t.resource, t.scope, window⟩, settings.identities_pos.1,
          ⟨hresource.1, hscope.1⟩, h.window_ordered⟩ := by
    unfold Settings.runKey BackfillRunKey.postInit
    rw [dif_pos settings.identities_pos.1, dif_pos ⟨hresource.1, hscope.1⟩,
      dif_pos h.window_ordered]
  refine ⟨_, hkey, rfl, ?_⟩
  constructor
  · exact ⟨settings.identities_pos.1, h.repositoryId_fits⟩
  · exact ⟨hresource.2, Pydantic.nonempty_of_hasText hresource.1⟩
  · exact ⟨hscope.2, Pydantic.nonempty_of_hasText hscope.1⟩
  · exact h.window_ordered

/-! ## A page -/

/-- What a page leaves under its key, and that it leaves every other checkpoint alone. -/
structure PageLeft (pages : Nat) (completed : Bool) (key : CheckpointKey)
    (before after : CheckpointTable) : Prop where
  status : Completed key after ↔ completed = true
  room : HasRoom pages (after.lookup key)
  others : ∀ other, other ≠ key → after.lookup other = before.lookup other

section

variable {β : Type} {post : β → CheckpointTable → Prop} {checkpoints : CheckpointTable}
  {key : BackfillRunKey} {page : Int} {pages : Nat}

theorem str_of_small (hpage : 1 ≤ page) (hsmall : page < 2 ^ 31) :
    Python.str (page + 1) = some (toString (page + 1)) := by
  have hdigits : (Nat.repr (page + 1).natAbs).length ≤ 10 :=
    Nat.repr_length _ 10 (by omega) (by omega)
  have hlength : (toString (page + 1).natAbs).toList.length ≤ Python.maxStrDigits :=
    le_trans hdigits (by decide)
  rw [Python.str, if_pos hlength]

theorem pageLeft_insert {cursor : Option String} {completed : Bool} {inserted : Nat}
    {k : CheckpointKey} (hroom : HasRoom (pages + 1) (checkpoints.lookup k))
    (hinserted : inserted ≤ 100) :
    PageLeft pages completed k checkpoints (checkpoints.insert k
      (advancedRow cursor (statusOf completed) inserted (checkpoints.lookup k))) := by
  constructor
  · unfold Completed
    rw [AList.lookup_insert]
    have hstatus : (advancedRow cursor (statusOf completed) inserted (checkpoints.lookup k)).status
        = statusOf completed := by
      cases checkpoints.lookup k <;> rfl
    show ((advancedRow cursor (statusOf completed) inserted (checkpoints.lookup k)).status
      == .completed) = true ↔ _
    rw [hstatus]
    cases completed <;> decide
  · rw [AList.lookup_insert]
    exact hroom.advanced hinserted
  · exact fun other hne => AList.lookup_insert_ne hne

theorem concludes_persistNumberedPage {records : List BackfillRecord} {completed : Bool}
    {f : PageWriteOutcome → Job RestRequest β}
    {t : Traversal} (hkey : key.parameters = t.key settings window) (hfits : KeyFits key.parameters)
    (hpage : 1 ≤ page) (hsmall : completed = false → page < 2 ^ 31)
    (hroom : HasRoom (pages + 1) (checkpoints.lookup key.parameters))
    (hrecords : ∀ record ∈ records, Accepted settings record)
    (hcount : records.length ≤ settings.pageSize.toNat)
    (h : ∀ outcome checkpoints', PageLeft pages completed key.parameters checkpoints checkpoints' →
      Concludes (serve listing) post (f outcome) checkpoints') :
    Concludes (serve listing) post (persistNumberedPage key records page completed >>= f)
      checkpoints := by
  have hhundred : records.length ≤ 100 := by
    have hmax := settings.pageSize_range.2
    omega
  have hsame : (records.any fun record => record.repositoryId != key.repositoryId) = false := by
    rw [List.any_eq_false]
    intro record hrecord
    have hrepository : key.repositoryId = settings.repositoryId :=
      congrArg CheckpointKey.repositoryId hkey
    rw [(hrecords record hrecord).2, hrepository]
    simp
  -- the call with either cursor
  have hpersist : ∀ cursor, (completed = true → cursor = none) →
      (completed = false → ∃ text, cursor = some text ∧ fitsText text = true ∧ text ≠ "") →
      Concludes (serve listing) post (Job.persistPage key records cursor completed >>= f)
        checkpoints := by
    intro cursor hdone hmore
    have hcursor : cursor.all fitsText = true := by
      cases completed with
      | true =>
          rw [hdone rfl]
          rfl
      | false =>
          obtain ⟨text, rfl, htext, -⟩ := hmore rfl
          exact htext
    refine concludes_persist (fun record hrecord => (hrecords record hrecord).1) ?_ ?_ ?_
    · unfold checkPage
      rw [hsame]
      cases completed with
      | true =>
          rw [hdone rfl]
          rfl
      | false =>
          obtain ⟨text, rfl, -, hne⟩ := hmore rfl
          simp [hne]
    · intro inserted hinserted old hold
      rcases hold with rfl | rfl
      · exact accepts_of_room hfits hroom.none_of hcursor hdone (hinserted.trans hhundred)
      · exact accepts_of_room hfits hroom hcursor hdone (hinserted.trans hhundred)
    · intro outcome inserted hinserted
      exact h outcome _ (pageLeft_insert hroom (hinserted.trans hhundred))
  cases completed with
  | true => exact hpersist none (fun _ => rfl) fun hfalse => Bool.noConfusion hfalse
  | false =>
      rw [persistNumberedPage, if_neg Bool.false_ne_true, str_of_small hpage (hsmall rfl)]
      refine hpersist _ (fun htrue => Bool.noConfusion htrue) fun _ =>
        ⟨_, rfl, fitsText_toString _, ?_⟩
      intro hempty
      have htext := hasText_toString (n := page + 1) (by omega)
      rw [hempty] at htext
      exact absurd htext (by decide)

/-! ## The traversals -/

/-- The traversal of the key is completed, and no other checkpoint has changed. -/
def Finished (key : CheckpointKey) (before after : CheckpointTable) : Prop :=
  Completed key after ∧ ∀ other, other ≠ key → after.lookup other = before.lookup other

theorem PageLeft.finished {completed : Bool} {k : CheckpointKey} {before after last : CheckpointTable}
    (h : PageLeft pages completed k before after) (hrest : Finished k after last) :
    Finished k before last :=
  ⟨hrest.1, fun other hne => (hrest.2 other hne).trans (h.others other hne)⟩

/-- An open traversal can be resumed, and its counters have room. -/
def Ready (pages : Nat) (k : CheckpointKey) (checkpoints : CheckpointTable) : Prop :=
  ¬ Completed k checkpoints →
    HasRoom pages (checkpoints.lookup k) ∧ ∃ page, nextPage (checkpoints.lookup k) = .ok page

/-- A traversal is completed, or goes on with the page its checkpoint names. -/
theorem concludes_resume (h : WellServed readers settings listing window) {t : Traversal}
    (ht : OfWindow readers settings listing window t)
    {f : BackfillRunKey → Int → Job RestRequest BackfillSummary}
    {post : BackfillSummary → CheckpointTable → Prop}
    (hready : Ready pages (t.key settings window) checkpoints)
    (hdone : Completed (t.key settings window) checkpoints → post .zero checkpoints)
    (hrest : ∀ key page, key.parameters = t.key settings window → KeyFits key.parameters →
      1 ≤ page → HasRoom pages (checkpoints.lookup key.parameters) →
      Concludes (serve listing) post (f key page) checkpoints) :
    Concludes (serve listing) post
      (Prog.ofExcept (settings.runKey t.resource t.scope window) >>= fun key =>
        Job.loadCheckpoint key >>= fun checkpoint =>
        if isCompleted checkpoint then pure .zero
        else Prog.ofExcept (nextPage checkpoint) >>= fun page => f key page) checkpoints := by
  obtain ⟨key, hkey, hparameters, hfits⟩ := runKey_total h ht
  refine concludes_ofExcept hkey (concludes_load ?_)
  rw [hparameters]
  by_cases hcompleted : isCompleted (checkpoints.lookup (t.key settings window)) = true
  · rw [if_pos hcompleted]
    exact concludes_pure (hdone hcompleted)
  · rw [if_neg hcompleted]
    obtain ⟨hroom, page, hpage⟩ := hready hcompleted
    refine concludes_ofExcept hpage (hrest key page hparameters ?_ (nextPage_pos hpage) ?_)
    · rw [hparameters]
      exact hfits
    · rw [hparameters]
      exact hroom

theorem pageOf_ne_nil (items : List Json) {perPage page : Int} (hperPage : 1 ≤ perPage)
    (hpage : 1 ≤ page) (hmore : page * perPage < items.length) :
    (pageOf items perPage page).isEmpty = false := by
  have hstart : page * perPage = (page - 1) * perPage + perPage := by ring
  have hnonneg : 0 ≤ (page - 1) * perPage := mul_nonneg (by omega) (by omega)
  have hlength : 0 < (pageOf items perPage page).length := by
    unfold pageOf
    rw [List.length_take, List.length_drop]
    omega
  rw [List.isEmpty_eq_false_iff]
  exact List.ne_nil_of_length_pos hlength

/-- A page number is at most the number of resources up to its end. -/
theorem page_le (hpage : 1 ≤ page) : page ≤ page * settings.pageSize :=
  le_mul_of_one_le_right (by omega) settings.pageSize_range.1

theorem concludes_workflowRunsLoop (h : WellServed readers settings listing window)
    {items : List Json}
    (hlisting : listing (Traversal.workflowRuns.path settings) = .counted "workflow_runs" items)
    (hcap : (items.length : Int) ≤ maxFilteredWorkflowRuns)
    (hkey : key.parameters = Traversal.workflowRuns.key settings window)
    (hfits : KeyFits key.parameters) (fuel : Nat) (summary : BackfillSummary) (hpage : 1 ≤ page)
    (hfuel : 0 < fuel) (hlength : (items.length : Int) < page - 1 + fuel)
    (hroom : HasRoom fuel (checkpoints.lookup key.parameters)) :
    Concludes (serve listing) (fun _ => Finished key.parameters checkpoints)
      (workflowRunsLoop readers settings window key page summary fuel) checkpoints := by
  induction fuel generalizing page summary checkpoints with
  | zero => exact absurd hfuel (lt_irrefl 0)
  | succ fuel ih =>
      have hthousand : maxFilteredWorkflowRuns = 1000 := rfl
      have hpages : page ≤ page * settings.pageSize := page_le hpage
      have hitems : (listing (Traversal.workflowRuns.path settings)).items = items := by
        rw [hlisting]
        rfl
      obtain ⟨records, hread, haccepted, hcount⟩ := workflowRuns_read h page rfl
        (by rw [hitems]; exact hcap)
      rw [hitems] at hread
      refine concludes_request (serve_of_counted rfl rfl hlisting) (concludes_ofExcept hread ?_)
      refine concludes_persistNumberedPage hkey hfits hpage (fun hmore => ?_) hroom haccepted hcount
        fun outcome checkpoints' hleft => ?_
      · have hbelow := of_decide_eq_false hmore
        omega
      · by_cases hdone : page * settings.pageSize ≥ (items.length : Int)
        · rw [if_pos (decide_eq_true hdone)]
          exact concludes_pure ⟨hleft.status.mpr (decide_eq_true hdone), hleft.others⟩
        · rw [if_neg (by rw [decide_eq_false hdone]; exact Bool.false_ne_true)]
          have hne := pageOf_ne_nil items settings.pageSize_range.1 hpage (by omega)
          rw [if_neg (by rw [hne]; exact Bool.false_ne_true)]
          have hnext : Concludes (serve listing) (fun _ => Finished key.parameters checkpoints')
              (workflowRunsLoop readers settings window key (page + 1)
                (summary.plus outcome.summary) fuel) checkpoints' :=
            ih _ (by omega) (by omega) (by omega) hleft.room
          exact hnext.imp fun _ _ => hleft.finished

theorem concludes_statusesLoop (h : WellServed readers settings listing window) {deploymentId : Int}
    (ht : OfWindow readers settings listing window (.deploymentStatuses deploymentId))
    {items : List Json}
    (hlisting : listing ((Traversal.deploymentStatuses deploymentId).path settings) = .plain items)
    (hkey : key.parameters = (Traversal.deploymentStatuses deploymentId).key settings window)
    (hfits : KeyFits key.parameters) (fuel : Nat) (summary : BackfillSummary) (hpage : 1 ≤ page)
    (hfuel : 0 < fuel) (hlength : (items.length : Int) < page - 1 + fuel)
    (hsmall : (items.length : Int) < 2 ^ 31)
    (hroom : HasRoom fuel (checkpoints.lookup key.parameters)) :
    Concludes (serve listing) (fun _ => Finished key.parameters checkpoints)
      (statusesLoop readers settings deploymentId key page summary fuel) checkpoints := by
  induction fuel generalizing page summary checkpoints with
  | zero => exact absurd hfuel (lt_irrefl 0)
  | succ fuel ih =>
      have hpages : page ≤ page * settings.pageSize := page_le hpage
      have hitems : (listing ((Traversal.deploymentStatuses deploymentId).path settings)).items
          = items := by
        rw [hlisting]
        rfl
      have hread := array_read h ht page "deployment-status response"
      have hselects : ∀ node ∈ pageOf items settings.pageSize page, Selects
          ((Traversal.deploymentStatuses deploymentId).select readers settings window node)
          Storable := by
        intro node hnode
        refine h.storable _ ht node ?_
        rw [hitems]
        exact mem_of_mem_pageOf hnode
      obtain ⟨records, hrecords, haccepted, hcount⟩ := statusRecords_total _ hselects
      rw [hitems] at hread
      refine concludes_request (serve_of_plain rfl rfl hlisting) (concludes_ofExcept hread ?_)
      refine concludes_ofExcept hrecords ?_
      refine concludes_persistNumberedPage hkey hfits hpage (fun hmore => ?_) hroom haccepted
        (hcount.trans (length_pageOf_le _ _ _)) fun outcome checkpoints' hleft => ?_
      · have hfull := le_length_of_full settings.pageSize_range.1 hpage (of_decide_eq_false hmore)
        omega
      · by_cases hdone : ((pageOf items settings.pageSize page).length : Int) < settings.pageSize
        · rw [if_pos (decide_eq_true hdone)]
          exact concludes_pure ⟨hleft.status.mpr (decide_eq_true hdone), hleft.others⟩
        · rw [if_neg (by rw [decide_eq_false hdone]; exact Bool.false_ne_true)]
          have hfull := le_length_of_full settings.pageSize_range.1 hpage hdone
          have hnext : Concludes (serve listing) (fun _ => Finished key.parameters checkpoints')
              (statusesLoop readers settings deploymentId key (page + 1)
                (summary.plus outcome.summary) fuel) checkpoints' :=
            ih _ (by omega) (by omega) (by omega) hleft.room
          exact hnext.imp fun _ _ => hleft.finished

/-- Only traversals of statuses have moved, and they are completed. -/
def StatusesSettled (before after : CheckpointTable) : Prop :=
  ∀ k, after.lookup k = before.lookup k ∨ k.resource = "deployment_statuses" ∧ Completed k after

theorem StatusesSettled.refl (checkpoints : CheckpointTable) :
    StatusesSettled checkpoints checkpoints := fun _ => Or.inl rfl

theorem StatusesSettled.trans {first second third : CheckpointTable}
    (h : StatusesSettled first second) (h' : StatusesSettled second third) :
    StatusesSettled first third := by
  intro k
  rcases h' k with hsame | hdone
  · rcases h k with hbefore | ⟨hresource, hcompleted⟩
    · exact Or.inl (hsame.trans hbefore)
    · refine Or.inr ⟨hresource, ?_⟩
      unfold Completed
      rw [hsame]
      exact hcompleted
  · exact Or.inr hdone

theorem Finished.settled {deploymentId : Int} {before after : CheckpointTable}
    (h : Finished ((Traversal.deploymentStatuses deploymentId).key settings window) before after) :
    StatusesSettled before after := by
  intro k
  by_cases hk : k = (Traversal.deploymentStatuses deploymentId).key settings window
  · rw [hk]
    exact Or.inr ⟨rfl, h.1⟩
  · exact Or.inl (h.2 k hk)

theorem Ready.settled {k : CheckpointKey} {before after : CheckpointTable}
    (h : Ready pages k before) (hsettled : StatusesSettled before after) : Ready pages k after := by
  intro hopen
  rcases hsettled k with hsame | ⟨-, hdone⟩
  · have hbefore : ¬ Completed k before := by
      unfold Completed at *
      rwa [hsame] at hopen
    rw [hsame]
    exact h hbefore
  · exact absurd hdone hopen

theorem plain_of_suits {t : Traversal} (h : (listing (t.path settings)).Suits t)
    (ht : t ≠ .workflowRuns) :
    listing (t.path settings) = .plain (listing (t.path settings)).items := by
  cases hlisting : listing (t.path settings) with
  | plain items => rfl
  | counted name items =>
      rw [hlisting] at h
      cases t with
      | workflowRuns => exact absurd rfl ht
      | deployments => exact absurd h id
      | deploymentStatuses deploymentId => exact absurd h id

/-- `_run_deployment_statuses` -/
theorem concludes_runDeploymentStatuses (h : WellServed readers settings listing window)
    {deploymentId : Int} {fuel : Nat}
    (ht : OfWindow readers settings listing window (.deploymentStatuses deploymentId))
    (hfuel : (listing ((Traversal.deploymentStatuses deploymentId).path settings)).items.length
      < fuel) (hsmall : fuel < 2 ^ 31)
    (hready : Ready fuel ((Traversal.deploymentStatuses deploymentId).key settings window)
      checkpoints) :
    Concludes (serve listing) (fun _ => StatusesSettled checkpoints)
      (runDeploymentStatuses readers settings deploymentId window fuel) checkpoints := by
  refine concludes_resume h ht hready (fun _ => StatusesSettled.refl _)
    fun key page hkey hfits hpage hroom => ?_
  have hloop := concludes_statusesLoop h ht (plain_of_suits (h.suits _ ht) (by simp)) hkey hfits
    fuel .zero hpage (by omega) (by omega) (by omega) hroom
  rw [hkey] at hloop
  exact hloop.imp fun _ _ => Finished.settled

/-- The statuses of the deployments of a page are traversed, and its records are accepted. -/
theorem concludes_deploymentRecords (h : WellServed readers settings listing window)
    {nestedFuel : Nat} (hsmall : nestedFuel < 2 ^ 31)
    (hfuel : ∀ t, OfWindow readers settings listing window t →
      (listing (t.path settings)).items.length < nestedFuel)
    (summary : BackfillSummary) (nodes : List Json)
    (hnodes : ∀ node ∈ nodes, node ∈ (listing (Traversal.deployments.path settings)).items)
    (hready : ∀ t, OfWindow readers settings listing window t → t ≠ .deployments →
      Ready nestedFuel (t.key settings window) checkpoints) :
    Concludes (serve listing)
      (fun result checkpoints' => (∀ record ∈ result.1, Accepted settings record)
        ∧ result.1.length ≤ nodes.length ∧ StatusesSettled checkpoints checkpoints')
      (deploymentRecords readers settings window nestedFuel summary nodes) checkpoints := by
  induction nodes generalizing summary checkpoints with
  | nil =>
      exact concludes_pure ⟨fun _ hmem => absurd hmem List.not_mem_nil, le_rfl,
        StatusesSettled.refl _⟩
  | cons first rest ih =>
      have hfirst := hnodes first List.mem_cons_self
      have hrest : ∀ node ∈ rest, node ∈ (listing (Traversal.deployments.path settings)).items :=
        fun node hnode => hnodes node (List.mem_cons_of_mem _ hnode)
      obtain ⟨r, hselect, hstorable⟩ := h.storable .deployments trivial first hfirst
      obtain ⟨createdAt, hcreated, hselect⟩ := bind_eq_ok hselect
      refine concludes_ofExcept hcreated ?_
      by_cases hin : window.contains createdAt
      · rw [if_pos hin] at hselect ⊢
        obtain ⟨record, hrecord, rfl⟩ := map_eq_ok_iff.mp hselect
        obtain ⟨deploymentId, hid, -⟩ := bind_eq_ok hrecord
        have ht : OfWindow readers settings listing window (.deploymentStatuses deploymentId) :=
          ⟨first, hfirst, ⟨createdAt, hcreated, hin⟩, hid⟩
        refine concludes_ofExcept hid ?_
        refine concludes_bind (concludes_runDeploymentStatuses h ht (hfuel _ ht) hsmall
          (hready _ ht (by simp))) fun statuses checkpoints₁ hsettled => ?_
        refine concludes_ofExcept hrecord ?_
        refine concludes_bind (ih _ hrest fun t ht hne => (hready t ht hne).settled hsettled) ?_
        intro result checkpoints₂ hresult
        obtain ⟨haccepted, hlength, hsettled'⟩ := hresult
        refine concludes_pure ⟨fun other hother => ?_, Nat.succ_le_succ hlength,
          hsettled.trans hsettled'⟩
        rcases List.mem_cons.mp hother with rfl | hmem
        · exact ⟨hstorable _ rfl, repositoryId_of_deployment hrecord⟩
        · exact haccepted other hmem
      · rw [if_neg hin]
        exact (ih summary hrest hready).imp fun result _ hresult =>
          ⟨hresult.1, hresult.2.1.trans (Nat.le_succ _), hresult.2.2⟩

/-- The traversal of the key is completed, and otherwise only traversals of statuses have moved. -/
def FinishedNested (key : CheckpointKey) (before after : CheckpointTable) : Prop :=
  Completed key after ∧ ∀ k, k ≠ key →
    after.lookup k = before.lookup k ∨ k.resource = "deployment_statuses" ∧ Completed k after

theorem FinishedNested.trans {completed : Bool} {k : CheckpointKey}
    {first second third last : CheckpointTable} (hsettled : StatusesSettled first second)
    (hleft : PageLeft pages completed k second third) (h : FinishedNested k third last) :
    FinishedNested k first last := by
  refine ⟨h.1, fun other hne => ?_⟩
  rcases h.2 other hne with hsame | hdone
  · have hsecond : last.lookup other = second.lookup other :=
      hsame.trans (hleft.others other hne)
    rcases hsettled other with hfirst | ⟨hresource, hcompleted⟩
    · exact Or.inl (hsecond.trans hfirst)
    · refine Or.inr ⟨hresource, ?_⟩
      unfold Completed
      rw [hsecond]
      exact hcompleted
  · exact Or.inr hdone

theorem Traversal.key_inj {t t' : Traversal} (h : t.key settings window = t'.key settings window) :
    t = t' := by
  obtain ⟨-, hresource, hscope, -, -⟩ := CheckpointKey.mk.inj h
  exact Traversal.named_inj t t' hresource hscope

theorem Ready.congr {k : CheckpointKey} {before after : CheckpointTable}
    (h : Ready pages k before) (hsame : after.lookup k = before.lookup k) : Ready pages k after := by
  intro hopen
  have hbefore : ¬ Completed k before := by
    unfold Completed at *
    rwa [hsame] at hopen
  rw [hsame]
  exact h hbefore

theorem concludes_deploymentsLoop (h : WellServed readers settings listing window)
    {nestedFuel : Nat} (hsmall : nestedFuel < 2 ^ 31)
    (hnested : ∀ t, OfWindow readers settings listing window t →
      (listing (t.path settings)).items.length < nestedFuel)
    (hkey : key.parameters = Traversal.deployments.key settings window)
    (hfits : KeyFits key.parameters) (fuel : Nat) (summary : BackfillSummary) (hpage : 1 ≤ page)
    (hfuel : 0 < fuel)
    (hlength : ((listing (Traversal.deployments.path settings)).items.length : Int)
      < page - 1 + fuel)
    (hroom : HasRoom fuel (checkpoints.lookup key.parameters))
    (hready : ∀ t, OfWindow readers settings listing window t → t ≠ .deployments →
      Ready nestedFuel (t.key settings window) checkpoints) :
    Concludes (serve listing) (fun _ => FinishedNested key.parameters checkpoints)
      (deploymentsLoop readers settings window nestedFuel key page summary fuel) checkpoints := by
  induction fuel generalizing page summary checkpoints with
  | zero => exact absurd hfuel (lt_irrefl 0)
  | succ fuel ih =>
      have hpages : page ≤ page * settings.pageSize := page_le hpage
      have hbelow := hnested .deployments trivial
      have hlisting := plain_of_suits (h.suits .deployments trivial) (by simp)
      generalize hitems : (listing (Traversal.deployments.path settings)).items = items at *
      have hread := array_read h (t := .deployments) trivial page "deployments response"
      rw [hitems] at hread
      refine concludes_request (serve_of_plain rfl rfl hlisting) (concludes_ofExcept hread ?_)
      have hnodes : ∀ node ∈ pageOf items settings.pageSize page,
          node ∈ (listing (Traversal.deployments.path settings)).items := by
        rw [hitems]
        exact fun node => mem_of_mem_pageOf
      refine concludes_bind (concludes_deploymentRecords h hsmall hnested summary _ hnodes hready) ?_
      intro result checkpoints₁ hresult
      obtain ⟨haccepted, hcount, hsettled⟩ := hresult
      -- the statuses have left the checkpoint of the deployments alone
      have hown : checkpoints₁.lookup key.parameters = checkpoints.lookup key.parameters := by
        rcases hsettled key.parameters with hsame | ⟨hresource, -⟩
        · exact hsame
        · rw [hkey] at hresource
          exact absurd hresource (by decide : ("deployments" : String) ≠ "deployment_statuses")
      refine concludes_persistNumberedPage hkey hfits hpage (fun hmore => ?_) (hown ▸ hroom)
        haccepted (hcount.trans (length_pageOf_le _ _ _)) fun outcome checkpoints₂ hleft => ?_
      · have hfull := le_length_of_full settings.pageSize_range.1 hpage (of_decide_eq_false hmore)
        omega
      · by_cases hdone : ((pageOf items settings.pageSize page).length : Int) < settings.pageSize
        · rw [if_pos (decide_eq_true hdone)]
          refine concludes_pure (FinishedNested.trans hsettled hleft ?_)
          exact ⟨hleft.status.mpr (decide_eq_true hdone), fun _ _ => Or.inl rfl⟩
        · rw [if_neg (by rw [decide_eq_false hdone]; exact Bool.false_ne_true)]
          have hfull := le_length_of_full settings.pageSize_range.1 hpage hdone
          have hready₂ : ∀ t, OfWindow readers settings listing window t → t ≠ .deployments →
              Ready nestedFuel (t.key settings window) checkpoints₂ := by
            intro t ht hne
            refine ((hready t ht hne).settled hsettled).congr (hleft.others _ ?_)
            rw [hkey]
            exact fun heq => hne (Traversal.key_inj heq)
          have hnext : Concludes (serve listing)
              (fun _ => FinishedNested key.parameters checkpoints₂)
              (deploymentsLoop readers settings window nestedFuel key (page + 1)
                (result.2.plus outcome.summary) fuel) checkpoints₂ :=
            ih _ (by omega) (by omega) (by omega) hleft.room hready₂
          exact hnext.imp fun _ _ => FinishedNested.trans hsettled hleft

/-- `GitHubRestBackfill.run` returns behind two completed traversals. -/
theorem concludes_runRest (h : WellServed readers settings listing window) {fuel : Nat}
    (hsmall : fuel < 2 ^ 31)
    (hfuel : ∀ t, OfWindow readers settings listing window t →
      (listing (t.path settings)).items.length < fuel)
    (hready : ∀ t, OfWindow readers settings listing window t →
      Ready fuel (t.key settings window) checkpoints) :
    Concludes (serve listing)
      (fun _ checkpoints' => Completed (Traversal.workflowRuns.key settings window) checkpoints'
        ∧ Completed (Traversal.deployments.key settings window) checkpoints')
      (runRest readers settings window fuel) checkpoints := by
  have hruns : Concludes (serve listing)
      (fun _ => Finished (Traversal.workflowRuns.key settings window) checkpoints)
      (runWorkflowRuns readers settings window fuel) checkpoints := by
    refine concludes_resume h (t := .workflowRuns) trivial (hready .workflowRuns trivial)
      (fun hdone => ⟨hdone, fun _ _ => rfl⟩) fun key page hkey hfits hpage hroom => ?_
    have hlength := hfuel .workflowRuns trivial
    have hsuits := h.suits .workflowRuns trivial
    cases hlisting : listing (Traversal.workflowRuns.path settings) with
    | plain items =>
        rw [hlisting] at hsuits
        exact absurd hsuits id
    | counted name items =>
        rw [hlisting] at hsuits hlength
        obtain ⟨rfl, hcap⟩ := hsuits
        have hitems : items.length < fuel := hlength
        have hloop := concludes_workflowRunsLoop h hlisting hcap hkey hfits fuel .zero hpage
          (by omega) (by omega) hroom
        rwa [hkey] at hloop
  refine concludes_bind hruns fun runs checkpoints₁ hfinished => ?_
  have hready₁ : ∀ t, OfWindow readers settings listing window t → t ≠ .workflowRuns →
      Ready fuel (t.key settings window) checkpoints₁ := fun t ht hne =>
    (hready t ht).congr (hfinished.2 _ fun heq => hne (Traversal.key_inj heq))
  have hdeployments : Concludes (serve listing)
      (fun _ => FinishedNested (Traversal.deployments.key settings window) checkpoints₁)
      (runDeployments readers settings window fuel) checkpoints₁ := by
    refine concludes_resume h (t := .deployments) trivial (hready₁ .deployments trivial (by simp))
      (fun hdone => ⟨hdone, fun _ _ => Or.inl rfl⟩) fun key page hkey hfits hpage hroom => ?_
    have hlength := hfuel .deployments trivial
    have hdone := hfinished.1
    have hloop := concludes_deploymentsLoop h hsmall hfuel hkey hfits fuel .zero hpage
      (by omega) (by omega) hroom fun t ht hne => by
        by_cases hruns : t = .workflowRuns
        · subst hruns
          exact fun hopen => absurd hdone hopen
        · exact hready₁ t ht hruns
    rwa [hkey] at hloop
  refine concludes_bind hdeployments fun deployments checkpoints₂ hnested => ?_
  refine concludes_pure ⟨?_, hnested.1⟩
  -- the deployments have left the checkpoint of the workflow runs alone
  have hne : Traversal.workflowRuns.key settings window
      ≠ Traversal.deployments.key settings window := fun heq => by
    cases Traversal.key_inj heq
  rcases hnested.2 _ hne with hsame | ⟨hresource, -⟩
  · unfold Completed
    rw [hsame]
    exact hfinished.1
  · exact absurd hresource (by decide : ("workflow_runs" : String) ≠ "deployment_statuses")

end

/-! ## From any reachable state -/

/-- No counter of a checkpoint comes to the end of its column within so many pages. -/
structure CountersFit (pages : Nat) (checkpoints : CheckpointTable) : Prop where
  pages_lt : pages < 2 ^ 31
  rows : ∀ entry ∈ checkpoints.rows, entry.2.pagesCompleted + pages < 2 ^ 31
    ∧ entry.2.recordsInserted + 100 * pages < 2 ^ 63

theorem ready_of_standing {tables : BackfillTables} {fuel : Nat}
    (h : RestStanding readers settings listing tables)
    (haccepted : RowsAccepted tables.checkpoints) (hfit : CountersFit fuel tables.checkpoints)
    (k : CheckpointKey) : Ready fuel k tables.checkpoints := by
  have hsmall := hfit.pages_lt
  intro hopen
  cases hrow : tables.checkpoints.lookup k with
  | none =>
      refine ⟨?_, 1, rfl⟩
      constructor
      · exact le_rfl
      · show (0 : Int) + fuel < 2 ^ 31
        omega
      · exact le_rfl
      · show (0 : Int) + 100 * fuel < 2 ^ 63
        omega
  | some row =>
      obtain ⟨hpages, hrecords⟩ := haccepted.nonneg hrow
      obtain ⟨hpagesLt, hrecordsLt⟩ := hfit.rows (k, row) (Table.mem_rows.mpr hrow)
      exact ⟨⟨hpages, hpagesLt, hrecords, hrecordsLt⟩,
        h.resumes k row hrow (inProgress_of_not_completed hopen hrow)⟩

/-- A smooth operation does the same in any invocation. -/
theorem backfillAct_of_unit {Request Local : Type}
    {respond : Request → Except BackfillError Json} {op : BackfillOp Request}
    {choice : BackfillChoice op} {tables tables' : BackfillTables} {reply : BackfillReply op}
    (h : backfillAct respond op choice tables () = (reply, tables', ())) (l : Local) :
    backfillAct respond op choice tables l = (reply, tables', l) := by
  have hreply : (backfillAct respond op choice tables ()).1 = reply := congrArg (·.1) h
  have htables : (backfillAct respond op choice tables ()).2.1 = tables' := congrArg (·.2.1) h
  rw [← hreply, ← htables]
  cases op with
  | loadCheckpoint key => cases choice <;> rfl
  | persistPage key records nextCursor completed => rfl
  | request request => cases choice <;> rfl

/-- An undisturbed invocation keeps the invariant of the others. -/
theorem standing_of_serves {tables last : BackfillTables} {fuel : Nat}
    {log : BackfillLog RestRequest} (h : RestStanding readers settings listing tables)
    (hbegins : Begins log (runRest readers settings window fuel))
    (hserves : Serves (Steady (serve listing)) tables log last) :
    RestStanding readers settings listing last := by
  have hstart : RestStart → Job RestRequest BackfillSummary × Int :=
    fun start => (runRest readers settings start.window start.fuel, start.pageSize)
  have hstands : Stands readers settings listing hstart (fun _ _ _ => True)
      (runRest readers settings window fuel) tables settings.pageSize := stands_runRest window fuel h
  refine hstands.inv_of_serves ?_ h hbegins hserves
  rintro op reply before after ⟨events, choice, hext, -, hact⟩ hinv
  exact ⟨{ before with events }, choice, hext, hinv.moreEvents hext, trivial,
    backfillAct_of_unit hact settings.pageSize⟩

/-- What a window selects is stored once its two traversals are completed. -/
theorem stored_of_completed {tables : BackfillTables}
    (h : RestStanding readers settings listing tables)
    (hruns : Completed (Traversal.workflowRuns.key settings window) tables.checkpoints)
    (hdeployments : Completed (Traversal.deployments.key settings window) tables.checkpoints)
    (t : Traversal) (ht : OfWindow readers settings listing window t) :
    ∀ node ∈ (listing (t.path settings)).items,
      Selects (t.select readers settings window node) (Stored tables.events) := by
  cases t with
  | workflowRuns => exact h.landed (t := .workflowRuns) hruns
  | deployments =>
      intro node hnode
      exact (h.landed (t := .deployments) hdeployments node hnode).1
  | deploymentStatuses deploymentId =>
      obtain ⟨node, hnode, ⟨createdAt, hcreated, hin⟩, hid⟩ := ht
      have hlanded := h.landed (t := .deployments) hdeployments node hnode
      obtain ⟨deploymentId', hid', hstatuses⟩ := hlanded.2 createdAt hcreated hin
      rw [hid] at hid'
      cases hid'
      exact hstatuses

/-- **Retries resume.** From every state that any number of overlapping, failing and crashing
invocations can reach, one that is not disturbed any more has a run to its end, and every such run
returns, leaves the traversals of the workflow runs and the deployments completed, and finds every
workflow run, deployment and deployment status the window selects stored. -/
theorem interrupted_backfill_finishes (readers : Readers) (settings : Settings)
    (listing : String → Listing) (window : Window) (fuel : Nat)
    (schedule : List (restSystem readers settings listing {settings.pageSize}).Event)
    (tables : BackfillTables)
    (hreached : ((restSystem readers settings listing {settings.pageSize}).run schedule
      (restPool readers settings listing {settings.pageSize})).shared = tables)
    (hserved : WellServed readers settings listing window)
    (hfuel : ∀ t, OfWindow readers settings listing window t →
      (listing (t.path settings)).items.length < fuel)
    (hfit : CountersFit fuel tables.checkpoints) :
    (∃ log summary last, Ends log (runRest readers settings window fuel) (.ok summary)
      ∧ Serves (Steady (serve listing)) tables log last)
    ∧ ∀ log result last, Ends log (runRest readers settings window fuel) result →
      Serves (Steady (serve listing)) tables log last →
      (∃ summary, result = .ok summary)
      ∧ Completed (Traversal.workflowRuns.key settings window) last.checkpoints
      ∧ Completed (Traversal.deployments.key settings window) last.checkpoints
      ∧ ∀ t, OfWindow readers settings listing window t →
        ∀ node ∈ (listing (t.path settings)).items,
          Selects (t.select readers settings window node) (Stored last.events) := by
  have hstanding : RestStanding readers settings listing tables := by
    rw [← hreached]
    exact standing_of_run readers settings listing schedule
  have haccepted : RowsAccepted tables.checkpoints := by
    rw [← hreached]
    refine rowsAccepted_run _ _ schedule _ fun key row hrow => ?_
    cases hrow
  have hconcludes := concludes_runRest hserved hfit.pages_lt hfuel
    (fun t _ => ready_of_standing hstanding haccepted hfit (t.key settings window)) tables rfl
  refine ⟨?_, fun log result last hends hserves => ?_⟩
  · obtain ⟨log, summary, last, hends, hserves, -⟩ := hconcludes.exists_log
    exact ⟨log, summary, last, hends, hserves⟩
  · obtain ⟨summary, hresult, hruns, hdeployments⟩ := hconcludes.returns hends hserves
    have hlast := standing_of_serves hstanding (begins_of_ends hends) hserves
    exact ⟨⟨summary, hresult⟩, hruns, hdeployments,
      stored_of_completed hlast hruns hdeployments⟩

/-! ## A run with an interruption -/

instance (record : BackfillRecord) : Decidable (Storable record) :=
  inferInstanceAs (Decidable (enforce rawEventConstraints (record.row default) = .ok ()))

instance (selected : Except BackfillError (Option BackfillRecord)) (P : BackfillRecord → Prop)
    [DecidablePred P] : Decidable (Selects selected P) :=
  inferInstanceAs (Decidable (∃ r, selected = .ok r ∧ ∀ record, r = some record → P record))

/-- An invocation with one workflow run a page is lost behind its first page. -/
def lostAttempt :
    List (restSystem sampleReaders sampleSettings sampleListing {sampleSettings.pageSize}).Event :=
  [ .start ⟨⟨1, sampleWindow, 5⟩, rfl⟩, .act 0 (smoothly 1), .act 0 (smoothly 1)
  , .act 0 (smoothly 1), .stop 0 ]

theorem sample_served : WellServed sampleReaders sampleSettings sampleListing sampleWindow := by
  have hruns : sampleListing (Traversal.workflowRuns.path sampleSettings)
      = .counted "workflow_runs" [sampleRun 1, sampleRun 2] := if_pos (by decide)
  have hdeployments : sampleListing (Traversal.deployments.path sampleSettings) = .plain [] :=
    if_neg (by decide)
  have hnone : ∀ deploymentId, ¬ OfWindow sampleReaders sampleSettings sampleListing sampleWindow
      (.deploymentStatuses deploymentId) := by
    rintro deploymentId ⟨node, hnode, -⟩
    rw [hdeployments] at hnode
    cases hnode
  constructor
  · decide
  · decide
  · intro t ht
    cases t with
    | workflowRuns =>
        rw [hruns]
        exact ⟨rfl, by decide⟩
    | deployments =>
        rw [hdeployments]
        trivial
    | deploymentStatuses deploymentId => exact absurd ht (hnone deploymentId)
  · intro t ht
    cases t with
    | workflowRuns =>
        rw [hruns]
        decide
    | deployments =>
        rw [hdeployments]
        exact fun _ hnode => absurd hnode List.not_mem_nil
    | deploymentStatuses deploymentId => exact absurd ht (hnone deploymentId)
  · intro t ht
    cases t with
    | workflowRuns =>
        rw [hruns]
        decide +kernel
    | deployments =>
        rw [hdeployments]
        exact fun _ hnode => absurd hnode List.not_mem_nil
    | deploymentStatuses deploymentId => exact absurd ht (hnone deploymentId)

/-- The lost attempt leaves the first workflow run and an open checkpoint; the next one finishes. -/
theorem interrupted_backfill_finishes_lost :
    isCompleted (sampleCheckpoint
      ((restSystem sampleReaders sampleSettings sampleListing {sampleSettings.pageSize}).run
        lostAttempt (restPool sampleReaders sampleSettings sampleListing
          {sampleSettings.pageSize})).shared) = false
    ∧ ∃ log summary last,
      Ends log (runRest sampleReaders sampleSettings sampleWindow 3) (.ok summary)
      ∧ Serves (Steady (serve sampleListing))
        ((restSystem sampleReaders sampleSettings sampleListing {sampleSettings.pageSize}).run
          lostAttempt (restPool sampleReaders sampleSettings sampleListing
            {sampleSettings.pageSize})).shared log last
      ∧ isCompleted (sampleCheckpoint last) = true
      ∧ Selects (Traversal.workflowRuns.select sampleReaders sampleSettings sampleWindow
          (sampleRun 2)) (Stored last.events) := by
  have hopen : isCompleted (sampleCheckpoint
      ((restSystem sampleReaders sampleSettings sampleListing {sampleSettings.pageSize}).run
        lostAttempt (restPool sampleReaders sampleSettings sampleListing
          {sampleSettings.pageSize})).shared) = false := by decide +kernel
  have hfuel : ∀ t, OfWindow sampleReaders sampleSettings sampleListing sampleWindow t →
      (sampleListing (t.path sampleSettings)).items.length < 3 := by
    intro t _
    unfold sampleListing
    split
    · decide
    · decide
  have hfit : CountersFit 3
      ((restSystem sampleReaders sampleSettings sampleListing {sampleSettings.pageSize}).run
        lostAttempt (restPool sampleReaders sampleSettings sampleListing
          {sampleSettings.pageSize})).shared.checkpoints := by
    constructor
    · decide
    · decide +kernel
  obtain ⟨⟨log, summary, last, hends, hserves⟩, hall⟩ := interrupted_backfill_finishes
    sampleReaders sampleSettings sampleListing sampleWindow 3 lostAttempt _ rfl sample_served hfuel
    hfit
  obtain ⟨-, hruns, -, hstored⟩ := hall log (.ok summary) last hends hserves
  refine ⟨hopen, log, summary, last, hends, hserves, hruns, ?_⟩
  exact hstored .workflowRuns trivial (sampleRun 2) (List.mem_cons_of_mem _ List.mem_cons_self)

end Backfill
