import DeliveryIntelligence.Backfill.Coverage
import DeliveryIntelligence.Backfill.RestBackfill
import DeliveryIntelligence.Library.Text

set_option autoImplicit false

/-!
# What the REST traversals cover

The three traversals with the resources each selects, what a completed checkpoint promises
(`Complete`), and when an invocation resumes inside the stored part (`Resumable`). A page number is
a position only together with a page size, and the cursor does not say which page size it was
written with.
-/

namespace Backfill

open Datetime Program RawEvents

/-! ## What a traversal has to store -/

/-- The three kinds of traversal. -/
inductive Traversal
  | workflowRuns
  | deployments
  | deploymentStatuses (deploymentId : Int)

namespace Traversal

def resource : Traversal → String
  | .workflowRuns => "workflow_runs"
  | .deployments => "deployments"
  | .deploymentStatuses _ => "deployment_statuses"

def scope : Traversal → String
  | .workflowRuns => "repository"
  | .deployments => "repository"
  | .deploymentStatuses deploymentId => toString deploymentId

/-- The path that lists the resources. -/
def path (settings : Settings) : Traversal → String
  | .workflowRuns => settings.repositoryPath ++ "/actions/runs"
  | .deployments => settings.repositoryPath ++ "/deployments"
  | .deploymentStatuses deploymentId =>
      s!"{settings.repositoryPath}/deployments/{deploymentId}/statuses"

/-- The record of a listed resource, `none` when it is not selected for the window. -/
def select (readers : Readers) (settings : Settings) (window : Window) (node : Json) :
    Traversal → Except BackfillError (Option BackfillRecord)
  | .workflowRuns => do
      let createdAt ← restAwareDatetime readers node "created_at"
      if window.contains createdAt then (workflowRunRecord readers settings node).map some
      else return none
  | .deployments => do
      let createdAt ← restAwareDatetime readers node "created_at"
      if window.contains createdAt then (deploymentRecord settings node createdAt).map some
      else return none
  | .deploymentStatuses deploymentId =>
      (deploymentStatusRecord readers settings deploymentId node).map some

end Traversal

/-- The resource is well formed and, if it is selected, its record satisfies `P`. -/
def Selects (selected : Except BackfillError (Option BackfillRecord))
    (P : BackfillRecord → Prop) : Prop :=
  ∃ r, selected = .ok r ∧ ∀ record, r = some record → P record

theorem Selects.imp {selected : Except BackfillError (Option BackfillRecord)}
    {P Q : BackfillRecord → Prop} (h : Selects selected P) (hPQ : ∀ record, P record → Q record) :
    Selects selected Q := by
  obtain ⟨r, hr, hP⟩ := h
  exact ⟨r, hr, fun record hrecord => hPQ record (hP record hrecord)⟩

theorem Selects.mono {selected : Except BackfillError (Option BackfillRecord)}
    {events events' : RawTable} (h : Selects selected (Stored events))
    (hext : Extends events events') : Selects selected (Stored events') :=
  h.imp fun _ hstored => hstored.mono hext

/-- What is selected depends only on the instants of the window. -/
theorem Traversal.select_congr {readers : Readers} {settings : Settings} (t : Traversal)
    {window window' : Window} (node : Json)
    (hstart : window.windowStart.instant = window'.windowStart.instant)
    (hend : window.windowEnd.instant = window'.windowEnd.instant) :
    t.select readers settings window node = t.select readers settings window' node := by
  cases t with
  | workflowRuns => simp only [select, Window.contains_congr hstart hend]
  | deployments => simp only [select, Window.contains_congr hstart hend]
  | deploymentStatuses deploymentId => rfl

theorem Traversal.named_inj (t t' : Traversal) (hresource : t.resource = t'.resource)
    (hscope : t.scope = t'.scope) : t = t' := by
  cases t with
  | workflowRuns =>
      cases t' with
      | workflowRuns => rfl
      | deployments => exact absurd hresource (by decide)
      | deploymentStatuses id =>
          exact absurd hresource (by decide : "workflow_runs" ≠ "deployment_statuses")
  | deployments =>
      cases t' with
      | workflowRuns => exact absurd hresource (by decide)
      | deployments => rfl
      | deploymentStatuses id =>
          exact absurd hresource (by decide : "deployments" ≠ "deployment_statuses")
  | deploymentStatuses id =>
      cases t' with
      | workflowRuns =>
          exact absurd hresource (by decide : "deployment_statuses" ≠ "workflow_runs")
      | deployments => exact absurd hresource (by decide : "deployment_statuses" ≠ "deployments")
      | deploymentStatuses id' =>
          have htext : Text.intText id = Text.intText id' := congrArg String.toList hscope
          rw [Text.intText_injective htext]

/-- The traversals of the REST backfill over a server. -/
def restTraversals (readers : Readers) (settings : Settings) (listing : String → Listing) :
    Traversals Traversal where
  resource := Traversal.resource
  scope := Traversal.scope
  named_inj := Traversal.named_inj
  items t := (listing (t.path settings)).items
  Landed t window events node := Selects (t.select readers settings window node) (Stored events)
  landed_mono _ _ _ _ _ hext h := h.mono hext
  landed_congr t _ _ _ node hstart hend h := t.select_congr node hstart hend ▸ h

section

variable (readers : Readers) (settings : Settings) (listing : String → Listing)

/-- A completed traversal has stored everything it selects. -/
def Complete (tables : BackfillTables) : Prop :=
  ∀ (t : Traversal) (window : Window),
    isCompleted (tables.checkpoints.lookup ((restTraversals readers settings listing).runKey
      settings.repositoryId t window).parameters) = true →
    ∀ node ∈ (listing (t.path settings)).items,
      Selects (t.select readers settings window node) (Stored tables.events)

/-- When an invocation with page size `pageSize` loads a checkpoint that is in progress, every
selected resource before the page it resumes at is stored. -/
def Resumable (op : BackfillOp RestRequest) (tables : BackfillTables) (pageSize : Int) : Prop :=
  match op with
  | .loadCheckpoint key =>
      ∀ (t : Traversal) (window : Window) (page : Int),
        key.toRunKeyFields
          = (restTraversals readers settings listing).runKey settings.repositoryId t window →
        isCompleted (loadCheckpoint key tables) = false →
        nextPage (loadCheckpoint key tables) = .ok page →
        (restTraversals readers settings listing).Covered t window
          ((page - 1) * pageSize).toNat tables.events
  | _ => True

/-- Where a checkpoint stands if all page sizes were `bound`; with the bound 0 a checkpoint in
progress stands at the beginning. -/
def restPosition (bound : Int) (t : Traversal) (cursor : Option String)
    (status : CheckpointStatus) : Option Nat :=
  match status with
  | .completed => some (listing (t.path settings)).items.length
  | .inProgress => (pageOfCursor cursor).toOption.map fun page => ((page - 1) * bound).toNat

/-- The invariant of the REST backfill. -/
abbrev RestPlaced (bound : Int) (tables : BackfillTables) : Prop :=
  (restTraversals readers settings listing).Placed settings.repositoryId
    (restPosition settings listing bound) tables

end

variable {readers : Readers} {settings : Settings} {listing : String → Listing}

theorem complete_of_placed {bound : Int} {tables : BackfillTables}
    (h : RestPlaced readers settings listing bound tables) :
    Complete readers settings listing tables := by
  intro t window hdone
  generalize hlookup : tables.checkpoints.lookup _ = row at hdone
  cases row with
  | none => cases hdone
  | some checkpoint =>
      -- A completed checkpoint stands at the end of the listing, whatever the bound.
      have hstatus : checkpoint.status = .completed := eq_of_beq hdone
      have hposition : restPosition settings listing bound t checkpoint.cursor checkpoint.status
          = some (listing (t.path settings)).items.length := by
        rw [hstatus]
        rfl
      exact (h t window checkpoint _ hlookup hposition).all le_rfl

/-- A bound that is the page size makes every load resumable. -/
theorem resumable_of_placed {pageSize : Int} {tables : BackfillTables}
    (h : RestPlaced readers settings listing pageSize tables) (op : BackfillOp RestRequest) :
    Resumable readers settings listing op tables pageSize := by
  cases op with
  | persistPage key records nextCursor completed => trivial
  | request request => trivial
  | loadCheckpoint key =>
      intro t window page hkey hopen hpage
      unfold loadCheckpoint at hopen hpage
      rw [hkey] at hopen hpage
      generalize hlookup : tables.checkpoints.lookup _ = row at hopen hpage
      cases row with
      | none =>
          cases hpage
          rw [sub_self, zero_mul]
          -- No checkpoint: page 1, with nothing before it.
          exact Traversals.covered_zero
      | some checkpoint =>
          have hposition : restPosition settings listing pageSize t checkpoint.cursor
              checkpoint.status = some ((page - 1) * pageSize).toNat := by
            cases hstatus : checkpoint.status with
            | completed =>
                -- Such a checkpoint ends the invocation, so no page is asked for.
                have hclosed : (checkpoint.status == .completed) = false := hopen
                rw [hstatus] at hclosed
                cases hclosed
            | inProgress =>
                show (pageOfCursor checkpoint.cursor).toOption.map _ = _
                rw [show pageOfCursor checkpoint.cursor = .ok page from hpage]
                rfl
          exact h t window checkpoint _ hlookup hposition

/-! ## Pages -/

theorem nextPage_pos {checkpoint : Option BackfillCheckpoint} {page : Int}
    (h : nextPage checkpoint = .ok page) : 1 ≤ page := by
  cases checkpoint with
  | none =>
      cases h
      decide
  | some checkpoint =>
      unfold nextPage pageOfCursor at h
      simp only at h
      split at h
      · cases h
      · split at h
        · cases h
        · split at h
          · cases h
          · cases h
            omega

/-- The cursor of a page that is followed by another leads to that page. -/
theorem pageOfCursor_str {page : Int} {cursor : String} (hpage : 1 ≤ page)
    (hstr : Python.str (page + 1) = some cursor) : pageOfCursor (some cursor) = .ok (page + 1) := by
  have hpos : ¬ page + 1 ≤ 0 := by omega
  unfold pageOfCursor
  simp only [Python.int_str hstr, if_neg hpos]

/-- Once the nodes of a page have landed, the listing is covered up to its end. -/
theorem covered_page {t : Traversal} {window : Window} {page : Int} {events : RawTable}
    (hpage : 1 ≤ page)
    (hbefore : (restTraversals readers settings listing).Covered t window
      ((page - 1) * settings.pageSize).toNat events)
    (hlanded : ∀ node ∈ pageOf (listing (t.path settings)).items settings.pageSize page,
      Selects (t.select readers settings window node) (Stored events)) :
    (restTraversals readers settings listing).Covered t window (page * settings.pageSize).toNat
      events := by
  have hsize := settings.pageSize_range.1
  have hnonneg : 0 ≤ (page - 1) * settings.pageSize := mul_nonneg (by omega) (by omega)
  have hend : (page * settings.pageSize).toNat
      = ((page - 1) * settings.pageSize).toNat + settings.pageSize.toNat := by
    have hsplit : page * settings.pageSize = (page - 1) * settings.pageSize + settings.pageSize := by
      ring
    omega
  rw [hend]
  exact hbefore.slice hlanded

/-- A short page is the last one. -/
theorem length_le_of_short {items : List Json} {perPage page : Int} (hperPage : 1 ≤ perPage)
    (hpage : 1 ≤ page) (hshort : ((pageOf items perPage page).length : Int) < perPage) :
    items.length ≤ (page * perPage).toNat := by
  have hstart : page * perPage = (page - 1) * perPage + perPage := by ring
  have hnonneg : 0 ≤ (page - 1) * perPage := mul_nonneg (by omega) (by omega)
  unfold pageOf at hshort
  rw [List.length_take, List.length_drop] at hshort
  omega

/-! ## Responses -/

/-- What the workflow-run traversal reads from a response of the server. -/
theorem workflowRunsResponse_ok {window : Window} {payload : Json} {totalCount : Int}
    {nodes : List Json} {records : List BackfillRecord}
    (h : workflowRunsResponse readers settings window payload = .ok (totalCount, nodes, records)) :
    requiredNonnegativeInt payload "total_count" = .ok totalCount
    ∧ requiredObjectList payload "workflow_runs" = .ok nodes
    ∧ windowRecords readers settings window nodes = .ok records := by
  obtain ⟨response, hresponse, hrest⟩ := Postgres.bind_eq_ok h
  obtain ⟨total, htotal, hchecked⟩ := Postgres.bind_eq_ok hrest
  have hpayload : response = payload := by
    unfold requiredObjectPayload at hresponse
    split at hresponse
    · cases hresponse
      rfl
    · cases hresponse
  subst hpayload
  split at hchecked
  · cases hchecked
  · obtain ⟨found, hfound, hrecords⟩ := Postgres.bind_eq_ok hchecked
    obtain ⟨read, hread, hresult⟩ := Postgres.bind_eq_ok hrecords
    cases hresult
    exact ⟨htotal, hfound, hread⟩

theorem getMember_pair (a b name : String) (x y : Json) :
    getMember (.object [(a, x), (b, y)]) name
      = if b = name then y else if a = name then x else .null := by
  by_cases hb : b = name
  · simp [getMember, Json.member, hb]
  · by_cases ha : a = name
    · simp [getMember, Json.member, hb, ha]
    · simp [getMember, Json.member, hb, ha]

/-- A counted listing is served with its length and the nodes of the page. -/
theorem serve_counted {request : RestRequest} {perPage page totalCount : Int} {payload : Json}
    {nodes : List Json}
    (hperPage : getMember (.object request.params) "per_page" = .number perPage 0)
    (hpage : getMember (.object request.params) "page" = .number page 0)
    (hserve : serve listing request = .ok payload)
    (htotal : requiredNonnegativeInt payload "total_count" = .ok totalCount)
    (hnodes : requiredObjectList payload "workflow_runs" = .ok nodes) :
    totalCount = (listing request.path).items.length
    ∧ nodes = pageOf (listing request.path).items perPage page := by
  unfold serve at hserve
  rw [hperPage, hpage] at hserve
  simp only at hserve
  cases hlisting : listing request.path with
  | plain items =>
      rw [hlisting] at hserve
      cases hserve
      cases htotal
  | counted name items =>
      rw [hlisting] at hserve
      cases hserve
      unfold requiredObjectList at hnodes
      unfold requiredNonnegativeInt at htotal
      rw [getMember_pair] at hnodes htotal
      -- Under another name the list is missing and the response is refused.
      by_cases hname : name = "workflow_runs"
      · subst hname
        rw [if_pos rfl] at hnodes
        rw [if_neg (by decide), if_pos rfl] at htotal
        simp only at hnodes htotal
        split at hnodes
        · split at htotal
          · cases htotal
          · cases htotal
            cases hnodes
            exact ⟨rfl, rfl⟩
        · cases hnodes
      · rw [if_neg hname, if_neg (by decide)] at hnodes
        cases hnodes

/-- A plain listing is served as the array of the page. -/
theorem serve_plain {request : RestRequest} {perPage page : Int} {payload : Json} {name : String}
    {nodes : List Json}
    (hperPage : getMember (.object request.params) "per_page" = .number perPage 0)
    (hpage : getMember (.object request.params) "page" = .number page 0)
    (hserve : serve listing request = .ok payload)
    (hnodes : requiredArrayPayload payload name = .ok nodes) :
    nodes = pageOf (listing request.path).items perPage page := by
  unfold serve at hserve
  rw [hperPage, hpage] at hserve
  simp only at hserve
  cases hlisting : listing request.path with
  | counted _ items =>
      rw [hlisting] at hserve
      cases hserve
      cases hnodes
  | plain items =>
      rw [hlisting] at hserve
      cases hserve
      unfold requiredArrayPayload at hnodes
      simp only at hnodes
      split at hnodes
      · cases hnodes
        rfl
      · cases hnodes

theorem windowRecords_ok {window : Window} {nodes : List Json} {records : List BackfillRecord}
    (h : windowRecords readers settings window nodes = .ok records) :
    ∀ node ∈ nodes, Selects (Traversal.workflowRuns.select readers settings window node)
      (· ∈ records) := by
  induction nodes generalizing records with
  | nil => exact fun node hmem => nomatch hmem
  | cons first rest ih =>
      obtain ⟨createdAt, hcreated, h⟩ := Postgres.bind_eq_ok h
      intro node hmem
      by_cases hin : window.contains createdAt
      · rw [if_pos hin] at h
        obtain ⟨record, hrecord, h⟩ := Postgres.bind_eq_ok h
        obtain ⟨others, hothers, h⟩ := Postgres.bind_eq_ok h
        cases h
        rcases List.mem_cons.mp hmem with rfl | hrest
        · refine ⟨some record, ?_, fun r hr => ?_⟩
          · simp [Traversal.select, hcreated, hin, hrecord, Except.map, bind, Except.bind]
          · cases hr
            exact List.mem_cons_self
        · exact (ih hothers node hrest).imp fun _ hr => List.mem_cons_of_mem _ hr
      -- Not in the window: the traversal owes nothing for it.
      · rw [if_neg hin] at h
        rcases List.mem_cons.mp hmem with rfl | hrest
        · refine ⟨none, ?_, fun r hr => nomatch hr⟩
          simp [Traversal.select, hcreated, hin, bind, Except.bind, pure, Except.pure]
        · exact ih h node hrest

theorem statusRecords_ok {deploymentId : Int} {window : Window} {nodes : List Json}
    {records : List BackfillRecord}
    (h : statusRecords readers settings deploymentId nodes = .ok records) :
    ∀ node ∈ nodes, Selects
      ((Traversal.deploymentStatuses deploymentId).select readers settings window node)
      (· ∈ records) := by
  induction nodes generalizing records with
  | nil => exact fun node hmem => nomatch hmem
  | cons first rest ih =>
      obtain ⟨record, hrecord, h⟩ := Postgres.bind_eq_ok h
      obtain ⟨others, hothers, h⟩ := Postgres.bind_eq_ok h
      cases h
      intro node hmem
      rcases List.mem_cons.mp hmem with rfl | hrest
      · refine ⟨some record, ?_, fun r hr => ?_⟩
        · simp [Traversal.select, hrecord, Except.map]
        · cases hr
          exact List.mem_cons_self
      · exact (ih hothers node hrest).imp fun _ hr => List.mem_cons_of_mem _ hr

end Backfill
