import DeliveryIntelligence.Backfill.WorkflowRuns
import DeliveryIntelligence.Library.Attempts

set_option autoImplicit false

/-!
# Whether a completed traversal has seen its total count

A traversal of the workflow runs completes when page number times page size reaches the total
count of a response, whatever the pages listed. A page that lists fewer runs than have their place
on it, at whatever position, goes unnoticed unless it is empty and not the last one; the total
count is seen exactly when others list as many runs beyond theirs (`ShortPagesCovered`), which under
offset paging no page does. A response can also make the traversal fail with an error other than
`RestDataError`, the `ValueError` of a record without an action.
-/

namespace Backfill

open Datetime Program

variable {readers : Readers} {settings : Settings} {window : Window} {key : BackfillRunKey}

/-! ## The errors of a response -/

/-- Reading a response raises nothing but `RestDataError` and the `ValueError` of a record. -/
def RestErrors {α : Type} (x : Except BackfillError α) : Prop :=
  ∀ e, x = .error e → (∃ message, e = .restDataError message) ∨ ∃ message, e = .valueError message

theorem restErrors_ok {α : Type} (a : α) : RestErrors (.ok a : Except BackfillError α) := by
  intro e h
  cases h

theorem restErrors_restDataError {α : Type} (message : String) :
    RestErrors (.error (.restDataError message) : Except BackfillError α) := by
  intro e h
  cases h
  exact Or.inl ⟨message, rfl⟩

theorem RestErrors.bind {α β : Type} {x : Except BackfillError α} {f : α → Except BackfillError β}
    (hx : RestErrors x) (hf : ∀ a, RestErrors (f a)) : RestErrors (x >>= f) := by
  intro e h
  cases x with
  | error e' =>
      cases h
      exact hx e rfl
  | ok a => exact hf a e h

theorem restErrors_requiredNonnegativeInt (container : Json) (name : String) :
    RestErrors (requiredNonnegativeInt container name) := by
  unfold requiredNonnegativeInt
  split
  · split
    · exact restErrors_restDataError _
    · exact restErrors_ok _
  · exact restErrors_restDataError _

theorem requiredNonnegativeInt_nonneg {container : Json} {name : String} {value : Int}
    (h : requiredNonnegativeInt container name = .ok value) : 0 ≤ value := by
  unfold requiredNonnegativeInt at h
  split at h
  · split at h
    · cases h
    · cases h
      omega
  · cases h

theorem restErrors_requiredPositiveInt (container : Json) (name : String) :
    RestErrors (requiredPositiveInt container name) := by
  refine (restErrors_requiredNonnegativeInt container name).bind fun value => ?_
  split
  · exact restErrors_restDataError _
  · exact restErrors_ok _

theorem restErrors_restAwareDatetime (container : Json) (name : String) :
    RestErrors (restAwareDatetime readers container name) := by
  unfold restAwareDatetime
  split
  · exact restErrors_ok _
  · exact restErrors_restDataError _

theorem restErrors_requiredRestString (container : Json) (name : String) :
    RestErrors (requiredRestString container name) := by
  unfold requiredRestString
  split
  · exact restErrors_ok _
  · exact restErrors_restDataError _

theorem restErrors_validateWorkflowRepository (node : Json) :
    RestErrors (validateWorkflowRepository settings node) := by
  unfold validateWorkflowRepository requiredRestObject
  refine RestErrors.bind ?_ fun repository => ?_
  · split
    · exact restErrors_ok _
    · exact restErrors_restDataError _
  · split
    · split
      · exact restErrors_ok _
      · exact restErrors_restDataError _
    · exact restErrors_restDataError _

theorem restErrors_postInit (f : RecordFields) : RestErrors (BackfillRecord.postInit f) := by
  intro e h
  unfold BackfillRecord.postInit at h
  split at h
  · split at h
    · cases h
    · cases h
      exact Or.inr ⟨_, rfl⟩
  · cases h
    exact Or.inr ⟨_, rfl⟩

theorem restErrors_workflowRunRecord (node : Json) :
    RestErrors (workflowRunRecord readers settings node) :=
  (restErrors_requiredPositiveInt node "id").bind fun _ =>
  (restErrors_requiredPositiveInt node "run_attempt").bind fun _ =>
  (restErrors_restAwareDatetime node "created_at").bind fun _ =>
  (restErrors_restAwareDatetime node "updated_at").bind fun _ =>
  (restErrors_requiredRestString node "status").bind fun _ =>
  (restErrors_validateWorkflowRepository node).bind fun _ => restErrors_postInit _

theorem restErrors_windowRecords (nodes : List Json) :
    RestErrors (windowRecords readers settings window nodes) := by
  induction nodes with
  | nil => exact restErrors_ok _
  | cons node rest ih =>
      refine (restErrors_restAwareDatetime node "created_at").bind fun createdAt => ?_
      split
      · exact (restErrors_workflowRunRecord node).bind fun record =>
          ih.bind fun records => restErrors_ok _
      · exact ih

theorem restErrors_workflowRunsResponse (payload : Json) :
    RestErrors (workflowRunsResponse readers settings window payload) := by
  unfold workflowRunsResponse requiredObjectPayload requiredObjectList
  refine RestErrors.bind ?_ fun response => ?_
  · split
    · exact restErrors_ok _
    · exact restErrors_restDataError _
  refine (restErrors_requiredNonnegativeInt response "total_count").bind fun totalCount => ?_
  split
  · exact restErrors_restDataError _
  refine RestErrors.bind ?_ fun nodes =>
    (restErrors_windowRecords nodes).bind fun records => restErrors_ok _
  split
  · split
    · exact restErrors_ok _
    · exact restErrors_restDataError _
  · exact restErrors_restDataError _

/-! ## What a completed traversal has seen -/

/-- The number of workflow runs a response lists. -/
def nodeCount (payload : Json) : Nat :=
  match requiredObjectList payload "workflow_runs" with
  | .ok nodes => nodes.length
  | .error _ => 0

theorem nodeCount_of_read {payload : Json} {totalCount : Int} {nodes : List Json}
    {records : List BackfillRecord}
    (hread : workflowRunsResponse readers settings window payload
      = .ok (totalCount, nodes, records)) : nodeCount payload = nodes.length := by
  obtain ⟨-, hnodes, -⟩ := workflowRunsResponse_ok hread
  unfold nodeCount
  rw [hnodes]

/-- A traversal with these responses returned after at least as many runs as the last total
count, or raised `RestDataError`. -/
def SeesTotal (payloads : List Json) (result : Except BackfillError BackfillSummary) : Prop :=
  match result with
  | .ok _ => ∃ last totalCount, payloads.getLast? = some last
      ∧ requiredNonnegativeInt last "total_count" = .ok totalCount
      ∧ totalCount ≤ (payloads.map nodeCount).sum
  | .error e => ∃ message, e = .restDataError message

/-- How many of `totalCount` runs have their place on a page, counted from 0. -/
def places (pageSize totalCount page : ℕ) : ℕ := min pageSize (totalCount - page * pageSize)

/-- The runs the pages lack, each against its places. -/
def missing (pageSize totalCount : ℕ) (payloads : List Json) : ℕ :=
  (payloads.mapIdx fun page payload =>
    places pageSize totalCount page - nodeCount payload).sum

/-- The runs the pages list beyond their places. -/
def surplus (pageSize totalCount : ℕ) (payloads : List Json) : ℕ :=
  (payloads.mapIdx fun page payload =>
    nodeCount payload - places pageSize totalCount page).sum

section

variable (readers : Readers) (settings : Settings) (window : Window) (payloads : List Json)

/-- The last response is well-formed with this total count, and completes a traversal that began
at page 1. -/
def Completes (totalCount : ℕ) : Prop :=
  ∃ last nodes records, payloads.getLast? = some last
    ∧ workflowRunsResponse readers settings window last = .ok (↑totalCount, nodes, records)
    ∧ totalCount ≤ payloads.length * settings.pageSize

/-- What short pages lack is listed beyond the places of others. -/
def ShortPagesCovered : Prop :=
  ∀ totalCount, Completes readers settings window payloads totalCount →
    missing settings.pageSize.toNat totalCount payloads
      ≤ surplus settings.pageSize.toNat totalCount payloads

/-- Offset paging: no page lists more runs than have their place on it. -/
def WithinPlaces : Prop :=
  ∀ totalCount, Completes readers settings window payloads totalCount →
    ∀ page payload, payloads[page]? = some payload →
      nodeCount payload ≤ places settings.pageSize.toNat totalCount page

/-- No page lists fewer runs than have their place on it. -/
def NoShortPage : Prop :=
  ∀ totalCount, Completes readers settings window payloads totalCount →
    ∀ page payload, payloads[page]? = some payload →
      places settings.pageSize.toNat totalCount page ≤ nodeCount payload

end

/-- What the pages lack and what they list are together what they list beyond their places and the
places themselves. -/
theorem missing_add_sum (pageSize totalCount : ℕ) (payloads : List Json) :
    missing pageSize totalCount payloads + (payloads.map nodeCount).sum
      = surplus pageSize totalCount payloads + min totalCount (payloads.length * pageSize) := by
  unfold missing surplus
  -- on the pages, the last one taken off
  induction payloads using List.reverseRecOn with
  | nil => simp
  | append_singleton payloads payload ih =>
      have hpages : (payloads.length + 1) * pageSize = payloads.length * pageSize + pageSize := by
        ring
      have hplaces : min totalCount (payloads.length * pageSize)
          + places pageSize totalCount payloads.length
          = min totalCount ((payloads.length + 1) * pageSize) := by
        unfold places
        omega
      simp only [List.mapIdx_append, List.mapIdx_cons, List.mapIdx_nil, List.sum_append,
        List.sum_singleton, List.map_append, List.map_cons, List.map_nil, List.length_append,
        List.length_singleton, Nat.zero_add]
      omega

/-- The pages of a completed traversal list the total count exactly when what is missing is
covered. -/
theorem missing_le_surplus_iff {pageSize totalCount : ℕ} {payloads : List Json}
    (hcompletes : totalCount ≤ payloads.length * pageSize) :
    missing pageSize totalCount payloads ≤ surplus pageSize totalCount payloads
      ↔ totalCount ≤ (payloads.map nodeCount).sum := by
  have hsum := missing_add_sum pageSize totalCount payloads
  rw [min_eq_left hcompletes] at hsum
  omega

theorem sum_mapIdx_eq_zero_iff {α : Type} {count : ℕ → α → ℕ} {items : List α} :
    (items.mapIdx count).sum = 0 ↔ ∀ i item, items[i]? = some item → count i item = 0 := by
  rw [List.sum_eq_zero_iff]
  constructor
  · intro hzero i item hitem
    obtain ⟨hi, rfl⟩ := List.getElem?_eq_some_iff.mp hitem
    exact hzero _ (List.mem_mapIdx.mpr ⟨i, hi, rfl⟩)
  · intro hzero n hn
    obtain ⟨i, hi, rfl⟩ := List.mem_mapIdx.mp hn
    exact hzero i _ (List.getElem?_eq_getElem hi)

/-- Where no page lists too many, nothing that is missing is covered. -/
theorem shortPagesCovered_iff {payloads : List Json}
    (hwithin : WithinPlaces readers settings window payloads) :
    ShortPagesCovered readers settings window payloads
      ↔ NoShortPage readers settings window payloads := by
  refine forall₂_congr fun totalCount hcompletes => ?_
  have hsurplus : surplus settings.pageSize.toNat totalCount payloads = 0 :=
    sum_mapIdx_eq_zero_iff.mpr fun page payload hpayload =>
      Nat.sub_eq_zero_of_le (hwithin totalCount hcompletes page payload hpayload)
  rw [hsurplus, Nat.le_zero]
  unfold missing
  rw [sum_mapIdx_eq_zero_iff]
  simp only [Nat.sub_eq_zero_iff_le]

/-- A page number up to 1,000 has a text. -/
theorem str_isSome {page : Int} (hpage : 1 ≤ page) (hsmall : page ≤ 1000) :
    Python.str (page + 1) ≠ none := by
  have hlength : (toString (page + 1).natAbs).toList.length ≤ Python.maxStrDigits := by
    have hdigits : (Nat.repr (page + 1).natAbs).length ≤ 4 :=
      Nat.repr_length _ 4 (by omega) (by omega)
    exact le_trans hdigits (by decide)
  rw [Python.str, if_pos hlength]
  exact Option.some_ne_none _

/-- How an undisturbed run from page `page` on ends, told from its responses: all but the last are
well-formed and not empty; the last one is malformed, completes the traversal or leaves it short. -/
theorem outcome_of_pageRun {page : Int} {summary : BackfillSummary} {fuel : Nat}
    {log : BackfillLog RestRequest} {result : Except BackfillError BackfillSummary}
    (h : PageRun readers settings window key page summary fuel log result)
    (hreplied : Undisturbed log) (hpage : 1 ≤ page) (hbound : page ≤ 1000)
    (hfuel : 1001 ≤ fuel + page) :
    ∃ before last, responses log = before ++ [last]
      ∧ (∀ payload ∈ before, (∃ read,
          workflowRunsResponse readers settings window payload = .ok read)
        ∧ nodeCount payload ≠ 0)
      ∧ ((∃ e, workflowRunsResponse readers settings window last = .error e
            ∧ result = .error e)
        ∨ ∃ totalCount nodes records,
          workflowRunsResponse readers settings window last = .ok (totalCount, nodes, records)
          ∧ ((totalCount ≤ (page + before.length) * settings.pageSize
                ∧ ∃ summary', result = .ok summary')
            ∨ ((page + before.length) * settings.pageSize < totalCount
                ∧ ∃ message, result = .error (.restDataError message)))) := by
  induction h with
  | interrupted page summary => omega
  | requestFailed page summary fuel e =>
      obtain ⟨payload, hpayload⟩ := hreplied _ List.mem_cons_self
      cases hpayload
  | persistFailed page summary fuel hread =>
      obtain ⟨outcome, houtcome⟩ :=
        hreplied _ (List.mem_cons_of_mem _ List.mem_cons_self)
      cases houtcome
  | noCursor page summary fuel hread hmore hcursor =>
      exact absurd hcursor (str_isSome hpage hbound)
  | malformed page summary fuel hread =>
      exact ⟨[], _, rfl, by simp, Or.inl ⟨_, hread, rfl⟩⟩
  | completed page summary fuel hread hlast =>
      refine ⟨[], _, rfl, by simp, Or.inr ⟨_, _, _, hread, Or.inl ⟨?_, _, rfl⟩⟩⟩
      simpa using hlast
  | endedEarly page summary fuel hread hmore hcursor =>
      refine ⟨[], _, rfl, by simp, Or.inr ⟨_, _, _, hread, Or.inr ⟨?_, _, rfl⟩⟩⟩
      simpa using hmore
  | @next page summary fuel payload totalCount nodes records cursor outcome log result hread hmore
      hcursor hnodes rest ih =>
      -- below a total count of at most 1,000 there are less than 1,000 pages
      have hcap : totalCount ≤ maxFilteredWorkflowRuns := workflowRunsResponse_le hread
      have hsize := settings.pageSize_range.1
      have hpages : page ≤ page * settings.pageSize := le_mul_of_one_le_right (by omega) hsize
      have hnext : page + 1 ≤ 1000 := by
        have hthousand : maxFilteredWorkflowRuns = 1000 := rfl
        omega
      obtain ⟨before, last, hresponses, hbefore, hend⟩ :=
        ih hreplied.rest.rest (by omega) hnext (by push_cast at hfuel ⊢; omega)
      have hcount : page + 1 + (before.length : Int) = page + ((payload :: before).length : Int) := by
        rw [List.length_cons]
        push_cast
        ring
      refine ⟨payload :: before, last, ?_, ?_, ?_⟩
      · rw [responses_request, responses_persist, hresponses]
        rfl
      · intro other hother
        rcases List.mem_cons.mp hother with rfl | hmem
        · refine ⟨⟨_, hread⟩, ?_⟩
          rw [nodeCount_of_read hread]
          exact List.length_eq_zero_iff.not.mpr hnodes
        · exact hbefore other hmem
      · rw [hcount] at hend
        exact hend

/-- A run that returns has marked its key as completed. -/
theorem completed_of_pageRun {page : Int} {summary summary' : BackfillSummary} {fuel : Nat}
    {log : BackfillLog RestRequest} {result : Except BackfillError BackfillSummary}
    (h : PageRun readers settings window key page summary fuel log result)
    (hresult : result = .ok summary') {tables tables' : BackfillTables}
    (hserved : Served tables log tables') :
    isCompleted (loadCheckpoint key tables') = true := by
  induction h generalizing tables with
  | interrupted page summary => cases hresult
  | requestFailed page summary fuel e => cases hresult
  | malformed page summary fuel hread => cases hresult
  | noCursor page summary fuel hread hmore hcursor => cases hresult
  | persistFailed page summary fuel hread => cases hresult
  | endedEarly page summary fuel hread hmore hcursor => cases hresult
  | completed page summary fuel hread hlast =>
      cases hserved with
      | cons hrequest hrest =>
          cases hrest with
          | cons hpersist hnil =>
              cases hnil
              obtain ⟨row, -, hstatus, hlookup⟩ := (pageCommitted_of_answered hpersist).checkpoint
              have hload : loadCheckpoint key tables' = some row := hlookup
              rw [hload]
              show (row.status == .completed) = true
              rw [hstatus]
              rfl
  | next page summary fuel hread hmore hcursor hnodes rest ih =>
      cases hserved with
      | cons hrequest hrest =>
          cases hrest with
          | cons hpersist hserved => exact ih hresult hserved

/-- The condition on the pages as one on the runs seen. -/
theorem shortPagesCovered_concat {before : List Json} {last : Json} :
    ShortPagesCovered readers settings window (before ++ [last])
      ↔ ∀ totalCount nodes records,
        workflowRunsResponse readers settings window last = .ok (totalCount, nodes, records) →
        totalCount ≤ (1 + before.length) * settings.pageSize →
        totalCount ≤ ((before ++ [last]).map nodeCount).sum := by
  have hlast : (before ++ [last]).getLast? = some last := List.getLast?_concat
  have hlength : (before ++ [last]).length = before.length + 1 := List.length_append
  have hsize : (settings.pageSize.toNat : Int) = settings.pageSize :=
    Int.toNat_of_nonneg (le_trans (by decide) settings.pageSize_range.1)
  have hbound : ∀ totalCount : ℕ,
      totalCount ≤ (before ++ [last]).length * settings.pageSize.toNat
        ↔ (totalCount : Int) ≤ (1 + before.length) * settings.pageSize := by
    intro totalCount
    rw [hlength, ← Int.ofNat_le]
    push_cast
    rw [hsize, add_comm (before.length : Int) 1]
  constructor
  · intro hcovered totalCount nodes records hread hcompletes
    -- a total count is not negative
    obtain ⟨htotal, -, -⟩ := workflowRunsResponse_ok hread
    obtain ⟨n, rfl⟩ := Int.eq_ofNat_of_zero_le (requiredNonnegativeInt_nonneg htotal)
    have hplaced := (hbound n).mpr hcompletes
    have hlisted := (missing_le_surplus_iff hplaced).mp
      (hcovered n ⟨last, nodes, records, hlast, hread, by rw [← hsize]; exact_mod_cast hplaced⟩)
    exact_mod_cast hlisted
  · rintro hseen totalCount ⟨last', nodes, records, hlast', hread, hcompletes⟩
    rw [hlast] at hlast'
    cases hlast'
    have hplaced : totalCount ≤ (before ++ [last]).length * settings.pageSize.toNat := by
      rw [← hsize] at hcompletes
      exact_mod_cast hcompletes
    refine (missing_le_surplus_iff hplaced).mpr ?_
    exact_mod_cast hseen totalCount nodes records hread ((hbound totalCount).mp hplaced)

/-- After well-formed responses only the last one can make the constructor of a record fail. -/
theorem no_valueError_concat {before : List Json} {last : Json}
    (hbefore : ∀ payload ∈ before, ∃ read,
      workflowRunsResponse readers settings window payload = .ok read) :
    (∀ payload ∈ before ++ [last], ∀ message,
        workflowRunsResponse readers settings window payload ≠ .error (.valueError message))
      ↔ ∀ message,
        workflowRunsResponse readers settings window last ≠ .error (.valueError message) := by
  constructor
  · intro hvalid
    exact hvalid last (List.mem_append_right _ List.mem_cons_self)
  · intro hvalid payload hpayload
    rcases List.mem_append.mp hpayload with hmem | hmem
    · obtain ⟨read, hread⟩ := hbefore payload hmem
      intro message herror
      rw [hread] at herror
      cases herror
    · rw [List.mem_singleton.mp hmem]
      exact hvalid

theorem seesTotal_concat_ok {before : List Json} {last : Json} {totalCount : Int}
    {summary : BackfillSummary}
    (htotal : requiredNonnegativeInt last "total_count" = .ok totalCount) :
    SeesTotal (before ++ [last]) (.ok summary)
      ↔ totalCount ≤ ((before ++ [last]).map nodeCount).sum := by
  have hlast : (before ++ [last]).getLast? = some last := List.getLast?_concat
  constructor
  · rintro ⟨last', totalCount', hlast', htotal', hseen⟩
    rw [hlast] at hlast'
    cases hlast'
    rw [htotal] at htotal'
    cases htotal'
    exact hseen
  · intro hseen
    exact ⟨last, totalCount, hlast, htotal, hseen⟩

theorem undisturbed_onePageLog (totalCount : Int) (nextCursor : Option String)
    (completed : Bool) : Undisturbed (onePageLog totalCount nextCursor completed) := by
  intro exchange hexchange
  simp only [onePageLog, List.mem_cons, List.not_mem_nil, or_false] at hexchange
  rcases hexchange with rfl | rfl | rfl
  · exact ⟨_, rfl⟩
  · exact ⟨_, rfl⟩
  · exact ⟨_, rfl⟩

/-- A page of one workflow run of two. -/
def oneOfTwoRuns (id : Int) : Json :=
  .object [("total_count", .number 2 0), ("workflow_runs", .array [sampleRun id])]

/-- The traversal of two workflow runs by pages of one, with nothing disturbed. -/
def twoPages : BackfillLog RestRequest × Except BackfillError BackfillSummary × BackfillTables :=
  (runWorkflowRuns sampleReaders sampleSettings sampleWindow 1000).alone
    (quietAct (serve sampleListing)) emptyTables

end Backfill
