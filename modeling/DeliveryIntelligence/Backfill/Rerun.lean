import DeliveryIntelligence.Backfill.Accounting
import DeliveryIntelligence.Backfill.Cli
import DeliveryIntelligence.Backfill.WorkflowRuns
import DeliveryIntelligence.Library.Attempts

set_option autoImplicit false

/-!
# Reruns of a window

Attempts of `main` that follow one another, each run to its end or lost at any point, on any
windows and repositories, while other programs add raw rows. A traversal whose checkpoint is
completed is never opened again, one in progress only gets further, and the page a REST traversal
goes on with is the one behind those it has persisted. Once `main` has returned for a window, a
later call for the same window reads three checkpoints and does nothing else (`rerun_is_idle`).
-/

namespace Backfill

open Datetime Postgres Program RawEvents

/-! ## Checkpoints that get further -/

/-- A completed row stays as it is. -/
def Progress (row row' : BackfillCheckpoint) : Prop :=
  row' = row ∨ row.status = .inProgress ∧ row.pagesCompleted < row'.pagesCompleted
    ∧ row.recordsInserted ≤ row'.recordsInserted

theorem Progress.trans {row row' row'' : BackfillCheckpoint} (h : Progress row row')
    (h' : Progress row' row'') : Progress row row'' := by
  rcases h with rfl | ⟨hstatus, hpages, hrecords⟩
  · exact h'
  · rcases h' with rfl | ⟨-, hpages', hrecords'⟩
    · exact Or.inr ⟨hstatus, hpages, hrecords⟩
    · exact Or.inr ⟨hstatus, hpages.trans hpages', hrecords.trans hrecords'⟩

/-- No row is lost or falls back. -/
def Forward (before after : CheckpointTable) : Prop :=
  ∀ key row, before.lookup key = some row →
    ∃ row', after.lookup key = some row' ∧ Progress row row'

theorem Forward.refl (checkpoints : CheckpointTable) : Forward checkpoints checkpoints :=
  fun _ row hrow => ⟨row, hrow, Or.inl rfl⟩

theorem Forward.trans {first second third : CheckpointTable} (h : Forward first second)
    (h' : Forward second third) : Forward first third := by
  intro key row hrow
  obtain ⟨row', hrow', hprogress⟩ := h key row hrow
  obtain ⟨row'', hrow'', hprogress'⟩ := h' key row' hrow'
  exact ⟨row'', hrow'', hprogress.trans hprogress'⟩

/-- The traversal of the key is completed. -/
def Completed (key : CheckpointKey) (checkpoints : CheckpointTable) : Prop :=
  isCompleted (checkpoints.lookup key) = true

theorem inProgress_of_not_completed {key : CheckpointKey} {checkpoints : CheckpointTable}
    {row : BackfillCheckpoint} (h : ¬ Completed key checkpoints)
    (hrow : checkpoints.lookup key = some row) : row.status = .inProgress := by
  unfold Completed at h
  rw [hrow] at h
  cases hstatus : row.status with
  | inProgress => rfl
  | completed => exact absurd (show (row.status == .completed) = true by rw [hstatus]; rfl) h

theorem Completed.forward {key : CheckpointKey} {before after : CheckpointTable}
    (h : Completed key before) (hforward : Forward before after) : Completed key after := by
  unfold Completed at *
  cases hrow : before.lookup key with
  | none =>
      rw [hrow] at h
      cases h
  | some row =>
      obtain ⟨row', hrow', hprogress⟩ := hforward key row hrow
      have hstatus : row.status = .completed := by
        rw [hrow] at h
        exact eq_of_beq h
      rcases hprogress with rfl | ⟨hopen, -⟩
      · rw [hrow', ← hrow]
        exact h
      · rw [hstatus] at hopen
        cases hopen

/-! ## Numbered pages -/

def numberedResources : List String := ["workflow_runs", "deployments", "deployment_statuses"]

/-- The cursor of a REST traversal in progress is the number behind its persisted pages. -/
def InStep (checkpoints : CheckpointTable) : Prop :=
  ∀ key row, checkpoints.lookup key = some row → row.status = .inProgress →
    key.resource ∈ numberedResources → row.cursor = Python.str (row.pagesCompleted + 1)

theorem inStep_empty : InStep ∅ := by
  intro key row hrow
  rw [AList.lookup_empty] at hrow
  cases hrow

/-- A resumed traversal asks for the page behind the persisted ones. -/
theorem InStep.nextPage {checkpoints : CheckpointTable} (h : InStep checkpoints)
    {key : CheckpointKey} (hkey : key.resource ∈ numberedResources)
    (hopen : ¬ Completed key checkpoints) {page : Int}
    (hpage : nextPage (checkpoints.lookup key) = .ok page) :
    page = pagesCompleted key checkpoints + 1 := by
  unfold pagesCompleted
  cases hrow : checkpoints.lookup key with
  | none =>
      rw [hrow] at hpage
      cases hpage
      rfl
  | some row =>
      rw [hrow] at hpage
      have hcursor := h key row hrow (inProgress_of_not_completed hopen hrow) hkey
      unfold Backfill.nextPage pageOfCursor at hpage
      simp only at hpage
      rw [hcursor] at hpage
      cases hstr : Python.str (row.pagesCompleted + 1) with
      | none =>
          rw [hstr] at hpage
          cases hpage
      | some cursor =>
          rw [hstr] at hpage
          simp only [Python.int_str hstr] at hpage
          split at hpage
          · cases hpage
          · exact (Except.ok.inj hpage).symm

/-! ## What a page puts in the table -/

/-- A page of the key was put behind those before it. -/
structure PagePut (key : CheckpointKey) (completed : Bool) (before after : CheckpointTable) :
    Prop where
  forward : Forward before after
  inStep : InStep before → InStep after
  status : Completed key after ↔ completed = true
  pages : pagesCompleted key after = pagesCompleted key before + 1
  others : ∀ other, other ≠ key → after.lookup other = before.lookup other

theorem persistPage_checkpoints {generated : Nat → Generated} {key : BackfillRunKey}
    {records : List BackfillRecord} {nextCursor : Option String} {completed : Bool}
    {tables tables' : BackfillTables} {outcome : PageWriteOutcome}
    (h : persistPage generated key records nextCursor completed tables = .ok (outcome, tables')) :
    ∃ inserted : Nat, tables'.checkpoints = tables.checkpoints.insert key.parameters
      (advancedRow nextCursor (statusOf completed) inserted
        (tables.checkpoints.lookup key.parameters)) := by
  obtain ⟨_, -, h⟩ := bind_eq_ok h
  obtain ⟨⟨events, inserted⟩, -, h⟩ := bind_eq_ok h
  obtain ⟨⟨checkpoints, row⟩, hadvance, h⟩ := bind_eq_ok h
  have hcheckpoints := advanceCheckpoint_eq (mapError_eq_ok hadvance)
  cases row with
  | none => cases h
  | some checkpoint =>
      cases h
      exact ⟨inserted, hcheckpoints⟩

theorem advancedRow_pages (cursor : Option String) (status : CheckpointStatus) (inserted : Nat)
    (old : Option BackfillCheckpoint) :
    (advancedRow cursor status inserted old).pagesCompleted = old.elim 0 (·.pagesCompleted) + 1 := by
  cases old <;> rfl

theorem pagePut_insert {key : CheckpointKey} {cursor : Option String} {completed : Bool}
    {inserted : Nat} {checkpoints : CheckpointTable} (hopen : ¬ Completed key checkpoints)
    (hcursor : completed = false → key.resource ∈ numberedResources →
      cursor = Python.str (pagesCompleted key checkpoints + 1 + 1)) :
    PagePut key completed checkpoints (checkpoints.insert key
      (advancedRow cursor (statusOf completed) inserted (checkpoints.lookup key))) := by
  have hlookup := AList.lookup_insert (a := key)
    (b := advancedRow cursor (statusOf completed) inserted (checkpoints.lookup key)) checkpoints
  have hothers : ∀ other, other ≠ key →
      (checkpoints.insert key (advancedRow cursor (statusOf completed) inserted
        (checkpoints.lookup key))).lookup other = checkpoints.lookup other :=
    fun other hne => AList.lookup_insert_ne hne
  have hstatus : (advancedRow cursor (statusOf completed) inserted
      (checkpoints.lookup key)).status = statusOf completed := by
    cases checkpoints.lookup key <;> rfl
  have hrowCursor : (advancedRow cursor (statusOf completed) inserted
      (checkpoints.lookup key)).cursor = cursor := by
    cases checkpoints.lookup key <;> rfl
  refine ⟨?_, ?_, ?_, ?_, hothers⟩
  · intro other row hrow
    by_cases hother : other = key
    · subst hother
      refine ⟨_, hlookup, Or.inr ⟨inProgress_of_not_completed hopen hrow, ?_⟩⟩
      rw [hrow]
      constructor
      · show row.pagesCompleted < row.pagesCompleted + 1
        omega
      · show row.recordsInserted ≤ row.recordsInserted + inserted
        omega
    · exact ⟨row, (hothers other hother).trans hrow, Or.inl rfl⟩
  · intro hin other row hrow hrowStatus hnumbered
    by_cases hother : other = key
    · subst hother
      rw [hlookup] at hrow
      cases hrow
      have hcompleted : completed = false := by
        rw [hstatus] at hrowStatus
        cases completed with
        | false => rfl
        | true => cases hrowStatus
      rw [hrowCursor, advancedRow_pages]
      exact hcursor hcompleted hnumbered
    · rw [hothers other hother] at hrow
      exact hin other row hrow hrowStatus hnumbered
  · unfold Completed
    rw [hlookup]
    show ((advancedRow cursor (statusOf completed) inserted (checkpoints.lookup key)).status
      == .completed) = true ↔ _
    rw [hstatus]
    cases completed <;> decide
  · unfold pagesCompleted
    rw [hlookup]
    exact advancedRow_pages cursor (statusOf completed) inserted (checkpoints.lookup key)

/-! ## Rules -/

section

variable {Request β : Type}

/-- Before each operation other programs may have added raw rows. -/
def Drifted (exchange : BackfillExchange Request) (tables tables' : BackfillTables) : Prop :=
  ∃ events, Extends tables.events events ∧ Answered exchange { tables with events } tables'

def isLoad (exchange : BackfillExchange Request) : Bool :=
  match exchange with
  | ⟨.loadCheckpoint _, _⟩ => true
  | _ => false

/-- What each operation of an attempt does to the checkpoints; `G` is also told whether it was a
load. -/
abbrev Guarantees (G : Bool → CheckpointTable → CheckpointTable → Prop)
    (exchange : BackfillExchange Request) (tables tables' : BackfillTables) : Prop :=
  G (isLoad exchange) tables.checkpoints tables'.checkpoints

/-- From these checkpoints on the job keeps the guarantee, whatever the raw rows are. -/
def Advances (G : Bool → CheckpointTable → CheckpointTable → Prop)
    (post : β → CheckpointTable → Prop) (job : Job Request β) (checkpoints : CheckpointTable) :
    Prop :=
  ∀ tables : BackfillTables, tables.checkpoints = checkpoints →
    job.Leads Drifted (Guarantees G) (fun b tables' => post b tables'.checkpoints) tables

variable {G : Bool → CheckpointTable → CheckpointTable → Prop}
  {post : β → CheckpointTable → Prop} {checkpoints : CheckpointTable}

theorem advances_pure {b : β} (h : post b checkpoints) :
    Advances G post (pure b : Job Request β) checkpoints := by
  rintro tables rfl
  exact h

theorem Advances.imp {post' : β → CheckpointTable → Prop} {job : Job Request β}
    (h : Advances G post job checkpoints)
    (hpost : ∀ b checkpoints', post b checkpoints' → post' b checkpoints') :
    Advances G post' job checkpoints :=
  fun tables htables => (h tables htables).imp fun b tables' => hpost b tables'.checkpoints

theorem advances_raise (e : BackfillError) :
    Advances G post (.raise e : Job Request β) checkpoints := fun _ _ => trivial

theorem advances_ofExcept {α : Type} {x : Except BackfillError α} {f : α → Job Request β}
    (h : ∀ a, x = .ok a → Advances G post (f a) checkpoints) :
    Advances G post (Prog.ofExcept x >>= f) checkpoints := by
  cases x with
  | error e => exact fun _ _ => trivial
  | ok a => exact h a rfl

theorem advances_bind {α : Type} {mid : α → CheckpointTable → Prop} {job : Job Request α}
    {f : α → Job Request β} (h : Advances G mid job checkpoints)
    (hf : ∀ a checkpoints', mid a checkpoints' → Advances G post (f a) checkpoints') :
    Advances G post (job >>= f) checkpoints :=
  fun tables htables => (h tables htables).bind fun a tables' hmid => hf a _ hmid tables' rfl

/-- The rule of an operation that leaves the checkpoints alone, if it got its reply. -/
theorem advances_load {key : BackfillRunKey} {f : Option BackfillCheckpoint → Job Request β}
    (hG : G true checkpoints checkpoints)
    (h : Advances G post (f (checkpoints.lookup key.parameters)) checkpoints) :
    Advances G post (Job.loadCheckpoint key >>= f) checkpoints := by
  rintro tables rfl reply tables' ⟨events, -, hanswered⟩
  obtain ⟨rfl, hreply⟩ := answered_load hanswered
  refine ⟨hG, ?_⟩
  cases reply with
  | error e => trivial
  | ok checkpoint =>
      rw [hreply checkpoint rfl]
      exact h _ rfl

theorem advances_request {request : Request} {f : Json → Job Request β}
    (hG : G false checkpoints checkpoints)
    (h : ∀ payload, Advances G post (f payload) checkpoints) :
    Advances G post (Job.request request >>= f) checkpoints := by
  rintro tables rfl reply tables' ⟨events, -, hanswered⟩
  obtain rfl := answered_request hanswered
  refine ⟨hG, ?_⟩
  cases reply with
  | error e => trivial
  | ok payload => exact h payload _ rfl

end

/-! ## Attempts get further -/

/-- No checkpoint falls back, and numbered ones stay in step. -/
def KeepsForward (_ : Bool) (before after : CheckpointTable) : Prop :=
  Forward before after ∧ (InStep before → InStep after)

theorem KeepsForward.refl (load : Bool) (checkpoints : CheckpointTable) :
    KeepsForward load checkpoints checkpoints := ⟨Forward.refl _, id⟩

section

variable {Request β : Type} {post : β → CheckpointTable → Prop} {checkpoints : CheckpointTable}

/-- A page is put into a traversal that is not completed. -/
theorem advances_persist {key : BackfillRunKey} {records : List BackfillRecord}
    {nextCursor : Option String} {completed : Bool} {f : PageWriteOutcome → Job Request β}
    (hopen : ¬ Completed key.parameters checkpoints)
    (hcursor : completed = false → key.resource ∈ numberedResources →
      nextCursor = Python.str (pagesCompleted key.parameters checkpoints + 1 + 1))
    (h : ∀ outcome checkpoints', PagePut key.parameters completed checkpoints checkpoints' →
      Advances KeepsForward post (f outcome) checkpoints') :
    Advances KeepsForward post (Job.persistPage key records nextCursor completed >>= f)
      checkpoints := by
  rintro tables rfl reply tables' ⟨events, -, hanswered⟩
  obtain ⟨choice, hact⟩ := answered_persist hanswered
  -- a page that is committed, whether the attempt is told or not
  have hcommitted : ∀ outcome after,
      persistPage choice.generated key records nextCursor completed { tables with events }
        = .ok (outcome, after) →
      PagePut key.parameters completed tables.checkpoints after.checkpoints := by
    intro outcome after hpage
    obtain ⟨inserted, hcheckpoints⟩ := persistPage_checkpoints hpage
    rw [hcheckpoints]
    exact pagePut_insert hopen hcursor
  unfold persistAct at hact
  split at hact
  · cases hact
    exact ⟨KeepsForward.refl _ _, trivial⟩
  · cases hact
    exact ⟨KeepsForward.refl _ _, trivial⟩
  · rename_i outcome after hpage hfault
    cases hact
    have hput := hcommitted _ _ hpage
    exact ⟨⟨hput.forward, hput.inStep⟩, trivial⟩
  · rename_i outcome after hpage hfault
    cases hact
    have hput := hcommitted _ _ hpage
    exact ⟨⟨hput.forward, hput.inStep⟩, h outcome _ hput _ rfl⟩

/-- What is kept adds up along the first part. -/
theorem advances_since {α : Type} {mid : α → CheckpointTable → Prop} {job : Job Request α}
    {f : α → Job Request β} (h : Advances KeepsForward mid job checkpoints)
    (hf : ∀ a checkpoints', mid a checkpoints' → Forward checkpoints checkpoints' →
      (InStep checkpoints → InStep checkpoints') → Advances KeepsForward post (f a) checkpoints') :
    Advances KeepsForward post (job >>= f) checkpoints := by
  intro tables htables
  have hsince := Prog.Leads.since
    (R := fun tables tables' : BackfillTables => KeepsForward false tables.checkpoints
      tables'.checkpoints)
    (fun tables => KeepsForward.refl _ _)
    (fun _ _ _ h h' => ⟨h.1.trans h'.1, fun hin => h'.2 (h.2 hin)⟩)
    (fun _ _ _ hstep => hstep) (h tables htables)
  refine hsince.bind fun a tables' hmid => hf a _ hmid.1 ?_ ?_ tables' rfl
  · rw [← htables]
    exact hmid.2.1
  · rw [← htables]
    exact hmid.2.2

/-- A traversal that is completed is not opened. -/
theorem advances_opened {x : Except BackfillError BackfillRunKey} {k : CheckpointKey}
    {rest : BackfillRunKey → Option BackfillCheckpoint → Job Request BackfillSummary}
    {post : BackfillSummary → CheckpointTable → Prop}
    (hx : ∀ key, x = .ok key → key.parameters = k)
    (hdone : Completed k checkpoints → post .zero checkpoints)
    (hrest : ∀ key, key.parameters = k → ¬ Completed k checkpoints →
      Advances KeepsForward post (rest key (checkpoints.lookup k)) checkpoints) :
    Advances KeepsForward post (Prog.ofExcept x >>= fun key => Job.loadCheckpoint key >>=
      fun checkpoint => if isCompleted checkpoint then pure .zero else rest key checkpoint)
      checkpoints := by
  refine advances_ofExcept fun key hkey => advances_load (KeepsForward.refl _ _) ?_
  rw [hx key hkey]
  by_cases hcompleted : isCompleted (checkpoints.lookup k) = true
  · rw [if_pos hcompleted]
    exact advances_pure (hdone hcompleted)
  · rw [if_neg hcompleted]
    exact hrest key (hx key hkey) hcompleted

end

/-! ### The REST backfill -/

section

variable {β : Type} {readers : Readers} {settings : Settings} {window : Window}
  {key : BackfillRunKey} {checkpoints : CheckpointTable}

/-- The key of a traversal. -/
def CheckpointKey.ofRun (repositoryId : Int) (resource scope : String) (window : Window) :
    CheckpointKey :=
  RunKeyFields.parameters ⟨repositoryId, resource, scope, window⟩

theorem parameters_of_runKey {resource scope : String}
    (h : settings.runKey resource scope window = .ok key) :
    key.parameters = .ofRun settings.repositoryId resource scope window :=
  congrArg RunKeyFields.parameters (BackfillRunKey.postInit_ok h)

theorem advances_persistNumberedPage {post : β → CheckpointTable → Prop}
    {records : List BackfillRecord} {page : Int} {completed : Bool}
    {f : PageWriteOutcome → Job RestRequest β}
    (hopen : ¬ Completed key.parameters checkpoints)
    (hpage : page = pagesCompleted key.parameters checkpoints + 1)
    (h : ∀ outcome checkpoints', PagePut key.parameters completed checkpoints checkpoints' →
      Advances KeepsForward post (f outcome) checkpoints') :
    Advances KeepsForward post (persistNumberedPage key records page completed >>= f)
      checkpoints := by
  unfold persistNumberedPage
  cases completed with
  | true => exact advances_persist hopen (fun hfalse => absurd hfalse (by decide)) h
  | false =>
      cases hstr : Python.str (page + 1) with
      | none => exact advances_raise _
      | some cursor =>
          exact advances_persist hopen (fun _ _ => by rw [← hpage, hstr]) h

/-- The page behind the one that was put. -/
theorem PagePut.next {completed : Bool} {before after : CheckpointTable} {k : CheckpointKey}
    (h : PagePut k completed before after) {page : Int} (hpage : page = pagesCompleted k before + 1) :
    page + 1 = pagesCompleted k after + 1 := by
  rw [h.pages, hpage]

theorem advances_workflowRunsLoop (fuel : Nat) (page : Int) (summary : BackfillSummary)
    (hopen : ¬ Completed key.parameters checkpoints)
    (hpage : page = pagesCompleted key.parameters checkpoints + 1) :
    Advances KeepsForward (fun _ checkpoints' => Completed key.parameters checkpoints')
      (workflowRunsLoop readers settings window key page summary fuel) checkpoints := by
  induction fuel generalizing page summary checkpoints with
  | zero => exact advances_raise _
  | succ fuel ih =>
      refine advances_request (KeepsForward.refl _ _) fun payload => ?_
      refine advances_ofExcept fun response _ => ?_
      refine advances_persistNumberedPage hopen hpage fun outcome checkpoints' hput => ?_
      split
      · rename_i hcompleted
        exact advances_pure (hput.status.mpr hcompleted)
      · rename_i hcompleted
        split
        · exact advances_raise _
        · exact ih _ _ (fun h => hcompleted (hput.status.mp h)) (hput.next hpage)

theorem advances_runWorkflowRuns (fuel : Nat) (hin : InStep checkpoints) :
    Advances KeepsForward
      (fun _ => Completed (.ofRun settings.repositoryId "workflow_runs" "repository" window))
      (runWorkflowRuns readers settings window fuel) checkpoints := by
  refine advances_opened (fun key => parameters_of_runKey) id fun key hkey hopen => ?_
  refine advances_ofExcept fun page hpage => ?_
  rw [← hkey] at hopen ⊢
  refine advances_workflowRunsLoop fuel page .zero hopen (hin.nextPage ?_ hopen ?_)
  · rw [hkey]
    show "workflow_runs" ∈ numberedResources
    decide
  · rw [hkey]
    exact hpage

/-- The keys of other resources are not touched. -/
def Untouched (resources : List String) (before after : CheckpointTable) : Prop :=
  ∀ other, other.resource ∉ resources → after.lookup other = before.lookup other

theorem Untouched.refl (resources : List String) (checkpoints : CheckpointTable) :
    Untouched resources checkpoints checkpoints := fun _ _ => rfl

theorem Untouched.trans {resources : List String} {first second third : CheckpointTable}
    (h : Untouched resources first second) (h' : Untouched resources second third) :
    Untouched resources first third :=
  fun other hother => (h' other hother).trans (h other hother)

theorem PagePut.untouched {k : CheckpointKey} {completed : Bool} {before after : CheckpointTable}
    {resources : List String} (h : PagePut k completed before after)
    (hk : k.resource ∈ resources) : Untouched resources before after := by
  intro other hother
  refine h.others other fun heq => hother ?_
  rw [heq]
  exact hk

theorem advances_statusesLoop {deploymentId : Int} (fuel : Nat) (page : Int)
    (summary : BackfillSummary) (hkey : key.parameters.resource ∈ ["deployment_statuses"])
    (hopen : ¬ Completed key.parameters checkpoints)
    (hpage : page = pagesCompleted key.parameters checkpoints + 1) :
    Advances KeepsForward (fun _ => Untouched ["deployment_statuses"] checkpoints)
      (statusesLoop readers settings deploymentId key page summary fuel) checkpoints := by
  induction fuel generalizing page summary checkpoints with
  | zero => exact advances_raise _
  | succ fuel ih =>
      refine advances_request (KeepsForward.refl _ _) fun payload => ?_
      refine advances_ofExcept fun nodes _ => advances_ofExcept fun records _ => ?_
      refine advances_persistNumberedPage hopen hpage fun outcome checkpoints' hput => ?_
      have hfirst := hput.untouched hkey
      split
      · exact advances_pure hfirst
      · rename_i hcompleted
        refine (ih _ _ (fun h => hcompleted (hput.status.mp h)) (hput.next hpage)).imp ?_
        exact fun _ _ hrest => hfirst.trans hrest

theorem advances_runDeploymentStatuses (deploymentId : Int) (fuel : Nat)
    (hin : InStep checkpoints) :
    Advances KeepsForward (fun _ => Untouched ["deployment_statuses"] checkpoints)
      (runDeploymentStatuses readers settings deploymentId window fuel) checkpoints := by
  refine advances_opened (fun key => parameters_of_runKey) (fun _ => Untouched.refl _ _)
    fun key hkey hopen => ?_
  refine advances_ofExcept fun page hpage => ?_
  rw [← hkey] at hopen hpage
  refine advances_statusesLoop fuel page .zero ?_ hopen (hin.nextPage ?_ hopen hpage)
  · rw [hkey]
    exact List.mem_singleton_self _
  · rw [hkey]
    show "deployment_statuses" ∈ numberedResources
    decide

theorem advances_deploymentRecords {fuel : Nat} (nodes : List Json) (summary : BackfillSummary)
    (hin : InStep checkpoints) :
    Advances KeepsForward (fun _ => Untouched ["deployment_statuses"] checkpoints)
      (deploymentRecords readers settings window fuel summary nodes) checkpoints := by
  induction nodes generalizing summary checkpoints with
  | nil => exact advances_pure (Untouched.refl _ _)
  | cons node rest ih =>
      refine advances_ofExcept fun createdAt _ => ?_
      split
      · refine advances_ofExcept fun deploymentId _ => ?_
        refine advances_since (advances_runDeploymentStatuses deploymentId fuel hin) ?_
        intro statuses checkpoints₁ hstatuses _ hin₁
        refine advances_ofExcept fun record _ => ?_
        refine advances_bind (ih _ (hin₁ hin)) fun result checkpoints₂ hrest => ?_
        exact advances_pure (hstatuses.trans hrest)
      · exact ih summary hin

theorem advances_deploymentsLoop {nestedFuel : Nat} (fuel : Nat) (page : Int)
    (summary : BackfillSummary) (hkey : key.parameters.resource = "deployments")
    (hin : InStep checkpoints) (hopen : ¬ Completed key.parameters checkpoints)
    (hpage : page = pagesCompleted key.parameters checkpoints + 1) :
    Advances KeepsForward (fun _ checkpoints' => Completed key.parameters checkpoints')
      (deploymentsLoop readers settings window nestedFuel key page summary fuel) checkpoints := by
  induction fuel generalizing page summary checkpoints with
  | zero => exact advances_raise _
  | succ fuel ih =>
      refine advances_request (KeepsForward.refl _ _) fun payload => ?_
      refine advances_ofExcept fun nodes _ => ?_
      refine advances_since (advances_deploymentRecords nodes summary hin) ?_
      intro result checkpoints₁ huntouched _ hin₁
      -- the statuses have keys of their own, so this traversal stands where it stood
      have hsame : checkpoints₁.lookup key.parameters = checkpoints.lookup key.parameters :=
        huntouched _ (by rw [hkey]; decide)
      have hopen₁ : ¬ Completed key.parameters checkpoints₁ := by
        unfold Completed at hopen ⊢
        rw [hsame]
        exact hopen
      have hpage₁ : page = pagesCompleted key.parameters checkpoints₁ + 1 := by
        unfold pagesCompleted at hpage ⊢
        rw [hsame]
        exact hpage
      refine advances_persistNumberedPage hopen₁ hpage₁ fun outcome checkpoints₂ hput => ?_
      split
      · rename_i hcompleted
        exact advances_pure (hput.status.mpr hcompleted)
      · rename_i hcompleted
        exact ih _ _ (hput.inStep (hin₁ hin)) (fun h => hcompleted (hput.status.mp h))
          (hput.next hpage₁)

theorem advances_runDeployments (fuel : Nat) (hin : InStep checkpoints) :
    Advances KeepsForward
      (fun _ => Completed (.ofRun settings.repositoryId "deployments" "repository" window))
      (runDeployments readers settings window fuel) checkpoints := by
  refine advances_opened (fun key => parameters_of_runKey) id fun key hkey hopen => ?_
  refine advances_ofExcept fun page hpage => ?_
  have hresource : key.parameters.resource = "deployments" := by rw [hkey]; rfl
  rw [← hkey] at hopen hpage ⊢
  refine advances_deploymentsLoop fuel page .zero hresource hin hopen
    (hin.nextPage ?_ hopen hpage)
  rw [hresource]
  decide

/-- `GitHubRestBackfill.run` completes both of its traversals. -/
theorem advances_runRest (fuel : Nat) (hin : InStep checkpoints) :
    Advances KeepsForward
      (fun _ checkpoints' =>
        Completed (.ofRun settings.repositoryId "workflow_runs" "repository" window) checkpoints'
        ∧ Completed (.ofRun settings.repositoryId "deployments" "repository" window) checkpoints')
      (runRest readers settings window fuel) checkpoints := by
  refine advances_since (advances_runWorkflowRuns fuel hin) ?_
  intro runs checkpoints₁ hruns _ hin₁
  refine advances_since (advances_runDeployments fuel (hin₁ hin)) ?_
  intro deployments checkpoints₂ hdeployments hforward _
  exact advances_pure ⟨hruns.forward hforward, hdeployments⟩

end

/-! ### The GraphQL backfill -/

section

variable {readers : Readers} {settings : Settings} {window : Window} {key : BackfillRunKey}
  {checkpoints : CheckpointTable}

/-- The resources of the nested traversals. -/
def nestedResources : List String :=
  [NestedConnection.reviews.resource, NestedConnection.commits.resource]

theorem NestedConnection.resource_mem (nested : NestedConnection) :
    nested.resource ∈ nestedResources ∧ nested.resource ∉ numberedResources := by
  cases nested <;> decide

theorem advances_nestedLoop {pullRequestId : String} {nested : NestedConnection} (fuel : Nat)
    (cursor : Option String) (summary : BackfillSummary)
    (hkey : key.parameters.resource = nested.resource)
    (hopen : ¬ Completed key.parameters checkpoints) :
    Advances KeepsForward (fun _ => Untouched nestedResources checkpoints)
      (nestedLoop readers settings pullRequestId nested key cursor summary fuel) checkpoints := by
  have hresource := nested.resource_mem
  rw [← hkey] at hresource
  induction fuel generalizing cursor summary checkpoints with
  | zero => exact advances_raise _
  | succ fuel ih =>
      refine advances_request (KeepsForward.refl _ _) fun data => ?_
      refine advances_ofExcept fun response _ => ?_
      refine advances_persist hopen (fun _ hmem => absurd hmem hresource.2)
        fun outcome checkpoints' hput => ?_
      have hfirst := hput.untouched hresource.1
      split
      · rename_i hnext
        have hopen' : ¬ Completed key.parameters checkpoints' := by
          rw [hput.status, hnext]
          decide
        exact (ih _ _ hopen').imp fun _ _ hrest => hfirst.trans hrest
      · exact advances_pure hfirst

theorem advances_backfillNested {pullRequestId : String} (nested : NestedConnection)
    (fuel : Nat) :
    Advances KeepsForward (fun _ => Untouched nestedResources checkpoints)
      (backfillNested readers settings pullRequestId window nested fuel) checkpoints := by
  refine advances_opened
    (fun key hkey => congrArg RunKeyFields.parameters (BackfillRunKey.postInit_ok hkey))
    (fun _ => Untouched.refl _ _) fun key hkey hopen => ?_
  rw [← hkey] at hopen
  exact advances_nestedLoop fuel _ .zero (by rw [hkey]; rfl) hopen

theorem advances_pullRequestRecords {fuel : Nat} (nodes : List Json) (summary : BackfillSummary) :
    Advances KeepsForward (fun _ => Untouched nestedResources checkpoints)
      (pullRequestRecords readers settings window fuel summary nodes) checkpoints := by
  induction nodes generalizing summary checkpoints with
  | nil => exact advances_pure (Untouched.refl _ _)
  | cons node rest ih =>
      refine advances_ofExcept fun createdAt _ => ?_
      split
      · exact advances_pure (Untouched.refl _ _)
      · split
        · exact ih summary
        · refine advances_ofExcept fun pullRequestId _ => ?_
          refine advances_bind (advances_backfillNested .reviews fuel) ?_
          intro reviews checkpoints₁ hreviews
          refine advances_bind (advances_backfillNested .commits fuel) ?_
          intro commits checkpoints₂ hcommits
          refine advances_ofExcept fun record _ => ?_
          refine advances_bind (ih _) fun result checkpoints₃ hrest => ?_
          exact advances_pure ((hreviews.trans hcommits).trans hrest)

theorem advances_pullRequestsLoop {nestedFuel : Nat} (fuel : Nat) (cursor : Option String)
    (summary : BackfillSummary) (hkey : key.parameters.resource = "pull_requests")
    (hopen : ¬ Completed key.parameters checkpoints) :
    Advances KeepsForward (fun _ checkpoints' => Completed key.parameters checkpoints')
      (pullRequestsLoop readers settings window nestedFuel key cursor summary fuel)
      checkpoints := by
  induction fuel generalizing cursor summary checkpoints with
  | zero => exact advances_raise _
  | succ fuel ih =>
      refine advances_request (KeepsForward.refl _ _) fun data => ?_
      refine advances_ofExcept fun response _ => ?_
      refine advances_bind (advances_pullRequestRecords _ summary) ?_
      intro result checkpoints₁ huntouched
      have hopen₁ : ¬ Completed key.parameters checkpoints₁ := by
        unfold Completed at hopen ⊢
        rw [huntouched _ (by rw [hkey]; decide)]
        exact hopen
      refine advances_persist hopen₁ (fun _ hmem => ?_) fun outcome checkpoints₂ hput => ?_
      · rw [show key.resource = "pull_requests" from hkey] at hmem
        exact absurd hmem (by decide)
      · split
        · rename_i hcompleted
          exact advances_pure (hput.status.mpr hcompleted)
        · rename_i hcompleted
          exact ih _ _ fun h => hcompleted (hput.status.mp h)

/-- `GitHubPullRequestBackfill.run` completes its traversal. -/
theorem advances_runPullRequests (fuel : Nat) :
    Advances KeepsForward
      (fun _ => Completed (.ofRun settings.repositoryId "pull_requests" "repository" window))
      (runPullRequests readers settings window fuel) checkpoints := by
  refine advances_opened (k := .ofRun settings.repositoryId "pull_requests" "repository" window)
    (fun key hkey => congrArg RunKeyFields.parameters (BackfillRunKey.postInit_ok hkey)) id
    fun key hkey hopen => ?_
  have hresource : key.parameters.resource = "pull_requests" := by rw [hkey]; rfl
  rw [← hkey] at hopen ⊢
  exact advances_pullRequestsLoop fuel _ .zero hresource hopen

end

/-! ### Both backfills -/

section

variable {Request Request' α : Type} {G : Bool → CheckpointTable → CheckpointTable → Prop}
  {checkpoints : CheckpointTable}

/-- What a job keeps does not depend on how its requests are sent. -/
theorem leads_lift (f : Request → Request') {job : Job Request α}
    {post : α → BackfillTables → Prop} {tables : BackfillTables}
    (h : job.Leads Drifted (Guarantees G) post tables) :
    (Job.lift f job).Leads Drifted (Guarantees G) post tables := by
  induction job generalizing tables with
  | pure a => exact h
  | raise e => trivial
  | call op k ih =>
      cases op with
      | loadCheckpoint key =>
          rintro reply tables' ⟨events, hext, respond, choice, hact⟩
          have hdrifted : Drifted (⟨.loadCheckpoint key, reply⟩ : BackfillExchange Request) tables
              tables' := by
            refine ⟨events, hext, fun _ => .error .external, choice, ?_⟩
            cases choice <;> exact hact
          obtain ⟨hG, hrest⟩ := h reply tables' hdrifted
          exact ⟨hG, ih reply hrest⟩
      | persistPage key records nextCursor completed =>
          rintro reply tables' ⟨events, hext, respond, choice, hact⟩
          have hdrifted : Drifted
              (⟨.persistPage key records nextCursor completed, reply⟩ : BackfillExchange Request)
              tables tables' :=
            ⟨events, hext, fun _ => .error .external, choice, hact⟩
          obtain ⟨hG, hrest⟩ := h reply tables' hdrifted
          exact ⟨hG, ih reply hrest⟩
      | request request =>
          rintro reply tables' ⟨events, hext, hanswered⟩
          have htables := answered_request hanswered
          have hdrifted : Drifted (⟨.request request, reply⟩ : BackfillExchange Request) tables
              tables' :=
            ⟨events, hext, fun _ => reply, none, by rw [htables]; rfl⟩
          obtain ⟨hG, hrest⟩ := h reply tables' hdrifted
          exact ⟨hG, ih reply hrest⟩

theorem Advances.lift {post : α → CheckpointTable → Prop} {job : Job Request α}
    (h : Advances G post job checkpoints) (f : Request → Request') :
    Advances G post (Job.lift f job) checkpoints :=
  fun tables htables => leads_lift f (h tables htables)

end

theorem repositoryId_of_init {message repository : String} {repositoryId installationId : Int}
    {pageSize : Int} {settings : Settings}
    (h : Settings.init message repository repositoryId installationId pageSize = .ok settings) :
    settings.repositoryId = repositoryId := by
  unfold Settings.init at h
  split at h
  · cases h
  · split at h
    · split at h
      · cases h
        rfl
      · cases h
    · cases h

/-- The three traversals of a window are completed. -/
def WindowDone (repositoryId : Int) (window : Window) (checkpoints : CheckpointTable) : Prop :=
  Completed (.ofRun repositoryId "pull_requests" "repository" window) checkpoints
    ∧ Completed (.ofRun repositoryId "workflow_runs" "repository" window) checkpoints
    ∧ Completed (.ofRun repositoryId "deployments" "repository" window) checkpoints

theorem WindowDone.forward {repositoryId : Int} {window : Window} {before after : CheckpointTable}
    (h : WindowDone repositoryId window before) (hforward : Forward before after) :
    WindowDone repositoryId window after :=
  ⟨h.1.forward hforward, h.2.1.forward hforward, h.2.2.forward hforward⟩

/-- The keys name the instants of the window. -/
theorem WindowDone.congr {repositoryId : Int} {window window' : Window}
    {checkpoints : CheckpointTable}
    (hstart : window'.windowStart.instant = window.windowStart.instant)
    (hend : window'.windowEnd.instant = window.windowEnd.instant)
    (h : WindowDone repositoryId window checkpoints) :
    WindowDone repositoryId window' checkpoints := by
  have hkeys : ∀ resource scope, CheckpointKey.ofRun repositoryId resource scope window'
      = .ofRun repositoryId resource scope window := by
    intro resource scope
    unfold CheckpointKey.ofRun RunKeyFields.parameters
    simp only [hstart, hend]
  unfold WindowDone
  rw [hkeys, hkeys, hkeys]
  exact h

section

variable {readers : Readers} {settings : BackfillSettings} {window : Window} {fuel : Nat}
  {checkpoints : CheckpointTable}

/-- `main` returns only behind three completed traversals. -/
theorem advances_main (hin : InStep checkpoints) :
    Advances KeepsForward (fun _ => WindowDone settings.githubRepositoryId window)
      (main readers settings window fuel) checkpoints := by
  refine advances_ofExcept fun graphQL hgraphQL => ?_
  refine advances_since ((advances_runPullRequests fuel).lift CliRequest.graphQL) ?_
  intro summary checkpoints₁ hpullRequests _ hin₁
  refine advances_ofExcept fun rest hrest => ?_
  refine advances_since ((advances_runRest fuel (hin₁ hin)).lift CliRequest.rest) ?_
  intro more checkpoints₂ hdone hforward _
  rw [repositoryId_of_init hgraphQL] at hpullRequests
  rw [repositoryId_of_init hrest] at hdone
  exact advances_pure ⟨hpullRequests.forward hforward, hdone⟩

/-! ## An idle rerun -/

/-- Nothing but loads, and the checkpoints stay. -/
def Idle (load : Bool) (before after : CheckpointTable) : Prop := load = true ∧ after = before

theorem idle_opened {Request : Type} {x : Except BackfillError BackfillRunKey} {k : CheckpointKey}
    {rest : BackfillRunKey → Option BackfillCheckpoint → Job Request BackfillSummary}
    (hx : ∀ key, x = .ok key → key.parameters = k) (hdone : Completed k checkpoints) :
    Advances Idle (fun summary checkpoints' => summary = .zero ∧ checkpoints' = checkpoints)
      (Prog.ofExcept x >>= fun key => Job.loadCheckpoint key >>= fun checkpoint =>
        if isCompleted checkpoint then pure .zero else rest key checkpoint) checkpoints := by
  have hcompleted : isCompleted (checkpoints.lookup k) = true := hdone
  refine advances_ofExcept fun key hkey => advances_load ⟨rfl, rfl⟩ ?_
  rw [hx key hkey, if_pos hcompleted]
  exact advances_pure ⟨rfl, rfl⟩

theorem idle_runRest {rest : Settings}
    (hruns : Completed (.ofRun rest.repositoryId "workflow_runs" "repository" window) checkpoints)
    (hdeployments :
      Completed (.ofRun rest.repositoryId "deployments" "repository" window) checkpoints) :
    Advances Idle (fun summary checkpoints' => summary = .zero ∧ checkpoints' = checkpoints)
      (runRest readers rest window fuel) checkpoints := by
  refine advances_bind (idle_opened (fun key => parameters_of_runKey) hruns) ?_
  rintro _ _ ⟨rfl, rfl⟩
  refine advances_bind (idle_opened (fun key => parameters_of_runKey) hdeployments) ?_
  rintro _ _ ⟨rfl, rfl⟩
  exact advances_pure ⟨rfl, rfl⟩

theorem idle_main (h : WindowDone settings.githubRepositoryId window checkpoints) :
    Advances Idle
      (fun event checkpoints' => event = completedEvent window .zero ∧ checkpoints' = checkpoints)
      (main readers settings window fuel) checkpoints := by
  obtain ⟨hpullRequests, hruns, hdeployments⟩ := h
  refine advances_ofExcept fun graphQL hgraphQL => ?_
  rw [← repositoryId_of_init hgraphQL] at hpullRequests
  refine advances_bind (Advances.lift (idle_opened (fun key hkey =>
    congrArg RunKeyFields.parameters (BackfillRunKey.postInit_ok hkey)) hpullRequests) CliRequest.graphQL) ?_
  rintro _ _ ⟨rfl, rfl⟩
  refine advances_ofExcept fun rest hrest => ?_
  rw [← repositoryId_of_init hrest] at hruns hdeployments
  refine advances_bind ((idle_runRest hruns hdeployments).lift CliRequest.rest) ?_
  rintro _ _ ⟨rfl, rfl⟩
  exact advances_pure ⟨rfl, rfl⟩

end

/-! ## Attempts -/

/-- An attempt of `main`, for any repository and window. -/
def IsMain (job : Job CliRequest Json) : Prop :=
  ∃ readers settings window fuel, job = main readers settings window fuel

/-- Attempts of `main`, one after another. -/
abbrev MainAttempts : BackfillTables → BackfillTables → Prop :=
  Attempts Drifted IsMain

theorem mainAttempts_keep {tables tables' : BackfillTables} (h : MainAttempts tables tables')
    (hin : InStep tables.checkpoints) :
    Forward tables.checkpoints tables'.checkpoints ∧ InStep tables'.checkpoints := by
  refine Attempts.keeps (R := fun tables tables' : BackfillTables =>
      Forward tables.checkpoints tables'.checkpoints)
    (I := fun tables => InStep tables.checkpoints) (fun _ => Forward.refl _)
    (fun _ _ _ => Forward.trans) ?_ h hin
  rintro job tables ⟨readers, settings, window, fuel, rfl⟩ hin
  exact (advances_main hin tables rfl).imp fun _ _ _ => trivial

/-- **Reruns.** Behind any attempts from an empty checkpoint table on: the numbered traversals are
in step; no later attempts, of any windows, make a checkpoint fall back; and once `main` has
returned for a window, a later attempt for the same instants and repository, with any other settings
and after any attempts in between, reads checkpoints and does nothing else, and if it returns it
reports that nothing was done. -/
theorem rerun_is_idle {start tables : BackfillTables} (hstart : start.checkpoints = ∅)
    (hbefore : MainAttempts start tables) :
    InStep tables.checkpoints
    ∧ (∀ later, MainAttempts tables later → Forward tables.checkpoints later.checkpoints)
    ∧ ∀ readers settings window fuel first event done,
      Ends first (main readers settings window fuel) (.ok event) → Serves Drifted tables first done →
      ∀ later, MainAttempts done later → ∀ readers' settings' window' fuel' log last,
        settings'.githubRepositoryId = settings.githubRepositoryId →
        window'.windowStart.instant = window.windowStart.instant →
        window'.windowEnd.instant = window.windowEnd.instant →
        Begins log (main readers' settings' window' fuel') → Serves Drifted later log last →
        (∀ exchange ∈ log, isLoad exchange = true) ∧ last.checkpoints = later.checkpoints
        ∧ ∀ event', Ends log (main readers' settings' window' fuel') (.ok event') →
          event' = completedEvent window' .zero := by
  have hin := (mainAttempts_keep hbefore (by rw [hstart]; exact inStep_empty)).2
  refine ⟨hin, fun later hlater => (mainAttempts_keep hlater hin).1, ?_⟩
  intro readers settings window fuel first event done hends hserves later hlater readers' settings'
    window' fuel' log last hid hstartInstant hendInstant hbegins hlog
  have hreturns := (advances_main hin tables rfl).returns hends hserves
  have hmore : MainAttempts tables done :=
    .more (.none tables) ⟨readers, settings, window, fuel, rfl⟩ (begins_of_ends hends) hserves
  have hforward := (mainAttempts_keep hlater (mainAttempts_keep hmore hin).2).1
  have hdone : WindowDone settings'.githubRepositoryId window' later.checkpoints := by
    rw [hid]
    exact (hreturns.forward hforward).congr hstartInstant hendInstant
  have hmain : Advances Idle _ (main readers' settings' window' fuel') later.checkpoints :=
    idle_main hdone
  have hidle := hmain later rfl
  have hkept := hidle.serves hbegins hlog
  refine ⟨hkept.forall_mem fun _ _ _ hstep => hstep.1, ?_, ?_⟩
  · exact hkept.rel (R := fun tables tables' : BackfillTables =>
      tables'.checkpoints = tables.checkpoints) (fun _ => rfl)
      (fun _ _ _ h h' => h'.trans h) fun _ _ _ hstep => hstep.2
  · exact fun event' hends' => (hidle.returns hends' hlog).1

/-! ## A repository with records -/

/-- Two pull requests, two workflow runs and a deployment behind one API. -/
def busyApi : CliRequest → Except BackfillError Json
  | .graphQL request => sampleRepository.respond request
  | .rest request => serve busyListing request

theorem drifted_quietAct (op : BackfillOp CliRequest) (tables : BackfillTables) :
    Drifted ⟨op, (quietAct busyApi op tables).1⟩ tables (quietAct busyApi op tables).2 :=
  ⟨tables.events, Extends.refl _, answered_quietAct busyApi op tables⟩

def busyMain : Job CliRequest Json :=
  main sampleReaders ⟨"acme/api", 7, 9, 1⟩ sampleWindow 5

/-- The first run of the window stores 13 records and absorbs a duplicate, and the rerun reads the
three checkpoints. -/
theorem rerun_is_idle_busy :
    ∃ first event done log last,
      Ends first busyMain (.ok event) ∧ Serves Drifted emptyTables first done
      ∧ equalsInt (getMember event "records_inserted") 13 = true
      ∧ equalsInt (getMember event "duplicates_absorbed") 1 = true
      ∧ Ends log busyMain (.ok (completedEvent sampleWindow .zero)) ∧ log.length = 3
      ∧ Serves Drifted done log last ∧ last.checkpoints = done.checkpoints
      ∧ ∀ exchange ∈ log, isLoad exchange = true := by
  have hruns :
      ((busyMain.alone (quietAct busyApi) emptyTables).2.1.toOption.any (fun event =>
        equalsInt (getMember event "records_inserted") 13
          && equalsInt (getMember event "duplicates_absorbed") 1)
      && ((busyMain.alone (quietAct busyApi)
            (busyMain.alone (quietAct busyApi) emptyTables).2.2).2.1.toOption.isSome
        && (busyMain.alone (quietAct busyApi)
            (busyMain.alone (quietAct busyApi) emptyTables).2.2).1.length == 3)) = true := by
    decide +kernel
  have hfirst := ends_alone (quietAct busyApi) busyMain emptyTables
  have hserved := serves_alone drifted_quietAct busyMain emptyTables
  generalize busyMain.alone (quietAct busyApi) emptyTables = run at hruns hfirst hserved
  obtain ⟨first, result, done⟩ := run
  have hends := ends_alone (quietAct busyApi) busyMain done
  have hreserved := serves_alone drifted_quietAct busyMain done
  generalize busyMain.alone (quietAct busyApi) done = rerun at hruns hends hreserved
  obtain ⟨log, result', last⟩ := rerun
  obtain ⟨hstored, hagain⟩ := Bool.and_eq_true_iff.mp hruns
  obtain ⟨hreturned, hlength⟩ := Bool.and_eq_true_iff.mp hagain
  cases result with
  | error e => cases hstored
  | ok event =>
      obtain ⟨hrecords, hduplicates⟩ := Bool.and_eq_true_iff.mp hstored
      cases result' with
      | error e => cases hreturned
      | ok event' =>
          obtain ⟨hidle, hsame, hevent⟩ := (rerun_is_idle rfl (.none emptyTables)).2.2 _ _ _ _ _ _
            _ hfirst hserved _ (.none _) _ _ _ _ _ _ rfl rfl rfl (begins_of_ends hends) hreserved
          rw [hevent event' hends] at hends
          exact ⟨first, event, done, log, last, hfirst, hserved, hrecords, hduplicates, hends,
            eq_of_beq hlength, hreserved, hsame, hidle⟩

end Backfill
