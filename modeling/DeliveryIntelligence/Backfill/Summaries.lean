import DeliveryIntelligence.Backfill.Accounting
import DeliveryIntelligence.Backfill.Github
import DeliveryIntelligence.Backfill.WorkflowRuns
import DeliveryIntelligence.Library.Attempts

set_option autoImplicit false

/-!
# What the summary of an invocation counts

A job `Spends` the sum of the outcomes of its own `persist_page` calls. The rules follow the
structure of a program; with them each loop of the two backfills is shown to add to its summary
what it spends, nested traversals included. Together with the account of the tables this gives
`backfill_accounting`.
-/

namespace Backfill

open Datetime Program

/-! ## Sums of outcomes -/

def BackfillSummary.ofOutcomes (outcomes : List PageWriteOutcome) : BackfillSummary where
  pagesPersisted := outcomes.length
  recordsInserted := (outcomes.map (·.inserted)).sum
  duplicatesAbsorbed := (outcomes.map (·.duplicates)).sum

theorem BackfillSummary.plus_assoc (a b c : BackfillSummary) :
    (a.plus b).plus c = a.plus (b.plus c) := by
  simp [BackfillSummary.plus, Nat.add_assoc]

@[simp] theorem BackfillSummary.plus_zero (a : BackfillSummary) : a.plus .zero = a := rfl

@[simp] theorem BackfillSummary.zero_plus (a : BackfillSummary) : BackfillSummary.zero.plus a = a := by
  simp [BackfillSummary.plus, BackfillSummary.zero]

theorem BackfillSummary.ofOutcomes_append (first second : List PageWriteOutcome) :
    BackfillSummary.ofOutcomes (first ++ second)
      = (BackfillSummary.ofOutcomes first).plus (BackfillSummary.ofOutcomes second) := by
  simp [BackfillSummary.ofOutcomes, BackfillSummary.plus]

/-! ## The calls of a log -/

variable {Request α β : Type}

/-- The `persist_page` calls of an invocation with their replies. -/
def persistCalls (log : BackfillLog Request) : List PersistCall :=
  log.filterMap fun exchange =>
    match exchange with
    | ⟨.persistPage key records nextCursor completed, reply⟩ =>
        some ⟨key, records, nextCursor, completed, reply⟩
    | _ => none

/-- Every call returned an outcome, and this is their sum. -/
def Tallies (calls : List PersistCall) (spent : BackfillSummary) : Prop :=
  ∃ outcomes : List PageWriteOutcome, calls.map (·.reply) = outcomes.map .ok
    ∧ spent = BackfillSummary.ofOutcomes outcomes

theorem Tallies.append {first second : List PersistCall} {spent spent' : BackfillSummary}
    (h : Tallies first spent) (h' : Tallies second spent') :
    Tallies (first ++ second) (spent.plus spent') := by
  obtain ⟨outcomes, hreplies, rfl⟩ := h
  obtain ⟨outcomes', hreplies', rfl⟩ := h'
  refine ⟨outcomes ++ outcomes', ?_, (BackfillSummary.ofOutcomes_append _ _).symm⟩
  rw [List.map_append, List.map_append, hreplies, hreplies']

/-! ## Rules -/

/-- Whenever the job returns, its calls returned too, and `post` holds of what it returns and
the sum of their outcomes. -/
def Spends (job : Job Request α) (post : α → BackfillSummary → Prop) : Prop :=
  ∀ log a, Ends log job (.ok a) → ∃ spent, Tallies (persistCalls log) spent ∧ post a spent

section

variable {post : β → BackfillSummary → Prop}

theorem spends_pure {b : β} (h : post b .zero) : Spends (pure b : Job Request β) post := by
  intro log a hends
  obtain ⟨rfl, ha⟩ := ends_pure_iff.mp hends
  cases ha
  exact ⟨.zero, ⟨[], rfl, rfl⟩, h⟩

theorem spends_raise (e : BackfillError) : Spends (.raise e : Job Request β) post := by
  intro log a hends
  cases (ends_raise_iff.mp hends).2

/-- The rule of sequential composition: the two parts share what is spent. -/
theorem spends_bind {job : Job Request α} {f : α → Job Request β}
    {mid : α → BackfillSummary → Prop} (hjob : Spends job mid)
    (hf : ∀ a spent, mid a spent → Spends (f a) fun b more => post b (spent.plus more)) :
    Spends (job >>= f) post := by
  intro log b hends
  -- What the first part persists is counted before what the second one does.
  rcases ends_bind_iff.mp hends with ⟨e, he, -⟩ | ⟨first, second, a, rfl, hfirst, hsecond⟩
  · cases he
  obtain ⟨spent, htally, hmid⟩ := hjob first a hfirst
  obtain ⟨more, htally', hpost⟩ := hf a spent hmid second b hsecond
  refine ⟨spent.plus more, ?_, hpost⟩
  rw [persistCalls, List.filterMap_append]
  exact htally.append htally'

theorem spends_ofExcept {x : Except BackfillError α} {f : α → Job Request β}
    (h : ∀ a, x = .ok a → Spends (f a) post) : Spends (Prog.ofExcept x >>= f) post := by
  intro log b hends
  rcases ends_ofExcept_bind_iff.mp hends with ⟨e, -, -, hb⟩ | ⟨a, ha, hrest⟩
  · cases hb
  · exact h a ha log b hrest

theorem spends_load {key : BackfillRunKey} {f : Option BackfillCheckpoint → Job Request β}
    (h : ∀ checkpoint, Spends (f checkpoint) post) :
    Spends (Job.loadCheckpoint key >>= f) post := by
  intro log b hends
  obtain ⟨reply, rest, rfl, hrest⟩ := ends_load hends
  exact spends_ofExcept (fun checkpoint _ => h checkpoint) rest b hrest

theorem spends_request {request : Request} {f : Json → Job Request β}
    (h : ∀ payload, Spends (f payload) post) : Spends (Job.request request >>= f) post := by
  intro log b hends
  obtain ⟨reply, rest, rfl, hrest⟩ := ends_request hends
  exact spends_ofExcept (fun payload _ => h payload) rest b hrest

/-- A page that was persisted is spent. -/
theorem spends_persist {key : BackfillRunKey} {records : List BackfillRecord}
    {nextCursor : Option String} {completed : Bool} {f : PageWriteOutcome → Job Request β}
    (h : ∀ outcome, Spends (f outcome) fun b more => post b (outcome.summary.plus more)) :
    Spends (Job.persistPage key records nextCursor completed >>= f) post := by
  intro log b hends
  obtain ⟨reply, rest, rfl, hrest⟩ := ends_persist hends
  rcases ends_ofExcept_bind_iff.mp hrest with ⟨e, -, -, hb⟩ | ⟨outcome, hreply, hafter⟩
  · cases hb
  obtain ⟨more, htally, hpost⟩ := h outcome rest b hafter
  have hone : Tallies [⟨key, records, nextCursor, completed, reply⟩] outcome.summary :=
    ⟨[outcome], by rw [List.map_cons, hreply]; rfl, rfl⟩
  exact ⟨_, hone.append htally, hpost⟩

end

/-- The job adds what it spends to the summary it is given. -/
abbrev Adds (job : Job Request BackfillSummary) (summary : BackfillSummary) : Prop :=
  Spends job fun result spent => result = summary.plus spent

/-! ## The REST backfill -/

section

variable {readers : Readers} {settings : Settings}

theorem spends_persistNumberedPage {post : β → BackfillSummary → Prop} {key : BackfillRunKey}
    {records : List BackfillRecord} {page : Int} {completed : Bool}
    {f : PageWriteOutcome → Job RestRequest β}
    (h : ∀ outcome, Spends (f outcome) fun b more => post b (outcome.summary.plus more)) :
    Spends (persistNumberedPage key records page completed >>= f) post := by
  unfold persistNumberedPage
  split
  · exact spends_persist h
  · split
    · exact spends_persist h
    · exact spends_raise _

theorem adds_workflowRunsLoop {window : Window} {key : BackfillRunKey} (fuel : Nat) (page : Int)
    (summary : BackfillSummary) :
    Adds (workflowRunsLoop readers settings window key page summary fuel) summary := by
  induction fuel generalizing page summary with
  | zero => exact spends_raise _
  | succ fuel ih =>
      refine spends_request fun payload => spends_ofExcept fun response _ => ?_
      refine spends_persistNumberedPage fun outcome => ?_
      split
      · exact spends_pure (by rw [BackfillSummary.plus_zero])
      · split
        · exact spends_raise _
        · -- what the rest adds comes on top of this page
          simp only [← BackfillSummary.plus_assoc]
          exact ih _ _

theorem spends_runWorkflowRuns (window : Window) (fuel : Nat) :
    Adds (runWorkflowRuns readers settings window fuel) .zero := by
  refine spends_ofExcept fun key _ => spends_load fun checkpoint => ?_
  split
  · exact spends_pure rfl
  · exact spends_ofExcept fun page _ => adds_workflowRunsLoop fuel page .zero

theorem adds_statusesLoop {deploymentId : Int} {key : BackfillRunKey} (fuel : Nat) (page : Int)
    (summary : BackfillSummary) :
    Adds (statusesLoop readers settings deploymentId key page summary fuel) summary := by
  induction fuel generalizing page summary with
  | zero => exact spends_raise _
  | succ fuel ih =>
      refine spends_request fun payload => spends_ofExcept fun nodes _ => ?_
      refine spends_ofExcept fun records _ => spends_persistNumberedPage fun outcome => ?_
      split
      · exact spends_pure (by rw [BackfillSummary.plus_zero])
      · simp only [← BackfillSummary.plus_assoc]
        exact ih _ _

theorem spends_runDeploymentStatuses (deploymentId : Int) (window : Window) (fuel : Nat) :
    Adds (runDeploymentStatuses readers settings deploymentId window fuel) .zero := by
  refine spends_ofExcept fun key _ => spends_load fun checkpoint => ?_
  split
  · exact spends_pure rfl
  · exact spends_ofExcept fun page _ => adds_statusesLoop fuel page .zero

theorem adds_deploymentRecords {window : Window} {fuel : Nat} (nodes : List Json)
    (summary : BackfillSummary) :
    Spends (deploymentRecords readers settings window fuel summary nodes)
      fun result spent => result.2 = summary.plus spent := by
  induction nodes generalizing summary with
  | nil => exact spends_pure rfl
  | cons node rest ih =>
      refine spends_ofExcept fun createdAt _ => ?_
      split
      · refine spends_ofExcept fun deploymentId _ => ?_
        refine spends_bind (spends_runDeploymentStatuses deploymentId window fuel) ?_
        intro statuses spent hspent
        rw [BackfillSummary.zero_plus] at hspent
        subst hspent
        refine spends_ofExcept fun record _ => ?_
        refine spends_bind (ih (summary.plus statuses)) fun result more hmore => ?_
        exact spends_pure (by rw [hmore, BackfillSummary.plus_zero, BackfillSummary.plus_assoc])
      · exact ih summary

theorem adds_deploymentsLoop {window : Window} {nestedFuel : Nat} {key : BackfillRunKey}
    (fuel : Nat) (page : Int) (summary : BackfillSummary) :
    Adds (deploymentsLoop readers settings window nestedFuel key page summary fuel) summary := by
  induction fuel generalizing page summary with
  | zero => exact spends_raise _
  | succ fuel ih =>
      refine spends_request fun payload => spends_ofExcept fun nodes _ => ?_
      refine spends_bind (adds_deploymentRecords nodes summary) fun result spent hspent => ?_
      refine spends_persistNumberedPage fun outcome => ?_
      split
      · exact spends_pure (by
          rw [hspent, BackfillSummary.plus_zero, BackfillSummary.plus_assoc])
      · simp only [← BackfillSummary.plus_assoc, ← hspent]
        exact ih _ _

theorem spends_runDeployments (window : Window) (fuel : Nat) :
    Adds (runDeployments readers settings window fuel) .zero := by
  refine spends_ofExcept fun key _ => spends_load fun checkpoint => ?_
  split
  · exact spends_pure rfl
  · exact spends_ofExcept fun page _ => adds_deploymentsLoop fuel page .zero

/-- The summary of `GitHubRestBackfill.run` is what it spends. -/
theorem spends_runRest (window : Window) (fuel : Nat) :
    Adds (runRest readers settings window fuel) .zero := by
  refine spends_bind (spends_runWorkflowRuns window fuel) fun runs spent hspent => ?_
  refine spends_bind (spends_runDeployments window fuel) fun deployments more hmore => ?_
  refine spends_pure ?_
  rw [hspent, hmore]
  simp only [BackfillSummary.zero_plus, BackfillSummary.plus_zero]

end

/-! ## The GraphQL backfill -/

section

variable {readers : Readers} {settings : Settings}

theorem adds_nestedLoop {pullRequestId : String} {nested : NestedConnection}
    {key : BackfillRunKey} (fuel : Nat) (cursor : Option String) (summary : BackfillSummary) :
    Adds (nestedLoop readers settings pullRequestId nested key cursor summary fuel) summary := by
  induction fuel generalizing cursor summary with
  | zero => exact spends_raise _
  | succ fuel ih =>
      refine spends_request fun data => spends_ofExcept fun response _ => ?_
      refine spends_persist fun outcome => ?_
      split
      · simp only [← BackfillSummary.plus_assoc]
        exact ih _ _
      · exact spends_pure (by rw [BackfillSummary.plus_zero])

theorem spends_backfillNested (pullRequestId : String) (window : Window)
    (nested : NestedConnection) (fuel : Nat) :
    Adds (backfillNested readers settings pullRequestId window nested fuel) .zero := by
  refine spends_ofExcept fun key _ => spends_load fun checkpoint => ?_
  split
  · exact spends_pure rfl
  · exact adds_nestedLoop fuel _ .zero

theorem adds_pullRequestRecords {window : Window} {fuel : Nat} (nodes : List Json)
    (summary : BackfillSummary) :
    Spends (pullRequestRecords readers settings window fuel summary nodes)
      fun result spent => result.2.2 = summary.plus spent := by
  induction nodes generalizing summary with
  | nil => exact spends_pure rfl
  | cons node rest ih =>
      refine spends_ofExcept fun createdAt _ => ?_
      split
      · exact spends_pure rfl
      · split
        · exact ih summary
        · refine spends_ofExcept fun pullRequestId _ => ?_
          refine spends_bind (spends_backfillNested pullRequestId window .reviews fuel) ?_
          intro reviews spent hspent
          refine spends_bind (spends_backfillNested pullRequestId window .commits fuel) ?_
          intro commits more hmore
          rw [BackfillSummary.zero_plus] at hspent hmore
          -- The traversals of one pull request start from zero and are added here.
          subst hspent hmore
          refine spends_ofExcept fun record _ => ?_
          refine spends_bind (ih ((summary.plus reviews).plus commits)) fun result last hlast => ?_
          refine spends_pure ?_
          rw [hlast, BackfillSummary.plus_zero, BackfillSummary.plus_assoc,
            BackfillSummary.plus_assoc]

theorem adds_pullRequestsLoop {window : Window} {nestedFuel : Nat} {key : BackfillRunKey}
    (fuel : Nat) (cursor : Option String) (summary : BackfillSummary) :
    Adds (pullRequestsLoop readers settings window nestedFuel key cursor summary fuel)
      summary := by
  induction fuel generalizing cursor summary with
  | zero => exact spends_raise _
  | succ fuel ih =>
      refine spends_request fun data => spends_ofExcept fun response _ => ?_
      refine spends_bind (adds_pullRequestRecords _ summary) fun result spent hspent => ?_
      refine spends_persist fun outcome => ?_
      split
      · exact spends_pure (by
          rw [hspent, BackfillSummary.plus_zero, BackfillSummary.plus_assoc])
      · simp only [← BackfillSummary.plus_assoc, ← hspent]
        exact ih _ _

/-- The summary of `GitHubPullRequestBackfill.run` is what it spends. -/
theorem spends_runPullRequests (window : Window) (fuel : Nat) :
    Adds (runPullRequests readers settings window fuel) .zero := by
  refine spends_ofExcept fun key _ => spends_load fun checkpoint => ?_
  split
  · exact spends_pure rfl
  · exact adds_pullRequestsLoop fuel (cursorOf checkpoint) .zero

end

/-! ## The account of a run -/

/-- The summary counts exactly these committed calls. -/
def Summarizes (summary : BackfillSummary) (calls : List PersistEntry) : Prop :=
  ∃ outcomes : List PageWriteOutcome, calls.map (·.committed) = outcomes.map some
    ∧ summary = BackfillSummary.ofOutcomes outcomes

/-- Calls whose replies tell what was committed have committed what they replied. -/
theorem committed_of_replies {calls : List PersistEntry} {outcomes : List PageWriteOutcome}
    (hreplies : ∀ entry ∈ calls, ∀ outcome, entry.reply = .ok outcome →
      entry.committed = some outcome)
    (htold : calls.map (·.reply) = outcomes.map .ok) :
    calls.map (·.committed) = outcomes.map some := by
  have hcommitted : ∀ entry ∈ calls, entry.committed = entry.reply.toOption := by
    intro entry hentry
    have hreply : entry.reply ∈ outcomes.map .ok := htold ▸ List.mem_map_of_mem hentry
    obtain ⟨outcome, -, houtcome⟩ := List.mem_map.mp hreply
    rw [hreplies entry hentry outcome houtcome.symm, ← houtcome]
    rfl
  calc calls.map (·.committed)
      = calls.map fun entry => entry.reply.toOption := List.map_congr_left hcommitted
    _ = (calls.map (·.reply)).map Except.toOption := by rw [List.map_map]; rfl
    _ = outcomes.map some := by rw [htold, List.map_map]; rfl

/-- If the calls of a run are among those of a sequence of writes, with the replies they got
there, its summary counts them as they were committed. -/
theorem summarizes_of_spends {job : Job Request BackfillSummary}
    (hjob : Adds job .zero) {log : BackfillLog Request}
    {summary : BackfillSummary} (hrun : Ends log job (.ok summary)) {calls : List PersistEntry}
    (hreplies : ∀ entry ∈ calls, ∀ outcome, entry.reply = .ok outcome →
      entry.committed = some outcome)
    (hcalls : (persistCalls log).Sublist (calls.map (·.toPersistCall))) :
    ∃ own, own.Sublist calls ∧ persistCalls log = own.map (·.toPersistCall)
      ∧ Summarizes summary own := by
  obtain ⟨spent, ⟨outcomes, htold, rfl⟩, hsummary⟩ := hjob log summary hrun
  rw [BackfillSummary.zero_plus] at hsummary
  subst hsummary
  obtain ⟨own, hown, heq⟩ := List.sublist_map_iff.mp hcalls
  refine ⟨own, hown, heq, outcomes, ?_, rfl⟩
  rw [heq, List.map_map] at htold
  exact committed_of_replies (fun entry hentry => hreplies entry (hown.subset hentry)) htold

/-- **Accounting.** After every sequence of writes to empty tables the counters agree with the
rows and the committed calls; and the summary of every REST or GraphQL backfill that returned,
with its calls among them, counts exactly its own calls, all of them committed. -/
theorem backfill_accounting (writes : List TableWrite) :
    Accounted (runWrites writes emptyTables) (entries writes emptyTables)
    ∧ (∀ (readers : Readers) (settings : Settings) (window : Window) (fuel : Nat)
        (log : BackfillLog RestRequest) (summary : BackfillSummary),
        Ends log (runRest readers settings window fuel) (.ok summary) →
        (persistCalls log).Sublist ((entries writes emptyTables).map (·.toPersistCall)) →
        ∃ own, own.Sublist (entries writes emptyTables)
          ∧ persistCalls log = own.map (·.toPersistCall) ∧ Summarizes summary own)
    ∧ ∀ (readers : Readers) (settings : Settings) (window : Window) (fuel : Nat)
        (log : BackfillLog GraphQLRequest) (summary : BackfillSummary),
        Ends log (runPullRequests readers settings window fuel) (.ok summary) →
        (persistCalls log).Sublist ((entries writes emptyTables).map (·.toPersistCall)) →
        ∃ own, own.Sublist (entries writes emptyTables)
          ∧ persistCalls log = own.map (·.toPersistCall) ∧ Summarizes summary own := by
  have haccount : Accounted (runWrites writes emptyTables) (entries writes emptyTables) :=
    accounted_empty.run writes
  refine ⟨haccount, ?_, ?_⟩
  · intro readers settings window fuel log summary hrun hcalls
    exact summarizes_of_spends (spends_runRest window fuel) hrun haccount.replies hcalls
  · intro readers settings window fuel log summary hrun hcalls
    exact summarizes_of_spends (spends_runPullRequests window fuel) hrun haccount.replies hcalls

/-! ## Two backfills, one after the other -/

/-- The writes of an invocation that nothing disturbs. -/
def quietWrites (respond : Request → Except BackfillError Json) :
    Job Request α → BackfillTables → List TableWrite
  | .pure _, _ => []
  | .raise _, _ => []
  | .call (.loadCheckpoint key) k, tables =>
      quietWrites respond (k (.ok (loadCheckpoint key tables))) tables
  | .call (.persistPage key records nextCursor completed) k, tables =>
      let committed := persistAct key records nextCursor completed (quietChoice tables) tables
      .persistPage key records nextCursor completed (quietChoice tables)
        :: quietWrites respond (k committed.1) committed.2
  | .call (.request request) k, tables => quietWrites respond (k (respond request)) tables

/-- They are its calls, and leave what it leaves. -/
theorem entries_quietWrites (respond : Request → Except BackfillError Json)
    (job : Job Request α) (tables : BackfillTables) :
    persistCalls (job.alone (quietAct respond) tables).1
        = (entries (quietWrites respond job tables) tables).map (·.toPersistCall)
    ∧ (job.alone (quietAct respond) tables).2.2
        = runWrites (quietWrites respond job tables) tables := by
  induction job generalizing tables with
  | pure a => exact ⟨rfl, rfl⟩
  | raise e => exact ⟨rfl, rfl⟩
  | call op k ih =>
      cases op with
      | loadCheckpoint key => exact ih _ tables
      | request request => exact ih _ tables
      | persistPage key records nextCursor completed =>
          obtain ⟨hcalls, hlast⟩ := ih
            (persistAct key records nextCursor completed (quietChoice tables) tables).1
            (persistAct key records nextCursor completed (quietChoice tables) tables).2
          exact ⟨congrArg (List.cons _) hcalls, hlast⟩

theorem entries_append (writes more : List TableWrite) (tables : BackfillTables) :
    entries (writes ++ more) tables
      = entries writes tables ++ entries more (runWrites writes tables) := by
  induction writes generalizing tables with
  | nil => rfl
  | cons write writes ih =>
      rw [List.cons_append, entries, entries, ih, List.append_assoc]
      rfl

def busyRest : Job RestRequest BackfillSummary :=
  runRest sampleReaders sampleSettings sampleWindow 5

def busyGraphQL : Job GraphQLRequest BackfillSummary :=
  runPullRequests sampleReaders sampleSettings sampleWindow 5

/-- The tables between the two backfills. -/
def afterBusyRest : BackfillTables :=
  (busyRest.alone (quietAct (serve busyListing)) emptyTables).2.2

def busyWrites : List TableWrite :=
  quietWrites (serve busyListing) busyRest emptyTables
    ++ quietWrites sampleRepository.respond busyGraphQL afterBusyRest

/-- The REST backfill absorbs a duplicate, and the GraphQL backfill counts its nested pages. -/
theorem backfill_accounting_busy :
    (∃ own, own.Sublist (entries busyWrites emptyTables)
      ∧ persistCalls (busyRest.alone (quietAct (serve busyListing)) emptyTables).1
        = own.map (·.toPersistCall) ∧ Summarizes ⟨8, 5, 1⟩ own)
    ∧ ∃ own, own.Sublist (entries busyWrites emptyTables)
      ∧ persistCalls (busyGraphQL.alone (quietAct sampleRepository.respond) afterBusyRest).1
        = own.map (·.toPersistCall) ∧ Summarizes ⟨8, 8, 0⟩ own := by
  obtain ⟨hrestCalls, hrestLast⟩ :=
    entries_quietWrites (serve busyListing) busyRest emptyTables
  obtain ⟨hgraphCalls, -⟩ :=
    entries_quietWrites sampleRepository.respond busyGraphQL afterBusyRest
  have hentries : entries busyWrites emptyTables
      = entries (quietWrites (serve busyListing) busyRest emptyTables) emptyTables
        ++ entries (quietWrites sampleRepository.respond busyGraphQL afterBusyRest)
          afterBusyRest := by
    rw [busyWrites, entries_append, ← hrestLast]
    rfl
  have hrest : (busyRest.alone (quietAct (serve busyListing)) emptyTables).2.1
      = .ok ⟨8, 5, 1⟩ := by decide +kernel
  have hgraph : (busyGraphQL.alone (quietAct sampleRepository.respond) afterBusyRest).2.1
      = .ok ⟨8, 8, 0⟩ := by decide +kernel
  constructor
  · refine (backfill_accounting busyWrites).2.1 sampleReaders sampleSettings sampleWindow 5 _ _
      (hrest ▸ ends_alone _ busyRest emptyTables) ?_
    rw [hrestCalls, hentries, List.map_append]
    exact List.sublist_append_left _ _
  · refine (backfill_accounting busyWrites).2.2 sampleReaders sampleSettings sampleWindow 5 _ _
      (hgraph ▸ ends_alone _ busyGraphQL afterBusyRest) ?_
    rw [hgraphCalls, hentries, List.map_append]
    exact List.sublist_append_right _ _

end Backfill
