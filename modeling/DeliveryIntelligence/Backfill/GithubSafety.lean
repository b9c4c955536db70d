import DeliveryIntelligence.Backfill.GithubTraversal

set_option autoImplicit false

/-!
# No checkpoint runs ahead of the raw table

Every invocation of the GraphQL backfill keeps all checkpoints at covered positions, whatever
the others do meanwhile. The loops carry one fact about the invocation's own state: the
position of its cursor is covered.
-/

namespace Backfill

open Datetime Program RawEvents

variable {readers : Readers} {repository : Repository readers} {settings : Settings}

/-! ## One page -/

section

variable {connection : Connection} {window : Window} {key : BackfillRunKey} {start size : Nat}
  {nodes : List Json} {endCursor : Option String} {hasNextPage completed : Bool}

/-- The nodes of a page that have landed extend the covered part by the page. -/
theorem PageRead.covered {events : RawTable}
    (hread : PageRead repository connection start size nodes endCursor hasNextPage)
    (hbefore : (connectionTraversals repository settings).Covered connection window start events)
    (hnodes : ∀ node ∈ nodes, ConnectionLanded repository settings connection window events node) :
    (connectionTraversals repository settings).Covered connection window (start + size) events := by
  refine hbefore.slice fun node hnode => hnodes node ?_
  rw [hread.nodes_eq]
  exact hnode

/-- The end cursor of a page that is followed by another denotes a position inside the page. -/
theorem PageRead.endPosition
    (hread : PageRead repository connection start size nodes endCursor hasNextPage)
    (hmore : hasNextPage = true) :
    ∃ n, repository.positionOf connection (cursorVariable endCursor) = some n
      ∧ n ≤ start + size := by
  have hlength : nodes.length ≤ size := by
    rw [hread.nodes_eq]
    exact List.length_take_le _ _
  refine ⟨start + nodes.length, ?_, by omega⟩
  rw [hread.cursor hmore]
  exact repository.decode_encode connection _

/-- A committed page keeps all checkpoints placed: one that completes the traversal finds
everything landed, any other leaves the cursor at the end of the page. -/
theorem placed_of_committed {records : List BackfillRecord} {before after : BackfillTables}
    (hread : PageRead repository connection start size nodes endCursor hasNextPage)
    (hplaced : ConnectionsPlaced repository settings before)
    (hkey : key.toRunKeyFields = (connectionTraversals repository settings).runKey
      settings.repositoryId connection window)
    (hcommitted : PageCommitted key records (if completed then none else endCursor) completed
      before after)
    (hmore : completed = false → hasNextPage = true)
    (hcovered : (connectionTraversals repository settings).Covered connection window (start + size)
      after.events)
    (hall : completed = true → (connectionTraversals repository settings).Covered connection window
      (repository.items connection).length after.events) :
    ConnectionsPlaced repository settings after := by
  refine hplaced.persist hkey hcommitted fun n hn => ?_
  cases completed with
  | true =>
      cases hn
      exact hall rfl
  | false =>
      obtain ⟨position, hposition, hle⟩ := hread.endPosition (hmore rfl)
      have hsame : some position = some n := by
        rw [← hposition]
        exact hn
      cases hsame
      exact hcovered.le hle

end

/-! ## Loading a checkpoint -/

section

variable {connection : Connection} {window : Window} {key : BackfillRunKey}
  {tables : BackfillTables}

/-- A completed checkpoint tells that everything has landed. -/
theorem covered_of_completed (hplaced : ConnectionsPlaced repository settings tables)
    (hkey : key.toRunKeyFields = (connectionTraversals repository settings).runKey
      settings.repositoryId connection window)
    (hdone : isCompleted (loadCheckpoint key tables) = true) :
    (connectionTraversals repository settings).Covered connection window
      (repository.items connection).length tables.events := by
  unfold loadCheckpoint at hdone
  rw [hkey] at hdone
  generalize hlookup : tables.checkpoints.lookup _ = row at hdone
  cases row with
  | none => cases hdone
  | some checkpoint =>
      have hstatus : checkpoint.status = .completed := eq_of_beq hdone
      refine hplaced connection window checkpoint _ hlookup ?_
      rw [hstatus]
      rfl

/-- Otherwise the cursor the traversal starts with has a covered position. -/
theorem covered_of_cursor (hplaced : ConnectionsPlaced repository settings tables)
    (hkey : key.toRunKeyFields = (connectionTraversals repository settings).runKey
      settings.repositoryId connection window)
    (hopen : ¬ isCompleted (loadCheckpoint key tables) = true) {n : Nat}
    (hn : repository.positionOf connection
      (cursorVariable (cursorOf (loadCheckpoint key tables))) = some n) :
    (connectionTraversals repository settings).Covered connection window n tables.events := by
  unfold loadCheckpoint at hopen hn
  rw [hkey] at hopen hn
  generalize hlookup : tables.checkpoints.lookup _ = row at hopen hn
  cases row with
  | none =>
      cases hn
      exact Traversals.covered_zero
  | some checkpoint =>
      refine hplaced connection window checkpoint n hlookup ?_
      cases hstatus : checkpoint.status with
      | completed =>
          have hdone : (checkpoint.status == .completed) = true := by
            rw [hstatus]
            rfl
          exact absurd hdone hopen
      | inProgress => exact hn

end

/-! ## Reviews and commits -/

section

variable {Start β : Type} {start : Start → Job GraphQLRequest BackfillSummary × Unit}
  {tables : BackfillTables}

/-- The program keeps the contract of the GraphQL backfill. -/
abbrev GraphQLKeeps (repository : Repository readers) (settings : Settings)
    (start : Start → Job GraphQLRequest BackfillSummary × Unit)
    (post : β → BackfillTables → Unit → Prop) (prog : Job GraphQLRequest β)
    (tables : BackfillTables) : Prop :=
  JobKeeps repository.respond start (ConnectionsPlaced repository settings)
    (fun _ _ _ => True) post prog tables ()

theorem nestedRecords_ok {pullRequestId : String} {nested : NestedConnection} {items : List Json}
    {records : List BackfillRecord} {events : RawTable}
    (h : nestedRecords readers settings pullRequestId nested items = .ok records)
    (hstored : ∀ record ∈ records, Stored events record) :
    ∀ item ∈ items,
      NestedLanded readers settings pullRequestId nested events item := by
  induction items generalizing records with
  | nil => exact fun item hitem => nomatch hitem
  | cons first rest ih =>
      obtain ⟨record, hrecord, h⟩ := Postgres.bind_eq_ok h
      obtain ⟨others, hothers, h⟩ := Postgres.bind_eq_ok h
      cases h
      intro item hitem
      rcases List.mem_cons.mp hitem with rfl | hrest
      · exact ⟨record, hrecord, hstored record List.mem_cons_self⟩
      · exact ih hothers (fun r hr => hstored r (List.mem_cons_of_mem _ hr)) item hrest

variable {window : Window} {key : BackfillRunKey}

/-- From a covered cursor the nested traversal stores everything its connection lists. -/
theorem keeps_nestedLoop (pullRequestId : String) (nested : NestedConnection)
    (cursor : Option String) (summary : BackfillSummary) (fuel : Nat) (hid : pullRequestId ≠ "")
    (hkey : key.toRunKeyFields = (connectionTraversals repository settings).runKey
      settings.repositoryId (.nested pullRequestId nested) window)
    (hcursor : ∀ n,
      repository.positionOf (.nested pullRequestId nested) (cursorVariable cursor) = some n →
      (connectionTraversals repository settings).Covered (.nested pullRequestId nested) window n
        tables.events) :
    GraphQLKeeps repository settings start
      (fun _ tables' _ => ∀ item ∈ repository.items (.nested pullRequestId nested),
        NestedLanded readers settings pullRequestId nested tables'.events item)
      (nestedLoop readers settings pullRequestId nested key cursor summary fuel) tables := by
  induction fuel generalizing cursor summary tables with
  | zero => trivial
  | succ fuel ih =>
      refine jobKeeps_request fun tables1 data hext1 _ hserve => ?_
      refine jobKeeps_ofExcept fun response hresponse => ?_
      obtain ⟨records, endCursor, hasNextPage⟩ := response
      obtain ⟨first, nodes, hfirst, hread, hrecords⟩ := nestedResponse_read hid hserve hresponse
      have hbefore := (hcursor first hfirst).mono hext1
      have hafter : ∀ events, Extends tables1.events events →
          (∀ record ∈ records, Stored events record) →
          (connectionTraversals repository settings).Covered (.nested pullRequestId nested) window
            (first + settings.pageSize.toNat) events := by
        intro events hext hstored
        exact hread.covered (hbefore.mono hext) (nestedRecords_ok hrecords hstored)
      have hlast : ∀ {events}, hasNextPage = false →
          (connectionTraversals repository settings).Covered (.nested pullRequestId nested) window
            (first + settings.pageSize.toNat) events →
          (connectionTraversals repository settings).Covered (.nested pullRequestId nested) window
            (repository.items (.nested pullRequestId nested)).length events :=
        fun hnone hcovered => hcovered.le (hread.last hnone)
      have hcursor_eq : (if hasNextPage then endCursor else none)
          = if (!hasNextPage) then none else endCursor := by
        cases hasNextPage with
        | true => rfl
        | false => rfl
      refine jobKeeps_persist (fun before after hext hinv hcommitted => ?_)
        fun outcome tables2 hext2 _ hstored => ?_
      -- the checkpoint stands where the page ends, or is completed behind the last item
      · rw [hcursor_eq] at hcommitted
        have hcovered := hafter after.events (hext.trans hcommitted.events) hcommitted.stored
        refine placed_of_committed hread hinv hkey hcommitted (fun hmore => ?_) hcovered
          fun hdone => ?_
        · simpa using hmore
        · exact hlast (by simpa using hdone) hcovered
      -- and the loop goes on from there
      · have hcovered := hafter tables2.events hext2 hstored
        split
        · rename_i hmore
          obtain ⟨position, hposition, hle⟩ := hread.endPosition hmore
          refine ih _ _ fun n hn => ?_
          rw [hposition] at hn
          cases hn
          exact hcovered.le hle
        · rename_i hnone
          intro tables3 hext3 _
          have hnone_eq : hasNextPage = false := Bool.not_eq_true _ ▸ hnone
          exact ((hlast hnone_eq hcovered).mono hext3).all le_rfl

/-- A nested traversal that returns has stored its whole connection, also when it was completed
before. -/
theorem keeps_backfillNested (pullRequestId : String) (window : Window)
    (nested : NestedConnection) (fuel : Nat) :
    GraphQLKeeps repository settings start
      (fun _ tables' _ => ∀ item ∈ repository.items (.nested pullRequestId nested),
        NestedLanded readers settings pullRequestId nested tables'.events item)
      (backfillNested readers settings pullRequestId window nested fuel) tables := by
  refine jobKeeps_ofExcept fun key hkey => ?_
  have hfields := BackfillRunKey.postInit_ok hkey
  have hid : pullRequestId ≠ "" := by
    rintro rfl
    have htext := key.texts_nonempty.2
    rw [hfields] at htext
    cases htext
  have hkey_nested : key.toRunKeyFields = (connectionTraversals repository settings).runKey
      settings.repositoryId (.nested pullRequestId nested) window := hfields
  refine jobKeeps_load fun tables1 _ hinv _ => ?_
  split
  · rename_i hdone
    intro tables2 hext2 _
    exact ((covered_of_completed hinv hkey_nested hdone).mono hext2).all le_rfl
  · rename_i hopen
    refine keeps_nestedLoop pullRequestId nested _ .zero fuel hid hkey_nested fun n hn => ?_
    exact covered_of_cursor hinv hkey_nested hopen hn

end

/-! ## Pull requests -/

section

variable {Start : Type} {start : Start → Job GraphQLRequest BackfillSummary × Unit}
  {tables : BackfillTables} {window : Window} {key : BackfillRunKey}

/-- The nodes follow one another in the order of creation. -/
abbrev SortedByCreation (readers : Readers) (nodes : List Json) : Prop :=
  nodes.Pairwise fun a b => ∀ ta tb,
    readers.awareDatetime (getMember a "createdAt") = some ta →
    readers.awareDatetime (getMember b "createdAt") = some tb → ta.instant ≤ tb.instant

/-- The node was created at or after the end of the window. -/
def CreatedAfter (readers : Readers) (window : Window) (node : Json) : Prop :=
  ∃ createdAt, readers.awareDatetime (getMember node "createdAt") = some createdAt
    ∧ window.windowEnd.instant ≤ createdAt.instant

theorem awareDatetime_ok {node : Json} {name : String} {value : Aware}
    (h : awareDatetime readers node name = .ok value) :
    readers.awareDatetime (getMember node name) = some value := by
  unfold awareDatetime at h
  cases hread : readers.awareDatetime (getMember node name) with
  | none =>
      rw [hread] at h
      cases h
  | some found =>
      rw [hread] at h
      cases h
      rfl

/-- What follows a node created after the window owes nothing. -/
theorem landed_after {last node : Json} {events : RawTable}
    (hlast : CreatedAfter readers window last)
    (hle : ∀ ta tb, readers.awareDatetime (getMember last "createdAt") = some ta →
      readers.awareDatetime (getMember node "createdAt") = some tb → ta.instant ≤ tb.instant) :
    PullRequestLanded repository settings window events node := by
  obtain ⟨created, hcreated, hend⟩ := hlast
  refine pullRequestLanded_of_after fun createdAt hnode => ?_
  calc window.windowEnd.instant ≤ created.instant := hend
    _ ≤ createdAt.instant := hle created createdAt hcreated hnode

/-- What the loop over the nodes of a page establishes: once the records it returns are stored,
all nodes have landed, and if it stopped early the page reaches beyond the window. -/
structure PageLanded (repository : Repository readers) (settings : Settings) (window : Window)
    (nodes : List Json) (records : List BackfillRecord) (reachedWindowEnd : Bool)
    (tables : BackfillTables) : Prop where
  landed : ∀ events, Extends tables.events events → (∀ record ∈ records, Stored events record) →
    ∀ node ∈ nodes, PullRequestLanded repository settings window events node
  reached : reachedWindowEnd = true → ∃ last ∈ nodes, CreatedAfter readers window last

/-- A node created after the window ends the page: neither it nor any later one owes anything. -/
theorem pageLanded_after {first : Json} {rest : List Json}
    (hafter : CreatedAfter readers window first)
    (hfirst : ∀ node ∈ rest, ∀ ta tb, readers.awareDatetime (getMember first "createdAt") = some ta →
      readers.awareDatetime (getMember node "createdAt") = some tb → ta.instant ≤ tb.instant) :
    PageLanded repository settings window (first :: rest) [] true tables where
  landed events _ _ node hnode := by
    rcases List.mem_cons.mp hnode with rfl | hin
    · refine landed_after hafter fun ta tb hta htb => ?_
      rw [hta] at htb
      cases htb
      exact le_rfl
    · exact landed_after hafter (hfirst node hin)
  reached _ := ⟨first, List.mem_cons_self, hafter⟩

/-- A node in front of a page that has landed, itself landed with the records of the page. -/
theorem PageLanded.cons {first : Json} {rest : List Json} {records all : List BackfillRecord}
    {reachedWindowEnd : Bool}
    (h : PageLanded repository settings window rest records reachedWindowEnd tables)
    (hrecords : ∀ record ∈ records, record ∈ all)
    (hfirst : ∀ events, Extends tables.events events → (∀ record ∈ all, Stored events record) →
      PullRequestLanded repository settings window events first) :
    PageLanded repository settings window (first :: rest) all reachedWindowEnd tables where
  landed events hext hstored node hnode := by
    rcases List.mem_cons.mp hnode with rfl | hin
    · exact hfirst events hext hstored
    · exact h.landed events hext (fun r hr => hstored r (hrecords r hr)) node hin
  reached hreached := by
    obtain ⟨last, hlast, hafter⟩ := h.reached hreached
    exact ⟨last, List.mem_cons_of_mem _ hlast, hafter⟩

theorem PageLanded.mono {nodes : List Json} {records : List BackfillRecord}
    {reachedWindowEnd : Bool} {tables' : BackfillTables}
    (h : PageLanded repository settings window nodes records reachedWindowEnd tables)
    (hext : Extends tables.events tables'.events) :
    PageLanded repository settings window nodes records reachedWindowEnd tables' where
  landed events hext' := h.landed events (hext.trans hext')
  reached := h.reached

theorem keeps_pullRequestRecords (window : Window) (nestedFuel : Nat) (summary : BackfillSummary)
    (nodes : List Json) (hsorted : SortedByCreation readers nodes)
    (hinv : ConnectionsPlaced repository settings tables) :
    GraphQLKeeps repository settings start
      (fun result tables' _ =>
        PageLanded repository settings window nodes result.1 result.2.1 tables')
      (pullRequestRecords readers settings window nestedFuel summary nodes) tables := by
  induction nodes generalizing summary tables with
  | nil =>
      intro tables' _ _
      constructor
      · exact fun _ _ _ node hnode => nomatch hnode
      · exact fun h => nomatch h
  | cons first rest ih =>
      obtain ⟨hfirst, hrest⟩ := List.pairwise_cons.mp hsorted
      refine jobKeeps_ofExcept fun createdAt hcreated => ?_
      have hcreated_some := awareDatetime_ok hcreated
      split
      · -- the end of the window
        rename_i hend
        intro tables' _ _
        exact pageLanded_after ⟨createdAt, hcreated_some, hend⟩ hfirst
      · split
        · -- before the window, where a node owes nothing either
          rename_i hbefore
          refine (ih summary hrest hinv).imp fun result tables' _ hresult => ?_
          refine hresult.cons (fun _ hrecord => hrecord) fun events _ _ => ?_
          intro created hnode_created hwindow
          rw [hcreated_some] at hnode_created
          cases hnode_created
          exact absurd hwindow.1 (not_le.mpr hbefore)
        · -- in the window: its reviews and commits are stored first, then the rest of the page
          refine jobKeeps_ofExcept fun pullRequestId hid => ?_
          refine jobKeeps_bind hinv (keeps_backfillNested pullRequestId window .reviews nestedFuel)
            fun _ tables1 _ _ hinv1 hreviews => ?_
          refine jobKeeps_bind hinv1 (keeps_backfillNested pullRequestId window .commits nestedFuel)
            fun _ tables2 _ hext2 hinv2 hcommits => ?_
          refine jobKeeps_ofExcept fun record hrecord => ?_
          refine jobKeeps_bind hinv2 (ih _ hrest hinv2) fun result tables3 _ hext3 _ hresult => ?_
          intro tables4 hext4 _
          refine (hresult.mono hext4).cons (fun _ hin => List.mem_cons_of_mem _ hin)
            fun events hext hstored => ?_
          intro created hnode_created _
          rw [hcreated_some] at hnode_created
          cases hnode_created
          have hgrows2 : Extends tables2.events events := hext3.trans (hext4.trans hext)
          refine ⟨pullRequestId, record, hid, hrecord, hstored record List.mem_cons_self,
            fun nested item hitem => ?_⟩
          cases nested with
          | reviews => exact (hreviews item hitem).mono (hext2.trans hgrows2)
          | commits => exact (hcommits item hitem).mono hgrows2

/-- A page that reaches beyond the window covers the whole listing: what comes after it was
created later still. -/
theorem covered_of_reached {first size : Nat} {last : Json} {events : RawTable}
    (hcovered : (connectionTraversals repository settings).Covered .pullRequests window
      (first + size) events)
    (hlast : last ∈ repository.nodes .pullRequests first size)
    (hafter : CreatedAfter readers window last) :
    (connectionTraversals repository settings).Covered .pullRequests window
      (repository.items .pullRequests).length events := by
  obtain ⟨j, hj⟩ := List.mem_iff_getElem?.mp hlast
  have hjsize : j < size := by
    have hlt := (List.getElem?_eq_some_iff.mp hj).1
    have hle : (repository.nodes .pullRequests first size).length ≤ size :=
      List.length_take_le _ _
    omega
  have hat : (repository.items .pullRequests)[first + j]? = some last := by
    unfold Repository.nodes at hj
    rw [List.getElem?_take_of_lt hjsize, List.getElem?_drop] at hj
    exact hj
  intro i node hi hget
  by_cases hin : i < first + size
  · exact hcovered i node hin hget
  · have hget : (repository.items .pullRequests)[i]? = some node := hget
    obtain ⟨hlastlt, hlast_eq⟩ := List.getElem?_eq_some_iff.mp hat
    obtain ⟨hilt, hnode_eq⟩ := List.getElem?_eq_some_iff.mp hget
    have hle := List.pairwise_iff_getElem.mp repository.sorted (first + j) i hlastlt hilt (by omega)
    rw [hlast_eq, hnode_eq] at hle
    exact landed_after hafter hle

/-- From a covered cursor the traversal of pull requests keeps all checkpoints placed. -/
theorem keeps_pullRequestsLoop (nestedFuel : Nat) (cursor : Option String)
    (summary : BackfillSummary) (fuel : Nat)
    (hkey : key.toRunKeyFields = (connectionTraversals repository settings).runKey
      settings.repositoryId .pullRequests window)
    (hcursor : ∀ n, repository.positionOf .pullRequests (cursorVariable cursor) = some n →
      (connectionTraversals repository settings).Covered .pullRequests window n tables.events) :
    GraphQLKeeps repository settings start (fun _ _ _ => True)
      (pullRequestsLoop readers settings window nestedFuel key cursor summary fuel) tables := by
  induction fuel generalizing cursor summary tables with
  | zero => trivial
  | succ fuel ih =>
      refine jobKeeps_request fun tables1 data hext1 hinv1 hserve => ?_
      refine jobKeeps_ofExcept fun response hresponse => ?_
      obtain ⟨nodes, endCursor, hasNextPage⟩ := response
      obtain ⟨first, hfirst, hread⟩ := pullRequestsResponse_read hserve hresponse
      have hsorted : SortedByCreation readers nodes := by
        rw [hread.nodes_eq]
        exact (repository.sorted.sublist (List.drop_sublist _ _)).sublist (List.take_sublist _ _)
      refine jobKeeps_bind hinv1 (keeps_pullRequestRecords window nestedFuel summary nodes hsorted
        hinv1) fun result tables2 _ hext2 _ hlanded => ?_
      have hbefore := (hcursor first hfirst).mono (hext1.trans hext2)
      have hafter : ∀ events, Extends tables2.events events →
          (∀ record ∈ result.1, Stored events record) →
          (connectionTraversals repository settings).Covered .pullRequests window
            (first + settings.pageSize.toNat) events := by
        intro events hext hstored
        exact hread.covered (hbefore.mono hext) (hlanded.landed events hext hstored)
      refine jobKeeps_persist (fun before after hext hinv hcommitted => ?_)
        fun outcome tables3 hext3 _ hstored => ?_
      · have hcovered := hafter after.events (hext.trans hcommitted.events) hcommitted.stored
        refine placed_of_committed hread hinv hkey hcommitted (fun hmore => ?_) hcovered
          fun hdone => ?_
        -- completed for one of two reasons: the window ends in this page, or the listing does
        · have hboth : result.2.1 = false ∧ hasNextPage = true := by simpa using hmore
          exact hboth.2
        · cases hreached : result.2.1 with
          | true =>
              obtain ⟨last, hlast, hcreated⟩ := hlanded.reached hreached
              rw [hread.nodes_eq] at hlast
              exact covered_of_reached hcovered hlast hcreated
          | false =>
              have hnone : hasNextPage = false := by simpa [hreached] using hdone
              exact hcovered.le (hread.last hnone)
      · have hcovered := hafter tables3.events hext3 hstored
        split
        · exact fun _ _ _ => trivial
        · rename_i hopen
          have hmore : result.2.1 = false ∧ hasNextPage = true := by simpa using hopen
          obtain ⟨position, hposition, hle⟩ := hread.endPosition hmore.2
          refine ih _ _ fun n hn => ?_
          rw [hposition] at hn
          cases hn
          exact hcovered.le hle

theorem keeps_runPullRequests (window : Window) (fuel : Nat) :
    GraphQLKeeps repository settings start (fun _ _ _ => True)
      (runPullRequests readers settings window fuel) tables := by
  refine jobKeeps_ofExcept fun key hkey => ?_
  have hfields : key.toRunKeyFields = (connectionTraversals repository settings).runKey
      settings.repositoryId .pullRequests window := BackfillRunKey.postInit_ok hkey
  refine jobKeeps_load fun tables1 _ hinv _ => ?_
  split
  · exact fun _ _ _ => trivial
  · rename_i hopen
    refine keeps_pullRequestsLoop fuel _ .zero fuel hfields fun n hn => ?_
    exact covered_of_cursor hinv hfields hopen hn

end

/-! ## Checkpoint safety -/

/-- Every invocation keeps the contract, whatever its page size and window. -/
theorem graphQL_sound (repository : Repository readers) (settings : Settings) :
    (graphQLSystem repository settings).Sound
      (backfillContract (ConnectionsPlaced repository settings) fun _ _ _ => True) := by
  refine backfill_sound (fun tables events hext hinv => hinv.moreEvents hext) fun a tables _ => ?_
  refine jobKeeps_ofExcept fun configured hconfigured => ?_
  obtain ⟨hsize, rfl⟩ := Settings.init_ok hconfigured
  have hsame : ConnectionsPlaced repository (settings.withPageSize a.pageSize hsize)
      = ConnectionsPlaced repository settings := rfl
  rw [← hsame]
  exact keeps_runPullRequests a.window a.fuel

/-- **Checkpoint safety of the GraphQL backfill.** In every state that any number of
invocations, crashes and other writers of the raw table can reach, everything before the cursor
of a checkpoint in progress has landed, and everything the connection lists when the checkpoint
is completed: a pull request created in the window with its record and the records of all its
reviews and commits, a review or a commit with its record. -/
theorem graphql_checkpoints_safe (readers : Readers) (repository : Repository readers)
    (settings : Settings) (schedule : List (graphQLSystem repository settings).Event) :
    let tables := ((graphQLSystem repository settings).run schedule
      (graphQLPool repository settings)).shared
    ∀ (connection : Connection) (window : Window) (checkpoint : BackfillCheckpoint),
      tables.checkpoints.lookup ((connectionTraversals repository settings).runKey
        settings.repositoryId connection window).parameters = some checkpoint →
      (checkpoint.status = .completed → ∀ node ∈ repository.items connection,
        ConnectionLanded repository settings connection window tables.events node)
      ∧ (∀ cursor n, checkpoint.status = .inProgress → checkpoint.cursor = some cursor →
        repository.decode connection cursor = some n → ∀ i node, i < n →
        (repository.items connection)[i]? = some node →
        ConnectionLanded repository settings connection window tables.events node) := by
  intro tables connection window checkpoint hlookup
  have hempty : (graphQLPool repository settings).Ok
      (backfillContract (ConnectionsPlaced repository settings) fun _ _ _ => True) :=
    ⟨Traversals.placed_empty, fun _ ht => nomatch ht⟩
  obtain ⟨⟨hplaced, -⟩, -⟩ := (graphQL_sound repository settings).run schedule hempty
    ((graphQLSystem repository settings).admissible_true schedule _)
  have hposition := hplaced connection window checkpoint
  constructor
  · intro hdone
    refine (hposition _ hlookup ?_).all le_rfl
    rw [hdone]
    rfl
  · intro cursor n hopen hcursor hn i node hi hget
    refine hposition n hlookup ?_ i node hi hget
    rw [hopen, hcursor]
    exact hn

/-- A pull request a page: an invocation crashes between the two commits of the second pull
request, and another one resumes. -/
def resumedRun : List (graphQLSystem sampleRepository sampleSettings).Event :=
  .start ⟨1, sampleWindow, 5⟩
    :: (List.range 18).map (fun i => .act 0 (smoothly (i + 1)))
    ++ [.stop 0, .start ⟨1, sampleWindow, 5⟩]
    ++ (List.range 7).map (fun i => .act 0 (smoothly (i + 19)))

/-- The tables after the first steps of that run. -/
def resumedTables (steps : Nat) : BackfillTables :=
  ((graphQLSystem sampleRepository sampleSettings).run (resumedRun.take steps)
    (graphQLPool sampleRepository sampleSettings)).shared

def pullRequestsKey : CheckpointKey :=
  ((connectionTraversals sampleRepository sampleSettings).runKey sampleSettings.repositoryId
    .pullRequests sampleWindow).parameters

/-- The checkpoint stands behind the first pull request at the crash, and is completed at the
end. -/
theorem graphql_checkpoints_safe_resumed :
    ((∃ checkpoint, (resumedTables 20).checkpoints.lookup pullRequestsKey = some checkpoint
        ∧ checkpoint.status = .inProgress ∧ checkpoint.cursor = some "*")
      ∧ PullRequestLanded sampleRepository sampleSettings sampleWindow (resumedTables 20).events
          (samplePullRequest "PR_1" "2026-01-05T00:00:00Z"))
    ∧ isCompleted ((resumedTables 28).checkpoints.lookup pullRequestsKey) = true
      ∧ ∀ node ∈ sampleItems .pullRequests, PullRequestLanded sampleRepository sampleSettings
          sampleWindow (resumedTables 28).events node := by
  have hcrashed : (resumedTables 20).checkpoints.lookup pullRequestsKey
      = some ⟨some "*", .inProgress, 1, 1⟩ := by decide +kernel
  have hdone : (resumedTables 28).checkpoints.lookup pullRequestsKey
      = some ⟨none, .completed, 2, 2⟩ := by decide +kernel
  refine ⟨⟨⟨_, hcrashed, rfl, rfl⟩, ?_⟩, by rw [hdone]; rfl, ?_⟩
  · unfold resumedTables pullRequestsKey at hcrashed
    unfold resumedTables
    exact (graphql_checkpoints_safe sampleReaders sampleRepository sampleSettings
      (resumedRun.take 20) .pullRequests sampleWindow _ hcrashed).2 "*" 1 rfl rfl rfl 0 _
      Nat.one_pos rfl
  · unfold resumedTables pullRequestsKey at hdone
    unfold resumedTables
    exact (graphql_checkpoints_safe sampleReaders sampleRepository sampleSettings
      (resumedRun.take 28) .pullRequests sampleWindow _ hdone).1 rfl

end Backfill
