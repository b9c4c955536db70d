import DeliveryIntelligence.Library.ReadCommitted
import DeliveryIntelligence.Consumers.PrDelivery

set_option autoImplicit false

/-!
# Monitor instances that share one database

The storage operations as sequences of SQL statements, run by any number of sessions at READ
COMMITTED. `executes_transaction` ties them to `Call.exec`: a transaction whose statements run
with nothing in between does what the operation does as a whole.
-/

namespace PrStorage

open Postgres ReadCommitted

/-! ## Rows -/

/-- What a statement can lock: a row of one of the four tables, or the entry of a number in
the unique index of the open rows. -/
inductive RowId
  | watermark (k : PullRequestKey)
  | firstReview (k : PullRequestKey)
  | openPullRequest (k : PullRequestKey)
  | openNumber (repositoryId number : Int)
  | alert (key : String)
  deriving DecidableEq

def RowId.Row : RowId → Type
  | .watermark _ => Watermark
  | .firstReview _ => FirstReview
  | .openPullRequest _ => OpenPullRequest
  | .openNumber _ _ => Empty
  | .alert _ => Alert

def getRow : (id : RowId) → Serving → Option id.Row
  | .watermark k, db => db.watermarks.lookup k
  | .firstReview k, db => db.firstReviews.lookup k
  | .openPullRequest k, db => db.openPullRequests.lookup k
  | .openNumber _ _, _ => none
  | .alert key, db => db.alertOutbox.lookup key

/-- The table with the row under a key replaced. -/
def setEntry {κ ρ : Type} [DecidableEq κ] (t : Table κ ρ) (k : κ) : Option ρ → Table κ ρ
  | none => t.erase k
  | some row => t.insert k row

def setRow : (id : RowId) → Option id.Row → Serving → Serving
  | .watermark k, row, db => { db with watermarks := setEntry db.watermarks k row }
  | .firstReview k, row, db => { db with firstReviews := setEntry db.firstReviews k row }
  | .openPullRequest k, row, db =>
      { db with openPullRequests := setEntry db.openPullRequests k row }
  | .openNumber _ _, _, db => db
  | .alert key, row, db => { db with alertOutbox := setEntry db.alertOutbox key row }

theorem lookup_setEntry {κ ρ : Type} [DecidableEq κ] (t : Table κ ρ) (k : κ) (row : Option ρ) :
    (setEntry t k row).lookup k = row := by
  cases row with
  | none => exact AList.lookup_erase k t
  | some row => exact AList.lookup_insert t

theorem lookup_setEntry_ne {κ ρ : Type} [DecidableEq κ] (t : Table κ ρ) {k k' : κ}
    (row : Option ρ) (h : k' ≠ k) : (setEntry t k row).lookup k' = t.lookup k' := by
  cases row with
  | none => exact AList.lookup_erase_ne h
  | some row => exact AList.lookup_insert_ne h

theorem getRow_setRow (id : RowId) (row : Option id.Row) (db : Serving) :
    getRow id (setRow id row db) = row := by
  cases id with
  | watermark k => exact lookup_setEntry _ k row
  | firstReview k => exact lookup_setEntry _ k row
  | openPullRequest k => exact lookup_setEntry _ k row
  | openNumber repositoryId number =>
      cases row with
      | none => rfl
      | some row => cases row
  | alert key => exact lookup_setEntry _ key row

theorem getRow_setRow_ne {id id' : RowId} (row : Option id.Row) (db : Serving) (h : id' ≠ id) :
    getRow id' (setRow id row db) = getRow id' db := by
  cases id with
  | watermark k =>
      cases id' with
      | watermark k' => exact lookup_setEntry_ne _ row fun heq => h (heq ▸ rfl)
      | _ => rfl
  | firstReview k =>
      cases id' with
      | firstReview k' => exact lookup_setEntry_ne _ row fun heq => h (heq ▸ rfl)
      | _ => rfl
  | openPullRequest k =>
      cases id' with
      | openPullRequest k' => exact lookup_setEntry_ne _ row fun heq => h (heq ▸ rfl)
      | _ => rfl
  | openNumber repositoryId number => rfl
  | alert key =>
      cases id' with
      | alert key' => exact lookup_setEntry_ne _ row fun heq => h (heq ▸ rfl)
      | _ => rfl

/-! ## Statements -/

/-- The SQL statements of the three operations. The sweep is one statement, which selects the
stale rows when it starts and then inserts the alerts one after the other. -/
inductive Statement
  | advanceWatermark (p : PullRequestSnapshot)
  | upsertOpenPullRequest (p : PullRequestSnapshot)
  | syncFirstReviewToOpen (k : PullRequestKey)
  | deleteClosedPullRequest (p : PullRequestSnapshot)
  | cancelPendingAlert (p : PullRequestSnapshot)
  | recordFirstEligibleReview (r : SubmittedReview)
  | selectStale (staleCutoff createdAt : Timestamp)
  | insertAlert (key : String) (a : Alert)

/-- The first statement of `_apply_snapshot_state`; the second follows from it. -/
def snapshotStatement (p : PullRequestSnapshot) : Statement :=
  match p.state with
  | .open => .upsertOpenPullRequest p
  | .closed => .deleteClosedPullRequest p

/-- Insert an alert `ON CONFLICT (alert_key) DO NOTHING`. -/
def insertAlert (key : String) (a : Alert) (db : Serving) : Except Error Serving := do
  enforce alertConstraints (key, a)
  return { db with alertOutbox := (db.alertOutbox.insertMissing [(key, a)]).1 }

/-- The tables a statement leaves, and the statements its operation executes next. -/
def Statement.exec (stmt : Statement) (db : Serving) : Except Error (Serving × List Statement) :=
  match stmt with
  | .advanceWatermark p => do
      let (db, advanced) ← PrStorage.advanceWatermark p db
      return (db, if advanced.isSome then [snapshotStatement p] else [])
  | .upsertOpenPullRequest p => do
      let db ← PrStorage.upsertOpenPullRequest p db
      return (db, [.syncFirstReviewToOpen p.key])
  | .syncFirstReviewToOpen k => do
      let db ← PrStorage.syncFirstReviewToOpen k db
      return (db, [])
  | .deleteClosedPullRequest p =>
      .ok (PrStorage.deleteClosedPullRequest p db, [.cancelPendingAlert p])
  | .cancelPendingAlert p => .ok (PrStorage.cancelPendingAlert p db, [])
  | .recordFirstEligibleReview r => do
      let (db, recorded) ← PrStorage.recordFirstEligibleReview r db
      return (db, if recorded.isSome then [.syncFirstReviewToOpen r.key] else [])
  | .selectStale staleCutoff createdAt =>
      .ok (db, (PrStorage.selectStale staleCutoff createdAt db).map fun (key, a) =>
        .insertAlert key a)
  | .insertAlert key a => do
      let db ← PrStorage.insertAlert key a db
      return (db, [])

/-- The index entry of the number an open row has. -/
def numberEntry (k : PullRequestKey) (db : Serving) : List RowId :=
  match db.openPullRequests.lookup k with
  | none => []
  | some row => [.openNumber k.repositoryId row.pullRequestNumber]

/-- The rows a statement locks. An upsert locks its row even where it rejects the update; an
update or a delete locks only a row it finds. -/
def Statement.locks (stmt : Statement) (db : Serving) : List RowId :=
  match stmt with
  | .advanceWatermark p => [.watermark p.key]
  | .upsertOpenPullRequest p =>
      .openPullRequest p.key :: .openNumber p.repositoryId p.pullRequestNumber
        :: numberEntry p.key db
  | .syncFirstReviewToOpen k =>
      match db.firstReviews.lookup k, db.openPullRequests.lookup k with
      | some _, some _ => [.openPullRequest k]
      | _, _ => []
  | .deleteClosedPullRequest p =>
      match db.openPullRequests.lookup p.key with
      | none => []
      | some _ => .openPullRequest p.key :: numberEntry p.key db
  | .cancelPendingAlert p =>
      match db.alertOutbox.lookup (alertKey p.key) with
      | none => []
      | some a => if a.status = .pending then [.alert (alertKey p.key)] else []
  | .recordFirstEligibleReview r => [.firstReview r.key]
  | .selectStale _ _ => []
  -- a key that is there already is skipped, and no statement removes an alert
  | .insertAlert key _ =>
      match db.alertOutbox.lookup key with
      | none => [.alert key]
      | some _ => []

/-- The statements of an operation before any result is known. -/
def transaction : Call → List Statement
  | .applyPullRequest p => [.advanceWatermark p]
  | .applyReview r =>
      .advanceWatermark r.pullRequest
        :: if r.reviewerId = r.pullRequest.authorId then [] else [.recordFirstEligibleReview r]
  | .createStaleAlerts staleCutoff createdAt => [.selectStale staleCutoff createdAt]

/-! ## A statement changes only the rows it locks -/

theorem upsertOpenPullRequest_ok {p : PullRequestSnapshot} {db db' : Serving}
    (h : PrStorage.upsertOpenPullRequest p db = .ok db') :
    ∃ row, db' = { db with openPullRequests := db.openPullRequests.insert p.key row } := by
  obtain ⟨_, _, h⟩ := bind_eq_ok h
  obtain ⟨_, _, h⟩ := bind_eq_ok h
  cases hold : db.openPullRequests.lookup p.key with
  | none =>
      simp only [Table.upsert, hold] at h
      cases h
      exact ⟨_, rfl⟩
  | some old =>
      simp only [Table.upsert, hold] at h
      cases h
      exact ⟨_, rfl⟩

theorem frame_syncFirstReviewToOpen {k : PullRequestKey} {db db' : Serving}
    (h : PrStorage.syncFirstReviewToOpen k db = .ok db') {id : RowId}
    (hid : id ∉ (Statement.syncFirstReviewToOpen k).locks db) : getRow id db' = getRow id db := by
  rw [syncFirstReviewToOpen_ok h]
  cases hfirst : db.firstReviews.lookup k with
  | none => rfl
  | some first =>
      cases id with
      | openPullRequest k' =>
          by_cases hk : k' = k
          · subst hk
            cases hrow : db.openPullRequests.lookup k' with
            | none =>
                show (db.openPullRequests.updateRow k' _).lookup k' = db.openPullRequests.lookup k'
                rw [Table.lookup_updateRow, hrow]
                rfl
            | some row => simp [Statement.locks, hfirst, hrow] at hid
          · exact Table.lookup_updateRow_ne _ _ hk
      | _ => rfl

theorem frame_deleteClosedPullRequest {p : PullRequestSnapshot} {db : Serving} {id : RowId}
    (hid : id ∉ (Statement.deleteClosedPullRequest p).locks db) :
    getRow id (deleteClosedPullRequest p db) = getRow id db := by
  cases id with
  | openPullRequest k =>
      by_cases hk : k = p.key
      · subst hk
        cases hrow : db.openPullRequests.lookup p.key with
        | none =>
            show (db.openPullRequests.erase p.key).lookup p.key = _
            rw [AList.lookup_erase]
            exact hrow.symm
        -- a row that is there is locked by its delete
        | some row => simp [Statement.locks, hrow] at hid
      · exact AList.lookup_erase_ne hk
  | _ => rfl

theorem frame_cancelPendingAlert {p : PullRequestSnapshot} {db : Serving} {id : RowId}
    (hid : id ∉ (Statement.cancelPendingAlert p).locks db) :
    getRow id (cancelPendingAlert p db) = getRow id db := by
  cases id with
  | alert key =>
      by_cases hkey : key = alertKey p.key
      · subst hkey
        show (db.alertOutbox.updateRow _ _).lookup _ = db.alertOutbox.lookup _
        rw [Table.lookup_updateRow]
        cases hold : db.alertOutbox.lookup (alertKey p.key) with
        | none => rfl
        | some a =>
            by_cases hpending : a.status = .pending
            · simp [Statement.locks, hold, hpending] at hid
            -- the update passes over an alert that is not pending
            · simp [hpending]
      · exact Table.lookup_updateRow_ne _ _ hkey
  | _ => rfl

theorem frame_insertAlert {key : String} {a : Alert} {db db' : Serving}
    (h : insertAlert key a db = .ok db') {id : RowId}
    (hid : id ∉ (Statement.insertAlert key a).locks db) : getRow id db' = getRow id db := by
  obtain ⟨_, _, hstored⟩ := bind_eq_ok h
  cases hstored
  cases id with
  | alert key' =>
      show ((db.alertOutbox.insertMissing [(key, a)]).1).lookup key' = _
      rw [Table.lookup_insertMissing]
      cases hold : db.alertOutbox.lookup key' with
      | some old => exact hold.symm
      | none =>
          have hne : key ≠ key' := by
            rintro rfl
            simp [Statement.locks, hold] at hid
          rw [Option.none_or, Table.firstRow, if_neg hne]
          exact hold.symm
  | _ => rfl

/-- A row that a statement does not lock is as it was. -/
theorem frame_exec {stmt : Statement} {db db' : Serving} {follow : List Statement}
    (h : stmt.exec db = .ok (db', follow)) (id : RowId) (hid : id ∉ stmt.locks db) :
    getRow id db' = getRow id db := by
  cases stmt with
  | advanceWatermark p =>
      obtain ⟨⟨db₁, advanced⟩, hadvance, hrest⟩ := bind_eq_ok h
      cases hrest
      rcases advanceWatermark_ok hadvance with ⟨-, -, rfl⟩ | ⟨_, -, -, rfl⟩
      · rfl
      · cases id with
        | watermark k =>
            exact AList.lookup_insert_ne fun heq => hid (List.mem_singleton.mpr (congrArg _ heq))
        | _ => rfl
  | upsertOpenPullRequest p =>
      obtain ⟨db₁, hupsert, hrest⟩ := bind_eq_ok h
      cases hrest
      obtain ⟨row, rfl⟩ := upsertOpenPullRequest_ok hupsert
      cases id with
      | openPullRequest k =>
          refine AList.lookup_insert_ne fun heq => hid ?_
          rw [heq]
          exact List.mem_cons_self
      | _ => rfl
  | syncFirstReviewToOpen k =>
      obtain ⟨db₁, hsync, hrest⟩ := bind_eq_ok h
      cases hrest
      exact frame_syncFirstReviewToOpen hsync hid
  | deleteClosedPullRequest p =>
      cases h
      exact frame_deleteClosedPullRequest hid
  | cancelPendingAlert p =>
      cases h
      exact frame_cancelPendingAlert hid
  | recordFirstEligibleReview r =>
      obtain ⟨⟨db₁, recorded⟩, hrecord, hrest⟩ := bind_eq_ok h
      cases hrest
      rcases recordFirstEligibleReview_ok hrecord with ⟨-, -, rfl⟩ | ⟨_, -, -, rfl⟩
      · rfl
      · cases id with
        | firstReview k =>
            exact AList.lookup_insert_ne fun heq => hid (List.mem_singleton.mpr (congrArg _ heq))
        | _ => rfl
  | selectStale staleCutoff createdAt =>
      cases h
      rfl
  | insertAlert key a =>
      obtain ⟨db₁, hinsert, hrest⟩ := bind_eq_ok h
      cases hrest
      exact frame_insertAlert hinsert hid

/-- The database of the monitor instances. -/
def database : Database RowId Serving Statement Call Error where
  Row := RowId.Row
  get := getRow
  set := setRow
  program := transaction
  exec := Statement.exec
  locks := Statement.locks
  get_set := getRow_setRow
  get_set_ne := getRow_setRow_ne
  frame := frame_exec

/-! ## A transaction without interleaving is the operation -/

theorem executes_nil {db db' : Serving} : database.Executes [] db db' ↔ db' = db := by
  constructor
  · intro h
    cases h
    rfl
  · rintro rfl
    exact .done db'

theorem executes_cons {stmt : Statement} {rest : List Statement} {db db' : Serving} :
    database.Executes (stmt :: rest) db db'
      ↔ ∃ db₁ follow, stmt.exec db = .ok (db₁, follow)
        ∧ database.Executes (follow ++ rest) db₁ db' := by
  constructor
  · intro h
    cases h with
    | next first others => exact ⟨_, _, first, others⟩
  · rintro ⟨db₁, follow, first, others⟩
    exact .next first others

theorem executes_syncFirstReviewToOpen {k : PullRequestKey} {rest : List Statement}
    {db db' : Serving} :
    database.Executes (.syncFirstReviewToOpen k :: rest) db db'
      ↔ ∃ db₁, syncFirstReviewToOpen k db = .ok db₁ ∧ database.Executes rest db₁ db' := by
  rw [executes_cons]
  constructor
  · rintro ⟨db₁, follow, hexec, hrest⟩
    obtain ⟨db₂, hsync, hpure⟩ := bind_eq_ok hexec
    cases hpure
    exact ⟨db₁, hsync, hrest⟩
  · rintro ⟨db₁, hsync, hrest⟩
    exact ⟨db₁, [], by simp only [Statement.exec, hsync]; rfl, hrest⟩

/-- The statements of a snapshot are `_apply_snapshot_state`. -/
theorem executes_snapshotStatement {p : PullRequestSnapshot} {rest : List Statement}
    {db db' : Serving} :
    database.Executes (snapshotStatement p :: rest) db db'
      ↔ ∃ db₁, applySnapshotState p db = .ok db₁ ∧ database.Executes rest db₁ db' := by
  unfold snapshotStatement applySnapshotState
  cases hs : p.state with
  | «open» =>
      simp only
      rw [executes_cons]
      constructor
      · rintro ⟨db₁, follow, hexec, hrest⟩
        obtain ⟨db₂, hupsert, hpure⟩ := bind_eq_ok hexec
        cases hpure
        obtain ⟨db₃, hsync, hothers⟩ := executes_syncFirstReviewToOpen.mp hrest
        exact ⟨db₃, by rw [hupsert]; exact hsync, hothers⟩
      · rintro ⟨db₁, hstate, hrest⟩
        obtain ⟨db₂, hupsert, hsync⟩ := bind_eq_ok hstate
        exact ⟨db₂, _, by simp only [Statement.exec, hupsert]; rfl,
          executes_syncFirstReviewToOpen.mpr ⟨db₁, hsync, hrest⟩⟩
  | closed =>
      simp only
      rw [executes_cons]
      constructor
      · rintro ⟨db₁, follow, hexec, hrest⟩
        cases hexec
        obtain ⟨db₂, follow, hcancel, hothers⟩ := executes_cons.mp hrest
        cases hcancel
        exact ⟨_, rfl, hothers⟩
      · rintro ⟨db₁, hstate, hrest⟩
        cases hstate
        exact ⟨_, _, rfl, executes_cons.mpr ⟨_, [], rfl, hrest⟩⟩

/-- The first statement of a snapshot command, and what its result leads to. -/
theorem executes_advanceWatermark {p : PullRequestSnapshot} {rest : List Statement}
    {db db' : Serving} :
    database.Executes (.advanceWatermark p :: rest) db db'
      ↔ ∃ db₁ advanced db₂, advanceWatermark p db = .ok (db₁, advanced)
        ∧ (if advanced.isSome then applySnapshotState p db₁ else pure db₁) = .ok db₂
        ∧ database.Executes rest db₂ db' := by
  rw [executes_cons]
  constructor
  · rintro ⟨db₁, follow, hexec, hrest⟩
    obtain ⟨⟨db₂, advanced⟩, hadvance, hpure⟩ := bind_eq_ok hexec
    cases hpure
    cases advanced with
    | none => exact ⟨db₁, none, db₁, hadvance, rfl, hrest⟩
    | some w =>
        obtain ⟨db₃, hstate, hothers⟩ := executes_snapshotStatement.mp hrest
        exact ⟨db₁, some w, db₃, hadvance, hstate, hothers⟩
  · rintro ⟨db₁, advanced, db₂, hadvance, hstate, hrest⟩
    refine ⟨db₁, _, by simp only [Statement.exec, hadvance]; rfl, ?_⟩
    cases advanced with
    | none =>
        cases hstate
        exact hrest
    | some w => exact executes_snapshotStatement.mpr ⟨db₂, hstate, hrest⟩

/-- The part of `apply_review` after the check of the reviewer. -/
def recordReviewIn (r : SubmittedReview) (db : Serving) : Except Error (ReviewOutcome × Serving) := do
  let (db, recorded) ← recordFirstEligibleReview r db
  match recorded with
  | none => return (.unchanged, db)
  | some _ => do
      let db ← syncFirstReviewToOpen r.key db
      return (.recorded, db)

theorem executes_recordFirstEligibleReview {r : SubmittedReview} {db db' : Serving} :
    database.Executes [.recordFirstEligibleReview r] db db'
      ↔ ∃ o, recordReviewIn r db = .ok (o, db') := by
  rw [executes_cons]
  constructor
  · rintro ⟨db₁, follow, hexec, hrest⟩
    obtain ⟨⟨db₂, recorded⟩, hrecord, hpure⟩ := bind_eq_ok hexec
    cases hpure
    unfold recordReviewIn
    rw [hrecord]
    cases recorded with
    | none =>
        cases executes_nil.mp hrest
        exact ⟨.unchanged, rfl⟩
    | some first =>
        obtain ⟨db₃, hsync, hothers⟩ := executes_syncFirstReviewToOpen.mp hrest
        cases executes_nil.mp hothers
        refine ⟨.recorded, ?_⟩
        show (syncFirstReviewToOpen r.key db₁ >>= _) = _
        rw [hsync]
        rfl
  · rintro ⟨o, hreview⟩
    obtain ⟨⟨db₁, recorded⟩, hrecord, hrest⟩ := bind_eq_ok hreview
    refine ⟨db₁, _, by simp only [Statement.exec, hrecord]; rfl, ?_⟩
    cases recorded with
    | none =>
        cases hrest
        exact .done _
    | some first =>
        obtain ⟨db₂, hsync, hpure⟩ := bind_eq_ok hrest
        cases hpure
        exact executes_syncFirstReviewToOpen.mpr ⟨_, hsync, .done _⟩

/-- The inserts of a sweep, one after the other, are its `INSERT .. SELECT`. -/
theorem executes_insertAlert (selected : List (String × Alert)) {db db' : Serving} :
    database.Executes (selected.map fun (key, a) => .insertAlert key a) db db'
      ↔ selected.forM (enforce alertConstraints) = .ok ()
        ∧ db' = { db with alertOutbox := (db.alertOutbox.insertMissing selected).1 } := by
  induction selected generalizing db with
  | nil =>
      rw [List.map_nil, executes_nil]
      constructor
      · rintro rfl
        exact ⟨rfl, rfl⟩
      · rintro ⟨-, rfl⟩
        rfl
  | cons entry rest ih =>
      obtain ⟨key, a⟩ := entry
      rw [List.map_cons, executes_cons, List.forM_eq_forM, List.forM_cons]
      constructor
      · rintro ⟨db₁, follow, hexec, hrest⟩
        obtain ⟨db₂, hinsert, hpure⟩ := bind_eq_ok hexec
        cases hpure
        obtain ⟨_, hcheck, hstored⟩ := bind_eq_ok hinsert
        cases hstored
        obtain ⟨hothers, rfl⟩ := ih.mp hrest
        rw [hcheck, Table.insertMissing_cons _ _ rest]
        exact ⟨hothers, rfl⟩
      · rintro ⟨hall, rfl⟩
        obtain ⟨_, hcheck, hothers⟩ := bind_eq_ok hall
        have hexec : (Statement.insertAlert key a).exec db
            = .ok ({ db with alertOutbox := (db.alertOutbox.insertMissing [(key, a)]).1 }, []) := by
          simp only [Statement.exec, insertAlert, hcheck]
          rfl
        refine ⟨_, _, hexec, ih.mpr ⟨hothers, ?_⟩⟩
        rw [Table.insertMissing_cons _ _ rest]

theorem executes_applyPullRequest (p : PullRequestSnapshot) {db db' : Serving} :
    database.Executes (transaction (.applyPullRequest p)) db db'
      ↔ (Call.applyPullRequest p).exec db = .ok db' := by
  rw [transaction, executes_advanceWatermark, Call.exec, map_eq_ok_iff]
  constructor
  · rintro ⟨db₁, advanced, db₂, hadvance, hstate, hrest⟩
    cases executes_nil.mp hrest
    cases advanced with
    | none =>
        cases hstate
        exact ⟨(.stale, db'), by simp only [applyPullRequest, hadvance]; rfl, rfl⟩
    | some w =>
        have hproject : applySnapshotState p db₁ = .ok db' := hstate
        refine ⟨(.applied, db'), ?_, rfl⟩
        rw [applyPullRequest, hadvance]
        show (applySnapshotState p db₁ >>= _) = _
        rw [hproject]
        rfl
  · rintro ⟨⟨o, _⟩, hop, rfl⟩
    obtain ⟨⟨db₁, advanced⟩, hadvance, hrest⟩ := bind_eq_ok hop
    cases advanced with
    | none =>
        cases hrest
        exact ⟨_, none, _, hadvance, rfl, .done _⟩
    | some w =>
        obtain ⟨db₂, hstate, hpure⟩ := bind_eq_ok hrest
        cases hpure
        exact ⟨_, some w, _, hadvance, hstate, .done _⟩

theorem executes_applyReview (r : SubmittedReview) {db db' : Serving} :
    database.Executes (transaction (.applyReview r)) db db'
      ↔ (Call.applyReview r).exec db = .ok db' := by
  rw [transaction, executes_advanceWatermark, Call.exec, map_eq_ok_iff]
  constructor
  · rintro ⟨db₁, advanced, db₂, hadvance, hstate, hrest⟩
    have hop : ∀ {o : ReviewOutcome},
        (if r.reviewerId = r.pullRequest.authorId then .ok (.ineligible, db₂)
          else recordReviewIn r db₂) = .ok (o, db') → applyReview r db = .ok (o, db') := by
      intro o hreview
      rw [applyReview, hadvance]
      show ((if advanced.isSome then applySnapshotState r.pullRequest db₁ else pure db₁) >>= _)
        = _
      rw [hstate]
      exact hreview
    by_cases hauthor : r.reviewerId = r.pullRequest.authorId
    · rw [if_pos hauthor] at hrest
      exact ⟨(.ineligible, db'), hop (by rw [if_pos hauthor, executes_nil.mp hrest]), rfl⟩
    · rw [if_neg hauthor] at hrest
      obtain ⟨o, hreview⟩ := executes_recordFirstEligibleReview.mp hrest
      exact ⟨(o, db'), hop (by rw [if_neg hauthor]; exact hreview), rfl⟩
  · rintro ⟨⟨o, _⟩, hop, rfl⟩
    obtain ⟨⟨db₁, advanced⟩, hadvance, hafter⟩ := bind_eq_ok hop
    obtain ⟨db₂, hstate, hreview⟩ := bind_eq_ok hafter
    refine ⟨db₁, advanced, db₂, hadvance, hstate, ?_⟩
    by_cases hauthor : r.reviewerId = r.pullRequest.authorId
    · rw [if_pos hauthor] at hreview ⊢
      cases hreview
      exact .done _
    · rw [if_neg hauthor] at hreview ⊢
      exact executes_recordFirstEligibleReview.mpr ⟨o, hreview⟩

theorem executes_createStaleAlerts (staleCutoff createdAt : Timestamp) {db db' : Serving} :
    database.Executes (transaction (.createStaleAlerts staleCutoff createdAt)) db db'
      ↔ (Call.createStaleAlerts staleCutoff createdAt).exec db = .ok db' := by
  rw [transaction, executes_cons, Call.exec, map_eq_ok_iff]
  constructor
  · rintro ⟨db₁, follow, hselect, hrest⟩
    cases hselect
    rw [List.append_nil] at hrest
    obtain ⟨hall, rfl⟩ := (executes_insertAlert _).mp hrest
    exact ⟨_, by simp only [createStaleAlerts, hall]; rfl, rfl⟩
  · rintro ⟨⟨n, _⟩, hop, rfl⟩
    obtain ⟨_, hall, hrest⟩ := bind_eq_ok hop
    cases hrest
    refine ⟨db, _, rfl, ?_⟩
    rw [List.append_nil]
    exact (executes_insertAlert _).mpr ⟨hall, rfl⟩

/-- Run with nothing in between, the statements of a call do what the call does as a whole. -/
theorem executes_transaction (c : Call) {db db' : Serving} :
    database.Executes (transaction c) db db' ↔ c.exec db = .ok db' := by
  cases c with
  | applyPullRequest p => exact executes_applyPullRequest p
  | applyReview r => exact executes_applyReview r
  | createStaleAlerts staleCutoff createdAt =>
      exact executes_createStaleAlerts staleCutoff createdAt

end PrStorage
