import DeliveryIntelligence.Consumers.PrConcurrency
import DeliveryIntelligence.Consumers.PrSweep

set_option autoImplicit false

/-!
# Pending alerts when sweeps and closes run at the same time

A close cancels the alert it sees, and it does not see the alert a running sweep has selected
but not committed. `apart` is the condition on a step under which this does not happen: a
cancel runs while no session is about to insert the alert, and a sweep selects no pull request
whose close has run its cancel and is about to commit. Schedules of such steps keep every
pending alert with an open pull request (`pending_open_of_apart`).
-/

namespace PrStorage

open Postgres ReadCommitted ReadCommitted.Database

variable {ι : Type} [DecidableEq ι]

abbrev MonitorSession := Session RowId Serving Statement

abbrev MonitorState (ι : Type) := State ι RowId Serving Statement

/-! ## Sweeps and closes in progress -/

def Statement.insertsAlert (key : String) : Statement → Bool
  | .insertAlert key' _ => key' == key
  | _ => false

def Statement.cancels (k : PullRequestKey) : Statement → Bool
  | .cancelPendingAlert p => p.key == k
  | _ => false

/-- The session is about to insert an alert under the key, or has written one. -/
def selects (ses : MonitorSession) (key : String) : Bool :=
  ses.program.any (Statement.insertsAlert key) || ses.locked.contains (.alert key)

/-- The session has deleted the open row of the pull request and run its cancel. -/
def hasClosed (ses : MonitorSession) (k : PullRequestKey) : Bool :=
  ses.locked.contains (.openPullRequest k) && (ses.version.openPullRequests.lookup k).isNone
    && !ses.program.any (Statement.cancels k)

/-- A close cancels, and a sweep selects, only where the other is not halfway. An alert that is
committed already is out of the question: the sweep skips its key. -/
def apart (s : MonitorState ι) : Action ι Call → Bool
  | .statement t =>
      match (s.sessions.lookup t).map Session.program with
      | some (.cancelPendingAlert p :: _) =>
          (s.committed.alertOutbox.lookup (alertKey p.key)).isSome
            || s.sessions.rows.all fun (_, other) => !selects other (alertKey p.key)
      | some (.selectStale staleCutoff _ :: _) =>
          s.committed.openPullRequests.rows.all fun (k, row) =>
            !row.isStale staleCutoff || (s.committed.alertOutbox.lookup (alertKey k)).isSome
              || s.sessions.rows.all fun (_, other) => !hasClosed other k
      | _ => true
  | _ => true

/-! ## What a statement does to open rows and alerts -/

/-- An open row is locked by its upsert, its delete or the copy of its first review. -/
theorem openPullRequest_mem_locks {stmt : Statement} {db : Serving} {k : PullRequestKey}
    (h : .openPullRequest k ∈ stmt.locks db) :
    (∃ p, stmt = .upsertOpenPullRequest p ∧ p.key = k)
    ∨ (∃ row, stmt = .syncFirstReviewToOpen k ∧ db.openPullRequests.lookup k = some row)
    ∨ ∃ p, stmt = .deleteClosedPullRequest p ∧ p.key = k := by
  cases stmt with
  | upsertOpenPullRequest p =>
      refine Or.inl ⟨p, rfl, ?_⟩
      simp only [Statement.locks, numberEntry, List.mem_cons] at h
      rcases h with heq | heq | hnumber
      · exact (RowId.openPullRequest.inj heq).symm
      · cases heq
      · split at hnumber
        · cases hnumber
        · simp at hnumber
  | syncFirstReviewToOpen k' =>
      simp only [Statement.locks] at h
      split at h
      · rename_i row _ hrow
        rw [List.mem_singleton, RowId.openPullRequest.injEq] at h
        subst h
        exact Or.inr (Or.inl ⟨_, rfl, hrow⟩)
      · cases h
  | deleteClosedPullRequest p =>
      refine Or.inr (Or.inr ⟨p, rfl, ?_⟩)
      simp only [Statement.locks, numberEntry] at h
      split at h
      · cases h
      · simp only [List.mem_cons, RowId.openPullRequest.injEq] at h
        rcases h with heq | hnumber
        · exact heq.symm
        · simp at hnumber
  | cancelPendingAlert p =>
      simp only [Statement.locks] at h
      split at h
      · cases h
      · split at h
        · simp at h
        · cases h
  | insertAlert key a =>
      simp only [Statement.locks] at h
      split at h
      · simp at h
      · cases h
  | advanceWatermark p => simp [Statement.locks] at h
  | recordFirstEligibleReview r => simp [Statement.locks] at h
  | selectStale staleCutoff createdAt => simp [Statement.locks] at h

/-- A statement that leaves no open row of `k` found none, unless it is the delete. -/
theorem openPullRequests_exec {stmt : Statement} {db db' : Serving} {follow : List Statement}
    (h : stmt.exec db = .ok (db', follow)) {k : PullRequestKey}
    (hnone : db'.openPullRequests.lookup k = none) :
    (∃ p, p.key = k ∧ follow = [.cancelPendingAlert p])
    ∨ (db.openPullRequests.lookup k = none ∧ .openPullRequest k ∉ stmt.locks db) := by
  by_cases hlocked : .openPullRequest k ∈ stmt.locks db
  · left
    rcases openPullRequest_mem_locks hlocked with
      ⟨p, rfl, rfl⟩ | ⟨row, rfl, hrow⟩ | ⟨p, rfl, rfl⟩
    -- an upsert leaves a row
    · obtain ⟨db₁, hupsert, hrest⟩ := bind_eq_ok h
      cases hrest
      obtain ⟨row, rfl⟩ := upsertOpenPullRequest_ok hupsert
      rw [AList.lookup_insert] at hnone
      cases hnone
    -- and so does the copy of a first review, which has found one
    · obtain ⟨db₁, hsync, hrest⟩ := bind_eq_ok h
      cases hrest
      rw [syncFirstReviewToOpen_ok hsync] at hnone
      cases hfirst : db.firstReviews.lookup k with
      | none =>
          simp only [hfirst] at hnone
          rw [hrow] at hnone
          cases hnone
      | some first =>
          simp only [hfirst] at hnone
          rw [Table.lookup_updateRow, hrow] at hnone
          cases hnone
    · cases h
      exact ⟨p, rfl, rfl⟩
  · have hframe : db'.openPullRequests.lookup k = db.openPullRequests.lookup k :=
      frame_exec h (.openPullRequest k) hlocked
    exact Or.inr ⟨hframe ▸ hnone, hlocked⟩

/-- An alert is locked by the insert that adds it, or by the cancel that ends it. -/
theorem alert_mem_locks {stmt : Statement} {db db' : Serving} {follow : List Statement}
    (h : stmt.exec db = .ok (db', follow)) {key : String} (hkey : .alert key ∈ stmt.locks db) :
    (∃ a, stmt = .insertAlert key a ∧ db.alertOutbox.lookup key = none
        ∧ db'.alertOutbox.lookup key = some a)
    ∨ (∃ p a a', stmt = .cancelPendingAlert p ∧ key = alertKey p.key
        ∧ db.alertOutbox.lookup key = some a ∧ db'.alertOutbox.lookup key = some a'
        ∧ a'.key = a.key ∧ a'.status = .cancelled) := by
  cases stmt with
  | advanceWatermark p => simp [Statement.locks] at hkey
  | upsertOpenPullRequest p =>
      simp only [Statement.locks, numberEntry] at hkey
      split at hkey
      · simp at hkey
      · simp at hkey
  | syncFirstReviewToOpen k =>
      simp only [Statement.locks] at hkey
      split at hkey
      · simp at hkey
      · simp at hkey
  | deleteClosedPullRequest p =>
      simp only [Statement.locks, numberEntry] at hkey
      split at hkey
      · simp at hkey
      · simp at hkey
  | cancelPendingAlert p =>
      cases h
      right
      simp only [Statement.locks] at hkey
      split at hkey
      · cases hkey
      · rename_i a ha
        split at hkey
        · rename_i hpending
          rw [List.mem_singleton, RowId.alert.injEq] at hkey
          subst hkey
          refine ⟨p, a, { a with status := .cancelled }, rfl, rfl, ha, ?_, rfl, rfl⟩
          rw [cancelPendingAlert, Table.lookup_updateRow, ha]
          simp [hpending]
        · cases hkey
  | recordFirstEligibleReview r => simp [Statement.locks] at hkey
  | selectStale staleCutoff createdAt => simp [Statement.locks] at hkey
  | insertAlert key' a =>
      obtain ⟨db₁, hinsert, hrest⟩ := bind_eq_ok h
      cases hrest
      obtain ⟨_, _, hstored⟩ := bind_eq_ok hinsert
      cases hstored
      left
      simp only [Statement.locks] at hkey
      split at hkey
      · rename_i hnone
        rw [List.mem_singleton, RowId.alert.injEq] at hkey
        subst hkey
        refine ⟨a, rfl, hnone, ?_⟩
        rw [Table.lookup_insertMissing, hnone, Option.none_or, Table.firstRow, if_pos rfl]
      · cases hkey

/-- An alert a statement finds stays, and can only be cancelled. -/
theorem alertOutbox_exec {stmt : Statement} {db db' : Serving} {follow : List Statement}
    (h : stmt.exec db = .ok (db', follow)) {key : String} {a : Alert}
    (ha : db.alertOutbox.lookup key = some a) :
    ∃ a', db'.alertOutbox.lookup key = some a' ∧ a'.key = a.key
      ∧ (a'.status = .pending → a.status = .pending) := by
  by_cases hlocked : .alert key ∈ stmt.locks db
  · rcases alert_mem_locks h hlocked with
      ⟨_, -, hfree, -⟩ | ⟨_, found, a', -, -, hfound, ha', hkey, hdone⟩
    · rw [ha] at hfree
      cases hfree
    · rw [ha] at hfound
      cases hfound
      refine ⟨a', ha', hkey, fun hpending => ?_⟩
      rw [hdone] at hpending
      exact AlertStatus.noConfusion hpending
  · have hframe : db'.alertOutbox.lookup key = db.alertOutbox.lookup key :=
      frame_exec h (.alert key) hlocked
    exact ⟨a, hframe.trans ha, rfl, fun hpending => hpending⟩

/-- Only a sweep leads to inserts, and no statement leads to a sweep. -/
theorem mem_follow {stmt next : Statement} {db db' : Serving} {follow : List Statement}
    (h : stmt.exec db = .ok (db', follow)) (hnext : next ∈ follow) :
    (∀ staleCutoff createdAt, next ≠ .selectStale staleCutoff createdAt)
    ∧ ∀ key a, next = .insertAlert key a → ∃ staleCutoff createdAt k row,
        stmt = .selectStale staleCutoff createdAt ∧ key = alertKey k ∧ a.key = k
        ∧ db.openPullRequests.lookup k = some row ∧ row.isStale staleCutoff = true := by
  cases stmt with
  | advanceWatermark p =>
      obtain ⟨⟨db₁, advanced⟩, hadvance, hrest⟩ := bind_eq_ok h
      cases hrest
      have hstatement : next = snapshotStatement p := by
        cases advanced with
        | none => cases hnext
        | some w => exact List.mem_singleton.mp hnext
      subst hstatement
      unfold snapshotStatement
      split
      · exact ⟨fun _ _ heq => Statement.noConfusion heq, fun _ _ heq => Statement.noConfusion heq⟩
      · exact ⟨fun _ _ heq => Statement.noConfusion heq, fun _ _ heq => Statement.noConfusion heq⟩
  | upsertOpenPullRequest p =>
      obtain ⟨db₁, hupsert, hrest⟩ := bind_eq_ok h
      cases hrest
      cases List.mem_singleton.mp hnext
      exact ⟨fun _ _ heq => Statement.noConfusion heq, fun _ _ heq => Statement.noConfusion heq⟩
  | syncFirstReviewToOpen k =>
      obtain ⟨db₁, hsync, hrest⟩ := bind_eq_ok h
      cases hrest
      cases hnext
  | deleteClosedPullRequest p =>
      cases h
      cases List.mem_singleton.mp hnext
      exact ⟨fun _ _ heq => Statement.noConfusion heq, fun _ _ heq => Statement.noConfusion heq⟩
  | cancelPendingAlert p =>
      cases h
      cases hnext
  | recordFirstEligibleReview r =>
      obtain ⟨⟨db₁, recorded⟩, hrecord, hrest⟩ := bind_eq_ok h
      cases hrest
      cases recorded with
      | none => cases hnext
      | some first =>
          cases List.mem_singleton.mp hnext
          exact ⟨fun _ _ heq => Statement.noConfusion heq,
            fun _ _ heq => Statement.noConfusion heq⟩
  | selectStale staleCutoff createdAt =>
      cases h
      obtain ⟨entry, hentry, rfl⟩ := List.mem_map.mp hnext
      refine ⟨fun _ _ heq => Statement.noConfusion heq, fun key a heq => ?_⟩
      cases heq
      obtain ⟨⟨k, row⟩, hmem, rfl⟩ := List.mem_map.mp hentry
      obtain ⟨hrow, hstale⟩ := List.mem_filter.mp hmem
      exact ⟨staleCutoff, createdAt, k, row, rfl, rfl, rfl, Table.mem_rows.mp hrow, hstale⟩
  | insertAlert key a =>
      obtain ⟨db₁, hinsert, hrest⟩ := bind_eq_ok h
      cases hrest
      cases hnext

/-! ## The invariant -/

/-- Some session is about to insert an alert under the key, or has written one. -/
def Selected (s : MonitorState ι) (key : String) : Prop :=
  ∃ t ses, s.sessions.lookup t = some ses ∧ selects ses key = true

/-- The close of `k` need not be waited for: its alert is not pending when the session
commits, and no sweep in progress will add one. -/
def Settled (s : MonitorState ι) (ses : MonitorSession) (k : PullRequestKey) : Prop :=
  (.alert (alertKey k) ∈ ses.locked
    ∧ ∃ a, ses.version.alertOutbox.lookup (alertKey k) = some a ∧ a.status ≠ .pending)
  ∨ ((∀ a, s.committed.alertOutbox.lookup (alertKey k) = some a → a.status ≠ .pending)
    ∧ (s.committed.alertOutbox.lookup (alertKey k) = none → ¬ Selected s (alertKey k)))

/-- What holds of a session in progress. -/
structure Fits (s : MonitorState ι) (ses : MonitorSession) : Prop where
  selected : ∀ key a, .insertAlert key a ∈ ses.program → key = alertKey a.key
    ∧ (s.committed.alertOutbox.lookup key = none →
      ∃ row, s.committed.openPullRequests.lookup a.key = some row)
  written : ∀ key, .alert key ∈ ses.locked → ∃ a, ses.version.alertOutbox.lookup key = some a
    ∧ key = alertKey a.key ∧ (a.status = .pending → s.committed.alertOutbox.lookup key = none
      ∧ ∃ row, s.committed.openPullRequests.lookup a.key = some row)
  closed : ∀ k, .openPullRequest k ∈ ses.locked → ses.version.openPullRequests.lookup k = none →
    (∃ p, p.key = k ∧ .cancelPendingAlert p ∈ ses.program) ∨ Settled s ses k
  sweeping : ∀ staleCutoff createdAt, .selectStale staleCutoff createdAt ∈ ses.program →
    ses.program = [.selectStale staleCutoff createdAt] ∧ ses.locked = []

/-- Every committed pending alert belongs to a committed open row, and the sessions in progress
keep it so. -/
structure PendingOpen (s : MonitorState ι) : Prop where
  exclusive : Exclusive s.sessions
  alert_key : ∀ key a, s.committed.alertOutbox.lookup key = some a → key = alertKey a.key
  pending_open : ∀ key a, s.committed.alertOutbox.lookup key = some a → a.status = .pending →
    ∃ row, s.committed.openPullRequests.lookup a.key = some row
  fits : ∀ t ses, s.sessions.lookup t = some ses → Fits s ses

theorem selects_iff {ses : MonitorSession} {key : String} :
    selects ses key = true ↔ (∃ a, .insertAlert key a ∈ ses.program) ∨ .alert key ∈ ses.locked := by
  unfold selects
  rw [Bool.or_eq_true, List.any_eq_true, List.contains_iff_mem]
  constructor
  · rintro (⟨stmt, hmem, hinserts⟩ | hlocked)
    · cases stmt with
      | insertAlert key' a =>
          have hkey : key' = key := by simpa [Statement.insertsAlert] using hinserts
          exact Or.inl ⟨a, hkey ▸ hmem⟩
      | _ => simp [Statement.insertsAlert] at hinserts
    · exact Or.inr hlocked
  · rintro (⟨a, hmem⟩ | hlocked)
    · exact Or.inl ⟨_, hmem, by simp [Statement.insertsAlert]⟩
    · exact Or.inr hlocked

theorem hasClosed_iff {ses : MonitorSession} {k : PullRequestKey} :
    hasClosed ses k = true ↔ .openPullRequest k ∈ ses.locked
      ∧ ses.version.openPullRequests.lookup k = none
      ∧ ¬ ∃ p, p.key = k ∧ .cancelPendingAlert p ∈ ses.program := by
  have hcancels : ses.program.any (Statement.cancels k) = true
      ↔ ∃ p, p.key = k ∧ .cancelPendingAlert p ∈ ses.program := by
    rw [List.any_eq_true]
    constructor
    · rintro ⟨stmt, hmem, hstmt⟩
      cases stmt with
      | cancelPendingAlert p => exact ⟨p, by simpa [Statement.cancels] using hstmt, hmem⟩
      | _ => simp [Statement.cancels] at hstmt
    · rintro ⟨p, hkey, hmem⟩
      exact ⟨_, hmem, by simp [Statement.cancels, hkey]⟩
  unfold hasClosed
  rw [Bool.and_eq_true, Bool.and_eq_true, List.contains_iff_mem, Option.isNone_iff_eq_none,
    Bool.not_eq_true', ← Bool.not_eq_true, hcancels, and_assoc]

/-- A session that does not act keeps its part, unless a sweep selects a pull request whose
close it has under way. -/
theorem Fits.mono {s s' : MonitorState ι} {ses : MonitorSession} (h : Fits s ses)
    (hc : s'.committed = s.committed)
    (hsel : ∀ k, s.committed.alertOutbox.lookup (alertKey k) = none → Selected s' (alertKey k) →
      Selected s (alertKey k) ∨ hasClosed ses k = false) : Fits s' ses := by
  refine ⟨?_, ?_, ?_, h.sweeping⟩
  · rw [hc]
    exact h.selected
  · rw [hc]
    exact h.written
  · intro k hlocked hnone
    by_cases hcancel : ∃ p, p.key = k ∧ .cancelPendingAlert p ∈ ses.program
    · exact Or.inl hcancel
    · right
      rcases h.closed k hlocked hnone with hstill | hwritten | ⟨hpending, hnot⟩
      · exact absurd hstill hcancel
      · exact Or.inl hwritten
      · right
        rw [hc]
        refine ⟨hpending, fun hfree hselected => ?_⟩
        rcases hsel k hfree hselected with hold | hopen
        · exact hnot hfree hold
        · rw [hasClosed_iff.mpr ⟨hlocked, hnone, hcancel⟩] at hopen
          cases hopen

/-! ## What a session reads -/

section View

variable {committed : Serving} {ses : MonitorSession}

theorem alert_view_locked {key : String} (h : .alert key ∈ ses.locked) :
    (database.view committed ses).alertOutbox.lookup key = ses.version.alertOutbox.lookup key :=
  database.get_view_locked (k := .alert key) h

theorem alert_view_committed {key : String} (h : .alert key ∉ ses.locked) :
    (database.view committed ses).alertOutbox.lookup key = committed.alertOutbox.lookup key :=
  database.get_view_committed (k := .alert key) h

theorem open_view_locked {k : PullRequestKey} (h : .openPullRequest k ∈ ses.locked) :
    (database.view committed ses).openPullRequests.lookup k
      = ses.version.openPullRequests.lookup k :=
  database.get_view_locked (k := .openPullRequest k) h

theorem open_view_committed {k : PullRequestKey} (h : .openPullRequest k ∉ ses.locked) :
    (database.view committed ses).openPullRequests.lookup k
      = committed.openPullRequests.lookup k :=
  database.get_view_committed (k := .openPullRequest k) h

end View

/-! ## Begin, commit and abort -/

theorem mem_transaction {c : Call} {stmt : Statement} (h : stmt ∈ transaction c) :
    (∀ key a, stmt ≠ .insertAlert key a)
    ∧ ∀ staleCutoff createdAt, stmt = .selectStale staleCutoff createdAt →
        transaction c = [.selectStale staleCutoff createdAt] := by
  cases c with
  | applyPullRequest p =>
      cases List.mem_singleton.mp h
      exact ⟨fun _ _ heq => Statement.noConfusion heq, fun _ _ heq => Statement.noConfusion heq⟩
  | applyReview r =>
      rw [transaction, List.mem_cons] at h
      rcases h with rfl | hreview
      · exact ⟨fun _ _ heq => Statement.noConfusion heq, fun _ _ heq => Statement.noConfusion heq⟩
      · split at hreview
        · cases hreview
        · cases List.mem_singleton.mp hreview
          exact ⟨fun _ _ heq => Statement.noConfusion heq,
            fun _ _ heq => Statement.noConfusion heq⟩
  | createStaleAlerts staleCutoff createdAt =>
      cases List.mem_singleton.mp h
      refine ⟨fun _ _ heq => Statement.noConfusion heq, fun _ _ heq => ?_⟩
      cases heq
      rfl

theorem PendingOpen.begin {s : MonitorState ι} (h : PendingOpen s) {t : ι} {c : Call}
    (hidle : s.sessions.lookup t = none) :
    PendingOpen (ι := ι)
      { s with sessions := s.sessions.insert t ⟨transaction c, s.committed, []⟩ } := by
  refine ⟨database.exclusive_step h.exclusive (.begin hidle), h.alert_key, h.pending_open,
    fun t' ses hses => ?_⟩
  rcases lookup_insert_cases hses with ⟨-, rfl⟩ | ⟨-, hold⟩
  · refine ⟨fun key a hmem => ?_, fun key hlocked => ?_, fun k hlocked => ?_,
      fun staleCutoff createdAt hmem => ?_⟩
    · exact absurd rfl ((mem_transaction hmem).1 key a)
    · cases hlocked
    · cases hlocked
    · exact ⟨(mem_transaction hmem).2 staleCutoff createdAt rfl, rfl⟩
  · refine (h.fits t' ses hold).mono rfl fun k _ hselected => Or.inl ?_
    -- the new session has selected nothing yet
    obtain ⟨t₁, ses₁, hses₁, hsel⟩ := hselected
    rcases lookup_insert_cases hses₁ with ⟨-, rfl⟩ | ⟨-, hold₁⟩
    · rcases selects_iff.mp hsel with ⟨a, hmem⟩ | hlocked
      · exact absurd rfl ((mem_transaction hmem).1 _ a)
      · cases hlocked
    · exact ⟨t₁, ses₁, hold₁, hsel⟩

theorem selected_of_erase {s : MonitorState ι} {committed : Serving} {t : ι} {key : String}
    (h : Selected (⟨committed, s.sessions.erase t⟩ : MonitorState ι) key) : Selected s key := by
  obtain ⟨t', ses, hses, hsel⟩ := h
  exact ⟨t', ses, (lookup_erase_cases hses).2, hsel⟩

theorem PendingOpen.abort {s : MonitorState ι} (h : PendingOpen s) {t : ι} {ses : MonitorSession}
    (hactive : s.sessions.lookup t = some ses) :
    PendingOpen (ι := ι) { s with sessions := s.sessions.erase t } := by
  refine ⟨database.exclusive_step h.exclusive (.abort hactive), h.alert_key, h.pending_open,
    fun t' ses' hses => ?_⟩
  exact (h.fits t' ses' (lookup_erase_cases hses).2).mono rfl
    fun k _ hselected => Or.inl (selected_of_erase hselected)

/-- A commit deletes the open row of `k` only where no session has its alert selected and its
alert is not pending afterwards. -/
theorem open_view_of_finished {s : MonitorState ι} (h : PendingOpen s) {t : ι}
    {ses : MonitorSession} (hactive : s.sessions.lookup t = some ses) (hfinished : ses.program = [])
    {k : PullRequestKey} (hrow : ∃ row, s.committed.openPullRequests.lookup k = some row)
    (hlive : (s.committed.alertOutbox.lookup (alertKey k) = none ∧ Selected s (alertKey k)
        ∧ ∀ a, .alert (alertKey k) ∈ ses.locked →
          ses.version.alertOutbox.lookup (alertKey k) = some a → a.status = .pending)
      ∨ (.alert (alertKey k) ∉ ses.locked
        ∧ ∃ a, s.committed.alertOutbox.lookup (alertKey k) = some a ∧ a.status = .pending)) :
    ∃ row, (database.view s.committed ses).openPullRequests.lookup k = some row := by
  by_cases hlocked : .openPullRequest k ∈ ses.locked
  -- the session has closed it, and then the close is settled, or has written a row for it
  · rw [open_view_locked hlocked]
    cases hversion : ses.version.openPullRequests.lookup k with
    | some row => exact ⟨row, rfl⟩
    | none =>
        exfalso
        rcases (h.fits t ses hactive).closed k hlocked hversion with ⟨p, -, hcancel⟩ | hsettled
        · rw [hfinished] at hcancel
          cases hcancel
        · rcases hlive with ⟨hfree, hselected, hpending⟩ | ⟨hnot, a, ha, hpending⟩
          · rcases hsettled with ⟨halert, a, ha, hdone⟩ | ⟨-, hnone⟩
            · exact hdone (hpending a halert ha)
            · exact hnone hfree hselected
          · rcases hsettled with ⟨halert, -⟩ | ⟨hdone, -⟩
            · exact hnot halert
            · exact hdone a ha hpending
  · rw [open_view_committed hlocked]
    exact hrow

theorem selected_of_locked {s : MonitorState ι} {t : ι} {ses : MonitorSession}
    (hactive : s.sessions.lookup t = some ses) {key : String} (hlocked : .alert key ∈ ses.locked) :
    Selected s key :=
  ⟨t, ses, hactive, selects_iff.mpr (Or.inr hlocked)⟩

/-- A key without an alert after the commit had none before, and the session has not locked it. -/
theorem free_of_view {s : MonitorState ι} (h : PendingOpen s) {t : ι} {ses : MonitorSession}
    (hactive : s.sessions.lookup t = some ses) {key : String}
    (hnone : (database.view s.committed ses).alertOutbox.lookup key = none) :
    .alert key ∉ ses.locked ∧ s.committed.alertOutbox.lookup key = none := by
  have hnot : .alert key ∉ ses.locked := by
    intro hlocked
    obtain ⟨a, ha, -⟩ := (h.fits t ses hactive).written key hlocked
    rw [alert_view_locked hlocked, ha] at hnone
    cases hnone
  exact ⟨hnot, by rw [← alert_view_committed hnot]; exact hnone⟩

/-- A session that goes on keeps its part when another one commits. -/
theorem Fits.commit {s : MonitorState ι} (h : PendingOpen s) {t t' : ι}
    {ses other : MonitorSession} (hactive : s.sessions.lookup t = some ses)
    (hfinished : ses.program = []) (hne : t' ≠ t) (hother : s.sessions.lookup t' = some other) :
    Fits (⟨database.view s.committed ses, s.sessions.erase t⟩ : MonitorState ι) other := by
  have hold := h.fits t' other hother
  refine ⟨fun key a hmem => ?_, fun key hlocked => ?_, fun k hlocked hnone => ?_, hold.sweeping⟩
  · obtain ⟨hkey, hrow⟩ := hold.selected key a hmem
    refine ⟨hkey, fun hnone => ?_⟩
    obtain ⟨hnot, hfree⟩ := free_of_view h hactive hnone
    have hselected : Selected s key := ⟨t', other, hother, selects_iff.mpr (Or.inl ⟨a, hmem⟩)⟩
    subst hkey
    exact open_view_of_finished h hactive hfinished (hrow hfree)
      (Or.inl ⟨hfree, hselected, fun _ hlocked _ => absurd hlocked hnot⟩)
  · obtain ⟨a, ha, hkey, hlive⟩ := hold.written key hlocked
    refine ⟨a, ha, hkey, fun hpending => ?_⟩
    obtain ⟨hfree, hrow⟩ := hlive hpending
    -- the lock is the other session's, so the commit has not written this alert
    have hnot : .alert key ∉ ses.locked :=
      h.exclusive t' t other ses _ hne hother hactive hlocked
    refine ⟨by rw [alert_view_committed hnot]; exact hfree, ?_⟩
    subst hkey
    exact open_view_of_finished h hactive hfinished hrow
      (Or.inl ⟨hfree, selected_of_locked hother hlocked, fun _ hmem _ => absurd hmem hnot⟩)
  · rcases hold.closed k hlocked hnone with hcancel | hwritten | ⟨hdone, hnot⟩
    · exact Or.inl hcancel
    · exact Or.inr (Or.inl hwritten)
    · refine Or.inr (Or.inr ⟨fun a ha hpending => ?_, fun hfree hselected => ?_⟩)
      · by_cases hmine : .alert (alertKey k) ∈ ses.locked
        · obtain ⟨a', ha', -, hlive⟩ := (h.fits t ses hactive).written _ hmine
          rw [alert_view_locked hmine, ha'] at ha
          cases ha
          exact hnot (hlive hpending).1 (selected_of_locked hactive hmine)
        · rw [alert_view_committed hmine] at ha
          exact hdone a ha hpending
      · exact hnot (free_of_view h hactive hfree).2 (selected_of_erase hselected)

theorem PendingOpen.commit {s : MonitorState ι} (h : PendingOpen s) {t : ι}
    {ses : MonitorSession} (hactive : s.sessions.lookup t = some ses)
    (hfinished : ses.program = []) :
    PendingOpen (⟨database.view s.committed ses, s.sessions.erase t⟩ : MonitorState ι) := by
  have hfits := h.fits t ses hactive
  refine ⟨database.exclusive_step h.exclusive (.commit hactive hfinished), fun key a ha => ?_,
    fun key a ha hpending => ?_, fun t' other hother => ?_⟩
  · by_cases hlocked : .alert key ∈ ses.locked
    · obtain ⟨a', ha', hkey, -⟩ := hfits.written key hlocked
      rw [alert_view_locked hlocked, ha'] at ha
      cases ha
      exact hkey
    · rw [alert_view_committed hlocked] at ha
      exact h.alert_key key a ha
  · by_cases hlocked : .alert key ∈ ses.locked
    -- an alert the session has written: its pull request was open when the sweep read it
    · obtain ⟨a', ha', hkey, hlive⟩ := hfits.written key hlocked
      rw [alert_view_locked hlocked, ha'] at ha
      cases ha
      obtain ⟨hfree, hrow⟩ := hlive hpending
      subst hkey
      refine open_view_of_finished h hactive hfinished hrow
        (Or.inl ⟨hfree, selected_of_locked hactive hlocked, fun b _ hb => ?_⟩)
      rw [ha'] at hb
      cases hb
      exact hpending
    -- an alert that was committed before
    · rw [alert_view_committed hlocked] at ha
      have hkey := h.alert_key key a ha
      subst hkey
      exact open_view_of_finished h hactive hfinished (h.pending_open _ a ha hpending)
        (Or.inr ⟨hlocked, a, ha, hpending⟩)
  · obtain ⟨hne, hother⟩ := lookup_erase_cases hother
    exact Fits.commit h hactive hfinished hne hother

/-! ## A statement -/

section Statement

variable {s : MonitorState ι} {t : ι} {ses : MonitorSession} {stmt : Statement}
  {rest follow : List Statement} {version : Serving}

/-- A cancel that keeps apart finds its alert committed or selected by no session. -/
theorem not_selected_of_apart {p : PullRequestSnapshot}
    (hactive : s.sessions.lookup t = some ses)
    (hnext : ses.program = .cancelPendingAlert p :: rest)
    (hguard : apart s (.statement t) = true)
    (hfree : s.committed.alertOutbox.lookup (alertKey p.key) = none) :
    ¬ Selected s (alertKey p.key) := by
  rintro ⟨t', other, hother, hsel⟩
  simp only [apart, hactive, Option.map_some, hnext, hfree, Option.isSome_none, Bool.false_or,
    List.all_eq_true] at hguard
  have hnot := hguard (t', other) (Table.mem_rows.mpr hother)
  simp [hsel] at hnot

/-- A sweep that keeps apart selects no pull request whose close is about to commit. -/
theorem not_hasClosed_of_apart {staleCutoff createdAt : Timestamp} {k : PullRequestKey}
    {row : OpenPullRequest} (hactive : s.sessions.lookup t = some ses)
    (hnext : ses.program = .selectStale staleCutoff createdAt :: rest)
    (hguard : apart s (.statement t) = true)
    (hrow : s.committed.openPullRequests.lookup k = some row)
    (hstale : row.isStale staleCutoff = true)
    (hfree : s.committed.alertOutbox.lookup (alertKey k) = none) {t' : ι}
    {other : MonitorSession} (hother : s.sessions.lookup t' = some other) :
    hasClosed other k = false := by
  simp only [apart, hactive, Option.map_some, hnext, List.all_eq_true] at hguard
  have hrows := hguard (k, row) (Table.mem_rows.mpr hrow)
  simp only [hstale, hfree, Bool.not_true, Option.isSome_none, Bool.false_or,
    List.all_eq_true] at hrows
  simpa using hrows (t', other) (Table.mem_rows.mpr hother)

/-- An alert newly selected under a free key is one a sweep has just read. -/
theorem selected_of_statement (h : PendingOpen s) (hactive : s.sessions.lookup t = some ses)
    (hnext : ses.program = stmt :: rest)
    (hexec : stmt.exec (database.view s.committed ses) = .ok (version, follow)) {key : String}
    (hfree : s.committed.alertOutbox.lookup key = none)
    (hselected : Selected (ι := ι) { s with
      sessions := s.sessions.insert t ⟨follow ++ rest, version,
        stmt.locks (database.view s.committed ses) ++ ses.locked⟩ } key) :
    Selected s key ∨ ∃ staleCutoff createdAt k row, stmt = .selectStale staleCutoff createdAt
      ∧ key = alertKey k ∧ s.committed.openPullRequests.lookup k = some row
      ∧ row.isStale staleCutoff = true := by
  have hfits := h.fits t ses hactive
  obtain ⟨t', other, hother, hsel⟩ := hselected
  rcases lookup_insert_cases hother with ⟨-, rfl⟩ | ⟨-, hold⟩
  · rcases selects_iff.mp hsel with ⟨a, hmem⟩ | hlocked
    · rcases List.mem_append.mp hmem with hfollow | hrest
      · obtain ⟨staleCutoff, createdAt, k, row, rfl, hkey, -, hrow, hstale⟩ :=
          (mem_follow hexec hfollow).2 key a rfl
        have hunlocked : ses.locked = [] :=
          (hfits.sweeping staleCutoff createdAt (hnext ▸ List.mem_cons_self)).2
        rw [open_view_committed (by rw [hunlocked]; exact List.not_mem_nil)] at hrow
        exact Or.inr ⟨staleCutoff, createdAt, k, row, rfl, hkey, hrow, hstale⟩
      · exact Or.inl ⟨t, ses, hactive,
          selects_iff.mpr (Or.inl ⟨a, hnext ▸ List.mem_cons_of_mem _ hrest⟩)⟩
    · left
      rcases List.mem_append.mp hlocked with hnew | hold
      · rcases alert_mem_locks hexec hnew with ⟨a, rfl, -, -⟩ | ⟨p, a, a', rfl, -, hfound, -⟩
        · exact ⟨t, ses, hactive, selects_iff.mpr (Or.inl ⟨a, hnext ▸ List.mem_cons_self⟩)⟩
        · -- the cancel found an alert that is not committed, so it is the session's own
          by_cases hmine : .alert key ∈ ses.locked
          · exact ⟨t, ses, hactive, selects_iff.mpr (Or.inr hmine)⟩
          · rw [alert_view_committed hmine, hfree] at hfound
            cases hfound
      · exact ⟨t, ses, hactive, selects_iff.mpr (Or.inr hold)⟩
  · exact Or.inl ⟨t', other, hold, hsel⟩

/-- What a statement leaves under a key the session had locked. -/
theorem written_of_exec (h : PendingOpen s) (hactive : s.sessions.lookup t = some ses)
    (hexec : stmt.exec (database.view s.committed ses) = .ok (version, follow)) {key : String}
    (hlocked : .alert key ∈ ses.locked) :
    ∃ a a', ses.version.alertOutbox.lookup key = some a ∧ version.alertOutbox.lookup key = some a'
      ∧ a'.key = a.key ∧ (a'.status = .pending → a.status = .pending) := by
  obtain ⟨a, ha, -⟩ := (h.fits t ses hactive).written key hlocked
  obtain ⟨a', ha', hkey, hpending⟩ :=
    alertOutbox_exec hexec (by rw [alert_view_locked hlocked]; exact ha)
  exact ⟨a, a', ha, ha', hkey, hpending⟩

/-- The cancel settles the close it belongs to. -/
theorem settled_of_cancel {s' : MonitorState ι} {p : PullRequestSnapshot} (h : PendingOpen s)
    (hactive : s.sessions.lookup t = some ses)
    (hnext : ses.program = .cancelPendingAlert p :: rest)
    (hguard : apart s (.statement t) = true)
    (hexec : (Statement.cancelPendingAlert p).exec (database.view s.committed ses)
      = .ok (version, follow))
    (hc : s'.committed = s.committed)
    (hsel : s.committed.alertOutbox.lookup (alertKey p.key) = none →
      Selected s' (alertKey p.key) → Selected s (alertKey p.key)) {program : List Statement} :
    Settled s' ⟨program, version, (Statement.cancelPendingAlert p).locks
      (database.view s.committed ses) ++ ses.locked⟩ p.key := by
  by_cases hmine : .alert (alertKey p.key) ∈ ses.locked
  · left
    refine ⟨List.mem_append_right _ hmine, ?_⟩
    obtain ⟨a, ha, -⟩ := (h.fits t ses hactive).written _ hmine
    have hfound : (database.view s.committed ses).alertOutbox.lookup (alertKey p.key) = some a := by
      rw [alert_view_locked hmine]
      exact ha
    cases hexec
    rw [cancelPendingAlert, Table.lookup_updateRow, hfound]
    refine ⟨_, rfl, ?_⟩
    by_cases hpending : a.status = .pending
    · simp [hpending]
    · simp [hpending]
  · have hview : (database.view s.committed ses).alertOutbox.lookup (alertKey p.key)
        = s.committed.alertOutbox.lookup (alertKey p.key) := alert_view_committed hmine
    cases hfound : s.committed.alertOutbox.lookup (alertKey p.key) with
    | none =>
        right
        rw [hc, hfound]
        refine ⟨fun a ha => Option.noConfusion rfl (heq_of_eq ha), fun _ hselected => ?_⟩
        exact not_selected_of_apart hactive hnext hguard hfound (hsel hfound hselected)
    | some a =>
        by_cases hpending : a.status = .pending
        · left
          have hlock : RowId.alert (alertKey p.key) ∈ (Statement.cancelPendingAlert p).locks
              (database.view s.committed ses) := by
            simp [Statement.locks, hview, hfound, hpending]
          refine ⟨List.mem_append_left _ hlock, ?_⟩
          rcases alert_mem_locks hexec hlock with ⟨_, heq, -⟩ | ⟨_, _, a', -, -, -, ha', -, hdone⟩
          · exact Statement.noConfusion heq
          · exact ⟨a', ha', by rw [hdone]; exact AlertStatus.noConfusion⟩
        · right
          rw [hc, hfound]
          refine ⟨fun a' ha' => ?_, fun hnone => ?_⟩
          · cases ha'
            exact hpending
          · cases hnone

/-- The session's inserts are of alerts a sweep selected from committed open rows. -/
theorem selected_of_exec (h : PendingOpen s) (hactive : s.sessions.lookup t = some ses)
    (hnext : ses.program = stmt :: rest)
    (hexec : stmt.exec (database.view s.committed ses) = .ok (version, follow)) {key : String}
    {a : Alert} (hmem : .insertAlert key a ∈ follow ++ rest) :
    key = alertKey a.key ∧ (s.committed.alertOutbox.lookup key = none →
      ∃ row, s.committed.openPullRequests.lookup a.key = some row) := by
  have hfits := h.fits t ses hactive
  rcases List.mem_append.mp hmem with hfollow | hrest
  · obtain ⟨staleCutoff, createdAt, k, row, rfl, hkey, hak, hrow, -⟩ :=
      (mem_follow hexec hfollow).2 key a rfl
    -- a sweep starts without locks, so it has read the committed rows
    have hempty : ses.locked = [] :=
      (hfits.sweeping staleCutoff createdAt (hnext ▸ List.mem_cons_self)).2
    rw [open_view_committed (by rw [hempty]; exact List.not_mem_nil)] at hrow
    exact ⟨by rw [hak]; exact hkey, fun _ => ⟨row, by rw [hak]; exact hrow⟩⟩
  · exact hfits.selected key a (hnext ▸ List.mem_cons_of_mem _ hrest)

/-- A pending alert the session has written, now or before, is not committed yet. -/
theorem written_of_locks (h : PendingOpen s) (hactive : s.sessions.lookup t = some ses)
    (hnext : ses.program = stmt :: rest)
    (hexec : stmt.exec (database.view s.committed ses) = .ok (version, follow)) {key : String}
    (hlocked : .alert key ∈ stmt.locks (database.view s.committed ses) ++ ses.locked) :
    ∃ a, version.alertOutbox.lookup key = some a ∧ key = alertKey a.key
      ∧ (a.status = .pending → s.committed.alertOutbox.lookup key = none
        ∧ ∃ row, s.committed.openPullRequests.lookup a.key = some row) := by
  have hfits := h.fits t ses hactive
  by_cases hmine : .alert key ∈ ses.locked
  · obtain ⟨a, a', ha, ha', hkey, hpending⟩ := written_of_exec h hactive hexec hmine
    obtain ⟨b, hb, hbkey, hlive⟩ := hfits.written key hmine
    rw [ha] at hb
    cases hb
    exact ⟨a', ha', by rw [hkey]; exact hbkey,
      fun hp => by rw [hkey]; exact hlive (hpending hp)⟩
  · have hnew := (List.mem_append.mp hlocked).resolve_right hmine
    rcases alert_mem_locks hexec hnew with ⟨a, rfl, hfree, ha⟩
        | ⟨p, a, a', rfl, -, hfound, ha', hkey, hdone⟩
    -- the insert of a selected alert
    · rw [alert_view_committed hmine] at hfree
      obtain ⟨hak, hrow⟩ := hfits.selected key a (hnext ▸ List.mem_cons_self)
      exact ⟨a, ha, hak, fun _ => ⟨hfree, hrow hfree⟩⟩
    -- the cancel of a committed one
    · rw [alert_view_committed hmine] at hfound
      refine ⟨a', ha', by rw [hkey]; exact h.alert_key key a hfound, fun hpending => ?_⟩
      rw [hdone] at hpending
      exact AlertStatus.noConfusion hpending

/-- A close that is settled stays so: a session that holds a lock runs no sweep. -/
theorem Settled.statement {s' : MonitorState ι} {k : PullRequestKey} (hsettled : Settled s ses k)
    (h : PendingOpen s) (hactive : s.sessions.lookup t = some ses)
    (hnext : ses.program = stmt :: rest)
    (hexec : stmt.exec (database.view s.committed ses) = .ok (version, follow))
    (hmine : .openPullRequest k ∈ ses.locked) (hc : s'.committed = s.committed)
    (hsel : s.committed.alertOutbox.lookup (alertKey k) = none → Selected s' (alertKey k) →
      Selected s (alertKey k) ∨ ∃ staleCutoff createdAt, stmt = .selectStale staleCutoff createdAt)
    {program : List Statement} :
    Settled s' ⟨program, version, stmt.locks (database.view s.committed ses) ++ ses.locked⟩ k := by
  rcases hsettled with ⟨halert, a, ha, hdone⟩ | ⟨hdone, hnotSelected⟩
  · left
    obtain ⟨b, a', hb, ha', -, hpending⟩ := written_of_exec h hactive hexec halert
    rw [ha] at hb
    cases hb
    exact ⟨List.mem_append_right _ halert, a', ha', fun hp => hdone (hpending hp)⟩
  · right
    rw [hc]
    refine ⟨hdone, fun hfree hselected => ?_⟩
    rcases hsel hfree hselected with hold | ⟨staleCutoff, createdAt, rfl⟩
    · exact hnotSelected hfree hold
    · have hempty : ses.locked = [] :=
        ((h.fits t ses hactive).sweeping staleCutoff createdAt (hnext ▸ List.mem_cons_self)).2
      rw [hempty] at hmine
      cases hmine

/-- The session whose close has deleted its row still has to cancel, or has settled the close. -/
theorem closed_of_exec {s' : MonitorState ι} (h : PendingOpen s)
    (hactive : s.sessions.lookup t = some ses) (hnext : ses.program = stmt :: rest)
    (hexec : stmt.exec (database.view s.committed ses) = .ok (version, follow))
    (hguard : apart s (.statement t) = true) (hc : s'.committed = s.committed)
    {k : PullRequestKey}
    (hsel : s.committed.alertOutbox.lookup (alertKey k) = none → Selected s' (alertKey k) →
      Selected s (alertKey k) ∨ ∃ staleCutoff createdAt, stmt = .selectStale staleCutoff createdAt)
    (hlocked : .openPullRequest k ∈ stmt.locks (database.view s.committed ses) ++ ses.locked)
    (hnone : version.openPullRequests.lookup k = none) :
    (∃ p, p.key = k ∧ .cancelPendingAlert p ∈ follow ++ rest)
    ∨ Settled s' ⟨follow ++ rest, version,
        stmt.locks (database.view s.committed ses) ++ ses.locked⟩ k := by
  rcases openPullRequests_exec hexec hnone with ⟨p, hkey, rfl⟩ | ⟨hbefore, hnot⟩
  -- the delete, whose cancel comes next
  · exact Or.inl ⟨p, hkey, List.mem_append_left _ List.mem_cons_self⟩
  · have hmine := (List.mem_append.mp hlocked).resolve_left hnot
    rw [open_view_locked hmine] at hbefore
    rcases (h.fits t ses hactive).closed k hmine hbefore with ⟨p, hkey, hcancel⟩ | hsettled
    · rw [hnext] at hcancel
      rcases List.mem_cons.mp hcancel with rfl | hrest
      · subst hkey
        right
        refine settled_of_cancel h hactive hnext hguard hexec hc fun hfree hselected => ?_
        rcases hsel hfree hselected with hold | ⟨_, _, heq⟩
        · exact hold
        · exact Statement.noConfusion heq
      · exact Or.inl ⟨p, hkey, List.mem_append_right _ hrest⟩
    · exact Or.inr (hsettled.statement h hactive hnext hexec hmine hc hsel)

/-- After a statement no sweep is left to run: a sweep is the only statement of its program. -/
theorem not_sweeping_of_exec (h : PendingOpen s) (hactive : s.sessions.lookup t = some ses)
    (hnext : ses.program = stmt :: rest)
    (hexec : stmt.exec (database.view s.committed ses) = .ok (version, follow))
    (staleCutoff createdAt : Timestamp) :
    .selectStale staleCutoff createdAt ∉ follow ++ rest := by
  intro hmem
  rcases List.mem_append.mp hmem with hfollow | hrest
  · exact absurd rfl ((mem_follow hexec hfollow).1 staleCutoff createdAt)
  · have hall := ((h.fits t ses hactive).sweeping staleCutoff createdAt
      (hnext ▸ List.mem_cons_of_mem _ hrest)).1
    rw [hnext, List.cons.injEq] at hall
    rw [hall.2] at hrest
    cases hrest

theorem PendingOpen.statement (h : PendingOpen s) (hactive : s.sessions.lookup t = some ses)
    (hnext : ses.program = stmt :: rest)
    (hunlocked : ∀ k ∈ stmt.locks (database.view s.committed ses), ∀ t' ses', t' ≠ t →
      s.sessions.lookup t' = some ses' → k ∉ ses'.locked)
    (hexec : stmt.exec (database.view s.committed ses) = .ok (version, follow))
    (hguard : apart s (.statement t) = true) :
    PendingOpen (ι := ι) { s with
      sessions := s.sessions.insert t ⟨follow ++ rest, version,
        stmt.locks (database.view s.committed ses) ++ ses.locked⟩ } := by
  refine ⟨database.exclusive_step h.exclusive (.statement hactive hnext hunlocked hexec),
    h.alert_key, h.pending_open, fun t' other hother => ?_⟩
  rcases lookup_insert_cases hother with ⟨-, rfl⟩ | ⟨-, hold⟩
  -- the session that acts
  · refine ⟨fun key a hmem => selected_of_exec h hactive hnext hexec hmem,
      fun key hlocked => written_of_locks h hactive hnext hexec hlocked,
      fun k hlocked hnone => ?_,
      fun staleCutoff createdAt hmem =>
        absurd hmem (not_sweeping_of_exec h hactive hnext hexec staleCutoff createdAt)⟩
    refine closed_of_exec h hactive hnext hexec hguard ?_ ?_ hlocked hnone
    · rfl
    · intro hfree hselected
      rcases selected_of_statement h hactive hnext hexec hfree hselected with
        hbefore | ⟨staleCutoff, createdAt, -, -, heq, -⟩
      · exact Or.inl hbefore
      · exact Or.inr ⟨staleCutoff, createdAt, heq⟩
  -- another session: a sweep selects nothing that it is about to close
  · refine (h.fits t' other hold).mono rfl fun k hfree hselected => ?_
    rcases selected_of_statement h hactive hnext hexec hfree hselected with
      hbefore | ⟨staleCutoff, createdAt, k', row, rfl, hkey, hrow, hstale⟩
    · exact Or.inl hbefore
    · right
      cases alertKey_injective hkey
      exact not_hasClosed_of_apart hactive hnext hguard hrow hstale hfree hold

end Statement

/-! ## Schedules -/

/-- The empty tables, and no transaction in progress. -/
def initial : MonitorState ι := ⟨.empty, ∅⟩

theorem pendingOpen_initial : PendingOpen (initial : MonitorState ι) := by
  refine ⟨fun t t' ses ses' k _ hses => ?_, fun key a ha => ?_, fun key a ha => ?_,
    fun t ses hses => ?_⟩
  · simp [initial] at hses
  · simp [initial, Serving.empty] at ha
  · simp [initial, Serving.empty] at ha
  · simp [initial] at hses

theorem PendingOpen.step {s s' : MonitorState ι} {a : Action ι Call} (h : PendingOpen s)
    (hguard : apart s a = true) (hstep : database.Stepped s a s') : PendingOpen s' := by
  cases hstep with
  | begin idle => exact h.begin idle
  | statement active next unlocked executed =>
      exact h.statement active next unlocked executed hguard
  | commit active finished => exact h.commit active finished
  | abort active => exact h.abort active

/-- **No pending alert survives a concurrent close** where sweeps and closes keep apart: in
every state of such a schedule every committed pending alert has its committed open row. -/
theorem pending_open_of_apart {schedule : List (Action ι Call)} {s : MonitorState ι}
    (hapart : database.Meets apart schedule initial = true)
    (hrun : database.run schedule initial = some s) {key : String} {a : Alert}
    (ha : s.committed.alertOutbox.lookup key = some a) (hpending : a.status = .pending) :
    ∃ row, s.committed.openPullRequests.lookup a.key = some row := by
  have hinv : PendingOpen s := database.run_induction
    (fun h hguard hstep => h.step hguard hstep) pendingOpen_initial hapart hrun
  exact hinv.pending_open key a ha hpending

/-- Another pull request of that repository. -/
def otherSnapshot : PullRequestSnapshot :=
  { openedSnapshot with pullRequestId := 30002, pullRequestNumber := 18
                        identities_pos := by decide }

/-- Session 0 opens a pull request, session 1 alerts it, and session 0 opens another one. Then a
second sweep has selected both when the first pull request is closed: the alert it would write is
committed already. -/
def closeAfterAlert : List (Action Nat Call) :=
  [ .begin 0 (.applyPullRequest openedSnapshot), .statement 0, .statement 0, .statement 0
  , .commit 0
  , .begin 1 (.createStaleAlerts openedSnapshot.openedAt openedSnapshot.openedAt)
  , .statement 1, .statement 1, .commit 1
  , .begin 0 (.applyPullRequest otherSnapshot), .statement 0, .statement 0, .statement 0
  , .commit 0
  , .begin 1 (.createStaleAlerts openedSnapshot.openedAt openedSnapshot.openedAt), .statement 1
  , .begin 0 (.applyPullRequest hourClose), .statement 0, .statement 0
  , .statement 1, .statement 0, .commit 0
  , .statement 1, .commit 1 ]

/-- The alert of the closed pull request is cancelled, and the pending one has its open row. -/
theorem pending_open_of_apart_closeAfterAlert :
    ∃ s closed a row, database.run closeAfterAlert initial = some s
      ∧ s.committed.alertOutbox.lookup (alertKey openedSnapshot.key) = some closed
      ∧ closed.status = .cancelled
      ∧ s.committed.alertOutbox.lookup (alertKey otherSnapshot.key) = some a
      ∧ a.status = .pending ∧ s.committed.openPullRequests.lookup a.key = some row := by
  obtain ⟨s, hs⟩ : ∃ s, database.run closeAfterAlert initial = some s := ⟨_, rfl⟩
  obtain ⟨closed, hclosed, hcancelled⟩ : ∃ a,
      s.committed.alertOutbox.lookup (alertKey openedSnapshot.key) = some a
        ∧ a.status = .cancelled := by
    cases hs
    exact ⟨_, rfl, rfl⟩
  obtain ⟨a, ha, hpending⟩ : ∃ a, s.committed.alertOutbox.lookup (alertKey otherSnapshot.key)
      = some a ∧ a.status = .pending := by
    cases hs
    exact ⟨_, rfl, rfl⟩
  obtain ⟨row, hrow⟩ := pending_open_of_apart (by decide +kernel) hs ha hpending
  exact ⟨s, closed, a, row, hs, hclosed, hcancelled, ha, hpending, hrow⟩

/-! ## A close between the two halves of a sweep -/

/-- Session 1 has selected the open pull request when session 0 closes it. -/
def closeUnderSweep : List (Action Nat Call) :=
  [ .begin 0 (.applyPullRequest openedSnapshot), .statement 0, .statement 0, .statement 0
  , .commit 0
  , .begin 1 (.createStaleAlerts openedSnapshot.openedAt openedSnapshot.openedAt), .statement 1
  , .begin 0 (.applyPullRequest hourClose), .statement 0, .statement 0, .statement 0
  , .commit 0
  , .statement 1, .commit 1 ]

/-- Both transactions commit, and the closed pull request is left with a pending alert. -/
theorem pending_alert_of_closed :
    ∃ s a, database.run closeUnderSweep initial = some s ∧ s.sessions = ∅
      ∧ s.committed.alertOutbox.lookup (alertKey openedSnapshot.key) = some a
      ∧ a.status = .pending ∧ s.committed.openPullRequests.lookup a.key = none := by
  obtain ⟨s, hs⟩ : ∃ s, database.run closeUnderSweep initial = some s := ⟨_, rfl⟩
  refine ⟨s, ?_⟩
  cases hs
  exact ⟨_, rfl, rfl, rfl, rfl, rfl⟩

end PrStorage
