import DeliveryIntelligence.Consumers.PrDelivery
import DeliveryIntelligence.Library.Runs

set_option autoImplicit false

/-!
# Which stale pull requests a sweep leaves without an alert

A sweep inserts one alert for each stale open row and skips the keys already present. The
alert of a closed pull request stays in the outbox as `cancelled`, under the key its next
alert would need, so the only stale rows without a live alert are the open rows `Silenced` by
such an alert. `silenced_effect` says which call brings one about; `sweeps_completely_iff`
follows it through a run.
-/

namespace PrStorage

open Postgres

/-! ## A complete sweep -/

/-- Every stale open row has an alert under its key that is not cancelled. -/
def Serving.AlertsStale (db : Serving) (staleCutoff : Timestamp) : Prop :=
  ∀ k row, db.openPullRequests.lookup k = some row → row.isStale staleCutoff = true →
    ∃ a, db.alertOutbox.lookup (alertKey k) = some a ∧ a.status ≠ .cancelled

/-- Whatever its cutoff, a sweep that commits leaves no stale row without a live alert. -/
def Serving.SweepsCompletely (db : Serving) : Prop :=
  ∀ staleCutoff createdAt n db', createStaleAlerts staleCutoff createdAt db = .ok (n, db') →
    db'.AlertsStale staleCutoff

def Serving.AlertCancelled (db : Serving) (k : PullRequestKey) : Prop :=
  ∃ a, db.alertOutbox.lookup (alertKey k) = some a ∧ a.status = .cancelled

/-- The row awaits its first review, but the alert under its key is cancelled. -/
def Serving.Silenced (db : Serving) (k : PullRequestKey) : Prop :=
  db.AlertCancelled k
  ∧ ∃ row, db.openPullRequests.lookup k = some row ∧ row.isDraft = false
      ∧ row.firstEligibleReviewAt = none

theorem isStale_iff {row : OpenPullRequest} {staleCutoff : Timestamp} :
    row.isStale staleCutoff = true
      ↔ row.openedAt ≤ staleCutoff ∧ row.firstEligibleReviewAt = none ∧ row.isDraft = false := by
  unfold OpenPullRequest.isStale
  simp [and_assoc]

/-- A sweep keeps the alerts there are and gives every other stale row a pending one. -/
theorem alertsStale_sweep {db : Serving} {staleCutoff createdAt : Timestamp}
    (h : ∀ k, ¬ db.Silenced k) : (db.sweep staleCutoff createdAt).AlertsStale staleCutoff := by
  intro k row hrow hstale
  obtain ⟨-, hreview, hdraft⟩ := isStale_iff.mp hstale
  have hopen : db.openPullRequests.lookup k = some row := hrow
  rw [Serving.sweep, Table.lookup_insertMissing]
  cases hold : db.alertOutbox.lookup (alertKey k) with
  | some a =>
      exact ⟨a, rfl, fun hc => h k ⟨⟨a, hold, hc⟩, row, hopen, hdraft, hreview⟩⟩
  | none =>
      have hselected : (alertKey k, staleAlert staleCutoff createdAt k row)
          ∈ selectStale staleCutoff createdAt db :=
        List.mem_map.mpr ⟨(k, row),
          List.mem_filter.mpr ⟨Table.mem_rows.mpr hopen, hstale⟩, rfl⟩
      obtain ⟨a, ha⟩ := Table.firstRow_isSome_of_mem hselected
      refine ⟨a, by rw [Option.none_or]; exact ha, ?_⟩
      obtain ⟨⟨k', row'⟩, -, heq⟩ := List.mem_map.mp (Table.firstRow_mem ha)
      have hpending : a = staleAlert staleCutoff createdAt k' row' :=
        (congrArg Prod.snd heq).symm
      rw [hpending]
      exact AlertStatus.noConfusion

/-- Open rows carry the positive identities of the snapshots they were projected from. -/
def Serving.Identified (db : Serving) : Prop :=
  ∀ k row, db.openPullRequests.lookup k = some row →
    0 < k.repositoryId ∧ 0 < k.pullRequestId ∧ 0 < row.pullRequestNumber

/-- No row of an identified projection breaks a constraint of the outbox. -/
theorem createStaleAlerts_commits {db : Serving} (h : db.Identified)
    (staleCutoff createdAt : Timestamp) :
    ∃ n, createStaleAlerts staleCutoff createdAt db = .ok (n, db.sweep staleCutoff createdAt) := by
  -- a key is never empty, and the identities come from the selected row
  have hforM : (selectStale staleCutoff createdAt db).forM (enforce alertConstraints) = .ok () := by
    refine forM_of_all_ok fun entry hentry => enforce_of_holds fun c hc => ?_
    obtain ⟨⟨k, row⟩, hmem, rfl⟩ := List.mem_map.mp hentry
    obtain ⟨hrepository, hpullRequest, hnumber⟩ :=
      h k row (Table.mem_rows.mp (List.mem_filter.mp hmem).1)
    simp only [alertConstraints, List.mem_cons, List.not_mem_nil, or_false] at hc
    rcases hc with rfl | rfl | rfl | rfl
    · show nonempty (alertKey k) = true
      rw [nonempty, alertKey_toList, List.any_append]
      rfl
    · exact decide_eq_true hrepository
    · exact decide_eq_true hpullRequest
    · exact decide_eq_true hnumber
  simp only [createStaleAlerts, hforM]
  exact ⟨_, rfl⟩

theorem sweepsCompletely_iff {db : Serving} (h : db.Identified) :
    db.SweepsCompletely ↔ ∀ k, ¬ db.Silenced k := by
  constructor
  · rintro hcomplete k ⟨⟨a, ha, hcancelled⟩, row, hrow, hdraft, hreview⟩
    obtain ⟨n, hn⟩ := createStaleAlerts_commits h row.openedAt row.openedAt
    have hstale : row.isStale row.openedAt = true := isStale_iff.mpr ⟨le_refl _, hreview, hdraft⟩
    obtain ⟨b, hb, hlive⟩ := hcomplete _ _ n _ hn k row hrow hstale
    rw [Serving.sweep, Table.lookup_insertMissing, ha, Option.some_or] at hb
    cases hb
    exact hlive hcancelled
  · intro hnone staleCutoff createdAt n db' hn
    rw [createStaleAlerts_ok hn]
    exact alertsStale_sweep hnone

/-! ## Open rows keep their positive identities -/

theorem snapshotRow_pullRequestNumber (p : PullRequestSnapshot) (old : Option OpenPullRequest)
    (first : Option FirstReview) :
    (snapshotRow p old first).pullRequestNumber = p.pullRequestNumber :=
  (snapshotRow_carries p old first).2.2.2.2

theorem Serving.Identified.observe {db : Serving} (h : db.Identified) (p : PullRequestSnapshot) :
    (db.observe p).Identified := by
  intro k row hrow
  rcases openPullRequests_observe_cases hrow with ⟨rfl, -, rfl⟩ | ⟨-, hold⟩
  · obtain ⟨hrepository, hpullRequest, hnumber, -⟩ := p.identities_pos
    rw [snapshotRow_pullRequestNumber]
    exact ⟨hrepository, hpullRequest, hnumber⟩
  · exact h k row hold

theorem Serving.Identified.recordReview {db : Serving} (h : db.Identified) (r : SubmittedReview) :
    (db.recordReview r).Identified := by
  intro k row hrow
  rw [openPullRequests_recordReview] at hrow
  obtain ⟨old, hold, heq⟩ := Option.map_eq_some_iff.mp hrow
  have hnumber : row.pullRequestNumber = old.pullRequestNumber := by
    rw [← heq]
    split
    · rfl
    · rfl
  rw [hnumber]
  exact h k old hold

theorem Serving.Identified.effect {db : Serving} (h : db.Identified) (c : Call) :
    (c.effect db).Identified := by
  cases c with
  | applyPullRequest p => exact h.observe p
  | applyReview r => exact (h.observe r.pullRequest).recordReview r
  | createStaleAlerts staleCutoff createdAt => exact h

theorem identified_runAll (ts : List Transaction) : (runAll ts .empty).Identified :=
  runAll_induction (fun c _ h => h.effect c) ts fun k row hrow => by simp [Serving.empty] at hrow

/-! ## Which calls end the wait for a first review -/

/-- The open row is ready for review and has no first eligible review. -/
def Serving.AwaitsReview (db : Serving) (k : PullRequestKey) : Prop :=
  ∃ row, db.openPullRequests.lookup k = some row ∧ row.isDraft = false
    ∧ row.firstEligibleReviewAt = none

/-- A row that awaits its review has no recorded first review. -/
theorem firstReview_of_awaits {db : Serving} (hc : Coherent db) {k : PullRequestKey}
    (h : db.AwaitsReview k) : db.firstReviews.lookup k = none := by
  obtain ⟨row, hrow, -, hnone⟩ := h
  have hshows := (hc.review k row hrow).1
  rw [hnone] at hshows
  exact Option.map_eq_none_iff.mp hshows.symm

/-- After a newer snapshot its own pull request awaits a review exactly when it is open, ready
for review and without a first review. -/
theorem awaits_observe_key {db : Serving} (hc : Coherent db) {p : PullRequestSnapshot}
    (hnew : db.isNewer p = true) :
    (db.observe p).AwaitsReview p.key
      ↔ p.state = .open ∧ p.isDraft = false ∧ db.firstReviews.lookup p.key = none := by
  have hrow := openPullRequests_observe_key hnew
  cases hs : p.state with
  | closed =>
      constructor
      · rintro ⟨row, hopen, -⟩
        rw [hrow, hs] at hopen
        cases hopen
      · rintro ⟨hopen, -⟩
        exact PullRequestState.noConfusion hopen
  | «open» =>
      rw [hs] at hrow
      have hreview := (snapshotRow_showsReview p fun old hold => hc.review p.key old hold).1
      have hdraft := (snapshotRow_carries p (db.openPullRequests.lookup p.key)
        (db.firstReviews.lookup p.key)).2.1
      unfold Serving.AwaitsReview
      rw [hrow]
      constructor
      · rintro ⟨row, hrow, hready, hnone⟩
        cases hrow
        rw [hreview, Option.map_eq_none_iff] at hnone
        exact ⟨rfl, hdraft ▸ hready, hnone⟩
      · rintro ⟨-, hready, hnone⟩
        refine ⟨_, rfl, hdraft.trans hready, ?_⟩
        rw [hreview, hnone]
        rfl

/-- A snapshot of another pull request, or one that is not newer, changes nothing here. -/
theorem awaits_observe_ne {db : Serving} {p : PullRequestSnapshot} {k : PullRequestKey}
    (h : k = p.key → db.isNewer p = false) :
    (db.observe p).AwaitsReview k ↔ db.AwaitsReview k := by
  unfold Serving.AwaitsReview
  rw [openPullRequests_observe_ne h]

/-- An eligible review ends the wait of its pull request. -/
theorem awaits_recordReview {db : Serving} (hc : Coherent db) {r : SubmittedReview}
    {k : PullRequestKey} :
    (db.recordReview r).AwaitsReview k
      ↔ db.AwaitsReview k ∧ ¬ (k = r.key ∧ r.eligible = true) := by
  unfold Serving.AwaitsReview
  rw [openPullRequests_recordReview]
  constructor
  · rintro ⟨row, hrow, hready, hnone⟩
    obtain ⟨old, hold, heq⟩ := Option.map_eq_some_iff.mp hrow
    by_cases hrec : k = r.key ∧ r.eligible = true ∧ db.isEarlier r = true
    · rw [if_pos hrec] at heq
      rw [← heq] at hnone
      cases hnone
    · rw [if_neg hrec] at heq
      cases heq
      refine ⟨⟨_, hold, hready, hnone⟩, ?_⟩
      rintro ⟨hk, hel⟩
      -- without a recorded first review every review is earlier
      have hfirst : db.firstReviews.lookup r.key = none :=
        hk ▸ firstReview_of_awaits hc ⟨_, hold, hready, hnone⟩
      exact hrec ⟨hk, hel, by simp [Serving.isEarlier, hfirst]⟩
  · rintro ⟨⟨row, hrow, hready, hnone⟩, hother⟩
    refine ⟨row, ?_, hready, hnone⟩
    rw [hrow, Option.map_some, if_neg fun h => hother ⟨h.1, h.2.1⟩]

/-! ## Which calls silence a pull request -/

theorem silenced_sweep {db : Serving} {staleCutoff createdAt : Timestamp} {k : PullRequestKey} :
    (db.sweep staleCutoff createdAt).Silenced k ↔ db.Silenced k := by
  have hcancelled : (db.sweep staleCutoff createdAt).AlertCancelled k ↔ db.AlertCancelled k := by
    constructor
    · rintro ⟨a, ha, hc⟩
      rcases alertOutbox_sweep ha with hold | ⟨_, _, _, rfl, _, _⟩
      · exact ⟨a, hold, hc⟩
      · exact AlertStatus.noConfusion hc
    · rintro ⟨a, ha, hc⟩
      refine ⟨a, ?_, hc⟩
      rw [Serving.sweep, Table.lookup_insertMissing, ha, Option.some_or]
  exact and_congr hcancelled Iff.rfl

/-- Only a close changes an alert, and only that of its own pull request. -/
theorem alertOutbox_observe_ne {db : Serving} {p : PullRequestSnapshot} {k : PullRequestKey}
    (h : k = p.key → p.state = .open) :
    (db.observe p).alertOutbox.lookup (alertKey k) = db.alertOutbox.lookup (alertKey k) := by
  unfold Serving.observe
  split
  · unfold Serving.project
    cases hs : p.state with
    | «open» => rfl
    | closed =>
        have hne : alertKey k ≠ alertKey p.key := by
          intro hkey
          have hopen := h (alertKey_injective hkey)
          rw [hs] at hopen
          exact PullRequestState.noConfusion hopen
        exact Table.lookup_updateRow_ne _ _ hne
  · rfl

/-- A newer open snapshot leaves its own pull request silenced exactly when it is ready for
review, has no first review and its alert is cancelled. -/
theorem silenced_observe_key {db : Serving} (hc : Coherent db) {p : PullRequestSnapshot}
    (hnew : db.isNewer p = true) :
    (db.observe p).Silenced p.key
      ↔ p.state = .open ∧ p.isDraft = false ∧ db.firstReviews.lookup p.key = none
        ∧ db.AlertCancelled p.key := by
  have hawaits := awaits_observe_key hc hnew
  have halert : p.state = .open →
      ((db.observe p).AlertCancelled p.key ↔ db.AlertCancelled p.key) := by
    intro hopen
    unfold Serving.AlertCancelled
    rw [alertOutbox_observe_ne fun _ => hopen]
  constructor
  · rintro ⟨hcancelled, hwait⟩
    obtain ⟨hopen, hready, hnone⟩ := hawaits.mp hwait
    exact ⟨hopen, hready, hnone, (halert hopen).mp hcancelled⟩
  · rintro ⟨hopen, hready, hnone, hcancelled⟩
    exact ⟨(halert hopen).mpr hcancelled, hawaits.mpr ⟨hopen, hready, hnone⟩⟩

theorem silenced_observe_ne {db : Serving} {p : PullRequestSnapshot} {k : PullRequestKey}
    (h : k = p.key → db.isNewer p = false) :
    (db.observe p).Silenced k ↔ db.Silenced k := by
  by_cases hk : k = p.key
  · have hsame : db.observe p = db := by simp [Serving.observe, h hk]
    rw [hsame]
  · have hcancelled : (db.observe p).AlertCancelled k ↔ db.AlertCancelled k := by
      unfold Serving.AlertCancelled
      rw [alertOutbox_observe_ne fun heq => absurd heq hk]
    exact and_congr hcancelled (awaits_observe_ne h)

theorem silenced_recordReview {db : Serving} (hc : Coherent db) {r : SubmittedReview}
    {k : PullRequestKey} :
    (db.recordReview r).Silenced k ↔ db.Silenced k ∧ ¬ (k = r.key ∧ r.eligible = true) := by
  have hcancelled : (db.recordReview r).AlertCancelled k ↔ db.AlertCancelled k := by
    unfold Serving.AlertCancelled
    rw [alertOutbox_recordReview]
  rw [Serving.Silenced, Serving.Silenced, hcancelled, and_assoc]
  exact and_congr_right fun _ => awaits_recordReview hc

/-- The call shows a pull request ready for review that has a cancelled alert, no first
review, and gets none by this call. -/
def Call.silences (c : Call) (db : Serving) : Prop :=
  ∃ p, c.snapshot = some p ∧ db.isNewer p = true ∧ p.state = .open ∧ p.isDraft = false
    ∧ db.firstReviews.lookup p.key = none ∧ db.AlertCancelled p.key
    ∧ ∀ r, c = .applyReview r → r.eligible = false

theorem silenced_observe {db : Serving} (hc : Coherent db) (h : ∀ k, ¬ db.Silenced k)
    {p : PullRequestSnapshot} {k : PullRequestKey} :
    (db.observe p).Silenced k
      ↔ k = p.key ∧ db.isNewer p = true ∧ p.state = .open ∧ p.isDraft = false
        ∧ db.firstReviews.lookup p.key = none ∧ db.AlertCancelled p.key := by
  by_cases hk : k = p.key ∧ db.isNewer p = true
  · obtain ⟨rfl, hnew⟩ := hk
    rw [silenced_observe_key hc hnew]
    simp [hnew]
  · have hsame : (db.observe p).Silenced k ↔ db.Silenced k :=
      silenced_observe_ne fun heq => by simpa [heq] using hk
    rw [hsame]
    constructor
    · intro hsilenced
      exact absurd hsilenced (h k)
    · rintro ⟨heq, hnew, -⟩
      exact absurd ⟨heq, hnew⟩ hk

/-- From a state without silenced rows, exactly the silencing calls lead to one. -/
theorem silenced_effect {db : Serving} (hc : Coherent db) (h : ∀ k, ¬ db.Silenced k) (c : Call) :
    (∃ k, (c.effect db).Silenced k) ↔ c.silences db := by
  cases c with
  | applyPullRequest p =>
      show (∃ k, (db.observe p).Silenced k) ↔ _
      constructor
      · rintro ⟨k, hk⟩
        obtain ⟨-, hrest⟩ := (silenced_observe hc h).mp hk
        obtain ⟨hnew, hopen, hready, hnone, hcancelled⟩ := hrest
        exact ⟨p, rfl, hnew, hopen, hready, hnone, hcancelled, fun r hr => Call.noConfusion hr⟩
      · rintro ⟨q, hq, hnew, hopen, hready, hnone, hcancelled, -⟩
        cases hq
        exact ⟨p.key, (silenced_observe hc h).mpr ⟨rfl, hnew, hopen, hready, hnone, hcancelled⟩⟩
  | applyReview r =>
      show (∃ k, ((db.observe r.pullRequest).recordReview r).Silenced k) ↔ _
      constructor
      · rintro ⟨k, hk⟩
        obtain ⟨hobserved, hother⟩ := (silenced_recordReview (hc.observe r.pullRequest)).mp hk
        obtain ⟨hkey, hnew, hopen, hready, hnone, hcancelled⟩ :=
          (silenced_observe hc h).mp hobserved
        refine ⟨r.pullRequest, rfl, hnew, hopen, hready, hnone, hcancelled, fun r' hr' => ?_⟩
        cases hr'
        cases hel : r.eligible with
        | false => rfl
        | true => exact absurd ⟨hkey, hel⟩ hother
      · rintro ⟨q, hq, hnew, hopen, hready, hnone, hcancelled, hineligible⟩
        cases hq
        refine ⟨r.key, (silenced_recordReview (hc.observe r.pullRequest)).mpr ⟨?_, ?_⟩⟩
        · exact (silenced_observe hc h).mpr ⟨rfl, hnew, hopen, hready, hnone, hcancelled⟩
        · rintro ⟨-, hel⟩
          have hno := hineligible r rfl
          rw [hel] at hno
          exact Bool.noConfusion hno
  | createStaleAlerts staleCutoff createdAt =>
      constructor
      · rintro ⟨k, hk⟩
        exact absurd (silenced_sweep.mp hk) (h k)
      · rintro ⟨p, hp, -⟩
        cases hp

/-! ## Runs -/

/-- The transaction commits. -/
def Transaction.Commits (t : Transaction) (db : Serving) : Prop :=
  t.aborts = false ∧ ∃ db', t.call.exec db = .ok db'

/-- No transaction that commits silences a pull request. -/
def NeverSilences : List Transaction → Serving → Prop
  | [], _ => True
  | t :: ts, db => (t.Commits db → ¬ t.call.silences db) ∧ NeverSilences ts (t.run db)

theorem run_of_commits {t : Transaction} {db : Serving} (h : t.Commits db) :
    t.run db = t.call.effect db := by
  obtain ⟨haborts, db', hexec⟩ := h
  rw [Transaction.run, haborts]
  simp only [Bool.false_eq_true, if_false, hexec]
  exact exec_ok hexec

theorem run_of_not_commits {t : Transaction} {db : Serving} (h : ¬ t.Commits db) :
    t.run db = db := by
  unfold Transaction.run
  split
  · rfl
  · rename_i haborts
    split
    · rename_i db' hexec
      exact absurd ⟨by simpa using haborts, db', hexec⟩ h
    · rfl

theorem coherent_run {db : Serving} (h : Coherent db) (t : Transaction) : Coherent (t.run db) :=
  coherent_runAll [t] h

/-- What an effect keeps or breaks, a transaction keeps or breaks if it commits. -/
theorem run_iff_of_effect {P : Serving → Prop} {B : Call → Serving → Prop} {t : Transaction}
    {db : Serving} (h : P db) (hstep : P (t.call.effect db) ↔ ¬ B t.call db) :
    P (t.run db) ↔ ¬ (t.Commits db ∧ B t.call db) := by
  by_cases hcommits : t.Commits db
  · rw [run_of_commits hcommits, hstep]
    exact ⟨fun hgood hboth => hgood hboth.2, fun hnot hbad => hnot ⟨hcommits, hbad⟩⟩
  · rw [run_of_not_commits hcommits]
    exact ⟨fun _ hboth => hcommits hboth.1, fun _ => h⟩

theorem neverSilences_iff_never (ts : List Transaction) (db : Serving) :
    NeverSilences ts db
      ↔ Runs.Never (fun db t => t.run db) (fun t db => t.Commits db ∧ t.call.silences db) ts db := by
  induction ts generalizing db with
  | nil => exact Iff.rfl
  | cons t ts ih => exact and_congr not_and.symm (ih _)

/-- The states of a run stay free of silenced rows exactly as long as no step silences one. -/
theorem neverSilences_iff (ts : List Transaction) {db : Serving} (hc : Coherent db)
    (h : ∀ k, ¬ db.Silenced k) :
    NeverSilences ts db ↔ ∀ before, before <+: ts → ∀ k, ¬ (runAll before db).Silenced k := by
  rw [neverSilences_iff_never]
  refine Runs.never_iff (I := Coherent) (P := fun db => ∀ k, ¬ db.Silenced k)
    (fun db t hc => coherent_run hc t) (fun db t hc h => ?_) ts hc h
  refine run_iff_of_effect (P := fun db => ∀ k, ¬ db.Silenced k) (B := Call.silences) h ?_
  rw [← silenced_effect hc h, not_exists]

/-- **Stale-sweep completeness.** In every state of a run every sweep is complete if and only
if no step of the run shows a pull request ready for its first review while its alert is
cancelled. -/
theorem sweeps_completely_iff (ts : List Transaction) :
    (∀ before, before <+: ts → (runAll before .empty).SweepsCompletely)
      ↔ NeverSilences ts .empty := by
  have hstart : ∀ k, ¬ Serving.empty.Silenced k := by
    rintro k ⟨-, row, hrow, -⟩
    simp [Serving.empty] at hrow
  rw [neverSilences_iff ts coherent_empty hstart]
  exact forall_congr' fun before => imp_congr Iff.rfl
    (sweepsCompletely_iff (identified_runAll before))

/-! ## An alerted pull request that is closed and reopened -/

/-- The close of `openedSnapshot` an hour after its opening. -/
def hourClose : PullRequestSnapshot :=
  { openedSnapshot with
    deliveryId := "delivery-hour-close"
    state := .closed
    updatedAt := 1784984400000000
    texts_nonempty := by decide }

def hourReopen : PullRequestSnapshot :=
  { openedSnapshot with
    deliveryId := "delivery-hour-reopen"
    updatedAt := 1784984401000000
    texts_nonempty := by decide }

/-- Opened, alerted, closed and reopened a second after the close. -/
def alertedThenReopened : List Transaction :=
  [ ⟨.applyPullRequest openedSnapshot, false⟩
  , ⟨.createStaleAlerts openedSnapshot.openedAt openedSnapshot.openedAt, false⟩
  , ⟨.applyPullRequest hourClose, false⟩
  , ⟨.applyPullRequest hourReopen, false⟩ ]

/-- The next sweep inserts nothing, and the reopened pull request has only its old alert. -/
theorem reopened_without_alert :
    ¬ (runAll alertedThenReopened .empty).SweepsCompletely := by
  rw [sweepsCompletely_iff (identified_runAll _)]
  intro h
  have hcancelled : (runAll alertedThenReopened .empty).AlertCancelled openedSnapshot.key :=
    ⟨_, rfl, rfl⟩
  exact h openedSnapshot.key ⟨hcancelled, _, rfl, rfl, rfl⟩

end PrStorage
