import DeliveryIntelligence.Consumers.PrSweep

set_option autoImplicit false

/-!
# Which pending alerts are still justified

An alert is inserted for an open row that awaits its first review. Three events end the wait: a
close, a conversion to draft and a first eligible review. Only the close cancels the pending
alert; the other two leave it (`Call.strands`). `justified_effect` says that no other call does,
and `justified_iff` follows it through a run.
-/

namespace PrStorage

open Postgres

/-- Every pending alert belongs to an open row that is ready for review and has no first
eligible review. -/
def Serving.Justified (db : Serving) : Prop :=
  ∀ key a, db.alertOutbox.lookup key = some a → a.status = .pending → db.AwaitsReview a.key

def Serving.AlertPending (db : Serving) (k : PullRequestKey) : Prop :=
  ∃ a, db.alertOutbox.lookup (alertKey k) = some a ∧ a.status = .pending

/-- In a coherent state an alert stands under the key of its own pull request. -/
theorem justified_iff_awaits {db : Serving} (hc : Coherent db) :
    db.Justified ↔ ∀ k, db.AlertPending k → db.AwaitsReview k := by
  constructor
  · rintro hjustified k ⟨a, ha, hpending⟩
    have hk : a.key = k := (alertKey_injective (hc.alert_key _ a ha)).symm
    exact hk ▸ hjustified _ a ha hpending
  · intro hawaits key a ha hpending
    have hkey : key = alertKey a.key := hc.alert_key key a ha
    exact hawaits a.key ⟨a, hkey ▸ ha, hpending⟩

/-! ## Pending alerts after an effect -/

/-- A newer close cancels the pending alert of its pull request, and nothing else does. -/
theorem pending_observe {db : Serving} {p : PullRequestSnapshot} {k : PullRequestKey} :
    (db.observe p).AlertPending k
      ↔ db.AlertPending k ∧ ¬ (k = p.key ∧ db.isNewer p = true ∧ p.state = .closed) := by
  by_cases hclose : k = p.key ∧ db.isNewer p = true ∧ p.state = .closed
  · obtain ⟨rfl, hnew, hclosed⟩ := hclose
    refine ⟨?_, fun h => absurd ⟨rfl, hnew, hclosed⟩ h.2⟩
    rintro ⟨a, ha, hpending⟩
    obtain ⟨old, -, -, hstill⟩ := alertOutbox_observe ha
    exact absurd ⟨hnew, hclosed, rfl⟩ (hstill hpending).2
  · have hsame : (db.observe p).alertOutbox.lookup (alertKey k)
        = db.alertOutbox.lookup (alertKey k) := by
      by_cases hnew : db.isNewer p = true
      · refine alertOutbox_observe_ne fun hk => ?_
        cases hs : p.state with
        | «open» => rfl
        | closed => exact absurd ⟨hk, hnew, hs⟩ hclose
      · simp [Serving.observe, hnew]
    unfold Serving.AlertPending
    rw [hsame]
    exact ⟨fun h => ⟨h, hclose⟩, And.left⟩

theorem pending_recordReview {db : Serving} {r : SubmittedReview} {k : PullRequestKey} :
    (db.recordReview r).AlertPending k ↔ db.AlertPending k := by
  unfold Serving.AlertPending
  rw [alertOutbox_recordReview]

/-- A sweep inserts alerts for stale rows only, and those await their review. -/
theorem Serving.Justified.sweep {db : Serving} (h : db.Justified)
    (staleCutoff createdAt : Timestamp) : (db.sweep staleCutoff createdAt).Justified := by
  intro key a ha hpending
  rcases alertOutbox_sweep ha with hold | ⟨k, row, rfl, rfl, hrow, hstale⟩
  · exact h key a hold hpending
  · obtain ⟨-, hnone, hready⟩ := isStale_iff.mp hstale
    exact ⟨row, hrow, hready, hnone⟩

/-! ## Which calls strand a pending alert -/

/-- The call converts a pull request with a pending alert to a draft, or brings an eligible
review of it, and does not close it. -/
def Call.strands (c : Call) (db : Serving) : Prop :=
  ∃ p, c.snapshot = some p ∧ db.AlertPending p.key
    ∧ ¬ (db.isNewer p = true ∧ p.state = .closed)
    ∧ ((db.isNewer p = true ∧ p.isDraft = true) ∨ ∃ r, c = .applyReview r ∧ r.eligible = true)

/-- After a snapshot an alert is pending without a row that awaits its review exactly for the
pull request of a newer draft snapshot that leaves it open. -/
theorem stranded_observe {db : Serving} (hc : Coherent db) (h : db.Justified)
    {p : PullRequestSnapshot} {k : PullRequestKey} :
    (db.observe p).AlertPending k ∧ ¬ (db.observe p).AwaitsReview k
      ↔ k = p.key ∧ db.AlertPending p.key ∧ db.isNewer p = true ∧ p.state ≠ .closed
        ∧ p.isDraft = true := by
  rw [justified_iff_awaits hc] at h
  rw [pending_observe]
  by_cases hk : k = p.key ∧ db.isNewer p = true
  · obtain ⟨rfl, hnew⟩ := hk
    rw [awaits_observe_key hc hnew]
    constructor
    · rintro ⟨⟨hpending, hclose⟩, hwait⟩
      have hopen : p.state ≠ .closed := fun hs => hclose ⟨rfl, hnew, hs⟩
      -- the row awaited a review before, so no first review is recorded
      have hnone := firstReview_of_awaits hc (h _ hpending)
      refine ⟨rfl, hpending, hnew, hopen, ?_⟩
      by_contra hready
      refine hwait ⟨?_, by simpa using hready, hnone⟩
      cases hs : p.state with
      | «open» => rfl
      | closed => exact absurd hs hopen
    · rintro ⟨-, hpending, -, hopen, hdraft⟩
      refine ⟨⟨hpending, fun hclose => hopen hclose.2.2⟩, ?_⟩
      rintro ⟨-, hready, -⟩
      rw [hdraft] at hready
      exact Bool.noConfusion hready
  · rw [awaits_observe_ne fun heq => by simpa [heq] using hk]
    constructor
    · rintro ⟨⟨hpending, -⟩, hwait⟩
      exact absurd (h k hpending) hwait
    · rintro ⟨heq, -, hnew, -⟩
      exact absurd ⟨heq, hnew⟩ hk

/-- From a justified state, exactly the stranding calls lead to an unjustified one. -/
theorem justified_effect {db : Serving} (hc : Coherent db) (h : db.Justified) (c : Call) :
    (c.effect db).Justified ↔ ¬ c.strands db := by
  cases c with
  | createStaleAlerts staleCutoff createdAt =>
      refine ⟨fun _ => ?_, fun _ => h.sweep staleCutoff createdAt⟩
      rintro ⟨p, hp, -⟩
      cases hp
  | applyPullRequest p =>
      show (db.observe p).Justified ↔ _
      rw [justified_iff_awaits (hc.observe p)]
      constructor
      · rintro hall ⟨q, hq, hpending, hclose, hwhy⟩
        cases hq
        rcases hwhy with ⟨hnew, hdraft⟩ | ⟨r, hr, -⟩
        · have hopen : p.state ≠ .closed := fun hs => hclose ⟨hnew, hs⟩
          have hstranded := (stranded_observe hc h).mpr ⟨rfl, hpending, hnew, hopen, hdraft⟩
          exact hstranded.2 (hall _ hstranded.1)
        · cases hr
      · intro hnot k hpending
        by_contra hwait
        obtain ⟨-, hbefore, hnew, hopen, hdraft⟩ := (stranded_observe hc h).mp ⟨hpending, hwait⟩
        exact hnot ⟨p, rfl, hbefore, fun hclose => hopen hclose.2, Or.inl ⟨hnew, hdraft⟩⟩
  | applyReview r =>
      show ((db.observe r.pullRequest).recordReview r).Justified ↔ _
      have hobserved := hc.observe r.pullRequest
      rw [justified_iff_awaits (hobserved.recordReview r)]
      constructor
      · rintro hall ⟨q, hq, hpending, hclose, hwhy⟩
        cases hq
        have hkept : (db.observe r.pullRequest).AlertPending r.key :=
          pending_observe.mpr ⟨hpending, fun hk => hclose hk.2⟩
        have hwait := (awaits_recordReview hobserved).mp
          (hall r.key (pending_recordReview.mpr hkept))
        rcases hwhy with ⟨hnew, hdraft⟩ | ⟨r', hr', hel⟩
        · have hopen : r.pullRequest.state ≠ .closed := fun hs => hclose ⟨hnew, hs⟩
          have hstranded := (stranded_observe hc h).mpr ⟨rfl, hpending, hnew, hopen, hdraft⟩
          exact hstranded.2 hwait.1
        · cases hr'
          exact hwait.2 ⟨rfl, hel⟩
      · intro hnot k hpending
        have hkept : (db.observe r.pullRequest).AlertPending k := pending_recordReview.mp hpending
        obtain ⟨hbefore, hclose⟩ := pending_observe.mp hkept
        refine (awaits_recordReview hobserved).mpr ⟨?_, ?_⟩
        · by_contra hwait
          obtain ⟨-, hbefore, hnew, hopen, hdraft⟩ := (stranded_observe hc h).mp ⟨hkept, hwait⟩
          exact hnot
            ⟨r.pullRequest, rfl, hbefore, fun hs => hopen hs.2, Or.inl ⟨hnew, hdraft⟩⟩
        · rintro ⟨rfl, hel⟩
          exact hnot
            ⟨r.pullRequest, rfl, hbefore, fun hs => hclose ⟨rfl, hs⟩, Or.inr ⟨r, rfl, hel⟩⟩

/-! ## Runs -/

/-- No transaction that commits strands a pending alert. -/
def NeverStrands (ts : List Transaction) (db : Serving) : Prop :=
  Runs.Never (fun db t => t.run db) (fun t db => t.Commits db ∧ t.call.strands db) ts db

theorem justified_empty : Serving.empty.Justified := by
  intro key a ha
  simp [Serving.empty] at ha

/-- **Justified alerts.** The pending alerts stay justified in every state of a run if and only
if no step of the run converts an alerted pull request to a draft, or brings its first eligible
review, without closing it. -/
theorem justified_iff (ts : List Transaction) :
    (∀ before, before <+: ts → (runAll before .empty).Justified) ↔ NeverStrands ts .empty :=
  (Runs.never_iff (I := Coherent) (P := Serving.Justified) (fun _ t hc => coherent_run hc t)
    (fun _ t hc h => run_iff_of_effect (B := Call.strands) h (justified_effect hc h t.call))
    ts coherent_empty justified_empty).symm

/-! ## An alerted pull request that gets its review -/

/-- A review of another account an hour after the opening, with the snapshot of that moment. -/
def reviewAfterAlert : SubmittedReview where
  pullRequest :=
    { openedSnapshot with
      deliveryId := "delivery-review-after-alert"
      updatedAt := 1784984460000000
      texts_nonempty := by decide }
  reviewId := 50003
  reviewerId := 40003
  reviewerLogin := "example-maintainer"
  submittedAt := 1784984460000000
  identities_pos := by decide
  login_nonempty := by decide

/-- Opened, alerted and reviewed. -/
def alertedThenReviewed : List Transaction :=
  [ ⟨.applyPullRequest openedSnapshot, false⟩
  , ⟨.createStaleAlerts openedSnapshot.openedAt openedSnapshot.openedAt, false⟩
  , ⟨.applyReview reviewAfterAlert, false⟩ ]

/-- The alert is still pending although the pull request has its first review. -/
theorem reviewed_with_pending_alert :
    ¬ (runAll alertedThenReviewed .empty).Justified := by
  intro h
  obtain ⟨a, ha, hpending⟩ : ∃ a, (runAll alertedThenReviewed .empty).alertOutbox.lookup
      (alertKey openedSnapshot.key) = some a ∧ a.status = .pending := ⟨_, rfl, rfl⟩
  obtain ⟨row, hrow, -, hnone⟩ := (justified_iff_awaits (coherent_runAll _ coherent_empty)).mp h
    openedSnapshot.key ⟨a, ha, hpending⟩
  have hshown : (runAll alertedThenReviewed .empty).openPullRequests.lookup openedSnapshot.key
      = some ((snapshotRow reviewAfterAlert.pullRequest (some (openRow openedSnapshot)) none).withReview
          reviewAfterAlert.first) := rfl
  rw [hshown] at hrow
  cases hrow
  cases hnone

end PrStorage
