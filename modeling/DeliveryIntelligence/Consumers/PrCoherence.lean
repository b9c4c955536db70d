import DeliveryIntelligence.Consumers.PrEffects

set_option autoImplicit false

/-!
# The four tables of the projection stay coherent

`Coherent` is the invariant of the projection: an open row follows its watermark and shows
the recorded first review, and a pending alert belongs to an open pull request. Every effect
keeps it, so it holds after every sequence of transactions (`coherent_runAll`). Along a run
watermarks only grow and first reviews only move back in time (`Advances`).
-/

namespace PrStorage

open Postgres

/-! ## The open row after an effect -/

theorem openPullRequests_project (db : Serving) (p : PullRequestSnapshot) (k : PullRequestKey) :
    (db.project p).openPullRequests.lookup k
      = if k = p.key then
          match p.state with
          | .open => some
              (snapshotRow p (db.openPullRequests.lookup p.key) (db.firstReviews.lookup p.key))
          | .closed => none
        else db.openPullRequests.lookup k := by
  unfold Serving.project
  by_cases hk : k = p.key
  · subst hk
    cases hs : p.state with
    | «open» => simp
    | closed => simp [cancelPendingAlert, deleteClosedPullRequest]
  · rw [if_neg hk]
    cases hs : p.state with
    | «open» => exact AList.lookup_insert_ne hk
    | closed => exact AList.lookup_erase_ne hk

/-- A newer snapshot puts its own pull request on the board exactly when it is open. -/
theorem openPullRequests_observe_key {db : Serving} {p : PullRequestSnapshot}
    (hnew : db.isNewer p = true) :
    (db.observe p).openPullRequests.lookup p.key
      = match p.state with
        | .open => some
            (snapshotRow p (db.openPullRequests.lookup p.key) (db.firstReviews.lookup p.key))
        | .closed => none := by
  simp only [Serving.observe, hnew, if_true]
  rw [openPullRequests_project]
  exact if_pos rfl

/-- A snapshot of another pull request, or one that is not newer, leaves the row. -/
theorem openPullRequests_observe_ne {db : Serving} {p : PullRequestSnapshot} {k : PullRequestKey}
    (h : k = p.key → db.isNewer p = false) :
    (db.observe p).openPullRequests.lookup k = db.openPullRequests.lookup k := by
  unfold Serving.observe
  split
  · rename_i hnew
    rw [openPullRequests_project, if_neg fun hk => by simp [h hk] at hnew]
  · rfl

/-- A row after a snapshot is the one a newer open snapshot leaves, or was there before. -/
theorem openPullRequests_observe_cases {db : Serving} {p : PullRequestSnapshot}
    {k : PullRequestKey} {row : OpenPullRequest}
    (h : (db.observe p).openPullRequests.lookup k = some row) :
    (k = p.key ∧ db.isNewer p = true
      ∧ row = snapshotRow p (db.openPullRequests.lookup p.key) (db.firstReviews.lookup p.key))
    ∨ ((k = p.key → db.isNewer p = false) ∧ db.openPullRequests.lookup k = some row) := by
  by_cases hmoved : k = p.key ∧ db.isNewer p = true
  · obtain ⟨rfl, hnew⟩ := hmoved
    rw [openPullRequests_observe_key hnew] at h
    cases hs : p.state with
    | «open» =>
        rw [hs] at h
        exact Or.inl ⟨rfl, hnew, (Option.some.inj h).symm⟩
    | closed =>
        rw [hs] at h
        cases h
  · have hother : k = p.key → db.isNewer p = false :=
      fun hk => Bool.eq_false_iff.mpr fun hnew => hmoved ⟨hk, hnew⟩
    exact Or.inr ⟨hother, openPullRequests_observe_ne hother ▸ h⟩

theorem openPullRequests_recordReview (db : Serving) (r : SubmittedReview)
    (k : PullRequestKey) :
    (db.recordReview r).openPullRequests.lookup k
      = (db.openPullRequests.lookup k).map fun row =>
          if k = r.key ∧ r.eligible = true ∧ db.isEarlier r = true then row.withReview r.first
          else row := by
  unfold Serving.recordReview
  by_cases hrec : r.eligible = true ∧ db.isEarlier r = true
  · rw [if_pos (by simp [hrec.1, hrec.2])]
    by_cases hk : k = r.key
    · subst hk
      simp [Table.lookup_updateRow, hrec.1, hrec.2]
    · simp [Table.lookup_updateRow_ne _ _ hk, hk]
  · rw [if_neg (by simpa [Bool.and_eq_true] using hrec)]
    have hno : ¬ (k = r.key ∧ r.eligible = true ∧ db.isEarlier r = true) := fun h => hrec h.2
    simp [if_neg hno]

/-- The alert a sweep finds under a key: the old one, or one for a stale open row. -/
theorem alertOutbox_sweep {db : Serving} {staleCutoff createdAt : Timestamp} {key : String}
    {a : Alert} (h : (db.sweep staleCutoff createdAt).alertOutbox.lookup key = some a) :
    db.alertOutbox.lookup key = some a
    ∨ ∃ k row, key = alertKey k ∧ a = staleAlert staleCutoff createdAt k row
        ∧ db.openPullRequests.lookup k = some row ∧ row.isStale staleCutoff = true := by
  rw [Serving.sweep, Table.lookup_insertMissing] at h
  cases hold : db.alertOutbox.lookup key with
  | some old => rw [hold] at h; exact Or.inl h
  | none =>
      rw [hold, Option.none_or] at h
      obtain ⟨⟨k, row⟩, hmem, heq⟩ := List.mem_map.mp (Table.firstRow_mem h)
      obtain ⟨hrow, hstale⟩ := List.mem_filter.mp hmem
      cases heq
      exact Or.inr ⟨k, row, rfl, rfl, Table.mem_rows.mp hrow, hstale⟩

/-! ## The invariant -/

/-- The four review columns equal the given first review, and are all null without one. -/
def OpenPullRequest.ShowsReview (row : OpenPullRequest) (first : Option FirstReview) : Prop :=
  row.firstEligibleReviewAt = first.map FirstReview.submittedAt
  ∧ row.firstEligibleReviewId = first.map FirstReview.reviewId
  ∧ row.firstEligibleReviewerId = first.map FirstReview.reviewerId
  ∧ row.firstEligibleReviewerLogin = first.map FirstReview.reviewerLogin

structure Coherent (db : Serving) : Prop where
  watermark : ∀ k row, db.openPullRequests.lookup k = some row →
    ∃ w, db.watermarks.lookup k = some w ∧ row.lastSourceUpdatedAt = w.lastEventAt
  review : ∀ k row, db.openPullRequests.lookup k = some row →
    row.ShowsReview (db.firstReviews.lookup k)
  alert_key : ∀ key a, db.alertOutbox.lookup key = some a → key = alertKey a.key
  pending_open : ∀ key a, db.alertOutbox.lookup key = some a → a.status = .pending →
    ∃ row, db.openPullRequests.lookup a.key = some row

theorem withReview_showsReview (row : OpenPullRequest) (first : FirstReview) :
    (row.withReview first).ShowsReview (some first) := ⟨rfl, rfl, rfl, rfl⟩

theorem snapshotRow_showsReview (p : PullRequestSnapshot) {old : Option OpenPullRequest}
    {first : Option FirstReview} (h : ∀ row, old = some row → row.ShowsReview first) :
    (snapshotRow p old first).ShowsReview first := by
  cases first with
  | some first => exact withReview_showsReview _ first
  | none =>
      cases old with
      | none => exact ⟨rfl, rfl, rfl, rfl⟩
      | some row => exact h row rfl

theorem snapshotRow_lastSourceUpdatedAt (p : PullRequestSnapshot) (old : Option OpenPullRequest)
    (first : Option FirstReview) : (snapshotRow p old first).lastSourceUpdatedAt = p.updatedAt := by
  cases first with
  | some first => rfl
  | none => cases old <;> rfl

theorem coherent_empty : Coherent .empty where
  watermark k row h := by simp [Serving.empty] at h
  review k row h := by simp [Serving.empty] at h
  alert_key key a h := by simp [Serving.empty] at h
  pending_open key a h := by simp [Serving.empty] at h

/-- The outbox after the effect of a snapshot: an alert is kept, or cancelled because the
snapshot closes its pull request. -/
theorem alertOutbox_project {db : Serving} {p : PullRequestSnapshot} {key : String} {a : Alert}
    (h : (db.project p).alertOutbox.lookup key = some a) :
    ∃ old, db.alertOutbox.lookup key = some old ∧ a.key = old.key
      ∧ (a.status = .pending → old.status = .pending
          ∧ ¬ (p.state = .closed ∧ key = alertKey p.key)) := by
  unfold Serving.project at h
  cases hs : p.state with
  | «open» =>
      simp only [hs] at h
      exact ⟨a, h, rfl, fun hpend => ⟨hpend, by simp⟩⟩
  | closed =>
      simp only [hs, cancelPendingAlert, deleteClosedPullRequest] at h
      by_cases hkey : key = alertKey p.key
      · rw [hkey, Table.lookup_updateRow] at h
        obtain ⟨old, hold, ha⟩ := Option.map_eq_some_iff.mp h
        refine ⟨old, hkey ▸ hold, ?_⟩
        by_cases hpend : old.status = .pending
        · simp only [hpend, if_true, Option.getD_some] at ha
          subst ha
          exact ⟨rfl, by simp⟩
        · simp only [hpend, if_false, Option.getD_none] at ha
          subst ha
          exact ⟨rfl, fun h' => absurd h' hpend⟩
      · rw [Table.lookup_updateRow_ne _ _ hkey] at h
        exact ⟨a, h, rfl, fun hpend => ⟨hpend, by simp [hkey]⟩⟩

/-- A snapshot of another pull request, or one that is not newer, leaves the watermark. -/
theorem watermarks_observe_ne {db : Serving} {p : PullRequestSnapshot} {k : PullRequestKey}
    (h : k = p.key → db.isNewer p = false) {w : Watermark} (hw : db.watermarks.lookup k = some w) :
    (db.observe p).watermarks.lookup k = some w := by
  rw [watermarks_observe]
  by_cases hk : k = p.key
  · rw [if_pos hk, advance_lookup, if_neg (by simp [h hk]), ← hk]
    exact hw
  · rw [if_neg hk]
    exact hw

/-- The outbox after a snapshot, newer or not. -/
theorem alertOutbox_observe {db : Serving} {p : PullRequestSnapshot} {key : String} {a : Alert}
    (h : (db.observe p).alertOutbox.lookup key = some a) :
    ∃ old, db.alertOutbox.lookup key = some old ∧ a.key = old.key
      ∧ (a.status = .pending → old.status = .pending
          ∧ ¬ (db.isNewer p = true ∧ p.state = .closed ∧ key = alertKey p.key)) := by
  unfold Serving.observe at h
  split at h
  · obtain ⟨old, hold, hkey, hstill⟩ := alertOutbox_project h
    exact ⟨old, hold, hkey, fun hpend => ⟨(hstill hpend).1, fun hclose => (hstill hpend).2 hclose.2⟩⟩
  · rename_i hnew
    exact ⟨a, h, rfl, fun hpend => ⟨hpend, fun hclose => hnew hclose.1⟩⟩

/-- A newer snapshot moves the watermark and the open row together. -/
theorem Coherent.observe {db : Serving} (h : Coherent db) (p : PullRequestSnapshot) :
    Coherent (db.observe p) where
  watermark k row hrow := by
    rcases openPullRequests_observe_cases hrow with ⟨rfl, hnew, rfl⟩ | ⟨hother, hold⟩
    · refine ⟨⟨p.updatedAt, p.deliveryId⟩, ?_, snapshotRow_lastSourceUpdatedAt p _ _⟩
      rw [watermarks_observe, if_pos rfl, advance_lookup, if_pos hnew]
    · obtain ⟨w, hw, hat⟩ := h.watermark k row hold
      exact ⟨w, watermarks_observe_ne hother hw, hat⟩
  review k row hrow := by
    rw [firstReviews_observe]
    rcases openPullRequests_observe_cases hrow with ⟨rfl, -, rfl⟩ | ⟨-, hold⟩
    · exact snapshotRow_showsReview p fun old hold => h.review p.key old hold
    · exact h.review k row hold
  alert_key key a ha := by
    obtain ⟨old, hold, hkey, -⟩ := alertOutbox_observe ha
    rw [hkey]
    exact h.alert_key key old hold
  pending_open key a ha hpend := by
    obtain ⟨old, hold, hkey, hstill⟩ := alertOutbox_observe ha
    obtain ⟨hold_pend, hnot⟩ := hstill hpend
    obtain ⟨row, hrow⟩ := h.pending_open key old hold hold_pend
    rw [hkey]
    by_cases hmoved : old.key = p.key ∧ db.isNewer p = true
    · obtain ⟨hk, hnew⟩ := hmoved
      rw [hk, openPullRequests_observe_key hnew]
      cases hs : p.state with
      | «open» => exact ⟨_, rfl⟩
      -- a close would have cancelled the alert
      | closed => exact absurd ⟨hnew, hs, hk ▸ h.alert_key key old hold⟩ hnot
    · refine ⟨row, ?_⟩
      rw [openPullRequests_observe_ne fun hk => Bool.eq_false_iff.mpr fun hnew => hmoved ⟨hk, hnew⟩]
      exact hrow

/-- Recording a review rewrites the review columns of the open row it is synced to. -/
theorem Coherent.recordReview {db : Serving} (h : Coherent db) (r : SubmittedReview) :
    Coherent (db.recordReview r) := by
  refine ⟨fun k row hrow => ?_, fun k row hrow => ?_, fun key a ha => ?_,
    fun key a ha hpend => ?_⟩
  · rw [openPullRequests_recordReview] at hrow
    obtain ⟨old, hold, hold_row⟩ := Option.map_eq_some_iff.mp hrow
    obtain ⟨w, hw, hat⟩ := h.watermark k old hold
    refine ⟨w, by rw [watermarks_recordReview]; exact hw, ?_⟩
    rw [← hold_row, ← hat]
    split
    · rfl
    · rfl
  · rw [openPullRequests_recordReview] at hrow
    obtain ⟨old, hold, hold_row⟩ := Option.map_eq_some_iff.mp hrow
    rw [← hold_row, firstReviews_recordReview]
    by_cases hk : k = r.key
    · subst hk
      rw [if_pos rfl]
      by_cases hrec : r.eligible = true ∧ db.isEarlier r = true
      -- the review becomes the first one, and its columns are written with it
      · have hfirst : r.earliest (db.firstReviews.lookup r.key) = some r.first := by
          rw [earliest_lookup, if_pos (Bool.and_eq_true_iff.mpr hrec)]
        rw [if_pos ⟨rfl, hrec⟩, hfirst]
        exact withReview_showsReview old r.first
      -- an earlier review is there, and the row shows that one
      · have hsame : r.earliest (db.firstReviews.lookup r.key) = db.firstReviews.lookup r.key := by
          rw [earliest_lookup, if_neg fun hboth => hrec (Bool.and_eq_true_iff.mp hboth)]
        rw [if_neg (fun hc => hrec hc.2), hsame]
        exact h.review r.key old hold
    · rw [if_neg hk, if_neg (fun hc => hk hc.1)]
      exact h.review k old hold
  · rw [alertOutbox_recordReview] at ha
    exact h.alert_key key a ha
  · rw [alertOutbox_recordReview] at ha
    obtain ⟨row, hrow⟩ := h.pending_open key a ha hpend
    rw [openPullRequests_recordReview, hrow]
    exact ⟨_, rfl⟩

/-- A sweep adds alerts for open rows only. -/
theorem Coherent.sweep {db : Serving} (h : Coherent db) (staleCutoff createdAt : Timestamp) :
    Coherent (db.sweep staleCutoff createdAt) := by
  refine ⟨h.watermark, h.review, fun key a ha => ?_, fun key a ha hpend => ?_⟩
  · rcases alertOutbox_sweep ha with hold | ⟨k, row, rfl, rfl, -, -⟩
    · exact h.alert_key key a hold
    · rfl
  · rcases alertOutbox_sweep ha with hold | ⟨k, row, rfl, rfl, hrow, -⟩
    · exact h.pending_open key a hold hpend
    · exact ⟨row, hrow⟩

theorem Coherent.effect {db : Serving} (h : Coherent db) (c : Call) : Coherent (c.effect db) := by
  cases c with
  | applyPullRequest p => exact h.observe p
  | applyReview r => exact (h.observe r.pullRequest).recordReview r
  | createStaleAlerts staleCutoff createdAt => exact h.sweep staleCutoff createdAt

theorem coherent_runAll (ts : List Transaction) {db : Serving} (h : Coherent db) :
    Coherent (runAll ts db) :=
  runAll_induction (fun c _ h => h.effect c) ts h

/-! ## Monotone columns -/

/-- No watermark moves back and no first review moves forward in time. -/
structure Advances (db db' : Serving) : Prop where
  watermark : ∀ k w, db.watermarks.lookup k = some w →
    ∃ w', db'.watermarks.lookup k = some w' ∧ w.lastEventAt ≤ w'.lastEventAt
  first_review : ∀ k f, db.firstReviews.lookup k = some f →
    ∃ f', db'.firstReviews.lookup k = some f' ∧ f'.submittedAt ≤ f.submittedAt

theorem Advances.refl (db : Serving) : Advances db db :=
  ⟨fun _ w h => ⟨w, h, le_refl _⟩, fun _ f h => ⟨f, h, le_refl _⟩⟩

theorem Advances.trans {db₁ db₂ db₃ : Serving} (h₁ : Advances db₁ db₂) (h₂ : Advances db₂ db₃) :
    Advances db₁ db₃ := by
  refine ⟨fun k w hw => ?_, fun k f hf => ?_⟩
  · obtain ⟨w₂, hw₂, hle₂⟩ := h₁.watermark k w hw
    obtain ⟨w₃, hw₃, hle₃⟩ := h₂.watermark k w₂ hw₂
    exact ⟨w₃, hw₃, le_trans hle₂ hle₃⟩
  · obtain ⟨f₂, hf₂, hle₂⟩ := h₁.first_review k f hf
    obtain ⟨f₃, hf₃, hle₃⟩ := h₂.first_review k f₂ hf₂
    exact ⟨f₃, hf₃, le_trans hle₃ hle₂⟩

theorem advances_observe (db : Serving) (p : PullRequestSnapshot) :
    Advances db (db.observe p) := by
  refine ⟨fun k w hw => ?_, fun k f hf => ⟨f, by rw [firstReviews_observe]; exact hf, le_refl _⟩⟩
  rw [watermarks_observe]
  by_cases hk : k = p.key
  · subst hk
    refine ⟨_, if_pos rfl, ?_⟩
    rw [hw, lastEventAt_advance]
    exact le_max_left _ _
  · exact ⟨w, by rw [if_neg hk]; exact hw, le_refl _⟩

theorem advances_recordReview (db : Serving) (r : SubmittedReview) :
    Advances db (db.recordReview r) := by
  refine ⟨fun k w hw => ⟨w, by rw [watermarks_recordReview]; exact hw, le_refl _⟩,
    fun k f hf => ?_⟩
  rw [firstReviews_recordReview]
  by_cases hk : k = r.key
  · subst hk
    rw [if_pos rfl, hf]
    cases hel : r.eligible with
    | false => exact ⟨f, by simp [SubmittedReview.earliest, hel], le_refl _⟩
    | true =>
        obtain ⟨f', hf', hat⟩ := Option.map_eq_some_iff.mp (submittedAt_earliest hel (some f))
        refine ⟨f', hf', ?_⟩
        rw [hat]
        exact min_le_left _ _
  · exact ⟨f, by rw [if_neg hk]; exact hf, le_refl _⟩

theorem advances_effect (c : Call) (db : Serving) : Advances db (c.effect db) := by
  cases c with
  | applyPullRequest p => exact advances_observe db p
  | applyReview r =>
      exact (advances_observe db r.pullRequest).trans (advances_recordReview _ r)
  | createStaleAlerts staleCutoff createdAt =>
      exact ⟨(Advances.refl db).watermark, (Advances.refl db).first_review⟩

theorem advances_runAll (ts : List Transaction) (db : Serving) : Advances db (runAll ts db) :=
  runAll_induction (P := Advances db) (fun c db' h => h.trans (advances_effect c db')) ts
    (Advances.refl db)

/-- **PR projection coherence.** After every sequence of transactions from the empty tables
the projection is coherent, and whatever follows only advances it. -/
theorem projection_coherent (ts later : List Transaction) :
    Coherent (runAll ts .empty)
    ∧ Advances (runAll ts .empty) (runAll later (runAll ts .empty)) :=
  ⟨coherent_runAll ts coherent_empty, advances_runAll later _⟩

end PrStorage
