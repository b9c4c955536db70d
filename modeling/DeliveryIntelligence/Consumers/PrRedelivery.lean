import DeliveryIntelligence.Consumers.PrAbsorption
import DeliveryIntelligence.Consumers.PrSweep

set_option autoImplicit false

/-!
# Redelivered commands change nothing

A command the run applied once is absorbed by every later state (`absorbed_of_applied`). What
remains is the answer: the statements of an absorbed command find their rows taken, so it is
told `STALE`, `UNCHANGED` or `INELIGIBLE`. Its rows passed the constraints when it was first
applied, and the constraints look at the new row only, so no statement fails either.
-/

namespace PrStorage

open Postgres

/-- The run applied the call at some point: a transaction of it committed there. -/
def Applied (ts : List Transaction) (c : Call) : Prop :=
  ∃ before t later, ts = before ++ t :: later ∧ t.call = c ∧ t.Commits (runAll before .empty)

/-- The final state of a run absorbs every command the run applied. -/
theorem absorbed_of_applied {ts : List Transaction} {c : Call} (h : Applied ts c)
    (hc : ∀ staleCutoff createdAt, c ≠ .createStaleAlerts staleCutoff createdAt) :
    Absorbed (runAll ts .empty) c := by
  obtain ⟨before, t, later, rfl, rfl, hcommits⟩ := h
  have hrun : runAll (before ++ t :: later) .empty
      = runAll later (t.call.effect (runAll before .empty)) := by
    rw [runAll, List.foldl_append, List.foldl_cons]
    show runAll later (t.run (runAll before .empty)) = _
    rw [run_of_commits hcommits]
  rw [hrun]
  have hthen : Absorbed (t.call.effect (runAll before .empty)) t.call := absorbed_effect hc _
  -- whatever the run did after the command only advances the tables
  exact hthen.mono (advances_runAll later _)

theorem advanceWatermark_of_hasSeen {db : Serving} {p : PullRequestSnapshot} (h : db.HasSeen p)
    (hrow : enforce watermarkConstraints (p.key, ⟨p.updatedAt, p.deliveryId⟩) = .ok ()) :
    advanceWatermark p db = .ok (db, none) := by
  obtain ⟨w, hw, hle⟩ := h
  have hconflict : ¬ p.updatedAt > w.lastEventAt := not_lt.mpr hle
  simp [advanceWatermark, hrow, Table.upsert, hw, hconflict, Bind.bind, Except.bind, pure,
    Except.pure]

theorem recordFirstEligibleReview_of_hasRecorded {db : Serving} {r : SubmittedReview}
    (h : db.HasRecorded r) (hel : r.eligible = true)
    (hrow : enforce firstReviewConstraints (r.key, r.first) = .ok ()) :
    recordFirstEligibleReview r db = .ok (db, none) := by
  obtain ⟨first, hfirst, hle⟩ := h hel
  have hconflict : ¬ r.submittedAt < first.submittedAt := not_lt.mpr hle
  rw [SubmittedReview.first] at hrow
  simp [recordFirstEligibleReview, hrow, Table.upsert, hfirst, hconflict, Bind.bind, Except.bind,
    pure, Except.pure]

/-- A seen snapshot that was applied once, and so fits the columns, is answered `STALE`. -/
theorem applyPullRequest_again {db then' db' : Serving} {p : PullRequestSnapshot}
    {o : ProjectionOutcome} (hthen : applyPullRequest p then' = .ok (o, db'))
    (h : db.HasSeen p) : applyPullRequest p db = .ok (.stale, db) := by
  obtain ⟨advanced, hadvance, -⟩ := bind_eq_ok hthen
  obtain ⟨_, hrow, -⟩ := bind_eq_ok hadvance
  simp [applyPullRequest, advanceWatermark_of_hasSeen h hrow, Bind.bind, Except.bind, pure,
    Except.pure]

/-- What `apply_review` returns for a review it has seen before. -/
def SubmittedReview.repeated (r : SubmittedReview) : ReviewOutcome :=
  if r.eligible then .unchanged else .ineligible

theorem applyReview_again {db then' db' : Serving} {r : SubmittedReview} {o : ReviewOutcome}
    (hthen : applyReview r then' = .ok (o, db')) (hseen : db.HasSeen r.pullRequest)
    (hrecorded : db.HasRecorded r) : applyReview r db = .ok (r.repeated, db) := by
  obtain ⟨advanced, hadvance, hafter⟩ := bind_eq_ok hthen
  obtain ⟨_, hwatermark, -⟩ := bind_eq_ok hadvance
  obtain ⟨projected, -, hreview⟩ := bind_eq_ok hafter
  have hstale := advanceWatermark_of_hasSeen hseen hwatermark
  by_cases hauthor : r.reviewerId = r.pullRequest.authorId
  · have hel : r.eligible = false := by simp [SubmittedReview.eligible, hauthor]
    simp [applyReview, hstale, hauthor, hel, SubmittedReview.repeated, Bind.bind, Except.bind,
      pure, Except.pure]
  · have hel : r.eligible = true := by simp [SubmittedReview.eligible, hauthor]
    -- the review reached the first-review statement, so its row fits the columns there too
    rw [if_neg hauthor] at hreview
    obtain ⟨recorded, hrecord, -⟩ := bind_eq_ok hreview
    obtain ⟨_, hrow, -⟩ := bind_eq_ok hrecord
    have hkept := recordFirstEligibleReview_of_hasRecorded hrecorded hel hrow
    simp [applyReview, hstale, hauthor, hel, hkept, SubmittedReview.repeated, Bind.bind,
      Except.bind, pure, Except.pure]

/-- **Redelivery.** A command that a run applied at any point is answered `STALE`, or
`UNCHANGED` or `INELIGIBLE` for a review, and leaves all four tables as they are. -/
theorem redelivery_absorbed (ts : List Transaction) :
    (∀ p, Applied ts (.applyPullRequest p) →
      applyPullRequest p (runAll ts .empty) = .ok (.stale, runAll ts .empty))
    ∧ ∀ r, Applied ts (.applyReview r) →
      ∃ o, (o = .unchanged ∨ o = .ineligible)
        ∧ applyReview r (runAll ts .empty) = .ok (o, runAll ts .empty) := by
  constructor
  · intro p happlied
    have hseen : (runAll ts .empty).HasSeen p :=
      absorbed_of_applied happlied fun _ _ hc => Call.noConfusion hc
    obtain ⟨before, t, later, -, hcall, -, db, hexec⟩ := happlied
    rw [hcall] at hexec
    obtain ⟨⟨o, db'⟩, hthen, -⟩ := map_eq_ok_iff.mp hexec
    exact applyPullRequest_again hthen hseen
  · intro r happlied
    have habsorbed : Absorbed (runAll ts .empty) (.applyReview r) :=
      absorbed_of_applied happlied fun _ _ hc => Call.noConfusion hc
    obtain ⟨hseen, hrecorded⟩ := habsorbed
    obtain ⟨before, t, later, -, hcall, -, db, hexec⟩ := happlied
    rw [hcall] at hexec
    obtain ⟨⟨o, db'⟩, hthen, -⟩ := map_eq_ok_iff.mp hexec
    refine ⟨r.repeated, ?_, applyReview_again hthen hseen hrecorded⟩
    unfold SubmittedReview.repeated
    split
    · exact Or.inl rfl
    · exact Or.inr rfl

/-- Opened and, an hour later, closed. -/
def openedThenClosed : List Transaction :=
  [⟨.applyPullRequest openedSnapshot, false⟩, ⟨.applyPullRequest hourClose, false⟩]

/-- The redelivered opening does not bring the closed pull request back. -/
theorem redelivery_absorbed_opening :
    applyPullRequest openedSnapshot (runAll openedThenClosed .empty)
        = .ok (.stale, runAll openedThenClosed .empty)
      ∧ (runAll openedThenClosed .empty).openPullRequests.lookup openedSnapshot.key = none :=
  ⟨(redelivery_absorbed openedThenClosed).1 openedSnapshot
      ⟨[], _, _, rfl, rfl, rfl, _, rfl⟩, rfl⟩

end PrStorage
