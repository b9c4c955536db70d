import DeliveryIntelligence.Consumers.PrCoherence

set_option autoImplicit false

/-!
# Applied commands are absorbed

A snapshot or review that was applied once leaves the tables in a state that absorbs it: the
watermark is at least as new and, for an eligible review, a first review at least as early is
recorded. Later calls only advance the tables, so the command stays absorbed, and applying it
again changes nothing.
-/

namespace PrStorage

open Postgres

/-- The watermark is at least as new as the snapshot. -/
def Serving.HasSeen (db : Serving) (p : PullRequestSnapshot) : Prop :=
  ∃ w, db.watermarks.lookup p.key = some w ∧ p.updatedAt ≤ w.lastEventAt

/-- A first review at least as early is recorded, if the review is eligible at all. -/
def Serving.HasRecorded (db : Serving) (r : SubmittedReview) : Prop :=
  r.eligible = true →
    ∃ first, db.firstReviews.lookup r.key = some first ∧ first.submittedAt ≤ r.submittedAt

/-- The state absorbs the call. A sweep is never absorbed. -/
def Absorbed (db : Serving) : Call → Prop
  | .applyPullRequest p => db.HasSeen p
  | .applyReview r => db.HasSeen r.pullRequest ∧ db.HasRecorded r
  | .createStaleAlerts _ _ => False

theorem HasSeen.mono {db db' : Serving} {p : PullRequestSnapshot} (h : db.HasSeen p)
    (hadv : Advances db db') : db'.HasSeen p := by
  obtain ⟨w, hw, hle⟩ := h
  obtain ⟨w', hw', hle'⟩ := hadv.watermark p.key w hw
  exact ⟨w', hw', le_trans hle hle'⟩

theorem HasRecorded.mono {db db' : Serving} {r : SubmittedReview} (h : db.HasRecorded r)
    (hadv : Advances db db') : db'.HasRecorded r := by
  intro hel
  obtain ⟨first, hfirst, hle⟩ := h hel
  obtain ⟨first', hfirst', hle'⟩ := hadv.first_review r.key first hfirst
  exact ⟨first', hfirst', le_trans hle' hle⟩

theorem Absorbed.mono {db db' : Serving} {c : Call} (h : Absorbed db c)
    (hadv : Advances db db') : Absorbed db' c := by
  cases c with
  | applyPullRequest p => exact HasSeen.mono h hadv
  | applyReview r => exact ⟨HasSeen.mono h.1 hadv, HasRecorded.mono h.2 hadv⟩
  | createStaleAlerts staleCutoff createdAt => exact h

/-! ## A seen snapshot and a recorded review change nothing -/

theorem observe_of_hasSeen {db : Serving} {p : PullRequestSnapshot} (h : db.HasSeen p) :
    db.observe p = db := by
  obtain ⟨w, hw, hle⟩ := h
  have hold : db.isNewer p = false := by
    simp [Serving.isNewer, hw, not_lt.mpr hle]
  simp [Serving.observe, hold]

theorem recordReview_of_hasRecorded {db : Serving} {r : SubmittedReview}
    (h : db.HasRecorded r) : db.recordReview r = db := by
  unfold Serving.recordReview
  cases hel : r.eligible with
  | false => simp
  | true =>
      obtain ⟨first, hfirst, hle⟩ := h hel
      have hold : db.isEarlier r = false := by
        simp [Serving.isEarlier, hfirst, not_lt.mpr hle]
      simp [hold]

/-- **Absorption.** An absorbed call has no effect. -/
theorem effect_of_absorbed {db : Serving} {c : Call} (h : Absorbed db c) : c.effect db = db := by
  cases c with
  | applyPullRequest p => exact observe_of_hasSeen h
  | applyReview r =>
      show (db.observe r.pullRequest).recordReview r = db
      rw [observe_of_hasSeen h.1]
      exact recordReview_of_hasRecorded h.2
  | createStaleAlerts staleCutoff createdAt => exact h.elim

/-! ## A call is absorbed by the state it leaves -/

theorem hasSeen_observe (db : Serving) (p : PullRequestSnapshot) : (db.observe p).HasSeen p := by
  refine ⟨p.advance (db.watermarks.lookup p.key), ?_, ?_⟩
  · rw [watermarks_observe, if_pos rfl]
  · rw [lastEventAt_advance]
    cases db.watermarks.lookup p.key with
    | none => exact le_refl _
    | some w => exact le_max_right _ _

theorem hasRecorded_recordReview (db : Serving) (r : SubmittedReview) :
    (db.recordReview r).HasRecorded r := by
  intro hel
  rw [firstReviews_recordReview, if_pos rfl]
  obtain ⟨first, hfirst, hat⟩ := Option.map_eq_some_iff.mp
    (submittedAt_earliest hel (db.firstReviews.lookup r.key))
  refine ⟨first, hfirst, ?_⟩
  rw [hat]
  cases db.firstReviews.lookup r.key with
  | none => exact le_refl _
  | some old => exact min_le_right _ _

theorem absorbed_effect {c : Call} (hc : ∀ staleCutoff createdAt,
    c ≠ .createStaleAlerts staleCutoff createdAt) (db : Serving) : Absorbed (c.effect db) c := by
  cases c with
  | applyPullRequest p => exact hasSeen_observe db p
  | applyReview r =>
      refine ⟨HasSeen.mono (hasSeen_observe db r.pullRequest) ?_, hasRecorded_recordReview _ r⟩
      exact advances_recordReview _ r
  | createStaleAlerts staleCutoff createdAt => exact absurd rfl (hc staleCutoff createdAt)

end PrStorage
