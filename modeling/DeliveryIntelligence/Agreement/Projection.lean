import DeliveryIntelligence.Agreement.Events
import DeliveryIntelligence.Consumers.PrOrder

set_option autoImplicit false

/-!
# The serving projection shows the events

A run over the commands of a log, in any order and with any duplicates and sweeps, leaves an open
row for the pull requests whose newest snapshot is open and the earliest review of a user other
than the author (`projection_shows`).
-/

namespace Agreement

open Consumers Monitor Postgres
open PrStorage (PullRequestKey PullRequestState SubmittedReview Call Serving)

variable {parsers : PayloadParsers}

/-- The commands among the calls are those of the events, each once or more. -/
def Projected (events : List (Event parsers)) (calls : List Call) : Prop :=
  ∀ c, c.isCommand = true → (c ∈ calls ↔ ∃ e ∈ events, e.command.call = c)

namespace Event

theorem isCommand_call (e : Event parsers) : e.command.call.isCommand = true := by
  cases e.command with
  | pullRequest p => rfl
  | submittedReview r => rfl

theorem snapshot_call (e : Event parsers) : e.command.call.snapshot = some e.snapshot := by
  unfold snapshot
  cases e.command with
  | pullRequest p => rfl
  | submittedReview r => rfl

theorem call_eq_applyReview {e : Event parsers} {r : SubmittedReview} :
    e.command.call = .applyReview r ↔ e.review = some r := by
  unfold review
  cases e.command with
  | pullRequest p => simp [ProjectionCommand.call]
  | submittedReview r' => simp [ProjectionCommand.call]

end Event

section

variable {events : List (Event parsers)} {calls : List Call}

theorem isCommand_of_snapshot {c : Call} {p : PrStorage.PullRequestSnapshot}
    (h : c.snapshot = some p) : c.isCommand = true := by
  cases c with
  | applyPullRequest p => rfl
  | applyReview r => rfl
  | createStaleAlerts staleCutoff createdAt => cases h

/-- The snapshots of a run are those of the events. -/
theorem Projected.mem_snapshotsOf (h : Projected events calls) {k : PullRequestKey}
    {p : PrStorage.PullRequestSnapshot} :
    p ∈ PrStorage.snapshotsOf k calls ↔ ∃ e ∈ events, e.snapshot = p ∧ e.key = k := by
  rw [PrStorage.mem_snapshotsOf]
  constructor
  · rintro ⟨c, hc, hp, hk⟩
    obtain ⟨e, he, rfl⟩ := (h c (isCommand_of_snapshot hp)).mp hc
    have hsame : e.snapshot = p := Option.some.inj (e.snapshot_call.symm.trans hp)
    exact ⟨e, he, hsame, (congrArg PrStorage.PullRequestSnapshot.key hsame).trans hk⟩
  · rintro ⟨e, he, rfl, hk⟩
    exact ⟨e.command.call, (h _ e.isCommand_call).mpr ⟨e, he, rfl⟩, e.snapshot_call, hk⟩

/-- The eligible reviews of a run are those of the events. -/
theorem Projected.reviewedAt_iff (h : Projected events calls) {k : PullRequestKey} {t : Timestamp} :
    t ∈ (PrStorage.eligibleReviewsOf k calls).map (·.submittedAt) ↔ ReviewedAt events k t := by
  rw [List.mem_map]
  constructor
  · rintro ⟨r, hr, ht⟩
    obtain ⟨hcall, hk, heligible⟩ := PrStorage.mem_eligibleReviewsOf.mp hr
    obtain ⟨e, he, hcommand⟩ := (h _ rfl).mp hcall
    have hreview : e.review = some r := Event.call_eq_applyReview.mp hcommand
    exact ⟨e, he, r, hreview, (Event.key_of_review hreview).symm.trans hk, heligible, ht⟩
  · rintro ⟨e, he, r, hreview, hk, heligible, ht⟩
    refine ⟨r, PrStorage.mem_eligibleReviewsOf.mpr ⟨?_, ?_, heligible⟩, ht⟩
    · exact (h _ rfl).mpr ⟨e, he, Event.call_eq_applyReview.mpr hreview⟩
    · exact (Event.key_of_review hreview).trans hk

/-- The newest snapshot of a run is that of an event than which none is newer. -/
theorem Projected.isNewest (h : Projected events calls) {k : PullRequestKey}
    {p : PrStorage.PullRequestSnapshot}
    (hnewest : PrStorage.newest (PrStorage.snapshotsOf k calls) = some p) :
    ∃ e, IsNewest events k e ∧ e.snapshot = p := by
  obtain ⟨hmem, hle⟩ := PrStorage.newest_isGreatest hnewest
  obtain ⟨e, he, rfl, hk⟩ := h.mem_snapshotsOf.mp hmem
  refine ⟨e, ⟨he, hk, fun other hother hkey => ?_⟩, rfl⟩
  exact hle other.snapshot (h.mem_snapshotsOf.mpr ⟨other, hother, rfl, hkey⟩)

end

/-- Newest snapshots of one pull request have one state. -/
theorem Consistent.state_unique {server : Dbt.Server} {events : List (Event parsers)}
    (h : Consistent server events) {k : PullRequestKey} {e e' : Event parsers}
    (he : IsNewest events k e) (he' : IsNewest events k e') : e.state = e'.state := by
  apply h.sameTime e he.mem e' he'.mem
  · rw [he.key_eq, he'.key_eq]
  · exact le_antisymm (he'.newest e he.mem he.key_eq) (he.newest e' he'.mem he'.key_eq)

/-- Tables that follow the newest snapshot have an open row exactly where it is open. -/
theorem isOpen_of_follows {server : Dbt.Server} {events : List (Event parsers)} {calls : List Call}
    {db : Serving} {k : PullRequestKey} (hconsistent : Consistent server events)
    (hcalls : Projected events calls)
    (hfollows : db.Follows k (PrStorage.newest (PrStorage.snapshotsOf k calls))) :
    (∃ row, db.openPullRequests.lookup k = some row)
      ↔ ∃ e, IsNewest events k e ∧ e.state = .open := by
  cases hnewest : PrStorage.newest (PrStorage.snapshotsOf k calls) with
  | none =>
      -- no event speaks of the pull request
      rw [hnewest] at hfollows
      have hempty := PrStorage.newest_eq_none hnewest
      constructor
      · rintro ⟨row, hrow⟩
        rw [hfollows.2] at hrow
        cases hrow
      · rintro ⟨e, hnewest_e, -⟩
        have hmem := hcalls.mem_snapshotsOf.mpr ⟨e, hnewest_e.mem, rfl, hnewest_e.key_eq⟩
        rw [hempty] at hmem
        cases hmem
  | some p =>
      rw [hnewest] at hfollows
      obtain ⟨-, -, hrow⟩ := hfollows
      obtain ⟨e, hnewest_e, rfl⟩ := hcalls.isNewest hnewest
      cases hs : e.snapshot.state with
      | «open» =>
          rw [hs] at hrow
          obtain ⟨row, hlookup, -⟩ := hrow
          exact iff_of_true ⟨row, hlookup⟩ ⟨e, hnewest_e, hs⟩
      | closed =>
          rw [hs] at hrow
          refine iff_of_false ?_ ?_
          · rintro ⟨row, hlookup⟩
            rw [show db.openPullRequests.lookup k = none from hrow] at hlookup
            cases hlookup
          · rintro ⟨e', hnewest_e', hopen⟩
            have hclosed : e'.state = .closed :=
              (hconsistent.state_unique hnewest_e' hnewest_e).trans hs
            rw [hopen] at hclosed
            cases hclosed

/-- **The projection shows the events.** -/
theorem projection_shows {server : Dbt.Server} {events : List (Event parsers)} {calls : List Call}
    {db : Serving} (hconsistent : Consistent server events) (hcalls : Projected events calls)
    (hrun : PrStorage.execAll calls .empty = .ok db) (k : PullRequestKey) :
    Shows events k (∃ row, db.openPullRequests.lookup k = some row)
      ((db.firstReviews.lookup k).map (·.submittedAt)) := by
  have hstart : Serving.empty.Follows k none := ⟨rfl, rfl⟩
  obtain ⟨-, hfollows⟩ := PrStorage.follows_execAll hrun PrStorage.coherent_empty hstart
  obtain ⟨-, -, hfirst, -⟩ := PrStorage.order_independent hrun k
  constructor
  · exact isOpen_of_follows hconsistent hcalls hfollows
  · intro t
    rw [hfirst, List.min?_eq_some_iff, hcalls.reviewedAt_iff]
    refine and_congr_right fun _ => ?_
    constructor
    · intro hle t' ht'
      exact hle t' (hcalls.reviewedAt_iff.mpr ht')
    · intro hle t' ht'
      exact hle (hcalls.reviewedAt_iff.mp ht')

/-- A view that shows the events has nothing about a pull request they do not speak of. -/
theorem Shows.nothing {events : List (Event parsers)} {db : Serving} {k : PullRequestKey}
    (h : Shows events k (∃ row, db.openPullRequests.lookup k = some row)
      ((db.firstReviews.lookup k).map (·.submittedAt)))
    (hnone : ∀ e ∈ events, e.key ≠ k) :
    db.openPullRequests.lookup k = none ∧ db.firstReviews.lookup k = none := by
  constructor
  · rw [Option.eq_none_iff_forall_ne_some]
    intro row hrow
    obtain ⟨e, hnewest, -⟩ := h.isOpen_iff.mp ⟨row, hrow⟩
    exact hnone e hnewest.mem hnewest.key_eq
  · rw [Option.eq_none_iff_forall_ne_some]
    intro first hfirst
    obtain ⟨⟨e, he, -, -, hkey, -⟩, -⟩ :=
      (h.firstReviewAt_iff first.submittedAt).mp (by rw [hfirst]; rfl)
    exact hnone e he hkey

end Agreement
