import DeliveryIntelligence.Consumers.PrCoherence

set_option autoImplicit false

/-!
# Which snapshot of a pull request the projection shows

The watermark guard accepts a snapshot only when it is strictly newer. Followed through a run
in which every call commits, the projection of a pull request shows the earliest delivered of
its newest snapshots (`newest`). For commands delivered in source order that is the first
snapshot carrying the last timestamp (`firstOfLast`), which is the last snapshot itself unless
several share that timestamp.
-/

namespace PrStorage

open Postgres

/-- The snapshot a call carries. -/
def Call.snapshot : Call → Option PullRequestSnapshot
  | .applyPullRequest p => some p
  | .applyReview r => some r.pullRequest
  | .createStaleAlerts _ _ => none

/-- The snapshots of one pull request, in delivery order. -/
def snapshotsOf (k : PullRequestKey) (calls : List Call) : List PullRequestSnapshot :=
  (calls.filterMap Call.snapshot).filter fun p => p.key = k

/-- Keep a snapshot until a strictly newer one arrives. -/
def newer (old : Option PullRequestSnapshot) (p : PullRequestSnapshot) :
    Option PullRequestSnapshot :=
  match old with
  | none => some p
  | some q => if q.updatedAt < p.updatedAt then some p else some q

/-- The earliest delivered of the newest snapshots. -/
def newest (snapshots : List PullRequestSnapshot) : Option PullRequestSnapshot :=
  snapshots.foldl newer none

/-- The first snapshot that carries the timestamp of the last one. -/
def firstOfLast (snapshots : List PullRequestSnapshot) : Option PullRequestSnapshot :=
  snapshots.getLast?.bind fun last => snapshots.find? fun p => p.updatedAt = last.updatedAt

/-- An open row carries the title, draft flag, author and number of a snapshot. -/
def OpenPullRequest.Carries (row : OpenPullRequest) (p : PullRequestSnapshot) : Prop :=
  row.title = p.title ∧ row.isDraft = p.isDraft ∧ row.authorId = p.authorId
  ∧ row.authorLogin = p.authorLogin ∧ row.pullRequestNumber = p.pullRequestNumber

/-- The tables show the state of a snapshot. -/
def Serving.Reflects (db : Serving) (p : PullRequestSnapshot) : Prop :=
  match p.state with
  | .open => ∃ row, db.openPullRequests.lookup p.key = some row ∧ row.Carries p
  | .closed => db.openPullRequests.lookup p.key = none
      ∧ ∀ key a, db.alertOutbox.lookup key = some a → a.key = p.key → a.status ≠ .pending

/-! ## The tables follow the newest snapshot -/

/-- The rows of pull request `k` while `current` is its newest snapshot. -/
def Serving.Follows (db : Serving) (k : PullRequestKey) :
    Option PullRequestSnapshot → Prop
  | none => db.watermarks.lookup k = none ∧ db.openPullRequests.lookup k = none
  | some p => p.key = k
      ∧ (∃ w, db.watermarks.lookup k = some w ∧ w.lastEventAt = p.updatedAt)
      ∧ match p.state with
        | .open => ∃ row, db.openPullRequests.lookup k = some row ∧ row.Carries p
        | .closed => db.openPullRequests.lookup k = none

theorem snapshotRow_carries (p : PullRequestSnapshot) (old : Option OpenPullRequest)
    (first : Option FirstReview) : (snapshotRow p old first).Carries p := by
  cases first with
  | some first => exact ⟨rfl, rfl, rfl, rfl, rfl⟩
  | none =>
      cases old with
      | none => exact ⟨rfl, rfl, rfl, rfl, rfl⟩
      | some row => exact ⟨rfl, rfl, rfl, rfl, rfl⟩

/-- Two states with the same watermark and open row of `k` follow the same snapshot. -/
theorem Serving.Follows.congr {db db' : Serving} {k : PullRequestKey}
    {current : Option PullRequestSnapshot} (h : db.Follows k current)
    (hw : db'.watermarks.lookup k = db.watermarks.lookup k)
    (ho : db'.openPullRequests.lookup k = db.openPullRequests.lookup k) :
    db'.Follows k current := by
  cases current with
  | none =>
      obtain ⟨h1, h2⟩ := h
      exact ⟨hw.trans h1, ho.trans h2⟩
  | some p =>
      obtain ⟨hkey, hwm, hrow⟩ := h
      refine ⟨hkey, by rw [hw]; exact hwm, ?_⟩
      rw [ho]
      exact hrow

theorem follows_observe_ne {db : Serving} {k : PullRequestKey} {p : PullRequestSnapshot}
    {current : Option PullRequestSnapshot} (h : db.Follows k current) (hk : p.key ≠ k) :
    (db.observe p).Follows k current := by
  refine h.congr (by rw [watermarks_observe, if_neg (Ne.symm hk)]) ?_
  exact openPullRequests_observe_ne fun heq => absurd heq.symm hk

/-- The guard on a followed pull request compares with the current snapshot. -/
theorem isNewer_of_follows {db : Serving} {p : PullRequestSnapshot}
    {current : Option PullRequestSnapshot} (h : db.Follows p.key current) :
    newer current p = if db.isNewer p then some p else current := by
  cases current with
  -- No watermark: every snapshot is newer.
  | none => simp [newer, Serving.isNewer, h.1]
  | some q =>
      obtain ⟨-, ⟨w, hw, hat⟩, -⟩ := h
      -- The watermark carries the time of the current snapshot.
      by_cases hlt : q.updatedAt < p.updatedAt
      · simp [newer, Serving.isNewer, hw, hat, hlt]
      · simp [newer, Serving.isNewer, hw, hat, hlt]

theorem follows_observe {db : Serving} {p : PullRequestSnapshot}
    {current : Option PullRequestSnapshot} (h : db.Follows p.key current) :
    (db.observe p).Follows p.key (newer current p) := by
  rw [isNewer_of_follows h]
  cases hnew : db.isNewer p with
  | false =>
      have hsame : db.observe p = db := by simp [Serving.observe, hnew]
      rw [hsame]
      simpa using h
  | true =>
      refine ⟨rfl, ?_, ?_⟩
      · rw [watermarks_observe, if_pos rfl, advance_lookup, if_pos hnew]
        exact ⟨_, rfl, rfl⟩
      · rw [openPullRequests_observe_key hnew]
        cases hs : p.state with
        | «open» => exact ⟨_, rfl, snapshotRow_carries _ _ _⟩
        | closed => rfl

/-- Recording a review keeps the columns a snapshot fills. -/
theorem follows_recordReview {db : Serving} {k : PullRequestKey}
    {current : Option PullRequestSnapshot} (h : db.Follows k current) (r : SubmittedReview) :
    (db.recordReview r).Follows k current := by
  cases current with
  | none =>
      refine ⟨by rw [watermarks_recordReview]; exact h.1, ?_⟩
      rw [openPullRequests_recordReview, h.2]
      rfl
  | some p =>
      obtain ⟨hkey, hw, hrow⟩ := h
      refine ⟨hkey, by rw [watermarks_recordReview]; exact hw, ?_⟩
      rw [openPullRequests_recordReview]
      cases hs : p.state with
      | «open» =>
          simp only [hs] at hrow ⊢
          obtain ⟨row, hrow, hcarries⟩ := hrow
          rw [hrow]
          refine ⟨_, rfl, ?_⟩
          split
          · exact hcarries
          · exact hcarries
      | closed =>
          simp only [hs] at hrow ⊢
          rw [hrow]
          rfl

theorem follows_effect {db : Serving} {k : PullRequestKey} {c : Call}
    {current : Option PullRequestSnapshot} (h : db.Follows k current) :
    (c.effect db).Follows k ((snapshotsOf k [c]).foldl newer current) := by
  have hobserve : ∀ p : PullRequestSnapshot, (db.observe p).Follows k
      (((if p.key = k then [p] else []) : List PullRequestSnapshot).foldl newer current) := by
    intro p
    by_cases hk : p.key = k
    · rw [if_pos hk]
      subst hk
      exact follows_observe h
    · rw [if_neg hk]
      exact follows_observe_ne h hk
  cases c with
  | applyPullRequest p =>
      simpa [snapshotsOf, Call.snapshot, Call.effect, List.filter_cons] using hobserve p
  | applyReview r =>
      have hrec := follows_recordReview (hobserve r.pullRequest) r
      simpa [snapshotsOf, Call.snapshot, Call.effect, List.filter_cons] using hrec
  | createStaleAlerts staleCutoff createdAt => exact h.congr rfl rfl

/-- Along a run whose calls all commit, the tables stay coherent and follow the newest
snapshot of every pull request. -/
theorem follows_execAll {calls : List Call} {db db' : Serving} {k : PullRequestKey}
    {current : Option PullRequestSnapshot} (hrun : execAll calls db = .ok db')
    (hc : Coherent db) (h : db.Follows k current) :
    Coherent db' ∧ db'.Follows k ((snapshotsOf k calls).foldl newer current) := by
  induction calls generalizing db current with
  | nil =>
      cases hrun
      exact ⟨hc, h⟩
  | cons c calls ih =>
      obtain ⟨db1, hone, hrest⟩ := bind_eq_ok hrun
      have heff : db1 = c.effect db := exec_ok hone
      have hsplit : snapshotsOf k (c :: calls) = snapshotsOf k [c] ++ snapshotsOf k calls := by
        unfold snapshotsOf
        rw [← List.filter_append, ← List.filterMap_append]
        rfl
      rw [hsplit, List.foldl_append]
      refine ih hrest ?_ ?_
      · rw [heff]; exact hc.effect c
      · rw [heff]; exact follows_effect h

/-- What the followed rows say about the newest snapshot. -/
theorem Serving.Follows.reflects {db : Serving} {k : PullRequestKey} {p : PullRequestSnapshot}
    (h : db.Follows k (some p)) (hc : Coherent db) : db.Reflects p := by
  obtain ⟨rfl, -, hrow⟩ := h
  unfold Serving.Reflects
  cases hs : p.state with
  | «open» => simpa only [hs] using hrow
  | closed =>
      simp only [hs] at hrow ⊢
      refine ⟨hrow, fun key a ha hkey hpend => ?_⟩
      -- A pending alert of this pull request would be for an open row.
      obtain ⟨row, hopen⟩ := hc.pending_open key a ha hpend
      rw [hkey, hrow] at hopen
      cases hopen

/-! ## The newest snapshot -/

theorem newer_isGreatest (old : Option PullRequestSnapshot) (p : PullRequestSnapshot) :
    ∃ q, newer old p = some q ∧ (q = p ∨ old = some q) ∧ p.updatedAt ≤ q.updatedAt
      ∧ ∀ o, old = some o → o.updatedAt ≤ q.updatedAt := by
  cases old with
  | none => exact ⟨p, rfl, Or.inl rfl, le_refl _, fun o ho => nomatch ho⟩
  | some o =>
      by_cases hlt : o.updatedAt < p.updatedAt
      · refine ⟨p, by simp [newer, hlt], Or.inl rfl, le_refl _, fun o' ho' => ?_⟩
        cases ho'
        exact le_of_lt hlt
      · refine ⟨o, by simp [newer, hlt], Or.inr rfl, not_lt.mp hlt, fun o' ho' => ?_⟩
        cases ho'
        exact le_refl _

theorem foldl_newer_isGreatest {snapshots : List PullRequestSnapshot}
    {old : Option PullRequestSnapshot} {p : PullRequestSnapshot}
    (h : snapshots.foldl newer old = some p) :
    (p ∈ snapshots ∨ old = some p) ∧ (∀ q ∈ snapshots, q.updatedAt ≤ p.updatedAt)
      ∧ ∀ o, old = some o → o.updatedAt ≤ p.updatedAt := by
  induction snapshots generalizing old with
  | nil =>
      refine ⟨Or.inr h, fun q hq => absurd hq List.not_mem_nil, fun o ho => ?_⟩
      have hsame : o = p := Option.some.inj (ho.symm.trans h)
      exact hsame ▸ le_refl _
  | cons first rest ih =>
      obtain ⟨q, hq, hwhich, hfirst, hold⟩ := newer_isGreatest old first
      rw [List.foldl_cons, hq] at h
      obtain ⟨hmem, hrest, hle⟩ := ih h
      have hqp : q.updatedAt ≤ p.updatedAt := hle q rfl
      refine ⟨?_, ?_, fun o ho => le_trans (hold o ho) hqp⟩
      · rcases hmem with hin | heq
        · exact Or.inl (List.mem_cons_of_mem _ hin)
        · obtain rfl : q = p := Option.some.inj heq
          rcases hwhich with rfl | hkept
          · exact Or.inl List.mem_cons_self
          · exact Or.inr hkept
      · intro other hother
        rcases List.mem_cons.mp hother with rfl | hin
        · exact le_trans hfirst hqp
        · exact hrest other hin

/-- The newest snapshot is one of them, and none is newer. -/
theorem newest_isGreatest {snapshots : List PullRequestSnapshot} {p : PullRequestSnapshot}
    (h : newest snapshots = some p) :
    p ∈ snapshots ∧ ∀ q ∈ snapshots, q.updatedAt ≤ p.updatedAt := by
  obtain ⟨hmem, hle, -⟩ := foldl_newer_isGreatest h
  exact ⟨hmem.resolve_right (Option.some_ne_none p).symm, hle⟩

theorem newest_eq_none {snapshots : List PullRequestSnapshot} (h : newest snapshots = none) :
    snapshots = [] := by
  have hgrows : ∀ (rest : List PullRequestSnapshot) q, rest.foldl newer (some q) ≠ none := by
    intro rest
    induction rest with
    | nil => exact fun q hq => nomatch hq
    | cons first rest ih =>
        intro q
        obtain ⟨q', hq', -, -, -⟩ := newer_isGreatest (some q) first
        rw [List.foldl_cons, hq']
        exact ih q'
  cases snapshots with
  | nil => rfl
  | cons first rest => exact absurd h (hgrows rest first)

/-! ## Source order -/

/-- Snapshots that are no newer than the current one leave it in place. -/
theorem foldl_newer_of_le {p : PullRequestSnapshot} {rest : List PullRequestSnapshot}
    (h : ∀ q ∈ rest, q.updatedAt ≤ p.updatedAt) : rest.foldl newer (some p) = some p := by
  induction rest with
  | nil => rfl
  | cons q rest ih =>
      have hq : ¬ p.updatedAt < q.updatedAt := not_lt.mpr (h q List.mem_cons_self)
      have hstep : newer (some p) q = some p := by simp [newer, hq]
      rw [List.foldl_cons, hstep]
      exact ih fun q' hq' => h q' (List.mem_cons_of_mem _ hq')

/-- In source order no snapshot is newer than the last one. -/
theorem le_last_of_sorted {snapshots : List PullRequestSnapshot} {last : PullRequestSnapshot}
    (hsorted : snapshots.Pairwise fun p q => p.updatedAt ≤ q.updatedAt)
    (hlast : snapshots.getLast? = some last) :
    ∀ p ∈ snapshots, p.updatedAt ≤ last.updatedAt := by
  obtain ⟨front, rfl⟩ := List.getLast?_eq_some_iff.mp hlast
  intro p hp
  rcases List.mem_append.mp hp with hfront | hend
  · exact (List.pairwise_append.mp hsorted).2.2 p hfront last (List.mem_singleton.mpr rfl)
  · rw [List.mem_singleton.mp hend]

/-- In source order the current snapshot is replaced until one carries the last timestamp. -/
theorem foldl_newer_sorted {p last : PullRequestSnapshot} {rest : List PullRequestSnapshot}
    (hsorted : (p :: rest).Pairwise fun q q' => q.updatedAt ≤ q'.updatedAt)
    (hlast : (p :: rest).getLast? = some last) :
    rest.foldl newer (some p) = (p :: rest).find? fun q => q.updatedAt = last.updatedAt := by
  have hle := le_last_of_sorted hsorted hlast
  by_cases hfirst : p.updatedAt = last.updatedAt
  -- The first snapshot already carries the last timestamp.
  · have hnone_newer : ∀ q ∈ rest, q.updatedAt ≤ p.updatedAt := fun q hq =>
      hfirst ▸ hle q (List.mem_cons_of_mem _ hq)
    rw [foldl_newer_of_le hnone_newer, List.find?_cons_of_pos (by simpa using hfirst)]
  have hbefore : p.updatedAt < last.updatedAt := lt_of_le_of_ne (hle p List.mem_cons_self) hfirst
  rw [List.find?_cons_of_neg (by simpa using hfirst)]
  induction rest generalizing p with
  | nil =>
      have hp : p = last := by simpa using hlast
      exact absurd (hp ▸ rfl) hfirst
  | cons q rest ih =>
      obtain ⟨hp, hrest⟩ := List.pairwise_cons.mp hsorted
      have hlast' : (q :: rest).getLast? = some last := by simpa using hlast
      have hle' := le_last_of_sorted hrest hlast'
      rw [List.foldl_cons]
      by_cases hq : q.updatedAt = last.updatedAt
      · -- `q` is the first to carry the last timestamp, and nothing after it is newer
        have hstep : newer (some p) q = some q := by simp [newer, hq, hbefore]
        have hnone_newer : ∀ q' ∈ rest, q'.updatedAt ≤ q.updatedAt := fun q' hq' =>
          hq ▸ hle' q' (List.mem_cons_of_mem _ hq')
        rw [hstep, foldl_newer_of_le hnone_newer, List.find?_cons_of_pos (by simpa using hq)]
      · have hq_before : q.updatedAt < last.updatedAt :=
          lt_of_le_of_ne (hle' q List.mem_cons_self) hq
        rw [List.find?_cons_of_neg (by simpa using hq)]
        -- `q` is not the one: it replaces `p` or is dropped, and the search goes on behind it.
        by_cases hlt : p.updatedAt < q.updatedAt
        · have hstep : newer (some p) q = some q := by simp [newer, hlt]
          rw [hstep]
          exact ih hrest hlast' hle' hq hq_before
        · have hstep : newer (some p) q = some p := by simp [newer, hlt]
          have hsorted' : (p :: rest).Pairwise fun q q' => q.updatedAt ≤ q'.updatedAt :=
            List.pairwise_cons.mpr ⟨fun q' hq' => hp q' (List.mem_cons_of_mem _ hq'),
              (List.pairwise_cons.mp hrest).2⟩
          have hskip : (p :: rest).getLast? = some last := by
            cases rest with
            | nil =>
                have hql : q = last := by simpa using hlast'
                exact absurd (hql ▸ rfl) hq
            | cons q' rest => simpa using hlast'
          rw [hstep]
          exact ih hsorted' hskip (le_last_of_sorted hsorted' hskip) hfirst hbefore

theorem newest_eq_firstOfLast {snapshots : List PullRequestSnapshot}
    (hsorted : snapshots.Pairwise fun p q => p.updatedAt ≤ q.updatedAt) :
    newest snapshots = firstOfLast snapshots := by
  cases snapshots with
  | nil => rfl
  | cons p rest =>
      obtain ⟨last, hlast⟩ : ∃ last, (p :: rest).getLast? = some last :=
        ⟨_, List.getLast?_eq_some_getLast (List.cons_ne_nil p rest)⟩
      unfold newest firstOfLast
      rw [hlast, List.foldl_cons]
      exact foldl_newer_sorted hsorted hlast

theorem exists_firstOfLast {snapshots : List PullRequestSnapshot} (h : snapshots ≠ []) :
    ∃ p, firstOfLast snapshots = some p := by
  have hlast := List.getLast?_eq_some_getLast h
  unfold firstOfLast
  rw [hlast, Option.bind_some]
  refine Option.isSome_iff_exists.mp (List.find?_isSome.mpr ?_)
  exact ⟨_, List.getLast_mem h, by simp⟩

/-- **In-order delivery.** When the commands of a pull request arrive in source order, the
projection reflects the first of its snapshots that carries the last timestamp. -/
theorem reflects_firstOfLast {calls : List Call} {db : Serving} {k : PullRequestKey}
    (hrun : execAll calls .empty = .ok db) (hne : snapshotsOf k calls ≠ [])
    (hsorted : (snapshotsOf k calls).Pairwise fun p q => p.updatedAt ≤ q.updatedAt) :
    ∃ p, firstOfLast (snapshotsOf k calls) = some p ∧ db.Reflects p := by
  obtain ⟨p, hp⟩ := exists_firstOfLast hne
  have hstart : Serving.empty.Follows k none := ⟨rfl, rfl⟩
  obtain ⟨hc, hfollows⟩ := follows_execAll hrun coherent_empty hstart
  have hcurrent : (snapshotsOf k calls).foldl newer none = some p :=
    (newest_eq_firstOfLast hsorted).trans hp
  rw [hcurrent] at hfollows
  exact ⟨p, hp, hfollows.reflects hc⟩

/-! ## A close within the second of the opening -/

def openedSnapshot : PullRequestSnapshot where
  deliveryId := "delivery-opened"
  repositoryId := 20001
  repositoryFullName := "example-org/delivery-demo"
  pullRequestId := 30001
  pullRequestNumber := 17
  state := .open
  title := "Add deterministic PR monitoring"
  authorId := 40001
  authorLogin := "example-author"
  isDraft := false
  openedAt := 1784980800000000
  updatedAt := 1784980800000000
  identities_pos := by decide
  texts_nonempty := by decide

/-- The same pull request closed in the second it was opened in. -/
def closedSnapshot : PullRequestSnapshot :=
  { openedSnapshot with deliveryId := "delivery-closed", state := .closed
                        texts_nonempty := by decide }

def openThenClose : List Call := [.applyPullRequest openedSnapshot, .applyPullRequest closedSnapshot]

/-- Delivered in source order, the close is dropped and the pull request stays open. -/
theorem close_in_same_second_is_dropped :
    ∃ db, execAll openThenClose .empty = .ok db
      ∧ snapshotsOf openedSnapshot.key openThenClose = [openedSnapshot, closedSnapshot]
      ∧ openedSnapshot.updatedAt ≤ closedSnapshot.updatedAt
      ∧ ¬ db.Reflects closedSnapshot := by
  refine ⟨_, rfl, by decide, by decide, fun h => ?_⟩
  -- `Reflects` of a closed snapshot starts with there being no open row.
  exact absurd h.1 (by decide)

theorem reflects_firstOfLast_openThenClose :
    ∃ db p, execAll openThenClose .empty = .ok db
      ∧ firstOfLast (snapshotsOf openedSnapshot.key openThenClose) = some p ∧ db.Reflects p := by
  have hrun : ∃ db, execAll openThenClose .empty = .ok db := ⟨_, rfl⟩
  obtain ⟨db, hdb⟩ := hrun
  obtain ⟨p, hp⟩ := reflects_firstOfLast (k := openedSnapshot.key) hdb (by decide) (by decide)
  exact ⟨db, p, hdb, hp⟩

end PrStorage
