import DeliveryIntelligence.AnalyticsRefresh.DagRun
import DeliveryIntelligence.Library.Table

set_option autoImplicit false

/-!
# The ledger of all runs

`ops.analytics_refresh_runs` with the rows of every Airflow run. `_BEGIN_RUN` finds a row by
`UNIQUE (dag_id, dag_run_id)`, all other statements by the primary key `run_id`, which is a digest
of the two names. As long as no two of the names share a digest, every run has the ledger it would
have in a table of its own (`ledger_isolated`). That the rows have distinct names and satisfy the
constraints needs no such assumption (`kept_runTable`).
-/

namespace AnalyticsRefresh

open Postgres

/-- `ops.analytics_refresh_runs` under its primary key. -/
abbrev RunsTable := Table String RefreshRun

/-- An attempt of the run it names. -/
structure RunAttempt where
  dagId : String
  dagRunId : String
  attempt : Attempt dagId dagRunId

/-- The row with these names. -/
def rowNamed (table : RunsTable) (dagId dagRunId : String) : Option RefreshRun :=
  (table.rows.find? fun entry => entry.2.dagId = dagId ∧ entry.2.dagRunId = dagRunId).map Prod.snd

def Call.begins {dagId dagRunId : String} : Call dagId dagRunId → Bool
  | .beginRun _ _ _ => true
  | _ => false

section

variable (sha256Hex : String → String)

/-- The row the statement of an attempt reads: `ON CONFLICT (dag_id, dag_run_id)` or
`WHERE run_id = ..`. -/
def RunAttempt.addressed (a : RunAttempt) (table : RunsTable) : Option RefreshRun :=
  if a.attempt.call.begins then rowNamed table a.dagId a.dagRunId
  else table.lookup (runId sha256Hex a.dagId a.dagRunId)

/-- The table an attempt leaves and the run id it returns, or why it raises. -/
def RunAttempt.run (a : RunAttempt) (table : RunsTable) : RunsTable × Except Failure String :=
  match a.attempt.run sha256Hex (a.addressed sha256Hex table) with
  | (_, .error failure) => (table, .error failure)
  | (none, .ok id) => (table, .ok id)
  | (some row, .ok id) =>
      -- the conflict target does not cover the primary key
      if (a.addressed sha256Hex table).isNone ∧ (table.lookup row.runId).isSome then
        (table, .error (.database (.unique "analytics_refresh_runs_pkey")))
      else (table.insert row.runId row, .ok id)

/-- The table after a sequence of attempts. -/
def runTable (attempts : List RunAttempt) : RunsTable :=
  attempts.foldl (fun table a => (a.run sha256Hex table).1) ∅

theorem runTable_concat (attempts : List RunAttempt) (a : RunAttempt) :
    runTable sha256Hex (attempts ++ [a]) = (a.run sha256Hex (runTable sha256Hex attempts)).1 :=
  List.foldl_concat _ _ _ _

end

/-! ## One attempt -/

section

variable {sha256Hex : String → String} {table : RunsTable}

theorem mem_of_rowNamed {dagId dagRunId : String} {row : RefreshRun}
    (h : rowNamed table dagId dagRunId = some row) :
    row.dagId = dagId ∧ row.dagRunId = dagRunId ∧ ∃ k, table.lookup k = some row := by
  obtain ⟨⟨k, row'⟩, hfind, rfl⟩ := Option.map_eq_some_iff.mp h
  have hfound := List.find?_some hfind
  have hnames : row'.dagId = dagId ∧ row'.dagRunId = dagRunId := of_decide_eq_true hfound
  exact ⟨hnames.1, hnames.2, k, Table.mem_rows.mp (List.mem_of_find?_eq_some hfind)⟩

theorem names_of_rowNamed_eq_none {dagId dagRunId : String}
    (h : rowNamed table dagId dagRunId = none) {k : String} {row : RefreshRun}
    (hrow : table.lookup k = some row) : ¬ (row.dagId = dagId ∧ row.dagRunId = dagRunId) := by
  have hfind := List.find?_eq_none.mp (Option.map_eq_none_iff.mp h) (k, row)
    (Table.mem_rows.mpr hrow)
  exact fun hnames => hfind (decide_eq_true hnames)

/-- The row an attempt reads stands in the table. -/
theorem lookup_of_addressed {a : RunAttempt} {row : RefreshRun}
    (h : a.addressed sha256Hex table = some row) : ∃ k, table.lookup k = some row := by
  unfold RunAttempt.addressed at h
  by_cases hbegins : a.attempt.call.begins = true
  · rw [if_pos hbegins] at h
    exact (mem_of_rowNamed h).2.2
  · rw [if_neg hbegins] at h
    exact ⟨_, h⟩

/-- Only `_BEGIN_RUN` makes a row where it finds none. -/
theorem statement_none {dagId dagRunId : String} {c : Call dagId dagRunId}
    (h : c.begins = false) : c.statement sha256Hex none = .ok (none, none) := by
  cases c with
  | beginRun identity startedAt sourceRelation => cases h
  | recordSource summary => rfl
  | recordWatermark watermark => rfl
  | recordBuild summary => rfl
  | resumeBuild => rfl
  | finishSuccess finishedAt => rfl
  | finishFailure finishedAt category errorSummary summary => rfl

variable (sha256Hex) in
/-- An attempt raises and keeps the row, or stores a valid one: that of a new run, or one under
the keys of the row it read. -/
theorem attempt_cases {dagId dagRunId : String} (a : Attempt dagId dagRunId)
    (ledger : Option RefreshRun) :
    (∃ failure, a.run sha256Hex ledger = (ledger, .error failure))
    ∨ ∃ new, a.run sha256Hex ledger = (some new, .ok new.runId) ∧ new.Valid
      ∧ ((ledger = none ∧ a.call.begins = true ∧ new.runId = runId sha256Hex dagId dagRunId
          ∧ new.dagId = dagId ∧ new.dagRunId = dagRunId)
        ∨ ∃ old ∈ ledger, new.runId = old.runId ∧ new.dagId = old.dagId
          ∧ new.dagRunId = old.dagRunId) := by
  unfold Attempt.run
  by_cases haborts : a.aborts = true
  · exact Or.inl ⟨.aborted, if_pos haborts⟩
  rw [if_neg haborts]
  unfold Call.run
  cases hs : a.call.statement sha256Hex ledger with
  | error e => exact Or.inl ⟨.database e, rfl⟩
  | ok result =>
      obtain ⟨ledger', id⟩ := result
      have hkeys := keys_of_statement hs
      rcases statement_ok hs with ⟨rfl, rfl⟩ | ⟨new, rfl, rfl, hpass, -⟩
      · exact Or.inl ⟨_, rfl⟩
      refine Or.inr ⟨new, rfl, enforce_iff_valid.mp hpass, ?_⟩
      rcases hkeys new rfl with ⟨hnone, hnew⟩ | hold
      · refine Or.inl ⟨hnone, ?_, hnew⟩
        by_contra hbegins
        rw [hnone, statement_none (Bool.eq_false_of_not_eq_true hbegins)] at hs
        cases hs
      · exact Or.inr hold

/-! ## What every table keeps -/

/-- The rows are valid, stand under their run id and have distinct names. -/
structure RunsKept (table : RunsTable) : Prop where
  valid : ∀ k row, table.lookup k = some row → row.Valid
  keyed : ∀ k row, table.lookup k = some row → row.runId = k
  names : ∀ k k' row row', table.lookup k = some row → table.lookup k' = some row' →
    row.dagId = row'.dagId → row.dagRunId = row'.dagRunId → k = k'

theorem runsKept_empty : RunsKept ∅ where
  valid _ _ h := nomatch h
  keyed _ _ h := nomatch h
  names _ _ _ _ h := nomatch h

/-- A stored row keeps the table if no row under another key has its names. -/
theorem RunsKept.insert (h : RunsKept table) {new : RefreshRun} (hvalid : new.Valid)
    (hnames : ∀ k row, table.lookup k = some row → k ≠ new.runId →
      ¬ (row.dagId = new.dagId ∧ row.dagRunId = new.dagRunId)) :
    RunsKept (AList.insert new.runId new table) where
  valid k row hrow := by
    by_cases hk : k = new.runId
    · rw [hk, AList.lookup_insert] at hrow
      cases hrow
      exact hvalid
    · rw [AList.lookup_insert_ne hk] at hrow
      exact h.valid k row hrow
  keyed k row hrow := by
    by_cases hk : k = new.runId
    · rw [hk, AList.lookup_insert] at hrow
      cases hrow
      exact hk.symm
    · rw [AList.lookup_insert_ne hk] at hrow
      exact h.keyed k row hrow
  names k k' row row' hrow hrow' hdag hrun := by
    by_cases hk : k = new.runId
    · by_cases hk' : k' = new.runId
      · rw [hk, hk']
      · rw [hk, AList.lookup_insert] at hrow
        rw [AList.lookup_insert_ne hk'] at hrow'
        cases hrow
        exact absurd ⟨hdag.symm, hrun.symm⟩ (hnames k' row' hrow' hk')
    · rw [AList.lookup_insert_ne hk] at hrow
      by_cases hk' : k' = new.runId
      · rw [hk', AList.lookup_insert] at hrow'
        cases hrow'
        exact absurd ⟨hdag, hrun⟩ (hnames k row hrow hk)
      · rw [AList.lookup_insert_ne hk'] at hrow'
        exact h.names k k' row row' hrow hrow' hdag hrun

theorem RunsKept.run (h : RunsKept table) (a : RunAttempt) :
    RunsKept (a.run sha256Hex table).1 := by
  unfold RunAttempt.run
  rcases attempt_cases sha256Hex a.attempt (a.addressed sha256Hex table) with
    ⟨failure, hrun⟩ | ⟨new, hrun, hvalid, hkeys⟩
  · rw [hrun]
    exact h
  rw [hrun]
  dsimp only
  by_cases htaken : (a.addressed sha256Hex table).isNone = true
      ∧ (table.lookup new.runId).isSome = true
  · rw [if_pos htaken]
    exact h
  rw [if_neg htaken]
  refine h.insert hvalid fun k row hrow hk hnames => ?_
  rcases hkeys with ⟨hnone, hbegins, -, hdag, hdagRun⟩ | ⟨old, hold, hid, hdag, hdagRun⟩
  -- a new run: `ON CONFLICT` found no row with its names
  · have hnamed : rowNamed table a.dagId a.dagRunId = none := by
      have haddressed := hnone
      unfold RunAttempt.addressed at haddressed
      rwa [if_pos hbegins] at haddressed
    exact names_of_rowNamed_eq_none hnamed hrow
      ⟨hnames.1.trans hdag, hnames.2.trans hdagRun⟩
  -- an old one: it is the only row with its names
  · obtain ⟨k', hrow'⟩ := lookup_of_addressed hold
    have hsame : k = k' :=
      h.names k k' row old hrow hrow' (hnames.1.trans hdag) (hnames.2.trans hdagRun)
    exact hk (hsame.trans ((h.keyed k' old hrow').symm.trans hid.symm))

theorem kept_runTable (attempts : List RunAttempt) : RunsKept (runTable sha256Hex attempts) := by
  induction attempts using List.reverseRecOn with
  | nil => exact runsKept_empty
  | append_singleton attempts a ih =>
      rw [runTable_concat]
      exact ih.run a

end

/-! ## Names and digests -/

/-- What `run_id` takes the digest of. -/
def RunAttempt.digested (a : RunAttempt) : String :=
  a.dagId ++ String.singleton (Char.ofNat 0) ++ a.dagRunId

/-- No two of the names share a digest. -/
def CollisionFree (sha256Hex : String → String) (attempts : List RunAttempt) : Prop :=
  ∀ a ∈ attempts, ∀ b ∈ attempts, sha256Hex a.digested = sha256Hex b.digested →
    a.digested = b.digested

/-- Names without a NUL are told apart by what lies before and behind the separator. -/
theorem names_of_digested {dagId dagRunId dagId' dagRunId' : String}
    (h : dagId ++ String.singleton (Char.ofNat 0) ++ dagRunId
      = dagId' ++ String.singleton (Char.ofNat 0) ++ dagRunId')
    (hdag : fitsText dagId') (hrun : fitsText dagRunId') :
    dagId = dagId' ∧ dagRunId = dagRunId' := by
  have hfree : ∀ {s : String}, fitsText s = true → Char.ofNat 0 ∉ s.toList := by
    intro s hs hmem
    exact absurd (List.all_eq_true.mp hs _ hmem) (by decide)
  have hlist : dagId.toList ++ Char.ofNat 0 :: dagRunId.toList
      = dagId'.toList ++ Char.ofNat 0 :: dagRunId'.toList := by
    have := congrArg String.toList h
    simpa using this
  obtain ⟨hfirst, -, hsecond⟩ :=
    (List.append_cons_inj_of_notMem (hfree hdag) (hfree hrun)).mp hlist.symm
  exact ⟨String.toList_inj.mp hfirst.symm, String.toList_inj.mp hsecond.symm⟩

/-- Distinct runs have distinct run ids. -/
theorem names_of_runId {sha256Hex : String → String} {attempts : List RunAttempt}
    (hfree : CollisionFree sha256Hex attempts) {a b : RunAttempt} (ha : a ∈ attempts)
    (hb : b ∈ attempts) (hdag : fitsText b.dagId) (hrun : fitsText b.dagRunId)
    (h : runId sha256Hex a.dagId a.dagRunId = runId sha256Hex b.dagId b.dagRunId) :
    a.dagId = b.dagId ∧ a.dagRunId = b.dagRunId := by
  have hdigest : sha256Hex a.digested = sha256Hex b.digested := (String.append_right_inj _).mp h
  exact names_of_digested (hfree a ha b hb hdigest) hdag hrun

/-! ## The table and the runs -/

/-- The attempt, if it is one of this run. -/
def RunAttempt.of (dagId dagRunId : String) (a : RunAttempt) : Option (Attempt dagId dagRunId) :=
  if h : a.dagId = dagId ∧ a.dagRunId = dagRunId then some (h.1 ▸ h.2 ▸ a.attempt) else none

/-- The attempts of one run. -/
def ownAttempts (attempts : List RunAttempt) (dagId dagRunId : String) :
    List (Attempt dagId dagRunId) :=
  attempts.filterMap (RunAttempt.of dagId dagRunId)

theorem ownAttempts_concat_self (attempts : List RunAttempt) (a : RunAttempt) :
    ownAttempts (attempts ++ [a]) a.dagId a.dagRunId
      = ownAttempts attempts a.dagId a.dagRunId ++ [a.attempt] := by
  unfold ownAttempts
  rw [List.filterMap_append]
  simp [RunAttempt.of]

theorem ownAttempts_concat_of_ne (attempts : List RunAttempt) {a b : RunAttempt}
    (h : ¬ (b.dagId = a.dagId ∧ b.dagRunId = a.dagRunId)) :
    ownAttempts (attempts ++ [b]) a.dagId a.dagRunId
      = ownAttempts attempts a.dagId a.dagRunId := by
  unfold ownAttempts
  rw [List.filterMap_append]
  simp [RunAttempt.of, h]

section

variable (sha256Hex : String → String)

/-- The ledger a run would have in a table of its own. -/
def ownLedger (attempts : List RunAttempt) (dagId dagRunId : String) : Option RefreshRun :=
  runAll sha256Hex (ownAttempts attempts dagId dagRunId) none

variable {sha256Hex}

theorem ownLedger_concat_self (attempts : List RunAttempt) (a : RunAttempt) :
    ownLedger sha256Hex (attempts ++ [a]) a.dagId a.dagRunId
      = (a.attempt.run sha256Hex (ownLedger sha256Hex attempts a.dagId a.dagRunId)).1 := by
  unfold ownLedger runAll
  rw [ownAttempts_concat_self, List.foldl_concat]

theorem ownLedger_concat_of_ne (attempts : List RunAttempt) {a b : RunAttempt}
    (h : ¬ (b.dagId = a.dagId ∧ b.dagRunId = a.dagRunId)) :
    ownLedger sha256Hex (attempts ++ [b]) a.dagId a.dagRunId
      = ownLedger sha256Hex attempts a.dagId a.dagRunId := by
  unfold ownLedger
  rw [ownAttempts_concat_of_ne attempts h]

end

/-- The table of the runs of `all` holds under each run id the ledger of that run alone. -/
structure Isolated (sha256Hex : String → String) (all before : List RunAttempt)
    (table : RunsTable) : Prop where
  valid : ∀ k row, table.lookup k = some row → row.Valid
  owned : ∀ k row, table.lookup k = some row →
    ∃ a ∈ all, k = runId sha256Hex a.dagId a.dagRunId ∧ row.runId = k ∧ row.dagId = a.dagId
      ∧ row.dagRunId = a.dagRunId
  ledger : ∀ a ∈ all, table.lookup (runId sha256Hex a.dagId a.dagRunId)
    = ownLedger sha256Hex before a.dagId a.dagRunId

section

variable {sha256Hex : String → String} {all before : List RunAttempt} {table : RunsTable}

/-- Both ways to address a run find its own ledger. -/
theorem Isolated.rowNamed_eq (h : Isolated sha256Hex all before table)
    (hfree : CollisionFree sha256Hex all) {a : RunAttempt} (ha : a ∈ all) :
    rowNamed table a.dagId a.dagRunId = ownLedger sha256Hex before a.dagId a.dagRunId := by
  rw [← h.ledger a ha]
  cases hnamed : rowNamed table a.dagId a.dagRunId with
  | some row =>
      obtain ⟨hdag, hrun, k, hrow⟩ := mem_of_rowNamed hnamed
      obtain ⟨b, -, hk, -, hdag', hrun'⟩ := h.owned k row hrow
      rw [← hdag, ← hrun, hdag', hrun', ← hk, hrow]
  | none =>
      cases hlookup : table.lookup (runId sha256Hex a.dagId a.dagRunId) with
      | none => rfl
      | some row =>
          obtain ⟨b, hb, hk, -, hdag, hrun⟩ := h.owned _ row hlookup
          have htexts := (h.valid _ row hlookup).keys.texts
          obtain ⟨hdag', hrun'⟩ := names_of_runId hfree ha hb (hdag ▸ htexts.2.1)
            (hrun ▸ htexts.2.2.1) hk
          exact absurd ⟨hdag.trans hdag'.symm, hrun.trans hrun'.symm⟩
            (names_of_rowNamed_eq_none hnamed hlookup)

theorem Isolated.addressed_eq (h : Isolated sha256Hex all before table)
    (hfree : CollisionFree sha256Hex all) {a : RunAttempt} (ha : a ∈ all) :
    a.addressed sha256Hex table = ownLedger sha256Hex before a.dagId a.dagRunId := by
  unfold RunAttempt.addressed
  by_cases hbegins : a.attempt.call.begins = true
  · rw [if_pos hbegins]
    exact h.rowNamed_eq hfree ha
  · rw [if_neg hbegins]
    exact h.ledger a ha

/-- The row of the run, if there is one, has its keys. -/
theorem Isolated.keys (h : Isolated sha256Hex all before table)
    (hfree : CollisionFree sha256Hex all) {a : RunAttempt} (ha : a ∈ all) {row : RefreshRun}
    (hrow : ownLedger sha256Hex before a.dagId a.dagRunId = some row) :
    row.runId = runId sha256Hex a.dagId a.dagRunId ∧ row.dagId = a.dagId
      ∧ row.dagRunId = a.dagRunId := by
  obtain ⟨-, -, -, hid, -⟩ := h.owned _ row ((h.ledger a ha).trans hrow)
  obtain ⟨hdag, hrun, -⟩ := mem_of_rowNamed ((h.rowNamed_eq hfree ha).trans hrow)
  exact ⟨hid, hdag, hrun⟩

/-- An attempt does in the table what it does in the ledger of its run. -/
theorem Isolated.run_eq (h : Isolated sha256Hex all before table)
    (hfree : CollisionFree sha256Hex all) {a : RunAttempt} (ha : a ∈ all) :
    (∃ failure, a.attempt.run sha256Hex (ownLedger sha256Hex before a.dagId a.dagRunId)
        = (ownLedger sha256Hex before a.dagId a.dagRunId, .error failure)
      ∧ a.run sha256Hex table = (table, .error failure))
    ∨ ∃ new, a.attempt.run sha256Hex (ownLedger sha256Hex before a.dagId a.dagRunId)
        = (some new, .ok new.runId)
      ∧ a.run sha256Hex table = (table.insert new.runId new, .ok new.runId) ∧ new.Valid
      ∧ new.runId = runId sha256Hex a.dagId a.dagRunId ∧ new.dagId = a.dagId
      ∧ new.dagRunId = a.dagRunId := by
  unfold RunAttempt.run
  rw [h.addressed_eq hfree ha]
  rcases attempt_cases sha256Hex a.attempt
    (ownLedger sha256Hex before a.dagId a.dagRunId) with
    ⟨failure, hrun⟩ | ⟨new, hrun, hvalid, hkeys⟩
  · rw [hrun]
    exact Or.inl ⟨failure, rfl, rfl⟩
  right
  rw [hrun]
  have hown : new.runId = runId sha256Hex a.dagId a.dagRunId ∧ new.dagId = a.dagId
      ∧ new.dagRunId = a.dagRunId := by
    rcases hkeys with ⟨-, -, hnew⟩ | ⟨old, hold, hid, hdag, hdagRun⟩
    · exact hnew
    · obtain ⟨hid', hdag', hdagRun'⟩ := h.keys hfree ha hold
      exact ⟨hid.trans hid', hdag.trans hdag', hdagRun.trans hdagRun'⟩
  -- a run without a row has no row under its run id either
  have hfresh : ¬ ((ownLedger sha256Hex before a.dagId a.dagRunId).isNone = true
      ∧ (table.lookup new.runId).isSome = true) := by
    rintro ⟨hnone, hsome⟩
    rw [hown.1, h.ledger a ha, Option.isNone_iff_eq_none.mp hnone] at hsome
    cases hsome
  refine ⟨new, rfl, ?_, hvalid, hown⟩
  dsimp only
  rw [if_neg hfresh]

/-- One attempt keeps the runs apart. -/
theorem Isolated.step (h : Isolated sha256Hex all before table)
    (hfree : CollisionFree sha256Hex all) {b : RunAttempt} (hb : b ∈ all) :
    Isolated sha256Hex all (before ++ [b]) (b.run sha256Hex table).1 := by
  have hself : ∀ a ∈ all, b.dagId = a.dagId ∧ b.dagRunId = a.dagRunId →
      ownLedger sha256Hex (before ++ [b]) a.dagId a.dagRunId
        = (b.attempt.run sha256Hex (ownLedger sha256Hex before b.dagId b.dagRunId)).1 := by
    rintro a - ⟨hdag, hrun⟩
    rw [← hdag, ← hrun]
    exact ownLedger_concat_self before b
  rcases h.run_eq hfree hb with
    ⟨failure, hown, hrun⟩ | ⟨new, hown, hrun, hvalid, hid, hdag, hdagRun⟩
  · rw [hrun]
    refine ⟨h.valid, h.owned, fun a ha => ?_⟩
    rw [h.ledger a ha]
    by_cases hnames : b.dagId = a.dagId ∧ b.dagRunId = a.dagRunId
    · rw [hself a ha hnames, hown, hnames.1, hnames.2]
    · exact (ownLedger_concat_of_ne before hnames).symm
  · rw [hrun]
    refine ⟨fun k row hrow => ?_, fun k row hrow => ?_, fun a ha => ?_⟩
    · by_cases hk : k = new.runId
      · rw [hk, AList.lookup_insert] at hrow
        cases hrow
        exact hvalid
      · rw [AList.lookup_insert_ne hk] at hrow
        exact h.valid k row hrow
    · by_cases hk : k = new.runId
      · rw [hk, AList.lookup_insert] at hrow
        cases hrow
        exact ⟨b, hb, hk.trans hid, hk.symm, hdag, hdagRun⟩
      · rw [AList.lookup_insert_ne hk] at hrow
        exact h.owned k row hrow
    · by_cases hnames : b.dagId = a.dagId ∧ b.dagRunId = a.dagRunId
      · rw [hself a ha hnames, hown, ← hnames.1, ← hnames.2, ← hid]
        exact AList.lookup_insert table
      · -- the row was stored, so the names of its run have no NUL and its id is its own
        have hne : runId sha256Hex a.dagId a.dagRunId ≠ new.runId := by
          intro heq
          have hfits := hvalid.keys.texts
          obtain ⟨hsame, hsame'⟩ := names_of_runId hfree ha hb (hdag ▸ hfits.2.1)
            (hdagRun ▸ hfits.2.2.1) (heq.trans hid)
          exact hnames ⟨hsame.symm, hsame'.symm⟩
        rw [AList.lookup_insert_ne hne, h.ledger a ha, ownLedger_concat_of_ne before hnames]

theorem isolated_runTable (hfree : CollisionFree sha256Hex all) (hbefore : before <+: all) :
    Isolated sha256Hex all before (runTable sha256Hex before) := by
  induction before using List.reverseRecOn with
  | nil => exact ⟨fun _ _ h => (nomatch h), fun _ _ h => (nomatch h), fun _ _ => rfl⟩
  | append_singleton before b ih =>
      rw [runTable_concat]
      have hmem : b ∈ all := hbefore.subset (List.mem_append_right _ List.mem_cons_self)
      exact (ih ((List.prefix_append before [b]).trans hbefore)).step hfree hmem

end

/-- **Runs do not meet in the table.** As long as no two names share a digest: behind any attempts
of any runs, each run has the row and each attempt got the answer it would have had in a table of
its own, and the table has no other rows. -/
theorem ledger_isolated (sha256Hex : String → String) (attempts : List RunAttempt)
    (hfree : CollisionFree sha256Hex attempts) :
    let table := runTable sha256Hex attempts
    (∀ a ∈ attempts, rowNamed table a.dagId a.dagRunId
      = runAll sha256Hex (ownAttempts attempts a.dagId a.dagRunId) none)
    ∧ (∀ before a, before ++ [a] <+: attempts →
        (a.run sha256Hex (runTable sha256Hex before)).2
          = (a.attempt.run sha256Hex
              (runAll sha256Hex (ownAttempts before a.dagId a.dagRunId) none)).2)
    ∧ ∀ k row, table.lookup k = some row →
        ∃ a ∈ attempts, row.dagId = a.dagId ∧ row.dagRunId = a.dagRunId
          ∧ k = runId sha256Hex a.dagId a.dagRunId := by
  intro table
  have hisolated := isolated_runTable hfree (List.prefix_refl attempts)
  refine ⟨fun a ha => hisolated.rowNamed_eq hfree ha, fun before a hbefore => ?_,
    fun k row hrow => ?_⟩
  · have hmem : a ∈ attempts := hbefore.subset (List.mem_append_right _ List.mem_cons_self)
    have hprefix := (List.prefix_append before [a]).trans hbefore
    rcases (isolated_runTable hfree hprefix).run_eq hfree hmem with
      ⟨failure, hown, hrun⟩ | ⟨new, hown, hrun, -⟩
    · rw [hrun]
      exact (congrArg Prod.snd hown).symm
    · rw [hrun]
      exact (congrArg Prod.snd hown).symm
  · obtain ⟨a, ha, hk, -, hdag, hrun⟩ := hisolated.owned k row hrow
    exact ⟨a, ha, hdag, hrun, hk⟩

/-- A scheduled and a manual run that overlap. -/
def overlappingRuns : List RunAttempt :=
  [ ⟨"analytics_refresh", "scheduled__2026-07-25", firstAttempt⟩
  , ⟨"analytics_refresh", "manual__2026-07-25",
      ⟨.beginRun ⟨1, 1, 1, by decide, le_refl 1⟩ 1 "raw.github_events", false⟩⟩
  , ⟨"analytics_refresh", "scheduled__2026-07-25", ⟨.finishSuccess 2, false⟩⟩ ]

/-- The digests of the two names. -/
def overlappingDigests (name : String) : String :=
  if name = "analytics_refresh" ++ String.singleton (Char.ofNat 0) ++ "scheduled__2026-07-25" then
    "376ce4e285f4916d1df7c74857df3e9bbb5dc7645f2f49a8a8781df0682989c4"
  else "8b180663bf557b40fae94d209b4da441de6a21366e5ffc64b081b9c7e2116ad2"

theorem ledger_isolated_overlapping :
    (rowNamed (runTable overlappingDigests overlappingRuns) "analytics_refresh"
        "scheduled__2026-07-25").map (·.status) = some .succeeded
    ∧ (rowNamed (runTable overlappingDigests overlappingRuns) "analytics_refresh"
        "manual__2026-07-25").map (·.status) = some .running := by
  have hfree : CollisionFree overlappingDigests overlappingRuns := by
    unfold CollisionFree
    decide
  obtain ⟨hrows, -, -⟩ := ledger_isolated overlappingDigests overlappingRuns hfree
  constructor
  · rw [hrows ⟨"analytics_refresh", "scheduled__2026-07-25", firstAttempt⟩ List.mem_cons_self]
    decide
  · rw [hrows ⟨"analytics_refresh", "manual__2026-07-25", _⟩
      (List.mem_cons_of_mem _ List.mem_cons_self)]
    decide

end AnalyticsRefresh
