import DeliveryIntelligence.Library.Table

set_option autoImplicit false

/-!
# Transactions at READ COMMITTED

A `Database` names the rows of its tables, so that a transaction can keep the rows it has
written to itself. A session runs the statements of one transaction. A statement sees the
rows committed when it starts, except that the session reads the rows it has locked as it left
them (`view`); it locks the rows it writes until the transaction ends, and it does not start
while another session holds one of them. A commit publishes the locked rows and an abort
forgets them. A reader takes no lock.

`Exclusive` says that no row is locked by two sessions. `run_induction` carries an invariant
through every schedule whose steps meet a guard.
-/

namespace ReadCommitted

/-- Tables `σ` with rows named by `κ`, the statements on them, and the transactions that
execute them. A statement also gives the statements that its transaction executes next because
of its result. -/
structure Database (κ σ Stmt Call ε : Type) where
  Row : κ → Type
  get : (k : κ) → σ → Option (Row k)
  set : (k : κ) → Option (Row k) → σ → σ
  /-- the statements of a transaction before any result is known -/
  program : Call → List Stmt
  exec : Stmt → σ → Except ε (σ × List Stmt)
  locks : Stmt → σ → List κ
  get_set : ∀ k row db, get k (set k row db) = row
  get_set_ne : ∀ {k k'} row db, k' ≠ k → get k' (set k row db) = get k' db
  /-- a statement changes only the rows it locks -/
  frame : ∀ {stmt db db' follow}, exec stmt db = .ok (db', follow) →
    ∀ k, k ∉ locks stmt db → get k db' = get k db

/-- A transaction in progress. -/
structure Session (κ σ Stmt : Type) where
  /-- the statements still to be executed -/
  program : List Stmt
  /-- the tables as the last statement left them; only the locked rows count -/
  version : σ
  locked : List κ

/-- The committed tables and the transactions in progress. -/
structure State (ι κ σ Stmt : Type) where
  committed : σ
  sessions : Table ι (Session κ σ Stmt)

inductive Action (ι Call : Type)
  | begin (t : ι) (c : Call)
  | statement (t : ι)
  | commit (t : ι)
  | abort (t : ι)

variable {ι κ σ Stmt Call ε : Type} [DecidableEq ι] [DecidableEq κ]

namespace Database

variable (D : Database κ σ Stmt Call ε)

/-- The tables `onto` with the given rows as `src` has them. -/
def patch (rows : List κ) (src onto : σ) : σ :=
  rows.foldr (fun k db => D.set k (D.get k src) db) onto

/-- What a session reads. -/
def view (committed : σ) (ses : Session κ σ Stmt) : σ :=
  D.patch ses.locked ses.version committed

theorem get_patch (rows : List κ) (src onto : σ) (k : κ) :
    D.get k (D.patch rows src onto) = if k ∈ rows then D.get k src else D.get k onto := by
  induction rows with
  | nil => simp [patch]
  | cons row rows ih =>
      -- a row listed twice is set twice to the same value
      have hstep : D.patch (row :: rows) src onto
          = D.set row (D.get row src) (D.patch rows src onto) := rfl
      rw [hstep]
      by_cases hk : k = row
      · subst hk
        rw [D.get_set, if_pos List.mem_cons_self]
      · rw [D.get_set_ne _ _ hk, ih]
        simp [hk]

/-- A session reads the rows it has locked as it left them. -/
theorem get_view_locked {committed : σ} {ses : Session κ σ Stmt} {k : κ} (h : k ∈ ses.locked) :
    D.get k (D.view committed ses) = D.get k ses.version := by
  rw [view, get_patch, if_pos h]

/-- It reads every other row as it is committed. -/
theorem get_view_committed {committed : σ} {ses : Session κ σ Stmt} {k : κ}
    (h : k ∉ ses.locked) : D.get k (D.view committed ses) = D.get k committed := by
  rw [view, get_patch, if_neg h]

/-- No session other than `t` holds one of the rows. -/
def free (sessions : Table ι (Session κ σ Stmt)) (t : ι) (rows : List κ) : Bool :=
  sessions.rows.all fun (t', ses) => decide (t' = t) || rows.all fun k => !ses.locked.contains k

/-- One action, where it is enabled. A statement that is rejected, like one that waits, is
not: its transaction can only be aborted. -/
def step (s : State ι κ σ Stmt) : Action ι Call → Option (State ι κ σ Stmt)
  | .begin t c =>
      match s.sessions.lookup t with
      | some _ => none
      | none => some { s with sessions := s.sessions.insert t ⟨D.program c, s.committed, []⟩ }
  | .statement t => do
      let ses ← s.sessions.lookup t
      match ses.program with
      | [] => none
      | stmt :: rest =>
          let seen := D.view s.committed ses
          let rows := D.locks stmt seen
          if free s.sessions t rows then
            match D.exec stmt seen with
            | .error _ => none
            | .ok (version, follow) =>
                some { s with
                  sessions := s.sessions.insert t ⟨follow ++ rest, version, rows ++ ses.locked⟩ }
          else none
  | .commit t => do
      let ses ← s.sessions.lookup t
      match ses.program with
      | [] => some ⟨D.view s.committed ses, s.sessions.erase t⟩
      | _ :: _ => none
  | .abort t => do
      let _ ← s.sessions.lookup t
      some { s with sessions := s.sessions.erase t }

/-- A schedule, executed to its end. -/
def run (schedule : List (Action ι Call)) (s : State ι κ σ Stmt) : Option (State ι κ σ Stmt) :=
  schedule.foldlM D.step s

/-- Every action of the schedule meets the guard in the state it is taken in. -/
def Meets (guard : State ι κ σ Stmt → Action ι Call → Bool) :
    List (Action ι Call) → State ι κ σ Stmt → Bool
  | [], _ => true
  | a :: rest, s =>
      guard s a && match D.step s a with
        | none => true
        | some s' => Meets guard rest s'

/-- The statements executed one after the other with nothing in between. -/
inductive Executes : List Stmt → σ → σ → Prop
  | done (db : σ) : Executes [] db db
  | next {stmt : Stmt} {rest follow : List Stmt} {db db₁ db' : σ}
      (first : D.exec stmt db = .ok (db₁, follow)) (others : Executes (follow ++ rest) db₁ db') :
      Executes (stmt :: rest) db db'

/-! ## What one step does -/

/-- The four kinds of step, with everything the action was enabled by. -/
inductive Stepped (s : State ι κ σ Stmt) : Action ι Call → State ι κ σ Stmt → Prop
  | begin {t : ι} {c : Call} (idle : s.sessions.lookup t = none) :
      Stepped s (.begin t c)
        { s with sessions := s.sessions.insert t ⟨D.program c, s.committed, []⟩ }
  | statement {t : ι} {ses : Session κ σ Stmt} {stmt : Stmt} {rest follow : List Stmt}
      {version : σ} (active : s.sessions.lookup t = some ses)
      (next : ses.program = stmt :: rest)
      (unlocked : ∀ k ∈ D.locks stmt (D.view s.committed ses), ∀ t' ses', t' ≠ t →
        s.sessions.lookup t' = some ses' → k ∉ ses'.locked)
      (executed : D.exec stmt (D.view s.committed ses) = .ok (version, follow)) :
      Stepped s (.statement t)
        { s with
          sessions := s.sessions.insert t
            ⟨follow ++ rest, version, D.locks stmt (D.view s.committed ses) ++ ses.locked⟩ }
  | commit {t : ι} {ses : Session κ σ Stmt} (active : s.sessions.lookup t = some ses)
      (finished : ses.program = []) :
      Stepped s (.commit t) ⟨D.view s.committed ses, s.sessions.erase t⟩
  | abort {t : ι} {ses : Session κ σ Stmt} (active : s.sessions.lookup t = some ses) :
      Stepped s (.abort t) { s with sessions := s.sessions.erase t }

theorem free_iff {sessions : Table ι (Session κ σ Stmt)} {t : ι} {rows : List κ} :
    free sessions t rows = true
      ↔ ∀ k ∈ rows, ∀ t' ses', t' ≠ t → sessions.lookup t' = some ses' → k ∉ ses'.locked := by
  unfold free
  rw [List.all_eq_true]
  constructor
  · intro h k hk t' ses' ht hses hlocked
    have hfree := h (t', ses') (Table.mem_rows.mpr hses)
    rw [Bool.or_eq_true, List.all_eq_true] at hfree
    rcases hfree with hsame | hall
    · exact ht (of_decide_eq_true hsame)
    · simpa [hlocked] using hall k hk
  · rintro h ⟨t', ses'⟩ hmem
    by_cases ht : t' = t
    · simp [ht]
    · have hall : ∀ k ∈ rows, k ∉ ses'.locked :=
        fun k hk => h k hk t' ses' ht (Table.mem_rows.mp hmem)
      simpa [ht] using hall

theorem stepped_of_step {s s' : State ι κ σ Stmt} {a : Action ι Call}
    (h : D.step s a = some s') : D.Stepped s a s' := by
  cases a with
  | begin t c =>
      unfold step at h
      cases hidle : s.sessions.lookup t with
      | some ses => simp [hidle] at h
      | none =>
          simp only [hidle, Option.some.injEq] at h
          subst h
          exact .begin hidle
  | statement t =>
      obtain ⟨ses, hactive, hrest⟩ := Option.bind_eq_some_iff.mp h
      cases hprogram : ses.program with
      | nil => simp [hprogram] at hrest
      | cons stmt rest =>
          simp only [hprogram] at hrest
          -- a statement runs if the rows it would lock are free and it is not rejected
          split at hrest
          · rename_i hfree
            cases hexec : D.exec stmt (D.view s.committed ses) with
            | error e => simp [hexec] at hrest
            | ok result =>
                obtain ⟨version, follow⟩ := result
                simp only [hexec, Option.some.injEq] at hrest
                subst hrest
                exact .statement hactive hprogram (free_iff.mp hfree) hexec
          · cases hrest
  | commit t =>
      obtain ⟨ses, hactive, hrest⟩ := Option.bind_eq_some_iff.mp h
      cases hprogram : ses.program with
      | nil =>
          simp only [hprogram, Option.some.injEq] at hrest
          subst hrest
          exact .commit hactive hprogram
      | cons stmt rest => simp [hprogram] at hrest
  | abort t =>
      obtain ⟨ses, hactive, hrest⟩ := Option.bind_eq_some_iff.mp h
      cases hrest
      exact .abort hactive

/-! ## Invariants -/

/-- What every allowed step keeps holds after every schedule of allowed steps. -/
theorem run_induction {P : State ι κ σ Stmt → Prop}
    {guard : State ι κ σ Stmt → Action ι Call → Bool}
    (hstep : ∀ {s a s'}, P s → guard s a = true → D.Stepped s a s' → P s')
    {schedule : List (Action ι Call)} {s s' : State ι κ σ Stmt} (hs : P s)
    (hguard : D.Meets guard schedule s = true) (hrun : D.run schedule s = some s') : P s' := by
  -- on the schedule, for every state that satisfies `P`
  induction schedule generalizing s with
  | nil =>
      cases hrun
      exact hs
  | cons a rest ih =>
      obtain ⟨s₁, hfirst, hrest⟩ := Option.bind_eq_some_iff.mp hrun
      rw [Meets, Bool.and_eq_true, hfirst] at hguard
      exact ih (hstep hs hguard.1 (D.stepped_of_step hfirst)) hguard.2 hrest

/-- No row is locked by two sessions. -/
def Exclusive (sessions : Table ι (Session κ σ Stmt)) : Prop :=
  ∀ t t' ses ses' k, t ≠ t' → sessions.lookup t = some ses → sessions.lookup t' = some ses' →
    k ∈ ses.locked → k ∉ ses'.locked

omit [DecidableEq κ] in
theorem lookup_insert_cases {sessions : Table ι (Session κ σ Stmt)} {t t' : ι}
    {new ses : Session κ σ Stmt} (h : (sessions.insert t new).lookup t' = some ses) :
    (t' = t ∧ ses = new) ∨ (t' ≠ t ∧ sessions.lookup t' = some ses) := by
  by_cases ht : t' = t
  · subst ht
    rw [AList.lookup_insert, Option.some.injEq] at h
    exact Or.inl ⟨rfl, h.symm⟩
  · rw [AList.lookup_insert_ne ht] at h
    exact Or.inr ⟨ht, h⟩

omit [DecidableEq κ] in
theorem lookup_erase_cases {sessions : Table ι (Session κ σ Stmt)} {t t' : ι}
    {ses : Session κ σ Stmt} (h : (sessions.erase t).lookup t' = some ses) :
    t' ≠ t ∧ sessions.lookup t' = some ses := by
  by_cases ht : t' = t
  · subst ht
    rw [AList.lookup_erase] at h
    cases h
  · rw [AList.lookup_erase_ne ht] at h
    exact ⟨ht, h⟩

omit [DecidableEq κ] in
theorem exclusive_step {s s' : State ι κ σ Stmt} {a : Action ι Call}
    (h : Exclusive s.sessions) (hstep : D.Stepped s a s') : Exclusive s'.sessions := by
  cases hstep with
  | begin idle =>
      intro t₁ t₂ ses₁ ses₂ k hne h₁ h₂ hk
      -- a new session holds no lock
      rcases lookup_insert_cases h₁ with ⟨-, rfl⟩ | ⟨-, hold₁⟩
      · cases hk
      · rcases lookup_insert_cases h₂ with ⟨-, rfl⟩ | ⟨-, hold₂⟩
        · exact List.not_mem_nil
        · exact h t₁ t₂ ses₁ ses₂ k hne hold₁ hold₂ hk
  | @statement t ses stmt rest follow version active next unlocked executed =>
      intro t₁ t₂ ses₁ ses₂ k hne h₁ h₂ hk
      -- only the locks of `t` grow, by rows that were free: `t` is one of the two or neither
      rcases lookup_insert_cases h₁ with ⟨ht₁, rfl⟩ | ⟨ht₁, hold₁⟩
      · rcases lookup_insert_cases h₂ with ⟨ht₂, -⟩ | ⟨ht₂, hold₂⟩
        · exact absurd (ht₁.trans ht₂.symm) hne
        · rcases List.mem_append.mp hk with hnew | hlocked
          · exact unlocked k hnew t₂ ses₂ ht₂ hold₂
          · exact h t t₂ ses ses₂ k (fun heq => ht₂ heq.symm) active hold₂ hlocked
      · rcases lookup_insert_cases h₂ with ⟨ht₂, rfl⟩ | ⟨ht₂, hold₂⟩
        · intro hmem
          rcases List.mem_append.mp hmem with hnew | hlocked
          · exact unlocked k hnew t₁ ses₁ ht₁ hold₁ hk
          · exact h t₁ t ses₁ ses k ht₁ hold₁ active hk hlocked
        · exact h t₁ t₂ ses₁ ses₂ k hne hold₁ hold₂ hk
  | commit active finished =>
      intro t₁ t₂ ses₁ ses₂ k hne h₁ h₂ hk
      exact h t₁ t₂ ses₁ ses₂ k hne (lookup_erase_cases h₁).2 (lookup_erase_cases h₂).2 hk
  | abort active =>
      intro t₁ t₂ ses₁ ses₂ k hne h₁ h₂ hk
      exact h t₁ t₂ ses₁ ses₂ k hne (lookup_erase_cases h₁).2 (lookup_erase_cases h₂).2 hk

end Database

end ReadCommitted
