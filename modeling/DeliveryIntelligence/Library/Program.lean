import Mathlib.Tactic

set_option autoImplicit false

/-!
# Programs over operations, run by a pool of threads

A program (`Prog`) is a tree of operations: each operation gets a reply from the outside world
and the rest of the program depends on it. A `System` gives the operations their meaning on a
state shared by all threads and a state of the thread's own, with a `Choice` for what the
outside world may do in different ways, and says which threads may be started. `System.run`
executes a schedule: at each point a thread is started, takes one operation, is stopped for
good (a crash), or the shared state changes by itself.

Programs are verified thread by thread. `Ok` says that a program keeps an invariant `inv` of
the shared state, changes it only as `ext` allows, and may rely on the same of every other
thread. `System.Sound.run` turns this into a statement about every schedule.
-/

namespace Program

/-- A program that uses operations `op : Op` with replies `Reply op`, and returns an `α` or
raises an `ε`. -/
inductive Prog (Op : Type) (Reply : Op → Type) (ε α : Type)
  | pure (a : α)
  | raise (e : ε)
  | call (op : Op) (k : Reply op → Prog Op Reply ε α)

variable {Op : Type} {Reply : Op → Type} {ε α β : Type}

namespace Prog

def bind : Prog Op Reply ε α → (α → Prog Op Reply ε β) → Prog Op Reply ε β
  | .pure a, f => f a
  | .raise e, _ => .raise e
  | .call op k, f => .call op fun r => (k r).bind f

instance : Monad (Prog Op Reply ε) where
  pure := .pure
  bind := bind

/-- The program that performs one operation and returns its reply. -/
def perform (op : Op) : Prog Op Reply ε (Reply op) := .call op .pure

/-- A computation without operations. -/
def ofExcept : Except ε α → Prog Op Reply ε α
  | .ok a => .pure a
  | .error e => .raise e

/-- What follows a computation without operations matters at its value only. -/
theorem ofExcept_bind_congr {x : Except ε α} {f g : α → Prog Op Reply ε β}
    (h : ∀ a, x = .ok a → f a = g a) : (ofExcept x >>= f) = (ofExcept x >>= g) := by
  cases x with
  | ok a => exact h a rfl
  | error e => rfl

end Prog

/-! ## Systems -/

/-- What the operations do, what the shared state does by itself, and which threads may be
started. -/
structure System (Op : Type) (Reply : Op → Type) (ε α Shared Local : Type) where
  Choice : Op → Type
  act : (op : Op) → Choice op → Shared → Local → Reply op × Shared × Local
  Disturbance : Type
  disturb : Disturbance → Shared → Shared
  Start : Type
  start : Start → Shared → Prog Op Reply ε α × Local

variable {Shared Local : Type}

namespace System

/-- One entry of a schedule. Threads are addressed by position. -/
inductive Event (W : System Op Reply ε α Shared Local)
  | start (a : W.Start)
  | act (i : Nat) (choice : (op : Op) → W.Choice op)
  | stop (i : Nat)
  | disturb (d : W.Disturbance)

/-- The shared state and the threads that have not been stopped. -/
structure Pool (W : System Op Reply ε α Shared Local) where
  shared : Shared
  threads : List (Prog Op Reply ε α × Local)

variable (W : System Op Reply ε α Shared Local)

/-- One entry of a schedule; an entry that names no thread with an operation to perform
changes nothing. -/
def step (e : W.Event) (pool : W.Pool) : W.Pool :=
  match e with
  | .start a => { pool with threads := pool.threads ++ [W.start a pool.shared] }
  | .act i choice =>
      match pool.threads[i]? with
      | some (.call op k, l) =>
          let (reply, shared, l') := W.act op (choice op) pool.shared l
          { shared, threads := pool.threads.set i (k reply, l') }
      | _ => pool
  | .stop i => { pool with threads := pool.threads.eraseIdx i }
  | .disturb d => { pool with shared := W.disturb d pool.shared }

def run (schedule : List W.Event) (pool : W.Pool) : W.Pool :=
  schedule.foldl (fun pool e => W.step e pool) pool

theorem run_append (first second : List W.Event) (pool : W.Pool) :
    W.run (first ++ second) pool = W.run second (W.run first pool) := List.foldl_append ..

theorem run_concat (schedule : List W.Event) (e : W.Event) (pool : W.Pool) :
    W.run (schedule ++ [e]) pool = W.step e (W.run schedule pool) := W.run_append schedule [e] pool

theorem step_act {pool : W.Pool} {i : Nat} {choice : (op : Op) → W.Choice op} {op : Op}
    {k : Reply op → Prog Op Reply ε α} {l : Local}
    (hget : pool.threads[i]? = some (.call op k, l)) :
    W.step (.act i choice) pool
      = { shared := (W.act op (choice op) pool.shared l).2.1
          threads := pool.threads.set i
            (k (W.act op (choice op) pool.shared l).1, (W.act op (choice op) pool.shared l).2.2) } := by
  simp only [step, hget]

theorem step_act_idle {pool : W.Pool} {i : Nat} {choice : (op : Op) → W.Choice op}
    (hidle : ∀ op k l, pool.threads[i]? ≠ some (.call op k, l)) :
    W.step (.act i choice) pool = pool := by
  show (match pool.threads[i]? with | some (.call op k, l) => _ | _ => pool) = pool
  split
  -- the one branch that performs an operation is excluded
  · rename_i op k l hget
    exact absurd hget (hidle op k l)
  · rfl

/-! ## Guards

A guard restricts the schedules under consideration by a condition on the state in which an
operation is performed. -/

/-- The operation that an entry performs, if any, meets the guard. -/
def Allowed (guard : Op → Shared → Local → Prop) (e : W.Event) (pool : W.Pool) : Prop :=
  match e with
  | .act i _ => ∀ op k l, pool.threads[i]? = some (.call op k, l) → guard op pool.shared l
  | _ => True

/-- Every entry of the schedule meets the guard in the state it is executed in. -/
def Admissible (guard : Op → Shared → Local → Prop) : List W.Event → W.Pool → Prop
  | [], _ => True
  | e :: rest, pool => W.Allowed guard e pool ∧ Admissible guard rest (W.step e pool)

theorem admissible_true (schedule : List W.Event) (pool : W.Pool) :
    W.Admissible (fun _ _ _ => True) schedule pool := by
  induction schedule generalizing pool with
  | nil => trivial
  | cons e rest ih =>
      refine ⟨?_, ih _⟩
      cases e with
      | act i choice => exact fun _ _ _ _ => trivial
      | start a => trivial
      | stop i => trivial
      | disturb d => trivial

/-! ## A program on its own -/

/-- With nothing in between and with these choices, one for each operation, the program
returns. -/
inductive Returns {γ : Type} : List ((op : Op) → W.Choice op) → Prog Op Reply ε γ → Shared →
    Local → γ → Shared → Local → Prop
  | pure (c : γ) (s : Shared) (l : Local) : Returns [] (.pure c) s l c s l
  | call {choice : (op : Op) → W.Choice op} {rest : List ((op : Op) → W.Choice op)} {op : Op}
      {k : Reply op → Prog Op Reply ε γ} {s s' : Shared} {l l' : Local} {c : γ}
      (others : Returns rest (k (W.act op (choice op) s l).1) (W.act op (choice op) s l).2.1
        (W.act op (choice op) s l).2.2 c s' l') :
      Returns (choice :: rest) (.call op k) s l c s' l'

variable {W} in
theorem Returns.bind {γ δ : Type} {first second : List ((op : Op) → W.Choice op)}
    {p : Prog Op Reply ε γ} {f : γ → Prog Op Reply ε δ} {s s₁ s₂ : Shared} {l l₁ l₂ : Local}
    {c : γ} {d : δ} (hp : W.Returns first p s l c s₁ l₁) (hf : W.Returns second (f c) s₁ l₁ d s₂ l₂) :
    W.Returns (first ++ second) (p >>= f) s l d s₂ l₂ := by
  induction hp with
  | pure c s l => exact hf
  | call _ ih => exact .call (ih hf)

variable {W} in
theorem Returns.perform {γ : Type} {choice : (op : Op) → W.Choice op}
    {rest : List ((op : Op) → W.Choice op)} {op : Op} {f : Reply op → Prog Op Reply ε γ}
    {s s' : Shared} {l l' : Local} {c : γ}
    (h : W.Returns rest (f (W.act op (choice op) s l).1) (W.act op (choice op) s l).2.1
      (W.act op (choice op) s l).2.2 c s' l') :
    W.Returns (choice :: rest) (Prog.perform op >>= f) s l c s' l' := .call h

end System

/-! ## Threads that keep an invariant -/

/-- What the threads of a system promise each other: an invariant of the shared state and the
changes any of them makes to it, under a guard on their operations. -/
structure Contract (Op Shared Local : Type) where
  inv : Shared → Prop
  ext : Shared → Shared → Prop
  guard : Op → Shared → Local → Prop

variable (W : System Op Reply ε α Shared Local) (C : Contract Op Shared Local)

/-- From the shared state `s` the program keeps the contract, as long as the others do, and
what it returns satisfies `post`. -/
def Ok {β : Type} (post : β → Shared → Local → Prop) :
    Prog Op Reply ε β → Shared → Local → Prop
  | .pure b, s, l => ∀ s', C.ext s s' → C.inv s' → post b s' l
  | .raise _, _, _ => True
  | .call op k, s, l => ∀ s', C.ext s s' → C.inv s' → C.guard op s' l → ∀ choice,
      C.inv (W.act op choice s' l).2.1 ∧ C.ext s' (W.act op choice s' l).2.1
      ∧ Ok post (k (W.act op choice s' l).1) (W.act op choice s' l).2.1
          (W.act op choice s' l).2.2

/-- A system whose threads and disturbances keep the contract. -/
structure System.Sound : Prop where
  refl : ∀ s, C.ext s s
  trans : ∀ s₁ s₂ s₃, C.ext s₁ s₂ → C.ext s₂ s₃ → C.ext s₁ s₃
  start : ∀ a s, C.inv s → Ok W C (fun _ _ _ => True) (W.start a s).1 s (W.start a s).2
  disturb : ∀ d s, C.inv s → C.inv (W.disturb d s) ∧ C.ext s (W.disturb d s)

variable {W C}

section

variable {post : β → Shared → Local → Prop}

theorem Ok.imp {post' : β → Shared → Local → Prop} {p : Prog Op Reply ε β} {s : Shared}
    {l : Local} (h : Ok W C post p s l) (hpost : ∀ b s l, post b s l → post' b s l) :
    Ok W C post' p s l := by
  induction p generalizing s l with
  | pure b => exact fun s' hext hinv => hpost _ _ _ (h s' hext hinv)
  | raise e => trivial
  | call op k ih =>
      intro s' hext hinv hguard choice
      obtain ⟨hinv', hext', hrest⟩ := h s' hext hinv hguard choice
      exact ⟨hinv', hext', ih _ hrest⟩

/-- What the other threads do keeps a program ok. -/
theorem Ok.mono (htrans : ∀ s₁ s₂ s₃, C.ext s₁ s₂ → C.ext s₂ s₃ → C.ext s₁ s₃)
    {p : Prog Op Reply ε β} {s t : Shared} {l : Local} (hst : C.ext s t)
    (h : Ok W C post p s l) : Ok W C post p t l := by
  cases p with
  | pure b => exact fun s' hext hinv => h s' (htrans _ _ _ hst hext) hinv
  | raise e => trivial
  | call op k => exact fun s' hext hinv => h s' (htrans _ _ _ hst hext) hinv

/-- The rule of sequential composition. -/
theorem Ok.bind {γ : Type} {mid : γ → Shared → Local → Prop} {p : Prog Op Reply ε γ}
    {f : γ → Prog Op Reply ε β} {s : Shared} {l : Local}
    (hrefl : ∀ s, C.ext s s) (htrans : ∀ s₁ s₂ s₃, C.ext s₁ s₂ → C.ext s₂ s₃ → C.ext s₁ s₃)
    (hp : Ok W C mid p s l)
    (hf : ∀ c s' l', C.ext s s' → C.inv s' → mid c s' l' → Ok W C post (f c) s' l')
    (hinv : C.inv s) :
    Ok W C post (p >>= f) s l := by
  induction p generalizing s l with
  | pure c => exact hf c s l (hrefl s) hinv (hp s (hrefl s) hinv)
  | raise e => trivial
  | call op k ih =>
      intro s' hext hinv' hguard choice
      obtain ⟨hinv'', hext', hrest⟩ := hp s' hext hinv' hguard choice
      -- `f` may start later than `s`: its hypothesis is moved along what has happened so far
      have hreach := htrans _ _ _ hext hext'
      exact ⟨hinv'', hext', ih _ hrest (fun c t l' ht => hf c t l' (htrans _ _ _ hreach ht)) hinv''⟩

/-- The rule of a single operation. -/
theorem Ok.perform {op : Op} {f : Reply op → Prog Op Reply ε β} {s : Shared} {l : Local}
    (h : ∀ s', C.ext s s' → C.inv s' → C.guard op s' l → ∀ choice,
      C.inv (W.act op choice s' l).2.1 ∧ C.ext s' (W.act op choice s' l).2.1
      ∧ Ok W C post (f (W.act op choice s' l).1) (W.act op choice s' l).2.1
          (W.act op choice s' l).2.2) :
    Ok W C post (Prog.perform op >>= f) s l := h

theorem Ok.ofExcept {x : Except ε β} {s : Shared} {l : Local}
    (h : ∀ b, x = .ok b → ∀ s', C.ext s s' → C.inv s' → post b s' l) :
    Ok W C post (Prog.ofExcept x : Prog Op Reply ε β) s l := by
  cases x with
  | error e => trivial
  | ok b => exact h b rfl

end

/-! ## From threads to schedules -/

/-- The shared state satisfies the invariant and every thread keeps the contract. -/
def System.Pool.Ok (pool : W.Pool) (C : Contract Op Shared Local) : Prop :=
  C.inv pool.shared
  ∧ ∀ t ∈ pool.threads, Program.Ok W C (fun _ _ _ => True) t.1 pool.shared t.2

/-- One entry of a schedule keeps the pool ok. -/
theorem System.Sound.step (h : W.Sound C) {e : W.Event} {pool : W.Pool} (hpool : pool.Ok C)
    (hallowed : W.Allowed C.guard e pool) :
    (W.step e pool).Ok C ∧ C.ext pool.shared (W.step e pool).shared := by
  obtain ⟨hinv, hthreads⟩ := hpool
  cases e with
  | start a =>
      refine ⟨⟨hinv, fun t ht => ?_⟩, h.refl _⟩
      rcases List.mem_append.mp ht with hold | hnew
      · exact hthreads t hold
      · rw [List.mem_singleton.mp hnew]
        exact h.start a pool.shared hinv
  | act i choice =>
      by_cases hcall : ∃ op k l, pool.threads[i]? = some (.call op k, l)
      · obtain ⟨op, k, l, hget⟩ := hcall
        have hmem := List.mem_of_getElem? hget
        have hguard := hallowed op k l hget
        obtain ⟨hinv', hext, hrest⟩ :=
          hthreads _ hmem pool.shared (h.refl _) hinv hguard (choice op)
        rw [W.step_act hget]
        refine ⟨⟨hinv', fun t ht => ?_⟩, hext⟩
        -- the acting thread is ok by its own contract, the others by `Ok.mono`
        rcases List.mem_or_eq_of_mem_set ht with hold | hnew
        · exact (hthreads t hold).mono h.trans hext
        · rw [hnew]
          exact hrest
      · have hidle : ∀ op k l, pool.threads[i]? ≠ some (.call op k, l) :=
          fun op k l hget => hcall ⟨op, k, l, hget⟩
        -- a schedule may name a finished thread, or none
        rw [W.step_act_idle hidle]
        exact ⟨⟨hinv, hthreads⟩, h.refl _⟩
  | stop i =>
      exact ⟨⟨hinv, fun t ht => hthreads t (List.mem_of_mem_eraseIdx ht)⟩, h.refl _⟩
  | disturb d =>
      obtain ⟨hinv', hext⟩ := h.disturb d pool.shared hinv
      exact ⟨⟨hinv', fun t ht => (hthreads t ht).mono h.trans hext⟩, hext⟩

/-- **Adequacy.** Every admissible schedule keeps the invariant and changes the shared state
only as the contract allows. -/
theorem System.Sound.run (h : W.Sound C) (schedule : List W.Event) {pool : W.Pool}
    (hpool : pool.Ok C) (hadm : W.Admissible C.guard schedule pool) :
    (W.run schedule pool).Ok C ∧ C.ext pool.shared (W.run schedule pool).shared := by
  -- on the schedule, for every pool: the rest of it runs from the state after its first entry
  induction schedule generalizing pool with
  | nil => exact ⟨hpool, h.refl _⟩
  | cons e rest ih =>
      obtain ⟨hallowed, hrest⟩ := hadm
      obtain ⟨hstep, hext⟩ := h.step hpool hallowed
      obtain ⟨hok, hext'⟩ := ih hstep hrest
      exact ⟨hok, h.trans _ _ _ hext hext'⟩

end Program
