import DeliveryIntelligence.Library.Program

set_option autoImplicit false

/-!
# Logs of a program

A log lists the operations a program performed, each with the reply it got. `Ends` relates a
program to its complete logs and to how it ends; its rules take a log apart along the structure
of the program. `Serves` says that a state of the outside world gave the replies of a log, one
after another, and `respond` runs a program in a world that may choose each reply by all that
happened before.
-/

namespace Program

variable {Op : Type} {Reply : Op → Type} {ε α β σ : Type}

/-- One operation with the reply it got. -/
abbrev Exchange (Op : Type) (Reply : Op → Type) : Type := (op : Op) × Reply op

/-- With the replies of the log the program performs exactly its operations and ends so. -/
inductive Ends : List (Exchange Op Reply) → Prog Op Reply ε α → Except ε α → Prop
  | pure (a : α) : Ends [] (.pure a) (.ok a)
  | raise (e : ε) : Ends [] (.raise e) (.error e)
  | call {op : Op} {k : Reply op → Prog Op Reply ε α} {reply : Reply op}
      {log : List (Exchange Op Reply)} {result : Except ε α} (rest : Ends log (k reply) result) :
      Ends (⟨op, reply⟩ :: log) (.call op k) result

section

variable {log : List (Exchange Op Reply)}

theorem ends_pure_iff {a : α} {result : Except ε α} :
    Ends log (pure a : Prog Op Reply ε α) result ↔ log = [] ∧ result = .ok a := by
  constructor
  · intro h
    cases h
    exact ⟨rfl, rfl⟩
  · rintro ⟨rfl, rfl⟩
    exact .pure a

theorem ends_raise_iff {e : ε} {result : Except ε α} :
    Ends log (.raise e : Prog Op Reply ε α) result ↔ log = [] ∧ result = .error e := by
  constructor
  · intro h
    cases h
    exact ⟨rfl, rfl⟩
  · rintro ⟨rfl, rfl⟩
    exact .raise e

/-- The log of a sequence is that of a first part that raises, or that of both parts. -/
theorem ends_bind_iff {p : Prog Op Reply ε α} {f : α → Prog Op Reply ε β}
    {result : Except ε β} :
    Ends log (p >>= f) result
      ↔ (∃ e, result = .error e ∧ Ends log p (.error e))
        ∨ ∃ first second a, log = first ++ second ∧ Ends first p (.ok a)
            ∧ Ends second (f a) result := by
  -- on the first part: each of its operations takes one exchange off the log
  induction p generalizing log with
  | pure a =>
      constructor
      · intro h
        exact Or.inr ⟨[], log, a, rfl, .pure a, h⟩
      · rintro (⟨e, -, h⟩ | ⟨first, second, b, rfl, hfirst, hsecond⟩)
        · cases h
        · cases hfirst
          exact hsecond
  | raise e =>
      constructor
      · intro h
        obtain ⟨rfl, rfl⟩ := ends_raise_iff.mp h
        exact Or.inl ⟨e, rfl, .raise e⟩
      · rintro (⟨e', rfl, h⟩ | ⟨first, second, b, rfl, hfirst, -⟩)
        · obtain ⟨rfl, heq⟩ := ends_raise_iff.mp h
          cases heq
          exact .raise e
        · cases hfirst
  | call op k ih =>
      constructor
      · intro h
        cases h with
        | call rest =>
            rcases (ih _).mp rest with ⟨e, rfl, hraised⟩ | ⟨first, second, a, rfl, hfirst, hsecond⟩
            · exact Or.inl ⟨e, rfl, .call hraised⟩
            · exact Or.inr ⟨_ :: first, second, a, rfl, .call hfirst, hsecond⟩
      · rintro (⟨e, rfl, h⟩ | ⟨first, second, a, rfl, hfirst, hsecond⟩)
        · cases h with
          | call rest => exact .call ((ih _).mpr (Or.inl ⟨e, rfl, rest⟩))
        · cases hfirst with
          | call rest => exact .call ((ih _).mpr (Or.inr ⟨_, second, a, rfl, rest, hsecond⟩))

/-- A computation without operations raises, or the log is that of what follows. -/
theorem ends_ofExcept_bind_iff {x : Except ε α} {f : α → Prog Op Reply ε β}
    {result : Except ε β} :
    Ends log (Prog.ofExcept x >>= f) result
      ↔ (∃ e, x = .error e ∧ log = [] ∧ result = .error e)
        ∨ ∃ a, x = .ok a ∧ Ends log (f a) result := by
  cases x with
  | ok a =>
      constructor
      · intro h
        exact Or.inr ⟨a, rfl, h⟩
      · rintro (⟨e, h, -⟩ | ⟨b, hb, h⟩)
        · cases h
        · cases hb
          exact h
  | error e =>
      constructor
      · intro h
        obtain ⟨rfl, rfl⟩ := ends_raise_iff.mp h
        exact Or.inl ⟨e, rfl, rfl, rfl⟩
      · rintro (⟨e', he, rfl, rfl⟩ | ⟨b, hb, -⟩)
        · cases he
          exact .raise e
        · cases hb

/-- A single operation takes the first exchange of the log. -/
theorem ends_perform_bind_iff {op : Op} {f : Reply op → Prog Op Reply ε β}
    {result : Except ε β} :
    Ends log (Prog.perform op >>= f) result
      ↔ ∃ reply rest, log = ⟨op, reply⟩ :: rest ∧ Ends rest (f reply) result := by
  constructor
  · intro h
    cases h with
    | call rest => exact ⟨_, _, rfl, rest⟩
  · rintro ⟨reply, rest, rfl, h⟩
    exact .call h

end

/-! ## The outside world -/

/-- From the state `s` on, the exchanges of the log happen one after another and lead to `s'`;
`answers` says what one exchange does. -/
inductive Serves (answers : Exchange Op Reply → σ → σ → Prop) :
    σ → List (Exchange Op Reply) → σ → Prop
  | nil (s : σ) : Serves answers s [] s
  | cons {exchange : Exchange Op Reply} {log : List (Exchange Op Reply)} {s s₁ s₂ : σ}
      (first : answers exchange s s₁) (rest : Serves answers s₁ log s₂) :
      Serves answers s (exchange :: log) s₂

/-- The log and the end of a program in a world whose reply to an operation depends on the
exchanges before it. -/
def Prog.respond (world : List (Exchange Op Reply) → (op : Op) → Reply op) :
    List (Exchange Op Reply) → Prog Op Reply ε α → List (Exchange Op Reply) × Except ε α
  | _, .pure a => ([], .ok a)
  | _, .raise e => ([], .error e)
  | past, .call op k =>
      let exchange : Exchange Op Reply := ⟨op, world past op⟩
      let (log, result) := respond world (past ++ [exchange]) (k exchange.2)
      (exchange :: log, result)

section

variable {world : List (Exchange Op Reply) → (op : Op) → Reply op} {past : List (Exchange Op Reply)}

theorem ends_respond (p : Prog Op Reply ε α) :
    Ends (p.respond world past).1 p (p.respond world past).2 := by
  induction p generalizing past with
  | pure a => exact .pure a
  | raise e => exact .raise e
  | call op k ih => exact .call (ih _)

/-- The first reply is the world's. -/
theorem reply_of_respond {p : Prog Op Reply ε α} {op : Op} {reply : Reply op}
    {rest : List (Exchange Op Reply)} (h : (p.respond world past).1 = ⟨op, reply⟩ :: rest) :
    reply = world past op := by
  cases p with
  | pure a => cases h
  | raise e => cases h
  | call op' k =>
      cases (List.cons.inj h).1
      rfl

end

end Program
