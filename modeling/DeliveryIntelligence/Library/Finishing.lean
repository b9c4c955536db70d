import DeliveryIntelligence.Library.Attempts

set_option autoImplicit false

/-!
# Programs that finish

`Finishes` is the total side of `Leads`: the world has an answer to every operation, whatever it
answers the program raises nothing, and `post` holds where it returns. The last two sections
connect a program that runs on its own to the threads of a system: such a run keeps what the thread
keeps (`Ok.inv_of_serves`), and what no operation breaks holds in every run (`System.run_keeps`).
-/

namespace Program

variable {Op : Type} {Reply : Op → Type} {ε α β σ : Type}

/-- From the state on, the program comes to an end without an exception, whatever `answers`
allows. -/
def Prog.Finishes (answers : Exchange Op Reply → σ → σ → Prop) (post : α → σ → Prop) :
    Prog Op Reply ε α → σ → Prop
  | .pure a, s => post a s
  | .raise _, _ => False
  | .call op k, s => (∃ reply s', answers ⟨op, reply⟩ s s')
      ∧ ∀ reply s', answers ⟨op, reply⟩ s s' → (k reply).Finishes answers post s'

section

variable {answers : Exchange Op Reply → σ → σ → Prop} {post : α → σ → Prop}
  {p : Prog Op Reply ε α} {s s' : σ} {log : List (Exchange Op Reply)}

theorem Prog.Finishes.imp {post' : α → σ → Prop} (h : p.Finishes answers post s)
    (hpost : ∀ a s, post a s → post' a s) : p.Finishes answers post' s := by
  induction p generalizing s with
  | pure a => exact hpost a s h
  | raise e => exact h
  | call op k ih =>
      obtain ⟨hanswer, hrest⟩ := h
      exact ⟨hanswer, fun reply s' hstep => ih reply (hrest reply s' hstep)⟩

theorem Prog.Finishes.bind {f : α → Prog Op Reply ε β} {post' : β → σ → Prop}
    (h : p.Finishes answers post s)
    (hf : ∀ a s', post a s' → (f a).Finishes answers post' s') :
    (p >>= f).Finishes answers post' s := by
  induction p generalizing s with
  | pure a => exact hf a s h
  | raise e => exact absurd h id
  | call op k ih =>
      obtain ⟨hanswer, hrest⟩ := h
      exact ⟨hanswer, fun reply s' hstep => ih reply (hrest reply s' hstep)⟩

/-- There is a run to the end. -/
theorem Prog.Finishes.exists_log (h : p.Finishes answers post s) :
    ∃ log a s', Ends log p (.ok a) ∧ Serves answers s log s' ∧ post a s' := by
  induction p generalizing s with
  | pure a => exact ⟨[], a, s, .pure a, .nil s, h⟩
  | raise e => exact absurd h id
  | call op k ih =>
      obtain ⟨⟨reply, s₁, hstep⟩, hrest⟩ := h
      obtain ⟨log, a, s', hends, hserves, hpost⟩ := ih reply (hrest reply s₁ hstep)
      exact ⟨⟨op, reply⟩ :: log, a, s', .call hends, .cons hstep hserves, hpost⟩

/-- Every run to the end returns. -/
theorem Prog.Finishes.returns (h : p.Finishes answers post s) {result : Except ε α}
    (hends : Ends log p result) (hserves : Serves answers s log s') :
    ∃ a, result = .ok a ∧ post a s' := by
  induction hends generalizing s with
  | pure a =>
      cases hserves
      exact ⟨a, rfl, h⟩
  | raise e => exact absurd h id
  | call rest ih =>
      cases hserves with
      | cons first hrest => exact ih (h.2 _ _ first) hrest

end

/-! ## A thread that runs on its own -/

section

variable {Shared Local : Type} {W : System Op Reply ε α Shared Local}
  {C : Contract Op Shared Local} {post : β → Shared → Local → Prop}

/-- If the exchanges are steps of the system, between which the others keep the contract, the run
keeps the invariant of the contract. -/
theorem Ok.inv_of_serves {answers : Exchange Op Reply → Shared → Shared → Prop}
    {p : Prog Op Reply ε β} {s s' : Shared} {l : Local} {log : List (Exchange Op Reply)}
    (hanswers : ∀ op reply s s', answers ⟨op, reply⟩ s s' → C.inv s →
      ∃ s₁ choice, C.ext s s₁ ∧ C.inv s₁ ∧ C.guard op s₁ l
        ∧ W.act op choice s₁ l = (reply, s', l))
    (h : Ok W C post p s l) (hinv : C.inv s) (hbegins : Begins log p)
    (hserves : Serves answers s log s') : C.inv s' := by
  induction hbegins generalizing s with
  | lost p =>
      cases hserves
      exact hinv
  | call rest ih =>
      cases hserves with
      | cons first hrest =>
          obtain ⟨s₁, choice, hext, hinv₁, hguard, hact⟩ := hanswers _ _ _ _ first hinv
          obtain ⟨hafter, -, hok⟩ := h s₁ hext hinv₁ hguard choice
          rw [hact] at hafter hok
          exact ih hok hafter hrest

end

/-! ## What no operation breaks -/

/-- What every operation and every disturbance keeps holds in every run, whatever the programs
are. -/
theorem System.run_keeps {Shared Local : Type} (W : System Op Reply ε α Shared Local)
    {I : Shared → Prop} (hact : ∀ op choice s l, I s → I (W.act op choice s l).2.1)
    (hdisturb : ∀ d s, I s → I (W.disturb d s)) (schedule : List W.Event) (pool : W.Pool)
    (h : I pool.shared) : I (W.run schedule pool).shared := by
  induction schedule generalizing pool with
  | nil => exact h
  | cons e rest ih =>
      have hstep : I (W.step e pool).shared := by
        cases e with
        | start a => exact h
        | act i choice =>
            by_cases hcall : ∃ op k l, pool.threads[i]? = some (.call op k, l)
            · obtain ⟨op, k, l, hget⟩ := hcall
              rw [W.step_act hget]
              exact hact op (choice op) pool.shared l h
            · rw [W.step_act_idle fun op k l hget => hcall ⟨op, k, l, hget⟩]
              exact h
        | stop i => exact h
        | disturb d => exact hdisturb d pool.shared h
      exact ih _ hstep

end Program
