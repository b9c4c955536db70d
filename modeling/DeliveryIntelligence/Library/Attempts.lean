import DeliveryIntelligence.Library.Trace

set_option autoImplicit false

/-!
# Attempts

A program that nobody runs at the same time, but that may be run again: an attempt performs
operations until it ends or is lost at any point, and the next attempt finds the state it left.
`Leads` is verified along the program: each exchange keeps a guarantee and `post` holds where the
program returns. `Attempts.keeps` turns it into a statement about every sequence of attempts.
-/

namespace Program

variable {Op : Type} {Reply : Op → Type} {ε α β σ : Type}

/-- With the replies of the log the program has come so far. -/
inductive Begins : List (Exchange Op Reply) → Prog Op Reply ε α → Prop
  | lost (p : Prog Op Reply ε α) : Begins [] p
  | call {op : Op} {k : Reply op → Prog Op Reply ε α} {reply : Reply op}
      {log : List (Exchange Op Reply)} (rest : Begins log (k reply)) :
      Begins (⟨op, reply⟩ :: log) (.call op k)

theorem begins_of_ends {log : List (Exchange Op Reply)} {p : Prog Op Reply ε α}
    {result : Except ε α} (h : Ends log p result) : Begins log p := by
  induction h with
  | pure a => exact .lost _
  | raise e => exact .lost _
  | call rest ih => exact .call ih

/-! ## Logs in a changing world -/

section

variable {answers : Exchange Op Reply → σ → σ → Prop} {s s' : σ} {log : List (Exchange Op Reply)}

/-- A relation that every exchange keeps is kept by the log. -/
theorem Serves.rel {R : σ → σ → Prop} (refl : ∀ s, R s s)
    (trans : ∀ s₁ s₂ s₃, R s₁ s₂ → R s₂ s₃ → R s₁ s₃)
    (hstep : ∀ exchange s s', answers exchange s s' → R s s') (h : Serves answers s log s') :
    R s s' := by
  induction h with
  | nil s => exact refl s
  | cons first rest ih => exact trans _ _ _ (hstep _ _ _ first) ih

theorem Serves.forall_mem {P : Exchange Op Reply → Prop}
    (hstep : ∀ exchange s s', answers exchange s s' → P exchange) (h : Serves answers s log s') :
    ∀ exchange ∈ log, P exchange := by
  induction h with
  | nil s => exact fun exchange hmem => absurd hmem List.not_mem_nil
  | cons first rest ih =>
      intro other hmem
      rcases List.mem_cons.mp hmem with rfl | hin
      · exact hstep _ _ _ first
      · exact ih other hin

end

/-! ## One attempt -/

/-- From the state on, every exchange of the program keeps the guarantee, whatever `answers`
allows, and `post` holds of what the program returns and of the state it leaves. -/
def Prog.Leads (answers guarantee : Exchange Op Reply → σ → σ → Prop) (post : α → σ → Prop) :
    Prog Op Reply ε α → σ → Prop
  | .pure a, s => post a s
  | .raise _, _ => True
  | .call op k, s => ∀ reply s', answers ⟨op, reply⟩ s s' →
      guarantee ⟨op, reply⟩ s s' ∧ (k reply).Leads answers guarantee post s'

section

variable {answers guarantee : Exchange Op Reply → σ → σ → Prop} {post : α → σ → Prop}
  {p : Prog Op Reply ε α} {s s' : σ} {log : List (Exchange Op Reply)}

theorem Prog.Leads.serves (h : p.Leads answers guarantee post s) (hbegins : Begins log p)
    (hserves : Serves answers s log s') : Serves guarantee s log s' := by
  induction hbegins generalizing s with
  | lost p =>
      cases hserves
      exact .nil _
  | call rest ih =>
      cases hserves with
      | cons first hrest =>
          obtain ⟨hguarantee, hleads⟩ := h _ _ first
          exact .cons hguarantee (ih hleads hrest)

theorem Prog.Leads.returns (h : p.Leads answers guarantee post s) {a : α} (hends : Ends log p (.ok a))
    (hserves : Serves answers s log s') : post a s' := by
  generalize hresult : (Except.ok a : Except ε α) = result at hends
  induction hends generalizing s with
  | pure b =>
      cases hresult
      cases hserves
      exact h
  | raise e => cases hresult
  | call rest ih =>
      cases hserves with
      | cons first hrest => exact ih (h _ _ first).2 hrest hresult

theorem Prog.Leads.imp {post' : α → σ → Prop} (h : p.Leads answers guarantee post s)
    (hpost : ∀ a s, post a s → post' a s) : p.Leads answers guarantee post' s := by
  induction p generalizing s with
  | pure a => exact hpost a s h
  | raise e => trivial
  | call op k ih =>
      intro reply s' hanswer
      obtain ⟨hguarantee, hrest⟩ := h reply s' hanswer
      exact ⟨hguarantee, ih reply hrest⟩

theorem Prog.Leads.bind {f : α → Prog Op Reply ε β} {post' : β → σ → Prop}
    (h : p.Leads answers guarantee post s)
    (hf : ∀ a s', post a s' → (f a).Leads answers guarantee post' s') :
    (p >>= f).Leads answers guarantee post' s := by
  induction p generalizing s with
  | pure a => exact hf a s h
  | raise e => trivial
  | call op k ih =>
      intro reply s' hanswer
      obtain ⟨hguarantee, hrest⟩ := h reply s' hanswer
      exact ⟨hguarantee, ih reply hrest⟩

/-- What the guarantee adds up to holds from the start to the end. -/
theorem Prog.Leads.since {R : σ → σ → Prop} (refl : ∀ s, R s s)
    (trans : ∀ s₁ s₂ s₃, R s₁ s₂ → R s₂ s₃ → R s₁ s₃)
    (hstep : ∀ exchange s s', guarantee exchange s s' → R s s')
    (h : p.Leads answers guarantee post s) :
    p.Leads answers guarantee (fun a s' => post a s' ∧ R s s') s := by
  -- along the program, from a state that is already related to the first one
  have hfrom : ∀ (p : Prog Op Reply ε α) (s₁ : σ), R s s₁ → p.Leads answers guarantee post s₁ →
      p.Leads answers guarantee (fun a s' => post a s' ∧ R s s') s₁ := by
    intro p
    induction p with
    | pure a => exact fun s₁ hrel h => ⟨h, hrel⟩
    | raise e => exact fun _ _ _ => trivial
    | call op k ih =>
        intro s₁ hrel h reply s₂ hanswer
        obtain ⟨hguarantee, hrest⟩ := h reply s₂ hanswer
        exact ⟨hguarantee, ih reply s₂ (trans _ _ _ hrel (hstep _ _ _ hguarantee)) hrest⟩
  exact hfrom p s (refl s) h

end

/-! ## Alone in a world -/

/-- The log, the end and the last state of a program whose operations are answered by the state. -/
def Prog.alone (act : (op : Op) → σ → Reply op × σ) :
    Prog Op Reply ε α → σ → List (Exchange Op Reply) × Except ε α × σ
  | .pure a, s => ([], .ok a, s)
  | .raise e, s => ([], .error e, s)
  | .call op k, s =>
      let (reply, s') := act op s
      let (log, result, last) := (k reply).alone act s'
      (⟨op, reply⟩ :: log, result, last)

section

variable (act : (op : Op) → σ → Reply op × σ)

theorem ends_alone (p : Prog Op Reply ε α) (s : σ) :
    Ends (p.alone act s).1 p (p.alone act s).2.1 := by
  induction p generalizing s with
  | pure a => exact .pure a
  | raise e => exact .raise e
  | call op k ih => exact .call (ih _ _)

variable {act} in
theorem serves_alone {answers : Exchange Op Reply → σ → σ → Prop}
    (hact : ∀ op s, answers ⟨op, (act op s).1⟩ s (act op s).2) (p : Prog Op Reply ε α) (s : σ) :
    Serves answers s (p.alone act s).1 (p.alone act s).2.2 := by
  induction p generalizing s with
  | pure a => exact .nil _
  | raise e => exact .nil _
  | call op k ih => exact .cons (hact op s) (ih _ _)

end

/-! ## Many attempts -/

/-- Attempts of some of the programs, one after another. -/
inductive Attempts (answers : Exchange Op Reply → σ → σ → Prop)
    (programs : Prog Op Reply ε α → Prop) : σ → σ → Prop
  | none (s : σ) : Attempts answers programs s s
  | more {s s₁ s₂ : σ} {p : Prog Op Reply ε α} {log : List (Exchange Op Reply)}
      (before : Attempts answers programs s s₁) (program : programs p) (begins : Begins log p)
      (serves : Serves answers s₁ log s₂) : Attempts answers programs s s₂

/-- What each program keeps from a good state on, all attempts keep. -/
theorem Attempts.keeps {answers : Exchange Op Reply → σ → σ → Prop}
    {programs : Prog Op Reply ε α → Prop} {I : σ → Prop} {R : σ → σ → Prop} {s s' : σ}
    (refl : ∀ s, R s s) (trans : ∀ s₁ s₂ s₃, R s₁ s₂ → R s₂ s₃ → R s₁ s₃)
    (hprograms : ∀ p s, programs p → I s →
      p.Leads answers (fun _ s s' => R s s' ∧ (I s → I s')) (fun _ _ => True) s)
    (h : Attempts answers programs s s') (hI : I s) : R s s' ∧ I s' := by
  induction h with
  | none => exact ⟨refl s, hI⟩
  | more before program begins serves ih =>
      obtain ⟨hrel, hmid⟩ := ih
      have hserves := (hprograms _ _ program hmid).serves begins serves
      have hkept := Serves.rel (R := fun s s' => R s s' ∧ (I s → I s'))
        (fun s => ⟨refl s, id⟩)
        (fun s₁ s₂ s₃ h h' => ⟨trans _ _ _ h.1 h'.1, fun hs => h'.2 (h.2 hs)⟩)
        (fun _ _ _ hstep => hstep) hserves
      exact ⟨trans _ _ _ hrel hkept.1, hkept.2 hmid⟩

end Program
