import Mathlib.Data.List.Infix
import Mathlib.Tactic

set_option autoImplicit false

/-!
# Runs of a step function

A run is a fold of a total step function over its inputs. Where some steps break a property that
all others keep, the property holds along a run exactly as long as no step of it is a bad one
(`never_iff`): the condition is one on the inputs and the states they meet.
-/

namespace Runs

variable {σ α : Type}

/-- No step of the run is bad in the state it starts from. -/
def Never (step : σ → α → σ) (bad : α → σ → Prop) : List α → σ → Prop
  | [], _ => True
  | a :: run, s => ¬ bad a s ∧ Never step bad run (step s a)

/-- **First violation.** If a step breaks `P` exactly when it is bad, `P` holds in every state of
a run exactly when no step of the run is bad. -/
theorem never_iff {step : σ → α → σ} {bad : α → σ → Prop} {I P : σ → Prop}
    (hinv : ∀ s a, I s → I (step s a))
    (hstep : ∀ s a, I s → P s → (P (step s a) ↔ ¬ bad a s)) (run : List α) {s : σ}
    (hs : I s) (h : P s) :
    Never step bad run s ↔ ∀ before, before <+: run → P (before.foldl step s) := by
  induction run generalizing s with
  | nil =>
      constructor
      · intro _ before hbefore
        rw [List.prefix_nil.mp hbefore]
        exact h
      · intro _
        exact True.intro
  | cons a run ih =>
      constructor
      · rintro ⟨hfirst, hrest⟩ before hbefore
        have hkept : P (step s a) := (hstep s a hs h).mpr hfirst
        -- a prefix is empty, or goes on from the state after the first step
        cases before with
        | nil => exact h
        | cons a' before =>
            obtain ⟨rfl, hprefix⟩ := List.cons_prefix_cons.mp hbefore
            exact (ih (hinv s a' hs) hkept).mp hrest before hprefix
      · intro hall
        have hkept : P (step s a) := hall [a] ⟨run, rfl⟩
        refine ⟨(hstep s a hs h).mp hkept, (ih (hinv s a hs) hkept).mpr fun before hbefore => ?_⟩
        exact hall (a :: before) (List.cons_prefix_cons.mpr ⟨rfl, hbefore⟩)

/-- Steps that are bad in every state are those a run must not contain. -/
theorem never_const_iff {step : σ → α → σ} {bad : α → Prop} {run : List α} {s : σ} :
    Never step (fun a _ => bad a) run s ↔ ∀ a ∈ run, ¬ bad a := by
  induction run generalizing s with
  | nil => exact iff_of_true trivial fun _ ha => absurd ha List.not_mem_nil
  | cons a run ih =>
      rw [List.forall_mem_cons, ← ih (s := step s a)]
      exact Iff.rfl

end Runs
