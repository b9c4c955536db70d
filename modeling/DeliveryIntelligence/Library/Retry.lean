import Mathlib.Tactic

set_option autoImplicit false

/-!
# Bounded retry loops

A loop over its attempts, each of which ends it or asks for a delay before the next one. Where the
last attempt cannot ask for one, the loop ends in one of its attempts (`retryLoop_range'`), and what
holds of every delay and every result an attempt may give holds of those of the loop
(`bounded_retryLoop`).
-/

namespace Retry

variable {δ ε α : Type}

/-- What an attempt decides. -/
inductive Turn (δ ε α : Type)
  | retry (delay : δ)
  | finish (result : Except ε α)

inductive Event (δ : Type)
  | request (attempt : ℕ)
  | sleep (delay : δ)
  deriving DecidableEq

def Event.isRequest : Event δ → Bool
  | .request _ => true
  | .sleep _ => false

/-- The events of the loop and its result; `exhausted` is raised behind it. -/
def retryLoop (turn : ℕ → Turn δ ε α) (exhausted : ε) : List ℕ → List (Event δ) × Except ε α
  | [] => ([], .error exhausted)
  | attempt :: attempts =>
      match turn attempt with
      | .finish result => ([.request attempt], result)
      | .retry delay =>
          let (events, result) := retryLoop turn exhausted attempts
          (.request attempt :: .sleep delay :: events, result)

/-- Requests from an attempt on, with the delays between them. -/
def alternating (attempt : ℕ) : List δ → List (Event δ)
  | [] => [.request attempt]
  | delay :: delays => .request attempt :: .sleep delay :: alternating (attempt + 1) delays

theorem countP_alternating (attempt : ℕ) (delays : List δ) :
    (alternating attempt delays).countP Event.isRequest = delays.length + 1 := by
  induction delays generalizing attempt with
  | nil => rfl
  | cons delay delays ih =>
      rw [alternating, List.countP_cons_of_pos rfl, List.countP_cons_of_neg Bool.false_ne_true,
        ih, List.length_cons]

/-- **A bounded loop** ends in the first attempt that does not ask for another one. -/
theorem retryLoop_range' (turn : ℕ → Turn δ ε α) (exhausted : ε) {start maxRetries : ℕ}
    (hlast : ∀ delay, turn (start + maxRetries) ≠ .retry delay) :
    ∃ delays result, delays.length ≤ maxRetries
      ∧ (∀ i delay, delays[i]? = some delay → turn (start + i) = .retry delay)
      ∧ turn (start + delays.length) = .finish result
      ∧ retryLoop turn exhausted (List.range' start (maxRetries + 1))
        = (alternating start delays, result) := by
  induction maxRetries generalizing start with
  | zero =>
      cases hturn : turn start with
      | retry delay => exact absurd hturn (hlast delay)
      | finish result =>
          refine ⟨[], result, le_refl 0, fun i delay h => ?_, hturn, ?_⟩
          · cases h
          · rw [List.range'_succ, retryLoop, hturn]
            rfl
  | succ maxRetries ih =>
      cases hturn : turn start with
      | finish result =>
          refine ⟨[], result, Nat.zero_le _, fun i delay h => ?_, hturn, ?_⟩
          · cases h
          · rw [List.range'_succ, retryLoop, hturn]
            rfl
      | retry delay =>
          have hnext : ∀ delay, turn (start + 1 + maxRetries) ≠ .retry delay := by
            rwa [Nat.add_right_comm, Nat.add_assoc]
          obtain ⟨delays, result, hlength, hdelays, hresult, hloop⟩ := ih hnext
          refine ⟨delay :: delays, result, Nat.succ_le_succ hlength, ?_, ?_, ?_⟩
          · rintro (_ | i) found hfound
            · cases hfound
              exact hturn
            · have hi := hdelays i found hfound
              rwa [Nat.add_right_comm, Nat.add_assoc] at hi
          · rwa [List.length_cons, ← Nat.add_assoc, Nat.add_right_comm]
          · rw [List.range'_succ, retryLoop, hturn]
            dsimp only
            rw [hloop]
            rfl

/-! ## What follows an attempt -/

/-- The loop starts with its first attempt. -/
theorem retryLoop_cons (turn : ℕ → Turn δ ε α) (exhausted : ε) (attempt : ℕ) (attempts : List ℕ) :
    ∃ events, (retryLoop turn exhausted (attempt :: attempts)).1 = .request attempt :: events := by
  cases hturn : turn attempt with
  | finish result => exact ⟨[], by simp only [retryLoop, hturn]⟩
  | retry delay =>
      refine ⟨.sleep delay :: (retryLoop turn exhausted attempts).1, ?_⟩
      simp only [retryLoop, hturn]

/-- An attempt that asks for a delay gets it and is followed by the next one. -/
theorem infix_retryLoop {turn : ℕ → Turn δ ε α} {exhausted : ε} {start maxRetries attempt : ℕ}
    {delay : δ} (hturn : turn attempt = .retry delay) (hlast : attempt < start + maxRetries)
    (hreached : .request attempt
      ∈ (retryLoop turn exhausted (List.range' start (maxRetries + 1))).1) :
    [.request attempt, .sleep delay, .request (attempt + 1)]
      <:+: (retryLoop turn exhausted (List.range' start (maxRetries + 1))).1 := by
  induction maxRetries generalizing start with
  | zero =>
      -- the only attempt is the last one
      rw [List.range'_succ, List.range'_zero] at hreached
      cases hfirst : turn start with
      | finish result =>
          simp only [retryLoop, hfirst, List.mem_singleton, Event.request.injEq] at hreached
          omega
      | retry other =>
          simp only [retryLoop, hfirst, List.mem_cons, Event.request.injEq, reduceCtorEq,
            List.not_mem_nil, or_false] at hreached
          omega
  | succ maxRetries ih =>
      rw [List.range'_succ] at hreached ⊢
      cases hfirst : turn start with
      | finish result =>
          simp only [retryLoop, hfirst, List.mem_singleton, Event.request.injEq] at hreached
          rw [hreached, hfirst] at hturn
          cases hturn
      | retry other =>
          simp only [retryLoop, hfirst] at hreached ⊢
          by_cases hhere : attempt = start
          · rw [hhere, hfirst] at hturn
            cases hturn
            obtain ⟨events, hnext⟩ :=
              retryLoop_cons turn exhausted (start + 1) (List.range' (start + 1 + 1) maxRetries)
            rw [← List.range'_succ] at hnext
            rw [hnext, hhere]
            exact ⟨[], events, rfl⟩
          · have hrest : .request attempt
                ∈ (retryLoop turn exhausted (List.range' (start + 1) (maxRetries + 1))).1 := by
              rcases List.mem_cons.mp hreached with hfirst' | hrest
              · exact absurd (Event.request.inj hfirst') hhere
              · exact (List.mem_cons.mp hrest).resolve_left fun h => nomatch h
            have hlater := ih (by omega) hrest
            exact List.infix_cons (List.infix_cons hlater)

/-- An attempt that ends the loop gives its result. -/
theorem retryLoop_of_finish {turn : ℕ → Turn δ ε α} {exhausted : ε} {attempt : ℕ}
    {attempts : List ℕ} {result : Except ε α} (hturn : turn attempt = .finish result)
    (hreached : .request attempt ∈ (retryLoop turn exhausted attempts).1) :
    (retryLoop turn exhausted attempts).2 = result := by
  induction attempts with
  | nil => cases hreached
  | cons first attempts ih =>
      cases hfirst : turn first with
      | finish other =>
          simp only [retryLoop, hfirst, List.mem_singleton, Event.request.injEq] at hreached ⊢
          rw [hreached, hfirst] at hturn
          exact (Turn.finish.inj hturn)
      | retry delay =>
          simp only [retryLoop, hfirst, List.mem_cons, reduceCtorEq, false_or] at hreached ⊢
          rcases hreached with hhere | hrest
          · rw [Event.request.inj hhere, hfirst] at hturn
            cases hturn
          · exact ih hrest

/-- A bounded number of requests, with one delay between each two of them that honours the reply
to the first one; `exhausted` is not raised, and what is returned is a return of the last one. -/
structure Bounded (maxRetries : ℕ) (exhausted : ε) (Honours : ℕ → δ → Prop)
    (Returns : ℕ → α → Prop) (run : List (Event δ) × Except ε α) : Prop where
  requests : run.1.countP Event.isRequest ≤ maxRetries + 1
  delays : run.1 = [] ∨ ∃ delays, run.1 = alternating 0 delays
    ∧ ∀ i delay, delays[i]? = some delay → Honours i delay
  reached : run.2 ≠ .error exhausted
  returned : ∀ value, run.2 = .ok value →
    ∃ delays, run.1 = alternating 0 delays ∧ Returns delays.length value

theorem Bounded.mono {maxRetries : ℕ} {exhausted : ε} {Honours : ℕ → δ → Prop}
    {Returns Returns' : ℕ → α → Prop} {run : List (Event δ) × Except ε α}
    (h : Bounded maxRetries exhausted Honours Returns run)
    (hreturns : ∀ i value, Returns i value → Returns' i value) :
    Bounded maxRetries exhausted Honours Returns' run := by
  refine ⟨h.requests, h.delays, h.reached, fun value hvalue => ?_⟩
  obtain ⟨delays, hrun, hlast⟩ := h.returned value hvalue
  exact ⟨delays, hrun, hreturns _ _ hlast⟩

/-- **The rule for bounded loops.** -/
theorem bounded_retryLoop {turn : ℕ → Turn δ ε α} {exhausted : ε} {maxRetries : ℕ}
    {Honours : ℕ → δ → Prop} {Returns : ℕ → α → Prop}
    (hlast : ∀ delay, turn maxRetries ≠ .retry delay)
    (hretry : ∀ i delay, turn i = .retry delay → Honours i delay)
    (herror : ∀ i, turn i ≠ .finish (.error exhausted))
    (hvalue : ∀ i value, turn i = .finish (.ok value) → Returns i value) :
    Bounded maxRetries exhausted Honours Returns
      (retryLoop turn exhausted (List.range (maxRetries + 1))) := by
  have hstart : ∀ delay, turn (0 + maxRetries) ≠ .retry delay := by
    rwa [Nat.zero_add]
  obtain ⟨delays, result, hlength, hdelays, hresult, hloop⟩ :=
    retryLoop_range' turn exhausted hstart
  rw [Nat.zero_add] at hresult
  rw [List.range_eq_range', hloop]
  refine ⟨?_, Or.inr ⟨delays, rfl, fun i delay h => ?_⟩, ?_, ?_⟩
  · rw [countP_alternating]
    omega
  · have hturn := hdelays i delay h
    rw [Nat.zero_add] at hturn
    exact hretry i delay hturn
  · rintro rfl
    exact herror _ hresult
  · rintro value rfl
    exact ⟨delays, rfl, hvalue _ value hresult⟩

end Retry
