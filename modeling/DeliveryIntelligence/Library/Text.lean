import Mathlib.Tactic

set_option autoImplicit false

/-!
# Decimal text and separated keys

Programs build text keys by joining decimal numbers with a separator. The text of an integer
contains only digits and a sign, so a separator outside that alphabet can be found again and
the key determines its parts: `intText_injective` and `append_separator_inj`.
-/

namespace Text

/-- The characters of the decimal text of an integer. -/
def intText (n : Int) : List Char := (toString n).toList

theorem natRepr_injective {m n : Nat} (h : m.repr = n.repr) : m = n := by
  have hdigits : Nat.toDigits 10 m = Nat.toDigits 10 n := by
    rw [← Nat.toList_repr, ← Nat.toList_repr, h]
  rw [← Nat.ofDigitChars_ten_toDigits (n := m), hdigits, Nat.ofDigitChars_ten_toDigits]

theorem intText_ofNat (m : Nat) : intText (Int.ofNat m) = Nat.toDigits 10 m :=
  Nat.toList_repr

theorem intText_negSucc (m : Nat) : intText (Int.negSucc m) = '-' :: Nat.toDigits 10 (m + 1) := by
  show ("-" ++ Nat.repr (m + 1)).toList = _
  rw [String.toList_append, Nat.toList_repr]
  rfl

theorem isDigit_of_mem_toDigits {n : Nat} {c : Char} (h : c ∈ Nat.toDigits 10 n) :
    c.isDigit = true :=
  Nat.isDigit_of_mem_toDigits (by decide) (by decide) h

theorem mem_intText {n : Int} {c : Char} (h : c ∈ intText n) : c.isDigit = true ∨ c = '-' := by
  cases n with
  | ofNat m => exact Or.inl (isDigit_of_mem_toDigits (intText_ofNat m ▸ h))
  | negSucc m =>
      rw [intText_negSucc] at h
      rcases List.mem_cons.mp h with rfl | hmem
      · exact Or.inr rfl
      · exact Or.inl (isDigit_of_mem_toDigits hmem)

theorem notMem_intText {n : Int} {c : Char} (hd : c.isDigit = false) (hm : c ≠ '-') :
    c ∉ intText n := by
  intro h
  rcases mem_intText h with h | h
  · simp [hd] at h
  · exact hm h

theorem intText_injective {m n : Int} (h : intText m = intText n) : m = n := by
  -- the sign is no digit, so the texts of a natural and of a negative number differ
  have hsign : ∀ k : Nat, '-' ∉ Nat.toDigits 10 k := fun k hk => by
    have := isDigit_of_mem_toDigits hk
    exact absurd this (by decide)
  cases m with
  | ofNat m =>
      cases n with
      | ofNat n =>
          have hrepr : m.repr = n.repr := String.toList_inj.mp h
          rw [natRepr_injective hrepr]
      | negSucc n =>
          rw [intText_ofNat, intText_negSucc] at h
          exact absurd (h ▸ List.mem_cons_self) (hsign m)
  | negSucc m =>
      cases n with
      | ofNat n =>
          rw [intText_ofNat, intText_negSucc] at h
          exact absurd (h ▸ List.mem_cons_self) (hsign n)
      | negSucc n =>
          rw [intText_negSucc, intText_negSucc, List.cons.injEq] at h
          have hrepr : (m + 1).repr = (n + 1).repr := by
            apply String.toList_inj.mp
            rw [Nat.toList_repr, Nat.toList_repr, h.2]
          rw [Nat.succ.inj (natRepr_injective hrepr)]

/-- Text before the first separator is determined by the joined text. -/
theorem append_separator_inj {c : Char} {a a' b b' : List Char} (ha : c ∉ a) (ha' : c ∉ a')
    (h : a ++ c :: b = a' ++ c :: b') : a = a' ∧ b = b' := by
  -- along both prefixes at once: one that ends earlier would meet the separator in the other
  induction a generalizing a' with
  | nil =>
      cases a' with
      | nil => exact ⟨rfl, (List.cons.inj h).2⟩
      | cons x xs => exact absurd ((List.cons.inj h).1 ▸ List.mem_cons_self) ha'
  | cons x xs ih =>
      cases a' with
      | nil => exact absurd ((List.cons.inj h).1 ▸ List.mem_cons_self) ha
      | cons y ys =>
          obtain ⟨hxy, hrest⟩ := List.cons.inj h
          have hx : c ∉ xs := fun hm => ha (List.mem_cons_of_mem _ hm)
          have hy : c ∉ ys := fun hm => ha' (List.mem_cons_of_mem _ hm)
          obtain ⟨h1, h2⟩ := ih hx hy hrest
          exact ⟨by rw [hxy, h1], h2⟩

end Text
