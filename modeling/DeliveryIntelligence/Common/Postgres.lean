import Mathlib.Tactic

set_option autoImplicit false

/-!
# What PostgreSQL checks before it stores a row

Column types and `CHECK` constraints of the tables under `infra/init`. A constraint keeps the
name the schema gives it, so a rejected row names the check it failed. `enforce` is the one
function every insert and update goes through; a row that passes satisfies each constraint
(`holds_of_enforce`).
-/

namespace Postgres

/-- Microseconds since the epoch: the value of a finite `timestamptz`. -/
abbrev Timestamp := Int

/-- Why a statement is rejected. -/
inductive Error
  /-- a value does not fit the type of the column -/
  | columnType (column : String)
  | check (constraint : String)
  | unique (constraint : String)
  /-- the text given to a cast is not a value of the type -/
  | invalidInput (type : String)
  deriving DecidableEq, Repr

/-- Where a transaction fails, if it does. -/
inductive Fault
  | none
  | beforeCommit
  | afterCommit

def fitsBigint (n : Int) : Bool := decide (-2 ^ 63 ≤ n ∧ n < 2 ^ 63)

def fitsInteger (n : Int) : Bool := decide (-2 ^ 31 ≤ n ∧ n < 2 ^ 31)

/-- `text` values contain no NUL character. -/
def fitsText (s : String) : Bool := s.toList.all fun c => c != Char.ofNat 0

/-- `btrim(s) <> ''` -/
def nonempty (s : String) : Bool := s.toList.any fun c => c != ' '

/-- A named condition on a row of type `ρ` and the error it raises. -/
structure Constraint (ρ : Type) where
  error : Error
  holds : ρ → Bool

/-- A column typed `bigint`. -/
def bigintColumn {ρ : Type} (column : String) (value : ρ → Int) : Constraint ρ :=
  ⟨.columnType column, fun row => fitsBigint (value row)⟩

/-- A column typed `integer`. -/
def integerColumn {ρ : Type} (column : String) (value : ρ → Int) : Constraint ρ :=
  ⟨.columnType column, fun row => fitsInteger (value row)⟩

/-- A column typed `text`. -/
def textColumn {ρ : Type} (column : String) (value : ρ → String) : Constraint ρ :=
  ⟨.columnType column, fun row => fitsText (value row)⟩

/-- `CONSTRAINT name CHECK (value > 0)` -/
def positiveCheck {ρ : Type} (name : String) (value : ρ → Int) : Constraint ρ :=
  ⟨.check name, fun row => decide (0 < value row)⟩

/-- `CONSTRAINT name CHECK (btrim(value) <> '')` -/
def nonemptyCheck {ρ : Type} (name : String) (value : ρ → String) : Constraint ρ :=
  ⟨.check name, fun row => nonempty (value row)⟩

/-- A constraint on a column that may be null: null satisfies every constraint. -/
def nullable {ρ α : Type} (constraint : Constraint α) (value : ρ → Option α) : Constraint ρ :=
  ⟨constraint.error, fun row => (value row).all constraint.holds⟩

/-- Assignment to a `varchar(n)` column: blanks beyond the `n`-th character are dropped, any
other excess is an error. -/
def varchar (n : Nat) (column : String) (s : String) : Except Error String :=
  if s.toList.length ≤ n then .ok s
  else if (s.toList.drop n).all fun c => c == ' ' then .ok (String.ofList (s.toList.take n))
  else .error (.columnType column)

theorem varchar_of_length_le {n : Nat} {column s : String} (h : s.toList.length ≤ n) :
    varchar n column s = .ok s := if_pos h

theorem varchar_of_blank_tail {n : Nat} {column : String} {kept tail : List Char}
    (hkept : kept.length = n) (htail : ∀ c ∈ tail, c = ' ') (hne : tail ≠ []) :
    varchar n column (String.ofList (kept ++ tail)) = .ok (String.ofList kept) := by
  have hlong : ¬ (String.ofList (kept ++ tail)).toList.length ≤ n := by
    have := List.length_pos_iff.mpr hne
    rw [String.toList_ofList, List.length_append]
    omega
  have hblank : ((String.ofList (kept ++ tail)).toList.drop n).all (fun c => c == ' ') = true := by
    rw [String.toList_ofList, List.drop_left' hkept, List.all_eq_true]
    intro c hc
    exact beq_iff_eq.mpr (htail c hc)
  unfold varchar
  rw [if_neg hlong, if_pos hblank, String.toList_ofList, List.take_left' hkept]

theorem length_le_of_varchar {n : Nat} {column s stored : String}
    (h : varchar n column s = .ok stored) : stored.toList.length ≤ n := by
  unfold varchar at h
  split at h
  · cases h
    assumption
  · split at h
    · cases h
      rw [String.toList_ofList]
      exact List.length_take_le n _
    · cases h

variable {ρ : Type}

/-- Reject a row with the error of the first constraint it breaks. -/
def enforce (constraints : List (Constraint ρ)) (row : ρ) : Except Error Unit :=
  match constraints.find? fun c => !c.holds row with
  | none => .ok ()
  | some c => .error c.error

theorem holds_of_enforce {constraints : List (Constraint ρ)} {row : ρ}
    (h : enforce constraints row = .ok ()) {c : Constraint ρ} (hc : c ∈ constraints) :
    c.holds row = true := by
  unfold enforce at h
  split at h
  · rename_i hfind
    simpa using List.find?_eq_none.mp hfind c hc
  · cases h

theorem enforce_of_holds {constraints : List (Constraint ρ)} {row : ρ}
    (h : ∀ c ∈ constraints, c.holds row = true) : enforce constraints row = .ok () := by
  have hnone : (constraints.find? fun c => !c.holds row) = none := by
    refine List.find?_eq_none.mpr fun c hc => ?_
    simp [h c hc]
  rw [enforce, hnone]

theorem enforce_iff {constraints : List (Constraint ρ)} {row : ρ} :
    enforce constraints row = .ok () ↔ ∀ c ∈ constraints, c.holds row = true :=
  ⟨fun h _ hc => holds_of_enforce h hc, enforce_of_holds⟩

/-- Every error of `enforce` is that of a listed constraint which the row breaks. -/
theorem enforce_error {constraints : List (Constraint ρ)} {row : ρ} {e : Error}
    (h : enforce constraints row = .error e) :
    ∃ c ∈ constraints, c.error = e ∧ c.holds row = false := by
  unfold enforce at h
  split at h
  · cases h
  · rename_i c hfind
    cases h
    exact ⟨c, List.mem_of_find?_eq_some hfind, rfl, by simpa using List.find?_some hfind⟩

/-! ## Computations that may fail -/

instance decidableSucceeds {ε α : Type} (x : Except ε α) : Decidable (∃ a, x = .ok a) :=
  match x with
  | .error _ => isFalse (by rintro ⟨a, h⟩; cases h)
  | .ok a => isTrue ⟨a, rfl⟩

/-- A property of the result can be evaluated together with the computation. -/
instance decidableSucceedsWith {ε α : Type} (x : Except ε α) (p : α → Prop) [DecidablePred p] :
    Decidable (∃ a, x = .ok a ∧ p a) :=
  match x with
  | .error _ => isFalse (by rintro ⟨a, h, -⟩; cases h)
  | .ok a => decidable_of_iff (p a)
      ⟨fun hp => ⟨a, rfl, hp⟩, by rintro ⟨b, h, hp⟩; cases h; exact hp⟩

/-- A computation in `Except` that binds succeeds only through a success of its first part. -/
theorem bind_eq_ok {ε α β : Type} {x : Except ε α} {f : α → Except ε β} {b : β}
    (h : (x >>= f) = .ok b) : ∃ a, x = .ok a ∧ f a = .ok b := by
  cases x with
  | error e => cases h
  | ok a => exact ⟨a, rfl, h⟩

/-- It fails by an error of its first part, or after that by one of its second. -/
theorem bind_eq_error {ε α β : Type} {x : Except ε α} {f : α → Except ε β} {e : ε}
    (h : (x >>= f) = .error e) : x = .error e ∨ ∃ a, x = .ok a ∧ f a = .error e := by
  cases x with
  | error e' =>
      cases h
      exact Or.inl rfl
  | ok a => exact Or.inr ⟨a, rfl, h⟩

theorem map_eq_ok_iff {ε α β : Type} {x : Except ε α} {f : α → β} {b : β} :
    x.map f = .ok b ↔ ∃ a, x = .ok a ∧ f a = b := by
  cases x with
  | error e =>
      constructor
      · intro h
        cases h
      · rintro ⟨a, ha, -⟩
        cases ha
  | ok a =>
      constructor
      · intro h
        exact ⟨a, rfl, Except.ok.inj h⟩
      · rintro ⟨_, ha, rfl⟩
        cases ha
        rfl

theorem forM_of_all_ok {ε α : Type} {f : α → Except ε Unit} {items : List α}
    (h : ∀ a ∈ items, f a = .ok ()) : items.forM f = .ok () := by
  induction items with
  | nil => rfl
  | cons item items ih =>
      rw [List.forM_eq_forM, List.forM_cons, h item List.mem_cons_self]
      exact ih fun a ha => h a (List.mem_cons_of_mem _ ha)

/-- A `mapM` in `Except` succeeds only through a success at every element. -/
theorem map_eq_of_mapM {ε α β γ : Type} {f : α → Except ε β} {key : β → γ} {keyOf : α → γ}
    (hkey : ∀ a b, f a = .ok b → key b = keyOf a) {items : List α} {rows : List β}
    (h : items.mapM f = .ok rows) : rows.map key = items.map keyOf := by
  induction items generalizing rows with
  | nil =>
      cases h
      rfl
  | cons item items ih =>
      rw [List.mapM_cons] at h
      obtain ⟨row, hrow, hrest⟩ := bind_eq_ok h
      obtain ⟨rest, hitems, hrows⟩ := bind_eq_ok hrest
      cases hrows
      rw [List.map_cons, List.map_cons, hkey item row hrow, ih hitems]

theorem mem_of_mapM {ε α β : Type} {f : α → Except ε β} {items : List α} {rows : List β}
    (h : items.mapM f = .ok rows) {b : β} (hb : b ∈ rows) : ∃ a ∈ items, f a = .ok b := by
  induction items generalizing rows with
  | nil =>
      cases h
      cases hb
  | cons item items ih =>
      rw [List.mapM_cons] at h
      obtain ⟨row, hrow, hrest⟩ := bind_eq_ok h
      obtain ⟨rest, hitems, hrows⟩ := bind_eq_ok hrest
      cases hrows
      rcases List.mem_cons.mp hb with rfl | hmem
      · exact ⟨item, List.mem_cons_self, hrow⟩
      · obtain ⟨a, ha, hfa⟩ := ih hitems hmem
        exact ⟨a, List.mem_cons_of_mem _ ha, hfa⟩

/-- A fallible map succeeds with the values of its items, one for each, in their order. -/
theorem mapM_eq_ok_iff {ε α β : Type} {f : α → Except ε β} {items : List α} {rows : List β} :
    items.mapM f = .ok rows ↔ List.Forall₂ (fun a b => f a = .ok b) items rows := by
  induction items generalizing rows with
  | nil =>
      constructor
      · intro h
        cases h
        exact .nil
      · intro h
        cases h
        rfl
  | cons item items ih =>
      rw [List.mapM_cons]
      constructor
      · intro h
        obtain ⟨row, hrow, hrest⟩ := bind_eq_ok h
        obtain ⟨rest, hitems, hrows⟩ := bind_eq_ok hrest
        cases hrows
        exact .cons hrow (ih.mp hitems)
      · intro h
        cases h with
        | cons hrow hrest =>
            rw [hrow, ih.mpr hrest]
            rfl

theorem exists_of_mapM {ε α β : Type} {f : α → Except ε β} {items : List α} {rows : List β}
    (h : items.mapM f = .ok rows) {a : α} (ha : a ∈ items) : ∃ b ∈ rows, f a = .ok b := by
  have hall := mapM_eq_ok_iff.mp h
  induction hall with
  | nil => cases ha
  | cons hrow _ ih =>
      rcases List.mem_cons.mp ha with rfl | hmem
      · exact ⟨_, List.mem_cons_self, hrow⟩
      · obtain ⟨b, hb, hfa⟩ := ih (mapM_eq_ok_iff.mpr ‹_›) hmem
        exact ⟨b, List.mem_cons_of_mem _ hb, hfa⟩

/-- Over another listing of the same items it succeeds with another listing of the same values. -/
theorem mapM_perm {ε α β : Type} {f : α → Except ε β} {items items' : List α} {rows : List β}
    (hperm : items.Perm items') (h : items.mapM f = .ok rows) :
    ∃ rows', items'.mapM f = .ok rows' ∧ rows.Perm rows' := by
  obtain ⟨rows', hitems, hrows⟩ := List.perm_comp_forall₂ hperm.symm (mapM_eq_ok_iff.mp h)
  exact ⟨rows', mapM_eq_ok_iff.mpr hitems, hrows.symm⟩

end Postgres
