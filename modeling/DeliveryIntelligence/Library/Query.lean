import Mathlib.Data.List.Dedup
import Mathlib.Data.List.ReduceOption
import Mathlib.Tactic

set_option autoImplicit false

/-!
# Queries over lists of rows

A table is a list of rows and a query is a function on lists. The clauses here are those of a
`SELECT` over rows that may be null: conditions with three truth values, `order by` with its
placement of nulls, the row that a `row_number()` window ranks first, `group by` and joins.
Every clause comes with the lemma that says which keys its result has, so that the grain of a
query follows from the grain of its parts: `map_partitionFirst`, `map_fst_resolve`,
`map_fst_innerJoin`, `leftJoin_eq_map`.
-/

namespace Query

variable {α β κ : Type}

/-! ## Conditions -/

/-- The truth value of a condition; `none` is unknown. -/
abbrev Truth := Option Bool

/-- A `where`, an `on`, a `filter` or a `when` asks for a condition that is true. -/
def holds (t : Truth) : Bool := t == some true

def negate (t : Truth) : Truth := t.map fun b => !b

def both : Truth → Truth → Truth
  | some false, _ => some false
  | some true, t => t
  | none, some false => some false
  | none, _ => none

def either : Truth → Truth → Truth
  | some true, _ => some true
  | some false, t => t
  | none, some true => some true
  | none, _ => none

/-- `a = b` -/
def equal [DecidableEq α] (a b : Option α) : Truth := Option.map₂ (fun x y => decide (x = y)) a b

/-- `a <= b` -/
def atMost (a b : Option Int) : Truth := Option.map₂ (fun x y => decide (x ≤ y)) a b

/-- `a < b` -/
def below (a b : Option Int) : Truth := Option.map₂ (fun x y => decide (x < y)) a b

@[simp] theorem holds_some (b : Bool) : holds (some b) = b := by cases b <;> rfl

@[simp] theorem holds_both (s t : Truth) : holds (both s t) = (holds s && holds t) := by
  rcases s with _ | _ | _ <;> rcases t with _ | _ | _ <;> rfl

@[simp] theorem holds_either (s t : Truth) : holds (either s t) = (holds s || holds t) := by
  rcases s with _ | _ | _ <;> rcases t with _ | _ | _ <;> rfl

theorem holds_equal [DecidableEq α] {a b : Option α} :
    holds (equal a b) = true ↔ ∃ x, a = some x ∧ b = some x := by
  cases a <;> cases b <;> simp [equal, holds, eq_comm]

theorem holds_atMost {a b : Option Int} :
    holds (atMost a b) = true ↔ ∃ x y, a = some x ∧ b = some y ∧ x ≤ y := by
  cases a <;> cases b <;> simp [atMost, holds]

theorem holds_below {a b : Option Int} :
    holds (below a b) = true ↔ ∃ x y, a = some x ∧ b = some y ∧ x < y := by
  cases a <;> cases b <;> simp [below, holds]

theorem holds_atMost_antisymm {a b : Option Int} (hab : holds (atMost a b) = true)
    (hba : holds (atMost b a) = true) : a = b := by
  obtain ⟨x, y, rfl, rfl, hxy⟩ := holds_atMost.mp hab
  obtain ⟨y', x', hy, hx, hyx⟩ := holds_atMost.mp hba
  obtain rfl := Option.some.inj hy
  obtain rfl := Option.some.inj hx
  rw [le_antisymm hxy hyx]

/-! ## Orders -/

/-- The order of `order by .. asc`: nulls come last. -/
def nullsLast (cmp : α → α → Ordering) : Option α → Option α → Ordering
  | none, none => .eq
  | none, some _ => .gt
  | some _, none => .lt
  | some a, some b => cmp a b

instance (cmp : α → α → Ordering) [Std.TransCmp cmp] : Std.TransCmp (nullsLast cmp) where
  eq_swap {a b} := by
    cases a with
    | none => cases b <;> rfl
    | some a =>
        cases b with
        | none => rfl
        | some b => exact (Std.OrientedCmp.eq_swap : cmp a b = (cmp b a).swap)
  isLE_trans {a b c} hab hbc := by
    cases a with
    | none =>
        cases b with
        | none => exact hbc
        | some b => simp [nullsLast] at hab
    | some a =>
        cases c with
        | none => rfl
        | some c =>
            cases b with
            | none => simp [nullsLast] at hbc
            | some b => exact (Std.TransCmp.isLE_trans hab hbc : (cmp a c).isLE)

theorem nullsLast_eq {cmp : α → α → Ordering} [Std.LawfulEqCmp cmp] {a b : Option α}
    (h : nullsLast cmp a b = .eq) : a = b := by
  cases a with
  | none =>
      cases b with
      | none => rfl
      | some _ => cases h
  | some x =>
      cases b with
      | none => cases h
      | some y =>
          have hxy : cmp x y = .eq := h
          rw [Std.LawfulEqCmp.eq_of_compare hxy]

/-- Off the nulls the order is `<=`. -/
theorem holds_atMost_of_isLE {a b : Option Int} (ha : a.isSome) (hb : b.isSome)
    (h : (nullsLast compare a b).isLE) : holds (atMost a b) = true := by
  obtain ⟨x, rfl⟩ := Option.isSome_iff_exists.mp ha
  obtain ⟨y, rfl⟩ := Option.isSome_iff_exists.mp hb
  exact holds_atMost.mpr ⟨x, y, rfl, rfl, Std.isLE_compare.mp h⟩

/-- `order by f` -/
def ascending (cmp : β → β → Ordering) (f : α → Option β) (a b : α) : Ordering :=
  nullsLast cmp (f a) (f b)

/-- `order by f desc`: nulls come first. -/
def descending (cmp : β → β → Ordering) (f : α → Option β) (a b : α) : Ordering :=
  nullsLast cmp (f b) (f a)

instance (cmp : β → β → Ordering) [Std.TransCmp cmp] (f : α → Option β) :
    Std.TransCmp (ascending cmp f) where
  eq_swap {a b} := (Std.OrientedCmp.eq_swap : nullsLast cmp (f a) (f b) = _)
  isLE_trans {a _ c} hab hbc :=
    (Std.TransCmp.isLE_trans hab hbc : (nullsLast cmp (f a) (f c)).isLE)

instance (cmp : β → β → Ordering) [Std.TransCmp cmp] (f : α → Option β) :
    Std.TransCmp (descending cmp f) where
  eq_swap {a b} := (Std.OrientedCmp.eq_swap : nullsLast cmp (f b) (f a) = _)
  isLE_trans {a _ c} hab hbc :=
    (Std.TransCmp.isLE_trans hbc hab : (nullsLast cmp (f c) (f a)).isLE)

/-- The row that comes first in an order. Of rows the order does not tell apart it is the one
that stands first in the table. -/
def firstBy (cmp : α → α → Ordering) : List α → Option α
  | [] => none
  | row :: rest =>
      match firstBy cmp rest with
      | none => some row
      | some best => if cmp best row = .lt then some best else some row

theorem firstBy_eq_none {cmp : α → α → Ordering} {rows : List α} :
    firstBy cmp rows = none ↔ rows = [] := by
  cases rows with
  | nil => exact ⟨fun _ => rfl, fun _ => rfl⟩
  | cons row rest =>
      refine ⟨fun h => ?_, fun h => nomatch h⟩
      unfold firstBy at h
      split at h
      · cases h
      · split at h <;> cases h

theorem firstBy_mem {cmp : α → α → Ordering} {rows : List α} {first : α}
    (h : firstBy cmp rows = some first) : first ∈ rows := by
  induction rows generalizing first with
  | nil => cases h
  | cons row rest ih =>
      unfold firstBy at h
      split at h
      · cases h
        exact List.mem_cons_self
      · rename_i best hbest
        split at h
        · cases h
          exact List.mem_cons_of_mem _ (ih hbest)
        · cases h
          exact List.mem_cons_self

theorem exists_firstBy (cmp : α → α → Ordering) {rows : List α} {row : α} (h : row ∈ rows) :
    ∃ first, firstBy cmp rows = some first := by
  cases hfirst : firstBy cmp rows with
  | some first => exact ⟨first, rfl⟩
  | none =>
      rw [firstBy_eq_none.mp hfirst] at h
      cases h

/-- No row comes before the first one. -/
theorem firstBy_isLE {cmp : α → α → Ordering} [Std.TransCmp cmp] {rows : List α} {first : α}
    (h : firstBy cmp rows = some first) : ∀ row ∈ rows, (cmp first row).isLE := by
  induction rows generalizing first with
  | nil => cases h
  | cons row rest ih =>
      unfold firstBy at h
      intro other hother
      split at h
      · rename_i hnone
        cases h
        rw [firstBy_eq_none.mp hnone, List.mem_singleton] at hother
        subst hother
        exact Std.ReflCmp.isLE_rfl
      · rename_i best hbest
        split at h
        · rename_i hlt
          cases h
          -- `best` beats the head row, and by induction every row behind it
          rcases List.mem_cons.mp hother with rfl | hmem
          · rw [hlt]
            rfl
          · exact ih hbest other hmem
        · rename_i hlt
          cases h
          rcases List.mem_cons.mp hother with rfl | hmem
          · exact Std.ReflCmp.isLE_rfl
          -- the head row is not beaten by `best`, so it is below all that `best` is below
          · have hswap : cmp row best = (cmp best row).swap := Std.OrientedCmp.eq_swap
            have hle : (cmp row best).isLE := by
              rw [hswap]
              cases hcmp : cmp best row with
              | lt => exact absurd hcmp hlt
              | eq => rfl
              | gt => rfl
            exact Std.TransCmp.isLE_trans hle (ih hbest other hmem)

/-- Where an order tells all rows apart, the first row is the one no other row comes before. -/
theorem firstBy_eq_some_iff {cmp : α → α → Ordering} [Std.TransCmp cmp] {rows : List α} {first : α}
    (htotal : ∀ a ∈ rows, ∀ b ∈ rows, cmp a b = .eq → a = b) :
    firstBy cmp rows = some first ↔ first ∈ rows ∧ ∀ row ∈ rows, (cmp first row).isLE := by
  constructor
  · intro h
    exact ⟨firstBy_mem h, firstBy_isLE h⟩
  · rintro ⟨hmem, hle⟩
    cases hfirst : firstBy cmp rows with
    | none =>
        rw [firstBy_eq_none.mp hfirst] at hmem
        cases hmem
    | some other =>
        have hother := firstBy_mem hfirst
        -- each of the two first rows is below the other
        have heq : cmp other first = .eq :=
          Std.OrientedCmp.isLE_antisymm (firstBy_isLE hfirst first hmem) (hle other hother)
        rw [htotal other hother first hmem heq]

/-! ## Aggregates -/

/-- `min(value)`: nulls are passed over. -/
def minimum (cmp : α → α → Ordering) (values : List (Option α)) : Option α :=
  firstBy cmp values.reduceOption

/-- `max(value)` -/
def maximum (cmp : α → α → Ordering) (values : List (Option α)) : Option α :=
  firstBy (fun a b => cmp b a) values.reduceOption

/-- `count(distinct value)` over values that are not null. -/
def countDistinct [DecidableEq α] (values : List α) : Nat := values.dedup.length

/-- `coalesce(..)` -/
def coalesce (values : List (Option α)) : Option α := values.findSome? id

/-- Values of which none is null. -/
theorem reduceOption_map_some {f : α → β} {rows : List α} :
    (rows.map fun row => some (f row)).reduceOption = rows.map f := by
  induction rows with
  | nil => rfl
  | cons row rows ih => rw [List.map_cons, List.map_cons, List.reduceOption_cons_of_some, ih]

/-- A lexicographic order is first of all its first order. -/
theorem isLE_of_compareLex {cmp cmp' : α → α → Ordering} {a b : α}
    (h : (compareLex cmp cmp' a b).isLE) : (cmp a b).isLE := by
  unfold compareLex at h
  cases hcmp : cmp a b with
  | lt => rfl
  | eq => rfl
  | gt =>
      rw [hcmp] at h
      cases h

theorem minimum_eq_some {cmp : α → α → Ordering} [Std.TransCmp cmp] [Std.LawfulEqCmp cmp]
    {values : List (Option α)} {least : α} (hmem : some least ∈ values)
    (hle : ∀ value, some value ∈ values → (cmp least value).isLE) :
    minimum cmp values = some least := by
  refine (firstBy_eq_some_iff fun _ _ _ _ heq => Std.LawfulEqCmp.eq_of_compare heq).mpr ?_
  exact ⟨List.reduceOption_mem_iff.mpr hmem, fun value hvalue =>
    hle value (List.reduceOption_mem_iff.mp hvalue)⟩

theorem isLeast_minimum {values : List (Option Int)} {least : Int}
    (h : minimum compare values = some least) : IsLeast {value | some value ∈ values} least := by
  constructor
  · exact List.reduceOption_mem_iff.mp (firstBy_mem h)
  · intro value hvalue
    exact Std.isLE_compare.mp (firstBy_isLE h value (List.reduceOption_mem_iff.mpr hvalue))

theorem exists_minimum {cmp : α → α → Ordering} {values : List (Option α)} {value : α}
    (h : some value ∈ values) : ∃ least, minimum cmp values = some least :=
  exists_firstBy cmp (List.reduceOption_mem_iff.mpr h)

/-- One minimum is below another exactly if some value is below all of the other ones. -/
theorem holds_below_minimum {values others : List (Option Int)} :
    holds (below (minimum compare values) (minimum compare others)) = true
      ↔ ∃ value, some value ∈ values ∧ (∃ other, some other ∈ others)
        ∧ ∀ other, some other ∈ others → value < other := by
  rw [holds_below]
  constructor
  · rintro ⟨least, bound, hleast, hbound, hlt⟩
    have hother := isLeast_minimum hbound
    refine ⟨least, (isLeast_minimum hleast).1, ⟨bound, hother.1⟩, fun other hmem => ?_⟩
    exact hlt.trans_le (hother.2 hmem)
  · rintro ⟨value, hvalue, ⟨other, hother⟩, hall⟩
    obtain ⟨least, hleast⟩ := exists_minimum hvalue
    obtain ⟨bound, hbound⟩ := exists_minimum hother
    have hle : least ≤ value := (isLeast_minimum hleast).2 hvalue
    have hlt : value < bound := hall bound (isLeast_minimum hbound).1
    exact ⟨least, bound, hleast, hbound, hle.trans_lt hlt⟩

theorem reversed_transCmp (cmp : α → α → Ordering) [Std.TransCmp cmp] :
    Std.TransCmp fun a b => cmp b a where
  eq_swap := Std.OrientedCmp.eq_swap
  isLE_trans hab hbc := Std.TransCmp.isLE_trans hbc hab

theorem maximum_eq_some {cmp : α → α → Ordering} [Std.TransCmp cmp] [Std.LawfulEqCmp cmp]
    {values : List (Option α)} {greatest : α} (hmem : some greatest ∈ values)
    (hle : ∀ value, some value ∈ values → (cmp value greatest).isLE) :
    maximum cmp values = some greatest := by
  have := reversed_transCmp cmp
  refine (firstBy_eq_some_iff fun _ _ _ _ heq => Std.LawfulEqCmp.eq_of_compare heq).mpr ?_
  exact ⟨List.reduceOption_mem_iff.mpr hmem, fun value hvalue =>
    hle value (List.reduceOption_mem_iff.mp hvalue)⟩

theorem maximum_eq_none {cmp : α → α → Ordering} {values : List (Option α)}
    (h : ∀ value, some value ∉ values) : maximum cmp values = none := by
  unfold maximum
  rw [firstBy_eq_none, List.eq_nil_iff_forall_not_mem]
  exact fun value hvalue => h value (List.reduceOption_mem_iff.mp hvalue)

theorem isGreatest_maximum {values : List (Option Int)} {greatest : Int}
    (h : maximum compare values = some greatest) :
    IsGreatest {value | some value ∈ values} greatest := by
  have := reversed_transCmp (compare : Int → Int → Ordering)
  constructor
  · exact List.reduceOption_mem_iff.mp (firstBy_mem h)
  · intro value hvalue
    exact Std.isLE_compare.mp (firstBy_isLE h value (List.reduceOption_mem_iff.mpr hvalue))

theorem exists_maximum {cmp : α → α → Ordering} {values : List (Option α)} {value : α}
    (h : some value ∈ values) : ∃ greatest, maximum cmp values = some greatest :=
  exists_firstBy _ (List.reduceOption_mem_iff.mpr h)

/-! ## Partitions and groups -/

section

variable [DecidableEq κ] (key : α → κ)

/-- The rows whose `row_number() over (partition by key order by ..)` is 1. -/
def partitionFirst (cmp : α → α → Ordering) (rows : List α) : List α :=
  (rows.map key).dedup.filterMap fun k => firstBy cmp (rows.filter fun row => key row = k)

/-- `select key, aggregate .. group by key`: nulls form a group of their own. -/
def groupBy (aggregate : List α → β) (rows : List α) : List (κ × β) :=
  (rows.map key).dedup.map fun k => (k, aggregate (rows.filter fun row => key row = k))

variable {key}

theorem mem_partitionFirst {cmp : α → α → Ordering} {rows : List α} {row : α} :
    row ∈ partitionFirst key cmp rows
      ↔ firstBy cmp (rows.filter fun other => key other = key row) = some row := by
  unfold partitionFirst
  rw [List.mem_filterMap]
  constructor
  · rintro ⟨k, -, hfirst⟩
    have hk : key row = k := by simpa using (List.mem_filter.mp (firstBy_mem hfirst)).2
    rw [hk]
    exact hfirst
  · intro hfirst
    have hmem : row ∈ rows := (List.mem_filter.mp (firstBy_mem hfirst)).1
    exact ⟨key row, List.mem_dedup.mpr (List.mem_map_of_mem hmem), hfirst⟩

/-- One row is ranked first in each partition. -/
theorem map_partitionFirst {cmp : α → α → Ordering} {rows : List α} :
    (partitionFirst key cmp rows).map key = (rows.map key).dedup := by
  -- one key after another: a key that occurs has a first row, and that row has the key
  have hkeys : ∀ ks : List κ, (∀ k ∈ ks, k ∈ rows.map key) →
      (ks.filterMap fun k => firstBy cmp (rows.filter fun row => key row = k)).map key = ks := by
    intro ks hks
    induction ks with
    | nil => rfl
    | cons k ks ih =>
        obtain ⟨row, hrow, hk⟩ := List.mem_map.mp (hks k List.mem_cons_self)
        cases hfirst : firstBy cmp (rows.filter fun row => key row = k) with
        | none =>
            have hin : row ∈ rows.filter fun row => key row = k := by simp [hrow, hk]
            rw [firstBy_eq_none.mp hfirst] at hin
            cases hin
        | some first =>
            have hkey : key first = k := by simpa using (List.mem_filter.mp (firstBy_mem hfirst)).2
            have hrest := ih fun k' hk' => hks k' (List.mem_cons_of_mem _ hk')
            simp only [List.filterMap_cons, hfirst, List.map_cons, hkey, hrest]
  exact hkeys _ fun k hk => List.mem_dedup.mp hk

theorem partitionFirst_nodup {cmp : α → α → Ordering} {rows : List α} :
    ((partitionFirst key cmp rows).map key).Nodup := by
  rw [map_partitionFirst]
  exact List.nodup_dedup _

theorem partitionFirst_subset {cmp : α → α → Ordering} {rows : List α} :
    partitionFirst key cmp rows ⊆ rows := fun _ hrow =>
  (List.mem_filter.mp (firstBy_mem (mem_partitionFirst.mp hrow))).1

/-- The row of one key among the rows ranked first. -/
theorem find?_partitionFirst {cmp : α → α → Ordering} {rows : List α} {k : κ} :
    ((partitionFirst key cmp rows).find? fun row => k = key row)
      = firstBy cmp (rows.filter fun row => key row = k) := by
  cases hfind : (partitionFirst key cmp rows).find? fun row => k = key row with
  | some row =>
      have hk : k = key row := by simpa using List.find?_some hfind
      rw [hk]
      exact (mem_partitionFirst.mp (List.mem_of_find?_eq_some hfind)).symm
  | none =>
      cases hfirst : firstBy cmp (rows.filter fun row => key row = k) with
      | none => rfl
      | some row =>
          -- the first row of the partition would have been found
          have hk : key row = k := by simpa using (List.mem_filter.mp (firstBy_mem hfirst)).2
          have hmem : row ∈ partitionFirst key cmp rows := mem_partitionFirst.mpr (hk ▸ hfirst)
          exact absurd (decide_eq_true hk.symm) (List.find?_eq_none.mp hfind row hmem)

@[simp] theorem map_fst_groupBy {aggregate : List α → β} {rows : List α} :
    (groupBy key aggregate rows).map Prod.fst = (rows.map key).dedup := by
  unfold groupBy
  rw [List.map_map]
  exact List.map_id _

theorem groupBy_nodup {aggregate : List α → β} {rows : List α} :
    ((groupBy key aggregate rows).map Prod.fst).Nodup := by
  rw [map_fst_groupBy]
  exact List.nodup_dedup _

theorem mem_groupBy {aggregate : List α → β} {rows : List α} {k : κ} {b : β} :
    (k, b) ∈ groupBy key aggregate rows
      ↔ k ∈ rows.map key ∧ b = aggregate (rows.filter fun row => key row = k) := by
  unfold groupBy
  rw [List.mem_map]
  constructor
  · rintro ⟨k', hk', heq⟩
    cases heq
    exact ⟨List.mem_dedup.mp hk', rfl⟩
  · rintro ⟨hk, rfl⟩
    exact ⟨k, List.mem_dedup.mpr hk, rfl⟩

end

/-! ## Joins -/

/-- `left inner join right on ..` -/
def innerJoin (on : α → β → Bool) (left : List α) (right : List β) : List (α × β) :=
  left.flatMap fun a => (right.filter (on a)).map (a, ·)

/-- `left left join right on ..` -/
def leftJoin (on : α → β → Bool) (left : List α) (right : List β) : List (α × Option β) :=
  left.flatMap fun a =>
    match right.filter (on a) with
    | [] => [(a, none)]
    | matched => matched.map fun b => (a, some b)

/-- `left inner join right using (key)`, with the column the two sides share: a null key matches
nothing. -/
def innerJoinUsing [DecidableEq κ] (leftKey : α → Option κ) (rightKey : β → Option κ)
    (left : List α) (right : List β) : List (κ × α × β) :=
  left.flatMap fun a =>
    match leftKey a with
    | none => []
    | some k => (right.filter fun b => rightKey b = some k).map fun b => (k, a, b)

theorem mem_innerJoin {on : α → β → Bool} {left : List α} {right : List β} {a : α} {b : β} :
    (a, b) ∈ innerJoin on left right ↔ a ∈ left ∧ b ∈ right ∧ on a b = true := by
  unfold innerJoin
  rw [List.mem_flatMap]
  constructor
  · rintro ⟨a', ha', hmem⟩
    obtain ⟨b', hb', heq⟩ := List.mem_map.mp hmem
    cases heq
    exact ⟨ha', List.mem_filter.mp hb'⟩
  · rintro ⟨ha, hb, hon⟩
    exact ⟨a, ha, List.mem_map.mpr ⟨b, List.mem_filter.mpr ⟨hb, hon⟩, rfl⟩⟩

theorem mem_innerJoinUsing [DecidableEq κ] {leftKey : α → Option κ} {rightKey : β → Option κ}
    {left : List α} {right : List β} {k : κ} {a : α} {b : β} :
    (k, a, b) ∈ innerJoinUsing leftKey rightKey left right
      ↔ a ∈ left ∧ b ∈ right ∧ leftKey a = some k ∧ rightKey b = some k := by
  unfold innerJoinUsing
  rw [List.mem_flatMap]
  constructor
  · rintro ⟨a', ha', hmem⟩
    split at hmem
    · cases hmem
    · rename_i k' hk'
      obtain ⟨b', hb', heq⟩ := List.mem_map.mp hmem
      cases heq
      have hb := List.mem_filter.mp hb'
      exact ⟨ha', hb.1, hk', by simpa using hb.2⟩
  · rintro ⟨ha, hb, hka, hkb⟩
    refine ⟨a, ha, ?_⟩
    rw [hka]
    exact List.mem_map.mpr ⟨b, List.mem_filter.mpr ⟨hb, by simpa using hkb⟩, rfl⟩

/-- Rows with distinct keys: a condition that fixes the key selects at most one. -/
theorem filter_length_le_one (key : β → κ) {rows : List β} {p : β → Bool}
    (hdistinct : (rows.map key).Nodup)
    (hp : ∀ b ∈ rows, ∀ b' ∈ rows, p b = true → p b' = true → key b = key b') :
    (rows.filter p).length ≤ 1 := by
  have hnodup : ((rows.filter p).map key).Nodup := hdistinct.sublist (List.filter_sublist.map key)
  match hrows : rows.filter p with
  | [] => exact Nat.zero_le 1
  | [_] => exact le_refl 1
  | b :: b' :: rest =>
      have hb : b ∈ rows.filter p := by
        rw [hrows]
        exact List.mem_cons_self
      have hb' : b' ∈ rows.filter p := by
        rw [hrows]
        exact List.mem_cons_of_mem _ List.mem_cons_self
      have hkey : key b = key b' :=
        hp b (List.mem_filter.mp hb).1 b' (List.mem_filter.mp hb').1 (List.mem_filter.mp hb).2
          (List.mem_filter.mp hb').2
      rw [hrows, List.map_cons, List.map_cons, hkey] at hnodup
      exact absurd List.mem_cons_self (List.nodup_cons.mp hnodup).1

/-- Of rows with distinct keys, the one a condition on the key selects is the one found. -/
theorem find?_of_nodup {key : β → κ} {rows : List β} {p : β → Bool} {b : β}
    (hdistinct : (rows.map key).Nodup)
    (hp : ∀ b' ∈ rows, p b' = true → key b' = key b) (hb : b ∈ rows) (hpb : p b = true) :
    rows.find? p = some b := by
  cases hfind : rows.find? p with
  | none => exact absurd hpb (List.find?_eq_none.mp hfind b hb)
  | some found =>
      have hmem := List.mem_of_find?_eq_some hfind
      have hkey : key found = key b := hp found hmem (List.find?_some hfind)
      rw [List.inj_on_of_nodup_map hdistinct hmem hb hkey]

/-- A left join that matches no row twice keeps the left rows as they are. -/
theorem leftJoin_eq_map {on : α → β → Bool} {left : List α} {right : List β}
    (hone : ∀ a ∈ left, (right.filter (on a)).length ≤ 1) :
    leftJoin on left right = left.map fun a => (a, right.find? (on a)) := by
  unfold leftJoin
  induction left with
  | nil => rfl
  | cons a left ih =>
      rw [List.flatMap_cons, ih fun a' ha' => hone a' (List.mem_cons_of_mem _ ha'), List.map_cons]
      have hhead := hone a List.mem_cons_self
      rw [← List.head?_filter]
      generalize right.filter (on a) = matched at hhead
      -- no match, one match, or the excluded two
      match matched with
      | [] => rfl
      | [b] => rfl
      | _ :: _ :: _ =>
          simp only [List.length_cons] at hhead
          omega

/-- An inner join that matches no left row twice drops left rows and repeats none. -/
theorem map_fst_innerJoin_sublist {on : α → β → Bool} {left : List α} {right : List β}
    (hone : ∀ a ∈ left, (right.filter (on a)).length ≤ 1) :
    ((innerJoin on left right).map Prod.fst).Sublist left := by
  unfold innerJoin
  induction left with
  | nil => exact List.Sublist.refl _
  | cons a left ih =>
      rw [List.flatMap_cons, List.map_append]
      have hrest := ih fun a' ha' => hone a' (List.mem_cons_of_mem _ ha')
      have hhead := hone a List.mem_cons_self
      generalize right.filter (on a) = matched at hhead
      match matched with
      | [] => exact hrest.cons a
      | [_] => exact hrest.cons_cons a
      | _ :: _ :: _ =>
          simp only [List.length_cons] at hhead
          omega

/-- An inner join that matches every left row once has the left rows as its rows. -/
theorem map_fst_innerJoin {on : α → β → Bool} {left : List α} {right : List β}
    (hone : ∀ a ∈ left, (right.filter (on a)).length ≤ 1)
    (hsome : ∀ a ∈ left, ∃ b ∈ right, on a b = true) :
    (innerJoin on left right).map Prod.fst = left := by
  unfold innerJoin
  induction left with
  | nil => rfl
  | cons a left ih =>
      rw [List.flatMap_cons, List.map_append, ih (fun a' ha' => hone a' (List.mem_cons_of_mem _ ha'))
        (fun a' ha' => hsome a' (List.mem_cons_of_mem _ ha'))]
      have hhead := hone a List.mem_cons_self
      obtain ⟨b, hb, hon⟩ := hsome a List.mem_cons_self
      have hmem : b ∈ right.filter (on a) := List.mem_filter.mpr ⟨hb, hon⟩
      -- exactly one row of the right table matches
      generalize right.filter (on a) = matched at hhead hmem
      match matched with
      | [] => cases hmem
      | [_] => rfl
      | _ :: _ :: _ =>
          simp only [List.length_cons] at hhead
          omega

/-- An inner join with distinct right keys keeps the keys of the left rows that have a match. -/
theorem map_fst_innerJoinUsing [DecidableEq κ] {leftKey : α → Option κ} {rightKey : β → Option κ}
    {left : List α} {right : List β} (hdistinct : (right.map rightKey).Nodup)
    (hsome : ∀ a ∈ left, ∀ k, leftKey a = some k → some k ∈ right.map rightKey) :
    (innerJoinUsing leftKey rightKey left right).map Prod.fst = left.filterMap leftKey := by
  unfold innerJoinUsing
  induction left with
  | nil => rfl
  | cons a left ih =>
      rw [List.flatMap_cons, List.map_append, ih fun a' ha' => hsome a' (List.mem_cons_of_mem _ ha')]
      -- a row without a key matches nothing, in SQL as in `filterMap`
      cases hkey : leftKey a with
      | none => rw [List.filterMap_cons_none hkey, List.map_nil, List.nil_append]
      | some k =>
          rw [List.filterMap_cons_some hkey]
          have hle : (right.filter fun b => rightKey b = some k).length ≤ 1 :=
            filter_length_le_one rightKey hdistinct fun b _ b' _ hb hb' =>
              (of_decide_eq_true hb).trans (of_decide_eq_true hb').symm
          obtain ⟨b, hb, hkb⟩ := List.mem_map.mp (hsome a List.mem_cons_self k hkey)
          have hmem : b ∈ right.filter fun b => rightKey b = some k := by simp [hb, hkb]
          show (List.map (fun b => (k, a, b)) (right.filter fun b => rightKey b = some k)).map
            Prod.fst ++ _ = _
          generalize (right.filter fun b => rightKey b = some k) = matched at hle hmem
          match matched with
          | [] => cases hmem
          | [_] => rfl
          | _ :: _ :: _ =>
              simp only [List.length_cons] at hle
              omega

/-! ## The latest snapshot of each key -/

section

variable [DecidableEq κ] {key : α → Option κ} {cmp : α → α → Ordering}
  {aggregate : List α → β} {rows : List α}

/-- The row of each key that an order puts first, next to an aggregate over all rows of the key:
`(select .. where row_number = 1) inner join (select .. group by key) using (key)`. -/
def resolve (key : α → Option κ) (cmp : α → α → Ordering) (aggregate : List α → β)
    (rows : List α) : List (κ × α × β) :=
  (innerJoinUsing key Prod.fst (partitionFirst key cmp rows) (groupBy key aggregate rows)).map
    fun (k, latest, (_, rollup)) => (k, latest, rollup)

/-- One row for each key that is not null. -/
theorem map_fst_resolve :
    (resolve key cmp aggregate rows).map Prod.fst = (rows.map key).dedup.reduceOption := by
  have hkeys : ∀ row ∈ partitionFirst key cmp rows, ∀ k, key row = some k →
      some k ∈ (groupBy key aggregate rows).map Prod.fst := by
    intro row hrow k hk
    rw [map_fst_groupBy, List.mem_dedup, ← hk]
    exact List.mem_map_of_mem (partitionFirst_subset hrow)
  have hjoin : (innerJoinUsing key Prod.fst (partitionFirst key cmp rows)
      (groupBy key aggregate rows)).map Prod.fst = (partitionFirst key cmp rows).filterMap key :=
    map_fst_innerJoinUsing groupBy_nodup hkeys
  calc (resolve key cmp aggregate rows).map Prod.fst
      = (innerJoinUsing key Prod.fst (partitionFirst key cmp rows)
          (groupBy key aggregate rows)).map Prod.fst := by
        unfold resolve
        rw [List.map_map]
        rfl
    _ = (partitionFirst key cmp rows).filterMap key := hjoin
    _ = ((partitionFirst key cmp rows).map key).reduceOption := by
        rw [List.reduceOption, List.filterMap_map]
        rfl
    _ = (rows.map key).dedup.reduceOption := by rw [map_partitionFirst]

theorem resolve_nodup : ((resolve key cmp aggregate rows).map Prod.fst).Nodup := by
  rw [map_fst_resolve]
  exact (List.nodup_dedup _).filterMap fun _ _ _ h h' => h.trans h'.symm

theorem mem_resolve {k : κ} {latest : α} {rollup : β} :
    (k, latest, rollup) ∈ resolve key cmp aggregate rows
      ↔ key latest = some k
        ∧ firstBy cmp (rows.filter fun row => key row = some k) = some latest
        ∧ rollup = aggregate (rows.filter fun row => key row = some k) := by
  unfold resolve
  rw [List.mem_map]
  constructor
  · rintro ⟨⟨k', latest', k'', rollup'⟩, hmem, heq⟩
    cases heq
    obtain ⟨hlatest, hgroup, hkey, hk'⟩ := mem_innerJoinUsing.mp hmem
    -- the join compares the key of the row with the key of the group
    have hk'' : k'' = some k := hk'
    subst hk''
    refine ⟨hkey, ?_, (mem_groupBy.mp hgroup).2⟩
    rw [← hkey]
    exact mem_partitionFirst.mp hlatest
  · rintro ⟨hkey, hfirst, rfl⟩
    refine ⟨(k, latest, some k, _), mem_innerJoinUsing.mpr ⟨?_, ?_, hkey, rfl⟩, rfl⟩
    · rw [mem_partitionFirst, hkey]
      exact hfirst
    · refine mem_groupBy.mpr ⟨?_, rfl⟩
      rw [← hkey]
      exact List.mem_map_of_mem (List.mem_filter.mp (firstBy_mem hfirst)).1

/-- The grain of a query that keeps the key of every resolved row. -/
theorem map_resolve {f : κ × α × β → κ} (hf : ∀ k latest rollup, key latest = some k →
    f (k, latest, rollup) = k) :
    (resolve key cmp aggregate rows).map f = (rows.map key).dedup.reduceOption := by
  rw [← map_fst_resolve]
  apply List.map_congr_left
  intro row hrow
  exact hf row.1 row.2.1 row.2.2 (mem_resolve.mp hrow).1

end

/-! ## Counts -/

section

variable [DecidableEq κ] {key : α → κ} {aggregate : List α → β} {rows : List α}

theorem find?_groupBy {k : κ} :
    ((groupBy key aggregate rows).find? fun group => group.1 = k)
      = if k ∈ rows.map key then some (k, aggregate (rows.filter fun row => key row = k))
        else none := by
  by_cases hk : k ∈ rows.map key
  · rw [if_pos hk]
    exact find?_of_nodup groupBy_nodup (fun _ _ hgroup => of_decide_eq_true hgroup)
      (mem_groupBy.mpr ⟨hk, rfl⟩) (decide_eq_true rfl)
  · rw [if_neg hk, List.find?_eq_none]
    rintro ⟨k', b⟩ hgroup hk'
    have heq : k' = k := of_decide_eq_true hk'
    exact hk (heq ▸ (mem_groupBy.mp hgroup).1)

theorem filter_key_eq_nil {k : κ} (hk : k ∉ rows.map key) :
    rows.filter (fun row => key row = k) = [] := by
  rw [List.filter_eq_nil_iff]
  intro row hrow hkey
  exact hk (List.mem_map.mpr ⟨row, hrow, of_decide_eq_true hkey⟩)

/-- `coalesce(count, 0)` of the group joined to a key: a key without a group has the value of
no rows. -/
theorem getD_find?_groupBy {f : β → Nat} (hempty : f (aggregate []) = 0) {k : κ} :
    (((groupBy key aggregate rows).find? fun group => group.1 = k).map fun group =>
        f group.2).getD 0
      = f (aggregate (rows.filter fun row => key row = k)) := by
  rw [find?_groupBy]
  by_cases hk : k ∈ rows.map key
  · rw [if_pos hk]
    rfl
  · rw [if_neg hk, filter_key_eq_nil hk, hempty]
    rfl

/-- The value of the group joined to a key, where no rows have none. -/
theorem bind_find?_groupBy {γ : Type} {f : β → Option γ} (hempty : f (aggregate []) = none) {k : κ} :
    (((groupBy key aggregate rows).find? fun group => group.1 = k).bind fun group => f group.2)
      = f (aggregate (rows.filter fun row => key row = k)) := by
  rw [find?_groupBy]
  by_cases hk : k ∈ rows.map key
  · rw [if_pos hk]
    rfl
  · rw [if_neg hk, filter_key_eq_nil hk, hempty]
    rfl

end

/-- In a table with distinct keys, a query that is empty for every other row is the query of one
row. -/
theorem flatMap_of_nodup {key : α → κ} {rows : List α} {f : α → List β} {row : α}
    (hdistinct : (rows.map key).Nodup) (hrow : row ∈ rows)
    (hother : ∀ a ∈ rows, key a ≠ key row → f a = []) : rows.flatMap f = f row := by
  induction rows with
  | nil => cases hrow
  | cons first rest ih =>
      obtain ⟨hfirst, hrest⟩ := List.nodup_cons.mp hdistinct
      rw [List.flatMap_cons]
      rcases List.mem_cons.mp hrow with rfl | hmem
      -- the row is the first one: no later row has its key
      · have hempty : rest.flatMap f = [] := by
          rw [List.flatMap_eq_nil_iff]
          intro a ha
          refine hother a (List.mem_cons_of_mem _ ha) fun heq => hfirst ?_
          rw [← heq]
          exact List.mem_map_of_mem ha
        rw [hempty, List.append_nil]
      -- the row stands later: the first one has another key and contributes nothing
      · have hne : key first ≠ key row := fun heq => hfirst (heq ▸ List.mem_map_of_mem hmem)
        rw [hother first List.mem_cons_self hne, List.nil_append]
        exact ih hrest hmem fun a ha => hother a (List.mem_cons_of_mem _ ha)

theorem countP_or_of_disjoint {p q : α → Bool} {rows : List α}
    (hdisjoint : ∀ row ∈ rows, p row = true → q row = false) :
    rows.countP p + rows.countP q = rows.countP fun row => p row || q row := by
  induction rows with
  | nil => rfl
  | cons row rows ih =>
      have hrest := ih fun a ha => hdisjoint a (List.mem_cons_of_mem _ ha)
      have hhead := hdisjoint row List.mem_cons_self
      simp only [List.countP_cons]
      cases hp : p row with
      | true =>
          simp only [hhead hp, Bool.or_false, if_true, Bool.false_eq_true, if_false]
          omega
      | false =>
          simp only [Bool.false_or, Bool.false_eq_true, if_false]
          omega

/-- Counting rows value by value, over distinct values, counts the rows whose value is one of
them. -/
theorem sum_countP_of_nodup [DecidableEq κ] {ks : List κ} (hks : ks.Nodup) {f : α → Option κ}
    {p : α → Bool} {rows : List α} :
    (ks.map fun k => rows.countP fun row => p row && decide (f row = some k)).sum
      = rows.countP fun row => p row && (f row).any fun k => decide (k ∈ ks) := by
  induction ks with
  | nil =>
      refine (List.countP_eq_zero.mpr ?_).symm
      intro row _
      cases f row <;> simp
  | cons k ks ih =>
      obtain ⟨hk, hrest⟩ := List.nodup_cons.mp hks
      -- the rows of the first value and those of the others are counted apart
      rw [List.map_cons, List.sum_cons, ih hrest, countP_or_of_disjoint]
      · apply List.countP_congr
        intro row _
        cases f row <;> cases p row <;> simp
      · intro row _ hrow
        rw [Bool.and_eq_true] at hrow
        have hvalue : f row = some k := of_decide_eq_true hrow.2
        rw [hvalue]
        simp [hk]

/-- Values are as many as there are distinct ones exactly if no two are the same. -/
theorem countDistinct_eq_length_iff [DecidableEq α] {values : List α} :
    countDistinct values = values.length ↔ values.Nodup := by
  unfold countDistinct
  constructor
  · intro h
    rw [← List.dedup_eq_self]
    exact (List.dedup_sublist values).eq_of_length h
  · intro h
    rw [h.dedup]

/-- In a table with distinct keys, the values of a column are distinct exactly if a value tells
its key. -/
theorem nodup_map_iff_of_key {key : α → κ} {f : α → β} {rows : List α}
    (hdistinct : (rows.map key).Nodup) :
    (rows.map f).Nodup ↔ ∀ a ∈ rows, ∀ b ∈ rows, f a = f b → key a = key b := by
  constructor
  · intro hvalues a ha b hb heq
    rw [List.inj_on_of_nodup_map hvalues ha hb heq]
  · intro htells
    refine List.Nodup.map_on (fun a ha b hb heq => ?_) (List.Nodup.of_map key hdistinct)
    exact List.inj_on_of_nodup_map hdistinct ha hb (htells a ha b hb heq)

/-- A join of tables with distinct keys has distinct pairs of keys. -/
theorem innerJoin_nodup {κ' : Type} {on : α → β → Bool} {left : List α} {right : List β}
    {leftKey : α → κ} {rightKey : β → κ'} (hleft : (left.map leftKey).Nodup)
    (hright : (right.map rightKey).Nodup) :
    ((innerJoin on left right).map fun row => (leftKey row.1, rightKey row.2)).Nodup := by
  unfold innerJoin
  induction left with
  | nil => exact List.nodup_nil
  | cons a left ih =>
      obtain ⟨ha, hrest⟩ := List.nodup_cons.mp hleft
      rw [List.flatMap_cons, List.map_append]
      apply List.Nodup.append
      · rw [List.map_map]
        have hmatched := hright.sublist ((List.filter_sublist (p := on a)).map rightKey)
        have hpairs := hmatched.map (f := Prod.mk (leftKey a)) fun _ _ h => (Prod.mk.inj h).2
        rw [List.map_map] at hpairs
        exact hpairs
      · exact ih hrest
      -- the pairs of the first row have its key, and no later row has it
      · intro pair hfirst hlater
        obtain ⟨row, hrow, rfl⟩ := List.mem_map.mp hfirst
        obtain ⟨b, -, rfl⟩ := List.mem_map.mp hrow
        obtain ⟨other, hother, heq⟩ := List.mem_map.mp hlater
        obtain ⟨a', ha', hin⟩ := List.mem_flatMap.mp hother
        obtain ⟨b', -, rfl⟩ := List.mem_map.mp hin
        apply ha
        rw [← (Prod.mk.inj heq).1]
        exact List.mem_map_of_mem ha'

/-- Two conditions select the same rows exactly if no row distinguishes the two. -/
theorem filter_eq_filter_iff {p q : α → Bool} {rows : List α} :
    rows.filter p = rows.filter q ↔ ∀ row ∈ rows, p row = q row := by
  constructor
  · intro h row hrow
    rw [Bool.eq_iff_iff]
    constructor
    · intro hp
      have hmem : row ∈ rows.filter q := h ▸ List.mem_filter.mpr ⟨hrow, hp⟩
      exact (List.mem_filter.mp hmem).2
    · intro hq
      have hmem : row ∈ rows.filter p := h ▸ List.mem_filter.mpr ⟨hrow, hq⟩
      exact (List.mem_filter.mp hmem).2
  · exact fun h => List.filter_congr h

/-- A stronger condition that selects as many rows selects the same rows. -/
theorem filter_eq_of_length {p q : α → Bool} {rows : List α}
    (hstronger : ∀ row ∈ rows, q row = true → p row = true)
    (hlength : (rows.filter p).length = (rows.filter q).length) :
    rows.filter p = rows.filter q := by
  have hboth : rows.filter q = (rows.filter p).filter q := by
    rw [List.filter_filter]
    apply List.filter_congr
    intro row hrow
    cases hq : q row with
    | true => rw [hstronger row hrow hq]; rfl
    | false => rfl
  have hsub : (rows.filter q).Sublist (rows.filter p) := by
    rw [hboth]
    exact List.filter_sublist
  exact (hsub.eq_of_length hlength.symm).symm

/-- A stronger condition counts as many rows exactly if no row distinguishes the two. -/
theorem countP_and_eq_iff {p q : α → Bool} {rows : List α} :
    (rows.countP fun row => p row && q row) = rows.countP p
      ↔ ∀ row ∈ rows, p row = true → q row = true := by
  have hfilter : (rows.countP fun row => p row && q row) = (rows.filter p).countP q := by
    rw [List.countP_filter]
    exact List.countP_congr fun row _ => by rw [Bool.and_comm]
  -- all of the rows that pass `p` are counted exactly if all of them pass `q`
  rw [hfilter, List.countP_eq_length_filter (p := p), List.countP_eq_length]
  constructor
  · intro h row hrow hp
    exact h row (List.mem_filter.mpr ⟨hrow, hp⟩)
  · intro h row hrow
    exact h row (List.mem_filter.mp hrow).1 (List.mem_filter.mp hrow).2

/-! ## Rows of a join -/

section

variable {on : α → β → Bool} {left : List α} {right : List β}

/-- A condition on the left table may be tested before a left join. -/
theorem filter_leftJoin (p : α → Bool) :
    (leftJoin on left right).filter (fun row => p row.1) = leftJoin on (left.filter p) right := by
  unfold leftJoin
  induction left with
  | nil => rfl
  | cons a left ih =>
      have hhead : (match right.filter (on a) with
          | [] => [(a, none)]
          | matched => matched.map fun b => (a, some b)).filter (fun row => p row.1)
          = if p a then (match right.filter (on a) with
            | [] => [(a, none)]
            | matched => matched.map fun b => (a, some b)) else [] := by
        cases right.filter (on a) with
        | nil => cases hp : p a <;> simp [hp]
        | cons b rest => cases hp : p a <;> simp [hp]
      rw [List.flatMap_cons, List.filter_append, ih, hhead]
      cases hp : p a with
      | true => rw [if_pos rfl, List.filter_cons_of_pos hp, List.flatMap_cons]
      | false =>
          rw [if_neg Bool.false_ne_true, List.nil_append, List.filter_cons_of_neg (by simp [hp])]

theorem mem_leftJoin {row : α × Option β} :
    row ∈ leftJoin on left right
      ↔ row.1 ∈ left ∧ ((row.2 = none ∧ right.filter (on row.1) = [])
        ∨ ∃ b ∈ right, on row.1 b = true ∧ row.2 = some b) := by
  unfold leftJoin
  rw [List.mem_flatMap]
  constructor
  · rintro ⟨a, ha, hrow⟩
    cases hmatched : right.filter (on a) with
    | nil =>
        rw [hmatched] at hrow
        obtain rfl := List.mem_singleton.mp hrow
        exact ⟨ha, Or.inl ⟨rfl, hmatched⟩⟩
    | cons b rest =>
        rw [hmatched] at hrow
        obtain ⟨found, hfound, rfl⟩ := List.mem_map.mp hrow
        rw [← hmatched] at hfound
        obtain ⟨hmem, hon⟩ := List.mem_filter.mp hfound
        exact ⟨ha, Or.inr ⟨found, hmem, hon, rfl⟩⟩
  · obtain ⟨a, o⟩ := row
    rintro ⟨ha, ⟨hnone, hmatched⟩ | ⟨b, hb, hon, hsome⟩⟩
    · refine ⟨a, ha, ?_⟩
      rw [hmatched]
      exact List.mem_singleton.mpr (Prod.ext rfl hnone)
    · refine ⟨a, ha, ?_⟩
      have hmem : b ∈ right.filter (on a) := List.mem_filter.mpr ⟨hb, hon⟩
      cases hmatched : right.filter (on a) with
      | nil =>
          rw [hmatched] at hmem
          cases hmem
      | cons first rest =>
          rw [hmatched] at hmem
          exact List.mem_map.mpr ⟨b, hmem, Prod.ext rfl hsome.symm⟩

/-- A left join drops no row of the left table. -/
theorem exists_mem_leftJoin (on : α → β → Bool) {left : List α} (right : List β) {a : α}
    (ha : a ∈ left) : ∃ o, (a, o) ∈ leftJoin on left right := by
  cases hmatched : right.filter (on a) with
  | nil => exact ⟨none, mem_leftJoin.mpr ⟨ha, Or.inl ⟨rfl, hmatched⟩⟩⟩
  | cons b rest =>
      have hb : b ∈ right.filter (on a) := hmatched ▸ List.mem_cons_self
      obtain ⟨hmem, hon⟩ := List.mem_filter.mp hb
      exact ⟨some b, mem_leftJoin.mpr ⟨ha, Or.inr ⟨b, hmem, hon, rfl⟩⟩⟩

/-- One left row is joined in as many rows as it has matches, and in one if it has none. -/
theorem length_leftJoin_singleton {a : α} :
    (leftJoin on [a] right).length = 1 ↔ (right.filter (on a)).length ≤ 1 := by
  unfold leftJoin
  rw [List.flatMap_singleton]
  cases right.filter (on a) with
  | nil => exact iff_of_true rfl (Nat.zero_le 1)
  | cons b rest =>
      simp only [List.length_map, List.length_cons]
      omega

/-- In a table with distinct keys one row has the key of a given row. -/
theorem filter_key_of_nodup [DecidableEq κ] {key : α → κ} {rows : List α} {row : α}
    (hdistinct : (rows.map key).Nodup) (hrow : row ∈ rows) :
    rows.filter (fun other => key other = key row) = [row] := by
  have hle : (rows.filter fun other => decide (key other = key row)).length ≤ 1 :=
    filter_length_le_one key hdistinct fun a _ b _ ha hb =>
      (of_decide_eq_true ha).trans (of_decide_eq_true hb).symm
  have hmem : row ∈ rows.filter fun other => decide (key other = key row) :=
    List.mem_filter.mpr ⟨hrow, decide_eq_true rfl⟩
  generalize (rows.filter fun other => decide (key other = key row)) = found at hle hmem
  match found with
  | [] => cases hmem
  | [first] => rw [List.mem_singleton.mp hmem]
  | _ :: _ :: _ =>
      simp only [List.length_cons] at hle
      omega

end

/-! ## Groups that meet a condition -/

section

variable [DecidableEq κ] {key : α → κ} {aggregate : List α → β} {rows : List α} {p : κ → Bool}

/-- At most one group meets a condition exactly if the rows that meet it have one key. -/
theorem length_filter_groupBy_le_one_iff :
    ((groupBy key aggregate rows).filter fun group => p group.1).length ≤ 1
      ↔ ∀ a ∈ rows, ∀ b ∈ rows, p (key a) = true → p (key b) = true → key a = key b := by
  constructor
  · intro hle a ha b hb hpa hpb
    have hmem : ∀ row ∈ rows, p (key row) = true →
        (key row, aggregate (rows.filter fun other => key other = key row))
          ∈ (groupBy key aggregate rows).filter fun group => p group.1 := fun row hrow hp =>
      List.mem_filter.mpr ⟨mem_groupBy.mpr ⟨List.mem_map_of_mem hrow, rfl⟩, hp⟩
    have hmemA := hmem a ha hpa
    have hmemB := hmem b hb hpb
    generalize ((groupBy key aggregate rows).filter fun group => p group.1) = found at hle hmemA hmemB
    match found with
    | [] => cases hmemA
    | [_] =>
        rw [List.mem_singleton] at hmemA hmemB
        exact (Prod.mk.inj (hmemA.trans hmemB.symm)).1
    | _ :: _ :: _ =>
        simp only [List.length_cons] at hle
        omega
  · intro hone
    refine filter_length_le_one Prod.fst groupBy_nodup ?_
    rintro ⟨k, _⟩ hk ⟨k', _⟩ hk' hp hp'
    obtain ⟨a, ha, rfl⟩ := List.mem_map.mp (mem_groupBy.mp hk).1
    obtain ⟨b, hb, rfl⟩ := List.mem_map.mp (mem_groupBy.mp hk').1
    exact hone a ha b hb hp hp'

/-- Where these rows have one key, their group aggregates all of them. -/
theorem aggregate_of_mem_groupBy
    (hone : ∀ a ∈ rows, ∀ b ∈ rows, p (key a) = true → p (key b) = true → key a = key b)
    {k : κ} {b : β} (h : (k, b) ∈ groupBy key aggregate rows) (hp : p k = true) :
    b = aggregate (rows.filter fun row => p (key row)) := by
  obtain ⟨hk, rfl⟩ := mem_groupBy.mp h
  obtain ⟨first, hfirst, rfl⟩ := List.mem_map.mp hk
  refine congrArg aggregate (List.filter_congr fun row hrow => ?_)
  rw [Bool.eq_iff_iff, decide_eq_true_iff]
  constructor
  · intro heq
    rw [heq]
    exact hp
  · intro hrowp
    exact hone row hrow first hfirst hrowp hp

/-- Without a group that meets the condition no row meets it. -/
theorem filter_eq_nil_of_groupBy
    (h : ((groupBy key aggregate rows).filter fun group => p group.1) = []) :
    rows.filter (fun row => p (key row)) = [] := by
  rw [List.filter_eq_nil_iff] at h ⊢
  intro row hrow
  exact h (key row, _) (mem_groupBy.mpr ⟨List.mem_map_of_mem hrow, rfl⟩)

end

end Query
