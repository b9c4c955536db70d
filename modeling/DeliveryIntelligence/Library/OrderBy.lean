import DeliveryIntelligence.Library.Reorder
import Mathlib.Data.List.Sort

set_option autoImplicit false

/-!
# Ordered results

`order by` lists the rows of a result, and `row_number()` numbers them. The order decides the list
where it tells the rows apart (`orderBy_eq_of_perm`); else it is the listing of the table that
decides. The counts of the groups of a table add up to the counts of its rows.
-/

namespace Query

variable {α β κ : Type}

/-! ## `order by` -/

/-- The rows in order; those the order does not tell apart as the table lists them. -/
def orderBy (cmp : α → α → Ordering) (rows : List α) : List α :=
  rows.insertionSort fun a b => (cmp a b).isLE = true

theorem orderBy_perm (cmp : α → α → Ordering) (rows : List α) : (orderBy cmp rows).Perm rows :=
  List.perm_insertionSort _ rows

theorem mem_orderBy {cmp : α → α → Ordering} {rows : List α} {row : α} :
    row ∈ orderBy cmp rows ↔ row ∈ rows := (orderBy_perm cmp rows).mem_iff

theorem nodup_map_orderBy {cmp : α → α → Ordering} {f : α → β} {rows : List α} :
    ((orderBy cmp rows).map f).Nodup ↔ (rows.map f).Nodup :=
  ((orderBy_perm cmp rows).map f).nodup_iff

theorem pairwise_orderBy (cmp : α → α → Ordering) [Std.TransCmp cmp] (rows : List α) :
    (orderBy cmp rows).Pairwise fun a b => (cmp a b).isLE = true := by
  have htotal : Std.Total fun a b => (cmp a b).isLE = true := by
    refine ⟨fun a b => ?_⟩
    have hswap : cmp b a = (cmp a b).swap := Std.OrientedCmp.eq_swap
    rw [hswap]
    cases cmp a b <;> simp
  have htrans : IsTrans α fun a b => (cmp a b).isLE = true :=
    ⟨fun _ _ _ => Std.TransCmp.isLE_trans⟩
  exact List.pairwise_insertionSort _ rows

/-- Two listings of a table have one ordered result where the order tells the rows apart. -/
theorem orderBy_eq_of_perm {cmp : α → α → Ordering} [Std.TransCmp cmp] {rows rows' : List α}
    (h : rows.Perm rows') (hapart : ∀ a ∈ rows, ∀ b ∈ rows, cmp a b = .eq → a = b) :
    orderBy cmp rows = orderBy cmp rows' := by
  refine List.Perm.eq_of_pairwise (fun a b ha hb hab hba => ?_) (pairwise_orderBy cmp rows)
    (pairwise_orderBy cmp rows')
    ((orderBy_perm cmp rows).trans (h.trans (orderBy_perm cmp rows').symm))
  have heq : cmp a b = .eq := Std.OrientedCmp.isLE_antisymm hab hba
  exact hapart a (mem_orderBy.mp ha) b (h.mem_iff.mpr (mem_orderBy.mp hb)) heq

/-- Two listings of a table have one ordered result where its order compares a key of the table. -/
theorem orderBy_eq_of_key {cmp : α → α → Ordering} [Std.TransCmp cmp] {key : α → κ}
    {rows rows' : List α} (h : rows.Perm rows') (hkeys : (rows.map key).Nodup)
    (hcmp : ∀ a b, cmp a b = .eq → key a = key b) : orderBy cmp rows = orderBy cmp rows' :=
  orderBy_eq_of_perm h fun a ha b hb heq => List.inj_on_of_nodup_map hkeys ha hb (hcmp a b heq)

/-! ## Counts of groups -/

section

variable [DecidableEq κ] {key : α → κ} {rows : List α}

/-- A column that tells the keys apart tells the groups apart. -/
theorem nodup_map_groupBy {γ : Type} {aggregate : List α → β} {f : κ → γ}
    (hf : Function.Injective f) :
    ((groupBy key aggregate rows).map fun group => f group.1).Nodup := by
  have hkeys : ((groupBy key aggregate rows).map Prod.fst).Nodup := groupBy_nodup
  have hcolumn := hkeys.map hf
  rw [List.map_map] at hcolumn
  exact hcolumn

variable (key rows) in
/-- Counting value by value over the values of a column counts every row. -/
theorem sum_countP_dedup (p : α → Bool) (q : κ → Bool) :
    (((rows.map key).dedup.filter q).map fun k =>
        (rows.filter fun row => key row = k).countP p).sum
      = rows.countP fun row => p row && q (key row) := by
  have hkeys : ((rows.map key).dedup.filter q).Nodup := (List.nodup_dedup _).filter _
  calc _ = (((rows.map key).dedup.filter q).map fun k =>
        rows.countP fun row => p row && decide (some (key row) = some k)).sum := by
        simp only [List.countP_filter, Option.some.injEq]
    _ = rows.countP fun row => p row
          && (some (key row)).any fun k => decide (k ∈ (rows.map key).dedup.filter q) :=
        sum_countP_of_nodup hkeys
    _ = rows.countP fun row => p row && q (key row) := by
        apply List.countP_congr
        intro row hrow
        have hkey : key row ∈ (rows.map key).dedup :=
          List.mem_dedup.mpr (List.mem_map_of_mem hrow)
        simp only [Option.any_some, List.mem_filter, hkey, true_and, Bool.decide_eq_true]

variable (key rows) in
/-- The groups that meet a condition count the rows that meet it. -/
theorem sum_groupBy {aggregate : List α → β} (count : β → Nat) {q : α → Bool}
    (hcount : ∀ rows, count (aggregate rows) = rows.countP q) (p : κ → Bool) :
    (((groupBy key aggregate rows).filter fun group => p group.1).map fun group =>
        count group.2).sum
      = rows.countP fun row => q row && p (key row) := by
  unfold groupBy
  rw [List.filter_map, List.map_map, ← sum_countP_dedup]
  congr 1
  apply List.map_congr_left
  intro k _
  exact hcount _

variable (key rows) in
/-- `count(*)` -/
theorem sum_length_groupBy (p : κ → Bool) :
    (((groupBy key List.length rows).filter fun group => p group.1).map (·.2)).sum
      = rows.countP fun row => p (key row) :=
  sum_groupBy key rows id (q := fun _ => true) (fun _ => List.countP_true ▸ rfl) p

end

/-! ## `row_number()` -/

section

variable [DecidableEq κ]

/-- The rows with their `row_number() over (partition by key order by ..)`. -/
def numbered (key : α → κ) (cmp : α → α → Ordering) (rows : List α) : List (α × Nat) :=
  (rows.map key).dedup.flatMap fun k => (orderBy cmp (rows.filter fun row => key row = k)).zipIdx 1

variable {key : α → κ} {cmp : α → α → Ordering} {rows rows' : List α}

/-- Each row is numbered once. -/
theorem map_fst_numbered_perm : ((numbered key cmp rows).map Prod.fst).Perm rows := by
  classical
  have hpartition : ((rows.map key).dedup.flatMap fun k => rows.filter fun row => key row = k).Perm
      rows := by
    rw [List.perm_iff_count]
    intro row
    have hsum := sum_countP_dedup key rows (· == row) fun _ => true
    simp only [List.filter_true, Bool.and_true] at hsum
    rw [List.count_flatMap]
    exact hsum
  unfold numbered
  rw [List.map_flatMap]
  simp only [List.zipIdx_map_fst]
  exact (List.Perm.flatMap_left _ fun k _ => orderBy_perm cmp _).trans hpartition

/-- Two listings of a table have the same numbers where the order of each partition tells its rows
apart. -/
theorem numbered_perm [Std.TransCmp cmp] (h : rows.Perm rows') (hapart : TellsApart key cmp rows) :
    (numbered key cmp rows).Perm (numbered key cmp rows') := by
  have horder : ∀ k, orderBy cmp (rows.filter fun row => key row = k)
      = orderBy cmp (rows'.filter fun row => key row = k) := by
    intro k
    refine orderBy_eq_of_perm (h.filter _) fun a ha b hb heq => ?_
    obtain ⟨hmem, hk⟩ := List.mem_filter.mp ha
    obtain ⟨hmem', hk'⟩ := List.mem_filter.mp hb
    exact hapart a hmem b hmem' ((of_decide_eq_true hk).trans (of_decide_eq_true hk').symm) heq
  unfold numbered
  simp only [horder]
  exact (h.map key).dedup.flatMap_right _

end

end Query
