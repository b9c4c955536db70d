import DeliveryIntelligence.Library.Query

set_option autoImplicit false

/-!
# Queries over reordered tables

A table has no order: `rows.Perm rows'` are two listings of one table. Filters, joins, groups and
aggregates give listings of one result. A `row_number()` window does so where the order of each
partition tells its rows apart (`partitionFirst_perm`): the rows it does not tell apart are the
ones between which the listing chooses.
-/

namespace Query

variable {α β γ κ : Type}

/-- An order that tells the rows of every partition apart. -/
def TellsApart (key : α → κ) (cmp : α → α → Ordering) (rows : List α) : Prop :=
  ∀ a ∈ rows, ∀ b ∈ rows, key a = key b → cmp a b = .eq → a = b

/-! ## First rows and aggregates -/

theorem firstBy_perm {cmp : α → α → Ordering} [Std.TransCmp cmp] {rows rows' : List α}
    (h : rows.Perm rows') (htotal : ∀ a ∈ rows, ∀ b ∈ rows, cmp a b = .eq → a = b) :
    firstBy cmp rows = firstBy cmp rows' := by
  have htotal' : ∀ a ∈ rows', ∀ b ∈ rows', cmp a b = .eq → a = b := fun a ha b hb =>
    htotal a (h.mem_iff.mpr ha) b (h.mem_iff.mpr hb)
  -- the first row is the one below all others, which does not depend on the listing
  apply Option.ext
  intro first
  rw [firstBy_eq_some_iff htotal, firstBy_eq_some_iff htotal', h.mem_iff]
  refine and_congr_right fun _ => ?_
  constructor
  · intro hle row hrow
    exact hle row (h.mem_iff.mpr hrow)
  · intro hle row hrow
    exact hle row (h.mem_iff.mp hrow)

theorem reduceOption_perm {values values' : List (Option α)} (h : values.Perm values') :
    values.reduceOption.Perm values'.reduceOption := h.filterMap id

theorem minimum_perm {cmp : α → α → Ordering} [Std.TransCmp cmp] [Std.LawfulEqCmp cmp]
    {values values' : List (Option α)} (h : values.Perm values') :
    minimum cmp values = minimum cmp values' :=
  firstBy_perm (reduceOption_perm h) fun _ _ _ _ heq => Std.LawfulEqCmp.eq_of_compare heq

theorem maximum_perm {cmp : α → α → Ordering} [Std.TransCmp cmp] [Std.LawfulEqCmp cmp]
    {values values' : List (Option α)} (h : values.Perm values') :
    maximum cmp values = maximum cmp values' := by
  have := reversed_transCmp cmp
  exact firstBy_perm (reduceOption_perm h) fun _ _ _ _ heq =>
    (Std.LawfulEqCmp.eq_of_compare heq).symm

theorem countDistinct_perm [DecidableEq α] {values values' : List α} (h : values.Perm values') :
    countDistinct values = countDistinct values' := h.dedup.length_eq

/-! ## Joins -/

theorem innerJoin_perm {on : α → β → Bool} {left left' : List α} {right right' : List β}
    (hleft : left.Perm left') (hright : right.Perm right') :
    (innerJoin on left right).Perm (innerJoin on left' right') :=
  hleft.flatMap fun a _ => (hright.filter (on a)).map _

theorem leftJoin_perm {on : α → β → Bool} {left left' : List α} {right right' : List β}
    (hleft : left.Perm left') (hright : right.Perm right') :
    (leftJoin on left right).Perm (leftJoin on left' right') := by
  refine hleft.flatMap fun a _ => ?_
  have hmatched := hright.filter (on a)
  generalize right.filter (on a) = matched at hmatched
  generalize right'.filter (on a) = matched' at hmatched
  -- the `NULL` row stands for no match, and both listings have a match or neither has
  cases matched with
  | nil =>
      rw [List.nil_perm.mp hmatched]
  | cons b rest =>
      cases matched' with
      | nil => cases List.perm_nil.mp hmatched
      | cons b' rest' => exact hmatched.map _

theorem innerJoinUsing_perm [DecidableEq κ] {leftKey : α → Option κ} {rightKey : β → Option κ}
    {left left' : List α} {right right' : List β} (hleft : left.Perm left')
    (hright : right.Perm right') :
    (innerJoinUsing leftKey rightKey left right).Perm
      (innerJoinUsing leftKey rightKey left' right') := by
  refine hleft.flatMap fun a _ => ?_
  cases leftKey a with
  | none => exact List.Perm.refl _
  | some k => exact (hright.filter _).map _

/-! ## Partitions and groups -/

section

variable [DecidableEq κ]

theorem partitionFirst_perm {key : α → κ} {cmp : α → α → Ordering} [Std.TransCmp cmp]
    {rows rows' : List α} (h : rows.Perm rows') (hapart : TellsApart key cmp rows) :
    (partitionFirst key cmp rows).Perm (partitionFirst key cmp rows') := by
  -- within a partition the window picks one row, whatever the listing
  have hfirst : ∀ k, firstBy cmp (rows.filter fun row => key row = k)
      = firstBy cmp (rows'.filter fun row => key row = k) := by
    intro k
    refine firstBy_perm (h.filter _) fun a ha b hb => ?_
    obtain ⟨hmem, hk⟩ := List.mem_filter.mp ha
    obtain ⟨hmem', hk'⟩ := List.mem_filter.mp hb
    exact hapart a hmem b hmem' ((of_decide_eq_true hk).trans (of_decide_eq_true hk').symm)
  unfold partitionFirst
  simp only [hfirst]
  exact (h.map key).dedup.filterMap _

theorem groupBy_perm {key : α → κ} {aggregate : List α → β} {rows rows' : List α}
    (h : rows.Perm rows')
    (haggregate : ∀ {group group' : List α}, group.Perm group' → aggregate group = aggregate group') :
    (groupBy key aggregate rows).Perm (groupBy key aggregate rows') := by
  have hgroup : ∀ k, aggregate (rows.filter fun row => key row = k)
      = aggregate (rows'.filter fun row => key row = k) := fun k => haggregate (h.filter _)
  unfold groupBy
  simp only [hgroup]
  exact (h.map key).dedup.map _

theorem resolve_perm {key : α → Option κ} {cmp : α → α → Ordering} [Std.TransCmp cmp]
    {aggregate : List α → β} {rows rows' : List α} (h : rows.Perm rows')
    (hapart : TellsApart key cmp rows)
    (haggregate : ∀ {group group' : List α}, group.Perm group' → aggregate group = aggregate group') :
    (resolve key cmp aggregate rows).Perm (resolve key cmp aggregate rows') :=
  (innerJoinUsing_perm (partitionFirst_perm h hapart) (groupBy_perm h haggregate)).map _

end

end Query
