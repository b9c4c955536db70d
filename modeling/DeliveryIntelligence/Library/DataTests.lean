import DeliveryIntelligence.Library.Query

set_option autoImplicit false

/-!
# Data tests

A data test is a query for the rows that break a property, and it passes if there are none. Here
are the generic ones a column or a model is declared with, each with the property it decides. A
condition that is unknown breaks no property: `not unknown` is not true, and neither is
`null not in (..)`.
-/

namespace Query

variable {ρ σ α μ : Type}

/-- A test of the model and the number of rows its query returns. -/
structure DataTest (μ : Type) where
  name : String
  failures : μ → Nat

def DataTest.passes (test : DataTest μ) (model : μ) : Prop := test.failures model = 0

instance (test : DataTest μ) (model : μ) : Decidable (test.passes model) :=
  inferInstanceAs (Decidable (_ = 0))

theorem passes_iff {name : String} {query : μ → List ρ} {model : μ} :
    (⟨name, fun model => (query model).length⟩ : DataTest μ).passes model ↔ query model = [] :=
  List.length_eq_zero_iff

/-- A test of one model as a test of all of them. -/
def DataTest.on (rows : μ → List ρ) (test : DataTest (List ρ)) : DataTest μ :=
  ⟨test.name, fun models => test.failures (rows models)⟩

/-- The tests declared with one model. -/
def testsOn (rows : μ → List ρ) (tests : List (DataTest (List ρ))) : List (DataTest μ) :=
  tests.map (DataTest.on rows)

theorem on_passes_iff {rows : μ → List ρ} {test : DataTest (List ρ)} {models : μ} :
    (test.on rows).passes models ↔ test.passes (rows models) := Iff.rfl

theorem forall_mem_testsOn {rows : μ → List ρ} {tests : List (DataTest (List ρ))} {models : μ} :
    (∀ test ∈ testsOn rows tests, test.passes models)
      ↔ ∀ test ∈ tests, test.passes (rows models) :=
  List.forall_mem_map

/-! ## The queries -/

/-- `select * from model where not (expression)` -/
def rowsNotTrue (expression : ρ → Truth) (model : List ρ) : List ρ :=
  model.filter fun row => holds (negate (expression row))

/-- `select * from model where column is null` -/
def rowsNull (column : ρ → Option α) (model : List ρ) : List ρ :=
  model.filter fun row => (column row).isNone

section

variable [DecidableEq α]

/-- `select column, count(*) from model where column is not null group by column having count(*) >
1` -/
def repeatedValues (column : ρ → Option α) (model : List ρ) : List (α × Nat) :=
  (groupBy id List.length (model.filterMap column)).filter fun group => decide (1 < group.2)

/-- `select column, count(*) from model group by column`, of which those not in `values`. -/
def otherValues (column : ρ → Option α) (values : List α) (model : List ρ) :
    List (Option α × Nat) :=
  (groupBy column List.length model).filter fun group =>
    group.1.any fun value => decide (value ∉ values)

/-- The values of the column without a partner: `child left join parent on column = field where
field is null`. -/
def orphans (column : ρ → Option α) (model : List ρ) (field : σ → Option α) (parent : List σ) :
    List (α × Option (Option α)) :=
  (leftJoin (fun value other => holds (equal (some value) other)) (model.filterMap column)
    (parent.map field)).filter fun pair => (pair.2.bind id).isNone

end

/-! ## What a test decides -/

theorem rowsNotTrue_eq_nil_iff {expression : ρ → Truth} {model : List ρ} :
    rowsNotTrue expression model = [] ↔ ∀ row ∈ model, expression row ≠ some false := by
  unfold rowsNotTrue
  rw [List.filter_eq_nil_iff]
  refine forall₂_congr fun row _ => ?_
  cases expression row with
  | none => exact iff_of_true (by decide) (by decide)
  | some b => cases b <;> decide

theorem rowsNull_eq_nil_iff {column : ρ → Option α} {model : List ρ} :
    rowsNull column model = [] ↔ ∀ row ∈ model, (column row).isSome := by
  unfold rowsNull
  rw [List.filter_eq_nil_iff]
  refine forall₂_congr fun row _ => ?_
  rw [Bool.not_eq_true, Option.isNone_eq_false_iff]

theorem atMost_zero_ne_false {n : Int} (h : 0 ≤ n) : atMost (some 0) (some n) ≠ some false := by
  show some (decide (0 ≤ n)) ≠ some false
  rw [decide_eq_true h]
  exact fun hfalse => nomatch hfalse

section

variable [DecidableEq α]

/-- In a list without repetition every group has one row. -/
theorem repeatedValues_eq_nil_iff {column : ρ → Option α} {model : List ρ} :
    repeatedValues column model = [] ↔ (model.filterMap column).Nodup := by
  unfold repeatedValues
  rw [List.filter_eq_nil_iff, List.nodup_iff_count_le_one]
  constructor
  · intro h value
    by_cases hmem : value ∈ model.filterMap column
    · have hgroup : (value, ((model.filterMap column).filter fun v => id v = value).length)
          ∈ groupBy id List.length (model.filterMap column) :=
        mem_groupBy.mpr ⟨by rwa [List.map_id], rfl⟩
      have hle := h _ hgroup
      rw [decide_eq_true_iff, not_lt] at hle
      rw [List.count_eq_length_filter]
      simpa [beq_eq_decide] using hle
    · rw [List.count_eq_zero_of_not_mem hmem]
      exact Nat.zero_le 1
  · rintro h ⟨value, n⟩ hgroup
    obtain ⟨-, rfl⟩ := mem_groupBy.mp hgroup
    have hle := h value
    rw [List.count_eq_length_filter] at hle
    simpa [beq_eq_decide] using hle

theorem repeatedValues_some_eq_nil_iff {column : ρ → α} {model : List ρ} :
    repeatedValues (fun row => some (column row)) model = [] ↔ (model.map column).Nodup := by
  rw [repeatedValues_eq_nil_iff, List.filterMap_eq_map']

theorem otherValues_eq_nil_iff {column : ρ → Option α} {values : List α} {model : List ρ} :
    otherValues column values model = []
      ↔ ∀ row ∈ model, ∀ value ∈ column row, value ∈ values := by
  unfold otherValues
  rw [List.filter_eq_nil_iff]
  constructor
  · intro h row hrow value hvalue
    by_contra hother
    have hgroup := h (column row, _)
      (mem_groupBy.mpr ⟨List.mem_map_of_mem hrow, rfl⟩)
    exact hgroup (by rw [Option.mem_def.mp hvalue]; exact decide_eq_true hother)
  · rintro h ⟨k, n⟩ hgroup hany
    obtain ⟨hk, -⟩ := mem_groupBy.mp hgroup
    obtain ⟨row, hrow, rfl⟩ := List.mem_map.mp hk
    obtain ⟨value, hvalue, hother⟩ := (Option.any_eq_true _ _).mp hany
    exact of_decide_eq_true hother (h row hrow value hvalue)

theorem orphans_eq_nil_iff {column : ρ → Option α} {model : List ρ} {field : σ → Option α}
    {parent : List σ} :
    orphans column model field parent = []
      ↔ ∀ row ∈ model, ∀ value ∈ column row, ∃ p ∈ parent, field p = some value := by
  unfold orphans
  rw [List.filter_eq_nil_iff]
  constructor
  · intro h row hrow value hvalue
    by_contra hnone
    -- a value without a partner is joined to null
    have hunmatched : (parent.map field).filter
        (fun other => holds (equal (some value) other)) = [] := by
      rw [List.filter_eq_nil_iff]
      intro other hother heq
      obtain ⟨p, hp, rfl⟩ := List.mem_map.mp hother
      obtain ⟨x, hx, hfield⟩ := holds_equal.mp heq
      cases hx
      exact hnone ⟨p, hp, hfield⟩
    have hmem : value ∈ model.filterMap column := List.mem_filterMap.mpr ⟨row, hrow, hvalue⟩
    exact h (value, none) (mem_leftJoin.mpr ⟨hmem, Or.inl ⟨rfl, hunmatched⟩⟩) rfl
  · rintro h ⟨value, partner⟩ hpair hnull
    obtain ⟨hmem, ⟨-, hunmatched⟩ | ⟨other, -, heq, hpartner⟩⟩ := mem_leftJoin.mp hpair
    · obtain ⟨row, hrow, hvalue⟩ := List.mem_filterMap.mp hmem
      obtain ⟨p, hp, hfield⟩ := h row hrow value hvalue
      refine List.filter_eq_nil_iff.mp hunmatched (field p) (List.mem_map_of_mem hp) ?_
      exact holds_equal.mpr ⟨value, rfl, hfield⟩
    · obtain ⟨x, hx, hother⟩ := holds_equal.mp heq
      cases hx
      rw [show partner = some other from hpartner, hother] at hnull
      cases hnull

end

/-! ## The generic tests -/

def expressionIsTrue (text : String) (expression : ρ → Truth) : DataTest (List ρ) :=
  ⟨text, fun rows => (rowsNotTrue expression rows).length⟩

def notNull (column : String) (value : ρ → Option α) : DataTest (List ρ) :=
  ⟨"not_null " ++ column, fun rows => (rowsNull value rows).length⟩

section

variable [DecidableEq α]

def unique (column : String) (value : ρ → Option α) : DataTest (List ρ) :=
  ⟨"unique " ++ column, fun rows => (repeatedValues value rows).length⟩

def acceptedValues (column : String) (value : ρ → Option α) (values : List α) :
    DataTest (List ρ) :=
  ⟨"accepted_values " ++ column, fun rows => (otherValues value values rows).length⟩

def relationships (column : String) (rows : μ → List ρ) (value : ρ → Option α)
    (parent : μ → List σ) (field : σ → Option α) : DataTest μ :=
  ⟨"relationships " ++ column, fun models =>
    (orphans value (rows models) field (parent models)).length⟩

/-- The uniqueness of a column of a type without null. -/
theorem unique_some_passes_iff {column : String} {value : ρ → α} {rows : List ρ} :
    (unique column fun row => some (value row)).passes rows ↔ (rows.map value).Nodup :=
  passes_iff.trans repeatedValues_some_eq_nil_iff

theorem acceptedValues_passes_iff {column : String} {value : ρ → Option α} {values : List α}
    {rows : List ρ} :
    (acceptedValues column value values).passes rows
      ↔ ∀ row ∈ rows, ∀ v ∈ value row, v ∈ values :=
  passes_iff.trans otherValues_eq_nil_iff

theorem relationships_passes_iff {column : String} {rows : μ → List ρ} {value : ρ → Option α}
    {parent : μ → List σ} {field : σ → Option α} {models : μ} :
    (relationships column rows value parent field).passes models
      ↔ ∀ row ∈ rows models, ∀ v ∈ value row, ∃ p ∈ parent models, field p = some v :=
  passes_iff.trans orphans_eq_nil_iff

end

/-- A column whose values are accepted and known passes two tests. -/
theorem isSome_of_accepted {value : Option α} {values : List α}
    (h : ∃ v ∈ values, value = some v) : value.isSome := by
  obtain ⟨v, -, hvalue⟩ := h
  exact Option.isSome_iff_exists.mpr ⟨v, hvalue⟩

theorem mem_of_accepted {value : Option α} {values : List α} (h : ∃ v ∈ values, value = some v) :
    ∀ v ∈ value, v ∈ values := by
  obtain ⟨v, hmem, rfl⟩ := h
  intro other hother
  rw [Option.mem_some_iff.mp hother] at hmem
  exact hmem

theorem expressionIsTrue_passes_iff {text : String} {expression : ρ → Truth} {rows : List ρ} :
    (expressionIsTrue text expression).passes rows ↔ ∀ row ∈ rows, expression row ≠ some false :=
  passes_iff.trans rowsNotTrue_eq_nil_iff

theorem notNull_passes_iff {column : String} {value : ρ → Option α} {rows : List ρ} :
    (notNull column value).passes rows ↔ ∀ row ∈ rows, (value row).isSome :=
  passes_iff.trans rowsNull_eq_nil_iff

end Query
