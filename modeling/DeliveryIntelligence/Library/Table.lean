import Mathlib.Data.List.AList
import Mathlib.Tactic

set_option autoImplicit false

/-!
# Keyed tables

A table with a unique key is an association list with distinct keys (`AList`), so two rows
with one key cannot be built. The operations are the three forms of SQL write a program
needs: an insert that resolves a key conflict (`upsert`), an update of one row by key
(`updateRow`) and an insert of several selected rows that skips the keys already present
(`insertMissing`). Each operation comes with the lemma that says what a `lookup` sees
afterwards, so that callers never unfold it.
-/

/-- Rows of type `ρ` under distinct keys of type `κ`. -/
abbrev Table (κ ρ : Type) := AList fun _ : κ => ρ

namespace Table

variable {κ ρ : Type} [DecidableEq κ]

/-- `INSERT .. ON CONFLICT (key) DO UPDATE .. WHERE .. RETURNING`: `onConflict` gives the row
that replaces an existing one, or `none` where the `WHERE` of the update rejects it. The
second component is the returned row. -/
def upsert (t : Table κ ρ) (k : κ) (new : ρ) (onConflict : ρ → Option ρ) :
    Table κ ρ × Option ρ :=
  match t.lookup k with
  | none => (t.insert k new, some new)
  | some old =>
      match onConflict old with
      | none => (t, none)
      | some row => (t.insert k row, some row)

/-- `UPDATE .. WHERE key = k AND ..`: `change` gives the new row, or `none` where the rest of
the `WHERE` rejects the old one. -/
def updateRow (t : Table κ ρ) (k : κ) (change : ρ → Option ρ) : Table κ ρ :=
  match (t.lookup k).bind change with
  | none => t
  | some row => t.insert k row

/-- `INSERT .. SELECT .. ON CONFLICT (key) DO NOTHING RETURNING`, one row after another. The
second component lists the inserted rows in order. -/
def insertMissing (t : Table κ ρ) : List (κ × ρ) → Table κ ρ × List ρ
  | [] => (t, [])
  | (k, row) :: rest =>
      match t.lookup k with
      | some _ => insertMissing t rest
      | none =>
          let (t', inserted) := insertMissing (t.insert k row) rest
          (t', row :: inserted)

/-- The rows of a table with their keys, in storage order. -/
def rows (t : Table κ ρ) : List (κ × ρ) := t.entries.map fun e => (e.1, e.2)

theorem mem_rows {t : Table κ ρ} {k : κ} {row : ρ} :
    (k, row) ∈ t.rows ↔ t.lookup k = some row := by
  rw [← Option.mem_def, AList.mem_lookup_iff, rows, List.mem_map]
  constructor
  · rintro ⟨⟨k', row'⟩, hmem, heq⟩
    cases heq
    exact hmem
  · intro hmem
    exact ⟨⟨k, row⟩, hmem, rfl⟩

omit [DecidableEq κ] in
theorem nodup_fst_rows (t : Table κ ρ) : (t.rows.map Prod.fst).Nodup := by
  have hkeys : t.rows.map Prod.fst = t.keys := by
    rw [rows, List.map_map]
    rfl
  rw [hkeys]
  exact t.keys_nodup

/-! ## What a lookup sees after a write -/

/-- An upsert that returns no row met a conflicting row and kept the whole table. -/
theorem upsert_eq_none {t t' : Table κ ρ} {k : κ} {new : ρ} {onConflict : ρ → Option ρ}
    (h : t.upsert k new onConflict = (t', none)) :
    t' = t ∧ ∃ old, t.lookup k = some old ∧ onConflict old = none := by
  unfold upsert at h
  cases hl : t.lookup k with
  | none => simp [hl] at h
  | some old =>
      cases hc : onConflict old with
      | none => simp [hl, hc] at h; exact ⟨h.symm, old, rfl, hc⟩
      | some row => simp [hl, hc] at h

/-- An upsert that returns a row stored exactly that row. -/
theorem upsert_eq_some {t t' : Table κ ρ} {k : κ} {new row : ρ} {onConflict : ρ → Option ρ}
    (h : t.upsert k new onConflict = (t', some row)) :
    t' = t.insert k row ∧
      (t.lookup k = none ∧ row = new
        ∨ ∃ old, t.lookup k = some old ∧ onConflict old = some row) := by
  unfold upsert at h
  cases hl : t.lookup k with
  | none => simp [hl] at h; obtain ⟨rfl, rfl⟩ := h; exact ⟨rfl, Or.inl ⟨rfl, rfl⟩⟩
  | some old =>
      cases hc : onConflict old with
      | none => simp [hl, hc] at h
      | some row' =>
          simp [hl, hc] at h
          obtain ⟨rfl, rfl⟩ := h
          exact ⟨rfl, Or.inr ⟨old, rfl, hc⟩⟩

theorem lookup_updateRow (t : Table κ ρ) (k : κ) (change : ρ → Option ρ) :
    (t.updateRow k change).lookup k
      = (t.lookup k).map fun old => (change old).getD old := by
  unfold updateRow
  cases h : t.lookup k with
  | none => simp [h]
  | some old =>
      cases hc : change old with
      | none => simp [h, hc]
      | some row => simp [hc]

theorem lookup_updateRow_ne (t : Table κ ρ) {k k' : κ} (change : ρ → Option ρ) (hk : k' ≠ k) :
    (t.updateRow k change).lookup k' = t.lookup k' := by
  unfold updateRow
  split
  · rfl
  · exact AList.lookup_insert_ne hk

/-- Inserting several rows is inserting the first and then the others. -/
theorem insertMissing_cons (t : Table κ ρ) (entry : κ × ρ) (rest : List (κ × ρ)) :
    (t.insertMissing (entry :: rest)).1
      = ((t.insertMissing [entry]).1.insertMissing rest).1 := by
  obtain ⟨k, row⟩ := entry
  cases hold : t.lookup k with
  | some old => simp [insertMissing, hold]
  | none => simp [insertMissing, hold]

/-- The first of the listed rows that stands under the key `k`. -/
def firstRow (k : κ) : List (κ × ρ) → Option ρ
  | [] => none
  | (k', row) :: rest => if k' = k then some row else firstRow k rest

theorem firstRow_mem {k : κ} {row : ρ} {new : List (κ × ρ)} (h : firstRow k new = some row) :
    (k, row) ∈ new := by
  induction new with
  | nil => cases h
  | cons p rest ih =>
      obtain ⟨k', row'⟩ := p
      unfold firstRow at h
      by_cases hk : k' = k
      · rw [if_pos hk] at h
        cases h
        exact hk ▸ List.mem_cons_self
      · rw [if_neg hk] at h
        exact List.mem_cons_of_mem _ (ih h)

theorem firstRow_isSome_of_mem {k : κ} {row : ρ} {new : List (κ × ρ)} (h : (k, row) ∈ new) :
    ∃ row', firstRow k new = some row' := by
  induction new with
  | nil => cases h
  | cons p rest ih =>
      obtain ⟨k', row'⟩ := p
      unfold firstRow
      by_cases hk : k' = k
      · exact ⟨row', if_pos hk⟩
      · rw [if_neg hk]
        -- the first entry has another key, so the row stands in the rest
        refine ih ?_
        rcases List.mem_cons.mp h with heq | hmem
        · exact absurd (congrArg Prod.fst heq).symm hk
        · exact hmem

/-- A present key keeps its row; a missing one gets the first row listed for it. -/
theorem lookup_insertMissing (t : Table κ ρ) (new : List (κ × ρ)) (k : κ) :
    (t.insertMissing new).1.lookup k = (t.lookup k).or (firstRow k new) := by
  induction new generalizing t with
  | nil => simp [insertMissing, firstRow]
  | cons p rest ih =>
      obtain ⟨k', row'⟩ := p
      unfold insertMissing firstRow
      cases hl : t.lookup k' with
      | some old =>
          -- the key is taken, so the entry is skipped: `k'` keeps its old row
          simp only [ih t]
          by_cases hk : k' = k
          · subst hk; simp [hl]
          · simp [hk]
      | none =>
          -- the entry is stored, and later entries of its key will find it
          simp only [ih (t.insert k' row')]
          by_cases hk : k' = k
          · subst hk; simp [hl]
          · rw [if_neg hk, AList.lookup_insert_ne (Ne.symm hk)]

/-! ## Sums over the rows -/

/-- The sum of `f` over the rows. -/
def total (f : ρ → Int) (t : Table κ ρ) : Int := (t.rows.map fun entry => f entry.2).sum

theorem rows_insert_new {t : Table κ ρ} {k : κ} (h : t.lookup k = none) (row : ρ) :
    rows (t.insert k row) = (k, row) :: t.rows := by
  rw [rows, rows, AList.entries_insert_of_notMem (AList.lookup_eq_none.mp h)]
  rfl

theorem total_insert_new {t : Table κ ρ} {k : κ} (h : t.lookup k = none) (row : ρ)
    (f : ρ → Int) : total f (t.insert k row) = total f t + f row := by
  rw [total, total, rows_insert_new h, List.map_cons, List.sum_cons, add_comm]

/-- Replacing a row exchanges its summand. -/
theorem total_insert {t : Table κ ρ} {k : κ} {old : ρ} (h : t.lookup k = some old) (row : ρ)
    (f : ρ → Int) : total f (t.insert k row) + f old = total f t + f row := by
  have hkeys : k ∈ t.entries.keys := AList.mem_keys.mp (AList.lookup_isSome.mp (by simp [h]))
  -- the old row stands between the rows before and after it
  obtain ⟨found, before, after, -, hentries, hrest⟩ := List.exists_of_kerase hkeys
  have hfound : found = old := by
    have hmem : (⟨k, found⟩ : Sigma fun _ : κ => ρ) ∈ t.entries := by
      rw [hentries]
      exact List.mem_append_right _ List.mem_cons_self
    have hlookup : t.lookup k = some found := AList.mem_lookup_iff.mpr hmem
    rw [h] at hlookup
    exact (Option.some.inj hlookup).symm
  rw [hfound] at hentries
  simp only [total, rows, AList.entries_insert, hentries, List.map_cons, List.map_append,
    List.sum_cons, List.sum_append]
  rw [← hentries, hrest]
  simp only [List.map_append, List.sum_append]
  ring

end Table
