import DeliveryIntelligence.Backfill.Process

set_option autoImplicit false

/-!
# Checkpoints as positions in a listing

A traversal stores what it owes for the resources of a listing, in order. `Traversals` says
which traversals a backfill has and when a resource has landed; `Covered` that the first
resources of a listing have, and `Placed` that every checkpoint stands at a covered position.
What a cursor means as a position is a parameter: the two backfills differ in nothing else.
-/

namespace Backfill

open Postgres RawEvents

/-- The traversals of one backfill: how their checkpoints are named, what they list, and when a
listed resource has landed in the raw table. -/
structure Traversals (T : Type) where
  resource : T → String
  scope : T → String
  named_inj : ∀ t t', resource t = resource t' → scope t = scope t' → t = t'
  items : T → List Json
  Landed : T → Window → RawTable → Json → Prop
  landed_mono : ∀ t window events events' node, Extends events events' →
    Landed t window events node → Landed t window events' node
  landed_congr : ∀ t window window' events node,
    window.windowStart.instant = window'.windowStart.instant →
    window.windowEnd.instant = window'.windowEnd.instant →
    Landed t window events node → Landed t window' events node

namespace Traversals

variable {T : Type}

/-- The arguments of the run key of a traversal. -/
def runKey (F : Traversals T) (repositoryId : Int) (t : T) (window : Window) :
    RunKeyFields where
  repositoryId := repositoryId
  resource := F.resource t
  scope := F.scope t
  window := window

/-- The first `n` listed resources have landed. -/
def Covered (F : Traversals T) (t : T) (window : Window) (n : Nat) (events : RawTable) : Prop :=
  ∀ i node, i < n → (F.items t)[i]? = some node → F.Landed t window events node

/-- Every checkpoint stands at a covered position. -/
def Placed (F : Traversals T) (repositoryId : Int)
    (position : T → Option String → CheckpointStatus → Option Nat) (tables : BackfillTables) :
    Prop :=
  ∀ t window checkpoint n,
    tables.checkpoints.lookup (F.runKey repositoryId t window).parameters = some checkpoint →
    position t checkpoint.cursor checkpoint.status = some n →
    F.Covered t window n tables.events

variable {F : Traversals T} {repositoryId : Int} {t : T} {window : Window} {n : Nat}
  {events : RawTable}

theorem covered_zero : F.Covered t window 0 events :=
  fun i _ hi _ => absurd hi (Nat.not_lt_zero i)

theorem Covered.mono {events' : RawTable} (h : F.Covered t window n events)
    (hext : Extends events events') : F.Covered t window n events' :=
  fun i node hi hget => F.landed_mono _ _ _ _ _ hext (h i node hi hget)

theorem Covered.le {m : Nat} (h : F.Covered t window n events) (hmn : m ≤ n) :
    F.Covered t window m events :=
  fun i node hi hget => h i node (lt_of_lt_of_le hi hmn) hget

theorem Covered.congr {window' : Window} (h : F.Covered t window n events)
    (hstart : window.windowStart.instant = window'.windowStart.instant)
    (hend : window.windowEnd.instant = window'.windowEnd.instant) :
    F.Covered t window' n events :=
  fun i node hi hget => F.landed_congr _ _ _ _ _ hstart hend (h i node hi hget)

theorem Covered.all (h : F.Covered t window n events) (hn : (F.items t).length ≤ n) :
    ∀ node ∈ F.items t, F.Landed t window events node := by
  intro node hnode
  obtain ⟨i, hi, rfl⟩ := List.mem_iff_getElem.mp hnode
  exact h i _ (lt_of_lt_of_le hi hn) (List.getElem?_eq_getElem hi)

/-- A page at a covered position extends the covered part. -/
theorem Covered.slice {start size : Nat} (h : F.Covered t window start events)
    (hpage : ∀ node ∈ ((F.items t).drop start).take size, F.Landed t window events node) :
    F.Covered t window (start + size) events := by
  intro i node hi hget
  by_cases hlow : i < start
  · exact h i node hlow hget
  -- Behind the start, the resource is one of the page.
  · have hin : (((F.items t).drop start).take size)[i - start]? = some node := by
      rw [List.getElem?_take_of_lt (by omega), List.getElem?_drop,
        Nat.add_sub_cancel' (not_lt.mp hlow)]
      exact hget
    exact hpage node (List.mem_of_getElem? hin)

/-- The run key determines the traversal and the instants of its window. -/
theorem runKey_inj {t' : T} {window' : Window}
    (h : (F.runKey repositoryId t window).parameters
      = (F.runKey repositoryId t' window').parameters) :
    t = t' ∧ window.windowStart.instant = window'.windowStart.instant
      ∧ window.windowEnd.instant = window'.windowEnd.instant := by
  obtain ⟨-, hresource, hscope, hstart, hend⟩ := CheckpointKey.mk.inj h
  exact ⟨F.named_inj t t' hresource hscope, hstart, hend⟩

variable {position : T → Option String → CheckpointStatus → Option Nat}

theorem placed_empty : F.Placed repositoryId position emptyTables :=
  fun _ _ _ _ hlookup _ => nomatch hlookup

theorem Placed.moreEvents {tables : BackfillTables} {events : RawTable}
    (h : F.Placed repositoryId position tables) (hext : Extends tables.events events) :
    F.Placed repositoryId position { tables with events } :=
  fun t window checkpoint n hlookup hn => (h t window checkpoint n hlookup hn).mono hext

/-- A committed page keeps the invariant when the position it writes is covered afterwards. -/
theorem Placed.persist {key : BackfillRunKey} {records : List BackfillRecord}
    {nextCursor : Option String} {completed : Bool} {before after : BackfillTables}
    (h : F.Placed repositoryId position before)
    (hkey : key.toRunKeyFields = F.runKey repositoryId t window)
    (hpage : PageCommitted key records nextCursor completed before after)
    (hnext : ∀ n, position t nextCursor (statusOf completed) = some n →
      F.Covered t window n after.events) :
    F.Placed repositoryId position after := by
  intro t' window' checkpoint n hlookup hn
  by_cases hsame : (F.runKey repositoryId t' window').parameters = key.parameters
  -- The checkpoint the page has just written.
  · obtain ⟨row, hcursor, hstatus, hrow⟩ := hpage.checkpoint
    rw [hsame, hrow] at hlookup
    cases hlookup
    rw [hkey] at hsame
    obtain ⟨rfl, hstart, hend⟩ := runKey_inj hsame
    rw [hcursor, hstatus] at hn
    exact (hnext n hn).congr hstart.symm hend.symm
  -- Of another traversal or another window: as before, over more rows.
  · rw [hpage.others _ hsame] at hlookup
    exact (h t' window' checkpoint n hlookup hn).mono hpage.events

end Traversals

end Backfill
