import DeliveryIntelligence.Backfill.Rerun
import DeliveryIntelligence.Library.Finishing

set_option autoImplicit false

/-!
# An invocation that nothing disturbs

A world in which no request and no statement fails by itself, while other programs go on adding raw
rows (`Steady`). A statement is still rejected when a row breaks a constraint, so a page is
persisted there only under the conditions of `concludes_persist`: its records are ones the raw
table accepts, and the checkpoint it leaves is one the checkpoint table accepts.
-/

namespace Backfill

open Datetime Postgres Program RawEvents

/-! ## The world -/

/-- Identities no row has, no two of them the same. -/
def Fresh (generated : Nat → Generated) (events : RawTable) : Prop :=
  (∀ m n, (generated m).eventId = (generated n).eventId → m = n)
    ∧ ∀ n, ∀ entry ∈ events.rows, entry.2.eventId ≠ (generated n).eventId

/-- The operation does not fail by itself. -/
def Smooth {Request : Type} :
    (op : BackfillOp Request) → BackfillChoice op → BackfillTables → Prop
  | .loadCheckpoint _, choice, _ => choice = none
  | .persistPage _ _ _ _, choice, tables =>
      choice.fault = .none ∧ Fresh choice.generated tables.events
  | .request _, choice, _ => choice = none

/-- One exchange with an API and a database that work, behind other programs that may have added
raw rows. -/
def Steady {Request : Type} (respond : Request → Except BackfillError Json)
    (exchange : BackfillExchange Request) (tables tables' : BackfillTables) : Prop :=
  ∃ events choice, Extends tables.events events
    ∧ Smooth exchange.1 choice { tables with events }
    ∧ backfillAct respond exchange.1 choice { tables with events } () = (exchange.2, tables', ())

theorem exists_fresh (events : RawTable) : ∃ generated, Fresh generated events := by
  -- above the sum of all identities in the table
  refine ⟨fun n => ⟨(events.rows.map (·.2.eventId)).sum + 1 + n, 0⟩, fun m n h => ?_, ?_⟩
  · simp only at h
    omega
  · intro n entry hentry heq
    have hle : entry.2.eventId ≤ (events.rows.map (·.2.eventId)).sum :=
      List.le_sum_of_mem (List.mem_map_of_mem hentry)
    simp only at heq
    omega

/-! ## Rows that are accepted -/

/-- The raw table accepts the row of the record; no constraint reads the generated columns. -/
def Storable (record : BackfillRecord) : Prop :=
  enforce rawEventConstraints (record.row default) = .ok ()

theorem Storable.enforce {record : BackfillRecord} (h : Storable record) (generated : Generated) :
    enforce rawEventConstraints (record.row generated) = .ok () := h

theorem insertRow_total {row : RawEvent} {events : RawTable}
    (hrow : enforce rawEventConstraints row = .ok ())
    (hfresh : ∀ entry ∈ events.rows, entry.2.eventId ≠ row.eventId) :
    ∃ events' returned, insertRow row events = .ok (events', returned) := by
  have hnone : (events.rows.any fun entry => entry.2.eventId == row.eventId) = false := by
    rw [List.any_eq_false]
    intro entry hentry
    simpa using hfresh entry hentry
  unfold insertRow
  rw [hrow]
  simp only [hnone, Bool.and_false, Bool.false_eq_true, if_false]
  exact ⟨_, _, rfl⟩

/-- The remaining identities are fresh behind an insert. -/
theorem Fresh.insertRow {generated : Nat → Generated} {events events' : RawTable}
    {record : BackfillRecord} {returned : Option Nat} (h : Fresh generated events)
    (hinsert : insertRow (record.row (generated 0)) events = .ok (events', returned)) :
    Fresh (fun n => generated (n + 1)) events' := by
  refine ⟨fun m n heq => Nat.succ.inj (h.1 _ _ heq), fun n entry hentry => ?_⟩
  obtain ⟨k, row⟩ := entry
  have hlookup := Table.mem_rows.mp hentry
  rcases (insertRow_ok hinsert).2.2.1 k row hlookup with hold | ⟨-, rfl⟩
  · exact h.2 (n + 1) (k, row) (Table.mem_rows.mpr hold)
  · intro heq
    exact absurd (h.1 _ _ heq) (Nat.succ_ne_zero n).symm

theorem insertRecords_total {generated : Nat → Generated} {records : List BackfillRecord}
    {events : RawTable} (hrecords : ∀ record ∈ records, Storable record)
    (hfresh : Fresh generated events) :
    ∃ final inserted, insertRecords generated records events = .ok (final, inserted)
      ∧ inserted ≤ records.length := by
  induction records generalizing generated events with
  | nil => exact ⟨events, 0, rfl, le_rfl⟩
  | cons record rest ih =>
      obtain ⟨events', returned, hrow⟩ := insertRow_total
        ((hrecords record List.mem_cons_self).enforce (generated 0)) (hfresh.2 0)
      obtain ⟨final, inserted, hrest, hle⟩ :=
        ih (fun other hother => hrecords other (List.mem_cons_of_mem _ hother))
          (hfresh.insertRow hrow)
      refine ⟨final, inserted + if returned.isSome then 1 else 0, ?_, ?_⟩
      · unfold insertRecords
        rw [hrow]
        show (insertRecords (fun n => generated (n + 1)) rest events' >>= _) = _
        rw [hrest]
        rfl
      · rw [List.length_cons]
        split
        · omega
        · omega

theorem advanceCheckpoint_total {key : CheckpointKey} {cursor : Option String}
    {status : CheckpointStatus} {inserted : Nat} (checkpoints : CheckpointTable)
    (hnew : enforce checkpointConstraints (key, advancedRow cursor status inserted none) = .ok ())
    (hrow : enforce checkpointConstraints
      (key, advancedRow cursor status inserted (checkpoints.lookup key)) = .ok ()) :
    advanceCheckpoint key cursor status inserted checkpoints
      = .ok (checkpoints.insert key (advancedRow cursor status inserted (checkpoints.lookup key)),
          some (advancedRow cursor status inserted (checkpoints.lookup key))) := by
  have hfirst : enforce checkpointConstraints (key, ⟨cursor, status, 1, (inserted : Int)⟩)
      = .ok () := hnew
  unfold advanceCheckpoint Table.upsert
  simp only [hfirst]
  cases hlookup : checkpoints.lookup key with
  | none =>
      show (enforce checkpointConstraints _ >>= _) = _
      rw [hfirst]
      rfl
  | some old =>
      rw [hlookup] at hrow
      have hmore : enforce checkpointConstraints (key, ⟨cursor, status, old.pagesCompleted + 1,
          old.recordsInserted + (inserted : Int)⟩) = .ok () := hrow
      show (enforce checkpointConstraints _ >>= _) = _
      rw [hmore]
      rfl

/-- A page is persisted when the tables accept its records and its checkpoint. -/
theorem persistPage_total {generated : Nat → Generated} {key : BackfillRunKey}
    {records : List BackfillRecord} {nextCursor : Option String} {completed : Bool}
    (tables : BackfillTables) (hfresh : Fresh generated tables.events)
    (hrecords : ∀ record ∈ records, Storable record)
    (hcheck : checkPage key records nextCursor completed = .ok ())
    (haccepts : ∀ inserted ≤ records.length, ∀ old,
      old = none ∨ old = tables.checkpoints.lookup key.parameters →
      enforce checkpointConstraints
        (key.parameters, advancedRow nextCursor (statusOf completed) inserted old) = .ok ()) :
    ∃ outcome events inserted, inserted ≤ records.length
      ∧ persistPage generated key records nextCursor completed tables
        = .ok (outcome, ⟨events, tables.checkpoints.insert key.parameters
            (advancedRow nextCursor (statusOf completed) inserted
              (tables.checkpoints.lookup key.parameters))⟩) := by
  obtain ⟨events, inserted, hinsert, hle⟩ := insertRecords_total hrecords hfresh
  have hadvance := advanceCheckpoint_total tables.checkpoints
    (haccepts inserted hle none (Or.inl rfl)) (haccepts inserted hle _ (Or.inr rfl))
  refine ⟨⟨inserted, records.length - inserted, advancedRow nextCursor (statusOf completed) inserted
    (tables.checkpoints.lookup key.parameters)⟩, events, inserted, hle, ?_⟩
  unfold persistPage
  rw [hcheck, hinsert]
  show ((advanceCheckpoint _ _ _ _ _).mapError _ >>= _) = _
  rw [hadvance]
  rfl

/-! ## Rules -/

section

variable {Request β : Type}

/-- From these checkpoints on the job returns, whatever the raw rows are. -/
def Concludes (respond : Request → Except BackfillError Json) (post : β → CheckpointTable → Prop)
    (job : Job Request β) (checkpoints : CheckpointTable) : Prop :=
  ∀ tables : BackfillTables, tables.checkpoints = checkpoints →
    job.Finishes (Steady respond) (fun b tables' => post b tables'.checkpoints) tables

variable {respond : Request → Except BackfillError Json} {post : β → CheckpointTable → Prop}
  {checkpoints : CheckpointTable}

theorem concludes_pure {b : β} (h : post b checkpoints) :
    Concludes respond post (pure b : Job Request β) checkpoints := by
  rintro tables rfl
  exact h

theorem Concludes.imp {post' : β → CheckpointTable → Prop} {job : Job Request β}
    (h : Concludes respond post job checkpoints)
    (hpost : ∀ b checkpoints', post b checkpoints' → post' b checkpoints') :
    Concludes respond post' job checkpoints :=
  fun tables htables => (h tables htables).imp fun b tables' => hpost b tables'.checkpoints

theorem concludes_ofExcept {α : Type} {x : Except BackfillError α} {a : α}
    {f : α → Job Request β} (hx : x = .ok a) (h : Concludes respond post (f a) checkpoints) :
    Concludes respond post (Prog.ofExcept x >>= f) checkpoints := by
  rw [hx]
  exact h

theorem concludes_bind {α : Type} {mid : α → CheckpointTable → Prop} {job : Job Request α}
    {f : α → Job Request β} (h : Concludes respond mid job checkpoints)
    (hf : ∀ a checkpoints', mid a checkpoints' → Concludes respond post (f a) checkpoints') :
    Concludes respond post (job >>= f) checkpoints :=
  fun tables htables => (h tables htables).bind fun a tables' hmid => hf a _ hmid tables' rfl

theorem concludes_load {key : BackfillRunKey} {f : Option BackfillCheckpoint → Job Request β}
    (h : Concludes respond post (f (checkpoints.lookup key.parameters)) checkpoints) :
    Concludes respond post (Job.loadCheckpoint key >>= f) checkpoints := by
  rintro tables rfl
  refine ⟨⟨_, _, tables.events, none, Extends.refl _, rfl, rfl⟩, ?_⟩
  rintro reply tables' ⟨events, choice, -, hsmooth, hact⟩
  have hchoice : choice = none := hsmooth
  subst hchoice
  cases hact
  exact h _ rfl

theorem concludes_request {request : Request} {payload : Json} {f : Json → Job Request β}
    (hrespond : respond request = .ok payload)
    (h : Concludes respond post (f payload) checkpoints) :
    Concludes respond post (Job.request request >>= f) checkpoints := by
  rintro tables rfl
  refine ⟨⟨_, _, tables.events, none, Extends.refl _, rfl, rfl⟩, ?_⟩
  rintro reply tables' ⟨events, choice, -, hsmooth, hact⟩
  have hchoice : choice = none := hsmooth
  subst hchoice
  cases hact
  show Prog.Finishes _ _ (Prog.ofExcept (respond request) >>= f) _
  rw [hrespond]
  exact h _ rfl

/-- The rule of a page whose records and checkpoint are accepted. -/
theorem concludes_persist {key : BackfillRunKey} {records : List BackfillRecord}
    {nextCursor : Option String} {completed : Bool} {f : PageWriteOutcome → Job Request β}
    (hrecords : ∀ record ∈ records, Storable record)
    (hcheck : checkPage key records nextCursor completed = .ok ())
    (haccepts : ∀ inserted ≤ records.length, ∀ old,
      old = none ∨ old = checkpoints.lookup key.parameters →
      enforce checkpointConstraints
        (key.parameters, advancedRow nextCursor (statusOf completed) inserted old) = .ok ())
    (h : ∀ outcome inserted, inserted ≤ records.length →
      Concludes respond post (f outcome) (checkpoints.insert key.parameters
        (advancedRow nextCursor (statusOf completed) inserted
          (checkpoints.lookup key.parameters)))) :
    Concludes respond post (Job.persistPage key records nextCursor completed >>= f)
      checkpoints := by
  rintro tables rfl
  constructor
  · obtain ⟨generated, hfresh⟩ := exists_fresh tables.events
    exact ⟨_, _, tables.events, ⟨generated, .none⟩, Extends.refl _, ⟨rfl, hfresh⟩, rfl⟩
  · rintro reply tables' ⟨events, ⟨generated, fault⟩, -, ⟨hfault, hfresh⟩, hact⟩
    have hnone : fault = .none := hfault
    subst hnone
    obtain ⟨outcome, events', inserted, hle, hpage⟩ := persistPage_total
      ⟨events, tables.checkpoints⟩ hfresh hrecords hcheck haccepts
    have hreply : persistAct key records nextCursor completed ⟨generated, .none⟩
        { tables with events } = (reply, tables') :=
      Prod.ext (congrArg (·.1) hact) (congrArg (·.2.1) hact)
    unfold persistAct at hreply
    rw [hpage] at hreply
    cases hreply
    exact h outcome inserted hle _ rfl

end

/-! ## Checkpoints that are accepted -/

/-- The checkpoint table accepts the key. -/
structure KeyFits (key : CheckpointKey) : Prop where
  repositoryId : 0 < key.repositoryId ∧ fitsBigint key.repositoryId = true
  resource : fitsText key.resource = true ∧ nonempty key.resource = true
  scope : fitsText key.scope = true ∧ nonempty key.scope = true
  window : key.windowStart < key.windowEnd

/-- The counters of a checkpoint have room for more pages, of at most 100 records each. -/
structure HasRoom (pages : Nat) (row : Option BackfillCheckpoint) : Prop where
  pages_nonneg : 0 ≤ row.elim 0 (·.pagesCompleted)
  pages_lt : row.elim 0 (·.pagesCompleted) + pages < 2 ^ 31
  records_nonneg : 0 ≤ row.elim 0 (·.recordsInserted)
  records_lt : row.elim 0 (·.recordsInserted) + 100 * pages < 2 ^ 63

theorem HasRoom.none_of {pages : Nat} {row : Option BackfillCheckpoint} (h : HasRoom pages row) :
    HasRoom pages none := by
  obtain ⟨hpages, hpagesLt, hrecords, hrecordsLt⟩ := h
  constructor
  · exact le_rfl
  · show (0 : Int) + pages < 2 ^ 31
    omega
  · exact le_rfl
  · show (0 : Int) + 100 * pages < 2 ^ 63
    omega

section

variable {key : CheckpointKey} {old : Option BackfillCheckpoint} {cursor : Option String}
  {completed : Bool} {inserted pages : Nat}

theorem accepts_of_counters {row : BackfillCheckpoint} (hkey : KeyFits key)
    (hcursor : row.cursor.all fitsText = true)
    (hstatus : row.status = .completed → row.cursor = none)
    (hpages : 0 ≤ row.pagesCompleted ∧ row.pagesCompleted < 2 ^ 31)
    (hrecords : 0 ≤ row.recordsInserted ∧ row.recordsInserted < 2 ^ 63) :
    enforce checkpointConstraints (key, row) = .ok () := by
  have hinteger : fitsInteger row.pagesCompleted = true := decide_eq_true (by omega)
  have hbigint : fitsBigint row.recordsInserted = true := decide_eq_true (by omega)
  have hdone : (row.status != .completed || row.cursor.isNone) = true := by
    cases hs : row.status with
    | inProgress => rfl
    | completed =>
        rw [hstatus hs]
        rfl
  refine enforce_of_holds fun c hc => ?_
  simp only [checkpointConstraints, List.mem_cons, List.not_mem_nil, or_false] at hc
  rcases hc with rfl | rfl | rfl | rfl | rfl | rfl | rfl | rfl | rfl | rfl | rfl | rfl | rfl
  · exact hkey.repositoryId.2
  · exact hkey.resource.1
  · exact hkey.scope.1
  · exact hcursor
  · exact hinteger
  · exact hbigint
  · exact decide_eq_true hkey.repositoryId.1
  · exact hkey.resource.2
  · exact hkey.scope.2
  · exact decide_eq_true hkey.window
  · exact decide_eq_true hpages.1
  · exact decide_eq_true hrecords.1
  · exact hdone

/-- A page uses the room of one page. -/
theorem HasRoom.advanced (h : HasRoom (pages + 1) old) (hinserted : inserted ≤ 100) :
    HasRoom pages (some (advancedRow cursor (statusOf completed) inserted old)) := by
  obtain ⟨hpagesNonneg, hpagesLt, hrecordsNonneg, hrecordsLt⟩ := h
  cases old with
  | none =>
      simp only [Option.elim] at *
      constructor
      · show (0 : Int) ≤ 1
        omega
      · show (1 : Int) + pages < 2 ^ 31
        omega
      · show (0 : Int) ≤ inserted
        omega
      · show (inserted : Int) + 100 * pages < 2 ^ 63
        omega
  | some row =>
      simp only [Option.elim] at *
      constructor
      · show 0 ≤ row.pagesCompleted + 1
        omega
      · show row.pagesCompleted + 1 + pages < 2 ^ 31
        omega
      · show 0 ≤ row.recordsInserted + inserted
        omega
      · show row.recordsInserted + inserted + 100 * pages < 2 ^ 63
        omega

/-- Where there is room for a page, its checkpoint is accepted. -/
theorem accepts_of_room (hkey : KeyFits key) (hroom : HasRoom (pages + 1) old)
    (hcursor : cursor.all fitsText = true) (hcompleted : completed = true → cursor = none)
    (hinserted : inserted ≤ 100) :
    enforce checkpointConstraints (key, advancedRow cursor (statusOf completed) inserted old)
      = .ok () := by
  have hshape : (advancedRow cursor (statusOf completed) inserted old).cursor = cursor
      ∧ (advancedRow cursor (statusOf completed) inserted old).status = statusOf completed := by
    cases old <;> exact ⟨rfl, rfl⟩
  have hafter : HasRoom pages (some (advancedRow cursor (statusOf completed) inserted old)) :=
    hroom.advanced hinserted
  obtain ⟨hpages, hpagesLt, hrecords, hrecordsLt⟩ := hafter
  simp only [Option.elim] at hpages hpagesLt hrecords hrecordsLt
  refine accepts_of_counters hkey ?_ ?_ ⟨hpages, by omega⟩ ⟨hrecords, by omega⟩
  · rw [hshape.1]
    exact hcursor
  · intro hstatus
    rw [hshape.2] at hstatus
    rw [hshape.1]
    cases completed with
    | true => exact hcompleted rfl
    | false => cases hstatus

end

/-! ## Page numbers as text -/

theorem isDigit_or_sign {n : Int} {c : Char} (h : c ∈ (toString n).toList) :
    c ≠ Char.ofNat 0 ∧ Python.isSpace c = false := by
  rcases Text.mem_intText h with hdigit | rfl
  · have hrange := Python.isDigit_range hdigit
    constructor
    · rintro rfl
      exact absurd hdigit (by decide)
    · have hcode : ∀ n, 48 ≤ n → n ≤ 57 → Python.isSpaceCode n = false := by decide
      exact hcode c.toNat hrange.1 hrange.2
  · exact ⟨by decide, by decide⟩

theorem fitsText_toString (n : Int) : fitsText (toString n) = true :=
  List.all_eq_true.mpr fun c hc => by simpa using (isDigit_or_sign hc).1

/-! ## Rows that have been accepted -/

/-- Every checkpoint satisfies the constraints of its table. -/
def RowsAccepted (checkpoints : CheckpointTable) : Prop :=
  ∀ key row, checkpoints.lookup key = some row →
    enforce checkpointConstraints (key, row) = .ok ()

theorem rowsAccepted_persistPage {generated : Nat → Generated} {key : BackfillRunKey}
    {records : List BackfillRecord} {nextCursor : Option String} {completed : Bool}
    {tables tables' : BackfillTables} {outcome : PageWriteOutcome}
    (h : persistPage generated key records nextCursor completed tables = .ok (outcome, tables'))
    (haccepted : RowsAccepted tables.checkpoints) : RowsAccepted tables'.checkpoints := by
  obtain ⟨_, -, h⟩ := bind_eq_ok h
  obtain ⟨⟨events, inserted⟩, -, h⟩ := bind_eq_ok h
  obtain ⟨⟨checkpoints, returned⟩, hadvance, h⟩ := bind_eq_ok h
  have hadvance := mapError_eq_ok hadvance
  have hinsert := advanceCheckpoint_eq hadvance
  cases returned with
  | none => cases h
  | some checkpoint =>
      cases h
      intro other row hrow
      by_cases hother : other = key.parameters
      · -- the row the upsert returned has been checked
        obtain ⟨_, -, hreturned⟩ := bind_eq_ok hadvance
        simp only at hreturned
        generalize hup : tables.checkpoints.upsert key.parameters _ _ = up at hreturned
        obtain ⟨t, stored⟩ := up
        cases stored with
        | none => cases hreturned
        | some new =>
            obtain ⟨_, hchecked, hreturned⟩ := bind_eq_ok hreturned
            cases hreturned
            obtain ⟨rfl, -⟩ := Table.upsert_eq_some hup
            rw [hother, AList.lookup_insert] at hrow
            cases hrow
            rw [hother]
            exact hchecked
      · show enforce checkpointConstraints (other, row) = .ok ()
        rw [show checkpoints = _ from hinsert, AList.lookup_insert_ne hother] at hrow
        exact haccepted other row hrow

theorem rowsAccepted_persistAct (key : BackfillRunKey) (records : List BackfillRecord)
    (nextCursor : Option String) (completed : Bool) (choice : PageChoice) {tables : BackfillTables}
    (h : RowsAccepted tables.checkpoints) :
    RowsAccepted (persistAct key records nextCursor completed choice tables).2.checkpoints := by
  unfold persistAct
  cases hpage : persistPage choice.generated key records nextCursor completed tables with
  | error e => exact h
  | ok result =>
      have hafter := rowsAccepted_persistPage hpage h
      cases choice.fault with
      | none => exact hafter
      | beforeCommit => exact h
      | afterCommit => exact hafter

/-- In every run of any invocations. -/
theorem rowsAccepted_run {Request Local Start : Type}
    (respond : Request → Except BackfillError Json)
    (start : Start → Job Request BackfillSummary × Local)
    (schedule : List (backfillSystem respond start).Event)
    (pool : (backfillSystem respond start).Pool) (h : RowsAccepted pool.shared.checkpoints) :
    RowsAccepted ((backfillSystem respond start).run schedule pool).shared.checkpoints := by
  refine System.run_keeps _ (I := fun tables => RowsAccepted tables.checkpoints) ?_ ?_ schedule pool h
  · intro op choice tables l htables
    cases op with
    | loadCheckpoint key => cases choice <;> exact htables
    | persistPage key records nextCursor completed =>
        exact rowsAccepted_persistAct key records nextCursor completed choice htables
    | request request => cases choice <;> exact htables
  · intro row tables htables
    show RowsAccepted (otherInsert row tables).checkpoints
    unfold otherInsert
    cases insertRow row tables.events with
    | error e => exact htables
    | ok result => exact htables

/-- So no counter is negative. -/
theorem RowsAccepted.nonneg {checkpoints : CheckpointTable} {key : CheckpointKey}
    {row : BackfillCheckpoint} (h : RowsAccepted checkpoints)
    (hrow : checkpoints.lookup key = some row) :
    0 ≤ row.pagesCompleted ∧ 0 ≤ row.recordsInserted := by
  have hall := enforce_iff.mp (h key row hrow)
  have hpages := hall ⟨.check "backfill_checkpoints_pages_nonnegative",
    fun row => decide (0 ≤ row.2.pagesCompleted)⟩ (by simp [checkpointConstraints])
  have hrecords := hall ⟨.check "backfill_checkpoints_records_nonnegative",
    fun row => decide (0 ≤ row.2.recordsInserted)⟩ (by simp [checkpointConstraints])
  exact ⟨of_decide_eq_true hpages, of_decide_eq_true hrecords⟩

end Backfill
