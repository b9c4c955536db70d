import DeliveryIntelligence.Consumers.PartitionLog
import DeliveryIntelligence.Consumers.WarehouseLineage
import DeliveryIntelligence.Webhook.Published

set_option autoImplicit false

/-!
# From the receiver to the warehouse

The receiver and the writers as one system: requests are received and published to the partition,
the broker stores what producers have queued, at once or later, and any number of writers land
it. Nobody else appends to the partition. The broker reports success on a record only after it
has stored it.
-/

namespace Ingestion

open Consumers Datetime Program RawEvents Warehouse Webhook

/-! ## The system -/

/-- A request with the clock and the producer it meets. -/
structure Exchange where
  request : Request
  now : Aware
  producer : Producer

section

variable (runtime : Runtime) (settings : WebhookSettings)
  (datetime : Json → Option ParsedDatetime) (p : Partition)

/-- What the receiver publishes for the request, and its response. -/
def Exchange.result (x : Exchange) : List Record × Option Response :=
  receiveGithubWebhook runtime settings x.producer x.now x.request

/-- The writers of the partition read with the receiver's libraries. -/
abbrev writers := warehouseSystem (runtime.parsers datetime) p

structure Pipeline where
  pool : (writers runtime datetime p).Pool
  /-- the records producers have queued and the broker has not stored -/
  queued : List Record
  /-- the requests so far, the latest first -/
  exchanges : List Exchange

inductive Event
  /-- A request, and whether the broker stores its record while the receiver waits. -/
  | receive (x : Exchange) (stored : Bool)
      (acknowledged : ∀ id, (x.result runtime settings).2 = some (.accepted id) → stored = true)
  /-- The broker stores a record whose receiver waits no longer. -/
  | store (i : Nat)
  | worker (e : (writers runtime datetime p).Event) (quiet : appends e = false)

/-- The schedule that appends these records. -/
abbrev stores (records : List Record) : List (writers runtime datetime p).Event :=
  appendAll p rawDatabase
    (fun writer : WarehouseWriter => runForever (runtime.parsers datetime) writer writer.fuel)
    records

variable {runtime settings datetime p}

def step (s : Pipeline runtime datetime p) (e : Event runtime settings datetime p) :
    Pipeline runtime datetime p :=
  match e with
  | .receive x stored _ =>
      let records := (x.result runtime settings).1
      if stored then
        { pool := (writers runtime datetime p).run (stores runtime datetime p records) s.pool
          queued := s.queued
          exchanges := x :: s.exchanges }
      else
        { pool := s.pool
          queued := s.queued ++ records
          exchanges := x :: s.exchanges }
  | .store i =>
      match s.queued[i]? with
      | some record =>
          { s with
            pool := (writers runtime datetime p).run (stores runtime datetime p [record]) s.pool
            queued := s.queued.eraseIdx i }
      | none => s
  | .worker e _ => { s with pool := (writers runtime datetime p).step e s.pool }

theorem step_store_some {s : Pipeline runtime datetime p} {i : Nat} {record : Record}
    (hget : s.queued[i]? = some record) :
    step s (.store i : Event runtime settings datetime p)
      = { s with
          pool := (writers runtime datetime p).run (stores runtime datetime p [record]) s.pool
          queued := s.queued.eraseIdx i } := by
  simp only [step, hget]

theorem step_store_none {s : Pipeline runtime datetime p} {i : Nat}
    (hget : s.queued[i]? = none) :
    step s (.store i : Event runtime settings datetime p) = s := by
  simp only [step, hget]

/-- No request, no message, no writer. -/
def idle (runtime : Runtime) (datetime : Json → Option ParsedDatetime) (p : Partition) :
    Pipeline runtime datetime p :=
  ⟨emptyPool (runtime.parsers datetime) p, [], []⟩

def run (events : List (Event runtime settings datetime p)) : Pipeline runtime datetime p :=
  events.foldl step (idle runtime datetime p)

theorem run_concat (events : List (Event runtime settings datetime p))
    (e : Event runtime settings datetime p) : run (events ++ [e]) = step (run events) e :=
  List.foldl_concat _ _ _ _

/-! ## The writers of the pipeline are writers -/

/-- A step of the pipeline is a schedule of the writers. -/
theorem exists_schedule_step (s : Pipeline runtime datetime p)
    (e : Event runtime settings datetime p) :
    ∃ schedule, (step s e).pool = (writers runtime datetime p).run schedule s.pool := by
  cases e with
  | receive x stored acknowledged =>
      cases stored with
      | true => exact ⟨_, rfl⟩
      | false => exact ⟨[], rfl⟩
  | store i =>
      cases hget : s.queued[i]? with
      | some record => exact ⟨_, congrArg Pipeline.pool (step_store_some hget)⟩
      | none => exact ⟨[], congrArg Pipeline.pool (step_store_none hget)⟩
  | worker e quiet => exact ⟨[e], rfl⟩

theorem exists_schedule (events : List (Event runtime settings datetime p)) :
    ∃ schedule, (run events).pool
      = (writers runtime datetime p).run schedule (emptyPool (runtime.parsers datetime) p) := by
  induction events using List.reverseRecOn with
  | nil => exact ⟨[], rfl⟩
  | append_singleton events e ih =>
      obtain ⟨schedule, hschedule⟩ := ih
      obtain ⟨more, hmore⟩ := exists_schedule_step (run events) e
      refine ⟨schedule ++ more, ?_⟩
      rw [run_concat, hmore, hschedule, System.run_append]

/-! ## The log -/

/-- Stored and queued records are published ones, and an acknowledged one is stored. -/
structure Fed (settings : WebhookSettings) (s : Pipeline runtime datetime p) : Prop where
  published : ∀ record ∈ s.pool.shared.broker.log ++ s.queued,
    ∃ x ∈ s.exchanges, record ∈ (x.result runtime settings).1
  acknowledged : ∀ x ∈ s.exchanges, ∀ id, (x.result runtime settings).2 = some (.accepted id) →
    ∀ record ∈ (x.result runtime settings).1, record ∈ s.pool.shared.broker.log

theorem fed_step {s : Pipeline runtime datetime p} (h : Fed settings s)
    (e : Event runtime settings datetime p) : Fed settings (step s e) := by
  have hold : ∀ x : Exchange, ∀ record ∈ s.pool.shared.broker.log ++ s.queued,
      ∃ y ∈ x :: s.exchanges, record ∈ (y.result runtime settings).1 := by
    intro x record hrecord
    obtain ⟨y, hy, hmem⟩ := h.published record hrecord
    exact ⟨y, List.mem_cons_of_mem _ hy, hmem⟩
  cases e with
  | receive x stored acknowledged =>
      cases stored with
      | true =>
          have hlog : (step s (.receive x true acknowledged)).pool.shared.broker.log
              = s.pool.shared.broker.log ++ (x.result runtime settings).1 :=
            log_appendAll _ s.pool
          constructor
          · intro record hrecord
            rw [hlog, List.append_assoc, List.mem_append, List.mem_append] at hrecord
            rcases hrecord with hlogged | hnew | hqueued
            · exact hold x record (List.mem_append_left _ hlogged)
            · exact ⟨x, List.mem_cons_self, hnew⟩
            · exact hold x record (List.mem_append_right _ hqueued)
          · intro y hy id hid record hrecord
            rw [hlog, List.mem_append]
            rcases List.mem_cons.mp hy with rfl | hearlier
            · exact Or.inr hrecord
            · exact Or.inl (h.acknowledged y hearlier id hid record hrecord)
      | false =>
          constructor
          · intro record hrecord
            have hcases : record ∈ (s.pool.shared.broker.log ++ s.queued)
                ++ (x.result runtime settings).1 := by
              rw [List.append_assoc]
              exact hrecord
            rcases List.mem_append.mp hcases with hearlier | hnew
            · exact hold x record hearlier
            · exact ⟨x, List.mem_cons_self, hnew⟩
          · intro y hy id hid record hrecord
            rcases List.mem_cons.mp hy with rfl | hearlier
            -- without a stored record there is no 202
            · exact absurd (acknowledged id hid) Bool.false_ne_true
            · exact h.acknowledged y hearlier id hid record hrecord
  | store i =>
      cases hget : s.queued[i]? with
      | none =>
          rw [step_store_none hget]
          exact h
      | some stored =>
          rw [step_store_some hget]
          have hlog : ((writers runtime datetime p).run (stores runtime datetime p [stored])
              s.pool).shared.broker.log = s.pool.shared.broker.log ++ [stored] :=
            log_appendAll _ s.pool
          constructor
          · intro record hrecord
            dsimp only at hrecord
            rw [hlog, List.append_assoc, List.mem_append, List.mem_append,
              List.mem_singleton] at hrecord
            refine h.published record (List.mem_append.mpr ?_)
            rcases hrecord with hlogged | rfl | hqueued
            · exact Or.inl hlogged
            · exact Or.inr (List.mem_of_getElem? hget)
            · exact Or.inr (List.mem_of_mem_eraseIdx hqueued)
          · intro x hx id hid record hrecord
            dsimp only
            rw [hlog]
            exact List.mem_append_left _ (h.acknowledged x hx id hid record hrecord)
  | worker e quiet =>
      have hlog : ((writers runtime datetime p).step e s.pool).shared.broker.log
          = s.pool.shared.broker.log := log_of_quiet quiet s.pool
      constructor
      · intro record hrecord
        refine h.published record ?_
        rw [← hlog]
        exact hrecord
      · intro x hx id hid record hrecord
        show record ∈ ((writers runtime datetime p).step e s.pool).shared.broker.log
        rw [hlog]
        exact h.acknowledged x hx id hid record hrecord

theorem fed_run (events : List (Event runtime settings datetime p)) :
    Fed settings (run events) := by
  induction events using List.reverseRecOn with
  | nil => exact ⟨fun _ h => (nomatch h), fun _ h => (nomatch h)⟩
  | append_singleton events e ih =>
      rw [run_concat]
      exact fed_step ih e

end

end Ingestion
