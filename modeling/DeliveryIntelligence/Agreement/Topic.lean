import DeliveryIntelligence.Agreement.Marts
import DeliveryIntelligence.Consumers.PartitionLog
import DeliveryIntelligence.Consumers.PrReplay
import DeliveryIntelligence.Consumers.WarehouseLineage

set_option autoImplicit false

/-!
# Two groups over one topic

The writers and the monitors read one partition, each group with its own offsets, instances and
crashes. Once both have committed past every entry, the marts that dbt builds of the raw table and
the serving tables agree on every pull request of the log, whatever the schedule was
(`topic_agreement`).
-/

namespace Agreement

open Consumers Monitor Postgres Program Warehouse
open PrStorage (Call Serving)
open RawEvents (RawEvent RawTable WellKeyed)
open Dbt (Server Staged Seed july24)

variable {parsers : PayloadParsers} {p : Partition}

/-! ## The topic and its groups -/

structure Topic (parsers : PayloadParsers) (p : Partition) where
  writers : (warehouseSystem parsers.toParsers p).Pool
  monitors : (monitorSystem parsers p).Pool

namespace Topic

inductive Entry (parsers : PayloadParsers) (p : Partition)
  /-- A producer appends to the partition; both groups see it. -/
  | append (record : Record)
  | writer (e : (warehouseSystem parsers.toParsers p).Event) (quiet : appends e = false)
  | monitor (e : (monitorSystem parsers p).Event) (quiet : appends e = false)

def step (s : Topic parsers p) : Entry parsers p → Topic parsers p
  | .append record =>
      { writers := (warehouseSystem parsers.toParsers p).step (.disturb (.append record)) s.writers
        monitors := (monitorSystem parsers p).step (.disturb (.append record)) s.monitors }
  | .writer e _ => { s with writers := (warehouseSystem parsers.toParsers p).step e s.writers }
  | .monitor e _ => { s with monitors := (monitorSystem parsers p).step e s.monitors }

/-- No message, no row, no instance. -/
def empty (parsers : PayloadParsers) (p : Partition) : Topic parsers p :=
  ⟨Warehouse.emptyPool parsers.toParsers p, Monitor.emptyPool parsers p⟩

def run (schedule : List (Entry parsers p)) : Topic parsers p :=
  schedule.foldl step (empty parsers p)

/-- Each group runs a schedule of its own, and both see the same log. -/
structure Explained (s : Topic parsers p) : Prop where
  writers : ∃ schedule, s.writers = (warehouseSystem parsers.toParsers p).run schedule
    (Warehouse.emptyPool parsers.toParsers p)
  monitors : ∃ schedule, s.monitors = (monitorSystem parsers p).run schedule
    (Monitor.emptyPool parsers p)
  log_eq : s.monitors.shared.broker.log = s.writers.shared.broker.log

theorem Explained.step {s : Topic parsers p} (h : s.Explained) (entry : Entry parsers p) :
    (s.step entry).Explained := by
  obtain ⟨⟨before, hbefore⟩, ⟨before', hbefore'⟩, hlog⟩ := h
  have hwriters (e : (warehouseSystem parsers.toParsers p).Event) :
      (warehouseSystem parsers.toParsers p).step e s.writers
        = (warehouseSystem parsers.toParsers p).run (before ++ [e])
          (Warehouse.emptyPool parsers.toParsers p) := by
    rw [System.run_concat, ← hbefore]
  have hmonitors (e : (monitorSystem parsers p).Event) :
      (monitorSystem parsers p).step e s.monitors
        = (monitorSystem parsers p).run (before' ++ [e]) (Monitor.emptyPool parsers p) := by
    rw [System.run_concat, ← hbefore']
  cases entry with
  | append record =>
      exact ⟨⟨_, hwriters (.disturb (.append record))⟩, ⟨_, hmonitors (.disturb (.append record))⟩,
        congrArg (· ++ [record]) hlog⟩
  | writer e quiet =>
      exact ⟨⟨_, hwriters e⟩, ⟨before', hbefore'⟩, hlog.trans (log_of_quiet quiet s.writers).symm⟩
  | monitor e quiet =>
      exact ⟨⟨before, hbefore⟩, ⟨_, hmonitors e⟩, (log_of_quiet quiet s.monitors).trans hlog⟩

theorem explained_run (schedule : List (Entry parsers p)) : (run schedule).Explained := by
  induction schedule using List.reverseRecOn with
  | nil => exact ⟨⟨[], rfl⟩, ⟨[], rfl⟩, rfl⟩
  | append_singleton schedule entry ih =>
      unfold run
      rw [List.foldl_concat]
      exact ih.step entry

end Topic

/-- The group has committed past every entry of the log. -/
def CaughtUp {D : Type} (w : World D) : Prop :=
  ∀ i < w.broker.log.length, ∃ c ∈ w.broker.committed, i < c

/-- The valid entries of the log are the webhooks of the events, each once or more. -/
def Logs (events : List (Event parsers)) (log : List Record) : Prop :=
  ∀ envelope, (∃ record ∈ log, validateEnvelope parsers.toParsers record.value = .ok envelope)
    ↔ ∃ e ∈ events, e.envelope = envelope

section

variable {events : List (Event parsers)}

/-! ## What the writers land -/

/-- A raw table of landings with a row for every valid entry holds the webhooks of the log. -/
theorem landed_of_lineage {server : Server} {w : World RawTable} {rows : List RawEvent}
    (hconsistent : Consistent server events) (hlogs : Logs events w.broker.log)
    (hkept : (lineage parsers.toParsers p).Kept w) (hcaught : CaughtUp w)
    (hrows : rows.Perm (w.database.rows.map Prod.snd))
    (hwebhooks : ∀ row ∈ rows, row.source = .webhook) : Landed events rows := by
  have hfrom : FromLanding parsers.toParsers p w.broker.log w.database := hkept.inv.2
  have hmem : ∀ row, row ∈ rows ↔ ∃ k, w.database.lookup k = some row := by
    intro row
    rw [hrows.mem_iff, List.mem_map]
    constructor
    · rintro ⟨⟨k, row'⟩, hin, rfl⟩
      exact ⟨k, Table.mem_rows.mp hin⟩
    · rintro ⟨k, hk⟩
      exact ⟨(k, row), Table.mem_rows.mpr hk, rfl⟩
  have hcarries : ∀ deliveryId row, w.database.lookup (.webhook, deliveryId) = some row →
      ∃ e ∈ events, e.envelope.deliveryId = deliveryId ∧ Carries e row := by
    intro deliveryId row hrow
    obtain ⟨i, envelope, generated, hlanding, rfl⟩ := hfrom deliveryId row hrow
    obtain ⟨⟨record, hget, hcarried⟩, -⟩ := landing_eq_some_iff.mp hlanding
    obtain ⟨hvalid, hid⟩ := carried_eq_some.mp hcarried
    obtain ⟨e, he, rfl⟩ := (hlogs envelope).mp ⟨record, List.mem_of_getElem? hget, hvalid⟩
    exact ⟨e, he, hid, rfl, rfl, rfl⟩
  constructor
  · intro row hrow
    obtain ⟨k, hk⟩ := (hmem row).mp hrow
    have hkey : k = (.webhook, row.sourceRecordKey) := by
      rw [(hkept.inv.1 k row hk).1, RawEvent.key, hwebhooks row hrow]
    rw [hkey] at hk
    obtain ⟨e, he, -, hcarry⟩ := hcarries _ row hk
    exact ⟨e, he, hcarry⟩
  · intro e he
    obtain ⟨record, hrecord, hvalid⟩ := (hlogs e.envelope).mpr ⟨e, he, rfl⟩
    obtain ⟨i, hget⟩ := List.mem_iff_getElem?.mp hrecord
    obtain ⟨hlt, -⟩ := List.getElem?_eq_some_iff.mp hget
    obtain ⟨c, hc, hic⟩ := hcaught i hlt
    obtain ⟨row, hrow⟩ := (hkept.committed c hc).2 i record hic hget e.envelope hvalid
    -- the row may be of another delivery of the same webhook
    obtain ⟨e', he', hid, hcarry⟩ := hcarries _ row hrow
    have hsame := hconsistent.delivery e he e' he' hid.symm
    refine ⟨row, (hmem row).mpr ⟨_, hrow⟩, ?_, ?_, ?_⟩
    · rw [hsame.eventName]
      exact hcarry.eventName
    · rw [hsame.repositoryId]
      exact hcarry.repositoryId
    · rw [hsame.payload]
      exact hcarry.payload

/-! ## What the monitors project -/

/-- The calls of a history, the earliest first. -/
def historyCalls (history : List Monitor.Entry) : List Call := history.reverse.map Entry.call

theorem execAll_historyCalls (history : List Monitor.Entry) :
    PrStorage.execAll (historyCalls history) .empty = replay history := by
  induction history with
  | nil => rfl
  | cons e before ih =>
      unfold historyCalls at ih ⊢
      unfold PrStorage.execAll at ih ⊢
      rw [List.reverse_cons, List.map_append, List.foldlM_append, ih]
      show (replay before >>= fun db => [e].map Entry.call |>.foldlM (fun db c => c.exec db) db) = _
      rw [replay]
      refine bind_congr fun db => ?_
      rw [List.map_singleton, List.foldlM_cons]
      simp

/-- The commands among the calls are the applications. -/
theorem mem_historyCalls {history : List Monitor.Entry} {c : Call} (hc : c.isCommand = true) :
    c ∈ historyCalls history
      ↔ ∃ i command, (i, command) ∈ applications history ∧ command.call = c := by
  unfold historyCalls
  rw [List.map_reverse, List.mem_reverse]
  induction history with
  | nil => simp [applications]
  | cons e before ih =>
      rw [List.map_cons, List.mem_cons, ih]
      cases e with
      | applied offset command =>
          simp only [applications, List.mem_cons, Prod.mk.injEq]
          constructor
          · rintro (rfl | ⟨i, other, hmem, hcall⟩)
            · exact ⟨offset, command, Or.inl ⟨rfl, rfl⟩, rfl⟩
            · exact ⟨i, other, Or.inr hmem, hcall⟩
          · rintro ⟨i, other, ⟨rfl, rfl⟩ | hmem, hcall⟩
            · exact Or.inl hcall.symm
            · exact Or.inr ⟨i, other, hmem, hcall⟩
      | sweep staleCutoff createdAt =>
          simp only [applications]
          constructor
          · rintro (rfl | hmem)
            · cases hc
            · exact hmem
          · exact Or.inr

theorem commandOf_event {e : Event parsers} {record : Record}
    (hvalid : validateEnvelope parsers.toParsers record.value = .ok e.envelope) :
    commandOf parsers record = some e.command := by
  unfold commandOf
  simp only [hvalid, e.accepted]

/-- The command of an entry is that of an event. -/
theorem event_of_commandOf {log : List Record} (hlogs : Logs events log) {i : Nat}
    {command : ProjectionCommand} (h : (log[i]?).bind (commandOf parsers) = some command) :
    ∃ e ∈ events, e.command = command := by
  obtain ⟨record, hget, hcommand⟩ := Option.bind_eq_some_iff.mp h
  have hvalid : ∃ envelope, validateEnvelope parsers.toParsers record.value = .ok envelope := by
    unfold commandOf at hcommand
    cases hvalidate : validateEnvelope parsers.toParsers record.value with
    | ok envelope => exact ⟨envelope, rfl⟩
    | error failure =>
        rw [hvalidate] at hcommand
        cases hcommand
  obtain ⟨envelope, hvalid⟩ := hvalid
  obtain ⟨e, he, rfl⟩ := (hlogs envelope).mp ⟨record, List.mem_of_getElem? hget, hvalid⟩
  rw [commandOf_event hvalid] at hcommand
  exact ⟨e, he, Option.some.inj hcommand⟩

/-- The serving tables are those of a run over the commands of the log. -/
theorem projected_of_guarantee {w : World Projection} (hlogs : Logs events w.broker.log)
    (hkept : (Monitor.guarantee parsers p).Kept w) (hcaught : CaughtUp w) :
    Projected events (historyCalls w.database.history) := by
  have hrefines : Refines parsers w.broker.log w.database := hkept.inv
  intro c hc
  rw [mem_historyCalls hc]
  constructor
  · rintro ⟨i, command, happlied, rfl⟩
    obtain ⟨e, he, rfl⟩ := event_of_commandOf hlogs (hrefines.logged i command happlied)
    exact ⟨e, he, rfl⟩
  · rintro ⟨e, he, rfl⟩
    obtain ⟨record, hrecord, hvalid⟩ := (hlogs e.envelope).mpr ⟨e, he, rfl⟩
    obtain ⟨i, hget⟩ := List.mem_iff_getElem?.mp hrecord
    obtain ⟨hlt, -⟩ := List.getElem?_eq_some_iff.mp hget
    obtain ⟨offset, hoffset, hi⟩ := hcaught i hlt
    have hhandled : Monitor.Handled parsers p w i record :=
      (hkept.committed offset hoffset).2 i record hi hget
    unfold Monitor.Handled at hhandled
    rw [commandOf_event hvalid] at hhandled
    exact ⟨i, e.command, hhandled, rfl⟩

/-! ## Agreement -/

/-- **The topic determines both views.** However the instances of the two groups were scheduled,
crashed and restarted: when both groups have committed past every entry of a log of consistent
events, the serving tables and the marts agree on every pull request of the log, and no other has
a row in either. -/
theorem topic_agreement {server : Server} {staged : Staged} {rows : List RawEvent}
    (schedule : List (Topic.Entry parsers p)) (hconsistent : Consistent server events)
    (hreads : ∀ e ∈ events, ReadsAlike server e)
    (hlogs : Logs events (Topic.run schedule).writers.shared.broker.log)
    (hwriters : CaughtUp (Topic.run schedule).writers.shared)
    (hmonitors : CaughtUp (Topic.run schedule).monitors.shared)
    (hrows : rows.Perm ((Topic.run schedule).writers.shared.database.rows.map Prod.snd))
    (hwebhooks : ∀ row ∈ rows, row.source = .webhook)
    (hstaging : Dbt.staging server rows = .ok staged) (seed : Seed) :
    let db := (Topic.run schedule).monitors.shared.database.serving
    (∀ e ∈ events, ∃ fact, Agree db (Dbt.build server seed staged) e fact)
    ∧ (∀ fact ∈ (Dbt.build server seed staged).fctPullRequests,
        ∃ e ∈ events, fact.pullRequestKey = e.keyText)
    ∧ ∀ k, (∀ e ∈ events, e.key ≠ k) →
        db.openPullRequests.lookup k = none ∧ db.firstReviews.lookup k = none := by
  obtain ⟨⟨writers, hrun⟩, ⟨monitors, hrun'⟩, hlog⟩ := Topic.explained_run schedule
  obtain ⟨⟨hlineage, -⟩, -⟩ := lineage_sound.run writers emptyPool_lineage
    ((warehouseSystem parsers.toParsers p).admissible_true writers _)
  obtain ⟨⟨hkept, -⟩, -⟩ := monitor_sound.run monitors Monitor.emptyPool_ok
    ((monitorSystem parsers p).admissible_true monitors _)
  rw [← hrun] at hlineage
  rw [← hrun'] at hkept
  have hstaged := staged_of_landing hreads
    (landed_of_lineage hconsistent hlogs hlineage hwriters hrows hwebhooks) hstaging
  have hprojected := projected_of_guarantee (by rw [hlog]; exact hlogs) hkept hmonitors
  have hexec := (execAll_historyCalls (Topic.run schedule).monitors.shared.database.history).trans
    (show Refines parsers _ _ from hkept.inv).ran
  refine ⟨fun e he => ?_, fun fact hfact => event_of_fact hconsistent hstaged seed hfact,
    fun k hk => (projection_shows hconsistent hprojected hexec k).nothing hk⟩
  obtain ⟨fact, hfact, hkey, hunique, hmarts⟩ := marts_show hconsistent hstaged seed he
  obtain ⟨hopen, hfirst⟩ := (projection_shows hconsistent hprojected hexec e.key).agree hmarts
  exact ⟨fact, hfact, hkey, hunique, hopen, hfirst⟩

end

/-! ## Two groups that crash and are restarted -/

section Redelivered

def samplePartition : Partition := ⟨"github-events", 0⟩

def sampleRecord (byte : UInt8) : Record := ⟨none, some [byte]⟩

/-- A writer polls, inserts its row under that id and commits. -/
def writes (eventId : Nat) : List (Topic.Entry sampleParsers samplePartition) :=
  List.replicate 3 (.writer (.act 0
    (succeedsAt rawDatabase ⟨july24 13, 0⟩ fun _ => ⟨⟨eventId, july24 13⟩, .none⟩)) rfl)

/-- So many operations of a monitor succeed. -/
def projects (operations : Nat) : List (Topic.Entry sampleParsers samplePartition) :=
  List.replicate operations (.monitor (.act 0
    (succeedsAt projectionDatabase ⟨july24 13, 0⟩ fun _ => Fault.none)) rfl)

def startWriter : Topic.Entry sampleParsers samplePartition :=
  .writer (.start ⟨0, ⟨"github-events", 1, "dlq", 1, false, 9⟩⟩) rfl

def startMonitor : Topic.Entry sampleParsers samplePartition :=
  .monitor (.start ⟨0, ⟨"github-events", 1, 3600000000, 3600000000, "dlq", 1, false, 9⟩⟩) rfl

/-- The review comes first and the merge twice. A writer is lost between the insert and the commit
of the second record, and a monitor between the application and the commit of the third; the next
ones get these records again. -/
def redeliveredSchedule : List (Topic.Entry sampleParsers samplePartition) :=
  [ .append (sampleRecord 2), .append (sampleRecord 1), startWriter, startMonitor ]
  ++ writes 1 ++ projects 6 ++ [.append (sampleRecord 3)]
  ++ (writes 2).take 2 ++ [.writer (.stop 0) rfl, startWriter]
  ++ projects 4 ++ (projects 4).take 3 ++ [.monitor (.stop 0) rfl, .append (sampleRecord 3)]
  ++ writes 3 ++ [startMonitor] ++ projects 6 ++ writes 4 ++ projects 4 ++ writes 5

/-- The monitors applied the third record twice. -/
example : (applications (Topic.run redeliveredSchedule).monitors.shared.database.history).map
    Prod.fst = [3, 2, 2, 1, 0] := by
  decide +kernel

theorem sampleLog_logs :
    Logs sampleLog (Topic.run redeliveredSchedule).writers.shared.broker.log := by
  have hlog : (Topic.run redeliveredSchedule).writers.shared.broker.log
      = [sampleRecord 2, sampleRecord 1, sampleRecord 3, sampleRecord 3] := by decide +kernel
  have hread : validateEnvelope sampleParsers.toParsers (sampleRecord 1).value
        = .ok opened.envelope
      ∧ validateEnvelope sampleParsers.toParsers (sampleRecord 2).value = .ok reviewed.envelope
      ∧ validateEnvelope sampleParsers.toParsers (sampleRecord 3).value = .ok merged.envelope :=
    ⟨rfl, rfl, rfl⟩
  intro envelope
  rw [hlog]
  simp only [sampleLog, List.mem_cons, List.not_mem_nil, or_false, exists_eq_or_imp,
    exists_eq_left, hread, Except.ok.injEq, or_self]
  exact or_left_comm

theorem topic_agreement_redelivered :
    ∃ staged, Dbt.staging sampleServer
        ((Topic.run redeliveredSchedule).writers.shared.database.rows.map Prod.snd) = .ok staged
      ∧ ∀ e ∈ sampleLog,
        ∃ fact, Agree (Topic.run redeliveredSchedule).monitors.shared.database.serving
          (Dbt.build sampleServer ⟨[], List.nodup_nil⟩ staged) e fact := by
  have hbuilt : ∃ staged, Dbt.staging sampleServer
      ((Topic.run redeliveredSchedule).writers.shared.database.rows.map Prod.snd)
        = .ok staged := by
    decide +kernel
  obtain ⟨staged, hstaging⟩ := hbuilt
  have hwriters : CaughtUp (Topic.run redeliveredSchedule).writers.shared := by
    unfold CaughtUp
    decide +kernel
  have hmonitors : CaughtUp (Topic.run redeliveredSchedule).monitors.shared := by
    unfold CaughtUp
    decide +kernel
  obtain ⟨hagree, -, -⟩ := topic_agreement redeliveredSchedule sampleLog_consistent
    sampleLog_readsAlike sampleLog_logs hwriters hmonitors (List.Perm.refl _)
    (by decide +kernel) hstaging ⟨[], List.nodup_nil⟩
  exact ⟨staged, hstaging, hagree⟩

end Redelivered

end Agreement
