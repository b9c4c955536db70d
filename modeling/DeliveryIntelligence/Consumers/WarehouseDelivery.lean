import DeliveryIntelligence.Consumers.OffsetProtocol
import DeliveryIntelligence.Consumers.Warehouse

set_option autoImplicit false

/-!
# At-least-once delivery with idempotent effects

The guarantee of the warehouse writer: an entry of the partition is handled when its envelope
has a webhook row or a dead letter carries it. Over every schedule of writers, crashes and
disturbances, everything below an offset the group has committed is handled, a delivery has at
most one row, and no row changes.
-/

namespace Warehouse

open Consumers Program RawEvents

variable {parsers : Parsers} {p : Partition}

/-- The entry has its durable effect. -/
def Handled (parsers : Parsers) (p : Partition) (w : World RawTable) (i : Nat)
    (record : Record) : Prop :=
  (∃ envelope row, validateEnvelope parsers record.value = .ok envelope
    ∧ w.database.lookup (.webhook, envelope.deliveryId) = some row)
  ∨ ∃ message ∈ w.broker.dlq, message.value.Carries (p.message i record)

def guarantee (parsers : Parsers) (p : Partition) : Guarantee RawTable where
  handled := Handled parsers p
  inv w := WellKeyed w.database
  dbExt := Extends

theorem guarantee_lawful : (guarantee parsers p).Lawful where
  refl := Extends.refl
  trans _ _ _ := Extends.trans
  handled_mono w w' i record hgrows h := by
    -- Rows and dead letters both only grow.
    rcases h with ⟨envelope, row, hvalid, hrow⟩ | ⟨message, hmem, hcarries⟩
    · exact Or.inl ⟨envelope, row, hvalid, hgrows.database _ _ hrow⟩
    · exact Or.inr ⟨message, hgrows.dlq message hmem, hcarries⟩
  inv_broker _ _ _ _ h := h

/-- Whatever goes wrong, an insert keeps every row and the keys; when it answers, the event
has a row. -/
theorem insertAct_spec (event : WebhookRawEvent) (choice : StatementChoice) {events : RawTable}
    (h : WellKeyed events) :
    WellKeyed (insertAct event choice events).2 ∧ Extends events (insertAct event choice events).2
    ∧ ∀ returned, (insertAct event choice events).1 = .ok returned →
        ∃ row, (insertAct event choice events).2.lookup (.webhook, event.envelope.deliveryId)
          = some row := by
  unfold insertAct
  split
  · exact ⟨h, Extends.refl _, fun _ hret => nomatch hret⟩
  · exact ⟨h, Extends.refl _, fun _ hret => nomatch hret⟩
  · rename_i events' returned hins _
    exact ⟨insertRow_wellKeyed hins h fun _ => rfl, (insertRow_ok hins).1,
      fun _ hret => nomatch hret⟩
  · rename_i events' returned hins _
    exact ⟨insertRow_wellKeyed hins h fun _ => rfl, (insertRow_ok hins).1,
      fun _ _ => (insertRow_ok hins).2.1⟩

theorem backfillInsert_spec (row : RawEvent) {events : RawTable} (h : WellKeyed events) :
    WellKeyed (backfillInsert row events) ∧ Extends events (backfillInsert row events) := by
  unfold backfillInsert
  split
  · rename_i events' returned hsource hins
    refine ⟨insertRow_wellKeyed hins h fun hweb => ?_, (insertRow_ok hins).1⟩
    rw [hsource] at hweb
    cases hweb
  · exact ⟨h, Extends.refl _⟩

section

variable {post : Unit → World RawTable → Instance → Prop}

/-- The writer keeps the guarantee. -/
abbrev WriterKeeps (parsers : Parsers) (p : Partition) {β : Type}
    (post : β → World RawTable → Instance → Prop) (prog : Worker StorageReply β)
    (w : World RawTable) (inst : Instance) : Prop :=
  Keeps p rawDatabase (fun writer : WarehouseWriter => runForever parsers writer writer.fuel)
    (guarantee parsers p) post prog w inst

theorem keeps_insert (event : WebhookRawEvent) {w : World RawTable} {inst : Instance} :
    WriterKeeps parsers p
      (fun _ w inst' => (∃ row, w.database.lookup (.webhook, event.envelope.deliveryId) = some row)
        ∧ inst' = inst)
      (insert event) w inst := by
  intro w1 hgrows1 hkept1 _ choice
  obtain ⟨hkeyed, hext, hrow⟩ := insertAct_spec event choice hkept1.inv
  obtain ⟨hkept2, hgrows⟩ := guarantee_lawful.database_step hext hkeyed hkept1
  refine ⟨hkept2, hgrows, ?_⟩
  show WriterKeeps parsers p _ (Prog.ofExcept (insertAct event choice w1.database).1 >>= _) _ inst
  refine keeps_ofExcept fun returned hret => ?_
  obtain ⟨row, hlookup⟩ := hrow returned hret
  exact fun w2 hgrows2 _ => ⟨⟨row, hgrows2.database _ _ hlookup⟩, rfl⟩

theorem keeps_runHook (writer : WarehouseWriter) {w : World RawTable} {inst : Instance} :
    WriterKeeps parsers p (fun _ _ inst' => inst' = inst) (runHook writer) w inst := by
  unfold runHook
  split
  · refine keeps_afterDatabaseCommit guarantee_lawful fun result w1 _ _ => ?_
    exact Ok.ofExcept fun _ _ _ _ _ => rfl
  · exact fun _ _ _ => rfl

/-- The message is handled with everything before it, and the position is one past it. -/
def Processed (parsers : Parsers) (p : Partition) (i : Nat) (w : World RawTable)
    (inst : Instance) : Prop :=
  Settled (Handled parsers p) w (i + 1) ∧ inst.position = i + 1

variable {i : Nat} {record : Record}

/-- A handled message may be committed. -/
theorem keeps_commitHandled {w : World RawTable} {inst : Instance}
    (hsettled : Settled (Handled parsers p) w i) (hget : w.broker.log[i]? = some record)
    (hhandled : Handled parsers p w i record) (hpos : inst.position = i + 1) :
    WriterKeeps parsers p (fun _ => Processed parsers p i)
      (commitSourceOffset (p.message i record)) w inst := by
  have hnext : Settled (Handled parsers p) w (i + 1) :=
    guarantee_lawful.settled_succ hsettled hget hhandled
  refine (keeps_commit guarantee_lawful hnext).imp fun _ w' inst' h => ⟨h.1, ?_⟩
  rw [h.2]
  exact hpos

theorem keeps_deadLetter (writer : WarehouseWriter) {w : World RawTable} {inst : Instance}
    (hsettled : Settled (Handled parsers p) w i) (hget : w.broker.log[i]? = some record)
    (hpos : inst.position = i + 1) :
    WriterKeeps parsers p (fun _ => Processed parsers p i)
      (deadLetter parsers writer (p.message i record)) w inst := by
  have hg : (guarantee parsers p).Lawful := guarantee_lawful
  refine keeps_clock hg fun now w1 hgrows1 hkept1 => keeps_ofExcept fun letter hletter => ?_
  -- The dead letter is acknowledged before the offset is committed.
  refine keeps_bind hg hkept1 (keeps_publish hg _ _ _ letter hpos)
    fun _ w2 inst2 hgrows2 hkept2 hpublished => ?_
  obtain ⟨⟨message, hmem, hvalue⟩, hpos2⟩ := hpublished
  have hgrows := hg.grows_trans hgrows1 hgrows2
  have hcarries : message.value.Carries (p.message i record) := by
    rw [hvalue]
    exact fromMessage_carries hletter
  refine keeps_bind hg hkept2 (keeps_commitHandled (hg.settled_mono hgrows hsettled)
    (hgrows.getElem? hget) (Or.inr ⟨message, hmem, hcarries⟩) hpos2)
    fun _ w3 inst3 _ _ hprocessed => ?_
  exact fun w4 hgrows4 _ => ⟨hg.settled_mono hgrows4 hprocessed.1, hprocessed.2⟩

theorem keeps_land (writer : WarehouseWriter) (partition offset : Int)
    {envelope : GitHubEventEnvelope} {w : World RawTable} {inst : Instance}
    (hkept : (guarantee parsers p).Kept w)
    (hsettled : Settled (Handled parsers p) w i) (hget : w.broker.log[i]? = some record)
    (hvalid : validateEnvelope parsers record.value = .ok envelope)
    (hpos : inst.position = i + 1) :
    WriterKeeps parsers p (fun _ => Processed parsers p i)
      (land parsers writer (p.message i record) partition offset envelope) w inst := by
  have hg : (guarantee parsers p).Lawful := guarantee_lawful
  refine keeps_ofExcept fun event hevent => ?_
  have hsame : event.envelope = envelope := by
    unfold WebhookRawEvent.postInit at hevent
    split at hevent
    · split at hevent
      · cases hevent
        rfl
      · cases hevent
    · cases hevent
  -- The row is there before the offset is committed.
  refine keeps_bind hg hkept (keeps_insert event) fun outcome w1 inst1 hgrows1 hkept1 h1 => ?_
  obtain ⟨⟨row, hrow⟩, rfl⟩ := h1
  refine keeps_bind hg hkept1 (keeps_runHook writer) fun _ w2 inst2 hgrows2 hkept2 h2 => ?_
  subst h2
  have hgrows := hg.grows_trans hgrows1 hgrows2
  have hhandled : Handled parsers p w2 i record :=
    Or.inl ⟨envelope, row, hvalid, hsame ▸ hgrows2.database _ _ hrow⟩
  refine keeps_bind hg hkept2 (keeps_commitHandled (hg.settled_mono hgrows hsettled)
    (hgrows.getElem? hget) hhandled hpos) fun _ w3 inst3 _ _ hprocessed => ?_
  exact fun w4 hgrows4 _ => ⟨hg.settled_mono hgrows4 hprocessed.1, hprocessed.2⟩

/-- Processing the message at a settled position settles the next one. -/
theorem keeps_process (writer : WarehouseWriter) {w : World RawTable} {inst : Instance}
    (hkept : (guarantee parsers p).Kept w)
    (hsettled : Settled (Handled parsers p) w i) (hget : w.broker.log[i]? = some record)
    (hpos : inst.position = i + 1) :
    WriterKeeps parsers p (fun _ => Processed parsers p i)
      (process parsers writer (p.message i record)) w inst := by
  rw [process_message]
  cases hvalid : validateEnvelope parsers record.value with
  | ok envelope => exact keeps_land writer _ _ hkept hsettled hget hvalid hpos
  | error failure =>
      cases failure with
      | typeError => exact keeps_deadLetter writer hsettled hget hpos
      | validation => exact keeps_deadLetter writer hsettled hget hpos
      | decode => trivial
      | other => trivial

/-- A writer that starts at a settled position keeps the guarantee, however long it runs. -/
theorem keeps_runForever (writer : WarehouseWriter) (fuel : Nat) {w : World RawTable}
    {inst : Instance} (hsettled : Settled (Handled parsers p) w inst.position) :
    WriterKeeps parsers p (fun _ _ _ => True) (runForever parsers writer fuel) w inst := by
  have hg : (guarantee parsers p).Lawful := guarantee_lawful
  induction fuel generalizing w inst with
  | zero => trivial
  | succ fuel ih =>
      -- The polls: no message, an error event, an exception, the entry at the position.
      refine keeps_poll hg (fun w1 hgrows1 _ => ?_) (fun error w1 _ _ => ?_)
        (fun e w1 _ _ => ?_) (fun record w1 hgrows1 hkept1 hget => ?_)
      · exact ih (hg.settled_mono hgrows1 hsettled)
      · trivial
      · trivial
      · show WriterKeeps parsers p _ (process parsers writer (p.message inst.position record)
          >>= fun _ => Prog.ofExcept (messageLineage (p.message inst.position record))
          >>= fun _ => runForever parsers writer fuel) w1 _
        refine keeps_bind hg hkept1
          (keeps_process writer hkept1 (hg.settled_mono hgrows1 hsettled) hget rfl)
          fun outcome w2 inst2 hgrows2 _ hprocessed => ?_
        obtain ⟨hnext, hpos⟩ := hprocessed
        show WriterKeeps parsers p _ (runForever parsers writer fuel) w2 inst2
        exact ih (hpos ▸ hnext)

end

/-- Writers started at committed offsets and disturbances keep the guarantee. -/
theorem warehouse_sound :
    (warehouseSystem parsers p).Sound (guarantee parsers p).contract where
  refl := guarantee_lawful.grows_refl
  trans _ _ _ := guarantee_lawful.grows_trans
  start a w hkept := by
    refine keeps_runForever a.argument a.argument.fuel ?_
    exact guarantee_lawful.settled_start hkept a.committed
  disturb d w hkept := by
    refine kept_disturb guarantee_lawful (fun row w hkept => ?_) d hkept
    obtain ⟨hkeyed, hext⟩ := backfillInsert_spec row hkept.inv
    exact ⟨hext, hkeyed⟩

theorem emptyPool_ok : (emptyPool parsers p).Ok (guarantee parsers p).contract :=
  ⟨⟨wellKeyed_empty, fun _ hc => nomatch hc⟩, fun _ ht => nomatch ht⟩

/-- Two webhook rows of one delivery are the same row. -/
theorem webhook_row_unique {events : RawTable} (h : WellKeyed events) {k k' : Source × String}
    {row row' : RawEvent} (hrow : events.lookup k = some row) (hrow' : events.lookup k' = some row')
    (hs : row.source = .webhook) (hs' : row'.source = .webhook)
    (hdelivery : row.deliveryId = row'.deliveryId) : k = k' ∧ row = row' := by
  obtain ⟨rfl, hid⟩ := h k row hrow
  obtain ⟨rfl, hid'⟩ := h k' row' hrow'
  have hkey : row.key = row'.key := by
    have hsame : row.sourceRecordKey = row'.sourceRecordKey := by
      rw [hid hs, hid' hs'] at hdelivery
      exact Option.some.inj hdelivery
    rw [RawEvent.key, RawEvent.key, hs, hs', hsame]
  refine ⟨hkey, ?_⟩
  rw [hkey, hrow'] at hrow
  exact (Option.some.inj hrow).symm

/-- **At-least-once with idempotent effects.** After every schedule of writers, crashes and
disturbances, each entry below an offset the group ever committed has its webhook row or an
acknowledged dead letter, a delivery has at most one webhook row, and whatever happens
afterwards every row stays as it is. -/
theorem at_least_once (parsers : Parsers) (p : Partition)
    (schedule later : List (warehouseSystem parsers p).Event) :
    let pool := (warehouseSystem parsers p).run schedule (emptyPool parsers p)
    (∀ c ∈ pool.shared.broker.committed, ∀ i < c, ∃ record,
      pool.shared.broker.log[i]? = some record ∧ Handled parsers p pool.shared i record)
    ∧ (∀ k k' row row', pool.shared.database.lookup k = some row →
        pool.shared.database.lookup k' = some row' → row.source = .webhook →
        row'.source = .webhook → row.deliveryId = row'.deliveryId → k = k' ∧ row = row')
    ∧ Extends pool.shared.database
        ((warehouseSystem parsers p).run later pool).shared.database := by
  intro pool
  obtain ⟨hok, -⟩ := warehouse_sound.run schedule emptyPool_ok
    ((warehouseSystem parsers p).admissible_true schedule _)
  obtain ⟨-, hgrows⟩ := warehouse_sound.run later hok
    ((warehouseSystem parsers p).admissible_true later _)
  obtain ⟨⟨hkeyed, hcommitted⟩, -⟩ := hok
  refine ⟨fun c hc i hi => ?_, fun k k' row row' hrow hrow' hs hs' hdelivery => ?_,
    hgrows.database⟩
  · obtain ⟨hlen, hhandled⟩ := hcommitted c hc
    have hlt : i < pool.shared.broker.log.length := lt_of_lt_of_le hi hlen
    have hget : pool.shared.broker.log[i]? = some pool.shared.broker.log[i] :=
      List.getElem?_eq_getElem hlt
    exact ⟨_, hget, hhandled i _ hi hget⟩
  · exact webhook_row_unique hkeyed hrow hrow' hs hs' hdelivery

end Warehouse
