import DeliveryIntelligence.Consumers.WarehouseDelivery
import Mathlib.Data.List.Basic

set_option autoImplicit false

/-!
# The landed rows are a function of the log

`landing` says what the partition alone determines: for a delivery, the first entry of the log
that carries it. Over every schedule of writers, crashes and replays the webhook row of a
delivery is the row of that entry (`landing_determined`), so that nothing but the two generated
columns depends on who landed it and when.
-/

namespace Warehouse

open Consumers Program RawEvents

variable {parsers : Parsers} {p : Partition}

/-! ## What the log determines -/

/-- The envelope of an entry, if it is valid and of this delivery. -/
def carried (parsers : Parsers) (deliveryId : String) (record : Record) :
    Option GitHubEventEnvelope :=
  match validateEnvelope parsers record.value with
  | .ok envelope => if envelope.deliveryId = deliveryId then some envelope else none
  | .error _ => none

/-- The first entry that carries a delivery, with its offset. -/
def landing (parsers : Parsers) (log : List Record) (deliveryId : String) :
    Option (Nat × GitHubEventEnvelope) :=
  log.zipIdx.findSome? fun entry =>
    (carried parsers deliveryId entry.1).map fun envelope => (entry.2, envelope)

/-- What a writer inserts for the entry at an offset. -/
def entryEvent (parsers : Parsers) (p : Partition) (offset : Nat)
    (envelope : GitHubEventEnvelope) : WebhookRawEvent where
  envelope := envelope
  kafkaPartition := p.partition
  kafkaOffset := offset
  occurredAt := extractOccurredAt parsers envelope
  lineage_nonneg := ⟨Int.natCast_nonneg _, Int.natCast_nonneg _⟩

theorem carried_eq_some {deliveryId : String} {record : Record} {envelope : GitHubEventEnvelope} :
    carried parsers deliveryId record = some envelope
      ↔ validateEnvelope parsers record.value = .ok envelope
        ∧ envelope.deliveryId = deliveryId := by
  unfold carried
  cases validateEnvelope parsers record.value with
  | error failure => simp
  | ok decoded =>
      dsimp only
      by_cases hid : decoded.deliveryId = deliveryId
      · rw [if_pos hid, Option.some.injEq, Except.ok.injEq]
        constructor
        · rintro rfl
          exact ⟨rfl, hid⟩
        · exact fun h => h.1
      · rw [if_neg hid, Except.ok.injEq]
        refine iff_of_false (fun h => nomatch h) ?_
        rintro ⟨rfl, h⟩
        exact hid h

/-- The first entry stays the first one when the log grows. -/
theorem landing_append {log log' : List Record} (hlog : log <+: log') {deliveryId : String}
    {found : Nat × GitHubEventEnvelope} (h : landing parsers log deliveryId = some found) :
    landing parsers log' deliveryId = some found := by
  obtain ⟨tail, rfl⟩ := hlog
  unfold landing at h ⊢
  rw [List.zipIdx_append, List.findSome?_append, h, Option.some_or]

/-- The landing carries the delivery, and no entry before it does. -/
theorem landing_eq_some_iff {log : List Record} {deliveryId : String} {i : Nat}
    {envelope : GitHubEventEnvelope} :
    landing parsers log deliveryId = some (i, envelope)
      ↔ (∃ record, log[i]? = some record ∧ carried parsers deliveryId record = some envelope)
        ∧ ∀ j other, j < i → log[j]? = some other → carried parsers deliveryId other = none := by
  unfold landing
  rw [List.findSome?_eq_some_iff]
  constructor
  · rintro ⟨before, entry, after, hsplit, hentry, hbefore⟩
    have hat (j : Nat) : log.zipIdx[j]? = (before ++ entry :: after)[j]? := by rw [hsplit]
    obtain ⟨found, hfound, hsame⟩ := Option.map_eq_some_iff.mp hentry
    have hlast := hat before.length
    rw [List.getElem?_append_right (le_refl _), Nat.sub_self, List.getElem?_cons_zero,
      List.getElem?_zipIdx, Nat.zero_add] at hlast
    obtain ⟨record, hrecord, hpair⟩ := Option.map_eq_some_iff.mp hlast
    subst hpair
    cases hsame
    refine ⟨⟨record, hrecord, hfound⟩, fun j other hj hother => ?_⟩
    have hearlier := hat j
    rw [List.getElem?_append_left hj, List.getElem?_zipIdx, hother] at hearlier
    have hmem := List.mem_of_getElem? hearlier.symm
    exact Option.map_eq_none_iff.mp (hbefore _ hmem)
  · rintro ⟨⟨record, hget, hcarried⟩, hfirst⟩
    obtain ⟨hi, rfl⟩ := List.getElem?_eq_some_iff.mp hget
    refine ⟨log.zipIdx.take i, (log[i], i), log.zipIdx.drop (i + 1), ?_, ?_, fun entry hentry => ?_⟩
    · have hlen : i < log.zipIdx.length := by rwa [List.length_zipIdx]
      have hat : log.zipIdx[i] = (log[i], i) := by simp
      rw [← hat, ← List.drop_eq_getElem_cons hlen, List.take_append_drop]
    · rw [hcarried]
      rfl
    · obtain ⟨j, hj, hsame⟩ := List.mem_take_iff_getElem.mp hentry
      have hlen : j < log.length := by
        rw [List.length_zipIdx] at hj
        omega
      have hat : entry = (log[j], j) := by simpa using hsame.symm
      subst hat
      rw [hfirst j log[j] (by omega) (List.getElem?_eq_getElem hlen)]
      rfl

/-- No entry of a delivery comes before its landing. -/
theorem landing_le {log : List Record} {deliveryId : String} {first i : Nat}
    {firstEnvelope envelope : GitHubEventEnvelope} {record : Record}
    (hlanding : landing parsers log deliveryId = some (first, firstEnvelope))
    (hget : log[i]? = some record) (hcarried : carried parsers deliveryId record = some envelope) :
    first ≤ i := by
  by_contra hlt
  have hnone := (landing_eq_some_iff.mp hlanding).2 i record (by omega) hget
  rw [hcarried] at hnone
  cases hnone

/-! ## The guarantee -/

/-- A valid entry has a row under its delivery. -/
def Keyed (parsers : Parsers) (w : World RawTable) (_ : Nat) (record : Record) : Prop :=
  ∀ envelope, validateEnvelope parsers record.value = .ok envelope →
    ∃ row, w.database.lookup (.webhook, envelope.deliveryId) = some row

/-- Every webhook row is the one of the landing of its delivery. -/
def FromLanding (parsers : Parsers) (p : Partition) (log : List Record) (events : RawTable) :
    Prop :=
  ∀ deliveryId row, events.lookup (.webhook, deliveryId) = some row →
    ∃ i envelope generated, landing parsers log deliveryId = some (i, envelope)
      ∧ row = (entryEvent parsers p i envelope).row generated

def lineage (parsers : Parsers) (p : Partition) : Guarantee RawTable where
  handled := Keyed parsers
  inv w := WellKeyed w.database ∧ FromLanding parsers p w.broker.log w.database
  dbExt := Extends

theorem lineage_lawful : (lineage parsers p).Lawful where
  refl := Extends.refl
  trans _ _ _ := Extends.trans
  handled_mono w w' i record hgrows h := by
    intro envelope hvalid
    obtain ⟨row, hrow⟩ := h envelope hvalid
    exact ⟨row, hgrows.database _ _ hrow⟩
  inv_broker w broker hlog _ h := by
    refine ⟨h.1, fun deliveryId row hrow => ?_⟩
    obtain ⟨i, envelope, generated, hlanding, hsame⟩ := h.2 deliveryId row hrow
    exact ⟨i, envelope, generated, landing_append hlog hlanding, hsame⟩

/-- Inserting the event of an entry whose predecessors are keyed stores the row of a landing, or
nothing. -/
theorem fromLanding_insertAct {w : World RawTable} {i : Nat} {record : Record}
    {envelope : GitHubEventEnvelope} (hget : w.broker.log[i]? = some record)
    (hvalid : validateEnvelope parsers record.value = .ok envelope)
    (hsettled : Settled (Keyed parsers) w i)
    (h : FromLanding parsers p w.broker.log w.database) (choice : StatementChoice) :
    FromLanding parsers p w.broker.log
      (insertAct (entryEvent parsers p i envelope) choice w.database).2 := by
  have hinserted : ∀ events' returned,
      insertRow ((entryEvent parsers p i envelope).row choice.generated) w.database
        = .ok (events', returned) → FromLanding parsers p w.broker.log events' := by
    intro events' returned hins deliveryId row hrow
    rcases insertRow_cases hins with ⟨-, rfl, -⟩ | ⟨-, rfl, hmissing⟩
    · exact h deliveryId row hrow
    · have hkey : ((entryEvent parsers p i envelope).row choice.generated).key
          = (.webhook, envelope.deliveryId) := rfl
      rw [hkey] at hmissing
      by_cases hid : deliveryId = envelope.deliveryId
      · subst hid
        rw [hkey, AList.lookup_insert] at hrow
        cases hrow
        refine ⟨i, envelope, choice.generated, landing_eq_some_iff.mpr
          ⟨⟨record, hget, carried_eq_some.mpr ⟨hvalid, rfl⟩⟩, fun j other hj hother => ?_⟩, rfl⟩
        -- an earlier entry of the delivery would have its row already
        by_contra hcarried
        obtain ⟨earlier, hearlier⟩ := Option.ne_none_iff_exists'.mp hcarried
        obtain ⟨hvalid', hid'⟩ := carried_eq_some.mp hearlier
        obtain ⟨old, hold⟩ := hsettled.2 j other hj hother earlier hvalid'
        rw [hid', hmissing] at hold
        cases hold
      · have hne : ((Source.webhook, deliveryId) : Source × String)
            ≠ ((entryEvent parsers p i envelope).row choice.generated).key := by
          rw [hkey]
          exact fun heq => hid (congrArg Prod.snd heq)
        rw [AList.lookup_insert_ne hne] at hrow
        exact h deliveryId row hrow
  unfold insertAct
  split
  · exact h
  · exact h
  · rename_i events' returned hins _
    exact hinserted events' returned hins
  · rename_i events' returned hins _
    exact hinserted events' returned hins

/-- A backfill touches no webhook row. -/
theorem fromLanding_backfillInsert {log : List Record} {events : RawTable}
    (h : FromLanding parsers p log events) (row : RawEvent) :
    FromLanding parsers p log (backfillInsert row events) := by
  unfold backfillInsert
  split
  · rename_i events' returned hsource hins
    intro deliveryId stored hstored
    rcases (insertRow_ok hins).2.2.1 _ stored hstored with hold | ⟨hkey, -⟩
    · exact h deliveryId stored hold
    · have hsame : Source.webhook = row.source := congrArg Prod.fst hkey
      rw [hsource] at hsame
      cases hsame
  · exact h

/-! ## Writers keep it -/

section

/-- The writer keeps the lineage. -/
abbrev LineageKeeps (parsers : Parsers) (p : Partition) {β : Type}
    (post : β → World RawTable → Instance → Prop) (prog : Worker StorageReply β)
    (w : World RawTable) (inst : Instance) : Prop :=
  Keeps p rawDatabase (fun writer : WarehouseWriter => runForever parsers writer writer.fuel)
    (lineage parsers p) post prog w inst

/-- Everything up to the entry is keyed, and the position is one past it. -/
def KeyedUpTo (parsers : Parsers) (i : Nat) (w : World RawTable) (inst : Instance) : Prop :=
  Settled (Keyed parsers) w (i + 1) ∧ inst.position = i + 1

variable {i : Nat} {record : Record} {w : World RawTable} {inst : Instance}

theorem lineage_commit (hnext : Settled (Keyed parsers) w (i + 1)) (hpos : inst.position = i + 1) :
    LineageKeeps parsers p (fun _ => KeyedUpTo parsers i)
      (commitSourceOffset (p.message i record)) w inst := by
  refine (keeps_commit lineage_lawful hnext).imp fun _ w' inst' h => ⟨h.1, ?_⟩
  rw [h.2]
  exact hpos

theorem lineage_deadLetter (writer : WarehouseWriter)
    (hnext : Settled (Keyed parsers) w (i + 1)) (hpos : inst.position = i + 1) :
    LineageKeeps parsers p (fun _ => KeyedUpTo parsers i)
      (deadLetter parsers writer (p.message i record)) w inst := by
  have hg : (lineage parsers p).Lawful := lineage_lawful
  refine keeps_clock hg fun now w1 hgrows1 hkept1 => keeps_ofExcept fun letter hletter => ?_
  refine keeps_bind hg hkept1 (keeps_publish hg _ _ _ letter hpos)
    fun _ w2 inst2 hgrows2 hkept2 hpublished => ?_
  have hgrows := hg.grows_trans hgrows1 hgrows2
  refine keeps_bind hg hkept2 (lineage_commit (hg.settled_mono hgrows hnext) hpublished.2)
    fun _ w3 inst3 _ _ hkeyed => ?_
  exact fun w4 hgrows4 _ => ⟨hg.settled_mono hgrows4 hkeyed.1, hkeyed.2⟩

theorem lineage_insert {envelope : GitHubEventEnvelope} (hget : w.broker.log[i]? = some record)
    (hvalid : validateEnvelope parsers record.value = .ok envelope)
    (hsettled : Settled (Keyed parsers) w i) :
    LineageKeeps parsers p
      (fun _ w inst' => (∃ row, w.database.lookup (.webhook, envelope.deliveryId) = some row)
        ∧ inst' = inst)
      (insert (entryEvent parsers p i envelope)) w inst := by
  have hg : (lineage parsers p).Lawful := lineage_lawful
  intro w1 hgrows1 hkept1 _ choice
  have hinv : WellKeyed w1.database ∧ FromLanding parsers p w1.broker.log w1.database := hkept1.inv
  obtain ⟨hkeyed, hext, hrow⟩ :=
    insertAct_spec (entryEvent parsers p i envelope) choice hinv.1
  have hfrom := fromLanding_insertAct (hgrows1.getElem? hget) hvalid
    (hg.settled_mono hgrows1 hsettled) hinv.2 choice
  obtain ⟨hkept2, hgrows⟩ := hg.database_step hext ⟨hkeyed, hfrom⟩ hkept1
  refine ⟨hkept2, hgrows, ?_⟩
  show LineageKeeps parsers p _ (Prog.ofExcept
    (insertAct (entryEvent parsers p i envelope) choice w1.database).1 >>= _) _ inst
  refine keeps_ofExcept fun returned hret => ?_
  obtain ⟨row, hlookup⟩ := hrow returned hret
  exact fun w2 hgrows2 _ => ⟨⟨row, hgrows2.database _ _ hlookup⟩, rfl⟩

theorem lineage_runHook (writer : WarehouseWriter) :
    LineageKeeps parsers p (fun _ _ inst' => inst' = inst) (runHook writer) w inst := by
  unfold runHook
  split
  · refine keeps_afterDatabaseCommit lineage_lawful fun result w1 _ _ => ?_
    exact Ok.ofExcept fun _ _ _ _ _ => rfl
  · exact fun _ _ _ => rfl

theorem postInit_entry (envelope : GitHubEventEnvelope) (i : Nat) :
    WebhookRawEvent.postInit envelope p.partition i (extractOccurredAt parsers envelope)
      = .ok (entryEvent parsers p i envelope) := by
  unfold WebhookRawEvent.postInit
  rw [dif_pos (Int.natCast_nonneg _), dif_pos (Int.natCast_nonneg _)]
  rfl

theorem lineage_land (writer : WarehouseWriter) {envelope : GitHubEventEnvelope}
    (hkept : (lineage parsers p).Kept w) (hget : w.broker.log[i]? = some record)
    (hvalid : validateEnvelope parsers record.value = .ok envelope)
    (hsettled : Settled (Keyed parsers) w i) (hpos : inst.position = i + 1) :
    LineageKeeps parsers p (fun _ => KeyedUpTo parsers i)
      (land parsers writer (p.message i record) p.partition i envelope) w inst := by
  have hg : (lineage parsers p).Lawful := lineage_lawful
  unfold land
  rw [postInit_entry]
  show LineageKeeps parsers p _ (insert (entryEvent parsers p i envelope) >>= _) w inst
  refine keeps_bind hg hkept (lineage_insert hget hvalid hsettled)
    fun outcome w1 inst1 hgrows1 hkept1 h1 => ?_
  obtain ⟨⟨row, hrow⟩, rfl⟩ := h1
  refine keeps_bind hg hkept1 (lineage_runHook writer) fun _ w2 inst2 hgrows2 hkept2 h2 => ?_
  subst h2
  have hgrows := hg.grows_trans hgrows1 hgrows2
  have hnext : Settled (Keyed parsers) w2 (i + 1) := by
    refine hg.settled_succ (hg.settled_mono hgrows hsettled) (hgrows.getElem? hget) ?_
    intro other hother
    rw [hvalid] at hother
    cases hother
    exact ⟨row, hgrows2.database _ _ hrow⟩
  refine keeps_bind hg hkept2 (lineage_commit hnext hpos) fun _ w3 inst3 _ _ hkeyed => ?_
  exact fun w4 hgrows4 _ => ⟨hg.settled_mono hgrows4 hkeyed.1, hkeyed.2⟩

theorem lineage_process (writer : WarehouseWriter) (hkept : (lineage parsers p).Kept w)
    (hget : w.broker.log[i]? = some record) (hsettled : Settled (Keyed parsers) w i)
    (hpos : inst.position = i + 1) :
    LineageKeeps parsers p (fun _ => KeyedUpTo parsers i)
      (process parsers writer (p.message i record)) w inst := by
  rw [process_message]
  cases hvalid : validateEnvelope parsers record.value with
  | ok envelope => exact lineage_land writer hkept hget hvalid hsettled hpos
  | error failure =>
      -- an invalid entry has no row to wait for
      have hnext : Settled (Keyed parsers) w (i + 1) := by
        refine (lineage_lawful (p := p)).settled_succ hsettled hget fun envelope hother => ?_
        rw [hvalid] at hother
        cases hother
      cases failure with
      | typeError => exact lineage_deadLetter writer hnext hpos
      | validation => exact lineage_deadLetter writer hnext hpos
      | decode => trivial
      | other => trivial

theorem lineage_runForever (writer : WarehouseWriter) (fuel : Nat)
    (hsettled : Settled (Keyed parsers) w inst.position) :
    LineageKeeps parsers p (fun _ _ _ => True) (runForever parsers writer fuel) w inst := by
  have hg : (lineage parsers p).Lawful := lineage_lawful
  induction fuel generalizing w inst with
  | zero => trivial
  | succ fuel ih =>
      refine keeps_poll hg (fun w1 hgrows1 _ => ?_) (fun error w1 _ _ => ?_)
        (fun e w1 _ _ => ?_) (fun record w1 hgrows1 hkept1 hget => ?_)
      · exact ih (hg.settled_mono hgrows1 hsettled)
      · trivial
      · trivial
      · show LineageKeeps parsers p _ (process parsers writer (p.message inst.position record)
          >>= fun _ => Prog.ofExcept (messageLineage (p.message inst.position record))
          >>= fun _ => runForever parsers writer fuel) w1 _
        refine keeps_bind hg hkept1
          (lineage_process writer hkept1 hget (hg.settled_mono hgrows1 hsettled) rfl)
          fun outcome w2 inst2 hgrows2 _ hkeyed => ?_
        show LineageKeeps parsers p _ (runForever parsers writer fuel) w2 inst2
        exact ih (hkeyed.2 ▸ hkeyed.1)

end

theorem lineage_sound : (warehouseSystem parsers p).Sound (lineage parsers p).contract where
  refl := lineage_lawful.grows_refl
  trans _ _ _ := lineage_lawful.grows_trans
  start a w hkept :=
    lineage_runForever a.argument a.argument.fuel (lineage_lawful.settled_start hkept a.committed)
  disturb d w hkept := by
    refine kept_disturb lineage_lawful (fun row w hkept => ?_) d hkept
    obtain ⟨hkeyed, hext⟩ := backfillInsert_spec row hkept.inv.1
    exact ⟨hext, hkeyed, fromLanding_backfillInsert hkept.inv.2 row⟩

theorem emptyPool_lineage : (emptyPool parsers p).Ok (lineage parsers p).contract :=
  ⟨⟨⟨wellKeyed_empty, fun _ _ h => by simp [emptyPool] at h⟩, fun _ hc => nomatch hc⟩,
    fun _ ht => nomatch ht⟩

/-- **The log determines the rows.** After every schedule of writers, crashes and disturbances
the webhook row of a delivery is the row of the first entry that carries it, and every valid
entry below an offset the group ever committed has the row of the first entry of its delivery. -/
theorem landing_determined (parsers : Parsers) (p : Partition)
    (schedule : List (warehouseSystem parsers p).Event) :
    let w := ((warehouseSystem parsers p).run schedule (emptyPool parsers p)).shared
    (∀ deliveryId row, w.database.lookup (.webhook, deliveryId) = some row →
      ∃ i envelope generated, landing parsers w.broker.log deliveryId = some (i, envelope)
        ∧ row = (entryEvent parsers p i envelope).row generated)
    ∧ ∀ c ∈ w.broker.committed, ∀ i < c, ∀ record envelope, w.broker.log[i]? = some record →
      validateEnvelope parsers record.value = .ok envelope →
      ∃ first firstEnvelope generated, first ≤ i
        ∧ landing parsers w.broker.log envelope.deliveryId = some (first, firstEnvelope)
        ∧ w.database.lookup (.webhook, envelope.deliveryId)
          = some ((entryEvent parsers p first firstEnvelope).row generated) := by
  intro w
  obtain ⟨⟨hkept, -⟩, -⟩ := lineage_sound.run schedule emptyPool_lineage
    ((warehouseSystem parsers p).admissible_true schedule _)
  refine ⟨hkept.inv.2, fun c hc i hi record envelope hget hvalid => ?_⟩
  obtain ⟨row, hrow⟩ := (hkept.committed c hc).2 i record hi hget envelope hvalid
  obtain ⟨first, firstEnvelope, generated, hlanding, rfl⟩ := hkept.inv.2 _ row hrow
  exact ⟨first, firstEnvelope, generated,
    landing_le hlanding hget (carried_eq_some.mpr ⟨hvalid, rfl⟩), hlanding, hrow⟩

end Warehouse
