import DeliveryIntelligence.Consumers.Worker

set_option autoImplicit false

/-!
# Offsets never run ahead of durable effects

The part of the delivery argument that both consumers share. A `Guarantee` says when an entry
of the partition counts as handled; the contract of the workers is that everything below an
offset the group has ever committed is handled (`Settled`). An instance that starts at a
committed offset, consumes consecutively and commits only after handling keeps it, whatever
the other instances do; the rules below say so for each operation.
-/

namespace Consumers

open Program

variable {Storage : Type} {reply : Storage → Type} {D : Type}

/-- The first `n` entries of the partition are handled. -/
def Settled (handled : World D → Nat → Record → Prop) (w : World D) (n : Nat) : Prop :=
  n ≤ w.broker.log.length
  ∧ ∀ i record, i < n → w.broker.log[i]? = some record → handled w i record

/-- The log and the dead letters grow, and the database changes as `dbExt` allows. -/
structure Grows (dbExt : D → D → Prop) (w w' : World D) : Prop where
  log : w.broker.log <+: w'.broker.log
  dlq : ∀ m ∈ w.broker.dlq, m ∈ w'.broker.dlq
  database : dbExt w.database w'.database

/-- An entry of the log stays where it is. -/
theorem Grows.getElem? {dbExt : D → D → Prop} {w w' : World D} (h : Grows dbExt w w') {i : Nat}
    {record : Record} (hget : w.broker.log[i]? = some record) :
    w'.broker.log[i]? = some record := by
  obtain ⟨tail, htail⟩ := h.log
  have hlt : i < w.broker.log.length := (List.getElem?_eq_some_iff.mp hget).1
  rw [← htail, List.getElem?_append_left hlt]
  exact hget

/-- What handling an entry means, what holds of the world besides, and how the database may
change. -/
structure Guarantee (D : Type) where
  handled : World D → Nat → Record → Prop
  inv : World D → Prop
  dbExt : D → D → Prop

/-- Everything below an offset that was ever committed is handled. -/
structure Guarantee.Kept (g : Guarantee D) (w : World D) : Prop where
  inv : g.inv w
  committed : ∀ c ∈ w.broker.committed, Settled g.handled w c

def Guarantee.contract (g : Guarantee D) : Contract (WorkerOp Storage) (World D) Instance where
  inv := g.Kept
  ext := Grows g.dbExt
  guard _ _ _ := True

/-- The facts about a guarantee that the protocol needs: nothing handled is lost, and the
broker alone does not break the invariant. -/
structure Guarantee.Lawful (g : Guarantee D) : Prop where
  refl : ∀ d, g.dbExt d d
  trans : ∀ d₁ d₂ d₃, g.dbExt d₁ d₂ → g.dbExt d₂ d₃ → g.dbExt d₁ d₃
  handled_mono : ∀ w w' i record, Grows g.dbExt w w' → g.handled w i record →
    g.handled w' i record
  inv_broker : ∀ (w : World D) broker, w.broker.log <+: broker.log →
    (∀ m ∈ w.broker.dlq, m ∈ broker.dlq) → g.inv w → g.inv ⟨broker, w.database⟩

theorem Settled.zero {handled : World D → Nat → Record → Prop} (w : World D) :
    Settled handled w 0 :=
  ⟨Nat.zero_le _, fun i _ hi _ => absurd hi (Nat.not_lt_zero i)⟩

namespace Guarantee.Lawful

variable {g : Guarantee D}

theorem grows_refl (h : g.Lawful) (w : World D) : Grows g.dbExt w w :=
  ⟨List.prefix_refl _, fun _ hm => hm, h.refl _⟩

theorem grows_trans (h : g.Lawful) {w₁ w₂ w₃ : World D} (h₁ : Grows g.dbExt w₁ w₂)
    (h₂ : Grows g.dbExt w₂ w₃) : Grows g.dbExt w₁ w₃ :=
  ⟨h₁.log.trans h₂.log, fun m hm => h₂.dlq m (h₁.dlq m hm),
    h.trans _ _ _ h₁.database h₂.database⟩

theorem settled_mono (h : g.Lawful) {w w' : World D} {n : Nat} (hgrows : Grows g.dbExt w w')
    (hs : Settled g.handled w n) : Settled g.handled w' n := by
  obtain ⟨hn, hhandled⟩ := hs
  refine ⟨hn.trans hgrows.log.length_le, fun i record hi hget => ?_⟩
  -- The entry was already there, since the log only grows at its end.
  have hold : w.broker.log[i]? = some record := by
    have hlt : i < w.broker.log.length := by omega
    obtain ⟨tail, htail⟩ := hgrows.log
    rw [← hget, ← htail, List.getElem?_append_left hlt]
  exact h.handled_mono w w' i record hgrows (hhandled i record hi hold)

/-- One more handled entry settles the next offset. -/
theorem settled_succ (_ : g.Lawful) {w : World D} {i : Nat} {record : Record}
    (hs : Settled g.handled w i) (hget : w.broker.log[i]? = some record)
    (hrecord : g.handled w i record) : Settled g.handled w (i + 1) := by
  have hlt : i < w.broker.log.length := (List.getElem?_eq_some_iff.mp hget).1
  refine ⟨hlt, fun j other hj hother => ?_⟩
  by_cases hji : j = i
  · subst hji
    rw [hget] at hother
    cases hother
    exact hrecord
  · exact hs.2 j other (by omega) hother

/-- An instance starts at a settled position. -/
theorem settled_start (_ : g.Lawful) {w : World D} (hkept : g.Kept w) (n : Nat) :
    Settled g.handled w (w.broker.committed.getD n 0) := by
  rw [List.getD_eq_getElem?_getD]
  cases hget : w.broker.committed[n]? with
  | none => exact Settled.zero w
  | some c => exact hkept.committed c (List.mem_of_getElem? hget)

/-- A change of the broker that keeps the committed offsets keeps the contract. -/
theorem broker_step (h : g.Lawful) {w : World D} {broker : Broker}
    (hlog : w.broker.log <+: broker.log) (hdlq : ∀ m ∈ w.broker.dlq, m ∈ broker.dlq)
    (hcommitted : ∀ c ∈ broker.committed, c ∈ w.broker.committed ∨ Settled g.handled w c)
    (hkept : g.Kept w) :
    g.Kept ⟨broker, w.database⟩ ∧ Grows g.dbExt w ⟨broker, w.database⟩ := by
  have hgrows : Grows g.dbExt w ⟨broker, w.database⟩ := ⟨hlog, hdlq, h.refl _⟩
  refine ⟨⟨h.inv_broker w broker hlog hdlq hkept.inv, fun c hc => ?_⟩, hgrows⟩
  rcases hcommitted c hc with hold | hnew
  · exact h.settled_mono hgrows (hkept.committed c hold)
  · exact h.settled_mono hgrows hnew

/-- A change of the database alone. -/
theorem database_step (h : g.Lawful) {w : World D} {database : D}
    (hext : g.dbExt w.database database) (hinv : g.inv { w with database }) (hkept : g.Kept w) :
    g.Kept { w with database } ∧ Grows g.dbExt w { w with database } := by
  have hgrows : Grows g.dbExt w { w with database } :=
    ⟨List.prefix_refl _, fun _ hm => hm, hext⟩
  exact ⟨⟨hinv, fun c hc => h.settled_mono hgrows (hkept.committed c hc)⟩, hgrows⟩

end Guarantee.Lawful

/-! ## Rules for the operations -/

section

variable {A : Type} {p : Partition} {db : Database Storage reply D}
  {program : A → Worker reply Unit} {g : Guarantee D} {β : Type}
  {post : β → World D → Instance → Prop}

/-- The program keeps the contract of `g` in the world of the workers. -/
abbrev Keeps (p : Partition) (db : Database Storage reply D) (program : A → Worker reply Unit)
    (g : Guarantee D) {β : Type} (post : β → World D → Instance → Prop)
    (prog : Worker reply β) (w : World D) (inst : Instance) : Prop :=
  Ok (workerSystem p db program) g.contract post prog w inst

theorem keeps_clock (hg : g.Lawful) {f : Datetime.Aware → Worker reply β} {w : World D}
    {inst : Instance}
    (h : ∀ now w', Grows g.dbExt w w' → g.Kept w' → Keeps p db program g post (f now) w' inst) :
    Keeps p db program g post (Worker.clock >>= f) w inst :=
  fun w' hgrows hkept _ now => ⟨hkept, hg.grows_refl w', h now w' hgrows hkept⟩

theorem keeps_monotonic (hg : g.Lawful) {f : Rat → Worker reply β} {w : World D}
    {inst : Instance}
    (h : ∀ now w', Grows g.dbExt w w' → g.Kept w' → Keeps p db program g post (f now) w' inst) :
    Keeps p db program g post (Worker.monotonic >>= f) w inst :=
  fun w' hgrows hkept _ now => ⟨hkept, hg.grows_refl w', h now w' hgrows hkept⟩

theorem keeps_afterDatabaseCommit (hg : g.Lawful)
    {f : Except WorkerError Unit → Worker reply β} {w : World D} {inst : Instance}
    (h : ∀ result w', Grows g.dbExt w w' → g.Kept w' →
      Keeps p db program g post (f result) w' inst) :
    Keeps p db program g post (Worker.afterDatabaseCommit >>= f) w inst :=
  fun w' hgrows hkept _ result => ⟨hkept, hg.grows_refl w', h result w' hgrows hkept⟩

theorem keeps_bind {γ : Type} {mid : γ → World D → Instance → Prop} (hg : g.Lawful)
    {prog : Worker reply γ} {f : γ → Worker reply β} {w : World D} {inst : Instance}
    (hkept : g.Kept w) (hprog : Keeps p db program g mid prog w inst)
    (hf : ∀ c w' inst', Grows g.dbExt w w' → g.Kept w' → mid c w' inst' →
      Keeps p db program g post (f c) w' inst') :
    Keeps p db program g post (prog >>= f) w inst :=
  Ok.bind hg.grows_refl (fun _ _ _ => hg.grows_trans) hprog hf hkept

theorem keeps_ofExcept {γ : Type} {x : Except WorkerError γ} {f : γ → Worker reply β}
    {w : World D} {inst : Instance}
    (h : ∀ c, x = .ok c → Keeps p db program g post (f c) w inst) :
    Keeps p db program g post (Prog.ofExcept x >>= f) w inst := by
  cases x with
  | error e => trivial
  | ok c => exact h c rfl

/-- A poll gives nothing, an error event, an exception or the entry at the position. -/
theorem keeps_poll (hg : g.Lawful) {timeout : Rat}
    {f : Except WorkerError (Option Message) → Worker reply β} {w : World D} {inst : Instance}
    (hnone : ∀ w', Grows g.dbExt w w' → g.Kept w' →
      Keeps p db program g post (f (.ok none)) w' inst)
    (herror : ∀ error w', Grows g.dbExt w w' → g.Kept w' →
      Keeps p db program g post (f (.ok (some ⟨some error, none, none, none, none, none⟩))) w' inst)
    (hraises : ∀ e w', Grows g.dbExt w w' → g.Kept w' →
      Keeps p db program g post (f (.error e)) w' inst)
    (hnext : ∀ record w', Grows g.dbExt w w' → g.Kept w' →
      w'.broker.log[inst.position]? = some record →
      Keeps p db program g post (f (.ok (some (p.message inst.position record)))) w'
        { inst with position := inst.position + 1 }) :
    Keeps p db program g post (Worker.poll timeout >>= f) w inst := by
  intro w' hgrows hkept _ choice
  show g.Kept (pollAct p choice w' inst).2.1 ∧ Grows g.dbExt w' (pollAct p choice w' inst).2.1
    ∧ Keeps p db program g post (f (pollAct p choice w' inst).1) (pollAct p choice w' inst).2.1
        (pollAct p choice w' inst).2.2
  cases choice with
  | timeout => exact ⟨hkept, hg.grows_refl w', hnone w' hgrows hkept⟩
  | errorEvent error => exact ⟨hkept, hg.grows_refl w', herror error w' hgrows hkept⟩
  | raises => exact ⟨hkept, hg.grows_refl w', hraises .external w' hgrows hkept⟩
  | next =>
      unfold pollAct
      cases hget : w'.broker.log[inst.position]? with
      | none => exact ⟨hkept, hg.grows_refl w', hnone w' hgrows hkept⟩
      | some record => exact ⟨hkept, hg.grows_refl w', hnext record w' hgrows hkept hget⟩

/-! ## Disturbances and the dead-letter publisher -/

theorem kept_acknowledge (hg : g.Lawful) {w : World D} (hkept : g.Kept w)
    (message : ProducedMessage) :
    g.Kept (acknowledge w message) ∧ Grows g.dbExt w (acknowledge w message) :=
  hg.broker_step (List.prefix_refl _) (fun _ hm => List.mem_cons_of_mem _ hm)
    (fun _ hc => Or.inl hc) hkept

/-- Disturbances keep the guarantee as far as those of the database do. -/
theorem kept_disturb (hg : g.Lawful)
    (hdb : ∀ (d : db.Disturbance) (w : World D), g.Kept w →
      g.dbExt w.database (db.disturb d w.database)
      ∧ g.inv { w with database := db.disturb d w.database })
    (d : WorkerDisturbance db) {w : World D} (hkept : g.Kept w) :
    g.Kept (workerDisturb db d w) ∧ Grows g.dbExt w (workerDisturb db d w) := by
  cases d with
  | append record =>
      exact hg.broker_step (List.prefix_append _ _) (fun _ hm => hm) (fun _ hc => Or.inl hc) hkept
  | lateDeadLetter message => exact kept_acknowledge hg hkept message
  | database d =>
      obtain ⟨hext, hinv⟩ := hdb d w hkept
      exact hg.database_step hext hinv hkept

theorem keeps_produce (hg : g.Lawful) {message : ProducedMessage}
    {f : Except ProducerError Unit → Worker reply β} {w : World D} {inst : Instance}
    (hqueued : ∀ w', Grows g.dbExt w w' → g.Kept w' →
      Keeps p db program g post (f (.ok ())) w' { inst with queued := some message })
    (hraises : ∀ e w', Grows g.dbExt w w' → g.Kept w' →
      Keeps p db program g post (f (.error e)) w' inst) :
    Keeps p db program g post (Worker.produce message >>= f) w inst := by
  intro w' hgrows hkept _ choice
  show g.Kept (produceAct message choice w' inst).2.1
    ∧ Grows g.dbExt w' (produceAct message choice w' inst).2.1
    ∧ Keeps p db program g post (f (produceAct message choice w' inst).1)
        (produceAct message choice w' inst).2.1 (produceAct message choice w' inst).2.2
  cases choice with
  | error e => exact ⟨hkept, hg.grows_refl w', hraises e w' hgrows hkept⟩
  | ok _ => exact ⟨hkept, hg.grows_refl w', hqueued w' hgrows hkept⟩

/-- A poll of the producer with a queued record: no report, a report of success after the
record was stored, a report of an error, or an exception. -/
theorem keeps_pollProducer (hg : g.Lawful) {message : ProducedMessage} {timeout : Rat}
    {f : Except ProducerError (List (Option KafkaError)) → Worker reply β} {w : World D}
    {inst : Instance} (hqueued : inst.queued = some message)
    (hnothing : ∀ w', Grows g.dbExt w w' → g.Kept w' →
      Keeps p db program g post (f (.ok [])) w' inst)
    (hdelivered : ∀ w', Grows g.dbExt w w' → g.Kept w' → message ∈ w'.broker.dlq →
      Keeps p db program g post (f (.ok [none])) w' { inst with queued := none })
    (hrejected : ∀ error w', Grows g.dbExt w w' → g.Kept w' →
      Keeps p db program g post (f (.ok [some error])) w' { inst with queued := none })
    (hraises : ∀ e w', Grows g.dbExt w w' → g.Kept w' →
      Keeps p db program g post (f (.error e)) w' inst) :
    Keeps p db program g post (Worker.pollProducer timeout >>= f) w inst := by
  intro w' hgrows hkept _ choice
  show g.Kept (pollProducerAct choice w' inst).2.1
    ∧ Grows g.dbExt w' (pollProducerAct choice w' inst).2.1
    ∧ Keeps p db program g post (f (pollProducerAct choice w' inst).1)
        (pollProducerAct choice w' inst).2.1 (pollProducerAct choice w' inst).2.2
  obtain ⟨hkept_ack, hgrows_ack⟩ := kept_acknowledge hg hkept message
  have hgrows_both := hg.grows_trans hgrows hgrows_ack
  unfold pollProducerAct
  rw [hqueued]
  cases choice with
  | nothing => exact ⟨hkept, hg.grows_refl w', hnothing w' hgrows hkept⟩
  | delivered =>
      exact ⟨hkept_ack, hgrows_ack,
        hdelivered _ hgrows_both hkept_ack List.mem_cons_self⟩
  | deliveredUnseen => exact ⟨hkept_ack, hgrows_ack, hnothing _ hgrows_both hkept_ack⟩
  | rejected error => exact ⟨hkept, hg.grows_refl w', hrejected error w' hgrows hkept⟩
  | raises e => exact ⟨hkept, hg.grows_refl w', hraises e w' hgrows hkept⟩

/-- While the publisher waits, the record is queued; once its report has arrived, the record is
acknowledged unless the report was an error. -/
def Awaiting (message : ProducedMessage) (completed : Bool) (errors : List KafkaError)
    (w : World D) (inst : Instance) : Prop :=
  (completed = false ∧ errors = [] ∧ inst.queued = some message)
  ∨ (completed = true ∧ (errors = [] → message ∈ w.broker.dlq))

theorem keeps_awaitDelivery (hg : g.Lawful) {message : ProducedMessage} {position : Nat}
    (deadline : Rat) (fuel : Nat) {completed : Bool} {errors : List KafkaError} {w : World D}
    {inst : Instance} (hpos : inst.position = position)
    (h : Awaiting message completed errors w inst) :
    Keeps p db program g
      (fun _ w inst => message ∈ w.broker.dlq ∧ inst.position = position)
      (awaitDelivery deadline completed errors fuel) w inst := by
  induction fuel generalizing completed errors w inst with
  | zero => trivial
  | succ fuel ih =>
      unfold awaitDelivery
      rcases h with ⟨rfl, rfl, hqueued⟩ | ⟨rfl, hacked⟩
      · rw [if_neg Bool.false_ne_true]
        -- Still waiting: the record stays queued until the poll that brings its report.
        refine keeps_monotonic hg fun now w1 _ _ => ?_
        split
        · trivial
        · refine keeps_pollProducer hg hqueued (fun w2 _ _ => ?_) (fun w2 _ _ hmem => ?_)
            (fun error w2 _ _ => ?_) (fun e w2 _ _ => ?_)
          · exact ih hpos (Or.inl ⟨rfl, rfl, hqueued⟩)
          · exact ih hpos (Or.inr ⟨rfl, fun _ => hmem⟩)
          -- A report of an error ends the loop, and then it raises.
          · exact ih hpos (Or.inr ⟨rfl, fun hnil => absurd hnil (by simp)⟩)
          · cases e with
            | bufferError => trivial
            | kafkaException => trivial
            | runtimeError => trivial
            | other => trivial
      · rw [if_pos rfl]
        split
        · trivial
        · rename_i hnil
          have hmem : message ∈ w.broker.dlq := hacked (not_not.mp hnil)
          exact fun w' hgrows' _ => ⟨hgrows'.dlq message hmem, hpos⟩

/-- A publish that returns has been acknowledged. -/
theorem keeps_publish (hg : g.Lawful) {position : Nat} (topic : String) (timeout : Rat)
    (fuel : Nat) (record : DeadLetterRecord) {w : World D} {inst : Instance}
    (hpos : inst.position = position) :
    Keeps p db program g
      (fun _ w inst => (∃ message ∈ w.broker.dlq, message.value = record)
        ∧ inst.position = position)
      (publish topic timeout fuel record) w inst := by
  refine keeps_produce hg (fun w1 _ _ => ?_) (fun e w1 _ _ => ?_)
  · refine keeps_monotonic hg fun now w2 _ _ => ?_
    have hawait : Keeps p db program g
        (fun _ w inst => (⟨topic, record, record.kafkaKey⟩ : ProducedMessage) ∈ w.broker.dlq
          ∧ inst.position = position)
        (awaitDelivery (now + timeout) false [] fuel) w2
        { inst with queued := some ⟨topic, record, record.kafkaKey⟩ } :=
      keeps_awaitDelivery hg _ fuel hpos (Or.inl ⟨rfl, rfl, rfl⟩)
    exact hawait.imp fun _ w inst h => ⟨⟨_, h.1, rfl⟩, h.2⟩
  · cases e with
    | bufferError => trivial
    | kafkaException => trivial
    | runtimeError => trivial
    | other => trivial

/-! ## The offset commit -/

/-- Committing the offset of a message is safe once everything up to it is handled. -/
theorem keeps_commit (hg : g.Lawful) {i : Nat} {record : Record} {w : World D} {inst : Instance}
    (hsettled : Settled g.handled w (i + 1)) :
    Keeps p db program g (fun _ w inst' => Settled g.handled w (i + 1) ∧ inst' = inst)
      (commitSourceOffset (p.message i record)) w inst := by
  intro w1 hgrows1 hkept1 _ choice
  -- Others may have run since; what was settled still is.
  have hnow : Settled g.handled w1 (i + 1) := hg.settled_mono hgrows1 hsettled
  have hstep : g.Kept (commitAct (p.message i record) choice w1)
      ∧ Grows g.dbExt w1 (commitAct (p.message i record) choice w1) := by
    show g.Kept (if choice.takesEffect then _ else w1) ∧ Grows g.dbExt w1
      (if choice.takesEffect then _ else w1)
    split
    · refine hg.broker_step (List.prefix_refl _) (fun _ hm => hm) (fun c hc => ?_) hkept1
      rcases List.mem_cons.mp hc with rfl | hold
      · exact Or.inr hnow
      · exact Or.inl hold
    · exact ⟨hkept1, hg.grows_refl w1⟩
  refine ⟨hstep.1, hstep.2, ?_⟩
  refine keeps_ofExcept fun partitions _ => ?_
  cases (partitions.getD []).findSome? id with
  | some error => trivial
  | none =>
      refine fun w2 hgrows2 _ => ⟨?_, rfl⟩
      exact hg.settled_mono (hg.grows_trans hstep.2 hgrows2) hnow

end

end Consumers
