import DeliveryIntelligence.Consumers.OffsetProtocol
import DeliveryIntelligence.Consumers.PrAbsorption
import DeliveryIntelligence.Consumers.PrMonitor

set_option autoImplicit false

/-!
# Crashes and replays of the monitor refine a crash-free run

Whatever crashes and restarts there were, the tables are those of a run without any: leave out
of the history of committed transactions every application of a message that had been applied
before (`crashFree`), and replaying the rest gives the same tables, with the messages in log
order and none missing up to the last one applied. `Refines` is the invariant; its two step
lemmas say what the transaction of a command and a sweep do to it.
-/

namespace Monitor

open Consumers Postgres PrStorage Program

variable {parsers : PayloadParsers} {p : Partition}

/-! ## The crash-free run -/

/-- The command of an entry of the partition, if it has one. -/
def commandOf (parsers : PayloadParsers) (record : Record) : Option ProjectionCommand :=
  match validateEnvelope parsers.toParsers record.value with
  | .error _ => none
  | .ok envelope =>
      match projectionCommand parsers envelope with
      | .ok command => command
      | .error _ => none

/-- A valid envelope the monitor has nothing to do for. -/
def Ignorable (parsers : PayloadParsers) (record : Record) : Prop :=
  ∃ envelope, validateEnvelope parsers.toParsers record.value = .ok envelope
    ∧ projectionCommand parsers envelope = .ok none

/-- The commands of the first `n` entries with their offsets, the latest first. -/
def commandsBelow (parsers : PayloadParsers) (log : List Record) : Nat → List (Nat × ProjectionCommand)
  | 0 => []
  | n + 1 =>
      match (log[n]?).bind (commandOf parsers) with
      | some command => (n, command) :: commandsBelow parsers log n
      | none => commandsBelow parsers log n

/-- The applications in a history, with the offsets of their messages. -/
def applications : List Entry → List (Nat × ProjectionCommand)
  | [] => []
  | .applied offset command :: before => (offset, command) :: applications before
  | .sweep _ _ :: before => applications before

/-- One past the highest message that was applied. -/
def appliedEnd (history : List Entry) : Nat :=
  (applications history).foldr (fun a n => max (a.1 + 1) n) 0

/-- The history without the applications of messages that were applied before. All sweeps stay
where they are. -/
def crashFree : List Entry → List Entry
  | [] => []
  | .applied offset command :: before =>
      if offset ∈ (applications before).map Prod.fst then crashFree before
      else .applied offset command :: crashFree before
  | .sweep staleCutoff createdAt :: before => .sweep staleCutoff createdAt :: crashFree before

/-- The tables after the transactions of a history, from the empty tables. -/
def replay : List Entry → Except Error Serving
  | [] => .ok .empty
  | e :: before => do
      let db ← replay before
      e.call.exec db

theorem mem_commandsBelow {log : List Record} {n i : Nat} {command : ProjectionCommand} :
    (i, command) ∈ commandsBelow parsers log n
      ↔ i < n ∧ (log[i]?).bind (commandOf parsers) = some command := by
  induction n with
  | zero => simp [commandsBelow]
  | succ n ih =>
      unfold commandsBelow
      cases hn : (log[n]?).bind (commandOf parsers) with
      | none =>
          rw [ih]
          constructor
          · rintro ⟨hi, hc⟩
            exact ⟨by omega, hc⟩
          · rintro ⟨hi, hc⟩
            have hne : i ≠ n := by
              rintro rfl
              rw [hn] at hc
              cases hc
            exact ⟨by omega, hc⟩
      | some last =>
          rw [List.mem_cons, ih, Prod.mk.injEq]
          constructor
          · rintro (⟨rfl, rfl⟩ | ⟨hi, hc⟩)
            · exact ⟨Nat.lt_succ_self _, hn⟩
            · exact ⟨by omega, hc⟩
          · rintro ⟨hi, hc⟩
            by_cases hin : i = n
            · subst hin
              rw [hn] at hc
              exact Or.inl ⟨rfl, (Option.some.inj hc).symm⟩
            · exact Or.inr ⟨by omega, hc⟩

/-- Entries without a command add nothing. -/
theorem commandsBelow_of_none {log : List Record} {n m : Nat} (hnm : n ≤ m)
    (h : ∀ i, n ≤ i → i < m → (log[i]?).bind (commandOf parsers) = none) :
    commandsBelow parsers log m = commandsBelow parsers log n := by
  induction m with
  | zero =>
      have hn : n = 0 := by omega
      rw [hn]
  | succ m ih =>
      by_cases hlast : n = m + 1
      · rw [hlast]
      · have hnone := h m (by omega) (Nat.lt_succ_self m)
        have hrest := ih (by omega) fun i hi him => h i hi (by omega)
        simp only [commandsBelow, hnone]
        exact hrest

/-- Appending to the log keeps the commands below. -/
theorem commandsBelow_append {log log' : List Record} (hlog : log <+: log') {n : Nat}
    (hn : n ≤ log.length) : commandsBelow parsers log' n = commandsBelow parsers log n := by
  obtain ⟨tail, rfl⟩ := hlog
  induction n with
  | zero => rfl
  | succ n ih =>
      have hget : (log ++ tail)[n]? = log[n]? := List.getElem?_append_left (by omega)
      unfold commandsBelow
      rw [hget, ih (by omega)]

theorem lt_appliedEnd {history : List Entry} {i : Nat} {command : ProjectionCommand}
    (h : (i, command) ∈ applications history) : i < appliedEnd history := by
  unfold appliedEnd
  generalize applications history = applied at h
  induction applied with
  | nil => cases h
  | cons a rest ih =>
      rw [List.foldr_cons]
      rcases List.mem_cons.mp h with rfl | hrest
      · exact lt_of_lt_of_le (Nat.lt_succ_self i) (le_max_left _ _)
      · exact lt_of_lt_of_le (ih hrest) (le_max_right _ _)

/-- The crash-free run applies no message the history did not apply. -/
theorem applications_crashFree_subset (history : List Entry) :
    ∀ a ∈ applications (crashFree history), a ∈ applications history := by
  induction history with
  | nil => exact fun a ha => ha
  | cons e before ih =>
      cases e with
      | sweep staleCutoff createdAt => exact ih
      | applied offset command =>
          intro a ha
          unfold crashFree at ha
          split at ha
          · exact List.mem_cons_of_mem _ (ih a ha)
          · rcases List.mem_cons.mp ha with rfl | hrest
            · exact List.mem_cons_self
            · exact List.mem_cons_of_mem _ (ih a hrest)

/-! ## The invariant -/

/-- The projection is that of the crash-free run over the log. -/
structure Refines (parsers : PayloadParsers) (log : List Record) (db : Projection) : Prop where
  ran : replay db.history = .ok db.serving
  tables : replay (crashFree db.history) = .ok db.serving
  log_order : applications (crashFree db.history)
    = commandsBelow parsers log (appliedEnd db.history)
  in_log : appliedEnd db.history ≤ log.length
  logged : ∀ i command, (i, command) ∈ applications db.history →
    (log[i]?).bind (commandOf parsers) = some command
  absorbed : ∀ i command, (i, command) ∈ applications db.history →
    Absorbed db.serving command.call

theorem refines_empty : Refines parsers [] ⟨.empty, []⟩ where
  ran := rfl
  tables := rfl
  log_order := rfl
  in_log := Nat.zero_le _
  logged _ _ h := nomatch h
  absorbed _ _ h := nomatch h

/-- More messages do not matter. -/
theorem Refines.append {log log' : List Record} {db : Projection} (h : Refines parsers log db)
    (hlog : log <+: log') : Refines parsers log' db where
  ran := h.ran
  tables := h.tables
  log_order := by rw [commandsBelow_append hlog h.in_log]; exact h.log_order
  in_log := h.in_log.trans hlog.length_le
  logged i command hmem := by
    have hi : i < log.length := lt_of_lt_of_le (lt_appliedEnd hmem) h.in_log
    obtain ⟨tail, rfl⟩ := hlog
    rw [List.getElem?_append_left hi]
    exact h.logged i command hmem
  absorbed := h.absorbed

theorem exec_advances {c : Call} {db db' : Serving} (h : c.exec db = .ok db') :
    Advances db db' := by
  rw [exec_ok h]
  exact advances_effect c db

theorem replay_cons {history : List Entry} {db serving : Serving} {e : Entry}
    (h : replay history = .ok db) (hexec : e.call.exec db = .ok serving) :
    replay (e :: history) = .ok serving := by
  unfold replay
  rw [h]
  exact hexec

/-- A sweep belongs to both runs. -/
theorem Refines.sweep {log : List Record} {db : Projection} (h : Refines parsers log db)
    {staleCutoff createdAt : Timestamp} {serving : Serving}
    (hexec : (Call.createStaleAlerts staleCutoff createdAt).exec db.serving = .ok serving) :
    Refines parsers log ⟨serving, .sweep staleCutoff createdAt :: db.history⟩ where
  ran := replay_cons h.ran hexec
  tables := replay_cons h.tables hexec
  log_order := h.log_order
  in_log := h.in_log
  logged := h.logged
  absorbed i command hmem := (h.absorbed i command hmem).mono (exec_advances hexec)

/-- A message that was applied before changes neither the tables nor the crash-free run. -/
theorem Refines.reapply {log : List Record} {db : Projection} (h : Refines parsers log db)
    {i : Nat} {command : ProjectionCommand} {serving : Serving}
    (hcommand : (log[i]?).bind (commandOf parsers) = some command)
    (hexec : command.call.exec db.serving = .ok serving)
    (happlied : i ∈ (applications db.history).map Prod.fst) :
    Refines parsers log ⟨serving, .applied i command :: db.history⟩ := by
  obtain ⟨⟨i', earlier⟩, hmem, rfl⟩ := List.mem_map.mp happlied
  have hsame : earlier = command := by
    rw [h.logged i' earlier hmem] at hcommand
    exact Option.some.inj hcommand
  subst hsame
  -- the tables have seen the command, so it changes nothing
  have hserving : serving = db.serving := by
    rw [exec_ok hexec]
    exact effect_of_absorbed (h.absorbed i' earlier hmem)
  rw [hserving] at hexec ⊢
  have hcrash : crashFree (.applied i' earlier :: db.history) = crashFree db.history :=
    if_pos happlied
  have hend : appliedEnd (.applied i' earlier :: db.history) = appliedEnd db.history :=
    max_eq_right (lt_appliedEnd hmem)
  have hmem_cons : ∀ a ∈ applications (.applied i' earlier :: db.history),
      a ∈ applications db.history := by
    intro a ha
    rcases List.mem_cons.mp ha with rfl | hrest
    · exact hmem
    · exact hrest
  refine ⟨replay_cons h.ran hexec, ?_, ?_, ?_, fun j other hj => ?_, fun j other hj => ?_⟩
  · rw [hcrash]
    exact h.tables
  · rw [hcrash, hend]
    exact h.log_order
  · rw [hend]
    exact h.in_log
  · exact h.logged j other (hmem_cons _ hj)
  · exact h.absorbed j other (hmem_cons _ hj)

theorem call_ne_sweep (command : ProjectionCommand) (staleCutoff createdAt : Timestamp) :
    command.call ≠ .createStaleAlerts staleCutoff createdAt := by
  cases command with
  | pullRequest p => exact fun h => nomatch h
  | submittedReview r => exact fun h => nomatch h

/-- A message that is applied for the first time comes next in log order: everything before it
was applied or has no command. -/
theorem Refines.applyFirst {log : List Record} {db : Projection} (h : Refines parsers log db)
    {i : Nat} {command : ProjectionCommand} {serving : Serving}
    (hbefore : ∀ j < i, ∀ other, (log[j]?).bind (commandOf parsers) = some other →
      (j, other) ∈ applications db.history)
    (hcommand : (log[i]?).bind (commandOf parsers) = some command)
    (hexec : command.call.exec db.serving = .ok serving)
    (hfirst : i ∉ (applications db.history).map Prod.fst) :
    Refines parsers log ⟨serving, .applied i command :: db.history⟩ := by
  have hi : i < log.length := by
    obtain ⟨record, hget, -⟩ := Option.bind_eq_some_iff.mp hcommand
    exact (List.getElem?_eq_some_iff.mp hget).1
  -- nothing after it was applied: that run had its command below
  have hend_le : appliedEnd db.history ≤ i := by
    by_contra hlt
    have hmem : (i, command) ∈ commandsBelow parsers log (appliedEnd db.history) :=
      mem_commandsBelow.mpr ⟨by omega, hcommand⟩
    rw [← h.log_order] at hmem
    have hin := applications_crashFree_subset db.history _ hmem
    exact hfirst (List.mem_map.mpr ⟨_, hin, rfl⟩)
  -- and nothing before it is missing
  have hgap : commandsBelow parsers log i = commandsBelow parsers log (appliedEnd db.history) := by
    refine commandsBelow_of_none hend_le fun j hj hji => ?_
    cases hc : (log[j]?).bind (commandOf parsers) with
    | none => rfl
    | some other =>
        have hlt := lt_appliedEnd (hbefore j hji other hc)
        omega
  have hend : appliedEnd (.applied i command :: db.history) = i + 1 :=
    max_eq_left (by show appliedEnd db.history ≤ i + 1; omega)
  have hcrash : crashFree (.applied i command :: db.history)
      = .applied i command :: crashFree db.history := if_neg hfirst
  refine ⟨replay_cons h.ran hexec, ?_, ?_, ?_, fun j other hj => ?_, fun j other hj => ?_⟩
  · rw [hcrash]
    exact replay_cons h.tables hexec
  · rw [hcrash, hend]
    unfold commandsBelow
    rw [hcommand, hgap, ← h.log_order]
    rfl
  · rw [hend]
    exact hi
  · rcases List.mem_cons.mp hj with heq | hold
    · cases heq
      exact hcommand
    · exact h.logged j other hold
  · rcases List.mem_cons.mp hj with heq | hold
    · cases heq
      rw [exec_ok hexec]
      exact absorbed_effect (call_ne_sweep _) _
    · exact (h.absorbed j other hold).mono (exec_advances hexec)

/-- The transaction of a command. -/
theorem Refines.apply {log : List Record} {db : Projection} (h : Refines parsers log db)
    {i : Nat} {command : ProjectionCommand} {serving : Serving}
    (hbefore : ∀ j < i, ∀ other, (log[j]?).bind (commandOf parsers) = some other →
      (j, other) ∈ applications db.history)
    (hcommand : (log[i]?).bind (commandOf parsers) = some command)
    (hexec : command.call.exec db.serving = .ok serving) :
    Refines parsers log ⟨serving, .applied i command :: db.history⟩ := by
  by_cases happlied : i ∈ (applications db.history).map Prod.fst
  · exact h.reapply hcommand hexec happlied
  · exact h.applyFirst hbefore hcommand hexec happlied

/-! ## The guarantee of the monitor -/

/-- The entry has its durable effect: its command was applied, or it has none and is ignorable
or dead-lettered. -/
def Handled (parsers : PayloadParsers) (p : Partition) (w : World Projection) (i : Nat)
    (record : Record) : Prop :=
  match commandOf parsers record with
  | some command => (i, command) ∈ applications w.database.history
  | none => Ignorable parsers record
      ∨ ∃ message ∈ w.broker.dlq, message.value.Carries (p.message i record)

def guarantee (parsers : PayloadParsers) (p : Partition) : Guarantee Projection where
  handled := Handled parsers p
  inv w := Refines parsers w.broker.log w.database
  dbExt db db' := applications db.history <:+ applications db'.history

theorem guarantee_lawful : (guarantee parsers p).Lawful where
  refl _ := List.suffix_refl _
  trans _ _ _ h₁ h₂ := h₁.trans h₂
  handled_mono w w' i record hgrows h := by
    show Handled parsers p w' i record
    have h' : Handled parsers p w i record := h
    unfold Handled at h' ⊢
    cases hc : commandOf parsers record with
    | some command =>
        simp only [hc] at h' ⊢
        exact hgrows.database.subset h'
    | none =>
        simp only [hc] at h' ⊢
        rcases h' with hignorable | ⟨message, hmem, hcarries⟩
        · exact Or.inl hignorable
        · exact Or.inr ⟨message, hgrows.dlq message hmem, hcarries⟩
  inv_broker w broker hlog _ h := h.append hlog

/-- Every command below a settled position was applied. -/
theorem applied_of_settled {w : World Projection} {i : Nat}
    (h : Settled (Handled parsers p) w i) {j : Nat} (hj : j < i) {command : ProjectionCommand}
    (hcommand : (w.broker.log[j]?).bind (commandOf parsers) = some command) :
    (j, command) ∈ applications w.database.history := by
  obtain ⟨record, hget, hof⟩ := Option.bind_eq_some_iff.mp hcommand
  have hhandled := h.2 j record hj hget
  unfold Handled at hhandled
  rwa [hof] at hhandled

/-- A transaction that does not commit keeps the projection; one that commits executes its
call. -/
theorem callAct_cases (call : Call) (fault : Fault) (position : Nat) (db : Projection) :
    (∃ e, callAct call fault position db = (.error e, db))
    ∨ ∃ serving result, call.exec db.serving = .ok serving
        ∧ callAct call fault position db
          = (result, ⟨serving, entryOf position call :: db.history⟩) := by
  have hexec : call.exec db.serving = (answer call db.serving).map Prod.snd := by
    cases call with
    | applyPullRequest p => rfl
    | applyReview r => rfl
    | createStaleAlerts staleCutoff createdAt => rfl
  unfold callAct
  cases ha : answer call db.serving with
  | error e =>
      cases fault with
      | none => exact Or.inl ⟨_, rfl⟩
      | beforeCommit => exact Or.inl ⟨_, rfl⟩
      | afterCommit => exact Or.inl ⟨_, rfl⟩
  | ok result =>
      obtain ⟨outcome, serving⟩ := result
      rw [ha] at hexec
      cases fault with
      | none => exact Or.inr ⟨serving, _, hexec, rfl⟩
      | beforeCommit => exact Or.inl ⟨_, rfl⟩
      | afterCommit => exact Or.inr ⟨serving, _, hexec, rfl⟩

theorem applications_suffix (e : Entry) (history : List Entry) :
    applications history <:+ applications (e :: history) := by
  cases e with
  | applied offset command => exact List.suffix_cons _ _
  | sweep staleCutoff createdAt => exact List.suffix_refl _

/-! ## The monitor keeps it -/

section

variable {β : Type} {post : β → World Projection → Instance → Prop}

/-- The monitor keeps the guarantee. -/
abbrev MonitorKeeps (parsers : PayloadParsers) (p : Partition) {β : Type}
    (post : β → World Projection → Instance → Prop) (prog : Worker CallReply β)
    (w : World Projection) (inst : Instance) : Prop :=
  Keeps p projectionDatabase (runForever parsers) (guarantee parsers p) post prog w inst

/-- A storage call fails without an effect or executes; then the history shows it. -/
theorem keeps_call {call : Call} {f : Except WorkerError (CallReply call) → Worker CallReply β}
    {w : World Projection} {inst : Instance}
    (hrefines : ∀ (w' : World Projection) serving, Grows (guarantee parsers p).dbExt w w' →
      (guarantee parsers p).Kept w' → call.exec w'.database.serving = .ok serving →
      Refines parsers w'.broker.log
        ⟨serving, entryOf inst.position call :: w'.database.history⟩)
    (hfails : ∀ e w', Grows (guarantee parsers p).dbExt w w' → (guarantee parsers p).Kept w' →
      MonitorKeeps parsers p post (f (.error e)) w' inst)
    (hcommits : ∀ result w' before, Grows (guarantee parsers p).dbExt w w' →
      (guarantee parsers p).Kept w' →
      w'.database.history = entryOf inst.position call :: before →
      MonitorKeeps parsers p post (f result) w' inst) :
    MonitorKeeps parsers p post (Worker.storage call >>= f) w inst := by
  intro w1 hgrows1 hkept1 _ fault
  have hg : (guarantee parsers p).Lawful := guarantee_lawful
  show (guarantee parsers p).Kept
        { w1 with database := (callAct call fault inst.position w1.database).2 }
    ∧ Grows (guarantee parsers p).dbExt w1
        { w1 with database := (callAct call fault inst.position w1.database).2 }
    ∧ MonitorKeeps parsers p post (f (callAct call fault inst.position w1.database).1)
        { w1 with database := (callAct call fault inst.position w1.database).2 } inst
  -- a fault before the commit leaves the tables; after it, only the answer is lost
  rcases callAct_cases call fault inst.position w1.database with
    ⟨e, hact⟩ | ⟨serving, result, hexec, hact⟩
  · rw [hact]
    exact ⟨hkept1, hg.grows_refl w1, hfails e w1 hgrows1 hkept1⟩
  · rw [hact]
    have hext : (guarantee parsers p).dbExt w1.database
        ⟨serving, entryOf inst.position call :: w1.database.history⟩ := applications_suffix _ _
    obtain ⟨hkept2, hgrows2⟩ :=
      hg.database_step hext (hrefines w1 serving hgrows1 hkept1 hexec) hkept1
    exact ⟨hkept2, hgrows2, hcommits result _ _ (hg.grows_trans hgrows1 hgrows2) hkept2 rfl⟩

theorem keeps_sweepWhenDue (monitor : PrMonitor) (nextSweepAt : Timestamp)
    {w : World Projection} {inst : Instance} :
    MonitorKeeps parsers p (fun _ _ inst' => inst' = inst) (sweepWhenDue monitor nextSweepAt) w
      inst := by
  refine keeps_clock guarantee_lawful fun now w1 _ hkept1 => ?_
  split
  · have hsweep : MonitorKeeps parsers p (fun _ _ inst' => inst' = inst) (sweepStale monitor now)
        w1 inst := by
      refine keeps_call (fun w2 serving _ hkept2 hexec => ?_) (fun e w2 _ _ => trivial)
        (fun result w2 before _ _ _ => ?_)
      · exact hkept2.inv.sweep hexec
      · exact Ok.ofExcept fun _ _ _ _ _ => rfl
    refine keeps_bind guarantee_lawful hkept1 hsweep fun _ w2 inst2 _ _ hinst => ?_
    exact fun _ _ _ => hinst
  · exact fun _ _ _ => rfl

variable {i : Nat} {record : Record}

/-- The transaction of a command at a settled position leaves the command applied. -/
theorem keeps_applyCommand {command : ProjectionCommand} {w : World Projection} {inst : Instance}
    (hsettled : Settled (Handled parsers p) w i) (hget : w.broker.log[i]? = some record)
    (hcommand : commandOf parsers record = some command) (hpos : inst.position = i + 1) :
    MonitorKeeps parsers p
      (fun _ w inst' => (i, command) ∈ applications w.database.history ∧ inst' = inst)
      (applyCommand command) w inst := by
  have hentry : entryOf inst.position command.call = .applied i command := by
    rw [hpos]
    cases command with
    | pullRequest p => rfl
    | submittedReview r => rfl
  have hrefines : ∀ (w' : World Projection) serving, Grows (guarantee parsers p).dbExt w w' →
      (guarantee parsers p).Kept w' → command.call.exec w'.database.serving = .ok serving →
      Refines parsers w'.broker.log
        ⟨serving, entryOf inst.position command.call :: w'.database.history⟩ := by
    intro w' serving hgrows hkept hexec
    rw [hentry]
    have hsettled' := guarantee_lawful.settled_mono hgrows hsettled
    have hat : (w'.broker.log[i]?).bind (commandOf parsers) = some command := by
      rw [hgrows.getElem? hget]
      exact hcommand
    exact hkept.inv.apply (fun j hj other hother => applied_of_settled hsettled' hj hother) hat hexec
  -- the two kinds of command differ only in what they return
  have happlied : ∀ {w' : World Projection} {before : List Entry},
      w'.database.history = entryOf inst.position command.call :: before →
      (i, command) ∈ applications w'.database.history := by
    intro w' before hhistory
    rw [hhistory, hentry]
    exact List.mem_cons_self
  cases command with
  | pullRequest p =>
      refine keeps_call hrefines (fun e w' _ _ => trivial) fun result w' before _ _ hhistory => ?_
      refine keeps_ofExcept fun outcome _ => ?_
      exact fun w2 hgrows2 _ => ⟨hgrows2.database.subset (happlied hhistory), rfl⟩
  | submittedReview r =>
      refine keeps_call hrefines (fun e w' _ _ => trivial) fun result w' before _ _ hhistory => ?_
      refine keeps_ofExcept fun outcome _ => ?_
      exact fun w2 hgrows2 _ => ⟨hgrows2.database.subset (happlied hhistory), rfl⟩

theorem keeps_runHook (monitor : PrMonitor) {w : World Projection} {inst : Instance} :
    MonitorKeeps parsers p (fun _ _ inst' => inst' = inst) (runHook monitor) w inst := by
  unfold runHook
  split
  · refine keeps_afterDatabaseCommit guarantee_lawful fun result w1 _ _ => ?_
    exact Ok.ofExcept fun _ _ _ _ _ => rfl
  · exact fun _ _ _ => rfl

/-- The message is handled with everything before it, and the position is one past it. -/
def Processed (parsers : PayloadParsers) (p : Partition) (i : Nat) (w : World Projection)
    (inst : Instance) : Prop :=
  Settled (Handled parsers p) w (i + 1) ∧ inst.position = i + 1

/-- A handled message may be committed. -/
theorem keeps_commitHandled {w : World Projection} {inst : Instance}
    (hsettled : Settled (Handled parsers p) w i) (hget : w.broker.log[i]? = some record)
    (hhandled : Handled parsers p w i record) (hpos : inst.position = i + 1) :
    MonitorKeeps parsers p (fun _ => Processed parsers p i)
      (commitSourceOffset (p.message i record)) w inst := by
  have hg : (guarantee parsers p).Lawful := guarantee_lawful
  have hnext : Settled (Handled parsers p) w (i + 1) := hg.settled_succ hsettled hget hhandled
  refine (keeps_commit hg hnext).imp fun _ w' inst' h => ⟨h.1, ?_⟩
  rw [h.2]
  exact hpos

/-- A handled message may be committed and its outcome returned. -/
theorem keeps_finish {w : World Projection} {inst : Instance} (outcome : MonitorOutcome)
    (hkept : (guarantee parsers p).Kept w)
    (hsettled : Settled (Handled parsers p) w i) (hget : w.broker.log[i]? = some record)
    (hhandled : Handled parsers p w i record) (hpos : inst.position = i + 1) :
    MonitorKeeps parsers p (fun _ => Processed parsers p i)
      (commitSourceOffset (p.message i record) >>= fun _ => pure outcome) w inst := by
  have hg : (guarantee parsers p).Lawful := guarantee_lawful
  refine keeps_bind hg hkept (keeps_commitHandled hsettled hget hhandled hpos)
    fun _ w1 inst1 _ _ hprocessed => ?_
  exact fun w2 hgrows2 _ => ⟨hg.settled_mono hgrows2 hprocessed.1, hprocessed.2⟩

theorem keeps_deadLetter (monitor : PrMonitor) (reason : DlqFailureReason)
    {w : World Projection} {inst : Instance} (hnone : commandOf parsers record = none)
    (hsettled : Settled (Handled parsers p) w i) (hget : w.broker.log[i]? = some record)
    (hpos : inst.position = i + 1) :
    MonitorKeeps parsers p (fun _ => Processed parsers p i)
      (deadLetter parsers monitor (p.message i record) reason) w inst := by
  have hg : (guarantee parsers p).Lawful := guarantee_lawful
  refine keeps_clock hg fun now w1 hgrows1 hkept1 => keeps_ofExcept fun letter hletter => ?_
  refine keeps_bind hg hkept1 (keeps_publish hg _ _ _ letter hpos)
    fun _ w2 inst2 hgrows2 hkept2 hpublished => ?_
  obtain ⟨⟨message, hmem, hvalue⟩, hpos2⟩ := hpublished
  have hgrows := hg.grows_trans hgrows1 hgrows2
  have hhandled : Handled parsers p w2 i record := by
    unfold Handled
    rw [hnone]
    refine Or.inr ⟨message, hmem, ?_⟩
    rw [hvalue]
    exact fromMessage_carries hletter
  exact keeps_finish _ hkept2 (hg.settled_mono hgrows hsettled) (hgrows.getElem? hget) hhandled
    hpos2

theorem keeps_command (monitor : PrMonitor) {command : ProjectionCommand}
    {w : World Projection} {inst : Instance} (hkept : (guarantee parsers p).Kept w)
    (hcommand : commandOf parsers record = some command)
    (hsettled : Settled (Handled parsers p) w i) (hget : w.broker.log[i]? = some record)
    (hpos : inst.position = i + 1) :
    MonitorKeeps parsers p (fun _ => Processed parsers p i)
      (applyCommand command >>= fun outcome => runHook monitor >>= fun _ =>
        commitSourceOffset (p.message i record) >>= fun _ => pure outcome) w inst := by
  have hg : (guarantee parsers p).Lawful := guarantee_lawful
  refine keeps_bind hg hkept (keeps_applyCommand hsettled hget hcommand hpos)
    fun outcome w1 inst1 hgrows1 hkept1 h1 => ?_
  obtain ⟨happlied, rfl⟩ := h1
  refine keeps_bind hg hkept1 (keeps_runHook monitor) fun _ w2 inst2 hgrows2 hkept2 h2 => ?_
  subst h2
  have hgrows := hg.grows_trans hgrows1 hgrows2
  -- the command stays applied whatever the hook does
  have hhandled : Handled parsers p w2 i record := by
    unfold Handled
    rw [hcommand]
    exact hgrows2.database.subset happlied
  exact keeps_finish outcome hkept2 (hg.settled_mono hgrows hsettled) (hgrows.getElem? hget)
    hhandled hpos

/-- Processing the message at a settled position settles the next one. -/
theorem keeps_process (monitor : PrMonitor) {w : World Projection} {inst : Instance}
    (hkept : (guarantee parsers p).Kept w)
    (hsettled : Settled (Handled parsers p) w i) (hget : w.broker.log[i]? = some record)
    (hpos : inst.position = i + 1) :
    MonitorKeeps parsers p (fun _ => Processed parsers p i)
      (process parsers monitor (p.message i record)) w inst := by
  simp only [process, Partition.message_error, Partition.message_value]
  cases hvalid : validateEnvelope parsers.toParsers record.value with
  | error failure =>
      have hnone : commandOf parsers record = none := by
        unfold commandOf
        rw [hvalid]
      cases failure with
      | typeError => exact keeps_deadLetter monitor _ hnone hsettled hget hpos
      | validation => exact keeps_deadLetter monitor _ hnone hsettled hget hpos
      | decode => trivial
      | other => trivial
  | ok envelope =>
      dsimp only
      cases hcommand : projectionCommand parsers envelope with
      | error failure =>
          have hnone : commandOf parsers record = none := by
            unfold commandOf
            rw [hvalid]
            simp only [hcommand]
          cases failure with
          | validation => exact keeps_deadLetter monitor _ hnone hsettled hget hpos
          | valueError text => trivial
      | ok command =>
          have hof : commandOf parsers record = command := by
            unfold commandOf
            rw [hvalid]
            simp only [hcommand]
          cases command with
          | none =>
              have hhandled : Handled parsers p w i record := by
                unfold Handled
                rw [hof]
                exact Or.inl ⟨envelope, hvalid, hcommand⟩
              -- nothing to do: the offset is committed at once
              exact keeps_finish _ hkept hsettled hget hhandled hpos
          | some command => exact keeps_command monitor hkept hof hsettled hget hpos

/-- A monitor that starts at a settled position keeps the guarantee, however long it runs. -/
theorem keeps_loop (monitor : PrMonitor) (nextSweepAt : Timestamp) (fuel : Nat)
    {w : World Projection} {inst : Instance} (hkept : (guarantee parsers p).Kept w)
    (hsettled : Settled (Handled parsers p) w inst.position) :
    MonitorKeeps parsers p (fun _ _ _ => True) (loop parsers monitor nextSweepAt fuel) w inst := by
  have hg : (guarantee parsers p).Lawful := guarantee_lawful
  induction fuel generalizing nextSweepAt w inst with
  | zero => trivial
  | succ fuel ih =>
      refine keeps_bind hg hkept (keeps_sweepWhenDue monitor nextSweepAt)
        fun next w1 inst1 hgrows1 hkept1 hinst => ?_
      subst hinst
      have hsettled1 := hg.settled_mono hgrows1 hsettled
      refine keeps_poll hg (fun w2 hgrows2 hkept2 => ?_) (fun error w2 _ _ => ?_)
        (fun e w2 _ _ => ?_) (fun record w2 hgrows2 hkept2 hget => ?_)
      · exact ih next hkept2 (hg.settled_mono hgrows2 hsettled1)
      · trivial
      · trivial
      · show MonitorKeeps parsers p _ (process parsers monitor (p.message inst1.position record)
          >>= fun _ => Prog.ofExcept (messageLineage (p.message inst1.position record))
          >>= fun _ => loop parsers monitor next fuel) w2 _
        refine keeps_bind hg hkept2
          (keeps_process monitor hkept2 (hg.settled_mono hgrows2 hsettled1) hget rfl)
          fun outcome w3 inst3 _ hkept3 hprocessed => ?_
        obtain ⟨hnext, hpos⟩ := hprocessed
        show MonitorKeeps parsers p _ (loop parsers monitor next fuel) w3 inst3
        exact ih next hkept3 (hpos ▸ hnext)

end

/-- Monitors started at committed offsets keep the guarantee. -/
theorem monitor_sound : (monitorSystem parsers p).Sound (guarantee parsers p).contract where
  refl := guarantee_lawful.grows_refl
  trans _ _ _ := guarantee_lawful.grows_trans
  start a w hkept := by
    refine keeps_clock guarantee_lawful fun now w1 hgrows1 hkept1 => ?_
    refine keeps_loop a.argument now.instant a.argument.fuel hkept1 ?_
    exact guarantee_lawful.settled_mono hgrows1
      (guarantee_lawful.settled_start hkept a.committed)
  disturb d w hkept := kept_disturb guarantee_lawful (fun (d : Empty) _ _ => d.elim) d hkept

theorem emptyPool_ok : (emptyPool parsers p).Ok (guarantee parsers p).contract :=
  ⟨⟨refines_empty, fun _ hc => nomatch hc⟩, fun _ ht => nomatch ht⟩

/-- **Crash and replay refinement.** After every schedule of monitors and crashes the serving
tables are those of the transactions that committed; they are also those of the crash-free run,
which applies each message once and in log order up to the highest one that was applied, with
all sweeps at their places; and every message below a committed offset is in that prefix,
dead-lettered or ignorable. -/
theorem replay_refinement (parsers : PayloadParsers) (p : Partition)
    (schedule : List (monitorSystem parsers p).Event) :
    let w := ((monitorSystem parsers p).run schedule (emptyPool parsers p)).shared
    replay w.database.history = .ok w.database.serving
    ∧ replay (crashFree w.database.history) = .ok w.database.serving
    ∧ applications (crashFree w.database.history)
        = commandsBelow parsers w.broker.log (appliedEnd w.database.history)
    ∧ ∀ c ∈ w.broker.committed, ∀ i < c, ∃ record, w.broker.log[i]? = some record
        ∧ ((commandOf parsers record).isSome ∧ i < appliedEnd w.database.history
          ∨ (∃ message ∈ w.broker.dlq, message.value.Carries (p.message i record))
          ∨ Ignorable parsers record) := by
  intro w
  obtain ⟨⟨hkept, -⟩, -⟩ := monitor_sound.run schedule emptyPool_ok
    ((monitorSystem parsers p).admissible_true schedule _)
  have hrefines : Refines parsers w.broker.log w.database := hkept.inv
  refine ⟨hrefines.ran, hrefines.tables, hrefines.log_order, fun c hc i hi => ?_⟩
  obtain ⟨hlen, hhandled⟩ := hkept.committed c hc
  have hlt : i < w.broker.log.length := lt_of_lt_of_le hi hlen
  have hget : w.broker.log[i]? = some w.broker.log[i] := List.getElem?_eq_getElem hlt
  have hentry : Handled parsers p w i w.broker.log[i] := hhandled i _ hi hget
  refine ⟨w.broker.log[i], hget, ?_⟩
  unfold Handled at hentry
  cases hcommand : commandOf parsers w.broker.log[i] with
  | some command =>
      rw [hcommand] at hentry
      exact Or.inl ⟨rfl, lt_appliedEnd hentry⟩
  | none =>
      rw [hcommand] at hentry
      exact Or.inr hentry.symm

end Monitor
