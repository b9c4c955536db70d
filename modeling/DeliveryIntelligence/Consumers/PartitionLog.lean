import DeliveryIntelligence.Consumers.Worker

set_option autoImplicit false

/-!
# What appends to the partition

No operation of an instance does, whatever its database: the log grows by the producers alone,
and every consumer group of a topic reads the same one.
-/

namespace Consumers

open Program

section

variable {Storage : Type} {reply : Storage → Type} {D A : Type} {p : Partition}
  {db : Database Storage reply D} {program : A → Worker reply Unit}

/-- The entry of a schedule appends to the partition. -/
def appends : (workerSystem p db program).Event → Bool
  | .disturb (.append _) => true
  | _ => false

/-- The schedule that appends these records. -/
def appendAll (p : Partition) (db : Database Storage reply D) (program : A → Worker reply Unit)
    (records : List Record) : List (workerSystem p db program).Event :=
  records.map fun record => .disturb (.append record)

theorem log_appendAll (records : List Record) (pool : (workerSystem p db program).Pool) :
    ((workerSystem p db program).run (appendAll p db program records) pool).shared.broker.log
      = pool.shared.broker.log ++ records := by
  induction records generalizing pool with
  | nil => exact (List.append_nil _).symm
  | cons record records ih =>
      show ((workerSystem p db program).run (appendAll p db program records)
        ((workerSystem p db program).step (.disturb (.append record)) pool)).shared.broker.log = _
      rw [ih]
      exact List.append_assoc _ [record] records

/-- No operation of an instance appends. -/
theorem log_workerAct (op : WorkerOp Storage) (choice : WorkerChoice db op) (w : World D)
    (inst : Instance) : (workerAct p db op choice w inst).2.1.broker.log = w.broker.log := by
  cases op with
  | poll timeout =>
      show (pollAct p choice w inst).2.1.broker.log = _
      unfold pollAct
      cases choice with
      | next => cases w.broker.log[inst.position]? <;> rfl
      | timeout => rfl
      | errorEvent error => rfl
      | raises => rfl
  | clock => rfl
  | monotonic => rfl
  | produce message =>
      show (produceAct message choice w inst).2.1.broker.log = _
      unfold produceAct
      cases choice <;> rfl
  | pollProducer timeout =>
      show (pollProducerAct choice w inst).2.1.broker.log = _
      unfold pollProducerAct
      cases choice <;> cases inst.queued <;> rfl
  | storage op => rfl
  | afterDatabaseCommit => rfl
  | commit message =>
      show (commitAct message choice w).broker.log = _
      unfold commitAct
      cases message.offset with
      | none => rfl
      | some offset =>
          dsimp only
          by_cases heffect : choice.takesEffect
          · rw [if_pos heffect]
          · rw [if_neg heffect]

theorem log_of_quiet {e : (workerSystem p db program).Event} (quiet : appends e = false)
    (pool : (workerSystem p db program).Pool) :
    ((workerSystem p db program).step e pool).shared.broker.log = pool.shared.broker.log := by
  cases e with
  | start a => rfl
  | stop i => rfl
  | act i choice =>
      by_cases hcall : ∃ op k l, pool.threads[i]? = some (.call op k, l)
      · obtain ⟨op, k, l, hget⟩ := hcall
        rw [System.step_act _ hget]
        exact log_workerAct op (choice op) pool.shared l
      · rw [System.step_act_idle _ fun op k l hget => hcall ⟨op, k, l, hget⟩]
  | disturb d =>
      cases d with
      | append record => cases quiet
      | lateDeadLetter message => rfl
      | database d => rfl

end

end Consumers
