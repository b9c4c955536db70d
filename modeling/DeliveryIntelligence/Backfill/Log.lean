import DeliveryIntelligence.Backfill.Process
import DeliveryIntelligence.Library.Trace

set_option autoImplicit false

/-!
# Logs of an invocation

One invocation seen from outside: the operations it performed on its storage and its API client,
each with the reply it got. `Answered` says what an operation does to the tables, whatever the
server answers to a request; the `ends` lemmas are the rules of `Library/Trace` for the three
operations.
-/

namespace Backfill

open Program

variable {Request β : Type}

abbrev BackfillExchange (Request : Type) := Exchange (BackfillOp Request) BackfillReply

abbrev BackfillLog (Request : Type) := List (BackfillExchange Request)

/-- The requests of a log with their replies. -/
def requests (log : BackfillLog Request) : List (Request × Except BackfillError Json) :=
  log.filterMap fun exchange =>
    match exchange with
    | ⟨.request request, reply⟩ => some (request, reply)
    | _ => none

/-- The documents the server answered with. -/
def responses (log : BackfillLog Request) : List Json :=
  (requests log).filterMap fun exchange => exchange.2.toOption

section

variable {log : BackfillLog Request}

@[simp] theorem requests_request (request : Request) (reply : Except BackfillError Json) :
    requests (⟨.request request, reply⟩ :: log) = (request, reply) :: requests log := rfl

@[simp] theorem requests_load (key : BackfillRunKey)
    (reply : Except BackfillError (Option BackfillCheckpoint)) :
    requests (⟨.loadCheckpoint key, reply⟩ :: log) = requests log := rfl

@[simp] theorem requests_persist (key : BackfillRunKey) (records : List BackfillRecord)
    (nextCursor : Option String) (completed : Bool)
    (reply : Except BackfillError PageWriteOutcome) :
    requests (⟨.persistPage key records nextCursor completed, reply⟩ :: log) = requests log := rfl

@[simp] theorem responses_request (request : Request) (payload : Json) :
    responses (⟨.request request, .ok payload⟩ :: log) = payload :: responses log := rfl

@[simp] theorem responses_load (key : BackfillRunKey)
    (reply : Except BackfillError (Option BackfillCheckpoint)) :
    responses (⟨.loadCheckpoint key, reply⟩ :: log) = responses log := rfl

@[simp] theorem responses_persist (key : BackfillRunKey) (records : List BackfillRecord)
    (nextCursor : Option String) (completed : Bool)
    (reply : Except BackfillError PageWriteOutcome) :
    responses (⟨.persistPage key records nextCursor completed, reply⟩ :: log) = responses log := rfl

end

/-- No operation of the storage or of the client failed. -/
def Undisturbed (log : BackfillLog Request) : Prop :=
  ∀ exchange ∈ log,
    match exchange with
    | ⟨.loadCheckpoint _, reply⟩ => ∃ checkpoint, reply = .ok checkpoint
    | ⟨.persistPage _ _ _ _, reply⟩ => ∃ outcome, reply = .ok outcome
    | ⟨.request _, reply⟩ => ∃ payload, reply = .ok payload

theorem Undisturbed.rest {exchange : BackfillExchange Request} {log : BackfillLog Request}
    (h : Undisturbed (exchange :: log)) : Undisturbed log :=
  fun other hother => h other (List.mem_cons_of_mem _ hother)

/-- What one exchange does to the tables; any answer of the server is possible. -/
def Answered (exchange : BackfillExchange Request) (tables tables' : BackfillTables) : Prop :=
  ∃ respond choice, backfillAct respond exchange.1 choice tables () = (exchange.2, tables', ())

/-- The invocation ran with this log and left these tables. -/
abbrev Served (tables : BackfillTables) (log : BackfillLog Request) (tables' : BackfillTables) :
    Prop :=
  Serves Answered tables log tables'

/-! ## What each exchange does -/

theorem answered_request {request : Request} {reply : Except BackfillError Json}
    {tables tables' : BackfillTables} (h : Answered ⟨.request request, reply⟩ tables tables') :
    tables' = tables := by
  obtain ⟨respond, choice, hact⟩ := h
  cases choice with
  | none => exact (congrArg (·.2.1) hact).symm
  | some e => exact (congrArg (·.2.1) hact).symm

theorem answered_load {key : BackfillRunKey}
    {reply : Except BackfillError (Option BackfillCheckpoint)} {tables tables' : BackfillTables}
    (h : Answered (⟨.loadCheckpoint key, reply⟩ : BackfillExchange Request) tables tables') :
    tables' = tables ∧ ∀ checkpoint, reply = .ok checkpoint →
      checkpoint = loadCheckpoint key tables := by
  obtain ⟨respond, choice, hact⟩ := h
  cases choice with
  | some e =>
      have hreply : .error e = reply := congrArg (·.1) hact
      refine ⟨(congrArg (·.2.1) hact).symm, fun checkpoint hok => ?_⟩
      rw [hok] at hreply
      cases hreply
  | none =>
      have hreply : .ok (loadCheckpoint key tables) = reply := congrArg (·.1) hact
      refine ⟨(congrArg (·.2.1) hact).symm, fun checkpoint hok => ?_⟩
      rw [hok] at hreply
      exact (Except.ok.inj hreply).symm

theorem answered_persist {key : BackfillRunKey} {records : List BackfillRecord}
    {nextCursor : Option String} {completed : Bool} {reply : Except BackfillError PageWriteOutcome}
    {tables tables' : BackfillTables}
    (h : Answered
      (⟨.persistPage key records nextCursor completed, reply⟩ : BackfillExchange Request)
      tables tables') :
    ∃ choice, persistAct key records nextCursor completed choice tables = (reply, tables') := by
  obtain ⟨respond, choice, hact⟩ := h
  exact ⟨choice, Prod.ext (congrArg (·.1) hact) (congrArg (·.2.1) hact)⟩

/-- A call that returned an outcome has committed its page. -/
theorem pageCommitted_of_answered {key : BackfillRunKey} {records : List BackfillRecord}
    {nextCursor : Option String} {completed : Bool} {outcome : PageWriteOutcome}
    {tables tables' : BackfillTables}
    (h : Answered
      (⟨.persistPage key records nextCursor completed, .ok outcome⟩ : BackfillExchange Request)
      tables tables') :
    PageCommitted key records nextCursor completed tables tables' := by
  obtain ⟨choice, hact⟩ := answered_persist h
  rcases persistAct_cases key records nextCursor completed choice tables with
    ⟨e, herror⟩ | ⟨reply, after, hreply, hcommitted⟩
  · rw [hact] at herror
    cases herror
  · rw [hact] at hreply
    cases hreply
    exact hcommitted

/-- `persist_page` raises no `RestDataError`. -/
theorem persist_ne_restDataError {key : BackfillRunKey} {records : List BackfillRecord}
    {nextCursor : Option String} {completed : Bool} {message : String}
    {tables tables' : BackfillTables}
    (h : Answered (⟨.persistPage key records nextCursor completed,
      .error (.restDataError message)⟩ : BackfillExchange Request) tables tables') : False := by
  obtain ⟨choice, hact⟩ := answered_persist h
  have hreply : (persistAct key records nextCursor completed choice tables).1
      = .error (.restDataError message) := by rw [hact]
  unfold persistAct at hreply
  split at hreply
  · rename_i e hpage
    cases hreply
    rcases persistPage_error hpage with ⟨_, he⟩ | ⟨_, he⟩ | ⟨_, he⟩
    · cases he
    · cases he
    · cases he
  · cases hreply
  · cases hreply
  · cases hreply

/-! ## Rules -/

section

variable {log : BackfillLog Request} {result : Except BackfillError β}

theorem ends_load {key : BackfillRunKey} {f : Option BackfillCheckpoint → Job Request β}
    (h : Ends log (Job.loadCheckpoint key >>= f) result) :
    ∃ reply rest, log = ⟨.loadCheckpoint key, reply⟩ :: rest
      ∧ Ends rest (Prog.ofExcept reply >>= f) result := by
  obtain ⟨reply, rest, rfl, hrest⟩ := ends_perform_bind_iff.mp
    (show Ends log (Prog.perform (BackfillOp.loadCheckpoint key) >>= fun reply =>
      Prog.ofExcept reply >>= f) result from h)
  exact ⟨reply, rest, rfl, hrest⟩

theorem ends_request {request : Request} {f : Json → Job Request β}
    (h : Ends log (Job.request request >>= f) result) :
    ∃ reply rest, log = ⟨.request request, reply⟩ :: rest
      ∧ Ends rest (Prog.ofExcept reply >>= f) result := by
  obtain ⟨reply, rest, rfl, hrest⟩ := ends_perform_bind_iff.mp
    (show Ends log (Prog.perform (BackfillOp.request request) >>= fun reply =>
      Prog.ofExcept reply >>= f) result from h)
  exact ⟨reply, rest, rfl, hrest⟩

theorem ends_persist {key : BackfillRunKey} {records : List BackfillRecord}
    {nextCursor : Option String} {completed : Bool} {f : PageWriteOutcome → Job Request β}
    (h : Ends log (Job.persistPage key records nextCursor completed >>= f) result) :
    ∃ reply rest, log = ⟨.persistPage key records nextCursor completed, reply⟩ :: rest
      ∧ Ends rest (Prog.ofExcept reply >>= f) result := by
  obtain ⟨reply, rest, rfl, hrest⟩ := ends_perform_bind_iff.mp
    (show Ends log (Prog.perform (BackfillOp.persistPage key records nextCursor completed)
      >>= fun reply => Prog.ofExcept reply >>= f) result from h)
  exact ⟨reply, rest, rfl, hrest⟩

end

/-! ## An invocation that nothing disturbs -/

/-- No operation fails; a new row gets the number behind those of the table. -/
def quietChoice (tables : BackfillTables) : PageChoice :=
  ⟨fun n => ⟨tables.events.entries.length + 1 + n, 0⟩, .none⟩

/-- Operations against a server that nothing disturbs. -/
def quietAct (respond : Request → Except BackfillError Json) (op : BackfillOp Request)
    (tables : BackfillTables) : BackfillReply op × BackfillTables :=
  match op with
  | .loadCheckpoint key => (.ok (loadCheckpoint key tables), tables)
  | .persistPage key records nextCursor completed =>
      persistAct key records nextCursor completed (quietChoice tables) tables
  | .request request => (respond request, tables)

theorem answered_quietAct (respond : Request → Except BackfillError Json)
    (op : BackfillOp Request) (tables : BackfillTables) :
    Answered ⟨op, (quietAct respond op tables).1⟩ tables (quietAct respond op tables).2 := by
  cases op with
  | loadCheckpoint key => exact ⟨respond, none, rfl⟩
  | persistPage key records nextCursor completed => exact ⟨respond, quietChoice tables, rfl⟩
  | request request => exact ⟨respond, none, rfl⟩

end Backfill
