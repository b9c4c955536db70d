import DeliveryIntelligence.Backfill.Storage
import DeliveryIntelligence.Library.Program

set_option autoImplicit false

/-!
# Backfill invocations

What both backfills share: the operations an invocation performs on its storage and on the
API (`BackfillOp`), the settings its constructor checks, and the system of any number of
invocations over one pair of tables and one fixed server. An exception of an operation is
never caught, so it ends the invocation like a crash does. The rules of the last section say
what a proof about an invocation has to show for each operation.
-/

namespace Backfill

open Datetime Postgres Program RawEvents

/-! ## Operations -/

/-- What an invocation does; `Request` are the requests of its API client. -/
inductive BackfillOp (Request : Type)
  | loadCheckpoint (key : BackfillRunKey)
  | persistPage (key : BackfillRunKey) (records : List BackfillRecord)
      (nextCursor : Option String) (completed : Bool)
  | request (request : Request)

def BackfillReply {Request : Type} : BackfillOp Request → Type
  | .loadCheckpoint _ => Except BackfillError (Option BackfillCheckpoint)
  | .persistPage _ _ _ _ => Except BackfillError PageWriteOutcome
  | .request _ => Except BackfillError Json

/-- A part of the code of a backfill. -/
abbrev Job (Request α : Type) :=
  Prog (BackfillOp Request) BackfillReply BackfillError α

namespace Job

variable {Request : Type}

def loadCheckpoint (key : BackfillRunKey) : Job Request (Option BackfillCheckpoint) :=
  Prog.perform (BackfillOp.loadCheckpoint key) >>= Prog.ofExcept

def persistPage (key : BackfillRunKey) (records : List BackfillRecord)
    (nextCursor : Option String) (completed : Bool) : Job Request PageWriteOutcome :=
  Prog.perform (BackfillOp.persistPage key records nextCursor completed) >>= Prog.ofExcept

/-- A request of the API client. -/
def request (request : Request) : Job Request Json :=
  Prog.perform (BackfillOp.request request) >>= Prog.ofExcept

end Job

/-! ## Settings -/

/-- `repository.split("/", maxsplit=1)` into two nonempty parts without a slash. -/
def ownerName (repository : String) : Option (String × String) :=
  match repository.toList.span fun c => c != '/' with
  | (owner, _ :: name) =>
      if owner.isEmpty || name.isEmpty || name.contains '/' then none
      else some (String.ofList owner, String.ofList name)
  | _ => none

/-- What one invocation is configured with, as both constructors check it. -/
structure Settings where
  owner : String
  name : String
  repository : String
  repositoryId : Int
  installationId : Int
  pageSize : Int
  parts : ownerName repository = some (owner, name)
  identities_pos : 0 < repositoryId ∧ 0 < installationId
  pageSize_range : 1 ≤ pageSize ∧ pageSize ≤ 100

/-- The `__init__` of both backfills; they differ in the message about the page size. -/
def Settings.init (pageSizeMessage repository : String)
    (repositoryId installationId pageSize : Int) : Except BackfillError Settings :=
  match hparts : ownerName repository with
  | none => .error (.valueError "repository must use owner/name form")
  | some (owner, name) =>
      if hid : 0 < repositoryId ∧ 0 < installationId then
        if hsize : 1 ≤ pageSize ∧ pageSize ≤ 100 then
          .ok ⟨owner, name, repository, repositoryId, installationId, pageSize, hparts, hid, hsize⟩
        else .error (.valueError pageSizeMessage)
      else .error (.valueError "repository and installation identities must be positive")

/-- The same configuration with another page size. -/
def Settings.withPageSize (settings : Settings) (pageSize : Int)
    (h : 1 ≤ pageSize ∧ pageSize ≤ 100) : Settings :=
  { settings with pageSize, pageSize_range := h }

theorem Settings.init_ok {settings configured : Settings} {message : String} {pageSize : Int}
    (h : Settings.init message settings.repository settings.repositoryId settings.installationId
      pageSize = .ok configured) :
    ∃ hsize, configured = settings.withPageSize pageSize hsize := by
  unfold Settings.init at h
  split at h
  · cases h
  · rename_i owner name hparts
    split at h
    · split at h
      · rename_i hsize
        have hsame : (owner, name) = (settings.owner, settings.name) := by
          rw [settings.parts] at hparts
          exact (Option.some.inj hparts).symm
        cases hsame
        cases h
        exact ⟨hsize, rfl⟩
      · cases h
    · cases h

/-! ## What is read from the API -/

/-- Functions of pydantic and of the Unicode tables of Python that the backfills call. -/
structure Readers where
  /-- `_AWARE_DATETIME.validate_python`, `none` for a `ValidationError` -/
  awareDatetime : Json → Option Aware
  /-- `str.lower` -/
  lower : String → String

/-- `container.get(name)`; a missing member and `null` are both `None`. -/
def getMember (container : Json) (name : String) : Json :=
  (container.member name).getD .null

/-- `isinstance(value, dict)` -/
def isObject : Json → Bool
  | .object _ => true
  | _ => false

/-- Whether a parsed value equals an integer in Python, where `True` equals 1. -/
def equalsInt (value : Json) (n : Int) : Bool :=
  match value with
  -- `1.0 == 1` holds as well.
  | .number mantissa scale => mantissa == n * 10 ^ scale
  | .bool b => (if b then 1 else 0) == n
  | _ => false

/-- Whether a parsed value equals a text. -/
def equalsText (value : Json) (s : String) : Bool :=
  match value with
  | .string t => t == s
  | _ => false

/-- A nonempty string member, as both backfills require it. -/
def nonemptyString (container : Json) (name : String) : Option String :=
  match getMember container name with
  | .string value => if value = "" then none else some value
  | _ => none

/-- `_payload` -/
def Settings.payload (settings : Settings) (resource : String) (node : Json) :
    List (String × Json) :=
  [ ("resource", .string resource)
  , ("repository", .object
      [("id", .number settings.repositoryId 0), ("full_name", .string settings.repository)])
  , (resource, node) ]

/-! ## The system -/

structure PageChoice where
  generated : Nat → Generated
  fault : Fault

/-- `persist_page` in its transaction. -/
def persistAct (key : BackfillRunKey) (records : List BackfillRecord)
    (nextCursor : Option String) (completed : Bool) (choice : PageChoice)
    (tables : BackfillTables) : Except BackfillError PageWriteOutcome × BackfillTables :=
  match persistPage choice.generated key records nextCursor completed tables, choice.fault with
  | .error e, _ => (.error e, tables)
  -- A lost connection tells the caller the same whether the commit arrived or not.
  | .ok _, .beforeCommit => (.error .external, tables)
  | .ok (_, tables'), .afterCommit => (.error .external, tables')
  | .ok (outcome, tables'), .none => (.ok outcome, tables')

/-- What other programs do to the raw table. -/
def otherInsert (row : RawEvent) (tables : BackfillTables) : BackfillTables :=
  match insertRow row tables.events with
  | .ok (events, _) => { tables with events }
  | .error _ => tables

section

variable {Request Local : Type}

/-- The outside world may let a load or a request fail (`some e`). -/
def BackfillChoice : BackfillOp Request → Type
  | .loadCheckpoint _ => Option BackfillError
  | .persistPage _ _ _ _ => PageChoice
  | .request _ => Option BackfillError

def backfillAct (respond : Request → Except BackfillError Json) :
    (op : BackfillOp Request) → BackfillChoice op → BackfillTables → Local →
      BackfillReply op × BackfillTables × Local
  | .loadCheckpoint _, some e, tables, l => (.error e, tables, l)
  | .loadCheckpoint key, none, tables, l => (.ok (loadCheckpoint key tables), tables, l)
  | .persistPage key records nextCursor completed, choice, tables, l =>
      let (reply, tables') := persistAct key records nextCursor completed choice tables
      (reply, tables', l)
  | .request _, some e, tables, l => (.error e, tables, l)
  | .request request, none, tables, l => (respond request, tables, l)

theorem backfillAct_local (respond : Request → Except BackfillError Json)
    (op : BackfillOp Request) (choice : BackfillChoice op) (tables : BackfillTables) (l : Local) :
    (backfillAct respond op choice tables l).2.2 = l := by
  cases op with
  | loadCheckpoint key => cases choice with
    | none => rfl
    | some e => rfl
  | persistPage key records nextCursor completed => rfl
  | request request => cases choice with
    | none => rfl
    | some e => rfl

/-- Any number of invocations against one server, started at any time. -/
def backfillSystem {Start : Type} (respond : Request → Except BackfillError Json)
    (start : Start → Job Request BackfillSummary × Local) :
    System (BackfillOp Request) BackfillReply BackfillError BackfillSummary BackfillTables
      Local where
  Choice := BackfillChoice
  act := backfillAct respond
  Disturbance := RawEvent
  disturb := otherInsert
  Start := Start
  start a _ := start a

/-- No row and no checkpoint. -/
def emptyTables : BackfillTables := ⟨∅, ∅⟩

/-! ## A repository in January 2026 -/

/-- The readers on the texts of `acme/api`. -/
def sampleReaders : Readers where
  awareDatetime value :=
    if equalsText value "2026-01-05T00:00:00Z" then some ⟨20458 * microsPerDay, 0⟩
    else if equalsText value "2026-01-06T00:00:00Z" then some ⟨20459 * microsPerDay, 0⟩
    else none
  lower s := String.ofList (s.toList.map Char.toLower)

def sampleSettings : Settings where
  owner := "acme"
  name := "api"
  repository := "acme/api"
  repositoryId := 7
  installationId := 9
  pageSize := 1
  parts := by decide
  identities_pos := by decide
  pageSize_range := by decide

/-- January 2026. -/
def sampleWindow : Window := ⟨⟨20454 * microsPerDay, 0⟩, ⟨20485 * microsPerDay, 0⟩⟩

/-- No operation fails; the identities of new rows start at `firstId`. -/
def smoothly {Request : Type} (firstId : Nat) : (op : BackfillOp Request) → BackfillChoice op
  | .loadCheckpoint _ => none
  | .persistPage _ _ _ _ => ⟨fun n => ⟨firstId + n, 0⟩, .none⟩
  | .request _ => none

/-! ## Rules -/

/-- Invocations keep `inv` and only add raw rows. -/
def backfillContract (inv : BackfillTables → Prop)
    (guard : BackfillOp Request → BackfillTables → Local → Prop) :
    Contract (BackfillOp Request) BackfillTables Local where
  inv := inv
  ext tables tables' := Extends tables.events tables'.events
  guard := guard

variable {Start β : Type} {respond : Request → Except BackfillError Json}
  {start : Start → Job Request BackfillSummary × Local} {inv : BackfillTables → Prop}
  {guard : BackfillOp Request → BackfillTables → Local → Prop}
  {post : β → BackfillTables → Local → Prop} {tables : BackfillTables} {l : Local}

/-- The program keeps the contract in the world of the invocations. -/
abbrev JobKeeps (respond : Request → Except BackfillError Json)
    (start : Start → Job Request BackfillSummary × Local) (inv : BackfillTables → Prop)
    (guard : BackfillOp Request → BackfillTables → Local → Prop)
    (post : β → BackfillTables → Local → Prop) (prog : Job Request β) (tables : BackfillTables)
    (l : Local) : Prop :=
  Ok (backfillSystem respond start) (backfillContract inv guard) post prog tables l

theorem jobKeeps_ofExcept {γ : Type} {x : Except BackfillError γ} {f : γ → Job Request β}
    (h : ∀ c, x = .ok c → JobKeeps respond start inv guard post (f c) tables l) :
    JobKeeps respond start inv guard post (Prog.ofExcept x >>= f) tables l := by
  cases x with
  | error e => trivial
  | ok c => exact h c rfl

theorem jobKeeps_load {key : BackfillRunKey}
    {f : Option BackfillCheckpoint → Job Request β}
    (h : ∀ tables', Extends tables.events tables'.events → inv tables' →
      guard (.loadCheckpoint key) tables' l →
      JobKeeps respond start inv guard post (f (loadCheckpoint key tables')) tables' l) :
    JobKeeps respond start inv guard post (Job.loadCheckpoint key >>= f) tables l := by
  intro tables' hext hinv hguard choice
  cases choice with
  | some e => exact ⟨hinv, Extends.refl _, trivial⟩
  | none => exact ⟨hinv, Extends.refl _, h tables' hext hinv hguard⟩

theorem jobKeeps_request {request : Request} {f : Json → Job Request β}
    (h : ∀ tables' json, Extends tables.events tables'.events → inv tables' →
      respond request = .ok json → JobKeeps respond start inv guard post (f json) tables' l) :
    JobKeeps respond start inv guard post (Job.request request >>= f) tables l := by
  intro tables' hext hinv _ choice
  cases choice with
  | some e => exact ⟨hinv, Extends.refl _, trivial⟩
  | none =>
      refine ⟨hinv, Extends.refl _, ?_⟩
      show JobKeeps respond start inv guard post (Prog.ofExcept (respond request) >>= f) tables' l
      exact jobKeeps_ofExcept fun json hjson => h tables' json hext hinv hjson

/-- A transaction that does not commit keeps the tables; one that commits does what
`PageCommitted` says. -/
theorem persistAct_cases (key : BackfillRunKey) (records : List BackfillRecord)
    (nextCursor : Option String) (completed : Bool) (choice : PageChoice)
    (tables : BackfillTables) :
    (∃ e, persistAct key records nextCursor completed choice tables = (.error e, tables))
    ∨ ∃ reply tables', persistAct key records nextCursor completed choice tables = (reply, tables')
        ∧ PageCommitted key records nextCursor completed tables tables' := by
  unfold persistAct
  cases hpage : persistPage choice.generated key records nextCursor completed tables with
  | error e => exact Or.inl ⟨e, rfl⟩
  | ok result =>
      obtain ⟨outcome, tables'⟩ := result
      have hcommitted := persistPage_ok hpage
      cases choice.fault with
      | none => exact Or.inr ⟨_, _, rfl, hcommitted⟩
      | beforeCommit => exact Or.inl ⟨_, rfl⟩
      | afterCommit => exact Or.inr ⟨_, _, rfl, hcommitted⟩

theorem jobKeeps_persist {key : BackfillRunKey} {records : List BackfillRecord}
    {nextCursor : Option String} {completed : Bool} {f : PageWriteOutcome → Job Request β}
    (hinv : ∀ before after, Extends tables.events before.events → inv before →
      PageCommitted key records nextCursor completed before after → inv after)
    (h : ∀ outcome tables', Extends tables.events tables'.events → inv tables' →
      (∀ record ∈ records, Stored tables'.events record) →
      JobKeeps respond start inv guard post (f outcome) tables' l) :
    JobKeeps respond start inv guard post
      (Job.persistPage key records nextCursor completed >>= f) tables l := by
  intro before hext hbefore _ choice
  show inv (persistAct key records nextCursor completed choice before).2
    ∧ Extends before.events (persistAct key records nextCursor completed choice before).2.events
    ∧ JobKeeps respond start inv guard post
        (Prog.ofExcept (persistAct key records nextCursor completed choice before).1 >>= f)
        (persistAct key records nextCursor completed choice before).2 l
  rcases persistAct_cases key records nextCursor completed choice before with
    ⟨e, hact⟩ | ⟨reply, after, hact, hcommitted⟩
  · rw [hact]
    exact ⟨hbefore, Extends.refl _, trivial⟩
  · rw [hact]
    -- Even if the reply is an error, the page is committed.
    have hafter := hinv before after hext hbefore hcommitted
    refine ⟨hafter, hcommitted.events, jobKeeps_ofExcept fun outcome _ => ?_⟩
    exact h outcome after (hext.trans hcommitted.events) hafter hcommitted.stored

theorem jobKeeps_bind {γ : Type} {mid : γ → BackfillTables → Local → Prop} {prog : Job Request γ}
    {f : γ → Job Request β} (hinv : inv tables)
    (hprog : JobKeeps respond start inv guard mid prog tables l)
    (hf : ∀ c tables' l', Extends tables.events tables'.events → inv tables' → mid c tables' l' →
      JobKeeps respond start inv guard post (f c) tables' l') :
    JobKeeps respond start inv guard post (prog >>= f) tables l :=
  Ok.bind (fun _ => Extends.refl _) (fun _ _ _ => Extends.trans) hprog hf hinv

/-- The system is sound once every started invocation keeps the contract and more raw rows do
not break the invariant. -/
theorem backfill_sound
    (hevents : ∀ tables events, Extends tables.events events → inv tables →
      inv { tables with events })
    (hstart : ∀ a tables, inv tables →
      JobKeeps respond start inv guard (fun _ _ _ => True) (start a).1 tables (start a).2) :
    (backfillSystem respond start).Sound (backfillContract inv guard) where
  refl _ := Extends.refl _
  trans _ _ _ := Extends.trans
  start a tables := hstart a tables
  disturb row tables hinv := by
    show inv (otherInsert row tables) ∧ Extends tables.events (otherInsert row tables).events
    unfold otherInsert
    split
    · rename_i events returned hins
      exact ⟨hevents _ _ (insertRow_ok hins).1 hinv, (insertRow_ok hins).1⟩
    · exact ⟨hinv, Extends.refl _⟩

end

end Backfill
