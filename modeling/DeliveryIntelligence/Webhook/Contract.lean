import DeliveryIntelligence.Common.JsonSchema
import DeliveryIntelligence.Webhook.Models

set_option autoImplicit false

/-!
# The checked-in schema and the model

`schemas/github-event-envelope-v1.json` and `GitHubEventEnvelope` as two definitions of one
contract. The model converts where the schema compares, strips where the schema counts, and
has a default where the schema requires a member; on the documents that use none of this
(`Plain`) they accept the same.
-/

namespace Webhook

open Consumers Datetime Pydantic

/-! ## The schema -/

/-- What `re.search` finds of `^[^/\s]+/[^/\s]+$`: `$` also stands before a final newline. -/
def searchFullName (s : List Char) : Bool :=
  matchesFullName Python.isSpace s
    || (s.getLast? == some '\n' && matchesFullName Python.isSpace s.dropLast)

/-- `schemas/github-event-envelope-v1.json`, by the check for `date-time`. -/
def envelopeSchema (dateTime : List Char → Bool) : JsonSchema.ObjectSchema where
  required := fieldNames
  properties :=
    [ ("schema_version", [.const (.number 1 0)])
    , ("delivery_id", [.type .string, .minLength 1])
    , ("event_name", [.type .string, .enum
        [ .string "pull_request", .string "pull_request_review", .string "workflow_run"
        , .string "deployment", .string "deployment_status" ]])
    , ("action", [.type .string, .minLength 1])
    , ("installation_id", [.type .integer, .minimum 1])
    , ("repository_id", [.type .integer, .minimum 1])
    , ("repository_full_name", [.type .string, .pattern searchFullName])
    , ("received_at", [.type .string, .format dateTime])
    , ("payload", [.type .object]) ]

/-! ## What the two run on -/

/-- The format check of the schema's validator, and the conversions and the JSON reader of
pydantic. -/
structure Validators where
  dateTime : List Char → Bool
  lax : Lax
  /-- whether the serialization of a document is read -/
  reads : Json → Bool
  /-- the levels of nesting the reader counts in a document -/
  nesting : Json → Nat
  nestingLimit : Nat

/-- `model_validate_json` on the serialization of a document. -/
def Validators.modelValidateJson (validators : Validators) (document : Json) :
    Option (Envelope Members) :=
  if validators.reads document then modelValidate validators.lax document else none

/-- A text both readers of `received_at` reject: a date and time without an offset or with a part
that is out of range, or no digit anywhere. -/
def undated (s : String) : Bool :=
  Rfc3339.isMisdated s.toList || !s.toList.any Char.isDigit

/-- A date and time is converted from a text or a number. -/
def undatable : Json → Bool
  | .string _ => false
  | .number _ _ => false
  | .nonFinite _ => false
  | _ => true

/-- What the libraries promise: both readers take the date-times of RFC 3339 and reject a text
without an offset, with a part out of range or without a digit, a datetime is converted from texts
and numbers only, and what is printable and not nested too deeply is read. -/
structure Validators.Documented (validators : Validators) : Prop where
  checked : ∀ s : String, Rfc3339.isDateTime s.toList = true → validators.dateTime s.toList = true
  unchecked : ∀ s : String, undated s = true → validators.dateTime s.toList = false
  converted : ∀ s : String, Rfc3339.isDateTime s.toList = true →
    (validators.lax.awareDatetime (.string s)).isSome = true
  unconverted : ∀ s : String, undated s = true → validators.lax.awareDatetime (.string s) = none
  undatable : ∀ v, undatable v = true → validators.lax.awareDatetime v = none
  reads : ∀ document, document.printable = true →
    validators.nesting document ≤ validators.nestingLimit → validators.reads document = true

/-! ## Plain documents -/

/-- The value has none of the types an `int` is converted from. -/
def unconverted : Json → Bool
  | .number _ 0 => true
  | .number _ _ => false
  | .bool _ => false
  | .string _ => false
  | _ => true

/-- The text is empty or has more than white space. -/
def notBlank (s : String) : Prop := s = "" ∨ strip s ≠ ""

/-- No white space around the text, and no character that only one of the two regular
expression engines takes for white space. -/
def plainName (s : String) : Prop :=
  Stripped s ∧ ∀ c ∈ s.toList, Python.isSpace c = isWhiteSpace c

instance (s : String) : Decidable (plainName s) :=
  decidable_of_iff (Stripped s
      ∧ s.toList.all (fun c => Python.isSpace c == isWhiteSpace c) = true) (by
    unfold plainName
    simp only [List.all_eq_true, beq_iff_eq])

/-- A date-time of RFC 3339, or a value that is none for either reader. -/
def plainDateTime : Json → Bool
  | .string s => Rfc3339.isDateTime s.toList || undated s
  | v => undatable v

structure Plain (validators : Validators) (document : Json) : Prop where
  version : ∃ v, document.member "schema_version" = some v
    ∧ ((∃ s, v = .string s) ∨ unconverted v = true)
  texts : ∀ name ∈ ["delivery_id", "action"], ∀ s,
    document.member name = some (.string s) → notBlank s
  ids : ∀ name ∈ ["installation_id", "repository_id"], ∀ v,
    document.member name = some v → unconverted v = true
  name : ∀ s, document.member "repository_full_name" = some (.string s) → plainName s
  receivedAt : ∀ v, document.member "received_at" = some v → plainDateTime v = true
  /-- every integer of the document is within Python's limit on digits -/
  printable : document.printable = true
  nesting : validators.nesting document ≤ validators.nestingLimit

/-! ## The two as lists of conditions -/

/-- The keywords of a property on a member that may be missing. -/
def admits (keywords : List JsonSchema.Keyword) (value : Option Json) : Bool :=
  value.any fun v => keywords.all fun keyword => keyword.accepts v

variable (dateTime : List Char → Bool)

theorem required_eq :
    (envelopeSchema dateTime).required = (envelopeSchema dateTime).properties.map Prod.fst := rfl

theorem mem_fieldNames (name : String) :
    ((envelopeSchema dateTime).properties.any fun property => property.1 == name)
      = fieldNames.contains name := by
  show _ = ((envelopeSchema dateTime).properties.map Prod.fst).contains name
  rw [Bool.eq_iff_iff, List.any_eq_true, List.contains_iff_mem, List.mem_map]
  simp only [beq_iff_eq]

/-- The schema requires every property and admits no other member. -/
theorem schema_accepts_iff (document : Json) :
    (envelopeSchema dateTime).accepts document = true ↔
      noExtraFields document = true
      ∧ ∀ property ∈ (envelopeSchema dateTime).properties,
          admits property.2 (document.member property.1) = true := by
  cases document with
  | object members =>
      have hmember : ∀ property : String × List JsonSchema.Keyword,
          admits property.2 ((Json.object members).member property.1) = true
            ↔ ((Json.object members).member property.1).isSome = true
              ∧ (((Json.object members).member property.1).all fun value =>
                property.2.all fun keyword => keyword.accepts value) = true := by
        intro property
        cases (Json.object members).member property.1 with
        | none => simp [admits]
        | some value => simp [admits]
      unfold JsonSchema.ObjectSchema.accepts noExtraFields
      simp only [required_eq, mem_fieldNames, Bool.and_eq_true, List.all_map, List.all_eq_true,
        hmember, Function.comp]
      constructor
      · rintro ⟨⟨hrequired, hextra⟩, hproperties⟩
        exact ⟨hextra, fun property hp => ⟨hrequired property hp, hproperties property hp⟩⟩
      · rintro ⟨hextra, hall⟩
        exact ⟨⟨fun property hp => (hall property hp).1, hextra⟩,
          fun property hp => (hall property hp).2⟩
  | null => exact iff_of_false Bool.false_ne_true fun h => Bool.false_ne_true h.1
  | bool b => exact iff_of_false Bool.false_ne_true fun h => Bool.false_ne_true h.1
  | number m n => exact iff_of_false Bool.false_ne_true fun h => Bool.false_ne_true h.1
  | nonFinite w => exact iff_of_false Bool.false_ne_true fun h => Bool.false_ne_true h.1
  | string t => exact iff_of_false Bool.false_ne_true fun h => Bool.false_ne_true h.1
  | array items => exact iff_of_false Bool.false_ne_true fun h => Bool.false_ne_true h.1

/-- A step whose result later steps only pass on. -/
theorem isSome_bind {α β : Type} {x : Option α} {f : α → Option β} {P : Prop}
    (h : ∀ a, (f a).isSome = true ↔ P) :
    (x >>= f).isSome = true ↔ x.isSome = true ∧ P := by
  cases x with
  | none => exact iff_of_false Bool.false_ne_true fun h => Bool.false_ne_true h.1
  | some a => exact (h a).trans ⟨fun hP => ⟨rfl, hP⟩, And.right⟩

/-- The model accepts a document exactly when it accepts each field. -/
theorem modelValidate_isSome_iff (lax : Lax) (document : Json) :
    (modelValidate lax document).isSome = true ↔
      (noExtraFields document = true ∧ schemaVersionOne lax document = true)
      ∧ (field document "delivery_id" fun v => textOf v >>= NonEmptyString.validate).isSome = true
      ∧ (field document "event_name" fun v => textOf v >>= eventNameOfText).isSome = true
      ∧ (field document "action" fun v => textOf v >>= NonEmptyString.validate).isSome = true
      ∧ (field document "installation_id" (positiveInt lax)).isSome = true
      ∧ (field document "repository_id" (positiveInt lax)).isSome = true
      ∧ (field document "repository_full_name" fun v =>
          textOf v >>= RepositoryFullName.validate).isSome = true
      ∧ (field document "received_at" lax.awareDatetime).isSome = true
      ∧ (field document "payload" objectOf).isSome = true := by
  have hguard : ∀ b : Bool, (guard b : Option Unit).isSome = b := by
    intro b
    cases b <;> rfl
  have hlast : ∀ e : Members → Envelope Members,
      (field document "payload" objectOf >>= fun payload => some (e payload)).isSome = true
        ↔ (field document "payload" objectOf).isSome = true := by
    intro e
    exact (isSome_bind (P := True) fun _ => iff_of_true rfl trivial).trans
      ⟨And.left, fun h => ⟨h, trivial⟩⟩
  rw [← Bool.and_eq_true, ← hguard (noExtraFields document && schemaVersionOne lax document)]
  exact isSome_bind fun _ => isSome_bind fun deliveryId => isSome_bind fun eventName =>
    isSome_bind fun action => isSome_bind fun installationId => isSome_bind fun repositoryId =>
    isSome_bind fun name => isSome_bind fun receivedAt =>
    hlast (Envelope.mk deliveryId eventName action installationId repositoryId name receivedAt)

/-! ## Field by field -/

theorem field_isSome_iff {α : Type} {document : Json} {name : String} {read : Json → Option α} :
    (field document name read).isSome = true
      ↔ ∃ v, document.member name = some v ∧ (read v).isSome = true := by
  unfold field
  cases document.member name with
  | none => simp
  | some v => simp

theorem admits_iff {keywords : List JsonSchema.Keyword} {value : Option Json} :
    admits keywords value = true
      ↔ ∃ v, value = some v ∧ ∀ keyword ∈ keywords, keyword.accepts v = true := by
  cases value with
  | none => simp [admits]
  | some v => simp [admits]

/-- The readers of a property agree wherever they agree on its value. -/
theorem admits_iff_field {α : Type} {document : Json} {name : String} {read : Json → Option α}
    {keywords : List JsonSchema.Keyword}
    (h : ∀ v, document.member name = some v →
      ((∀ keyword ∈ keywords, keyword.accepts v = true) ↔ (read v).isSome = true)) :
    admits keywords (document.member name) = true
      ↔ (field document name read).isSome = true := by
  rw [admits_iff, field_isSome_iff]
  constructor
  · rintro ⟨v, hv, hall⟩
    exact ⟨v, hv, (h v hv).mp hall⟩
  · rintro ⟨v, hv, hread⟩
    exact ⟨v, hv, (h v hv).mpr hread⟩

/-- A property of type `string` that the model reads as text. -/
theorem string_agrees {α : Type} {v : Json} {keywords : List JsonSchema.Keyword}
    {read : String → Option α}
    (h : ∀ s, v = .string s →
      ((∀ keyword ∈ keywords, keyword.accepts (.string s) = true) ↔ (read s).isSome = true)) :
    (∀ keyword ∈ JsonSchema.Keyword.type .string :: keywords, keyword.accepts v = true)
      ↔ (textOf v >>= read).isSome = true := by
  rw [List.forall_mem_cons]
  cases v with
  | string s =>
      constructor
      · rintro ⟨-, hall⟩
        exact (h s rfl).mp hall
      · intro hread
        exact ⟨rfl, (h s rfl).mpr hread⟩
  | null => exact iff_of_false (fun h => Bool.false_ne_true h.1) Bool.false_ne_true
  | bool b => exact iff_of_false (fun h => Bool.false_ne_true h.1) Bool.false_ne_true
  | number m n => exact iff_of_false (fun h => Bool.false_ne_true h.1) Bool.false_ne_true
  | nonFinite w => exact iff_of_false (fun h => Bool.false_ne_true h.1) Bool.false_ne_true
  | array items => exact iff_of_false (fun h => Bool.false_ne_true h.1) Bool.false_ne_true
  | object members => exact iff_of_false (fun h => Bool.false_ne_true h.1) Bool.false_ne_true

theorem isSome_dite {α : Type} {p : Prop} [Decidable p] {a : p → α} :
    (if h : p then some (a h) else none).isSome = true ↔ p := by
  split
  · exact iff_of_true rfl ‹_›
  · exact iff_of_false Bool.false_ne_true ‹_›

/-- `minLength` counts what `strip_whitespace` may remove. -/
theorem text_agrees {s : String} (h : notBlank s) :
    (∀ keyword ∈ [JsonSchema.Keyword.minLength 1], keyword.accepts (.string s) = true)
      ↔ (NonEmptyString.validate s).isSome = true := by
  have hlength : (JsonSchema.Keyword.minLength 1).accepts (.string s) = true ↔ s ≠ "" := by
    show decide (1 ≤ s.toList.length) = true ↔ _
    rw [decide_eq_true_eq, Nat.one_le_iff_ne_zero, Ne, List.length_eq_zero_iff,
      String.toList_eq_nil_iff]
  have hvalid : (NonEmptyString.validate s).isSome = true ↔ strip s ≠ "" := isSome_dite
  rw [List.forall_mem_singleton, hlength, hvalid]
  rcases h with rfl | hne
  · exact iff_of_false (fun hne => hne rfl) fun hne => hne (by decide)
  · refine iff_of_true ?_ hne
    rintro rfl
    exact hne (by decide)

theorem eventName_agrees (s : String) :
    (∀ keyword ∈ [JsonSchema.Keyword.enum
        [ .string "pull_request", .string "pull_request_review", .string "workflow_run"
        , .string "deployment", .string "deployment_status" ]],
        keyword.accepts (.string s) = true)
      ↔ (eventNameOfText s).isSome = true := by
  rw [List.forall_mem_singleton]
  unfold eventNameOfText
  rw [List.find?_isSome]
  simp [JsonSchema.Keyword.accepts, JsonSchema.scalarEq, GitHubEventName.text]

theorem nameSegment_congr {isSpace isSpace' : Char → Bool} {s : List Char}
    (h : ∀ c ∈ s, isSpace c = isSpace' c) : nameSegment isSpace s = nameSegment isSpace' s := by
  unfold nameSegment
  congr 1
  rw [Bool.eq_iff_iff, List.all_eq_true, List.all_eq_true]
  constructor
  · intro hall c hc
    rw [← h c hc]
    exact hall c hc
  · intro hall c hc
    rw [h c hc]
    exact hall c hc

theorem matchesFullName_congr {isSpace isSpace' : Char → Bool} {s : List Char}
    (h : ∀ c ∈ s, isSpace c = isSpace' c) :
    matchesFullName isSpace s = matchesFullName isSpace' s := by
  unfold matchesFullName
  cases hrest : s.dropWhile (· != '/') with
  | nil => rfl
  | cons slash name =>
      have hname : ∀ c ∈ name, c ∈ s := by
        intro c hc
        have htail : c ∈ s.dropWhile (· != '/') := by
          rw [hrest]
          exact List.mem_cons_of_mem _ hc
        exact (List.dropWhile_sublist _).subset htail
      have howner : ∀ c ∈ s.takeWhile (· != '/'), c ∈ s := fun c hc =>
        (List.takeWhile_sublist _).subset hc
      show (nameSegment isSpace _ && nameSegment isSpace name) = _
      rw [nameSegment_congr fun c hc => h c (howner c hc),
        nameSegment_congr fun c hc => h c (hname c hc)]

/-- In a plain name the final newline, the outer white space and the two classes `\s` make no
difference. -/
theorem name_agrees {s : String} (h : plainName s) :
    (∀ keyword ∈ [JsonSchema.Keyword.pattern searchFullName],
        keyword.accepts (.string s) = true)
      ↔ (RepositoryFullName.validate s).isSome = true := by
  obtain ⟨hstripped, hclass⟩ := h
  have hvalid : (RepositoryFullName.validate s).isSome = true
      ↔ matchesFullName isWhiteSpace (strip s).toList = true := isSome_dite
  -- `re.search` with `$` allows one final newline.
  have hnewline : (s.toList.getLast? == some '\n') = false := by
    rw [beq_eq_false_iff_ne]
    intro hlast
    have := hstripped.2 '\n' (by rw [hlast]; rfl)
    exact absurd this (by decide)
  rw [List.forall_mem_singleton, hvalid, strip_of_stripped hstripped]
  show (matchesFullName Python.isSpace s.toList || (s.toList.getLast? == some '\n' && _)) = true
    ↔ _
  rw [hnewline, Bool.false_and, Bool.or_false, matchesFullName_congr hclass]

/-- On integer literals `minimum` and `gt` compare the same number. -/
theorem id_agrees {lax : Lax} {v : Json} (h : unconverted v = true) :
    (∀ keyword ∈ [JsonSchema.Keyword.type .integer, .minimum 1], keyword.accepts v = true)
      ↔ (positiveInt lax v).isSome = true := by
  have hfalse : ∀ w : Json, (JsonSchema.JsonType.integer.admits w) = false → lax.int w = none →
      ((∀ keyword ∈ [JsonSchema.Keyword.type .integer, .minimum 1], keyword.accepts w = true)
        ↔ (positiveInt lax w).isSome = true) := by
    intro w hadmits hint
    refine iff_of_false (fun hall => ?_) (fun hsome => ?_)
    · have := hall (.type .integer) List.mem_cons_self
      rw [JsonSchema.Keyword.accepts, hadmits] at this
      cases this
    · rw [positiveInt, hint] at hsome
      cases hsome
  cases v with
  | number n places =>
      cases places with
      | succ places => cases h
      | zero =>
          have hcheck : (positiveInt lax (.number n 0)).isSome = true ↔ 0 < n := isSome_dite
          rw [hcheck]
          simp [JsonSchema.Keyword.accepts, JsonSchema.JsonType.admits]
          omega
  | null => exact hfalse _ rfl rfl
  | bool b => cases h
  | nonFinite w => exact hfalse _ rfl rfl
  | string s => cases h
  | array items => exact hfalse _ rfl rfl
  | object members => exact hfalse _ rfl rfl

theorem receivedAt_agrees {validators : Validators} (hdoc : validators.Documented) {v : Json}
    (h : plainDateTime v = true) :
    (∀ keyword ∈ [JsonSchema.Keyword.type .string, .format validators.dateTime],
        keyword.accepts v = true)
      ↔ (validators.lax.awareDatetime v).isSome = true := by
  have htype : ∀ w : Json, JsonSchema.JsonType.string.admits w = false → undatable w = true →
      ((∀ keyword ∈ [JsonSchema.Keyword.type .string, .format validators.dateTime],
          keyword.accepts w = true)
        ↔ (validators.lax.awareDatetime w).isSome = true) := by
    intro w hadmits hundatable
    rw [hdoc.undatable w hundatable]
    refine iff_of_false (fun hall => ?_) Bool.false_ne_true
    have haccepts := hall (.type .string) List.mem_cons_self
    rw [JsonSchema.Keyword.accepts, hadmits] at haccepts
    cases haccepts
  cases v with
  | string s =>
      have hformat : (∀ keyword ∈ [JsonSchema.Keyword.type .string, .format validators.dateTime],
          keyword.accepts (.string s) = true) ↔ validators.dateTime s.toList = true := by
        rw [List.forall_mem_cons, List.forall_mem_singleton]
        exact ⟨And.right, fun hs => ⟨rfl, hs⟩⟩
      rw [hformat]
      rcases Bool.or_eq_true_iff.mp h with hdated | hundated
      · exact iff_of_true (hdoc.checked s hdated) (hdoc.converted s hdated)
      · rw [hdoc.unchecked s hundated, hdoc.unconverted s hundated]
        exact iff_of_false Bool.false_ne_true Bool.false_ne_true
  | number m n => cases h
  | nonFinite w => cases h
  | null => exact htype _ rfl rfl
  | bool b => exact htype _ rfl rfl
  | array items => exact htype _ rfl rfl
  | object members => exact htype _ rfl rfl

theorem payload_agrees (v : Json) :
    (∀ keyword ∈ [JsonSchema.Keyword.type .object], keyword.accepts v = true)
      ↔ (objectOf v).isSome = true := by
  rw [List.forall_mem_singleton]
  cases v with
  | object members => exact iff_of_true rfl rfl
  | null => exact iff_of_false Bool.false_ne_true Bool.false_ne_true
  | bool b => exact iff_of_false Bool.false_ne_true Bool.false_ne_true
  | number m n => exact iff_of_false Bool.false_ne_true Bool.false_ne_true
  | nonFinite w => exact iff_of_false Bool.false_ne_true Bool.false_ne_true
  | string s => exact iff_of_false Bool.false_ne_true Bool.false_ne_true
  | array items => exact iff_of_false Bool.false_ne_true Bool.false_ne_true

/-- A version that is written, and not as a float or a boolean, is compared and not converted. -/
theorem version_agrees (lax : Lax) {document v : Json}
    (hv : document.member "schema_version" = some v)
    (h : (∃ s, v = .string s) ∨ unconverted v = true) :
    admits [.const (.number 1 0)] (document.member "schema_version") = true
      ↔ schemaVersionOne lax document = true := by
  have hadmits : admits [.const (.number 1 0)] (some v) = true
      ↔ JsonSchema.scalarEq (.number 1 0) v = true := by
    simp [admits, JsonSchema.Keyword.accepts]
  unfold schemaVersionOne
  rw [hv, hadmits]
  show _ ↔ lax.one v = true
  cases v with
  | number n places =>
      cases places with
      | succ places =>
          rcases h with ⟨s, hs⟩ | h
          · cases hs
          · cases h
      | zero =>
          simp only [JsonSchema.scalarEq, Lax.one, beq_iff_eq]
          omega
  | bool b =>
      rcases h with ⟨s, hs⟩ | h
      · cases hs
      · cases h
  | null => exact iff_of_false Bool.false_ne_true Bool.false_ne_true
  | nonFinite w => exact iff_of_false Bool.false_ne_true Bool.false_ne_true
  | string s => exact iff_of_false Bool.false_ne_true Bool.false_ne_true
  | array items => exact iff_of_false Bool.false_ne_true Bool.false_ne_true
  | object members => exact iff_of_false Bool.false_ne_true Bool.false_ne_true

/-! ## The two definitions -/

/-- The schema and the model accept the same plain documents. -/
theorem schema_accepts_iff_model {validators : Validators} {document : Json}
    (hdoc : validators.Documented) (h : Plain validators document) :
    (envelopeSchema validators.dateTime).accepts document = true
      ↔ (validators.modelValidateJson document).isSome = true := by
  obtain ⟨version, hversion, hliteral⟩ := h.version
  have htext : ∀ name ∈ ["delivery_id", "action"],
      (admits [.type .string, .minLength 1] (document.member name) = true
        ↔ (field document name fun v => textOf v >>= NonEmptyString.validate).isSome = true) := by
    intro name hname
    refine admits_iff_field fun v hv => string_agrees fun s hs => ?_
    exact text_agrees (h.texts name hname s (hs ▸ hv))
  have hid : ∀ name ∈ ["installation_id", "repository_id"],
      (admits [.type .integer, .minimum 1] (document.member name) = true
        ↔ (field document name (positiveInt validators.lax)).isSome = true) := by
    intro name hname
    exact admits_iff_field fun v hv => id_agrees (h.ids name hname v hv)
  have hevent : admits [.type .string, .enum
        [ .string "pull_request", .string "pull_request_review", .string "workflow_run"
        , .string "deployment", .string "deployment_status" ]] (document.member "event_name")
        = true
      ↔ (field document "event_name" fun v => textOf v >>= eventNameOfText).isSome = true :=
    admits_iff_field fun v _ => string_agrees fun s _ => eventName_agrees s
  have hfullName : admits [.type .string, .pattern searchFullName]
        (document.member "repository_full_name") = true
      ↔ (field document "repository_full_name" fun v =>
          textOf v >>= RepositoryFullName.validate).isSome = true :=
    admits_iff_field fun v hv => string_agrees fun s hs => name_agrees (h.name s (hs ▸ hv))
  have hreceived : admits [.type .string, .format validators.dateTime]
        (document.member "received_at") = true
      ↔ (field document "received_at" validators.lax.awareDatetime).isSome = true :=
    admits_iff_field fun v hv => receivedAt_agrees hdoc (h.receivedAt v hv)
  have hpayload : admits [.type .object] (document.member "payload") = true
      ↔ (field document "payload" objectOf).isSome = true :=
    admits_iff_field fun v _ => payload_agrees v
  have hversionAgrees := version_agrees validators.lax hversion hliteral
  unfold Validators.modelValidateJson
  rw [if_pos (hdoc.reads document h.printable h.nesting), schema_accepts_iff,
    modelValidate_isSome_iff]
  simp only [envelopeSchema, List.forall_mem_cons, hversionAgrees, htext "delivery_id" (by simp),
    htext "action" (by simp), hid "installation_id" (by simp), hid "repository_id" (by simp),
    hevent, hfullName, hreceived, hpayload, and_assoc]
  simp

/-! ## Documents that are not plain -/

/-- Validators that read the grammar of RFC 3339 and nothing else, 200 levels deep. -/
def sampleValidators : Validators where
  dateTime := Rfc3339.isDateTime
  lax :=
    { intOfFloat := fun mantissa places =>
        if mantissa % 10 ^ places = 0 then some (mantissa / 10 ^ places) else none
      intOfText := Python.int
      literalOne := fun _ => false
      awareDatetime := fun v =>
        match v with
        | .string s => if Rfc3339.isDateTime s.toList = true then some ⟨0, 0⟩ else none
        | _ => none }
  reads document := document.printable && decide (document.depth ≤ 200)
  nesting := Json.depth
  nestingLimit := 200

theorem isDateTime_of_undated {s : String} (h : undated s = true) :
    Rfc3339.isDateTime s.toList = false := by
  rcases Bool.or_eq_true_iff.mp h with hmisdated | hdigit
  · exact Bool.not_eq_true' _ ▸ (Bool.and_eq_true_iff.mp hmisdated).2
  · unfold Rfc3339.isDateTime
    cases hrest : Rfc3339.dropLocal s.toList with
    | none => rfl
    | some rest =>
        rw [Rfc3339.any_isDigit_of_dropLocal hrest] at hdigit
        cases hdigit

theorem documented_sample : sampleValidators.Documented := by
  constructor
  · intro s hs
    exact hs
  · intro s hs
    exact isDateTime_of_undated hs
  · intro s hs
    simp [sampleValidators, hs]
  · intro s hs
    simp [sampleValidators, isDateTime_of_undated hs]
  · intro v hv
    cases v with
    | string s => cases hv
    | number m n => cases hv
    | nonFinite w => cases hv
    | null => rfl
    | bool b => rfl
    | array items => rfl
    | object members => rfl
  · intro document hprintable hnesting
    show (document.printable && decide (document.depth ≤ 200)) = true
    rw [hprintable, Bool.true_and]
    exact decide_eq_true hnesting

/-- A document with the given `schema_version` members and delivery id. -/
def sampleDocument (version : Members) (deliveryId : String) : Json :=
  .object (version ++
    [ ("delivery_id", .string deliveryId), ("event_name", .string "deployment")
    , ("action", .string "created"), ("installation_id", .number 5 0)
    , ("repository_id", .number 11 0), ("repository_full_name", .string "acme/api")
    , ("received_at", .string "1970-01-01T00:00:00Z"), ("payload", .object []) ])

theorem schema_accepts_iff_model_sample :
    (envelopeSchema sampleValidators.dateTime).accepts
        (sampleDocument [("schema_version", .number 1 0)] "d-1") = true
      ↔ (sampleValidators.modelValidateJson
          (sampleDocument [("schema_version", .number 1 0)] "d-1")).isSome = true := by
  refine schema_accepts_iff_model documented_sample ⟨?_, ?_, ?_, ?_, ?_, ?_, ?_⟩
  · exact ⟨.number 1 0, by rfl, Or.inr rfl⟩
  · intro name hname s hs
    have htext : s = "d-1" ∨ s = "created" := by
      rcases List.mem_cons.mp hname with rfl | hname
      · exact Or.inl (by simpa [sampleDocument, Json.member, eq_comm] using hs)
      · rw [List.mem_singleton.mp hname] at hs
        exact Or.inr (by simpa [sampleDocument, Json.member, eq_comm] using hs)
    rcases htext with rfl | rfl
    · exact Or.inr (by decide)
    · exact Or.inr (by decide)
  · intro name hname v hv
    have hvalue : v = .number 5 0 ∨ v = .number 11 0 := by
      rcases List.mem_cons.mp hname with rfl | hname
      · exact Or.inl (by simpa [sampleDocument, Json.member, eq_comm] using hv)
      · rw [List.mem_singleton.mp hname] at hv
        exact Or.inr (by simpa [sampleDocument, Json.member, eq_comm] using hv)
    rcases hvalue with rfl | rfl
    · rfl
    · rfl
  · intro s hs
    have htext : s = "acme/api" := by simpa [sampleDocument, Json.member, eq_comm] using hs
    rw [htext]
    decide
  · intro v hv
    have hvalue : v = .string "1970-01-01T00:00:00Z" := by
      simpa [sampleDocument, Json.member, eq_comm] using hv
    rw [hvalue]
    decide
  · decide
  · decide

/-- A blank delivery id passes `minLength` and not `strip_whitespace`; a missing version passes
the default and not `required`. -/
theorem schema_and_model_differ :
    sampleValidators.Documented
    ∧ ((envelopeSchema sampleValidators.dateTime).accepts
          (sampleDocument [("schema_version", .number 1 0)] " ") = true
      ∧ (sampleValidators.modelValidateJson
          (sampleDocument [("schema_version", .number 1 0)] " ")).isSome = false)
    ∧ (envelopeSchema sampleValidators.dateTime).accepts (sampleDocument [] "d-1") = false
      ∧ (sampleValidators.modelValidateJson (sampleDocument [] "d-1")).isSome = true := by
  exact ⟨documented_sample, by decide, by decide, by decide⟩

end Webhook
