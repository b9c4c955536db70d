import DeliveryIntelligence.AnalyticsRefresh.Service

set_option autoImplicit false

/-!
# Summaries of artifacts

What the runner takes from the document of an artifact: it counts the results and lists the first
failing ones. A step can store that exactly if the listed texts have no NUL character and no lone
surrogate and, for a build, the counts fit their columns (`fitsStep_iff`). The flag
`results_truncated` is wrong where the failing results just fill the list (`toldTruthfully_iff`).
-/

namespace AnalyticsRefresh

open Postgres Python

/-! ## The loop over the results -/

/-- The number of results in a bucket. -/
def Counts.of (counts : Counts) : Bucket → Nat
  | .succeeded => counts.succeeded
  | .failed => counts.failed
  | .skipped => counts.skipped
  | .warnings => counts.warnings
  | .errors => counts.errors

theorem of_add (counts : Counts) (bucket other : Bucket) :
    (counts.add bucket).of other = counts.of other + if bucket = other then 1 else 0 := by
  cases bucket <;> cases other <;> rfl

section

variable (reading : Reading) (maxFailures maxMessageChars : Nat)

def bucketOf (rawResult : List (List Nat × Value)) : Bucket :=
  statusBucket (resultStatus reading rawResult)

/-- The results that are listed as failures. -/
def listedResults (rawResults : List (List (List Nat × Value))) : List (List (List Nat × Value)) :=
  (rawResults.filter fun rawResult => (bucketOf reading rawResult).isReported).take maxFailures

def countsOf (counts : Counts) (rawResults : List (List (List Nat × Value))) : Counts :=
  rawResults.foldl (fun counts rawResult => counts.add (bucketOf reading rawResult)) counts

theorem of_countsOf (counts : Counts) (rawResults : List (List (List Nat × Value)))
    (bucket : Bucket) :
    (countsOf reading counts rawResults).of bucket
      = counts.of bucket + rawResults.countP fun rawResult => bucketOf reading rawResult = bucket := by
  unfold countsOf
  induction rawResults generalizing counts with
  | nil => rfl
  | cons rawResult rest ih =>
      rw [List.foldl_cons, ih, of_add, List.countP_cons]
      simp only [decide_eq_true_eq]
      omega

theorem listedResults_append (limit : Nat) (first rest : List (List (List Nat × Value))) :
    listedResults reading limit (first ++ rest)
      = listedResults reading limit first
        ++ listedResults reading (limit - (listedResults reading limit first).length) rest := by
  unfold listedResults
  rw [List.filter_append, List.take_append, List.length_take]
  congr 2
  omega

/-- One turn on a dictionary. -/
theorem addResult_dict (tally : Tally) (rawResult : List (List Nat × Value)) :
    addResult reading maxFailures maxMessageChars tally (.dict rawResult)
      = .ok ⟨tally.counts.add (bucketOf reading rawResult),
        tally.failures ++ (listedResults reading (maxFailures - tally.failures.length)
          [rawResult]).map (failureDetail reading maxMessageChars)⟩ := by
  unfold addResult listedResults
  dsimp only
  have hbucket : statusBucket (resultStatus reading rawResult) = bucketOf reading rawResult := rfl
  rw [hbucket, List.filter_singleton]
  cases hreported : (bucketOf reading rawResult).isReported with
  | false =>
      rw [Bool.false_and, if_neg Bool.false_ne_true, cond_false, List.take_nil, List.map_nil,
        List.append_nil]
  | true =>
      rw [Bool.true_and, cond_true]
      by_cases hroom : tally.failures.length < maxFailures
      · have htake : [rawResult].take (maxFailures - tally.failures.length) = [rawResult] :=
          List.take_of_length_le (by rw [List.length_singleton]; omega)
        rw [decide_eq_true hroom, if_pos rfl, htake]
        rfl
      · have hfull : maxFailures - tally.failures.length = 0 := by omega
        rw [decide_eq_false hroom, if_neg Bool.false_ne_true, hfull, List.take_zero, List.map_nil,
          List.append_nil]

/-- The loop ends exactly if every result is a dictionary, and then it has counted all of them and
listed the first failing ones. -/
theorem foldlM_addResult_ok_iff {results : List Value} {tally final : Tally} :
    results.foldlM (addResult reading maxFailures maxMessageChars) tally = .ok final
      ↔ ∃ rawResults, results = rawResults.map Value.dict
        ∧ final = ⟨countsOf reading tally.counts rawResults,
          tally.failures ++ (listedResults reading (maxFailures - tally.failures.length)
            rawResults).map (failureDetail reading maxMessageChars)⟩ := by
  have hnone : ∀ tally : Tally, listedResults reading (maxFailures - tally.failures.length) [] = [] :=
    fun tally => List.take_nil
  induction results generalizing tally with
  | nil =>
      constructor
      · intro h
        cases h
        refine ⟨[], rfl, ?_⟩
        rw [hnone, List.map_nil, List.append_nil]
        rfl
      · rintro ⟨rawResults, hresults, rfl⟩
        obtain rfl : rawResults = [] := List.map_eq_nil_iff.mp hresults.symm
        rw [hnone, List.map_nil, List.append_nil]
        rfl
  | cons value rest ih =>
      -- the list of a first result and of the rest, as the next turn finds it
      have hstep : ∀ rawResult later,
          addResult reading maxFailures maxMessageChars tally (.dict rawResult) = .ok later →
          ∀ rawResults, (⟨countsOf reading later.counts rawResults,
              later.failures ++ (listedResults reading (maxFailures - later.failures.length)
                rawResults).map (failureDetail reading maxMessageChars)⟩ : Tally)
            = ⟨countsOf reading tally.counts (rawResult :: rawResults),
              tally.failures ++ (listedResults reading (maxFailures - tally.failures.length)
                (rawResult :: rawResults)).map (failureDetail reading maxMessageChars)⟩ := by
        intro rawResult later hlater rawResults
        rw [addResult_dict] at hlater
        obtain rfl := Except.ok.inj hlater
        have hsplit := listedResults_append reading (maxFailures - tally.failures.length)
          [rawResult] rawResults
        rw [List.singleton_append] at hsplit
        rw [hsplit, List.map_append, List.append_assoc, List.length_append, List.length_map,
          Nat.sub_add_eq]
        rfl
      rw [List.foldlM_cons]
      constructor
      · intro h
        obtain ⟨later, hlater, hrest⟩ := bind_eq_ok h
        obtain ⟨rawResults, rfl, rfl⟩ := ih.mp hrest
        cases value with
        | dict rawResult => exact ⟨rawResult :: rawResults, rfl, hstep rawResult later hlater _⟩
        | none | bool _ | int _ | float _ | str _ | list _ => cases hlater
      · rintro ⟨rawResults, hresults, rfl⟩
        obtain ⟨rawResult, others, rfl, rfl, rfl⟩ := List.map_eq_cons_iff.mp hresults.symm
        have hlater := addResult_dict reading maxFailures maxMessageChars tally rawResult
        rw [hlater]
        exact ih.mpr ⟨others, rfl, (hstep rawResult _ hlater others).symm⟩

/-! ## The summary of a document -/

/-- What is taken from a document with these members and results. -/
def summaryOf (name : String) (members : List (List Nat × Value))
    (rawResults : List (List (List Nat × Value))) : ArtifactSummary :=
  let tally : Tally := ⟨countsOf reading ⟨0, 0, 0, 0, 0⟩ rawResults,
    (listedResults reading maxFailures rawResults).map (failureDetail reading maxMessageChars)⟩
  { invocationId := invocationIdOf members
    counts := tally.counts
    artifact := artifactValue maxFailures name (invocationIdOf members) tally }

/-- A summary comes from a dictionary whose results are dictionaries. -/
theorem parseDocument_ok_iff {name : String} {document : Value} {summary : ArtifactSummary} :
    parseDocument reading maxFailures maxMessageChars name document = .ok summary
      ↔ ∃ members rawResults, document = .dict members
        ∧ get members "results" = some (.list (rawResults.map Value.dict))
        ∧ summary = summaryOf reading maxFailures maxMessageChars name members rawResults := by
  constructor
  · intro h
    unfold parseDocument at h
    split at h
    · rename_i members
      split at h
      · rename_i results hresults
        obtain ⟨tally, htally, hsummary⟩ := bind_eq_ok h
        obtain ⟨rawResults, rfl, rfl⟩ :=
          (foldlM_addResult_ok_iff reading maxFailures maxMessageChars).mp htally
        exact ⟨members, rawResults, rfl, hresults, (Except.ok.inj hsummary).symm⟩
      · cases h
    · cases h
  · rintro ⟨members, rawResults, rfl, hresults, rfl⟩
    have htally : (rawResults.map Value.dict).foldlM
          (addResult reading maxFailures maxMessageChars) ⟨⟨0, 0, 0, 0, 0⟩, []⟩
        = .ok ⟨countsOf reading ⟨0, 0, 0, 0, 0⟩ rawResults,
          (listedResults reading maxFailures rawResults).map
            (failureDetail reading maxMessageChars)⟩ :=
      (foldlM_addResult_ok_iff reading maxFailures maxMessageChars).mpr ⟨rawResults, rfl, rfl⟩
    unfold parseDocument
    simp only [hresults, htally]
    rfl

end

/-! ## What can be stored -/

/-- PostgreSQL accepts the document of the value. -/
def storable (value : Value) : Bool :=
  value.forAll
    (fun
      | .str codePoints => fitsCodes codePoints
      | .float repr => (nonFiniteWord repr).isNone
      | _ => true)
    fitsCodes

theorem any_fitsJsonb_toJson (value : Value) :
    value.toJson.any Json.fitsJsonb = storable value := by
  induction value using Value.induct with
  | none => rfl
  | bool b => rfl
  | int n => rfl
  | float repr =>
      show (floatJson .nonFinite repr).fitsJsonb = (nonFiniteWord repr).isNone
      unfold floatJson
      cases nonFiniteWord repr <;> rfl
  | str codePoints =>
      show ((text codePoints).map Json.string).any Json.fitsJsonb = (text codePoints).any fitsText
      cases text codePoints <;> rfl
  | list items ih =>
      show ((convertItems .nonFinite items).map Json.array).any Json.fitsJsonb
        = itemsForAll _ _ items
      induction items with
      | nil => rfl
      | cons v rest ihRest =>
          rw [itemsForAll, ← ihRest fun w hw => ih w (List.mem_cons_of_mem _ hw)]
          have hhead := ih v List.mem_cons_self
          rw [storable] at hhead
          rw [← hhead, convertItems, Value.toJson]
          cases v.convert .nonFinite with
          | none => rfl
          | some d =>
              cases convertItems .nonFinite rest with
              | none => exact (Bool.and_false _).symm
              | some ds => rfl
  | dict members ih =>
      show ((convertMembers .nonFinite members).map Json.object).any Json.fitsJsonb
        = membersForAll _ _ members
      induction members with
      | nil => rfl
      | cons m rest ihRest =>
          rw [membersForAll, ← ihRest fun w hw => ih w (List.mem_cons_of_mem _ hw)]
          have hhead := ih m List.mem_cons_self
          rw [storable] at hhead
          rw [← hhead, convertMembers, Value.toJson]
          unfold fitsCodes
          cases text m.1 with
          | none => rfl
          | some name =>
              cases m.2.convert .nonFinite with
              | none =>
                  show false = (fitsText name && false && _)
                  rw [Bool.and_false, Bool.false_and]
              | some d =>
                  cases convertMembers .nonFinite rest with
                  | none => exact (Bool.and_false _).symm
                  | some ds => rfl

/-- A dictionary with names that fit is storable if its values are. -/
theorem storable_dict {value : Value} {members : List (String × Value)}
    (hvalue : value = .dict (members.map fun m => (codePoints m.1, m.2)))
    (hnames : (members.map Prod.fst).all fitsText = true) :
    storable value = true ↔ ∀ m ∈ members, storable m.2 = true := by
  rw [hvalue]
  unfold storable
  rw [Value.forAll_dict, List.forall_mem_map]
  refine forall₂_congr fun m hm => and_iff_right ?_
  rw [fitsCodes_codePoints]
  exact List.all_eq_true.mp hnames m.1 (List.mem_map_of_mem hm)

theorem storable_list {items : List Value} :
    storable (.list items) = true ↔ ∀ v ∈ items, storable v = true := by
  unfold storable
  exact Value.forAll_list

/-- The texts of a listed failure fit. -/
structure FailureDetail.Fits (detail : FailureDetail) : Prop where
  uniqueId : fitsCodes detail.uniqueId = true
  status : fitsCodes detail.status = true
  message : fitsCodes detail.message = true

theorem storable_failure (detail : FailureDetail) :
    storable detail.value = true ↔ detail.Fits := by
  have hmembers : detail.value = .dict ([("unique_id", .str detail.uniqueId),
      ("status", .str detail.status), ("message", .str detail.message)].map
        fun m : String × Value => (codePoints m.1, m.2)) := rfl
  have hnames : ["unique_id", "status", "message"].all fitsText = true := by decide
  rw [storable_dict hmembers hnames, List.forall_mem_cons, List.forall_mem_cons,
    List.forall_mem_singleton]
  exact ⟨fun ⟨hid, hstatus, hmessage⟩ => ⟨hid, hstatus, hmessage⟩,
    fun ⟨hid, hstatus, hmessage⟩ => ⟨hid, hstatus, hmessage⟩⟩

theorem storable_counts (counts : Counts) : storable counts.value = true := by
  have hmembers : counts.value = .dict ([("succeeded", .int counts.succeeded),
      ("failed", .int counts.failed), ("skipped", .int counts.skipped),
      ("warnings", .int counts.warnings), ("errors", .int counts.errors)].map
        fun m : String × Value => (codePoints m.1, m.2)) := rfl
  have hnames : ["succeeded", "failed", "skipped", "warnings", "errors"].all fitsText = true := by
    decide
  rw [storable_dict hmembers hnames]
  simp [storable, Value.forAll]

theorem storable_artifactValue {maxFailures : Nat} {name : String} (hname : fitsText name = true)
    {invocationId : Option (List Nat)} {tally : Tally} :
    storable (artifactValue maxFailures name invocationId tally) = true
      ↔ (∀ id ∈ invocationId, fitsCodes id = true) ∧ ∀ detail ∈ tally.failures, detail.Fits := by
  have hmembers : artifactValue maxFailures name invocationId tally
      = .dict ([("artifact", .str (codePoints name)),
        ("invocation_id", (invocationId.map Value.str).getD .none),
        ("counts", tally.counts.value),
        ("failures", .list (tally.failures.map FailureDetail.value)),
        ("results_truncated", .bool (decide (maxFailures ≤ tally.failures.length)))].map
          fun m : String × Value => (codePoints m.1, m.2)) := rfl
  have hartifact : storable (.str (codePoints name)) = true :=
    (fitsCodes_codePoints name).trans hname
  have hid : storable ((invocationId.map Value.str).getD .none) = true
      ↔ ∀ id ∈ invocationId, fitsCodes id = true := by
    cases invocationId with
    | none => exact iff_of_true rfl fun _ h => nomatch h
    | some id => exact ⟨fun h _ hid => by cases hid; exact h, fun h => h id rfl⟩
  have hfailures : storable (.list (tally.failures.map FailureDetail.value)) = true
      ↔ ∀ detail ∈ tally.failures, detail.Fits := by
    rw [storable_list, List.forall_mem_map]
    exact forall₂_congr fun detail _ => storable_failure detail
  have hnames : ["artifact", "invocation_id", "counts", "failures", "results_truncated"].all fitsText
      = true := by decide
  rw [storable_dict hmembers hnames, List.forall_mem_cons, List.forall_mem_cons,
    List.forall_mem_cons, List.forall_mem_cons, List.forall_mem_singleton, hid, hfailures]
  exact ⟨fun ⟨_, hid, _, hfailures, _⟩ => ⟨hid, hfailures⟩,
    fun ⟨hid, hfailures⟩ => ⟨hartifact, hid, storable_counts tally.counts, hfailures, rfl⟩⟩

/-! ## What a step can store -/

/-- The parameters of `_RECORD_SOURCE`, which stores no counts, fit their columns. -/
def ArtifactSummary.FitsSource (summary : ArtifactSummary) : Prop :=
  ∃ stored, summary.stored = some stored ∧ (∀ id ∈ stored.invocationId, fitsText id)
    ∧ stored.artifact.fitsJsonb

/-- The step can store the summary. -/
def ArtifactSummary.FitsStep (summary : ArtifactSummary) : DbtStep → Prop
  | .source => summary.FitsSource
  | .build => summary.Fits

theorem fitsSource_iff {summary : ArtifactSummary} :
    summary.FitsSource
      ↔ (∀ id ∈ summary.invocationId, fitsCodes id = true) ∧ storable summary.artifact = true := by
  rw [← any_fitsJsonb_toJson]
  unfold ArtifactSummary.FitsSource ArtifactSummary.stored
  cases summary.artifact.toJson with
  | none =>
      refine iff_of_false ?_ fun h => Bool.false_ne_true h.2
      rintro ⟨stored, hstored, -⟩
      split at hstored
      · cases hstored
      · cases hstored
      · rename_i heq _
        cases heq
  | some document =>
      cases summary.invocationId with
      | none =>
          constructor
          · rintro ⟨stored, hstored, -, hdocument⟩
            cases hstored
            exact ⟨(fun _ h => nomatch h), hdocument⟩
          · rintro ⟨-, hdocument⟩
            exact ⟨_, rfl, (fun _ h => nomatch h), hdocument⟩
      | some id =>
          have hfits : (∀ other ∈ some id, fitsCodes other = true) ↔ (text id).any fitsText = true :=
            ⟨fun h => h id rfl, fun h _ hother => by cases hother; exact h⟩
          rw [hfits]
          cases htext : text id with
          | none =>
              refine iff_of_false ?_ fun h => Bool.false_ne_true h.1
              rintro ⟨stored, hstored, -⟩
              simp only [Option.map_some, htext] at hstored
              cases hstored
          | some invocationId =>
              simp only [Option.map_some, htext]
              constructor
              · rintro ⟨stored, hstored, hid, hdocument⟩
                cases hstored
                exact ⟨hid invocationId rfl, hdocument⟩
              · rintro ⟨hid, hdocument⟩
                refine ⟨_, rfl, fun other hother => ?_, hdocument⟩
                cases hother
                exact hid

theorem counts_stored {summary : ArtifactSummary} {stored : DbtResultSummary}
    (h : summary.stored = some stored) :
    (∀ count ∈ [stored.succeeded, stored.failed, stored.skipped, stored.warnings, stored.errors],
        fitsInteger count = true)
      ↔ ∀ bucket, fitsInteger (summary.counts.of bucket) = true := by
  unfold ArtifactSummary.stored at h
  split at h
  · cases h
  · cases h
  · cases h
    constructor
    · intro hall bucket
      simp only [List.forall_mem_cons] at hall
      obtain ⟨hs, hf, hk, hw, he, -⟩ := hall
      cases bucket
      · exact hs
      · exact hf
      · exact hk
      · exact hw
      · exact he
    · intro hall
      simp only [List.forall_mem_cons]
      exact ⟨hall .succeeded, hall .failed, hall .skipped, hall .warnings, hall .errors,
        fun _ h => nomatch h⟩

theorem fits_iff {summary : ArtifactSummary} :
    summary.Fits
      ↔ summary.FitsSource ∧ ∀ bucket, fitsInteger (summary.counts.of bucket) = true := by
  constructor
  · rintro ⟨stored, hstored, hid, hartifact, hcounts⟩
    exact ⟨⟨stored, hstored, hid, hartifact⟩, (counts_stored hstored).mp hcounts⟩
  · rintro ⟨⟨stored, hstored, hid, hartifact⟩, hcounts⟩
    exact ⟨stored, hstored, hid, hartifact, (counts_stored hstored).mpr hcounts⟩

section

variable (reading : Reading) (settings : AnalyticsRefreshSettings) (step : DbtStep)

/-- What the step takes from the document fits: the invocation id, the texts of the listed
failures and, for a build, the number of results in each bucket. -/
structure DocumentFits (members : List (List Nat × Value))
    (rawResults : List (List (List Nat × Value))) : Prop where
  invocationId : ∀ id ∈ invocationIdOf members, fitsCodes id = true
  failures : ∀ rawResult ∈ listedResults reading settings.artifactMaxFailures rawResults,
    (failureDetail reading settings.artifactMessageMaxChars rawResult).Fits
  counts : step = .build → ∀ bucket,
    fitsInteger (rawResults.countP fun rawResult => bucketOf reading rawResult = bucket) = true

/-- **The summary of a document** can be stored exactly if what is taken from it fits. -/
theorem fitsStep_iff (members : List (List Nat × Value))
    (rawResults : List (List (List Nat × Value))) :
    (summaryOf reading settings.artifactMaxFailures settings.artifactMessageMaxChars
        step.artifactName members rawResults).FitsStep step
      ↔ DocumentFits reading settings step members rawResults := by
  let summary := summaryOf reading settings.artifactMaxFailures settings.artifactMessageMaxChars
    step.artifactName members rawResults
  have hname : fitsText step.artifactName = true := by cases step <;> decide
  have hsource : summary.FitsSource
      ↔ (∀ id ∈ invocationIdOf members, fitsCodes id = true)
        ∧ ∀ rawResult ∈ listedResults reading settings.artifactMaxFailures rawResults,
          (failureDetail reading settings.artifactMessageMaxChars rawResult).Fits := by
    have hartifact : storable summary.artifact = true
        ↔ (∀ id ∈ invocationIdOf members, fitsCodes id = true)
          ∧ ∀ detail ∈ (listedResults reading settings.artifactMaxFailures rawResults).map
              (failureDetail reading settings.artifactMessageMaxChars), detail.Fits :=
      storable_artifactValue hname
    rw [fitsSource_iff, hartifact, List.forall_mem_map]
    exact and_self_left
  have hcounts : (∀ bucket, fitsInteger (summary.counts.of bucket) = true)
      ↔ ∀ bucket, fitsInteger
        (rawResults.countP fun rawResult => bucketOf reading rawResult = bucket) = true := by
    refine forall_congr' fun bucket => ?_
    have hcount : summary.counts.of bucket
        = rawResults.countP fun rawResult => bucketOf reading rawResult = bucket := by
      refine (of_countsOf reading ⟨0, 0, 0, 0, 0⟩ rawResults bucket).trans ?_
      cases bucket <;> exact Nat.zero_add _
    rw [hcount]
  cases step with
  | source =>
      refine hsource.trans ⟨fun ⟨hid, hfailures⟩ => ⟨hid, hfailures, fun h => nomatch h⟩, ?_⟩
      exact fun ⟨hid, hfailures, _⟩ => ⟨hid, hfailures⟩
  | build =>
      refine (fits_iff.trans (and_congr hsource hcounts)).trans ?_
      exact ⟨fun ⟨⟨hid, hfailures⟩, hall⟩ => ⟨hid, hfailures, fun _ => hall⟩,
        fun ⟨hid, hfailures, hall⟩ => ⟨⟨hid, hfailures⟩, hall rfl⟩⟩

/-- What the step takes from the artifact fits; there is nothing to take unless it holds a
dictionary with a list of dictionaries. -/
def Artifact.FitsStep : Artifact → Prop
  | .file contents => ∀ text members rawResults, reading.readText contents = .ok text →
      reading.loads text = .ok (.dict members) →
      get members "results" = some (.list (rawResults.map Value.dict)) →
      DocumentFits reading settings step members rawResults
  | _ => True

/-- A summary the parser returns can be stored exactly if what it takes from the artifact fits. -/
theorem parseDbtArtifact_fits_iff (artifact : Artifact) :
    (∀ summary, parseDbtArtifact reading settings.artifactMaxFailures
        settings.artifactMessageMaxChars step.artifactName artifact = .ok summary →
      summary.FitsStep step)
      ↔ artifact.FitsStep reading settings step := by
  cases artifact with
  | missing => exact iff_of_true (fun _ h => nomatch h) trivial
  | unreadable => exact iff_of_true (fun _ h => nomatch h) trivial
  | file contents =>
      constructor
      · intro h text members rawResults htext hloads hresults
        refine (fitsStep_iff reading settings step members rawResults).mp (h _ ?_)
        simp only [parseDbtArtifact, htext, hloads]
        exact (parseDocument_ok_iff reading settings.artifactMaxFailures
          settings.artifactMessageMaxChars).mpr ⟨members, rawResults, rfl, hresults, rfl⟩
      · intro h summary hparse
        unfold parseDbtArtifact at hparse
        split at hparse
        · cases hparse
        · cases hparse
        · rename_i contents' hcontents
          cases hcontents
          split at hparse
          · cases hparse
          · rename_i text htext
            split at hparse
            · cases hparse
            · cases hparse
            · rename_i document hloads
              obtain ⟨members, rawResults, rfl, hresults, rfl⟩ :=
                (parseDocument_ok_iff reading settings.artifactMaxFailures
                  settings.artifactMessageMaxChars).mp hparse
              exact (fitsStep_iff reading settings step members rawResults).mpr
                (h text members rawResults htext hloads hresults)

end

/-! ## The truncation flag

The flag is read off the listed failures, so it cannot tell a list that is full from one that
something was left out of. -/

/-- The number of results in all buckets. -/
def Counts.total (counts : Counts) : Nat :=
  counts.succeeded + counts.failed + counts.skipped + counts.warnings + counts.errors

theorem total_add (counts : Counts) (bucket : Bucket) :
    (counts.add bucket).total = counts.total + 1 := by
  cases bucket with
  | succeeded | failed | skipped | warnings | errors =>
      simp only [Counts.add, Counts.total]
      omega

section

variable (reading : Reading) (maxFailures maxMessageChars : Nat)

theorem total_countsOf (counts : Counts) (rawResults : List (List (List Nat × Value))) :
    (countsOf reading counts rawResults).total = counts.total + rawResults.length := by
  unfold countsOf
  induction rawResults generalizing counts with
  | nil => rfl
  | cons rawResult rest ih =>
      rw [List.foldl_cons, ih, total_add, List.length_cons]
      omega

/-- The results in the buckets that are reported. -/
def reportedResults (rawResults : List (List (List Nat × Value))) :
    List (List (List Nat × Value)) :=
  rawResults.filter fun rawResult => (bucketOf reading rawResult).isReported

/-- The summary counts every result, lists the first reported ones and says whether any of them is
missing from the list. -/
structure ToldTruthfully (rawResults : List (List (List Nat × Value))) (summary : ArtifactSummary) :
    Prop where
  counts : summary.counts.total = rawResults.length
  artifact : ∃ members truncated, summary.artifact = .dict members
    ∧ get members "failures"
      = some (.list (((reportedResults reading rawResults).take
          (min maxFailures (reportedResults reading rawResults).length)).map fun rawResult =>
            (failureDetail reading maxMessageChars rawResult).value))
    ∧ get members "results_truncated" = some (.bool truncated)
    ∧ (truncated = true ↔ maxFailures < (reportedResults reading rawResults).length)

/-- The summary of a document is truthful unless the reported results just fill the list. -/
theorem toldTruthfully_summaryOf_iff (name : String) (members : List (List Nat × Value))
    (rawResults : List (List (List Nat × Value))) :
    ToldTruthfully reading maxFailures maxMessageChars rawResults
        (summaryOf reading maxFailures maxMessageChars name members rawResults)
      ↔ (reportedResults reading rawResults).length ≠ maxFailures := by
  let reported := reportedResults reading rawResults
  let details := (listedResults reading maxFailures rawResults).map
    (failureDetail reading maxMessageChars)
  -- the flag of the source: the list is as long as it may be
  have hflag : decide (maxFailures ≤ details.length) = decide (maxFailures ≤ reported.length) := by
    have hlength : details.length = min maxFailures reported.length := by
      rw [List.length_map]
      exact List.length_take
    rw [hlength, decide_eq_decide]
    omega
  have hlisted : details.map FailureDetail.value
      = (reported.take (min maxFailures reported.length)).map fun rawResult =>
          (failureDetail reading maxMessageChars rawResult).value := by
    rw [List.map_map, ← List.take_eq_take_min]
    rfl
  constructor
  · rintro ⟨-, artifact, truncated, hartifact, -, htruncated, hiff⟩ hfull
    cases hartifact
    have hvalue : truncated = decide (maxFailures ≤ details.length) := by
      have hmember := htruncated.symm.trans rfl
      cases hmember
      rfl
    rw [hvalue, hflag, decide_eq_true_eq] at hiff
    have hlt : maxFailures < reported.length := hiff.mp (le_of_eq hfull.symm)
    exact hlt.ne' hfull
  · intro hne
    refine ⟨?_, _, _, rfl, ?_, rfl, ?_⟩
    · exact (total_countsOf reading ⟨0, 0, 0, 0, 0⟩ rawResults).trans (Nat.zero_add _)
    · exact congrArg (fun items => some (Value.list items)) hlisted
    · show decide (maxFailures ≤ details.length) = true ↔ maxFailures < reported.length
      rw [hflag, decide_eq_true_eq]
      exact ⟨fun hle => lt_of_le_of_ne hle (Ne.symm hne), le_of_lt⟩

/-- **The truncation flag.** The summary of an artifact with a list of dictionaries is truthful
exactly if the number of failures, warnings and errors is not the bound on the listed ones. -/
theorem toldTruthfully_iff {name : String} {contents : List UInt8} {text : List Nat}
    {members : List (List Nat × Value)} {rawResults : List (List (List Nat × Value))}
    (hread : reading.readText contents = .ok text)
    (hloads : reading.loads text = .ok (.dict members))
    (hresults : get members "results" = some (.list (rawResults.map Value.dict))) :
    (∃ summary,
        parseDbtArtifact reading maxFailures maxMessageChars name (.file contents) = .ok summary
        ∧ ToldTruthfully reading maxFailures maxMessageChars rawResults summary)
      ↔ (reportedResults reading rawResults).length ≠ maxFailures := by
  have hparse : parseDbtArtifact reading maxFailures maxMessageChars name (.file contents)
      = .ok (summaryOf reading maxFailures maxMessageChars name members rawResults) := by
    simp only [parseDbtArtifact, hread, hloads]
    exact (parseDocument_ok_iff reading maxFailures maxMessageChars).mpr
      ⟨members, rawResults, rfl, hresults, rfl⟩
  rw [← toldTruthfully_summaryOf_iff reading maxFailures maxMessageChars name members rawResults,
    hparse]
  constructor
  · rintro ⟨summary, hsummary, htold⟩
    cases hsummary
    exact htold
  · intro htold
    exact ⟨_, rfl, htold⟩

end

/-- A result with the status `error` and nothing else. -/
def errorResult : List (List Nat × Value) := [(codePoints "status", .str (codePoints "error"))]

/-- The members of a document with so many failed results. -/
def failedRun (count : Nat) : List (List Nat × Value) :=
  [(codePoints "results", .list ((List.replicate count errorResult).map Value.dict))]

/-- The text of that document. -/
def failedRunText (count : Nat) : List Nat :=
  codePoints ("\x7b\"results\": ["
    ++ String.intercalate ", " (List.replicate count "\x7b\"status\": \"error\"\x7d") ++ "]\x7d")

/-- A standard library that decodes ASCII and knows one JSON document. -/
def failedRunReading (count : Nat) : Reading where
  readText bytes := .ok (bytes.map UInt8.toNat)
  loads text := if text = failedRunText count then .ok (.dict (failedRun count)) else .error .decode
  repr _ := []
  lower := id

theorem loads_failedRunText (count : Nat) :
    (failedRunReading count).loads (failedRunText count) = .ok (.dict (failedRun count)) := by
  simp only [failedRunReading, if_true]

def failedRunFile (count : Nat) : List UInt8 := (failedRunText count).map UInt8.ofNat

/-- Three failures of which two are listed. -/
theorem toldTruthfully_iff_three :
    ∃ summary, parseDbtArtifact (failedRunReading 3) 2 100 "run_results.json"
        (.file (failedRunFile 3)) = .ok summary
      ∧ ToldTruthfully (failedRunReading 3) 2 100 (List.replicate 3 errorResult) summary := by
  have hread : (failedRunReading 3).readText (failedRunFile 3) = .ok (failedRunText 3) :=
    congrArg Except.ok (by decide +kernel)
  exact (toldTruthfully_iff (failedRunReading 3) 2 100 hread
    (loads_failedRunText 3) rfl).mpr (by decide +kernel)

/-- Two failures that are both listed: the summary says that some are not. -/
theorem full_list_called_truncated :
    ∃ summary entries, parseDbtArtifact (failedRunReading 2) 2 100 "run_results.json"
        (.file (failedRunFile 2)) = .ok summary
      ∧ summary.artifact = .dict entries
      ∧ get entries "results_truncated" = some (.bool true)
      ∧ (reportedResults (failedRunReading 2) (List.replicate 2 errorResult)).length = 2
      ∧ ¬ ToldTruthfully (failedRunReading 2) 2 100 (List.replicate 2 errorResult) summary := by
  have hread : (failedRunReading 2).readText (failedRunFile 2) = .ok (failedRunText 2) :=
    congrArg Except.ok (by decide +kernel)
  have hfull : (reportedResults (failedRunReading 2) (List.replicate 2 errorResult)).length = 2 := by
    decide +kernel
  refine ⟨summaryOf (failedRunReading 2) 2 100 "run_results.json" (failedRun 2)
    (List.replicate 2 errorResult), _, ?_, rfl, rfl, hfull, fun htold => ?_⟩
  · simp only [parseDbtArtifact, hread, loads_failedRunText]
    exact (parseDocument_ok_iff (failedRunReading 2) 2 100).mpr ⟨_, _, rfl, rfl, rfl⟩
  · exact (toldTruthfully_summaryOf_iff _ 2 100 _ _ _).mp htold hfull

end AnalyticsRefresh
