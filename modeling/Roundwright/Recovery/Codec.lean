/-
The durable form of failure records. A record is written as a JSON value whose fields depend on its schema, and read
back field by field; what is read is compared with what the record writes, so the two directions are inverse to each
other.
-/
import Roundwright.Recovery.Failure
import Roundwright.Lib.JsonText

namespace Roundwright

open Lib Lib.JsonText

/-! ## JSON values as JSON texts have them -/

mutual

/-- The value that `json.dumps` is given. -/
def Json.value {F : Type} : Json → Value F
  | .null => .null
  | .bool b => .bool b
  | .num n => .int n
  | .str text => .str text
  | .hex h => .str h.text
  | .digest d => .str d.text
  | .arr items => .arr (Json.values items)
  | .obj fields => .dict (Json.fieldValues fields)

def Json.values {F : Type} : List Json → List (Value F)
  | [] => []
  | item :: items => item.value :: Json.values items

def Json.fieldValues {F : Type} : List (String × Json) → List (String × Value F)
  | [] => []
  | (key, item) :: fields => (key, item.value) :: Json.fieldValues fields

end

mutual

/-- The keys of every object are distinct, as those of a `dict` are. -/
def Json.Distinct : Json → Prop
  | .arr items => Json.DistinctItems items
  | .obj fields => (fields.map (·.1)).Nodup ∧ Json.DistinctFields fields
  | _ => True

def Json.DistinctItems : List Json → Prop
  | [] => True
  | item :: items => item.Distinct ∧ Json.DistinctItems items

def Json.DistinctFields : List (String × Json) → Prop
  | [] => True
  | (_, item) :: fields => item.Distinct ∧ Json.DistinctFields fields

end

section Distinct

variable {F : Type}

theorem Json.distinctItems_iff {items : List Json} : Json.DistinctItems items ↔ ∀ item ∈ items, item.Distinct := by
  induction items with
  | nil => simp [Json.DistinctItems]
  | cons item items ih =>
    rw [List.forall_mem_cons, ← ih]
    exact Iff.rfl

theorem Json.keys_fieldValues (fields : List (String × Json)) :
    (Json.fieldValues fields : List (String × Value F)).map (·.1) = fields.map (·.1) := by
  induction fields with
  | nil => rfl
  | cons field fields ih => rw [Json.fieldValues, List.map_cons, List.map_cons, ih]

mutual

/-- A value with distinct keys is written in one way only. -/
theorem Json.value_canonical (j : Json) (h : j.Distinct) : (j.value : Value F).Canonical := by
  match j, h with
  | .arr items, h => exact Json.values_canonical items h
  | .obj fields, h =>
    refine Value.dict_canonical ?_ (Value.canonicalFields_iff.1 (Json.fieldValues_canonical fields h.2))
    rw [Json.keys_fieldValues]
    exact h.1
  | .null, _ | .bool _, _ | .num _, _ | .str _, _ | .hex _, _ | .digest _, _ => trivial

theorem Json.values_canonical (items : List Json) (h : Json.DistinctItems items) :
    CanonicalItems (Json.values items : List (Value F)) := by
  match items, h with
  | [], _ => trivial
  | item :: items, h => exact ⟨Json.value_canonical item h.1, Json.values_canonical items h.2⟩

theorem Json.fieldValues_canonical (fields : List (String × Json)) (h : Json.DistinctFields fields) :
    CanonicalFields (Json.fieldValues fields : List (String × Value F)) := by
  match fields, h with
  | [], _ => trivial
  | (_, item) :: fields, h => exact ⟨Json.value_canonical item h.1, Json.fieldValues_canonical fields h.2⟩

end

end Distinct

theorem Hex.text_injective {digits : Nat} : Function.Injective (@Hex.text digits) := Hex.text_strictMono.injective

theorem Digest.text_injective : Function.Injective Digest.text := by
  intro a b h
  have hread := congrArg Digest.ofText? h
  rw [Digest.ofText?_text, Digest.ofText?_text] at hread
  exact Option.some.inj hread

namespace Recovery

/-! ## Reading -/

/-- `Enum(text)` of an enumeration. -/
def enum? {α : Type} (all : List α) (value : α → String) (text : String) : Option α := all.find? fun a => value a = text

def FailureRole.ofValue? : String → Option FailureRole := enum? [.worker, .supervisor, .dependencyReview] FailureRole.value

def FailureClass.ofValue? : String → Option FailureClass := enum?
  [.partialIncrement, .ordinaryReviewHandoff, .validationRunning, .noProgress, .sessionTerminated, .formatInvalid,
    .missingOutput, .topologyViolation, .hostSecurityDenial, .transientService, .credentialFailure, .missingOwnerScope,
      .budgetExhausted,
    .ambiguousEffect, .unknown] FailureClass.value

def EvidenceSource.ofValue? : String → Option EvidenceSource := enum?
  [.verifiedOutput, .verifiedHost, .verifiedLifecycle, .verifiedTopology, .verifiedService, .modelSelfReport, .unavailable]
  EvidenceSource.value

def EvidenceConfidence.ofValue? : String → Option EvidenceConfidence := enum? [.verified, .unavailable] EvidenceConfidence.value

def RecoveryAction.ofValue? : String → Option RecoveryAction := enum?
  [.continueSameSession, .reconcile, .stopScope, .preboundFallback] RecoveryAction.value

def RecordSchema.ofValue? : String → Option RecordSchema := enum? [.v1, .v2, .v3] RecordSchema.value

@[simp] theorem FailureRole.ofValue?_value (a : FailureRole) : ofValue? a.value = some a := by
  cases a <;> decide

@[simp] theorem FailureClass.ofValue?_value (a : FailureClass) : ofValue? a.value = some a := by
  cases a <;> decide

@[simp] theorem EvidenceSource.ofValue?_value (a : EvidenceSource) : ofValue? a.value = some a := by
  cases a <;> decide

@[simp] theorem EvidenceConfidence.ofValue?_value (a : EvidenceConfidence) : ofValue? a.value = some a := by
  cases a <;> decide

@[simp] theorem RecoveryAction.ofValue?_value (a : RecoveryAction) : ofValue? a.value = some a := by
  cases a <;> decide

@[simp] theorem RecordSchema.ofValue?_value (a : RecordSchema) : ofValue? a.value = some a := by
  cases a <;> decide

def name? (text : String) : Option Name := if h : isName text = true then some ⟨text, h⟩ else none

@[simp] theorem name?_val (name : Name) : name? name.val = some name := dif_pos name.property

variable {F : Type} [DecidableEq F] (floats : Floats F)

def bool? (v : Value F) (key : String) : Option Bool :=
  match v.get? key with
  | some (.bool b) => some b
  | _ => none

def bindingKeys : List String :=
  ["candidate_sha", "policy_digest", "configuration_digest", "authority_scope", "role", "profile_identity",
    "session_identity", "attempt_identity"]

/-- `FailureBinding(...)` of the fields of a dict; nothing where it raises. -/
def binding? (v : Value F) : Option FailureBinding := do
  let candidateSha ← (v.text? "candidate_sha").bind (Hex.ofText? 40)
  let policyDigest ← (v.text? "policy_digest").bind Digest.ofText?
  let configurationDigest ← (v.text? "configuration_digest").bind Digest.ofText?
  let authorityScope ← (v.text? "authority_scope").bind name?
  let role ← (v.text? "role").bind FailureRole.ofValue?
  let profileIdentity ← (v.text? "profile_identity").bind Digest.ofText?
  let sessionIdentity ← (v.text? "session_identity").bind name?
  let attemptIdentity ← (v.text? "attempt_identity").bind name?
  return ⟨candidateSha, policyDigest, configurationDigest, authorityScope, role, profileIdentity, sessionIdentity, attemptIdentity⟩

def isNull : Value F → Bool
  | .null => true
  | _ => false

/-- `value.get(key)`, unless it is `None`. -/
def present? (v : Value F) (key : String) : Option (Value F) := (v.get? key).filter fun item => !isNull item

/-- The condition set of a record of the third schema: whether there is one, or nothing where reading it raises. -/
def conditions? (v : Value F) : Option Bool :=
  match present? v "clearance_conditions" with
  | none => some false
  | some set =>
    if set.hasKeys ["schema", "conditions"] ∧ set.text? "schema" = some "roundwright-denial-clearance-conditions/v1" ∧
        (set.get? "conditions").any (fun items => items.same floats (.arr (clearanceConditions.map .str))) then some true
    else none

/-- The provenance of a record of the third schema, if any; nothing where reading it raises. -/
def provenance? (v : Value F) : Option (Option FailureBinding) :=
  match present? v "clearance_provenance" with
  | none => some none
  | some binding => if binding.hasKeys bindingKeys then (binding? binding).map some else none

/-- The confidence of a record; the first schema has none. -/
def confidence? (schema : RecordSchema) (v : Value F) : Option EvidenceConfidence :=
  if schema = .v1 then some .unavailable else (v.text? "evidence_confidence").bind EvidenceConfidence.ofValue?

/-- The clearance of a record, which only the third schema has: whether there is a condition set, and the provenance. -/
def clearance? (schema : RecordSchema) (v : Value F) : Option (Bool × Option FailureBinding) :=
  if schema = .v3 then (conditions? floats v).bind fun conditions => (provenance? v).map fun provenance => (conditions, provenance)
  else some (false, none)

/-- The keys of a record of a schema. -/
def recordKeys (schema : RecordSchema) : List String :=
  ["schema", "binding", "failure", "evidence", "retryable", "action", "clearance_required"] ++
    (if schema = .v1 then [] else ["evidence_confidence"]) ++
    (if schema = .v3 then ["clearance_conditions", "clearance_provenance"] else [])

/-- What the `try` block constructs; nothing where it raises. -/
def record? (v binding : Value F) (schema : RecordSchema) : Option FailureRecord := do
  let parsed ← binding? binding
  let clearance ← clearance? floats schema v
  let failure ← (v.text? "failure").bind FailureClass.ofValue?
  let evidence ← (v.text? "evidence").bind EvidenceSource.ofValue?
  let retryable ← bool? v "retryable"
  let action ← (v.text? "action").bind RecoveryAction.ofValue?
  let clearanceRequired ← bool? v "clearance_required"
  let confidence ← confidence? schema v
  (RecordFields.record ⟨parsed, failure, evidence, retryable, action, clearanceRequired, confidence, schema, clearance.1,
    clearance.2⟩).toOption

def malformed : Error := .failureRecovery "durable failure record is malformed"

/-- `parse_failure_record`. A schema that is no text is malformed too; the source lets the `TypeError` of an unhashable
one pass. -/
def parseFailureRecord (v : Value F) : Except Error FailureRecord := do
  let binding ← demand ((v.get? "binding").filter (·.isDict)) malformed
  let schema ← demand ((v.text? "schema").bind RecordSchema.ofValue?) malformed
  refuse (v.hasKeys (recordKeys schema) = false ∨ binding.hasKeys bindingKeys = false) malformed
  let record ← demand (record? floats v binding schema) malformed
  refuse (v.same floats record.payload.value = false) (.failureRecovery "durable failure record is non-canonical")
  return record

/-! ## What is written is read -/

attribute [simp] Hex.ofText?_text Digest.ofText?_text

omit [DecidableEq F] in
theorem binding?_payload (b : FailureBinding) : binding? (b.payload.value : Value F) = some b := by
  simp [binding?, FailureBinding.payload, Json.value, Json.fieldValues, Value.text?]

omit [DecidableEq F] in
theorem hasKeys_payload (b : FailureBinding) : (b.payload.value : Value F).hasKeys bindingKeys = true := by
  simp [FailureBinding.payload, Json.value, Json.fieldValues, bindingKeys]

omit [DecidableEq F] in
theorem isDict_payload (b : FailureBinding) : (b.payload.value : Value F).isDict = true := by
  simp [FailureBinding.payload, Json.value]

theorem FailureRecord.record_eq (r : FailureRecord) : r.toRecordFields.record = .ok r := by
  unfold RecordFields.record
  split
  · rfl
  · rename_i e h
    rw [r.valid] at h
    cases h

omit [DecidableEq F] in
@[simp] theorem isNull_null : isNull (.null : Value F) = true := rfl

omit [DecidableEq F] in
@[simp] theorem isNull_dict (fields : List (String × Value F)) : isNull (.dict fields) = false := rfl

/-- The value that a record of the third schema writes for its condition set. -/
theorem conditions?_payload (r : RecordFields) (hschema : r.recordSchema = .v3) :
    conditions? floats (r.payload.value : Value F) = some r.clearanceConditions := by
  unfold conditions? present?
  cases hconditions : r.clearanceConditions with
  | false => simp [RecordFields.payload, Json.value, Json.fieldValues, hschema, hconditions, Option.filter_some]
  | true =>
    simp [RecordFields.payload, Json.value, Json.fieldValues, hschema, hconditions, Option.filter_some, Value.text?,
      clearanceConditions, Json.values, Value.same, Value.sameItems]

omit [DecidableEq F] in
/-- The value that a record of the third schema writes for its provenance. -/
theorem provenance?_payload (r : RecordFields) (hschema : r.recordSchema = .v3) :
    provenance? (r.payload.value : Value F) = some r.clearanceProvenance := by
  unfold provenance? present?
  cases hprovenance : r.clearanceProvenance with
  | none => simp [RecordFields.payload, Json.value, Json.fieldValues, hschema, hprovenance, Option.filter_some]
  | some b =>
    have hkeys := @hasKeys_payload F b
    have hread := @binding?_payload F b
    have hnull : isNull (b.payload.value : Value F) = false := by simp [FailureBinding.payload, Json.value]
    simp [RecordFields.payload, Json.value, Json.fieldValues, hschema, hprovenance, hkeys, hread, hnull, Option.filter_some]

/-- A record of an earlier schema has no clearance, and one of the first no confidence. -/
theorem FailureRecord.legacy (r : FailureRecord) :
    (r.recordSchema = .v1 → r.evidenceConfidence = .unavailable) ∧
      (r.recordSchema ≠ .v3 → r.clearanceConditions = false ∧ r.clearanceProvenance = none) := by
  have h := r.valid
  simp only [RecordFields.check, bind_eq_ok, exists_unit, refuse_eq_ok, not_and, not_or, not_not, Bool.not_eq_true] at h
  exact ⟨h.1, h.2.2.2.2.1⟩

theorem toOption_record {fields : RecordFields} {r : FailureRecord} (h : r.toRecordFields = fields) :
    fields.record.toOption = some r := by
  rw [← h, r.record_eq]
  rfl

theorem clearance?_payload (r : FailureRecord) :
    clearance? floats r.recordSchema (r.payload.value : Value F) = some (r.clearanceConditions, r.clearanceProvenance) := by
  unfold clearance?
  split
  · rename_i hschema
    rw [conditions?_payload floats _ hschema, provenance?_payload _ hschema]
    rfl
  · rename_i hschema
    obtain ⟨hconditions, hprovenance⟩ := r.legacy.2 hschema
    rw [hconditions, hprovenance]

omit [DecidableEq F] in
theorem confidence?_payload (r : FailureRecord) :
    confidence? r.recordSchema (r.payload.value : Value F) = some r.evidenceConfidence := by
  unfold confidence?
  split
  · rename_i hschema
    rw [r.legacy.1 hschema]
  · rename_i hschema
    simp [RecordFields.payload, Json.value, Json.fieldValues, hschema, Value.text?]

theorem record?_payload (r : FailureRecord) :
    record? floats (r.payload.value : Value F) (r.binding.payload.value) r.recordSchema = some r := by
  have hread : record? floats (r.payload.value : Value F) r.binding.payload.value r.recordSchema =
      r.toRecordFields.record.toOption := by
    simp only [record?, binding?_payload, clearance?_payload, confidence?_payload]
    simp [bool?, RecordFields.payload, Json.value, Json.fieldValues, Value.text?]
  rw [hread]
  exact toOption_record rfl

/-! ## The codec -/

variable {floats}

omit [DecidableEq F] in
theorem bool?_eq {v : Value F} {key : String} {b : Bool} : bool? v key = some b ↔ v.get? key = some (.bool b) := by
  unfold bool?
  cases v.get? key with
  | none => simp
  | some item => cases item <;> simp

theorem parse_payload (record : FailureRecord) : parseFailureRecord floats (record.payload.value : Value F) = .ok record := by
  have hrecord := record?_payload floats record
  have hdict := @isDict_payload F record.binding
  have hbinding := @hasKeys_payload F record.binding
  have hget : (record.payload.value : Value F).get? "binding" = some record.binding.payload.value := by
    simp [RecordFields.payload, Json.value, Json.fieldValues]
  have hschema : (record.payload.value : Value F).text? "schema" = some record.recordSchema.value := by
    simp [RecordFields.payload, Json.value, Json.fieldValues, Value.text?]
  have hkeys : (record.payload.value : Value F).hasKeys (recordKeys record.recordSchema) = true := by
    cases hversion : record.recordSchema <;> simp [RecordFields.payload, Json.value, Json.fieldValues, recordKeys, hversion]
  simp only [parseFailureRecord, bind_eq_ok, exists_unit, demand_eq_ok, refuse_eq_ok, pure_eq_ok, hget, hschema,
    Option.filter_some, hdict, if_true, Option.bind_some, RecordSchema.ofValue?_value, not_or, Bool.not_eq_false]
  exact ⟨_, rfl, _, rfl, ⟨hkeys, hbinding⟩, record, hrecord, Value.same_refl floats _, rfl⟩

theorem toRecordFields_of_record {fields : RecordFields} {r : FailureRecord} (h : fields.record.toOption = some r) :
    r.toRecordFields = fields := by
  unfold RecordFields.record at h
  split at h
  · cases h
    rfl
  · cases h

theorem flags_of_record? {v binding : Value F} {schema : RecordSchema} {r : FailureRecord}
    (h : record? floats v binding schema = some r) :
    v.get? "retryable" = some (.bool r.retryable) ∧ v.get? "clearance_required" = some (.bool r.clearanceRequired) := by
  simp only [record?, Option.bind_eq_bind, Option.bind_eq_some_iff] at h
  obtain ⟨_, -, _, -, _, -, _, -, retryable, hretryable, _, -, clearance, hclearance, _, -, hrecord⟩ := h
  rw [toRecordFields_of_record hrecord]
  exact ⟨bool?_eq.1 hretryable, bool?_eq.1 hclearance⟩

omit [DecidableEq F] in
theorem plain_payload (b : FailureBinding) : (b.payload.value : Value F).plain = true := by
  simp only [FailureBinding.payload, Json.value]
  refine Value.dict_plain ?_
  simp [Json.fieldValues, Json.value, Value.plain]

omit [DecidableEq F] in
theorem plain_conditions (conditions : List String) :
    (Json.value (.obj [("schema", .str "roundwright-denial-clearance-conditions/v1"),
    ("conditions", .arr (conditions.map .str))]) : Value F).plain = true := by
  have hitems : ∀ texts : List String, Value.plainItems (Json.values (texts.map .str) : List (Value F)) = true := by
    intro texts
    induction texts with
    | nil => rfl
    | cons text texts ih => simp [Json.values, Json.value, Value.plainItems, Value.plain, ih]
  simp only [Json.value]
  refine Value.dict_plain ?_
  simp [Json.fieldValues, Json.value, Value.plain, hitems]

omit [DecidableEq F] in
theorem plain_provenance (provenance : Option FailureBinding) :
    (Json.value (match provenance with | some b => b.payload | none => .null) : Value F).plain = true := by
  cases provenance with
  | some b => exact plain_payload b
  | none => rfl

theorem payload_of_parse {v : Value F} {record : FailureRecord} (h : parseFailureRecord floats v = .ok record) :
    record.payload.value = v := by
  simp only [parseFailureRecord, bind_eq_ok, exists_unit, demand_eq_ok, refuse_eq_ok, pure_eq_ok, Bool.not_eq_false] at h
  obtain ⟨binding, -, schema, -, -, r, hrecord, hsame, rfl⟩ := h
  obtain ⟨hretryable, hclearance⟩ := flags_of_record? hrecord
  have hbinding := @plain_payload F r.binding
  symm
  unfold RecordFields.payload at hsame ⊢
  rw [Json.value] at hsame ⊢
  refine Value.eq_of_same floats ?_ hsame ?_
  · cases r.recordSchema <;> simp [Json.fieldValues]
  · cases hschema : r.recordSchema with
    | v1 => simp [Json.fieldValues, Json.value, Value.plain, hbinding, hretryable, hclearance]
    | v2 => simp [Json.fieldValues, Json.value, Value.plain, hbinding, hretryable, hclearance]
    | v3 =>
      have hset : (Json.value (if r.clearanceConditions then .obj [("schema", .str "roundwright-denial-clearance-conditions/v1"),
          ("conditions", .arr (clearanceConditions.map .str))] else .null) : Value F).plain = true := by
        split
        · exact plain_conditions clearanceConditions
        · rfl
      simp only [Json.fieldValues, reduceCtorEq, if_true, if_false, List.cons_append, List.nil_append,
        List.forall_mem_cons, List.not_mem_nil, false_implies, implies_true, and_true]
      exact ⟨.inl rfl, .inl hbinding, .inl rfl, .inl rfl, .inr hretryable, .inl rfl, .inr hclearance, .inl rfl,
        .inl hset, .inl (plain_provenance _)⟩

omit [DecidableEq F] in
theorem binding_canonical (b : FailureBinding) : (b.payload.value : Value F).Canonical := by
  simp only [FailureBinding.payload, Json.value]
  refine Value.dict_canonical ?_ ?_
  · simp [Json.fieldValues]
  · simp [Json.fieldValues, Json.value, Value.Canonical]

omit [DecidableEq F] in
theorem conditions_canonical (conditions : List String) :
    (Json.value (.obj [("schema", .str "roundwright-denial-clearance-conditions/v1"),
      ("conditions", .arr (conditions.map .str))]) : Value F).Canonical := by
  have hitems : ∀ texts : List String, CanonicalItems (Json.values (texts.map .str) : List (Value F)) := by
    intro texts
    induction texts with
    | nil => trivial
    | cons text texts ih => exact ⟨trivial, ih⟩
  simp only [Json.value]
  refine Value.dict_canonical ?_ ?_
  · simp [Json.fieldValues]
  · simp only [Json.fieldValues, List.forall_mem_cons, List.not_mem_nil, false_implies, implies_true, and_true]
    exact ⟨trivial, hitems conditions⟩

omit [DecidableEq F] in
theorem provenance_canonical (provenance : Option FailureBinding) :
    (Json.value (match provenance with | some b => b.payload | none => .null) : Value F).Canonical := by
  cases provenance with
  | some b => exact binding_canonical b
  | none => trivial

omit [DecidableEq F] in
/-- The value that a record writes has its keys in order. -/
theorem payload_canonical (r : RecordFields) : (r.payload.value : Value F).Canonical := by
  have hset : (Json.value (if r.clearanceConditions then .obj [("schema", .str "roundwright-denial-clearance-conditions/v1"),
      ("conditions", .arr (clearanceConditions.map .str))] else .null) : Value F).Canonical := by
    split
    · exact conditions_canonical clearanceConditions
    · trivial
  unfold RecordFields.payload
  rw [Json.value]
  refine Value.dict_canonical ?_ ?_
  · cases r.recordSchema <;> simp [Json.fieldValues]
  · cases r.recordSchema with
    | v1 =>
      simp only [Json.fieldValues, reduceCtorEq, if_true, if_false, List.append_nil, List.forall_mem_cons,
        List.not_mem_nil, false_implies, implies_true, and_true]
      exact ⟨trivial, binding_canonical _, trivial, trivial, trivial, trivial, trivial⟩
    | v2 =>
      simp only [Json.fieldValues, reduceCtorEq, if_false, List.cons_append, List.nil_append, List.append_nil,
        List.forall_mem_cons, List.not_mem_nil, false_implies, implies_true, and_true]
      exact ⟨trivial, binding_canonical _, trivial, trivial, trivial, trivial, trivial, trivial⟩
    | v3 =>
      simp only [Json.fieldValues, reduceCtorEq, if_true, if_false, List.cons_append, List.nil_append,
        List.forall_mem_cons, List.not_mem_nil, false_implies, implies_true, and_true]
      exact ⟨trivial, binding_canonical _, trivial, trivial, trivial, trivial, trivial, trivial, hset, provenance_canonical _⟩

/-- The digests of two records are of one text where they are equal. -/
def NoCollision (host : Host) (floats : Floats F) (r r' : FailureRecord) : Prop :=
  host.digestJson r.payload = host.digestJson r'.payload → dumps floats r.payload.value = dumps floats r'.payload.value

/-- Every record is read back from what it writes, what is read as a record is what the record writes, and the digest of
a record identifies it where digests do not collide. -/
theorem failure_record_codec (host : Host) (floats : Floats F) :
    (∀ record : FailureRecord, parseFailureRecord floats (record.payload.value : Value F) = .ok record) ∧
    (∀ (v : Value F) (record : FailureRecord), parseFailureRecord floats v = .ok record → record.payload.value = v) ∧
    (∀ (v w : Value F) (record : FailureRecord), parseFailureRecord floats v = .ok record →
    parseFailureRecord floats w = .ok record →
      v = w) ∧
    ∀ r r' : FailureRecord, NoCollision host floats r r' → r.digest host = r'.digest host → r = r' := by
  refine ⟨parse_payload, fun v record => payload_of_parse, fun v w record hv hw => ?_, fun r r' hfree hdigest => ?_⟩
  · rw [← payload_of_parse hv, ← payload_of_parse hw]
  · have htexts := hfree (Digest.sha256.inj hdigest)
    have hvalues := dumps_injective floats (payload_canonical r.toRecordFields) (payload_canonical r'.toRecordFields) htexts
    have hread := @parse_payload F _ floats r
    rw [hvalues, parse_payload] at hread
    exact (Except.ok.inj hread).symm

end Recovery

end Roundwright
