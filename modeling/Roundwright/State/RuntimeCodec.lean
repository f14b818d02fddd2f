/-
The canonical texts of runtime bindings and of their receipts. The constructor of a binding takes any review policy
digest of the right form; the decoder demands that it is the digest of the policy. So a binding is read back from its
text exactly when its policy digest is that of its policy.
-/
import Roundwright.Recovery.Codec
import Roundwright.State.RuntimeBinding

namespace Roundwright.State

open Lib Lib.JsonText

variable {F : Type} [DecidableEq F] (host : Host) (floats : Floats F)

/-! ## Runtime bindings -/

namespace RuntimeBinding

def canonicalPayload (b : RuntimeBinding) : Json :=
  .obj [("schema_version", .str schemaVersion), ("resolved_digest", .digest b.resolvedDigest),
    ("worker_profile_identity", .digest b.workerProfileIdentity),
    ("supervisor_profile_identities", .arr (b.supervisorProfileIdentities.map .digest)),
    ("review_complete_rounds", .num b.reviewCompleteRounds), ("review_max_rounds", .num b.reviewMaxRounds),
    ("review_max_supervisor_attempts_per_round", .num b.reviewMaxSupervisorAttemptsPerRound),
    ("review_on_final_findings", .str b.reviewOnFinalFindings), ("review_policy_digest", .str b.reviewPolicyDigest)]

def canonicalMaterial (b : RuntimeBinding) : String := dumps floats (b.canonicalPayload.value : Value F)

def payloadKeys : List String :=
  ["schema_version", "resolved_digest", "worker_profile_identity", "supervisor_profile_identities",
    "review_complete_rounds", "review_max_rounds", "review_max_supervisor_attempts_per_round",
      "review_on_final_findings", "review_policy_digest"]

/-- The digest that `from_canonical` expects of the review policy. -/
def policyDigest (b : RuntimeBinding) : String :=
  (host.digestJson (.obj [("complete_rounds", .num b.reviewCompleteRounds), ("max_rounds", .num b.reviewMaxRounds),
    ("max_supervisor_attempts_per_round", .num b.reviewMaxSupervisorAttemptsPerRound),
    ("on_final_findings", .str b.reviewOnFinalFindings)])).text

/-- `__post_init__` -/
def make (resolved worker : Digest) (profiles : List Digest) (complete max attempts : Int) (onFinal digest : String) :
    Option RuntimeBinding :=
  if hprofiles : profiles ≠ [] ∧ profiles.Nodup then
    if hpolicy : (complete = 0 ∧ max = 0 ∧ attempts = 0 ∧ onFinal = "" ∧ digest = "") ∨
        (1 ≤ complete ∧ complete ≤ max ∧ attempts = profiles.length ∧ onFinal = "worker-final-repair-then-merge" ∧
          isHex 64 digest = true) then
      some ⟨resolved, worker, profiles, complete, max, attempts, onFinal, digest, hprofiles, hpolicy⟩
    else none
  else none

end RuntimeBinding

/-- An integer of a dict. A truth value or a float in its place is no integer; where the constructor takes one for a
default, the digest of the policy is missing. -/
def int? (v : Value F) (key : String) : Option Int :=
  match v.get? key with
  | some (.int n) => some n
  | _ => none

/-- The digests of `tuple(value)`: the items of a list, or the keys of a dict. -/
def digests? (v : Value F) : Option (List Digest) :=
  match v with
  | .arr items => items.mapM fun
    | .str text => Digest.ofText? text
    | _ => none
  | .obj fields => fields.mapM fun f => Digest.ofText? f.1
  | _ => none

/-- The binding of a decoded payload; nothing where constructing it raises. -/
def binding? (v : Value F) : Option RuntimeBinding := do
  guard (v.text? "schema_version" = some RuntimeBinding.schemaVersion)
  let resolved ← (v.text? "resolved_digest").bind Digest.ofText?
  let worker ← (v.text? "worker_profile_identity").bind Digest.ofText?
  let profiles ← (v.get? "supervisor_profile_identities").bind digests?
  let complete ← int? v "review_complete_rounds"
  let max ← int? v "review_max_rounds"
  let attempts ← int? v "review_max_supervisor_attempts_per_round"
  let onFinal ← v.text? "review_on_final_findings"
  let digest ← v.text? "review_policy_digest"
  RuntimeBinding.make resolved worker profiles complete max attempts onFinal digest

/-- A text that is the canonical text of a dict with these keys. -/
def canonicalDict? (keys : List String) (text : String) : Option (Value F) :=
  (loads floats text).filter fun v => v.isDict && v.hasKeys keys && dumps floats v = text

/-- `RuntimeBinding.from_canonical` -/
def RuntimeBinding.fromCanonical (text : String) : Except String RuntimeBinding :=
  demand (((canonicalDict? floats RuntimeBinding.payloadKeys text).bind binding?).filter fun b => b.reviewPolicyDigest =
    b.policyDigest host) "runtime binding canonical material is invalid"

/-! ## Receipts -/

structure SupervisorRuntimeBindingReceipt where
  sourceIdentity : Digest
  recordIdentity : Digest
  candidateSha : Sha
  contextIdentity : Digest
  resolvedConfigurationDigest : Digest
  runtimeContentDigest : Digest
  readyAt : Int
  freshnessUntil : Int
  canonicalMaterialDigest : Digest
  window : 0 ≤ readyAt ∧ readyAt ≤ freshnessUntil
deriving DecidableEq

namespace SupervisorRuntimeBindingReceipt

/-- `_RECEIPT_SCHEMA` -/
def schema : String := "roundwright-supervisor-runtime-receipt/v1"

def payload (r : SupervisorRuntimeBindingReceipt) : Json :=
  .obj [("schema", .str schema), ("source_identity", .digest r.sourceIdentity),
    ("record_identity", .digest r.recordIdentity), ("candidate_sha", .hex r.candidateSha),
      ("context_identity", .digest r.contextIdentity),
    ("resolved_configuration_digest", .digest r.resolvedConfigurationDigest),
      ("runtime_content_digest", .digest r.runtimeContentDigest),
    ("canonical_material_digest", .digest r.canonicalMaterialDigest), ("ready_at", .num r.readyAt),
    ("freshness_until", .num r.freshnessUntil)]

def payloadKeys : List String :=
  ["schema", "source_identity", "record_identity", "candidate_sha", "context_identity", "resolved_configuration_digest",
    "runtime_content_digest", "canonical_material_digest", "ready_at", "freshness_until"]

def material (r : SupervisorRuntimeBindingReceipt) : String := dumps floats (r.payload.value : Value F)

/-- `__post_init__` -/
def make (source record : Digest) (candidate : Sha) (context resolved content : Digest) (ready fresh : Int) (digest : Digest) :
    Option SupervisorRuntimeBindingReceipt :=
  if h : 0 ≤ ready ∧ ready ≤ fresh then some ⟨source, record, candidate, context, resolved, content, ready, fresh,
    digest, h⟩ else none

end SupervisorRuntimeBindingReceipt

/-- `not value` -/
def falsy : Value F → Bool
  | .null => true
  | .str text => text = ""
  | .arr items => items.isEmpty
  | .obj fields => fields.isEmpty
  | v => v.numeric floats = some (.inl 0)

/-- The receipt of a decoded payload. Where its material digest is empty the content digest takes its place. -/
def receipt? (v : Value F) : Option SupervisorRuntimeBindingReceipt := do
  guard (v.text? "schema" = some SupervisorRuntimeBindingReceipt.schema)
  let source ← (v.text? "source_identity").bind Digest.ofText?
  let record ← (v.text? "record_identity").bind Digest.ofText?
  let candidate ← (v.text? "candidate_sha").bind (Hex.ofText? 40)
  let context ← (v.text? "context_identity").bind Digest.ofText?
  let resolved ← (v.text? "resolved_configuration_digest").bind Digest.ofText?
  let content ← (v.text? "runtime_content_digest").bind Digest.ofText?
  let digest ← if (v.get? "canonical_material_digest").any (falsy floats) then some content
    else (v.text? "canonical_material_digest").bind Digest.ofText?
  let ready ← int? v "ready_at"
  let fresh ← int? v "freshness_until"
  SupervisorRuntimeBindingReceipt.make source record candidate context resolved content ready fresh digest

/-- `SupervisorRuntimeBindingReceipt.from_canonical` -/
def SupervisorRuntimeBindingReceipt.fromCanonical (text : String) : Except String SupervisorRuntimeBindingReceipt :=
  demand ((canonicalDict? floats SupervisorRuntimeBindingReceipt.payloadKeys text).bind (receipt? floats))
    "supervisor runtime receipt material is invalid"

/-! ## What is written is read -/

section Reading

omit [DecidableEq F]

theorem distinct_digests (digests : List Digest) : Json.DistinctItems (digests.map .digest) := by
  rw [Json.distinctItems_iff]
  simp [Json.Distinct]

theorem canonical_payload (b : RuntimeBinding) : (b.canonicalPayload.value : Value F).Canonical := by
  refine Json.value_canonical _ ⟨by simp, ?_⟩
  simp [Json.DistinctFields, Json.Distinct, distinct_digests]

theorem canonical_receipt (r : SupervisorRuntimeBindingReceipt) : (r.payload.value : Value F).Canonical :=
  Json.value_canonical _ ⟨by simp, by simp [Json.DistinctFields, Json.Distinct]⟩

theorem digests?_map (digests : List Digest) : digests? (.arr (Json.values (digests.map .digest)) : Value F) = some digests := by
  unfold digests?
  induction digests with
  | nil => rfl
  | cons d digests ih =>
    simp only at ih ⊢
    rw [List.map_cons, Json.values, List.mapM_cons, ih]
    simp [Json.value]

theorem make_self (b : RuntimeBinding) : RuntimeBinding.make b.resolvedDigest b.workerProfileIdentity
    b.supervisorProfileIdentities b.reviewCompleteRounds b.reviewMaxRounds b.reviewMaxSupervisorAttemptsPerRound
    b.reviewOnFinalFindings b.reviewPolicyDigest =
      some b := by
  rw [RuntimeBinding.make, dif_pos b.profiles, dif_pos b.reviewPolicy]

theorem binding?_payload (b : RuntimeBinding) : binding? (b.canonicalPayload.value : Value F) = some b := by
  simp [binding?, RuntimeBinding.canonicalPayload, Json.value, Json.fieldValues, Value.text?, int?, digests?_map, make_self]

theorem hasKeys_payload (b : RuntimeBinding) : (b.canonicalPayload.value : Value F).hasKeys RuntimeBinding.payloadKeys = true := by
  simp [RuntimeBinding.canonicalPayload, Json.value, Json.fieldValues, RuntimeBinding.payloadKeys]

theorem isDict_payload (b : RuntimeBinding) : (b.canonicalPayload.value : Value F).isDict = true := by
  simp [RuntimeBinding.canonicalPayload, Json.value]

theorem hasKeys_receipt (r : SupervisorRuntimeBindingReceipt) :
    (r.payload.value : Value F).hasKeys SupervisorRuntimeBindingReceipt.payloadKeys = true := by
  simp [SupervisorRuntimeBindingReceipt.payload, Json.value, Json.fieldValues, SupervisorRuntimeBindingReceipt.payloadKeys]

theorem isDict_receipt (r : SupervisorRuntimeBindingReceipt) : (r.payload.value : Value F).isDict = true := by
  simp [SupervisorRuntimeBindingReceipt.payload, Json.value]

theorem canonicalDict?_dumps {keys : List String} {v : Value F} (hv : v.Canonical) (hdict : v.isDict = true)
    (hkeys : v.hasKeys keys = true) : canonicalDict? floats keys (dumps floats v) = some v := by
  rw [canonicalDict?, loads_dumps floats hv]
  simp [Option.filter, hdict, hkeys]

/-- A binding is read back from its text exactly when its policy digest is the digest of its policy. -/
theorem fromCanonical_canonicalMaterial (b b' : RuntimeBinding) :
    RuntimeBinding.fromCanonical host floats (b.canonicalMaterial floats) = .ok b' ↔
      b' = b ∧ b.reviewPolicyDigest = b.policyDigest host := by
  rw [RuntimeBinding.fromCanonical, RuntimeBinding.canonicalMaterial,
    canonicalDict?_dumps floats (canonical_payload b) (isDict_payload b) (hasKeys_payload b), Option.bind_some, binding?_payload,
    demand_eq_ok, Option.filter_eq_some_iff, Option.some.injEq, decide_eq_true_eq]
  constructor
  · rintro ⟨rfl, hdigest⟩
    exact ⟨rfl, hdigest⟩
  · rintro ⟨rfl, hdigest⟩
    exact ⟨rfl, hdigest⟩

theorem policyDigest_of_fromCanonical {text : String} {b : RuntimeBinding}
    (h : RuntimeBinding.fromCanonical host floats text = .ok b) :
    b.reviewPolicyDigest = b.policyDigest host :=
  of_decide_eq_true (Option.filter_eq_some_iff.1 (demand_eq_ok.1 h)).2

theorem canonicalMaterial_injective {b b' : RuntimeBinding}
    (h : b.canonicalMaterial floats = b'.canonicalMaterial floats) : b = b' := by
  have hvalues := dumps_injective floats (canonical_payload b) (canonical_payload b') h
  have hread := binding?_payload (F := F) b
  rw [hvalues, binding?_payload] at hread
  exact (Option.some.inj hread).symm

end Reading

/-- A receipt is read back from its text. -/
theorem fromCanonical_material (r : SupervisorRuntimeBindingReceipt) :
    SupervisorRuntimeBindingReceipt.fromCanonical floats (r.material floats) = .ok r := by
  have hread : receipt? floats (r.payload.value : Value F) = some r := by
    have hdigest : (falsy floats (.str r.canonicalMaterialDigest.text) : Bool) = false := by
      simp [falsy, Digest.text]
    simp [receipt?, SupervisorRuntimeBindingReceipt.payload, Json.value, Json.fieldValues, Value.text?, int?, hdigest,
      SupervisorRuntimeBindingReceipt.make, r.window]
  rw [SupervisorRuntimeBindingReceipt.fromCanonical, SupervisorRuntimeBindingReceipt.material,
    canonicalDict?_dumps floats (canonical_receipt r) (isDict_receipt r) (hasKeys_receipt r), Option.bind_some, hread]
  rfl

end Roundwright.State
