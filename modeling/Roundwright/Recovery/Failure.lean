/-
Failure records: what a failure is, which evidence may establish it, what it decides, and the identity it
is bound to. A record that exists is in the compatibility matrix.
-/
import Roundwright.Identity
import Roundwright.Lib.Transaction

namespace Roundwright.Recovery

open Lib

/-- `_TOKEN` of the recovery modules: a letter or a digit, then letters, digits, `.`, `_`, `:`, `/`, `-`. -/
def isName (text : String) : Bool :=
  match text.toList with
  | [] => false
  | c :: cs => c.isAlphanum && cs.all fun c => c.isAlphanum || c ∈ ['.', '_', ':', '/', '-']

abbrev Name := { text : String // isName text = true }

inductive FailureRole where
  | worker | supervisor | dependencyReview
deriving DecidableEq

def FailureRole.value : FailureRole → String
  | .worker => "worker"
  | .supervisor => "supervisor"
  | .dependencyReview => "dependency-review"

inductive FailureClass where
  | partialIncrement | ordinaryReviewHandoff | validationRunning | noProgress | sessionTerminated | formatInvalid
  | missingOutput | topologyViolation | hostSecurityDenial | transientService | credentialFailure | missingOwnerScope
  | budgetExhausted | ambiguousEffect | unknown
deriving DecidableEq

def FailureClass.value : FailureClass → String
  | .partialIncrement => "partial-increment"
  | .ordinaryReviewHandoff => "ordinary-review-handoff"
  | .validationRunning => "validation-running"
  | .noProgress => "no-progress"
  | .sessionTerminated => "session-terminated"
  | .formatInvalid => "format-invalid"
  | .missingOutput => "missing-output"
  | .topologyViolation => "topology-violation"
  | .hostSecurityDenial => "host-security-denial"
  | .transientService => "transient-service"
  | .credentialFailure => "credential-failure"
  | .missingOwnerScope => "missing-owner-scope"
  | .budgetExhausted => "budget-exhausted"
  | .ambiguousEffect => "ambiguous-effect"
  | .unknown => "unknown"

inductive EvidenceSource where
  | verifiedOutput | verifiedHost | verifiedLifecycle | verifiedTopology | verifiedService | modelSelfReport | unavailable
deriving DecidableEq

def EvidenceSource.value : EvidenceSource → String
  | .verifiedOutput => "verified-output"
  | .verifiedHost => "verified-host"
  | .verifiedLifecycle => "verified-lifecycle"
  | .verifiedTopology => "verified-topology"
  | .verifiedService => "verified-service"
  | .modelSelfReport => "model-self-report"
  | .unavailable => "unavailable"

/-- A source nothing is verified by. -/
def EvidenceSource.untrusted (e : EvidenceSource) : Bool := e = .modelSelfReport ∨ e = .unavailable

inductive EvidenceConfidence where
  | verified | unavailable
deriving DecidableEq

def EvidenceConfidence.value : EvidenceConfidence → String
  | .verified => "verified"
  | .unavailable => "unavailable"

/-- What a failure record decides. -/
inductive RecoveryAction where
  | continueSameSession | reconcile | stopScope | preboundFallback
deriving DecidableEq

def RecoveryAction.value : RecoveryAction → String
  | .continueSameSession => "continue-same-session"
  | .reconcile => "reconcile"
  | .stopScope => "stop-scope"
  | .preboundFallback => "prebound-fallback"

/-! ## The compatibility matrix -/

structure FailureCompatibility where
  evidenceSources : List EvidenceSource
  action : RecoveryAction
  retryable : Bool
  clearanceRequired : Bool

/-- `_FAILURE_COMPATIBILITY_MATRIX` -/
def FailureClass.compatibility : FailureClass → FailureCompatibility
  | .partialIncrement => ⟨[.verifiedOutput], .continueSameSession, false, false⟩
  | .ordinaryReviewHandoff => ⟨[.verifiedOutput], .continueSameSession, false, false⟩
  | .validationRunning => ⟨[.verifiedLifecycle], .continueSameSession, false, false⟩
  | .noProgress => ⟨[.verifiedOutput], .continueSameSession, false, false⟩
  | .sessionTerminated => ⟨[.verifiedLifecycle], .preboundFallback, true, false⟩
  | .formatInvalid => ⟨[.verifiedOutput], .preboundFallback, true, false⟩
  | .missingOutput => ⟨[.verifiedOutput], .reconcile, false, false⟩
  | .topologyViolation => ⟨[.verifiedTopology], .reconcile, false, false⟩
  | .hostSecurityDenial => ⟨[.verifiedHost], .stopScope, false, true⟩
  | .transientService => ⟨[.verifiedService], .preboundFallback, true, false⟩
  | .credentialFailure => ⟨[.verifiedHost], .reconcile, false, true⟩
  | .missingOwnerScope => ⟨[.verifiedLifecycle], .stopScope, false, true⟩
  | .budgetExhausted => ⟨[.verifiedService], .reconcile, false, true⟩
  | .ambiguousEffect => ⟨[.verifiedOutput], .reconcile, false, false⟩
  | .unknown => ⟨[.verifiedOutput, .verifiedHost, .verifiedLifecycle, .verifiedTopology, .verifiedService, .modelSelfReport,
      .unavailable], .reconcile, false, false⟩

/-! ## Records -/

structure FailureBinding where
  candidateSha : Sha
  policyDigest : Digest
  configurationDigest : Digest
  authorityScope : Name
  role : FailureRole
  profileIdentity : Digest
  sessionIdentity : Name
  attemptIdentity : Name
deriving DecidableEq

/-- `_binding_payload` -/
def FailureBinding.payload (b : FailureBinding) : Json :=
  .obj [("candidate_sha", .hex b.candidateSha), ("policy_digest", .digest b.policyDigest),
    ("configuration_digest", .digest b.configurationDigest), ("authority_scope", .str b.authorityScope.val),
    ("role", .str b.role.value), ("profile_identity", .digest b.profileIdentity),
    ("session_identity", .str b.sessionIdentity.val), ("attempt_identity", .str b.attemptIdentity.val)]

/-- `_CLEARANCE_CONDITIONS`, the only conditions a `ClearanceConditionSet` may list. -/
def clearanceConditions : List String :=
  ["dedicated-denial-authority", "exact-denial-target", "current-candidate-seal", "verified-host-result", "single-use-command"]

inductive RecordSchema where
  | v1 | v2 | v3
deriving DecidableEq

def RecordSchema.value : RecordSchema → String
  | .v1 => "roundwright-failure-recovery/v1"
  | .v2 => "roundwright-failure-recovery/v2"
  | .v3 => "roundwright-failure-recovery/v3"

/-- The fields of a record; `clearanceConditions` says whether there is a condition set, which has one value. -/
structure RecordFields where
  binding : FailureBinding
  failure : FailureClass
  evidence : EvidenceSource
  retryable : Bool
  action : RecoveryAction
  clearanceRequired : Bool
  evidenceConfidence : EvidenceConfidence
  recordSchema : RecordSchema
  clearanceConditions : Bool
  clearanceProvenance : Option FailureBinding
deriving DecidableEq

namespace RecordFields

variable (r : RecordFields)

/-- `_require_failure_compatibility` -/
def requireFailureCompatibility : Except Error Unit := do
  let expected := r.failure.compatibility
  if r.recordSchema = .v1 then
    refuse ((r.action, r.retryable, r.clearanceRequired) ≠
      (expected.action, expected.retryable, expected.clearanceRequired))
        (.failureRecovery "legacy failure recovery category is incompatible")
  else do
    refuse (r.evidence ∉ expected.evidenceSources) (.failureRecovery "failure evidence taxonomy is incompatible")
    refuse (r.failure ≠ .unknown ∧ r.evidenceConfidence ≠ .verified)
      (.failureRecovery "authenticated failure evidence is unavailable")
    refuse ((r.action, r.retryable, r.clearanceRequired) ≠
      (expected.action, expected.retryable, expected.clearanceRequired))
        (.failureRecovery "failure recovery category is incompatible")

/-- `__post_init__` -/
def check : Except Error Unit := do
  refuse (r.recordSchema = .v1 ∧ r.evidenceConfidence ≠ .unavailable)
    (.failureRecovery "legacy failure evidence confidence is unavailable")
  refuse (r.evidence.untrusted ∧ r.evidenceConfidence ≠ .unavailable)
    (.failureRecovery "untrusted failure evidence cannot be verified")
  refuse (r.failure = .hostSecurityDenial ∧ (r.retryable ∨ r.action ≠ .stopScope ∨ ¬ r.clearanceRequired))
    (.failureRecovery "security denial must stop its scope")
  refuse (r.recordSchema = .v3 ∧
    r.clearanceRequired ≠ (r.clearanceConditions ∧ r.clearanceProvenance = some r.binding : Bool))
      (.failureRecovery "security denial clearance provenance is invalid")
  refuse (r.recordSchema ≠ .v3 ∧ (r.clearanceConditions ∨ r.clearanceProvenance ≠ none))
    (.failureRecovery "legacy failure clearance provenance is invalid")
  refuse ((r.failure = .unknown ∨ r.failure = .missingOutput ∨ r.failure = .ambiguousEffect) ∧
    (r.retryable ∨ r.action ≠ .reconcile)) (.failureRecovery "unverified outcome must reconcile")
  r.requireFailureCompatibility

/-- `_payload` -/
def payload : Json :=
  .obj ([("schema", .str r.recordSchema.value), ("binding", r.binding.payload), ("failure", .str r.failure.value),
    ("evidence", .str r.evidence.value), ("retryable", .bool r.retryable), ("action", .str r.action.value),
    ("clearance_required", .bool r.clearanceRequired)] ++
    (if r.recordSchema = .v1 then [] else [("evidence_confidence", .str r.evidenceConfidence.value)]) ++
    (if r.recordSchema = .v3 then
      [("clearance_conditions", if r.clearanceConditions then
          .obj [("schema", .str "roundwright-denial-clearance-conditions/v1"),
            ("conditions", .arr (Recovery.clearanceConditions.map .str))]
        else .null),
        ("clearance_provenance", match r.clearanceProvenance with
          | some b => b.payload
          | none => .null)]
    else []))

end RecordFields

structure FailureRecord extends RecordFields where
  valid : toRecordFields.check = .ok ()
deriving DecidableEq

/-- The record with these fields, unless its constructor refuses them. -/
def RecordFields.record (r : RecordFields) : Except Error FailureRecord :=
  match h : r.check with
  | .ok () => .ok ⟨r, h⟩
  | .error e => .error e

namespace FailureRecord

variable (host : Host) (record : FailureRecord)

def digest : Digest := host.digestValue record.payload

theorem compatible : record.requireFailureCompatibility = .ok () := by
  have h := record.valid
  simp only [RecordFields.check, bind_eq_ok, exists_unit] at h
  exact h.2.2.2.2.2.2

end FailureRecord

/-! ## Classification -/

/-- `CodexFailure` -/
inductive CodexFailure where
  | authMissing | authExpired | authRejected | rateLimited | quotaLimited | quotaOrRateLimit | modelUnavailable
  | unsupportedCapability | sdkIncompatible | sandboxOrApprovalDenied | providerOutage | transportOrProviderOutage
  | malformedResponse | unknown
deriving DecidableEq

/-- `native_failure_class` of the native enumeration. -/
def nativeFailureClass : CodexFailure → FailureClass × EvidenceSource
  | .sandboxOrApprovalDenied => (.hostSecurityDenial, .verifiedHost)
  | .providerOutage | .transportOrProviderOutage => (.transientService, .verifiedService)
  | .authMissing | .authExpired | .authRejected => (.credentialFailure, .verifiedHost)
  | .rateLimited | .quotaLimited | .quotaOrRateLimit => (.budgetExhausted, .verifiedService)
  | .modelUnavailable | .unsupportedCapability | .sdkIncompatible | .malformedResponse | .unknown => (.unknown, .unavailable)

/-- `classify` of a source. -/
def classify (binding : FailureBinding) (failure : FailureClass) (evidence : EvidenceSource) : Except Error FailureRecord :=
  let confidence : EvidenceConfidence := if evidence.untrusted then .unavailable else .verified
  let failure := if confidence ≠ .verified then .unknown else failure
  let failure := if evidence ∉ failure.compatibility.evidenceSources then .unknown else failure
  let expected := failure.compatibility
  RecordFields.record ⟨binding, failure, evidence, expected.retryable, expected.action, expected.clearanceRequired,
    confidence, .v3, expected.clearanceRequired, if expected.clearanceRequired then some binding else none⟩

/-- `classify_native_failure` -/
def classifyNativeFailure (role : FailureRole) (binding : FailureBinding) (native : CodexFailure) : Except Error FailureRecord := do
  refuse (binding.role ≠ role) (.failureRecovery "failure role binding is invalid")
  classify binding (nativeFailureClass native).1 (nativeFailureClass native).2

/-- `pre_dispatch_failure_identity` -/
def preDispatchFailureIdentity (host : Host) (role : FailureRole) (attemptIdentity : String) : Except Error String := do
  refuse (isName attemptIdentity = false) (.failureRecovery "pre-dispatch failure identity is invalid")
  let material := "roundwright-pre-dispatch-failure/v1\x00" ++ role.value ++ "\x00" ++ attemptIdentity
  return "pre-dispatch-" ++ role.value ++ "-" ++ String.ofList ((host.hexdigest material).text.toList.take 32)

end Roundwright.Recovery
