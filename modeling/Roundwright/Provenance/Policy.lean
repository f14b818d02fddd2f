/-
Dependency policies and what was observed of the dependencies. A control passes an execution boundary when its policy is
admitted and every dependency that the boundary needs was observed, is fresh and is the one the policy names.
-/
import Roundwright.Identity
import Roundwright.Lib.JsonText
import Roundwright.Lib.Transaction

namespace Roundwright.Provenance

open Lib Lib.JsonText

/-! ## The host -/

/-- The digests and the floats of the host. -/
structure Machine (F : Type) where
  host : Host
  floats : Floats F

section Texts

variable {F : Type} (m : Machine F)

def Machine.dumps (v : Value F) : String := JsonText.dumps m.floats v

/-- SHA-256 of a text. -/
def Machine.sha256 (text : String) : String := "sha256:" ++ (m.host.hexdigest text).text

/-- `_fingerprint` and `_v2_digest` -/
def Machine.fingerprint (v : Value F) : String := m.sha256 (m.dumps v)

/-- A tuple or list of texts. -/
def texts (items : List String) : Value F := .arr (items.map .str)

end Texts

/-! ## Texts -/

def isLowerOrDigit (c : Char) : Bool := c.isLower || c.isDigit

/-- `needle in text` -/
def occurs (needle text : String) : Bool := text.toList.tails.any fun rest => needle.toList.isPrefixOf rest

/-- `_DIGEST` and `_V2_DIGEST` -/
def isDigest (text : String) : Bool := text.toList.take 7 = "sha256:".toList && isHex 64 (String.ofList (text.toList.drop 7))

/-- `_REPOSITORY` and `_V2_REPOSITORY` -/
def isRepository (text : String) : Bool :=
  match text.toList.splitOn '/' with
  | [owner, name] =>
    let tail := fun c => isLowerOrDigit c || c ∈ ['.', '_', '-']
    headTail isLowerOrDigit tail 38 (String.ofList owner) && headTail isLowerOrDigit tail 99 (String.ofList name)
  | _ => false

/-- `_TASK` -/
def isTask (text : String) : Bool := headTail isLowerOrDigit (fun c => isLowerOrDigit c || c ∈ ['.', '_', '-']) 127 text

/-- `(0|[1-9][0-9]*)` -/
def isDecimal (cs : List Char) : Bool := cs = ['0'] || (cs.all Char.isDigit && cs.head?.any (· ≠ '0'))

/-- `_VERSION` -/
def isVersion (text : String) : Bool :=
  let parts := text.toList.splitOn '.'
  parts.length = 3 && parts.all isDecimal

/-- `_version_key`; tuples of one length compare as lists do. -/
def versionKey (text : String) : List Nat := (text.toList.splitOn '.').map decimalValue

/-- The order of `_compare_version`. -/
def compareVersion (left right : String) : Ordering :=
  if versionKey left < versionKey right then .lt else if versionKey right < versionKey left then .gt else .eq

/-! ## Evidence -/

inductive DependencyComponent where
  | package | providerRuntime | githubCli | buildBackend | gitExecutable | optionalAdapter
deriving DecidableEq

def DependencyComponent.value : DependencyComponent → String
  | .package => "package"
  | .providerRuntime => "provider-runtime"
  | .githubCli => "github-cli"
  | .buildBackend => "build-backend"
  | .gitExecutable => "git-executable"
  | .optionalAdapter => "optional-adapter"

def DependencyComponent.all : List DependencyComponent :=
  [.package, .providerRuntime, .githubCli, .buildBackend, .gitExecutable, .optionalAdapter]

/-- `DependencyComponent(text)` -/
def DependencyComponent.ofText? (text : String) : Option DependencyComponent := all.find? fun c => c.value = text

inductive DependencyStage where
  | dispatch | githubRead | githubMutation | packageBuild | providerQualification | optionalAdapter | gitEntrypoint

/-- `_CANONICAL_STAGE_REQUIREMENTS` -/
def DependencyStage.requirements : DependencyStage → List DependencyComponent
  | .dispatch => [.package, .providerRuntime, .githubCli, .buildBackend]
  | .githubRead => [.package, .githubCli]
  | .githubMutation => [.package, .githubCli]
  | .packageBuild => [.package, .buildBackend]
  | .providerQualification => [.package, .providerRuntime]
  | .optionalAdapter => [.package, .optionalAdapter]
  | .gitEntrypoint => [.package, .gitExecutable]

structure CandidateBinding where
  repository : String
  taskId : String
  candidateSha : String
  valid : isRepository repository = true ∧ isTask taskId = true ∧ isHex 40 candidateSha = true
deriving DecidableEq

structure VersionRange where
  minimum : String
  maximumExclusive : String
  valid : isVersion minimum = true ∧ isVersion maximumExclusive = true ∧ versionKey minimum < versionKey maximumExclusive
deriving DecidableEq

def VersionRange.contains (r : VersionRange) (version : String) : Bool :=
  isVersion version && versionKey r.minimum ≤ versionKey version && versionKey version < versionKey r.maximumExclusive

structure ComponentPolicy where
  component : DependencyComponent
  identifier : String
  versions : VersionRange
  sourceIdentity : String
  artifactDigest : String
  executableDigest : String
  valid : isToken identifier = true ∧ occurs "copilot" identifier = false ∧ isToken sourceIdentity = true ∧
    isDigest artifactDigest = true ∧ isDigest executableDigest = true
deriving DecidableEq

structure ObservedDependency where
  binding : CandidateBinding
  component : DependencyComponent
  identifier : String
  version : String
  sourceIdentity : String
  artifactDigest : String
  executableDigest : String
  observedAt : Int
  policyDigest : String
  valid : isToken identifier = true ∧ isVersion version = true ∧ isToken sourceIdentity = true ∧
    occurs "copilot" identifier = false ∧
    isDigest artifactDigest = true ∧ isDigest executableDigest = true ∧ isDigest policyDigest = true ∧ 0 ≤ observedAt
deriving DecidableEq

section Fingerprints

variable {F : Type} (m : Machine F)

def CandidateBinding.fingerprint (b : CandidateBinding) : String := m.fingerprint (.dict
  [("repository", .str b.repository), ("task_id", .str b.taskId), ("candidate_sha", .str b.candidateSha)])

def ComponentPolicy.evidence (p : ComponentPolicy) : Value F := .dict
  [("component", .str p.component.value), ("identifier", .str p.identifier), ("minimum", .str p.versions.minimum),
    ("maximum_exclusive", .str p.versions.maximumExclusive), ("source_identity", .str p.sourceIdentity),
    ("artifact_digest", .str p.artifactDigest), ("executable_digest", .str p.executableDigest)]

def ObservedDependency.fingerprint (o : ObservedDependency) : String := m.fingerprint (.dict
  [("binding", .str (o.binding.fingerprint m)), ("component", .str o.component.value),
    ("identifier", .str o.identifier), ("version", .str o.version), ("source_identity", .str o.sourceIdentity),
      ("artifact_digest", .str o.artifactDigest),
    ("executable_digest", .str o.executableDigest), ("observed_at", .int o.observedAt), ("policy_digest", .str o.policyDigest)])

/-- `_evidence_without_digest` of a review. -/
def reviewEvidence (binding : CandidateBinding) (reviewer authority previous current delta : String) : Value F := .dict
  [("binding", .str (binding.fingerprint m)), ("reviewer_identity", .str reviewer),
    ("authority_digest", .str authority), ("previous_policy_fingerprint", .str previous),
      ("current_policy_fingerprint", .str current), ("delta_digest", .str delta)]

/-- `_evidence_without_digest` of a bootstrap receipt. -/
def bootstrapEvidence (binding : CandidateBinding) (reviewer authority policy : String) : Value F := .dict
  [("binding", .str (binding.fingerprint m)), ("reviewer_identity", .str reviewer),
    ("authority_digest", .str authority), ("policy_fingerprint", .str policy)]

end Fingerprints

/-! ## Policies -/

section Policies

variable {F : Type} (m : Machine F)

structure PolicyTransitionReview where
  binding : CandidateBinding
  reviewerIdentity : String
  authorityDigest : String
  previousPolicyFingerprint : String
  currentPolicyFingerprint : String
  deltaDigest : String
  reviewDigest : String
  digests : isDigest reviewerIdentity = true ∧ isDigest authorityDigest = true ∧ isDigest previousPolicyFingerprint = true ∧
    isDigest currentPolicyFingerprint = true ∧ isDigest deltaDigest = true ∧ isDigest reviewDigest = true
  sealed : reviewDigest = m.fingerprint
    (reviewEvidence m binding reviewerIdentity authorityDigest previousPolicyFingerprint currentPolicyFingerprint deltaDigest)
deriving DecidableEq

structure BootstrapPolicyReceipt where
  binding : CandidateBinding
  reviewerIdentity : String
  authorityDigest : String
  policyFingerprint : String
  receiptDigest : String
  digests : isDigest reviewerIdentity = true ∧ isDigest authorityDigest = true ∧ isDigest policyFingerprint = true ∧
    isDigest receiptDigest = true
  sealed : receiptDigest = m.fingerprint (bootstrapEvidence m binding reviewerIdentity authorityDigest policyFingerprint)
deriving DecidableEq

/-- `PolicyTransition`: a kind with the review that it must have; a bootstrap may lack its receipt. -/
inductive PolicyTransition where
  | bootstrap (receipt : Option (BootstrapPolicyReceipt m))
  | upgrade (review : PolicyTransitionReview m)
  | rollback (review : PolicyTransitionReview m)
deriving DecidableEq

structure DependencyPolicy where
  binding : CandidateBinding
  policyDigest : String
  issuedAt : Int
  freshnessSeconds : Int
  components : List ComponentPolicy
  transition : PolicyTransition m
  valid : isDigest policyDigest = true ∧ 0 ≤ issuedAt ∧ 1 ≤ freshnessSeconds ∧ components ≠ [] ∧ (components.map (·.component)).Nodup
deriving DecidableEq

variable {m}

def DependencyPolicy.coreFingerprint (p : DependencyPolicy m) : String := m.fingerprint (.dict
  [("binding", .str (p.binding.fingerprint m)), ("policy_digest", .str p.policyDigest), ("issued_at", .int p.issuedAt),
    ("freshness_seconds", .int p.freshnessSeconds), ("components", .arr (p.components.map (·.evidence)))])

/-- `DependencyPolicy.component` -/
def DependencyPolicy.component? (p : DependencyPolicy m) (c : DependencyComponent) : Option ComponentPolicy :=
  p.components.find? fun policy => policy.component = c

variable (m)

structure TrustedDependencyAdmission where
  binding : CandidateBinding
  policyFingerprint : String
  receiptDigest : String
  reviewerIdentity : String
  authorityDigest : String
  previousPolicy : Option (DependencyPolicy m)
  valid : isDigest policyFingerprint = true ∧ isDigest receiptDigest = true ∧ isDigest reviewerIdentity = true ∧
    isDigest authorityDigest = true ∧ ∀ p ∈ previousPolicy, p.binding = binding
deriving DecidableEq

structure DependencyExecutionControl where
  policy : DependencyPolicy m
  observations : List ObservedDependency
  admission : TrustedDependencyAdmission m
  valid : admission.binding = policy.binding
deriving DecidableEq

variable {m}

/-! ## Admission -/

/-- `_policy_delta_digest` -/
def policyDeltaDigest (previous current : DependencyPolicy m) : String := m.fingerprint (.dict
  [("previous", .arr (previous.components.map (·.evidence))), ("current", .arr (current.components.map (·.evidence)))])

/-- How the bounds of the versions move, component by component; nothing where the components are not the same. -/
def versionMoves (previous current : DependencyPolicy m) : Option (List Ordering × List Ordering) := do
  let moves ← previous.components.mapM fun before => do
    let after ← current.component? before.component
    return (compareVersion after.versions.minimum before.versions.minimum,
      compareVersion after.versions.maximumExclusive before.versions.maximumExclusive)
  if current.components.length = previous.components.length then some (moves.map (·.1), moves.map (·.2)) else none

/-- `verify_policy_transition` -/
def verifyPolicyTransition (previous current : DependencyPolicy m) : Bool :=
  let verify (review : PolicyTransitionReview m) (against : Ordering) : Bool :=
    previous.binding = current.binding && review.binding = current.binding &&
      review.previousPolicyFingerprint = previous.coreFingerprint && review.currentPolicyFingerprint = current.coreFingerprint &&
      review.deltaDigest = policyDeltaDigest previous current &&
      (versionMoves previous current).any fun (minimum, maximum) =>
        (minimum ++ maximum).all (· ≠ against) && (minimum ++ maximum).any (· ≠ .eq)
  match current.transition with
  | .bootstrap _ => false
  | .upgrade review => verify review .lt
  | .rollback review => verify review .gt

variable [DecidableEq F]

/-- `verify_policy_admission` -/
def verifyPolicyAdmission (policy : DependencyPolicy m) (previous : Option (DependencyPolicy m))
    (admission : TrustedDependencyAdmission m) :
    Bool :=
  admission.binding = policy.binding && admission.policyFingerprint = policy.coreFingerprint &&
    match policy.transition with
    | .bootstrap (some receipt) =>
      admission.previousPolicy = none && receipt.binding = policy.binding && receipt.policyFingerprint =
        policy.coreFingerprint && (receipt.receiptDigest, receipt.reviewerIdentity, receipt.authorityDigest) =
          (admission.receiptDigest, admission.reviewerIdentity, admission.authorityDigest)
    | .bootstrap none => false
    | .upgrade review | .rollback review =>
      previous.any (fun p => some p = admission.previousPolicy && verifyPolicyTransition p policy) &&
        (review.reviewDigest, review.reviewerIdentity, review.authorityDigest) =
          (admission.receiptDigest, admission.reviewerIdentity, admission.authorityDigest)

/-! ## The preflight -/

/-- The time is within the freshness of the policy. -/
def DependencyPolicy.fresh (p : DependencyPolicy m) (since now : Int) : Bool := now - since ≤ p.freshnessSeconds && since ≤ now

/-- `_validate_observation`, with the code of the decision that blocks. -/
def validateObservation (policy : DependencyPolicy m) (expected : ComponentPolicy) (observed : ObservedDependency) (now : Int) :
    Except Error Unit := do
  refuse (observed.policyDigest ≠ policy.policyDigest) (.dependencyPolicy "candidate-mismatch")
  refuse (policy.fresh observed.observedAt now = false) (.dependencyPolicy "provenance-stale")
  refuse ((observed.identifier, observed.sourceIdentity, observed.artifactDigest) ≠
    (expected.identifier, expected.sourceIdentity, expected.artifactDigest)) (.dependencyPolicy "identity-mismatch")
  refuse (observed.executableDigest ≠ expected.executableDigest) (.dependencyPolicy "executable-mismatch")
  refuse (expected.versions.contains observed.version = false) (.dependencyPolicy "version-unsupported")

/-- `evaluate_dependency_preflight`: passes, or raises the code of the decision as `require` does. -/
def evaluateDependencyPreflight (binding : CandidateBinding) (policy : DependencyPolicy m)
    (observations : List ObservedDependency) (stage : DependencyStage) (now : Int)
    (previous : Option (DependencyPolicy m)) (admission : TrustedDependencyAdmission m) :
    Except Error Unit := do
  refuse (now < 0) (.dependencyPolicy "invalid-context")
  refuse (policy.binding ≠ binding) (.dependencyPolicy "candidate-mismatch")
  refuse (policy.fresh policy.issuedAt now = false) (.dependencyPolicy "policy-stale")
  refuse (verifyPolicyAdmission policy previous admission = false) (.dependencyPolicy "policy-transition-invalid")
  refuse (observations.any fun o => o.binding ≠ binding) (.dependencyPolicy "candidate-mismatch")
  refuse (¬ (observations.map (·.component)).Nodup) (.dependencyPolicy "duplicate-provenance")
  checkAll (fun component => do
    let expected ← demand (policy.component? component) (.dependencyPolicy "policy-coverage-missing")
    let observed ← demand (observations.find? fun o => o.component = component) (.dependencyPolicy "provenance-missing")
    validateObservation policy expected observed now) stage.requirements

/-- `DependencyExecutionControl.require` -/
def DependencyExecutionControl.require (c : DependencyExecutionControl m) (binding : CandidateBinding)
    (stage : DependencyStage) (now : Int) : Except Error Unit :=
  evaluateDependencyPreflight binding c.policy c.observations stage now c.admission.previousPolicy c.admission

end Policies

end Roundwright.Provenance
