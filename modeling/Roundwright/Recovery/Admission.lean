/-
The admission of a failure: the attempt it names must have been admitted under exactly the identities of
its binding, and the task must still have the candidate seal, the runtime binding, the health
authorization and the checkpoints it had then.
-/
import Roundwright.Recovery.Store

namespace Roundwright.Recovery

open Lib State

/-- `_DIGEST` on a text. -/
def isDigestText (text : String) : Bool :=
  text.toList.take 7 = "sha256:".toList && isHex 64 (String.ofList (text.toList.drop 7))

/-- The content of a quoted text without escapes. -/
def unquote : List Char → Option String
  | '"' :: rest =>
    match rest.reverse with
    | '"' :: content => if content.any (fun c => c = '"' ∨ c = '\\') then none else some (String.ofList content.reverse)
    | _ => none
  | _ => none

/-- `json.loads` of an array of texts as `json.dumps` writes it. -/
def jsonTexts? (text : String) : Option (List String) :=
  match text.toList with
  | '[' :: rest =>
    if rest = [']'] then some []
    else
      match rest.reverse with
      | ']' :: items => (items.reverse.splitOn ',').mapM unquote
      | _ => none
  | _ => none

section Reads

variable (host : Host) (s : Store) (identity : TaskIdentity) (binding : FailureBinding)

/-! ## Dependency review -/

def reviewDrifted : Error := .failureRecovery "dependency review failure admission is unavailable or has drifted"

/-- `_require_current_dependency_review_authority` -/
def requireCurrentDependencyReviewAuthority : Except Error Unit := do
  let drifted : Error := .failureRecovery "dependency review failure authority is unavailable or has drifted"
  let sealed ← demand (s.ledger.seal? identity.taskId) drifted
  let runtime ← demand (s.ledger.runtimeBinding? identity.taskId) drifted
  refuse (sealed.baseSha ≠ identity.baseSha ∨ sealed.candidateSha ≠ binding.candidateSha.text ∨ sealed.stateIdentity = "" ∨
    runtime.schemaVersion ≠ RuntimeBinding.schemaVersion ∨ runtime.resolvedDigest ≠ binding.configurationDigest.text) drifted

/-- The session of a dependency-review dispatch that a binding may name. -/
def dependencySessionMatches (claim : Dependency.DispatchClaim) (preDispatch : String) : Bool :=
  match claim with
  | .preDispatch => binding.sessionIdentity.val = preDispatch
  | .sessionOpened session => session.val = binding.sessionIdentity.val
  | .turnDispatched session _ => session.val = binding.sessionIdentity.val

/-- `_require_dependency_review_admission` -/
def requireDependencyReviewAdmission : Except Error Unit := do
  let admitted ← demand (s.admissions.rows.find? fun r => r.attemptId.val = binding.attemptIdentity.val) reviewDrifted
  let attempt ← demand (s.attempts.rows.find? fun r => r.attemptId.val = binding.attemptIdentity.val) reviewDrifted
  let claim ← demand (s.claims.rows.find? fun r => r.attemptId.val = binding.attemptIdentity.val) reviewDrifted
  let subset ← demand (s.subsets.rows.find? fun r => r.snapshotId = attempt.snapshotId) reviewDrifted
  let a := admitted.admission
  refuse (¬ (a.taskId = identity.taskId ∧ a.candidateSha = binding.candidateSha ∧ a.policyDigest = binding.policyDigest ∧
    a.configurationDigest = binding.configurationDigest ∧ a.authorityScope = binding.authorityScope.val ∧
    a.providerRole = binding.role.value ∧ a.profileIdentity = binding.profileIdentity ∧
    a.sessionIdentity = binding.sessionIdentity.val ∧ a.attemptIdentity.val = binding.attemptIdentity.val)) reviewDrifted
  refuse (attempt.taskId.val ≠ identity.taskId ∨ attempt.profileIdentity ≠ binding.profileIdentity ∨
    attempt.configurationDigest ≠ binding.configurationDigest ∨ subset.taskId.val ≠ identity.taskId ∨
    subset.candidateSha ≠ binding.candidateSha ∨ subset.policyDigest ≠ binding.policyDigest ∨
    subset.configurationDigest ≠ binding.configurationDigest) reviewDrifted
  let preDispatch ← preDispatchFailureIdentity host .dependencyReview binding.attemptIdentity.val
  refuse (dependencySessionMatches binding claim.claim preDispatch = false) reviewDrifted
  requireCurrentDependencyReviewAuthority s identity binding

/-! ## Provider attempts -/

def authorityDrifted : Error := .failureRecovery "durable failure authority is unavailable or has drifted"

/-- The profile a role may run under. -/
def profileAllowed (workerProfile : String) (supervisorProfiles : List String) : Bool :=
  match binding.role with
  | .worker => workerProfile = binding.profileIdentity.text
  | .supervisor => binding.profileIdentity.text ∈ supervisorProfiles
  | .dependencyReview => false

/-- The health authorization is well formed, is of the binding, and is sealed. -/
def healthSealed (health : Provider.HealthValues) (sealed : String) : Bool :=
  isHex 40 health.contractCommit && health.candidateSha = some binding.candidateSha.text && isName health.caseId &&
    isDigestText health.receiptDigest && 0 ≤ health.selectionOrdinal && 0 < health.freshUntil &&
    isDigestText health.healthContractIdentity && health.providerRole = binding.role.value &&
    health.profileIdentity = binding.profileIdentity.text && isHex 64 sealed &&
    sealed = health.fingerprint host binding.attemptIdentity.val

/-- `_require_current_admission_authority` -/
def requireCurrentAdmissionAuthority : Except Error Unit := do
  let sealed ← demand (s.ledger.seal? identity.taskId) authorityDrifted
  let runtime ← demand (s.ledger.runtimeBinding? identity.taskId) authorityDrifted
  let context ← demand (s.context? binding.attemptIdentity.val) authorityDrifted
  let health ← demand (s.health? binding.attemptIdentity.val) authorityDrifted
  let attempt ← demand (s.providerAttempt? binding.attemptIdentity.val) authorityDrifted
  let before ← demand (s.checkpoint? (binding.attemptIdentity.val ++ ":before-dispatch")) authorityDrifted
  let contextSupervisors ← demand (jsonTexts? context.values.runtime.supervisorProfileIdentities) authorityDrifted
  let runtimeSupervisors ← demand (jsonTexts? runtime.supervisorProfileIdentities) authorityDrifted
  let v := context.values
  refuse (sealed.baseSha ≠ identity.baseSha ∨ sealed.candidateSha ≠ binding.candidateSha.text ∨ sealed.stateIdentity = "" ∨
    context.taskId ≠ identity.taskId ∨
    v.candidateFingerprint ≠ some (Provider.fingerprint host binding.candidateSha.text) ∨
    v.policyFingerprint ≠ binding.policyDigest.hex.text ∨ v.runtime.configurationDigest ≠ binding.configurationDigest.text ∨
    v.runtime.workerProfileIdentity ≠ runtime.workerProfileIdentity ∨ contextSupervisors ≠ runtimeSupervisors ∨
    runtime.schemaVersion ≠ RuntimeBinding.schemaVersion ∨ runtime.resolvedDigest ≠ binding.configurationDigest.text ∨
    v.runtime.schemaVersion ≠ runtime.schemaVersion ∨
    profileAllowed binding runtime.workerProfileIdentity runtimeSupervisors = false ∨
    attempt.taskId ≠ identity.taskId ∨ attempt.role.value ≠ binding.role.value ∨
    attempt.selectedProfileIdentity ≠ binding.profileIdentity.text) authorityDrifted
  let healthSeal ← demand (s.healthSeal? binding.attemptIdentity.val) authorityDrifted
  refuse (healthSealed host binding health healthSeal = false) authorityDrifted
  let expectedCheckpoint := v.checkpointFingerprint host healthSeal
  refuse (¬ (before.taskId = identity.taskId ∧ before.role.value = binding.role.value ∧ before.phase = .beforeDispatch ∧
    before.attemptId = binding.attemptIdentity.val ∧ before.identityFingerprint = expectedCheckpoint)) authorityDrifted
  let preDispatch ← preDispatchFailureIdentity host binding.role binding.attemptIdentity.val
  if binding.sessionIdentity.val = preDispatch then
    refuse (attempt.sessionIdentity ≠ none ∨ s.sessionCheckpoint? binding.attemptIdentity.val ≠ none ∨
      s.dispatchClaim? binding.attemptIdentity.val ≠
        some ⟨binding.attemptIdentity.val, identity.taskId, attempt.inputFingerprint⟩) authorityDrifted
  else
    refuse (s.sessionCheckpoint? binding.attemptIdentity.val ≠
        some ⟨binding.attemptIdentity.val, identity.taskId, binding.sessionIdentity.val, expectedCheckpoint⟩ ∨
      attempt.sessionIdentity ≠ some binding.sessionIdentity.val) authorityDrifted

def admissionDrifted : Error := .failureRecovery "durable failure admission is unavailable or has drifted"

/-- The part of `_require_attempt_admission` about provider attempts. -/
def requireProviderAdmission : Except Error Unit := do
  let admission ← demand (s.failureAdmission? binding.attemptIdentity.val) admissionDrifted
  let attempt ← demand (s.providerAttempt? binding.attemptIdentity.val) admissionDrifted
  let context ← demand (s.context? binding.attemptIdentity.val) admissionDrifted
  refuse (admission ≠ ⟨identity.taskId, binding.candidateSha.text, binding.policyDigest.text, binding.configurationDigest.text,
    binding.authorityScope.val, binding.role.value, binding.profileIdentity.text, binding.sessionIdentity.val,
    binding.attemptIdentity.val⟩) admissionDrifted
  refuse (attempt.taskId ≠ identity.taskId ∨ attempt.role.value ≠ binding.role.value ∨
    attempt.selectedProfileIdentity ≠ binding.profileIdentity.text ∨ context.taskId ≠ identity.taskId ∨
    context.values.candidateFingerprint ≠ some (Provider.fingerprint host binding.candidateSha.text) ∨
    context.values.policyFingerprint ≠ binding.policyDigest.hex.text ∨
    context.values.runtime.configurationDigest ≠ binding.configurationDigest.text) admissionDrifted
  let preDispatch ← preDispatchFailureIdentity host binding.role binding.attemptIdentity.val
  refuse (¬ (attempt.sessionIdentity = some binding.sessionIdentity.val ∨
    (attempt.sessionIdentity = none ∧ binding.sessionIdentity.val = preDispatch ∧
      s.dispatchClaim? binding.attemptIdentity.val =
        some ⟨binding.attemptIdentity.val, identity.taskId, attempt.inputFingerprint⟩))) admissionDrifted
  requireCurrentAdmissionAuthority host s identity binding

/-- `_require_attempt_admission` -/
def requireAttemptAdmission : Except Error Unit :=
  if binding.role = .dependencyReview then requireDependencyReviewAdmission host s identity binding
  else requireProviderAdmission host s identity binding

end Reads

/-! ## A database with an admitted attempt -/

namespace Sample

def digest (n : Nat) : Digest := .sha256 (.ofNat 64 n)
def candidate : Sha := .ofNat 40 1

def identity : TaskIdentity := ⟨"task", "source", "repository", "branch", "/w", (Hex.ofNat 40 0).text⟩

def ledger : Ledger := { Ledger.initial "state" with
  tasks := ⟨[⟨identity, .implementing, none, "/w"⟩], by decide⟩
  branchOwners := ⟨[⟨"branch", "task"⟩], by decide⟩
  worktreeOwners := ⟨[⟨"/w", "task"⟩], by decide⟩
  seals := ⟨[⟨"task", identity.baseSha, candidate.text, "state"⟩], by decide⟩
  runtimeBindings := ⟨[⟨"task", "roundwright-runtime/v1", (digest 2).text, "", ""⟩], by simp⟩ }

/-- The identity of a dependency-review attempt. -/
def binding : FailureBinding :=
  ⟨candidate, digest 1, digest 2, ⟨"scope", by decide⟩, .dependencyReview, digest 4, ⟨"session", by decide⟩,
    ⟨"attempt", by decide⟩⟩

def attempt : Token := ⟨"attempt", by decide⟩

theorem snapshot_isToken : isToken "snapshot" = true := by decide
theorem task_isToken : isToken "task" = true := by decide
theorem reason_isReason : isReason "reason" = true := by decide

def snapshot : Token := ⟨"snapshot", snapshot_isToken⟩
def task : Token := ⟨"task", task_isToken⟩

/-- A sealed candidate and an admitted attempt whose session is open, and no failure yet. -/
def admitted : Store := { Store.initial (.initial (.initial ledger fun _ _ => .ok ()) .empty) with
  ledger := ledger
  subsets := ⟨[⟨⟨snapshot, task, .ofNat 64 7, candidate, digest 1, digest 2, digest 3, ⟨"reason", reason_isReason⟩⟩, digest 5, 0⟩], by simp⟩
  attempts := ⟨[⟨attempt, task, snapshot, digest 4, digest 2, digest 6, none, .prepared⟩], by simp⟩
  claims := ⟨[⟨attempt, .sessionOpened ⟨"session", by decide⟩⟩], by simp⟩
  admissions := ⟨[⟨attempt, "task", candidate, digest 1, digest 2, "scope", "dependency-review", digest 4, "session", attempt⟩],
    by simp⟩ }

end Sample

open Sample in
example : requireAttemptAdmission .sample admitted identity binding = .ok () := by decide +kernel

end Roundwright.Recovery
