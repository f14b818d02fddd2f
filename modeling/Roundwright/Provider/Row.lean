/-
The rows of the provider tables: attempts with what was observed of their turn, the identity evidence an
attempt was prepared under, and the Worker objectives attached to it.
-/
import Roundwright.Recovery.Failure
import Roundwright.State.RuntimeBinding

namespace Roundwright.Provider

open Lib State

inductive ProviderRole where
  | planning | worker | supervisor | aggregation
deriving DecidableEq

def ProviderRole.value : ProviderRole → String
  | .planning => "planning"
  | .worker => "worker"
  | .supervisor => "supervisor"
  | .aggregation => "aggregation"

inductive AttemptState where
  | prepared | dispatched | completed | accepted | ambiguous | blocked | invalidated
deriving DecidableEq

/-- What recovery decides; an accounting blocker is stored as `blockedAmbiguousTurn`. -/
inductive RecoveryAction where
  | retry | resumeSameSession | consumeVerifiedOutput | acceptedReview | blockedAmbiguousTurn | blockedStaleWorker
  | freshSupervisorSession | blockedRetryLimit | blockedIdentityDrift
deriving DecidableEq

def RecoveryAction.value : RecoveryAction → String
  | .retry => "retry"
  | .resumeSameSession => "resume-same-session"
  | .consumeVerifiedOutput => "consume-verified-output"
  | .acceptedReview => "accepted-review"
  | .blockedAmbiguousTurn => "blocked-ambiguous-turn"
  | .blockedStaleWorker => "blocked-stale-worker"
  | .freshSupervisorSession => "fresh-supervisor-session"
  | .blockedRetryLimit => "blocked-retry-limit"
  | .blockedIdentityDrift => "blocked-identity-drift"

/-! ## Attempts -/

/-- `provider_attempts` -/
structure AttemptRow where
  attemptId : String
  taskId : String
  role : ProviderRole
  attemptNumber : Nat
  processLeaseId : String
  processLeaseExpiresAt : Int
  sessionIdentity : Option String
  externalTurnIdentity : Option String
  inputFingerprint : String
  outputPointer : Option String
  completionEvidenceFingerprint : Option String
  acceptedReviewIdentity : Option String
  state : AttemptState
  selectedProfileIdentity : String
  logicalProfilePosition : Int
  physicalFormatOutputOrdinal : Int
deriving DecidableEq

def AttemptRow.clash (a b : AttemptRow) : Bool :=
  a.attemptId == b.attemptId ||
    (a.taskId == b.taskId && ((a.role == b.role && (a.attemptNumber == b.attemptNumber ||
      (a.externalTurnIdentity.isSome && a.externalTurnIdentity == b.externalTurnIdentity))) ||
      (a.acceptedReviewIdentity.isSome && a.acceptedReviewIdentity == b.acceptedReviewIdentity)))

/-- The CHECKs that tie the columns of an attempt together. -/
def AttemptRow.wellFormed (r : AttemptRow) : Bool :=
  (match r.externalTurnIdentity with
    | none => r.state = .prepared ∨ r.state = .blocked ∨ r.state = .invalidated
    | some _ => r.state ≠ .prepared) &&
  decide (r.state = .completed ∨ r.state = .accepted → r.outputPointer ≠ none ∧ r.completionEvidenceFingerprint ≠ none) &&
  decide (r.acceptedReviewIdentity ≠ none → r.role = .supervisor ∧ r.state = .accepted) && 0 < r.processLeaseExpiresAt

/-- `complete_columns` of a runtime binding. -/
structure RuntimeColumns where
  schemaVersion : String
  configurationDigest : String
  workerProfileIdentity : String
  supervisorProfileIdentities : String
  reviewCompleteRounds : Int
  reviewMaxRounds : Int
  reviewMaxSupervisorAttemptsPerRound : Int
  reviewOnFinalFindings : String
  reviewPolicyDigest : String
deriving DecidableEq

def completeColumns (b : RuntimeBinding) : RuntimeColumns :=
  ⟨RuntimeBinding.schemaVersion, b.resolvedDigest.text, b.workerProfileIdentity.text, b.supervisorProfilesText,
    b.reviewCompleteRounds, b.reviewMaxRounds, b.reviewMaxSupervisorAttemptsPerRound, b.reviewOnFinalFindings, b.reviewPolicyDigest⟩

/-- The columns of `provider_attempt_contexts` after the attempt and the task. -/
structure ContextValues where
  repositoryFingerprint : String
  worktreeFingerprint : String
  branchFingerprint : String
  baseFingerprint : String
  candidateFingerprint : Option String
  policyFingerprint : String
  deploymentFingerprint : String
  runtime : RuntimeColumns
deriving DecidableEq

/-- `_fingerprint` -/
def fingerprint (host : Host) (text : String) : String := (host.hexdigest text).text

def joined (texts : List String) : String := "\x00".intercalate texts

/-- `_context_fingerprint` -/
def ContextValues.fingerprint (host : Host) (v : ContextValues) : String :=
  Provider.fingerprint host (joined
    [v.repositoryFingerprint, v.worktreeFingerprint, v.branchFingerprint, v.baseFingerprint,
      v.candidateFingerprint.getD "", v.policyFingerprint, v.deploymentFingerprint, v.runtime.schemaVersion,
    v.runtime.configurationDigest, v.runtime.workerProfileIdentity, v.runtime.supervisorProfileIdentities,
    toString v.runtime.reviewCompleteRounds, toString v.runtime.reviewMaxRounds,
    toString v.runtime.reviewMaxSupervisorAttemptsPerRound, v.runtime.reviewOnFinalFindings, v.runtime.reviewPolicyDigest])

/-- `_checkpoint_fingerprint` -/
def ContextValues.checkpointFingerprint (host : Host) (v : ContextValues) (authorizationFingerprint : String) : String :=
  Provider.fingerprint host (joined [v.fingerprint host, authorizationFingerprint])

/-- `provider_attempt_contexts` -/
structure ContextRow where
  attemptId : String
  taskId : String
  values : ContextValues
deriving DecidableEq

def ContextRow.clash (a b : ContextRow) : Bool := a.attemptId == b.attemptId

/-- The columns of `provider_attempt_health_authorizations` after the attempt. -/
structure HealthValues where
  contractCommit : String
  candidateSha : Option String
  caseId : String
  receiptDigest : String
  selectionOrdinal : Int
  freshUntil : Int
  healthContractIdentity : String
  providerRole : String
  profileIdentity : String

/-- `_health_authorization_fingerprint` -/
def HealthValues.fingerprint (host : Host) (attemptId : String) (v : HealthValues) : String :=
  Provider.fingerprint host (joined [attemptId, v.contractCommit, v.candidateSha.getD "", v.caseId, v.receiptDigest,
    toString v.selectionOrdinal, toString v.freshUntil, v.healthContractIdentity, v.providerRole, v.profileIdentity])

structure HealthRow where
  attemptId : String
  values : HealthValues

def HealthRow.clash (a b : HealthRow) : Bool := a.attemptId == b.attemptId

/-- `provider_attempt_health_seals` -/
structure HealthSealRow where
  attemptId : String
  authorizationFingerprint : String

def HealthSealRow.clash (a b : HealthSealRow) : Bool := a.attemptId == b.attemptId

inductive CheckpointPhase where
  | beforeDispatch | afterDispatch
deriving DecidableEq

def CheckpointPhase.value : CheckpointPhase → String
  | .beforeDispatch => "before-dispatch"
  | .afterDispatch => "after-dispatch"

/-- `provider_checkpoints` -/
structure CheckpointRow where
  checkpointId : String
  taskId : String
  role : ProviderRole
  phase : CheckpointPhase
  attemptId : String
  identityFingerprint : String

def CheckpointRow.clash (a b : CheckpointRow) : Bool :=
  a.checkpointId == b.checkpointId ||
    (a.taskId == b.taskId && a.role == b.role && a.phase == b.phase && a.attemptId == b.attemptId)

/-- `provider_session_checkpoints` -/
structure SessionCheckpointRow where
  attemptId : String
  taskId : String
  sessionIdentity : String
  identityFingerprint : String
deriving DecidableEq

def SessionCheckpointRow.clash (a b : SessionCheckpointRow) : Bool := a.attemptId == b.attemptId

/-- `provider_dispatch_claims` -/
structure ClaimRow where
  attemptId : String
  taskId : String
  claimFingerprint : String
deriving DecidableEq

def ClaimRow.clash (a b : ClaimRow) : Bool := a.attemptId == b.attemptId

/-- The columns of `provider_failure_admissions` after the key. -/
structure Admission where
  taskId : String
  candidateSha : String
  policyDigest : String
  configurationDigest : String
  authorityScope : String
  providerRole : String
  profileIdentity : String
  sessionIdentity : String
  attemptIdentity : String
deriving DecidableEq

structure AdmissionRow where
  attemptId : String
  admission : Admission

def AdmissionRow.clash (a b : AdmissionRow) : Bool :=
  a.attemptId == b.attemptId ||
    (a.admission.taskId == b.admission.taskId && a.admission.providerRole == b.admission.providerRole &&
      a.admission.sessionIdentity == b.admission.sessionIdentity &&
      a.admission.attemptIdentity == b.admission.attemptIdentity)

/-! ## Outputs and outcomes -/

/-- `provider_completion_outputs` -/
structure CompletionOutputRow where
  attemptId : String
  outputFingerprint : String

def CompletionOutputRow.clash (a b : CompletionOutputRow) : Bool := a.attemptId == b.attemptId

/-- `provider_invalid_outputs` -/
structure InvalidOutputRow where
  taskId : String
  attemptId : String
  outputFingerprint : String
  reasonFingerprint : String

def InvalidOutputRow.clash (a b : InvalidOutputRow) : Bool :=
  a.attemptId == b.attemptId && a.outputFingerprint == b.outputFingerprint && a.reasonFingerprint == b.reasonFingerprint

/-- `_PersistedRecoveryOutcome` -/
structure Outcome where
  action : RecoveryAction
  blocker : Option String
deriving DecidableEq

/-- `provider_recovery_outcomes` -/
structure OutcomeRow where
  attemptId : String
  outcome : Outcome

def OutcomeRow.clash (a b : OutcomeRow) : Bool := a.attemptId == b.attemptId

/-- `provider_recovery_events` -/
structure RecoveryEventRow where
  taskId : String
  attemptId : String
  action : RecoveryAction
  observedAt : Int

/-! ## Reviews -/

/-- The columns of `accepted_provider_reviews` after the key. -/
structure AcceptedReview where
  taskId : String
  attemptId : String
  completionEvidenceFingerprint : Option String
  runtime : RuntimeColumns
  selectedProfileIdentity : String
  withinRoundAttempt : Int
  logicalProfilePosition : Int
  physicalFormatOutputOrdinal : Int
  reviewEpoch : Int
deriving DecidableEq

structure AcceptedReviewRow where
  acceptedReviewIdentity : String
  review : AcceptedReview

def AcceptedReviewRow.clash (a b : AcceptedReviewRow) : Bool :=
  a.acceptedReviewIdentity == b.acceptedReviewIdentity || a.review.attemptId == b.review.attemptId

/-- `supervisor_attempt_coordinates` -/
structure CoordinateRow where
  attemptId : String
  taskId : String
  reviewEpoch : Int
  reviewRound : Int
  logicalProfilePosition : Int
  physicalFormatOutputOrdinal : Int
  profileIdentity : String
deriving DecidableEq

def CoordinateRow.clash (a b : CoordinateRow) : Bool :=
  a.attemptId == b.attemptId ||
    (a.taskId == b.taskId && a.reviewEpoch == b.reviewEpoch && a.reviewRound == b.reviewRound &&
      a.logicalProfilePosition == b.logicalProfilePosition && a.physicalFormatOutputOrdinal == b.physicalFormatOutputOrdinal)

/-- `plan_review_attempts`, by its provider attempt. -/
structure PlanReviewRow where
  reviewAttemptId : String
  taskId : String
  providerAttemptId : String

inductive DiffReviewState where
  | dispatched | recorded | accepted
deriving DecidableEq

/-- `diff_review_attempts`, by its provider attempt. -/
structure DiffReviewRow where
  diffReviewAttemptId : String
  taskId : String
  providerAttemptId : String
  state : DiffReviewState
  acceptedReviewIdentity : Option String

/-! ## Worker objectives -/

inductive ImplementationState where
  | dispatched | recorded
deriving DecidableEq

/-- `implementation_attempts`, by its provider attempt. -/
structure ImplementationRow where
  implementationAttemptId : String
  taskId : String
  providerAttemptId : String
  workerThreadIdentity : String
  externalTurnIdentity : String
  state : ImplementationState
  repairCandidateSha : Option String

/-- `implementation_candidates` -/
structure ImplementationCandidateRow where
  implementationAttemptId : String
  baseSha : String
  candidateSha : String
  completionEvidenceFingerprint : String
  contentDigest : String

/-- `WorkerObjectiveResult` -/
structure WorkerObjectiveResult where
  candidateSha : String
  completionEvidenceFingerprint : String
  acceptedResultIdentity : String
deriving DecidableEq

/-- The state of an objective with the columns the table's CHECK ties to it. -/
inductive ObjectiveState where
  | active
  | completed (result : WorkerObjectiveResult)
  | cancelled (reasonDigest : String)
deriving DecidableEq

/-- The columns of an objective that never change. -/
structure ObjectiveIdentity where
  taskId : String
  dispatchSha : String
  providerAttemptId : String
  retryIdentity : String
  objectiveDigest : String
deriving DecidableEq

/-- `worker_objective_records` -/
structure ObjectiveRow where
  objectiveId : String
  identity : ObjectiveIdentity
  state : ObjectiveState

def ObjectiveRow.clash (a b : ObjectiveRow) : Bool :=
  a.objectiveId == b.objectiveId || a.identity.providerAttemptId == b.identity.providerAttemptId ||
    a.identity.retryIdentity == b.identity.retryIdentity ||
    (a.identity.taskId == b.identity.taskId && a.identity.dispatchSha == b.identity.dispatchSha &&
      a.identity.objectiveDigest == b.identity.objectiveDigest)

end Roundwright.Provider
