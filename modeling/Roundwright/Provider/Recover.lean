/-
The recovery of an attempt after a restart: one decision from the persisted row, the presented context and the
verified evidence, with the outcome, the event and the end of an abandoned Worker's objective in the same
transaction. The objectives are started, completed and cancelled by operations of their own.
-/
import Roundwright.Provider.Settle

namespace Roundwright.Provider

open Lib State Recovery

/-! ## Worker objectives -/

/-- `_cancel_objective_for_recovery_connection` checks before it looks at the objective. -/
def requireAbandonment (s : Store) (taskId attemptId reasonDigest : String) : Except Error Unit := do
  refuse (isToken attemptId = false ∨ isHex 64 reasonDigest = false) (.reviewLifecycle "Worker recovery cancellation is invalid")
  let lacking : Error := .reviewLifecycle "Worker recovery cancellation lacks terminal abandonment evidence"
  let row ← demand (s.providerAttempts.rows.find? fun r => r.taskId = taskId ∧ r.attemptId = attemptId) lacking
  let outcome ← demand (s.recoveryOutcome? attemptId) lacking
  refuse (row.role ≠ .worker ∨ (row.state ≠ .blocked ∧ row.state ≠ .ambiguous) ∨
    outcome.action ∉ [RecoveryAction.blockedStaleWorker, .blockedAmbiguousTurn, .blockedIdentityDrift, .blockedRetryLimit] ∨
    ¬ outcome.blocker.any isToken) lacking
  refuse (row.state = .ambiguous ∧ outcome = ⟨.blockedAmbiguousTurn, some "completion-evidence-unverified"⟩)
    (.reviewLifecycle "Worker recovery cancellation is unavailable while completion evidence remains recoverable")

/-- `UPDATE worker_objective_records SET state = …` of one objective. -/
def setObjective (objectiveId : String) (state : ObjectiveState) (s : Store) : Store :=
  { s with objectives := s.objectives.update (fun r => if r.objectiveId = objectiveId then { r with state } else r) (by
      intro a b
      split <;> split <;> rfl) }

/-- `_cancel_objective_for_recovery_connection` -/
def cancelObjectiveForRecovery (taskId attemptId reasonDigest : String) : Tx Error Store (Option ObjectiveRow) := do
  Tx.query fun s => requireAbandonment s taskId attemptId reasonDigest
  let objective ← Tx.query fun s => .ok (s.objectiveOf? taskId attemptId)
  match objective with
  | none => return none
  | some row =>
    match row.state with
    | .completed _ => return some row
    | .cancelled reason => do
      Tx.check (refuse (reason ≠ reasonDigest)
        (.reviewLifecycle "Worker objective terminal replay conflicts with committed state"))
      return some row
    | .active => do
      Tx.write fun s => .ok (setObjective row.objectiveId (.cancelled reasonDigest) s)
      return some { row with state := .cancelled reasonDigest }

/-- `WorkerObjective`, by what identifies it. -/
structure WorkerObjective where
  objectiveId : String
  identity : ObjectiveIdentity

/-- The constructor of `WorkerObjective`. -/
def WorkerObjective.check (o : WorkerObjective) : Except Error Unit :=
  refuse (isToken o.objectiveId = false ∨ isToken o.identity.taskId = false ∨ isToken o.identity.providerAttemptId = false ∨
    isToken o.identity.retryIdentity = false ∨ isHex 40 o.identity.dispatchSha = false ∨
      isHex 64 o.identity.objectiveDigest = false)
    (.reviewLifecycle "Worker objective is invalid")

/-- The constructor of `WorkerObjectiveResult`. -/
def WorkerObjectiveResult.check (r : WorkerObjectiveResult) : Except Error Unit :=
  refuse (isHex 64 r.completionEvidenceFingerprint = false ∨ isHex 64 r.acceptedResultIdentity = false ∨
    isHex 40 r.candidateSha = false) (.reviewLifecycle "Worker objective result is invalid")

variable (host : Host)

/-- `_require_lifecycle_authority` -/
def requireLifecycleAuthority (s : Store) (identity : TaskIdentity) (lease : Option TransitionLease) (now : Int) :
    Except Error Unit :=
  rewrap (do
    requireCurrentTransitionLease s.ledger lease identity.repositoryId now
    let _ ← requireMatchingTask host s.ledger identity none
    return ()) fun _ => .reviewLifecycle "review lifecycle mutation lacks a current exact transition lease"

def Store.implementationOf? (s : Store) (providerAttemptId : String) : Option ImplementationRow :=
  s.implementations.find? fun r => r.providerAttemptId = providerAttemptId

/-- The base an implementation was dispatched from. -/
def ImplementationRow.dispatchSha (implementation : ImplementationRow) (identity : TaskIdentity) : String :=
  (implementation.repairCandidateSha.filter (· ≠ "")).getD identity.baseSha

/-- The retry identity of an attempt. -/
def AttemptRow.retryIdentity (row : AttemptRow) : String := "worker-" ++ toString row.attemptNumber ++ "-" ++ row.attemptId

/-- `_require_worker_dispatch` -/
def requireWorkerDispatch (s : Store) (identity : TaskIdentity) (attemptId dispatchSha : String) : Except Error String := do
  let stale : Error := .reviewLifecycle "Worker objective provider dispatch is unavailable or stale"
  let row ← demand (s.providerAttempt? attemptId) stale
  let implementation ← demand (Store.implementationOf? s attemptId) stale
  refuse (row.taskId ≠ identity.taskId ∨ row.role ≠ .worker ∨ row.state ≠ .dispatched ∨ ¬ row.sessionIdentity.any isToken ∨
    ¬ row.externalTurnIdentity.any isToken ∨ row.sessionIdentity ≠ some implementation.workerThreadIdentity ∨
    implementation.taskId ≠ identity.taskId ∨ row.externalTurnIdentity ≠ some implementation.externalTurnIdentity ∨
    implementation.state ≠ .dispatched ∨ dispatchSha ≠ implementation.dispatchSha identity) stale
  return row.retryIdentity

/-- The completion evidence of an attempt waits for its verification. -/
def AttemptRow.recoverableAmbiguity (row : AttemptRow) (outcome : Option Outcome) : Bool :=
  row.state = .ambiguous ∧ row.completionEvidenceFingerprint.any (isHex 64) ∧
    outcome = some ⟨.blockedAmbiguousTurn, some "completion-evidence-unverified"⟩

/-- `_require_worker_objective_attempt` -/
def requireWorkerObjectiveAttempt (s : Store) (identity : TaskIdentity) (attemptId dispatchSha : String) :
    Except Error String := do
  let stale : Error := .reviewLifecycle "Worker objective provider attempt is unavailable or stale"
  let row ← demand (s.providerAttempt? attemptId) stale
  let implementation ← demand (Store.implementationOf? s attemptId) stale
  refuse (row.taskId ≠ identity.taskId ∨ row.role ≠ .worker ∨
    (row.state ≠ .dispatched ∧ row.state ≠ .completed ∧ row.recoverableAmbiguity (s.recoveryOutcome? attemptId) = false) ∨
    implementation.taskId ≠ identity.taskId ∨ dispatchSha ≠ implementation.dispatchSha identity) stale
  return row.retryIdentity

/-- `_require_worker_objective_result` -/
def requireWorkerObjectiveResult (s : Store) (identity : TaskIdentity) (attemptId : String) (result : WorkerObjectiveResult) :
    Except Error Unit := do
  let stale : Error := .reviewLifecycle "Worker objective result is missing, stale, or mismatched"
  let row ← demand (s.providerAttempt? attemptId) stale
  let implementation ← demand (Store.implementationOf? s attemptId) stale
  let candidate ← demand (s.implementationCandidates.find? fun r =>
    r.implementationAttemptId = implementation.implementationAttemptId) stale
  refuse (row.taskId ≠ identity.taskId ∨ row.role ≠ .worker ∨ row.state ≠ .completed ∨ ¬ row.sessionIdentity.any isToken ∨
    ¬ row.externalTurnIdentity.any isToken ∨ row.sessionIdentity ≠ some implementation.workerThreadIdentity ∨
    row.externalTurnIdentity ≠ some implementation.externalTurnIdentity ∨ row.outputPointer = none ∨
      row.outputPointer = some "" ∨
    row.completionEvidenceFingerprint ≠ some result.completionEvidenceFingerprint ∨
    Store.completionOutput? s attemptId ≠ some result.acceptedResultIdentity ∨ implementation.taskId ≠ identity.taskId ∨
    implementation.state ≠ .recorded ∨ candidate.baseSha ≠ identity.baseSha ∨ candidate.candidateSha ≠ result.candidateSha ∨
    candidate.completionEvidenceFingerprint ≠ result.completionEvidenceFingerprint ∨
    candidate.contentDigest ≠ result.acceptedResultIdentity) stale

/-- `_require_current_candidate` -/
def requireCurrentCandidate (s : Store) (identity : TaskIdentity) (candidateSha : String) (lease : Option TransitionLease) :
    Except Error Unit :=
  refuse ((s.ledger.seal? identity.taskId).map (fun r => (r.candidateSha, some r.stateIdentity)) ≠
    some (candidateSha, lease.map (·.stateIdentity)))
    (.reviewLifecycle "review lifecycle candidate is stale or not bound to the current lease state")

def Store.objective? (s : Store) (objectiveId : String) : Option ObjectiveRow :=
  s.objectives.rows.find? fun r => r.objectiveId = objectiveId

/-- `except sqlite3.IntegrityError` of the objectives. -/
def onObjectiveIntegrity : Error → Error
  | .integrity => .reviewLifecycle "Worker objective conflicts with an existing attempt"
  | e => e

/-- The transaction of `start_objective`. -/
def beginObjective (identity : TaskIdentity) (objective : WorkerObjective) (lease : Option TransitionLease) (now : Int) :
    Tx Error Store ObjectiveRow := do
  Tx.query fun s => requireLifecycleAuthority host s identity lease now
  let retry ← Tx.query fun s =>
    requireWorkerDispatch s identity objective.identity.providerAttemptId objective.identity.dispatchSha
  Tx.check (refuse (objective.identity.retryIdentity ≠ retry)
    (.reviewLifecycle "Worker objective retry identity is not the durable attempt identity"))
  let existing ← Tx.query fun s => .ok (Store.objective? s objective.objectiveId)
  match existing with
  | none => do
    Tx.write fun s => do
      let objectives ← demand (s.objectives.insert? ⟨objective.objectiveId, objective.identity, .active⟩) .integrity
      return { s with objectives }
    return ⟨objective.objectiveId, objective.identity, .active⟩
  | some row => do
    Tx.check (refuse (row.identity ≠ objective.identity)
      (.reviewLifecycle "Worker objective identity conflicts with committed state"))
    return row

/-- `start_objective` -/
def startObjective (identity : TaskIdentity) (objective : WorkerObjective) (lease : Option TransitionLease) (now : Int) :
    Tx Error Store ObjectiveRow := do
  Tx.check objective.check
  Tx.check (refuse (objective.identity.taskId ≠ identity.taskId)
    (.reviewLifecycle "Worker objective task does not match its exact identity"))
  Tx.mapError (transaction (beginObjective host identity objective lease now)) onObjectiveIntegrity

/-- How an objective is to end. -/
inductive Ending where
  | complete (result : WorkerObjectiveResult)
  | cancel (reasonDigest : String)

def Ending.check : Ending → Except Error Unit
  | .complete result => result.check
  | .cancel reasonDigest => refuse (isHex 64 reasonDigest = false) (.reviewLifecycle "objective cancellation is invalid")

def Ending.state : Ending → ObjectiveState
  | .complete result => .completed result
  | .cancel reasonDigest => .cancelled reasonDigest

/-- The checks of a completion, or of its replay. -/
def Ending.requireEvidence (ending : Ending) (s : Store) (identity : TaskIdentity) (attemptId : String) (lease : Option TransitionLease) :
    Except Error Unit :=
  match ending with
  | .complete result => do
    requireCurrentCandidate s identity result.candidateSha lease
    requireWorkerObjectiveResult s identity attemptId result
  | .cancel _ => .ok ()

/-- The transaction of `_terminal_objective`. -/
def endObjective (identity : TaskIdentity) (objective : WorkerObjective) (ending : Ending) (lease : Option TransitionLease) (now : Int) :
    Tx Error Store ObjectiveRow := do
  Tx.query fun s => requireLifecycleAuthority host s identity lease now
  let retry ← Tx.query fun s =>
    requireWorkerObjectiveAttempt s identity objective.identity.providerAttemptId objective.identity.dispatchSha
  let drifted : Error := .reviewLifecycle "Worker objective is missing or has drifted"
  let conflict : Error := .reviewLifecycle "Worker objective terminal replay conflicts with committed state"
  let row ← Tx.query fun s => demand (Store.objective? s objective.objectiveId) drifted
  Tx.check (refuse (row.identity ≠ { objective.identity with retryIdentity := retry }) drifted)
  match row.state, ending with
  | .completed _, .cancel _ | .cancelled _, .complete _ => Tx.check (.error (.reviewLifecycle "Worker objective is already terminal"))
  | .completed _, .complete _ | .cancelled _, .cancel _ => do
    Tx.check (refuse (row.state ≠ ending.state) conflict)
    Tx.query fun s => ending.requireEvidence s identity objective.identity.providerAttemptId lease
    return row
  | .active, _ => do
    Tx.query fun s => ending.requireEvidence s identity objective.identity.providerAttemptId lease
    Tx.write fun s => .ok (setObjective objective.objectiveId ending.state s)
    return { row with state := ending.state }

/-- `complete_objective` and `cancel_objective` -/
def terminalObjective (identity : TaskIdentity) (objective : WorkerObjective) (ending : Ending) (lease : Option TransitionLease)
    (now : Int) : Tx Error Store ObjectiveRow := do
  Tx.check objective.check
  Tx.check ending.check
  Tx.check (refuse (objective.identity.taskId ≠ identity.taskId)
    (.reviewLifecycle "Worker objective task does not match its exact identity"))
  transaction (endObjective host identity objective ending lease now)

/-- `cancel_objective_for_provider_attempt` -/
def cancelObjectiveForProviderAttempt (identity : TaskIdentity) (attemptId reasonDigest : String) (lease : Option TransitionLease)
    (now : Int) : Tx Error Store (Option ObjectiveRow) :=
  transaction do
    Tx.query fun s => requireLifecycleAuthority host s identity lease now
    cancelObjectiveForRecovery identity.taskId attemptId reasonDigest

/-! ## The decision -/

structure RecoveryDecision where
  action : RecoveryAction
  blocker : Option String
  next : Option AttemptState

/-- The decision for an attempt whose process lease has run out, unless the role has none. -/
def staleDecision (row : AttemptRow) (observed : Int) : Option RecoveryDecision :=
  if row.processLeaseExpiresAt ≤ observed then
    match row.role with
    | .worker => some ⟨.blockedStaleWorker, some "stale-worker-process-lease", some .blocked⟩
    | .supervisor => some ⟨.freshSupervisorSession, some "stale-supervisor-process-lease", some .invalidated⟩
    | .planning | .aggregation => none
  else none

/-- The decision for an attempt that was never dispatched. -/
def preparedDecision (s : Store) (row : AttemptRow) (maxAttempts observed : Int) : RecoveryDecision :=
  if row.sessionIdentity ≠ none then (staleDecision row observed).getD ⟨.resumeSameSession, none, none⟩
  else if maxAttempts ≤ (s.providerAttempts.rows.filter fun r => r.taskId = row.taskId ∧ r.role = row.role).length then
    ⟨.blockedRetryLimit, some "retry-limit-reached", some .blocked⟩
  else ⟨.retry, none, none⟩

/-- The decision for completed output, once its evidence was looked at. -/
def evidenceDecision (row : AttemptRow) (verified : Bool) : RecoveryDecision :=
  if verified then ⟨.consumeVerifiedOutput, none, if row.state = .ambiguous then some .completed else none⟩
  else ⟨.blockedAmbiguousTurn, some "completion-evidence-unverified", if row.state = .completed then some .ambiguous else none⟩

def Outcome.decision (o : Outcome) : RecoveryDecision := ⟨o.action, o.blocker, none⟩

/-- `_recovery_outcome` -/
def recoveryOutcome (s : Store) (row : AttemptRow) (verifiedEvidence : Option String) (maxAttempts observed : Int) :
    Except Error RecoveryDecision :=
  let stored := (s.recoveryOutcome? row.attemptId).map Outcome.decision
  let invalid : Error := .providerRecovery "provider attempt state is invalid"
  match row.state with
  | .accepted =>
    if pointerStartsWith row.outputPointer "diff-review:" then
      .ok ⟨.freshSupervisorSession, some "candidate-review-revalidation-required", some .invalidated⟩
    else .ok ⟨.acceptedReview, none, none⟩
  | .completed =>
    if row.completionEvidenceFingerprint ≠ none then .ok (evidenceDecision row (verifiedEvidence = row.completionEvidenceFingerprint))
    else .error invalid
  | .ambiguous =>
    if row.completionEvidenceFingerprint ≠
      none then .ok (evidenceDecision row (verifiedEvidence = row.completionEvidenceFingerprint))
    else .ok (stored.getD ⟨.blockedAmbiguousTurn, some "external-turn-ambiguous", none⟩)
  | .blocked => demand stored invalid
  | .invalidated => .ok (stored.getD ⟨.freshSupervisorSession, some "supervisor-session-invalidated", none⟩)
  | .prepared => .ok (preparedDecision s row maxAttempts observed)
  | .dispatched =>
    .ok ((staleDecision row observed).getD ⟨.blockedAmbiguousTurn, some "external-turn-ambiguous", some .ambiguous⟩)

/-- `_abandonment_state` -/
def abandonmentState (row : AttemptRow) : AttemptState := if row.externalTurnIdentity ≠ none then .ambiguous else .blocked

/-- `_terminal_worker_abandonment` -/
def terminalWorkerAbandonment (action : RecoveryAction) (blocker : Option String) : Bool :=
  action = .blockedStaleWorker ∨ action = .blockedIdentityDrift ∨ action = .blockedRetryLimit ∨
    (action = .blockedAmbiguousTurn ∧ blocker ≠ some "completion-evidence-unverified")

def identityDrift (row : AttemptRow) : RecoveryDecision :=
    ⟨.blockedIdentityDrift, some "identity-drift", some (abandonmentState row)⟩

/-- The decision of `recover_attempt` when the context is the persisted one. -/
def matchedDecision (s : Store) (identity : TaskIdentity) (c : RecoveryContext) (row : AttemptRow)
    (verifiedEvidence : Option String) (maxAttempts observed : Int) : Except Error RecoveryDecision := do
  validateContext host identity c
  let sealed ← requirePersistedHealthAuthorization host s row.attemptId c row.role row.selectedProfileIdentity observed
  refuse (acceptedReviewKind s identity row = .invalid) (.providerRecovery "accepted supervisor review is invalid")
  (if acceptedReviewKind s identity row = .generic ∧ row.state = .accepted then requireAcceptedSupervisorReview s
    identity row c else .ok ())
  -- a prepared attempt with a session that has no checkpoint is never resumed
  if row.state = .prepared ∧ row.sessionIdentity.any fun session =>
      s.sessionCheckpoint? row.attemptId ≠
        some ⟨row.attemptId, identity.taskId, session, c.values.checkpointFingerprint host sealed⟩ then
    return ⟨.blockedAmbiguousTurn, some "session-checkpoint-unavailable", some (abandonmentState row)⟩
  else recoveryOutcome s row verifiedEvidence maxAttempts observed

/-- The decision of `recover_attempt`. -/
def recoveryDecision (s : Store) (identity : TaskIdentity) (c : RecoveryContext) (row : AttemptRow)
    (verifiedEvidence : Option String) (maxAttempts observed : Int) : Except Error RecoveryDecision :=
  if contextMatches s identity row.attemptId c then matchedDecision host s identity c row verifiedEvidence maxAttempts observed
  else .ok (identityDrift row)

/-! ## `recover_attempt` -/

/-- An accepted review of a diff goes stale with the recovery of its attempt. -/
def AttemptRow.revalidates (row : AttemptRow) : Bool := row.state = .accepted ∧
    pointerStartsWith row.outputPointer "diff-review:"

/-- `_stale_unvalidated_diff_review` -/
def staleUnvalidatedDiffReview (taskId attemptId : String) : Tx Error Store Unit := do
  Tx.write fun s => .ok { s with acceptedReviews := s.acceptedReviews.keep fun r => r.review.attemptId ≠ attemptId }
  Tx.write (updateAttempt attemptId fun r =>
    if r.state = .accepted then { r with state := .invalidated, acceptedReviewIdentity := none } else r)
  Tx.write fun s => .ok { s with diffReviews := s.diffReviews.map fun r =>
    if r.taskId = taskId ∧ r.providerAttemptId = attemptId ∧ r.state = .accepted then
      { r with state := .recorded, acceptedReviewIdentity := none } else r }

/-- The reason an objective is cancelled for. -/
def recoveryReason (attemptId : String) (action : RecoveryAction) (blocker : Option String) : String :=
  (host.hexdigest ("\x1f".intercalate ["worker-objective-recovery/v1", attemptId, action.value, blocker.getD ""])).text

/-- The row after its review went stale. -/
def AttemptRow.revalidated (row : AttemptRow) : AttemptRow :=
  if row.revalidates then { row with state := .invalidated, acceptedReviewIdentity := none } else row

/-- What `recover_attempt` writes for a decision, and the row it reports. -/
def applyDecision (identity : TaskIdentity) (row : AttemptRow) (d : RecoveryDecision) (observed : Int) :
    Tx Error Store AttemptRow := do
  Tx.when (row.revalidates = true) (staleUnvalidatedDiffReview identity.taskId row.attemptId)
  let next := d.next.getD row.revalidated.state
  Tx.when (next ≠ row.revalidated.state) (Tx.write (updateAttempt row.attemptId fun r => { r with state := next }))
  Tx.when (d.blocker ≠ none) (Tx.write (persistRecoveryOutcome row.attemptId ⟨d.action, d.blocker⟩ observed))
  Tx.when (row.role = .worker ∧ terminalWorkerAbandonment d.action d.blocker = true)
    ((fun _ => ()) <$> cancelObjectiveForRecovery identity.taskId row.attemptId
      (recoveryReason host row.attemptId d.action d.blocker))
  Tx.write (insertEvent identity.taskId row.attemptId d.action observed)
  return { row.revalidated with state := next }

/-- The arguments of `recover_attempt`. -/
structure RecoverRequest where
  attemptId : String
  verifiedEvidence : Option String
  maxAttempts : Int

/-- The transaction of `recover_attempt`. -/
def recover (identity : TaskIdentity) (c : RecoveryContext) (request : RecoverRequest) (lease : Option TransitionLease)
    (observed : Int) : Tx Error Store RecoveryProjection := do
  Tx.query fun s => Gate.requireLease s.ledger lease identity.repositoryId observed
  let _ ← Tx.query fun s => requireMatchingTask host s.ledger identity none
  let row ← Tx.query fun s => attemptRow s identity.taskId request.attemptId
  let d ← Tx.query fun s => recoveryDecision host s identity c row request.verifiedEvidence request.maxAttempts observed
  let row ← applyDecision host identity row d observed
  return projection row d.action d.blocker

/-- `recover_attempt` -/
def recoverAttempt (identity : TaskIdentity) (c : RecoveryContext) (request : RecoverRequest)
    (lease : Option TransitionLease) (observed : Int) : Tx Error Store RecoveryProjection := do
  Tx.check (requireToken request.attemptId "attempt identity")
  Tx.check (refuse (request.maxAttempts < 1) (.providerRecovery "attempt limit is invalid"))
  Tx.check (request.verifiedEvidence.forM fun evidence => requireFingerprint evidence "verified completion evidence")
  transaction (recover host identity c request lease observed)

end Roundwright.Provider
