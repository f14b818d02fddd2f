/-
How a Supervisor attempt is settled: by an accepted review, an invalidation, a terminal failure of its turn, a
stopped scope, an accounting blocker, or a session that never reached a turn.
-/
import Roundwright.Provider.Attempt

namespace Roundwright.Provider

open Lib State Recovery

variable (host : Host)

/-! ## Acceptance -/

/-- The transaction of `accept_supervisor_review`. -/
def accept (identity : TaskIdentity) (c : RecoveryContext) (attemptId reviewIdentity : String)
    (lease : Option TransitionLease) (observed : Int) : Tx Error Store (Option AttemptRow) := do
  let (row, _) ← authorizeAttempt host identity c attemptId none lease observed
  Tx.query fun s => refuse (acceptedReviewKind s identity row ≠ .generic)
    (.providerRecovery "generic supervisor acceptance requires generic review evidence")
  if row.role = .supervisor ∧ row.state = .accepted ∧ row.acceptedReviewIdentity = some reviewIdentity then do
    Tx.query fun s => requireAcceptedSupervisorReview s identity row c
    return some row
  else do
    Tx.check (refuse (row.role ≠ .supervisor ∨ row.state ≠ .completed)
      (.providerRecovery "only a completed supervisor attempt can be accepted"))
    Tx.check (refuse (row.selectedProfileIdentity ∉ c.runtimeBinding.supervisorProfileIdentities.map (·.text))
      (.providerRecovery "accepted supervisor profile binding has drifted"))
    Tx.write (updateAttempt attemptId fun r => { r with acceptedReviewIdentity := some reviewIdentity, state := .accepted })
    Tx.write fun s => do
      let acceptedReviews ← demand (s.acceptedReviews.insert?
        ⟨reviewIdentity, acceptedSupervisorReviewValues identity row c⟩) .integrity
      return { s with acceptedReviews }
    return none

/-- `accept_supervisor_review` -/
def acceptSupervisorReview (identity : TaskIdentity) (c : RecoveryContext) (attemptId reviewIdentity : String)
    (lease : Option TransitionLease) (observed : Int) : Tx Error Store AttemptRow := do
  Tx.check (validateContext host identity c)
  Tx.check (requireToken attemptId "attempt identity")
  Tx.check (requireToken reviewIdentity "accepted review identity")
  let replayed ← Tx.mapError (transaction (accept host identity c attemptId reviewIdentity lease observed))
    (onIntegrity "accepted review identity conflicts with committed state")
  orRead replayed (readAttempt host identity attemptId (some (c, observed)))

/-! ## Settlement -/

/-- The outcome and the event of a settlement. -/
def recordOutcome (taskId attemptId : String) (outcome : Outcome) (observed : Int) : Tx Error Store Unit := do
  Tx.write (persistRecoveryOutcome attemptId outcome observed)
  Tx.write (insertEvent taskId attemptId outcome.action observed)

/-- The attempt takes a state, and the outcome and the event are recorded. -/
def settle (taskId attemptId : String) (state : AttemptState) (outcome : Outcome) (observed : Int) : Tx Error Store Unit := do
  Tx.write (updateAttempt attemptId fun r => { r with state })
  recordOutcome taskId attemptId outcome observed

/-- A settled attempt is settled again only with the same outcome. -/
def requireOutcome (s : Store) (attemptId : String) (outcome : Outcome) (message : String) : Except Error Unit :=
  refuse (s.recoveryOutcome? attemptId ≠ some outcome) (.providerRecovery message)

/-- The transaction of `invalidate_supervisor_attempt`. -/
def invalidate (identity : TaskIdentity) (c : RecoveryContext) (attemptId : String) (lease : Option TransitionLease)
    (observed : Int) :
    Tx Error Store AttemptRow := do
  let (row, _) ← authorizeAttempt host identity c attemptId none lease observed
  Tx.check (refuse (row.role ≠ .supervisor) (.providerRecovery "only a Supervisor attempt can be invalidated"))
  let outcome : Outcome := ⟨.freshSupervisorSession, some "partial-supervisor-review"⟩
  if row.state = .accepted then return row
  else if row.state = .invalidated then do
    recordOutcome identity.taskId attemptId outcome observed
    return row
  else do
    settle identity.taskId attemptId .invalidated outcome observed
    return { row with state := .invalidated }

/-- `invalidate_supervisor_attempt` -/
def invalidateSupervisorAttempt (identity : TaskIdentity) (c : RecoveryContext) (attemptId : String)
    (lease : Option TransitionLease) (observed : Int) : Tx Error Store AttemptRow := do
  Tx.check (validateContext host identity c)
  Tx.check (requireToken attemptId "attempt identity")
  transaction (invalidate host identity c attemptId lease observed)

/-! ### Failures -/

/-- The values of `SupervisorTerminalFailureClass`, which are those of `CodexFailure`. -/
def failureClassValue : CodexFailure → String
  | .authMissing => "auth-missing"
  | .authExpired => "auth-expired"
  | .authRejected => "auth-rejected"
  | .rateLimited => "rate-limited"
  | .quotaLimited => "quota-limited"
  | .quotaOrRateLimit => "quota-or-rate-limit"
  | .modelUnavailable => "model-unavailable"
  | .unsupportedCapability => "unsupported-capability"
  | .sdkIncompatible => "sdk-incompatible"
  | .sandboxOrApprovalDenied => "sandbox-or-approval-denied"
  | .providerOutage => "provider-outage"
  | .transportOrProviderOutage => "transport-or-provider-outage"
  | .malformedResponse => "malformed-response"
  | .unknown => "unknown"

/-- `SupervisorTerminalFailureSdkCategory` -/
inductive SdkCategory where
  | badRequest | unauthorized | sandbox | overload | http | stream | connection | missingOrUnknown

def SdkCategory.value : SdkCategory → String
  | .badRequest => "bad-request"
  | .unauthorized => "unauthorized"
  | .sandbox => "sandbox"
  | .overload => "overload"
  | .http => "http"
  | .stream => "stream"
  | .connection => "connection"
  | .missingOrUnknown => "missing-or-unknown"

/-- The outcome of a terminal failure; its source is `sdk-turn-failed`. -/
def terminalFailureOutcome (failure : CodexFailure) (category : SdkCategory) : Outcome :=
  ⟨.freshSupervisorSession, some ("terminal-failure:sdk-turn-failed:" ++ failureClassValue failure ++ ":" ++ category.value)⟩

/-- `FailureBinding` of texts. -/
def failureBinding (candidateSha policyDigest configurationDigest authorityScope : String) (role : FailureRole)
    (profileIdentity sessionIdentity attemptIdentity : String) : Except Error FailureBinding :=
  let invalid : Error := .failureRecovery "failure binding is invalid"
  match Hex.ofText? 40 candidateSha, Digest.ofText? policyDigest, Digest.ofText? configurationDigest,
    Digest.ofText? profileIdentity with
  | some candidateSha, some policyDigest, some configurationDigest, some profileIdentity =>
    if h : isName authorityScope ∧ isName sessionIdentity ∧ isName attemptIdentity then
      .ok ⟨candidateSha, policyDigest, configurationDigest, ⟨authorityScope, h.1⟩, role, profileIdentity,
        ⟨sessionIdentity, h.2.1⟩, ⟨attemptIdentity, h.2.2⟩⟩
    else .error invalid
  | _, _, _, _ => .error invalid

/-- The durable failure of a Supervisor turn. -/
def recordSupervisorFailure (identity : TaskIdentity) (c : RecoveryContext) (row : AttemptRow)
    (sessionIdentity : String) (failure : CodexFailure) (observed : Int) : Tx Error Store Unit := do
  let binding ← Tx.check (failureBinding (c.candidateSha.getD identity.baseSha) ("sha256:" ++ c.policyFingerprint)
    c.runtimeBinding.resolvedDigest.text ("supervisor:" ++ identity.taskId) .supervisor row.selectedProfileIdentity sessionIdentity
    row.attemptId)
  let record ← Tx.check (classifyNativeFailure .supervisor binding failure)
  Tx.check (refuse (observed ≤ 0) (.failureRecovery "failure record time is invalid"))
  let _ ← recordFailure host identity record
  return ()

/-- The dispatch claim of the attempt is there. -/
def requireClaim (s : Store) (identity : TaskIdentity) (row : AttemptRow) (message : String) : Except Error Unit :=
  refuse (s.dispatchClaim? row.attemptId ≠ some ⟨row.attemptId, identity.taskId, row.inputFingerprint⟩) (.providerRecovery message)

/-- The arguments of `record_supervisor_terminal_failure`. -/
structure TerminalFailure where
  attemptId : String
  sessionIdentity : Option String
  turnIdentity : Option String
  failure : CodexFailure
  category : SdkCategory

/-- The session a terminal failure was observed in. -/
def TerminalFailure.observedSession (f : TerminalFailure) (row : AttemptRow) : Option String :=
  (f.sessionIdentity.filter (· ≠ "")).or row.sessionIdentity

def TerminalFailure.observedTurn (f : TerminalFailure) (row : AttemptRow) : Option String :=
  if f.sessionIdentity = none ∧ f.turnIdentity = none then row.externalTurnIdentity else f.turnIdentity

/-- The observed session and turn are those of the attempt. -/
def requireObserved (s : Store) (identity : TaskIdentity) (c : RecoveryContext) (row : AttemptRow)
    (sealed session preDispatch : String) (turn : Option String) : Except Error Unit :=
  if session = preDispatch then
    refuse (row.sessionIdentity ≠ none ∨ turn ≠ none ∨ row.externalTurnIdentity ≠ none)
      (.providerRecovery "terminal failure pre-dispatch identity has drifted")
  else do
    refuse (row.sessionIdentity ≠ some session) (.providerRecovery "terminal failure session identity has drifted")
    requireSessionCheckpoint host s identity.taskId row.attemptId session c sealed
    refuse (row.externalTurnIdentity ≠ turn) (.providerRecovery "terminal failure turn identity has drifted")

/-- The transaction of `record_supervisor_terminal_failure`. -/
def terminate (identity : TaskIdentity) (c : RecoveryContext) (f : TerminalFailure) (lease : Option TransitionLease)
    (observed : Int) :
    Tx Error Store AttemptRow := do
  let (row, sealed) ← authorizeAttempt host identity c f.attemptId none lease observed
  let outcome := terminalFailureOutcome f.failure f.category
  Tx.check (refuse (row.role ≠ .supervisor) (.providerRecovery "terminal failure requires a Supervisor attempt"))
  Tx.query fun s => requireClaim s identity row "terminal failure dispatch claim is unavailable"
  let session ← Tx.check (demand ((f.observedSession row).filter fun session => isName session)
    (.providerRecovery "terminal failure session identity is invalid"))
  let preDispatch ← Tx.check (preDispatchFailureIdentity host .supervisor f.attemptId)
  Tx.query fun s => requireObserved host s identity c row sealed session preDispatch (f.observedTurn row)
  Tx.query fun s => refuse (s.failureAdmission? f.attemptId ≠
    c.candidateSha.map fun candidateSha => expectedAdmission identity row c candidateSha session)
    (.providerRecovery "terminal failure admission has drifted")
  Tx.check (refuse (c.candidateSha = none) (.providerRecovery "terminal failure admission has drifted"))
  if row.state = .invalidated then do
    Tx.query fun s => requireOutcome s f.attemptId outcome "terminal failure conflicts with committed state"
    return row
  else do
    Tx.check (refuse (row.state ≠ if f.observedTurn row ≠ none then .dispatched else .prepared)
      (.providerRecovery "terminal failure requires an unsettled Supervisor attempt"))
    Tx.query fun s => refuse (Store.invalidOutputsOf s f.attemptId ≠ [])
      (.providerRecovery "terminal failure conflicts with invalid output")
    Tx.write (updateAttempt f.attemptId fun r => { r with state := .invalidated })
    recordSupervisorFailure host identity c row session f.failure observed
    recordOutcome identity.taskId f.attemptId outcome observed
    return { row with state := .invalidated }

/-- `record_supervisor_terminal_failure` -/
def recordSupervisorTerminalFailure (identity : TaskIdentity) (c : RecoveryContext) (f : TerminalFailure)
    (lease : Option TransitionLease) (observed : Int) : Tx Error Store AttemptRow := do
  Tx.check (validateContext host identity c)
  Tx.check (requireToken f.attemptId "attempt identity")
  transaction (terminate host identity c f lease observed)

def scopeStopped : Outcome := ⟨.blockedAmbiguousTurn, some "scope-stopped"⟩

/-- The session a scope denial was observed in is that of the attempt. -/
def requireDeniedSession (s : Store) (identity : TaskIdentity) (c : RecoveryContext) (row : AttemptRow)
    (sealed session preDispatch : String) : Except Error Unit :=
  if session = preDispatch then
    refuse (row.sessionIdentity ≠ none ∨ s.sessionCheckpoint? row.attemptId ≠ none)
      (.providerRecovery "scope denial pre-dispatch identity has drifted")
  else do
    refuse (row.sessionIdentity ≠ some session) (.providerRecovery "scope denial session identity has drifted")
    requireSessionCheckpoint host s identity.taskId row.attemptId session c sealed

/-- The transaction of `record_supervisor_scope_denial`. -/
def denyScope (identity : TaskIdentity) (c : RecoveryContext) (attemptId sessionIdentity : String)
    (lease : Option TransitionLease) (observed : Int) : Tx Error Store AttemptRow := do
  let (row, sealed) ← authorizeAttempt host identity c attemptId none lease observed
  Tx.check (refuse (row.role ≠ .supervisor) (.providerRecovery "scope denial requires a Supervisor attempt"))
  Tx.query fun s => requireClaim s identity row "scope denial dispatch claim is unavailable"
  let preDispatch ← Tx.check (preDispatchFailureIdentity host .supervisor attemptId)
  Tx.query fun s => requireDeniedSession host s identity c row sealed sessionIdentity preDispatch
  if row.state = .blocked then do
    Tx.query fun s => requireOutcome s attemptId scopeStopped "scope denial conflicts with committed state"
    return row
  else do
    Tx.check (refuse (row.state ≠ .prepared ∧ row.state ≠ .dispatched)
      (.providerRecovery "scope denial requires an unsettled Supervisor attempt"))
    recordSupervisorFailure host identity c row sessionIdentity .sandboxOrApprovalDenied observed
    settle identity.taskId attemptId .blocked scopeStopped observed
    return { row with state := .blocked }

/-- `record_supervisor_scope_denial` -/
def recordSupervisorScopeDenial (identity : TaskIdentity) (c : RecoveryContext) (attemptId sessionIdentity : String)
    (lease : Option TransitionLease) (observed : Int) : Tx Error Store AttemptRow := do
  Tx.check (validateContext host identity c)
  Tx.check (requireToken attemptId "attempt identity")
  Tx.check (refuse (isName sessionIdentity = false) (.providerRecovery "Supervisor scope denial identity is invalid"))
  transaction (denyScope host identity c attemptId sessionIdentity lease observed)

/-! ### Blockers -/

structure RecoveryProjection where
  attemptId : String
  role : ProviderRole
  state : AttemptState
  processLeaseId : String
  sessionIdentity : Option String
  externalTurnIdentity : Option String
  outputAvailable : Bool
  acceptedReviewIdentity : Option String
  blocker : Option String
  nextAction : RecoveryAction

/-- `_projection` -/
def projection (row : AttemptRow) (action : RecoveryAction) (blocker : Option String) : RecoveryProjection :=
  ⟨row.attemptId, row.role, row.state, row.processLeaseId, row.sessionIdentity, row.externalTurnIdentity,
    row.outputPointer.isSome && row.completionEvidenceFingerprint.isSome, row.acceptedReviewIdentity, blocker, action⟩

/-- The only accounting blocker; its action is written as that of an ambiguous turn. -/
def accountingIncomplete : Outcome := ⟨.blockedAmbiguousTurn, some "provider-accounting-incomplete"⟩

/-- The transaction of `record_supervisor_accounting_blocker`. -/
def blockAccounting (identity : TaskIdentity) (c : RecoveryContext) (attemptId : String)
    (lease : Option TransitionLease) (observed : Int) : Tx Error Store RecoveryProjection := do
  let (row, _) ← authorizeAttempt host identity c attemptId none lease observed
  Tx.check (refuse (row.role ≠ .supervisor ∨ row.externalTurnIdentity = none)
    (.providerRecovery "accounting blocker requires a dispatched Supervisor turn"))
  if row.state = .blocked then do
    Tx.query fun s => requireOutcome s attemptId accountingIncomplete "accounting blocker conflicts with committed state"
    return projection row accountingIncomplete.action accountingIncomplete.blocker
  else do
    Tx.check (refuse (row.state ≠ .dispatched) (.providerRecovery "accounting blocker requires an unsettled Supervisor turn"))
    Tx.query fun s => refuse (Store.invalidOutputsOf s attemptId ≠ [])
      (.providerRecovery "accounting blocker conflicts with invalid output")
    settle identity.taskId attemptId .blocked accountingIncomplete observed
    return projection { row with state := .blocked } accountingIncomplete.action accountingIncomplete.blocker

/-- `record_supervisor_accounting_blocker` -/
def recordSupervisorAccountingBlocker (identity : TaskIdentity) (c : RecoveryContext) (attemptId : String)
    (lease : Option TransitionLease) (observed : Int) : Tx Error Store RecoveryProjection := do
  Tx.check (validateContext host identity c)
  Tx.check (requireToken attemptId "attempt identity")
  transaction (blockAccounting host identity c attemptId lease observed)

def sessionWithoutTurn : Outcome := ⟨.blockedAmbiguousTurn, some "session-without-turn"⟩

/-- The transaction of `block_session_without_turn`. -/
def blockSession (identity : TaskIdentity) (c : RecoveryContext) (attemptId : String) (lease : Option TransitionLease)
    (observed : Int) : Tx Error Store RecoveryProjection := do
  let (row, sealed) ← authorizeAttempt host identity c attemptId none lease observed
  let incomplete : Error := .providerRecovery "session-without-turn reconciliation requires exactly one session checkpoint"
  Tx.check (refuse (row.role ≠ .supervisor) (.providerRecovery "only a Supervisor session can be blocked before a turn"))
  let session ← Tx.check (demand row.sessionIdentity incomplete)
  Tx.check (refuse (row.externalTurnIdentity ≠ none) incomplete)
  Tx.query fun s => requireSessionCheckpoint host s identity.taskId attemptId session c sealed
  if row.state = .blocked then do
    Tx.query fun s => requireOutcome s attemptId sessionWithoutTurn
      "session-without-turn reconciliation conflicts with committed state"
    return projection row sessionWithoutTurn.action sessionWithoutTurn.blocker
  else do
    Tx.check (refuse (row.state ≠ .prepared) (.providerRecovery "session-without-turn reconciliation requires a prepared attempt"))
    settle identity.taskId attemptId .blocked sessionWithoutTurn observed
    return projection { row with state := .blocked } sessionWithoutTurn.action sessionWithoutTurn.blocker

/-- `block_session_without_turn` -/
def blockSessionWithoutTurn (identity : TaskIdentity) (c : RecoveryContext) (attemptId : String)
    (lease : Option TransitionLease) (observed : Int) : Tx Error Store RecoveryProjection := do
  Tx.check (validateContext host identity c)
  Tx.check (requireToken attemptId "attempt identity")
  transaction (blockSession host identity c attemptId lease observed)

end Roundwright.Provider
