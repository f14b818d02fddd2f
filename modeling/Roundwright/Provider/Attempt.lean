/-
Provider attempts up to the end of their turn: preparation, the dispatch claim, the session checkpoint, the
external turn and its output. Every operation is one transaction; the row it returns is read back after
the commit, on a connection of its own.
-/
import Roundwright.Provider.Context
import Roundwright.Recovery.Denial
import Roundwright.Gate.Candidate
import Mathlib.Data.Prod.Lex

namespace Roundwright.Provider

open Lib State Recovery

/-! ## Rows -/

/-- `_attempt_row` -/
def attemptRow (s : Store) (taskId attemptId : String) : Except Error AttemptRow :=
  demand (s.providerAttempts.rows.find? fun r => r.taskId = taskId ∧ r.attemptId = attemptId)
    (.providerAttemptAbsent "provider attempt is unavailable")

/-- `INSERT INTO provider_attempts` -/
def insertAttempt (row : AttemptRow) (s : Store) : Except Error Store := do
  requireStorable row.processLeaseExpiresAt
  refuse (row.wellFormed = false) .integrity
  let providerAttempts ← demand (s.providerAttempts.insert? row) .integrity
  return { s with providerAttempts }

/-- `UPDATE provider_attempts SET … WHERE attempt_id = ?` -/
def updateAttempt (attemptId : String) (f : AttemptRow → AttemptRow) (s : Store) : Except Error Store := do
  refuse (s.providerAttempts.rows.any fun r => r.attemptId = attemptId ∧ (f r).wellFormed = false) .integrity
  let providerAttempts ← demand (s.providerAttempts.update? fun r => if r.attemptId = attemptId then f r else r) .integrity
  return { s with providerAttempts }

/-- The CHECK on a time column. -/
def requirePositive (observed : Int) : Except Error Unit := do
  requireStorable observed
  refuse (observed ≤ 0) .integrity

/-- `INSERT INTO provider_recovery_events` -/
def insertEvent (taskId attemptId : String) (action : RecoveryAction) (observed : Int) (s : Store) : Except Error Store := do
  requirePositive observed
  return { s with recoveryEvents := s.recoveryEvents ++ [⟨taskId, attemptId, action, observed⟩] }

/-- `_persist_recovery_outcome` -/
def persistRecoveryOutcome (attemptId : String) (outcome : Outcome) (observed : Int) (s : Store) : Except Error Store :=
  match s.recoveryOutcome? attemptId with
  | none => do
    requirePositive observed
    let recoveryOutcomes ← demand (s.recoveryOutcomes.insert? ⟨attemptId, outcome⟩) .integrity
    return { s with recoveryOutcomes }
  | some existing => do
    refuse (existing ≠ outcome) (.providerRecovery "recovery outcome conflicts with committed state")
    return s

/-- `_checkpoint` -/
def checkpoint (host : Host) (taskId : String) (role : ProviderRole) (phase : CheckpointPhase) (attemptId : String)
    (c : RecoveryContext) (authorizationFingerprint : String) (observed : Int) (s : Store) : Except Error Store := do
  requirePositive observed
  let checkpoints ← demand (s.checkpoints.insert? ⟨attemptId ++ ":" ++ phase.value, taskId, role, phase, attemptId,
    c.values.checkpointFingerprint host authorizationFingerprint⟩) .integrity
  return { s with checkpoints }

/-- `_persist_context`; the attempt is a foreign key of a new row. -/
def persistContext (attemptId : String) (c : RecoveryContext) (s : Store) : Except Error Store :=
  match s.context? attemptId with
  | none => do
    refuse (s.providerAttempt? attemptId = none) .integrity
    let contexts ← demand (s.contexts.insert? ⟨attemptId, c.taskId, c.values⟩) .integrity
    return { s with contexts }
  | some existing => do
    refuse (existing ≠ ⟨attemptId, c.taskId, c.values⟩) (.providerRecovery "recovery identity context has drifted")
    return s

/-- `_context_matches` -/
def contextMatches (s : Store) (identity : TaskIdentity) (attemptId : String) (c : RecoveryContext) : Bool :=
  c.taskId = identity.taskId ∧ s.context? attemptId = some ⟨attemptId, identity.taskId, c.values⟩

/-- `_persist_health_authorization` -/
def persistHealthAuthorization (host : Host) (attemptId : String) (values : HealthValues) (s : Store) : Except Error Store := do
  refuse (s.health? attemptId ≠ none) (.providerRecovery "provider health authorization already exists")
  requireStorable values.freshUntil
  let healthAuthorizations ← demand (s.healthAuthorizations.insert? ⟨attemptId, values⟩) .integrity
  let healthSeals ← demand (s.healthSeals.insert? ⟨attemptId, values.fingerprint host attemptId⟩) .integrity
  return { s with healthAuthorizations, healthSeals }

def healthDrifted : Error := .providerRecovery "provider health authorization is unavailable or has drifted"

/-- What is stored of a health authorization is well formed, live and of the attempt. -/
def healthLive (c : RecoveryContext) (role : ProviderRole) (profileIdentity : String) (observed : Int) (v : HealthValues) : Bool :=
  isHex 40 v.contractCommit && v.candidateSha.all (isHex 40) && isName v.caseId && isDigestText v.receiptDigest &&
    0 ≤ v.selectionOrdinal && observed < v.freshUntil && isDigestText v.healthContractIdentity && v.providerRole =
    role.value && v.profileIdentity = profileIdentity && v.candidateSha = c.candidateSha

/-- `_require_persisted_health_authorization` -/
def requirePersistedHealthAuthorization (host : Host) (s : Store) (attemptId : String) (c : RecoveryContext)
    (role : ProviderRole) (profileIdentity : String) (observed : Int) : Except Error String := do
  let values ← demand (s.health? attemptId) healthDrifted
  let sealed ← demand (s.healthSeal? attemptId) healthDrifted
  refuse (healthLive c role profileIdentity observed values = false ∨ isHex 64 sealed = false ∨
    sealed ≠ values.fingerprint host attemptId) healthDrifted
  refuse (¬ (s.checkpoint? (attemptId ++ ":before-dispatch")).any fun r => r.taskId = c.taskId ∧ r.role = role ∧
    r.phase = .beforeDispatch ∧ r.identityFingerprint = c.values.checkpointFingerprint host sealed) healthDrifted
  return sealed

/-- `_require_session_checkpoint` -/
def requireSessionCheckpoint (host : Host) (s : Store) (taskId attemptId sessionIdentity : String) (c : RecoveryContext)
    (authorizationFingerprint : String) : Except Error Unit :=
  refuse (s.sessionCheckpoint? attemptId ≠
    some ⟨attemptId, taskId, sessionIdentity, c.values.checkpointFingerprint host authorizationFingerprint⟩)
    (.providerRecovery "session checkpoint is unavailable or has drifted")

/-! ## Accepted reviews -/

inductive AcceptedReviewKind where
  | generic | plan | diff | invalid
deriving DecidableEq

/-- `str.startswith` on a text column that may be null. -/
def pointerStartsWith (pointer : Option String) (start : String) : Bool :=
  pointer.any fun text => start.toList.isPrefixOf text.toList

/-- An accepted attempt carries the identity of its review and the pointer made from it. -/
def AttemptRow.acceptedFor (row : AttemptRow) (start reviewId : String) : Bool :=
  row.state ≠ .accepted ∨ (row.acceptedReviewIdentity = some reviewId ∧ row.outputPointer = some (start ++ reviewId))

/-- `_accepted_review_kind` -/
def acceptedReviewKind (s : Store) (identity : TaskIdentity) (row : AttemptRow) : AcceptedReviewKind :=
  if row.role ≠ .supervisor then .generic
  else
    match s.planReviews.find? (fun r => r.providerAttemptId = row.attemptId ∧ r.taskId = identity.taskId),
      s.diffReviews.find? (fun r => r.providerAttemptId = row.attemptId ∧ r.taskId = identity.taskId) with
    | some _, some _ => .invalid
    | some plan, none => if row.acceptedFor "plan-review:" plan.reviewAttemptId then .plan else .invalid
    | none, some diff => if row.acceptedFor "diff-review:" diff.diffReviewAttemptId then .diff else .invalid
    | none, none =>
      if pointerStartsWith row.outputPointer "plan-review:" ∨ pointerStartsWith row.outputPointer "diff-review:" then .invalid
      else .generic

/-- `_accepted_supervisor_review_values` -/
def acceptedSupervisorReviewValues (identity : TaskIdentity) (row : AttemptRow) (c : RecoveryContext) : AcceptedReview :=
  ⟨identity.taskId, row.attemptId, row.completionEvidenceFingerprint, completeColumns c.runtimeBinding,
    row.selectedProfileIdentity, 0, row.logicalProfilePosition, row.physicalFormatOutputOrdinal, 0⟩

/-- `_require_accepted_supervisor_review` -/
def requireAcceptedSupervisorReview (s : Store) (identity : TaskIdentity) (row : AttemptRow) (c : RecoveryContext) :
    Except Error Unit := do
  let invalid : Error := .providerRecovery "accepted supervisor review is invalid"
  refuse (row.role ≠ .supervisor ∨ row.state ≠ .accepted ∨ row.completionEvidenceFingerprint = none) invalid
  let reviewIdentity ← demand row.acceptedReviewIdentity invalid
  refuse ((s.acceptedReviews.rows.find? fun r => r.acceptedReviewIdentity = reviewIdentity).map (·.review) ≠
    some (acceptedSupervisorReviewValues identity row c)) (.providerRecovery "accepted supervisor review has drifted")

/-! ## Reading an attempt back -/

/-- What `read_attempt` sees after it has compared the persisted binding with the context it was given. A missing
context row is inserted on its connection, which is closed without a commit. -/
def readConnection (host : Host) (identity : TaskIdentity) (row : AttemptRow) (s : Store) :
    Option (RecoveryContext × Int) → Except Error Store
  | none => .ok s
  | some (c, observed) => do
    validateContext host identity c
    let s ← persistContext row.attemptId c s
    let _ ← requirePersistedHealthAuthorization host s row.attemptId c row.role row.selectedProfileIdentity observed
    return s

/-- `read_attempt` -/
def readAttempt (host : Host) (identity : TaskIdentity) (attemptId : String) (context : Option (RecoveryContext × Int)) (s : Store) :
    Except Error AttemptRow := do
  let _ ← requireMatchingTask host s.ledger identity none
  let row ← attemptRow s identity.taskId attemptId
  let s ← readConnection host identity row s context
  let kind := acceptedReviewKind s identity row
  refuse (kind = .invalid) (.providerRecovery "accepted supervisor review is invalid")
  if kind = .generic ∧ row.state = .accepted then do
    let (c, _) ← demand context (.providerRecovery "accepted supervisor review requires exact recovery context")
    refuse (contextMatches s identity attemptId c = false)
      (.providerRecovery "accepted supervisor review requires exact recovery context")
    requireAcceptedSupervisorReview s identity row c
    return row
  else return row

/-- The row a replay returned inside its transaction, or the row read back after the commit. -/
def orRead (replayed : Option AttemptRow) (read : Store → Except Error AttemptRow) : Tx Error Store AttemptRow :=
  match replayed with
  | some row => pure row
  | none => Tx.query read

/-- `except sqlite3.IntegrityError` -/
def onIntegrity (message : String) : Error → Error
  | .integrity => .providerRecovery message
  | e => e

/-! ## Preparation -/

/-- The part of `record_runtime_binding` about the configuration. -/
def recordBindingColumns (taskId : String) (binding : RuntimeBinding) (s : Store) : Except Error Store :=
  match s.ledger.runtimeBinding? taskId with
  | none => do
    let runtimeBindings ← demand (s.ledger.runtimeBindings.insert? (binding.columns taskId)) .integrity
    return { s with ledger := { s.ledger with runtimeBindings } }
  | some row => do
    refuse (row ≠ binding.columns taskId) (.state "resolved configuration binding has drifted")
    return s

/-- `record_runtime_binding` -/
def recordRuntimeBinding (taskId : String) (binding : RuntimeBinding) (s : Store) : Except Error Store := do
  let s ← recordBindingColumns taskId binding s
  if binding.hasReviewPolicy then
    match s.reviewPolicies.rows.find? fun r => r.taskId = taskId with
    | none => do
      let reviewPolicies ← demand (s.reviewPolicies.insert? (binding.reviewPolicyColumns taskId)) .integrity
      return { s with reviewPolicies }
    | some row => do
      refuse (row ≠ binding.reviewPolicyColumns taskId) (.state "resolved review policy binding has drifted")
      return s
  else return s

/-! ### Coordinates -/

structure Coordinate where
  epoch : Int
  round : Int
  logical : Int
  physical : Int
deriving DecidableEq

def CoordinateRow.coordinate (r : CoordinateRow) : Coordinate :=
  ⟨r.reviewEpoch, r.reviewRound, r.logicalProfilePosition, r.physicalFormatOutputOrdinal⟩

/-- `_coordinate_transition_is_valid` -/
def coordinateTransitionIsValid (previous : Option Coordinate) (current : Coordinate) : Bool :=
  if current.epoch < 0 ∨ current.round < 1 ∨ current.logical < 1 ∨ ¬ (0 ≤ current.physical ∧ current.physical ≤ 2) then false
  else
    match previous with
    | none => current.epoch ≥ 0 ∧ current.round ≥ 1 ∧ current.logical = 1 ∧ current.physical = 0
    | some prior =>
      if current.epoch = prior.epoch ∧ current.round = prior.round then
        (current.logical = prior.logical ∧ current.physical = prior.physical + 1) ∨
          (current.logical = prior.logical + 1 ∧ current.physical = 0)
      else if current.epoch = prior.epoch then
        current.round = prior.round + 1 ∧ current.logical = 1 ∧ current.physical = 0
      else
        current.epoch = prior.epoch + 1 ∧ (current.round = prior.round ∨ current.round = 1) ∧ current.logical = 1 ∧
          current.physical = 0

/-- The attempt of a coordinate. -/
def coordinateAttempt? (s : Store) (r : CoordinateRow) : Option AttemptRow :=
  s.providerAttempts.rows.find? fun a => a.attemptId = r.attemptId ∧ a.taskId = r.taskId

/-- The coordinates of a task with their Supervisor attempts, in the order of the attempt numbers. -/
def coordinateHistory (s : Store) (taskId : String) : List (CoordinateRow × AttemptRow) :=
  sortBy (fun p => toLex (p.2.attemptNumber, p.2.attemptId))
    ((s.coordinates.rows.filter fun r => r.taskId = taskId).filterMap fun r =>
      ((coordinateAttempt? s r).filter fun a => a.role = .supervisor).map fun a => (r, a))

/-- The loop of `_require_monotonic_supervisor_coordinates`, with the coordinate it ends on. -/
def checkHistory : Option Coordinate → List (CoordinateRow × AttemptRow) → Except Error (Option Coordinate)
  | previous, [] => .ok previous
  | previous, (r, a) :: rest => do
    refuse (a.selectedProfileIdentity ≠ r.profileIdentity ∨ coordinateTransitionIsValid previous r.coordinate = false)
      (.providerRecovery "Supervisor attempt coordinate history has drifted")
    checkHistory (some r.coordinate) rest

/-- `_require_monotonic_supervisor_coordinates` -/
def requireMonotonicSupervisorCoordinates (s : Store) (taskId : String) (prospective : Option Coordinate) : Except Error Unit := do
  refuse (s.coordinates.rows.any fun r => r.taskId = taskId ∧ ¬ (coordinateAttempt? s r).any fun a =>
    a.role = .supervisor) (.providerRecovery "Supervisor attempt coordinate history has drifted")
  let previous ← checkHistory none (coordinateHistory s taskId)
  refuse (prospective.any fun current => ¬ coordinateTransitionIsValid previous current)
    (.providerRecovery "Supervisor attempt coordinate is stale, regressive, or gapped")

/-- `_reserve_supervisor_coordinate` for a coordinate. -/
def reserveCoordinate (row : CoordinateRow) (s : Store) : Except Error Store :=
  match s.coordinates.rows.find? fun r => r.attemptId = row.attemptId with
  | some existing => do
    refuse (existing ≠ row) (.providerRecovery "Supervisor attempt coordinate replay conflicts with committed state")
    requireMonotonicSupervisorCoordinates s row.taskId none
    return s
  | none => do
    requireStorable row.reviewEpoch
    requireStorable row.reviewRound
    refuse (s.coordinates.rows.any fun r => r.taskId = row.taskId ∧ r.coordinate = row.coordinate)
      (.providerRecovery "Supervisor attempt coordinate conflicts with committed state")
    requireMonotonicSupervisorCoordinates s row.taskId (some row.coordinate)
    let coordinates ← demand (s.coordinates.insert? row) .integrity
    return { s with coordinates }

/-- `_reserve_supervisor_coordinate` -/
def reserveSupervisorCoordinate (taskId attemptId profileIdentity : String) (position : AccountingPosition) (s : Store) :
    Option (Int × Int) → Except Error Store
  | none => .ok s
  | some (epoch, round) =>
    reserveCoordinate ⟨attemptId, taskId, epoch, round, position.logicalProfilePosition,
      position.physicalFormatOutputOrdinal, profileIdentity⟩ s

/-! ### `prepare_attempt` -/

/-- The arguments of a preparation. -/
structure PrepareRequest where
  attemptId : String
  role : ProviderRole
  processLeaseId : String
  processLeaseExpiresAt : Int
  inputFingerprint : String
  selectedProfileIdentity : Option String
  logicalProfilePosition : Int
  physicalFormatOutputOrdinal : Int
  reviewEpoch : Option Int
  reviewRound : Option Int

/-- What the checks before the transaction make of the arguments. -/
structure Preparation where
  profile : String
  position : AccountingPosition
  coordinate : Option (Int × Int)
  receipt : HealthReceipt

variable (host : Host)

/-- `preflight_attempt_preparation` -/
def preflightAttemptPreparation (identity : TaskIdentity) (c : RecoveryContext) (request : PrepareRequest) (observed : Int) :
    Except Error Preparation := do
  validateContext host identity c
  requireToken request.attemptId "attempt identity"
  requireToken request.processLeaseId "process lease identity"
  refuse (request.processLeaseExpiresAt ≤ observed) (.providerRecovery "process lease expiry is invalid")
  requireFingerprint request.inputFingerprint "input fingerprint"
  let profile ← selectedProfileIdentity c request.role request.selectedProfileIdentity
  let position ← accountingPosition c request.role profile request.logicalProfilePosition request.physicalFormatOutputOrdinal
  let coordinate ← validateSupervisorCoordinateRequest request.role request.reviewEpoch request.reviewRound
  let receipt ← requireHealthAuthorization c request.role profile observed
  return ⟨profile, position, coordinate, receipt⟩

/-- The row of a new attempt. -/
def preparedRow (taskId : String) (number : Nat) (request : PrepareRequest) (p : Preparation) : AttemptRow where
  attemptId := request.attemptId
  taskId := taskId
  role := request.role
  attemptNumber := number
  processLeaseId := request.processLeaseId
  processLeaseExpiresAt := request.processLeaseExpiresAt
  sessionIdentity := none
  externalTurnIdentity := none
  inputFingerprint := request.inputFingerprint
  outputPointer := none
  completionEvidenceFingerprint := none
  acceptedReviewIdentity := none
  state := .prepared
  selectedProfileIdentity := p.profile
  logicalProfilePosition := p.position.logicalProfilePosition
  physicalFormatOutputOrdinal := p.position.physicalFormatOutputOrdinal

/-- `COALESCE(MAX(attempt_number), 0) + 1` over the attempts of a role. -/
def nextAttemptNumber (s : Store) (taskId : String) (role : ProviderRole) : Nat :=
  ((s.providerAttempts.rows.filter fun r => r.taskId = taskId ∧ r.role = role).map (·.attemptNumber)).foldr max 0 + 1

/-- Whatever closes the scope of a Worker or a Supervisor. -/
def requireDispatchScope (s : Store) (taskId : String) (role : ProviderRole) : Except Error Unit :=
  if role = .worker ∨ role = .supervisor then
    rewrap (requireScopeOpen host s taskId (role.value ++ ":" ++ taskId))
      fun _ => .providerRecovery "provider dispatch scope is stopped"
  else .ok ()

/-- The stored attempt is the one that is prepared again. -/
def AttemptRow.replays (row : AttemptRow) (request : PrepareRequest) (p : Preparation) : Bool :=
  row.role = request.role ∧ row.processLeaseId = request.processLeaseId ∧
    row.processLeaseExpiresAt = request.processLeaseExpiresAt ∧ row.inputFingerprint = request.inputFingerprint ∧
    row.selectedProfileIdentity = p.profile ∧ row.logicalProfilePosition = p.position.logicalProfilePosition ∧
    row.physicalFormatOutputOrdinal = p.position.physicalFormatOutputOrdinal ∧ (row.state = .prepared ∨ row.state = .dispatched)

/-- The replay branch of `prepare_attempt`. -/
def replayPreparation (taskId : String) (c : RecoveryContext) (request : PrepareRequest) (p : Preparation)
    (observed : Int) (row : AttemptRow) : Tx Error Store (Option AttemptRow) := do
  Tx.write (persistContext request.attemptId c)
  let _ ← Tx.query fun s => requirePersistedHealthAuthorization host s request.attemptId c row.role
    row.selectedProfileIdentity observed
  Tx.check (refuse (row.replays request p = false) (.providerRecovery "provider attempt replay conflicts with committed state"))
  Tx.write fun s => reserveSupervisorCoordinate taskId request.attemptId p.profile p.position s p.coordinate
  return some row

/-- The branch of `prepare_attempt` for a new attempt. -/
def freshPreparation (taskId : String) (c : RecoveryContext) (request : PrepareRequest) (p : Preparation) (observed : Int) :
    Tx Error Store (Option AttemptRow) := do
  let values := p.receipt.values request.role p.profile
  Tx.write fun s => insertAttempt (preparedRow taskId (nextAttemptNumber s taskId request.role) request p) s
  Tx.write fun s => reserveSupervisorCoordinate taskId request.attemptId p.profile p.position s p.coordinate
  Tx.write (persistContext request.attemptId c)
  Tx.write (persistHealthAuthorization host request.attemptId values)
  Tx.write (checkpoint host taskId request.role .beforeDispatch request.attemptId c
    (values.fingerprint host request.attemptId) observed)
  return none

/-- The transaction of `prepare_attempt`. -/
def prepare (identity : TaskIdentity) (c : RecoveryContext) (request : PrepareRequest) (p : Preparation)
    (lease : Option TransitionLease) (observed : Int) : Tx Error Store (Option AttemptRow) := do
  Tx.query fun s => Gate.requireLease s.ledger lease identity.repositoryId observed
  let _ ← Tx.query fun s => requireMatchingTask host s.ledger identity none
  Tx.query fun s => requireDispatchScope host s identity.taskId request.role
  Tx.query fun s => refuse (request.role = .supervisor ∧ identity.taskId ∈ s.reviewLimitFinalizations)
    (.providerRecovery "review limit has consumed the final Worker repair")
  Tx.write (recordRuntimeBinding identity.taskId c.runtimeBinding)
  Tx.query fun s => requireRuntimeBinding s.ledger s.reviewPolicies identity.taskId c.runtimeBinding
  let existing ← Tx.query fun s =>
    .ok (s.providerAttempts.rows.find? fun r => r.taskId = identity.taskId ∧ r.attemptId = request.attemptId)
  match existing with
  | some row => replayPreparation host identity.taskId c request p observed row
  | none => freshPreparation host identity.taskId c request p observed

/-- `prepare_attempt` -/
def prepareAttempt (identity : TaskIdentity) (c : RecoveryContext) (request : PrepareRequest)
    (lease : Option TransitionLease) (observed : Int) : Tx Error Store AttemptRow := do
  let p ← Tx.check (preflightAttemptPreparation host identity c request observed)
  let replayed ← Tx.mapError (transaction (prepare host identity c request p lease observed))
    (onIntegrity "provider attempt identity conflicts with committed state")
  orRead replayed (readAttempt host identity request.attemptId none)

/-! ## Operations on a prepared attempt -/

/-- What every later operation starts with: the lease, the task, the scope of a claim, the persisted context, and the
attempt with the seal of its health authorization. -/
def authorizeAttempt (identity : TaskIdentity) (c : RecoveryContext) (attemptId : String) (scope : Option String)
    (lease : Option TransitionLease) (observed : Int) : Tx Error Store (AttemptRow × String) := do
  Tx.query fun s => Gate.requireLease s.ledger lease identity.repositoryId observed
  let _ ← Tx.query fun s => requireMatchingTask host s.ledger identity none
  Tx.query fun s => scope.forM (requireScopeOpen host s identity.taskId)
  Tx.write (persistContext attemptId c)
  let row ← Tx.query fun s => attemptRow s identity.taskId attemptId
  let sealed ← Tx.query fun s =>
    requirePersistedHealthAuthorization host s attemptId c row.role row.selectedProfileIdentity observed
  return (row, sealed)

/-- `FailureRole` of a provider role. -/
def ProviderRole.failureRole? : ProviderRole → Option FailureRole
  | .worker => some .worker
  | .supervisor => some .supervisor
  | .planning | .aggregation => none

/-- The admission of an attempt under a session. -/
def expectedAdmission (identity : TaskIdentity) (row : AttemptRow) (c : RecoveryContext)
    (candidateSha sessionIdentity : String) : Admission :=
  ⟨identity.taskId, candidateSha, "sha256:" ++ c.policyFingerprint, c.runtimeBinding.resolvedDigest.text,
    row.role.value ++ ":" ++ identity.taskId, row.role.value, row.selectedProfileIdentity, sessionIdentity, row.attemptId⟩

/-- `_persist_failure_admission` -/
def persistFailureAdmission (identity : TaskIdentity) (row : AttemptRow) (c : RecoveryContext)
    (sessionIdentity : String) (create : Bool) (s : Store) : Except Error Store :=
  match c.candidateSha with
  | none => .ok s
  | some candidateSha => do
    let role ← demand row.role.failureRole? (.providerRecovery "failure recovery role admission is invalid")
    let expected := expectedAdmission identity row c candidateSha sessionIdentity
    let preDispatch ← preDispatchFailureIdentity host role row.attemptId
    if s.failureAdmission? row.attemptId = none ∧ create then do
      let failureAdmissions ← demand (s.failureAdmissions.insert? ⟨row.attemptId, expected⟩) .integrity
      return { s with failureAdmissions }
    else if create ∧ s.failureAdmission? row.attemptId = some { expected with sessionIdentity := preDispatch } then do
      let failureAdmissions ← demand (s.failureAdmissions.update? fun r =>
        if r.attemptId = row.attemptId ∧ r.admission.sessionIdentity = preDispatch then
          { r with admission := { r.admission with sessionIdentity } } else r) .integrity
      return { s with failureAdmissions }
    else do
      refuse (s.failureAdmission? row.attemptId ≠ some expected) (.providerRecovery "failure recovery admission has drifted")
      return s

/-! ### Claims -/

/-- The roles that claim their dispatch, with the word and the adjective of their errors. -/
def claimNoun : FailureRole → String × String
  | .supervisor => ("Supervisor", "unclaimed")
  | .worker => ("Worker", "untouched")
  | .dependencyReview => ("", "")

/-- Nothing was observed of the attempt yet. -/
def AttemptRow.untouched (row : AttemptRow) : Bool :=
  row.state = .prepared ∧ row.sessionIdentity = none ∧ row.externalTurnIdentity = none ∧ row.outputPointer = none ∧
    row.acceptedReviewIdentity = none

def claimConsumed (role : FailureRole) : String := (claimNoun role).1 ++ " dispatch claim is already consumed"

/-- The transaction of a claim by a role. -/
def claim (role : FailureRole) (identity : TaskIdentity) (c : RecoveryContext) (attemptId : String)
    (lease : Option TransitionLease) (observed : Int) : Tx Error Store Unit := do
  let (row, _) ← authorizeAttempt host identity c attemptId (some (role.value ++ ":" ++ identity.taskId)) lease observed
  Tx.check (refuse (row.role.failureRole? ≠ some role ∨ row.untouched = false)
    (.providerRecovery ((claimNoun role).1 ++ " dispatch claim requires an " ++ (claimNoun role).2 ++ " prepared attempt")))
  Tx.query fun s => refuse (s.dispatchClaim? attemptId ≠ none) (.providerRecovery (claimConsumed role))
  Tx.check (requireStorable observed)
  Tx.write fun s => do
    let dispatchClaims ← demand (s.dispatchClaims.insert? ⟨attemptId, identity.taskId, row.inputFingerprint⟩) .integrity
    return { s with dispatchClaims }
  let preDispatch ← Tx.check (preDispatchFailureIdentity host role attemptId)
  Tx.write (persistFailureAdmission host identity row c preDispatch true)

/-- A claim by a role. -/
def claimDispatch (role : FailureRole) (identity : TaskIdentity) (c : RecoveryContext) (attemptId : String)
    (lease : Option TransitionLease) (observed : Int) : Tx Error Store AttemptRow := do
  Tx.check (validateContext host identity c)
  Tx.check (requireToken attemptId "attempt identity")
  Tx.mapError (transaction (claim host role identity c attemptId lease observed)) (onIntegrity (claimConsumed role))
  Tx.query (readAttempt host identity attemptId (some (c, observed)))

/-- `claim_supervisor_dispatch` -/
def claimSupervisorDispatch := claimDispatch host .supervisor

/-- `claim_worker_dispatch` -/
def claimWorkerDispatch := claimDispatch host .worker

/-! ### Sessions and turns -/

/-- `_require_session_reuse_allowed` -/
def requireSessionReuseAllowed (s : Store) (row : AttemptRow) (sessionIdentity : String) : Except Error Unit :=
  let reusable (role : ProviderRole) : Bool := role = .planning ∨ role = .worker
  let others := s.providerAttempts.rows.filter fun r =>
    r.taskId = row.taskId ∧ r.sessionIdentity = some sessionIdentity ∧ r.attemptId ≠ row.attemptId
  refuse (others ≠ [] ∧ (reusable row.role = false ∨ others.any fun r => ¬ reusable r.role))
    (.providerRecovery "session identity cannot be reused across provider attempts")

/-- The session checkpoint of an attempt is written, or is the one that is there. -/
def persistSessionCheckpoint (row : SessionCheckpointRow) (observed : Int) (s : Store) : Except Error Store :=
  match s.sessionCheckpoint? row.attemptId with
  | none => do
    requirePositive observed
    let sessionCheckpoints ← demand (s.sessionCheckpoints.insert? row) .integrity
    return { s with sessionCheckpoints }
  | some existing => do
    refuse (existing ≠ row) (.providerRecovery "session checkpoint replay conflicts with committed state")
    return s

/-- The transaction of `record_session_identity`. -/
def recordSession (identity : TaskIdentity) (c : RecoveryContext) (attemptId sessionIdentity : String)
    (lease : Option TransitionLease) (observed : Int) : Tx Error Store Unit := do
  let (row, sealed) ← authorizeAttempt host identity c attemptId none lease observed
  Tx.check (refuse (row.state ≠ .prepared) (.providerRecovery "session identity cannot be recorded for this attempt"))
  Tx.check (refuse (row.sessionIdentity.any (· ≠ sessionIdentity))
    (.providerRecovery "session identity replay conflicts with committed state"))
  Tx.query fun s => requireSessionReuseAllowed s row sessionIdentity
  Tx.write fun s =>
    if row.sessionIdentity = none then updateAttempt attemptId (fun r => { r with sessionIdentity := some sessionIdentity }) s
    else .ok s
  Tx.write (persistFailureAdmission host identity row c sessionIdentity (row.sessionIdentity = none))
  Tx.write (persistSessionCheckpoint
    ⟨attemptId, identity.taskId, sessionIdentity, c.values.checkpointFingerprint host sealed⟩ observed)

/-- `record_session_identity` -/
def recordSessionIdentity (identity : TaskIdentity) (c : RecoveryContext) (attemptId sessionIdentity : String)
    (lease : Option TransitionLease) (observed : Int) : Tx Error Store AttemptRow := do
  Tx.check (validateContext host identity c)
  Tx.check (requireToken attemptId "attempt identity")
  Tx.check (requireToken sessionIdentity "session identity")
  Tx.mapError (transaction (recordSession host identity c attemptId sessionIdentity lease observed))
    (onIntegrity "session identity conflicts with committed state")
  Tx.query (readAttempt host identity attemptId none)

/-- The transaction of `record_external_turn`. -/
def recordTurn (identity : TaskIdentity) (c : RecoveryContext) (attemptId sessionIdentity turnIdentity : String)
    (lease : Option TransitionLease) (observed : Int) : Tx Error Store (Option AttemptRow) := do
  let (row, sealed) ← authorizeAttempt host identity c attemptId none lease observed
  if row.state = .dispatched ∧ row.sessionIdentity = some sessionIdentity ∧ row.externalTurnIdentity = some turnIdentity then do
    Tx.query fun s => requireSessionCheckpoint host s identity.taskId attemptId sessionIdentity c sealed
    return some row
  else do
    Tx.check (refuse (row.state ≠ .prepared ∨ row.sessionIdentity ≠ some sessionIdentity)
      (.providerRecovery "external turn identity cannot be replayed for this attempt"))
    Tx.query fun s => requireSessionCheckpoint host s identity.taskId attemptId sessionIdentity c sealed
    Tx.write (updateAttempt attemptId fun r => { r with externalTurnIdentity := some turnIdentity, state := .dispatched })
    Tx.write (checkpoint host identity.taskId row.role .afterDispatch attemptId c sealed observed)
    return none

/-- `record_external_turn` -/
def recordExternalTurn (identity : TaskIdentity) (c : RecoveryContext) (attemptId sessionIdentity turnIdentity : String)
    (lease : Option TransitionLease) (observed : Int) : Tx Error Store AttemptRow := do
  Tx.check (validateContext host identity c)
  Tx.check (requireToken attemptId "attempt identity")
  Tx.check (requireToken sessionIdentity "session identity")
  Tx.check (requireToken turnIdentity "external turn identity")
  let replayed ← Tx.mapError (transaction
    (recordTurn host identity c attemptId sessionIdentity turnIdentity lease observed))
      (onIntegrity "external turn identity conflicts with committed state")
  orRead replayed (readAttempt host identity attemptId none)

/-! ### Outputs -/

def Store.completionOutput? (s : Store) (attemptId : String) : Option String :=
  (s.completionOutputs.rows.find? fun r => r.attemptId = attemptId).map (·.outputFingerprint)

/-- The output binding of an attempt is written, or is the one that is there. -/
def persistCompletionOutput (attemptId outputFingerprint message : String) (s : Store) : Except Error Store :=
  match Store.completionOutput? s attemptId with
  | none => do
    let completionOutputs ← demand (s.completionOutputs.insert? ⟨attemptId, outputFingerprint⟩) .integrity
    return { s with completionOutputs }
  | some bound => do
    refuse (bound ≠ outputFingerprint) (.providerRecovery message)
    return s

/-- The transaction of `record_completed_output`. -/
def completeOutput (identity : TaskIdentity) (c : RecoveryContext)
    (attemptId outputPointer evidence outputFingerprint : String) (lease : Option TransitionLease) (observed : Int) :
    Tx Error Store Unit := do
  let (row, _) ← authorizeAttempt host identity c attemptId none lease observed
  if row.state = .completed then do
    Tx.check (refuse (row.outputPointer ≠ some outputPointer ∨ row.completionEvidenceFingerprint ≠ some evidence)
      (.providerRecovery "completed output replay conflicts with committed state"))
    Tx.write (persistCompletionOutput attemptId outputFingerprint "completed output replay conflicts with committed content")
  else do
    Tx.check (refuse (row.state ≠ .dispatched) (.providerRecovery "completed output requires a dispatched provider turn"))
    Tx.query fun s => refuse ((Store.completionOutput? s attemptId).any (· ≠ outputFingerprint))
      (.providerRecovery "completed output conflicts with committed content")
    Tx.write (updateAttempt attemptId fun r =>
      { r with outputPointer := some outputPointer, completionEvidenceFingerprint := some evidence, state := .completed })
    Tx.write (persistCompletionOutput attemptId outputFingerprint "completed output conflicts with committed content")

/-- `record_completed_output` -/
def recordCompletedOutput (identity : TaskIdentity) (c : RecoveryContext)
    (attemptId outputPointer evidence outputFingerprint : String) (lease : Option TransitionLease) (observed : Int) :
    Tx Error Store AttemptRow := do
  Tx.check (validateContext host identity c)
  Tx.check (requireToken attemptId "attempt identity")
  Tx.check (requireToken outputPointer "output pointer")
  Tx.check (requireFingerprint evidence "completion evidence fingerprint")
  Tx.check (if outputFingerprint = "" then .ok () else requireFingerprint outputFingerprint "output fingerprint")
  transaction (completeOutput host identity c attemptId outputPointer evidence outputFingerprint lease observed)
  Tx.query (readAttempt host identity attemptId none)

def Store.invalidOutputsOf (s : Store) (attemptId : String) : List InvalidOutputRow :=
  s.invalidOutputs.rows.filter fun r => r.attemptId = attemptId

/-- The transaction of `record_invalid_output`. -/
def invalidOutput (identity : TaskIdentity) (c : RecoveryContext)
    (attemptId outputPointer outputFingerprint reasonFingerprint : String) (lease : Option TransitionLease)
    (observed : Int) : Tx Error Store (Option AttemptRow) := do
  let (row, _) ← authorizeAttempt host identity c attemptId none lease observed
  let existing ← Tx.query fun s => .ok (Store.invalidOutputsOf s attemptId)
  if (existing.any fun r => r.outputFingerprint = outputFingerprint ∧ r.reasonFingerprint = reasonFingerprint) ∧
      row.state = .ambiguous ∧ row.outputPointer = some outputPointer then
    return some row
  else do
    Tx.check (refuse (existing ≠ []) (.providerRecovery "invalid output replay conflicts with committed state"))
    Tx.check (refuse (row.state ≠ .dispatched) (.providerRecovery "invalid output requires a dispatched provider turn"))
    Tx.write (updateAttempt attemptId fun r => { r with outputPointer := some outputPointer, state := .ambiguous })
    Tx.check (requirePositive observed)
    Tx.write fun s => do
      let invalidOutputs ← demand (s.invalidOutputs.insert?
        ⟨identity.taskId, attemptId, outputFingerprint, reasonFingerprint⟩) .integrity
      return { s with invalidOutputs }
    return none

/-- `record_invalid_output` -/
def recordInvalidOutput (identity : TaskIdentity) (c : RecoveryContext)
    (attemptId outputPointer outputFingerprint reasonFingerprint : String) (lease : Option TransitionLease) (observed : Int) :
    Tx Error Store AttemptRow := do
  Tx.check (validateContext host identity c)
  Tx.check (requireToken attemptId "attempt identity")
  Tx.check (requireToken outputPointer "output pointer")
  Tx.check (requireFingerprint outputFingerprint "output fingerprint")
  Tx.check (requireFingerprint reasonFingerprint "invalid output reason fingerprint")
  let replayed ← transaction (invalidOutput host identity c attemptId outputPointer outputFingerprint reasonFingerprint
    lease observed)
  orRead replayed (readAttempt host identity attemptId none)

end Roundwright.Provider
