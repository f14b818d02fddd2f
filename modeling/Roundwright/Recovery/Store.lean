/-
The recovery tables: failure records, the owner's denial commands with their grants, the decisions over a
denial, and the recovery routes with their successor admissions. They lie over the provider tables and the
database of the other subsystems.
-/
import Roundwright.Provider.Row
import Roundwright.Gate.Store

namespace Roundwright.Recovery

open Lib State

/-! ## Failure records -/

/-- `failure_recovery_records` -/
structure RecordRow where
  recordDigest : Digest
  taskId : String
  record : FailureRecord

def RecordRow.clash (a b : RecordRow) : Bool := a.recordDigest == b.recordDigest

/-! ## Denials -/

/-- Whether a decision or a command clears a denial or revokes a clearance. -/
inductive DecisionKind where
  | clear | revoke
deriving DecidableEq

/-- The `command_kind` of the commands of a kind. -/
def DecisionKind.commandKind : DecisionKind → String
  | .clear => "clear-denial"
  | .revoke => "revoke-denial-clearance"

def DecisionKind.value : DecisionKind → String
  | .clear => "clear"
  | .revoke => "revoke"

/-- `denial_clearance_authority_grants` and `denial_revocation_authority_grants`; the state is `active`. -/
structure GrantRow where
  grantId : String
  ownerIdentity : String
  taskId : String
  repositoryId : String
  candidateSha : String
  candidateSeal : String
  authorityScope : String
  targetDigest : Digest
  authorityDigest : String

def GrantRow.clash (a b : GrantRow) : Bool :=
  a.grantId == b.grantId || (a.ownerIdentity == b.ownerIdentity && a.taskId == b.taskId && a.repositoryId ==
    b.repositoryId && a.candidateSha == b.candidateSha && a.candidateSeal == b.candidateSeal && a.authorityScope ==
      b.authorityScope &&
    a.targetDigest == b.targetDigest)

/-- `denial_clearance_commands` and `denial_revocation_commands`; the state is `consumed` and the command kind
is that of the table. Only a revocation names a clearance. -/
structure CommandRow where
  commandId : String
  taskId : String
  repositoryId : String
  denialDigest : Digest
  clearanceDigest : Option Digest
  authorityGrantId : String
  candidateSha : String
  candidateSeal : String
  authorityScope : String
  targetDigest : Digest
  commandDigest : String
  hostResultDigest : String
  resultDigest : String
  idempotencyKey : String

def CommandRow.clash (a b : CommandRow) : Bool := a.commandId == b.commandId || a.idempotencyKey == b.idempotencyKey

/-- The receipt a command is cited by. -/
structure DenialReceipt where
  commandId : String
  kind : DecisionKind
  denialDigest : Digest
  targetDigest : Digest
  repositoryId : String
  candidateSha : String
  candidateSeal : String
  authorityScope : String
  ownerIdentity : String
  authorityGrantId : String
  authorityDigest : String
  commandDigest : String
  verifiedHostResultDigest : String
  resultDigest : String
deriving DecidableEq

def DenialReceipt.payload (r : DenialReceipt) : Json :=
  .obj [("schema", .str "roundwright-dedicated-denial-command-receipt/v1"), ("command_id", .str r.commandId),
    ("command_kind", .str r.kind.commandKind), ("denial_digest", .digest r.denialDigest), ("target_digest", .digest r.targetDigest),
    ("repository_id", .str r.repositoryId), ("candidate_sha", .str r.candidateSha), ("candidate_seal", .str r.candidateSeal),
    ("authority_scope", .str r.authorityScope), ("owner_identity", .str r.ownerIdentity),
    ("authority_grant_id", .str r.authorityGrantId), ("authority_digest", .str ("sha256:" ++ r.authorityDigest)),
    ("command_digest", .str ("sha256:" ++ r.commandDigest)),
    ("verified_host_result_digest", .str ("sha256:" ++ r.verifiedHostResultDigest)),
    ("result_digest", .str ("sha256:" ++ r.resultDigest))]

/-- `decision_json`; the schema and the conditions have one value. -/
structure Decision where
  kind : DecisionKind
  recordDigest : Digest
  binding : FailureBinding
  denialCommand : DenialReceipt
  predecessorDigest : Option Digest
  sequence : Nat
deriving DecidableEq

/-- `_decision_payload` -/
def Decision.payload (d : Decision) : Json :=
  .obj [("schema", .str "roundwright-failure-clearance-decision/v3"), ("kind", .str d.kind.value),
    ("record_digest", .digest d.recordDigest), ("binding", d.binding.payload), ("conditions", .arr (clearanceConditions.map .str)),
    ("denial_command", d.denialCommand.payload), ("predecessor_digest", .ofDigest d.predecessorDigest),
    ("sequence", .num d.sequence)]

/-- `denial_clearance_decisions` -/
structure DecisionRow where
  decisionDigest : Digest
  taskId : String
  recordDigest : Digest
  commandId : String
  commandKind : DecisionKind
  decision : Decision
  sequence : Nat

def DecisionRow.clash (a b : DecisionRow) : Bool :=
  a.decisionDigest == b.decisionDigest ||
    (a.taskId == b.taskId && ((a.recordDigest == b.recordDigest && a.sequence == b.sequence) ||
      (a.commandKind == b.commandKind && a.commandId == b.commandId)))

/-! ## Routes -/

/-- The state of a route with the columns the table's CHECK ties to it. -/
inductive RouteState where
  | issued
  | reserving (reservationDigest : Digest)
  | consumed (reservationDigest : Digest) (consumedAt : Int)
deriving DecidableEq

/-- `DurableRecoveryRouteAuthorization`; the target role is the role of the binding. -/
structure RouteAuthorization where
  routeDigest : Digest
  recordDigest : Digest
  binding : FailureBinding
  targetProfileDigest : Digest
  targetRouteDigest : Digest
  coordinateDigest : Digest
  remainingBudgetDigest : Digest
deriving DecidableEq

/-- `recovery_route_authorizations` -/
structure RouteRow extends RouteAuthorization where
  taskId : String
  repositoryId : String
  state : RouteState

def RouteRow.clash (a b : RouteRow) : Bool :=
  a.routeDigest == b.routeDigest || (a.taskId == b.taskId && a.recordDigest == b.recordDigest &&
    a.targetRouteDigest == b.targetRouteDigest && a.coordinateDigest == b.coordinateDigest)

/-- `recovery_route_successor_admissions` -/
structure SuccessorAdmissionRow where
  routeDigest : Digest
  taskId : String
  repositoryId : String
  reservationDigest : Digest
  targetAttemptId : String
  targetRequestDigest : Digest
deriving DecidableEq

def SuccessorAdmissionRow.clash (a b : SuccessorAdmissionRow) : Bool :=
  a.routeDigest == b.routeDigest || (a.taskId == b.taskId &&
    (a.targetAttemptId == b.targetAttemptId || a.targetRequestDigest == b.targetRequestDigest))

/-! ## The store -/

structure Store extends toGateStore : Gate.Store where
  providerAttempts : Table Provider.AttemptRow.clash
  contexts : Table Provider.ContextRow.clash
  healthAuthorizations : Table Provider.HealthRow.clash
  healthSeals : Table Provider.HealthSealRow.clash
  checkpoints : Table Provider.CheckpointRow.clash
  sessionCheckpoints : Table Provider.SessionCheckpointRow.clash
  dispatchClaims : Table Provider.ClaimRow.clash
  failureAdmissions : Table Provider.AdmissionRow.clash
  completionOutputs : Table Provider.CompletionOutputRow.clash
  invalidOutputs : Table Provider.InvalidOutputRow.clash
  recoveryOutcomes : Table Provider.OutcomeRow.clash
  recoveryEvents : List Provider.RecoveryEventRow
  acceptedReviews : Table Provider.AcceptedReviewRow.clash
  coordinates : Table Provider.CoordinateRow.clash
  planReviews : List Provider.PlanReviewRow
  diffReviews : List Provider.DiffReviewRow
  reviewLimitFinalizations : List String
  implementations : List Provider.ImplementationRow
  implementationCandidates : List Provider.ImplementationCandidateRow
  objectives : Table Provider.ObjectiveRow.clash
  failureRecords : Table RecordRow.clash
  clearanceGrants : Table GrantRow.clash
  clearanceCommands : Table CommandRow.clash
  revocationGrants : Table GrantRow.clash
  revocationCommands : Table CommandRow.clash
  decisions : Table DecisionRow.clash
  routes : Table RouteRow.clash
  successorAdmissions : Table SuccessorAdmissionRow.clash

namespace Store

/-- Empty provider and recovery tables over a database. -/
def initial (s : Gate.Store) : Store where
  toGateStore := s
  providerAttempts := .empty
  contexts := .empty
  healthAuthorizations := .empty
  healthSeals := .empty
  checkpoints := .empty
  sessionCheckpoints := .empty
  dispatchClaims := .empty
  failureAdmissions := .empty
  completionOutputs := .empty
  invalidOutputs := .empty
  recoveryOutcomes := .empty
  recoveryEvents := []
  acceptedReviews := .empty
  coordinates := .empty
  planReviews := []
  diffReviews := []
  reviewLimitFinalizations := []
  implementations := []
  implementationCandidates := []
  objectives := .empty
  failureRecords := .empty
  clearanceGrants := .empty
  clearanceCommands := .empty
  revocationGrants := .empty
  revocationCommands := .empty
  decisions := .empty
  routes := .empty
  successorAdmissions := .empty

variable (s : Store)

/-! ### Lookups -/

def providerAttempt? (attemptId : String) : Option Provider.AttemptRow :=
  s.providerAttempts.rows.find? fun r => r.attemptId = attemptId

def context? (attemptId : String) : Option Provider.ContextRow :=
  s.contexts.rows.find? fun r => r.attemptId = attemptId

def health? (attemptId : String) : Option Provider.HealthValues :=
  (s.healthAuthorizations.rows.find? fun r => r.attemptId = attemptId).map (·.values)

def healthSeal? (attemptId : String) : Option String :=
  (s.healthSeals.rows.find? fun r => r.attemptId = attemptId).map (·.authorizationFingerprint)

def checkpoint? (checkpointId : String) : Option Provider.CheckpointRow :=
  s.checkpoints.rows.find? fun r => r.checkpointId = checkpointId

def sessionCheckpoint? (attemptId : String) : Option Provider.SessionCheckpointRow :=
  s.sessionCheckpoints.rows.find? fun r => r.attemptId = attemptId

def dispatchClaim? (attemptId : String) : Option Provider.ClaimRow :=
  s.dispatchClaims.rows.find? fun r => r.attemptId = attemptId

def failureAdmission? (attemptId : String) : Option Provider.Admission :=
  (s.failureAdmissions.rows.find? fun r => r.attemptId = attemptId).map (·.admission)

def recoveryOutcome? (attemptId : String) : Option Provider.Outcome :=
  (s.recoveryOutcomes.rows.find? fun r => r.attemptId = attemptId).map (·.outcome)

def objectiveOf? (taskId attemptId : String) : Option Provider.ObjectiveRow :=
  s.objectives.rows.find? fun r => r.identity.taskId = taskId ∧ r.identity.providerAttemptId = attemptId

def record? (taskId : String) (recordDigest : Digest) : Option FailureRecord :=
  (s.failureRecords.rows.find? fun r => r.taskId = taskId ∧ r.recordDigest = recordDigest).map (·.record)

/-- The decisions on a record, in the order of their sequence. -/
def decisionsOf (taskId : String) (recordDigest : Digest) : List DecisionRow :=
  sortBy (·.sequence) (s.decisions.rows.filter fun r => r.taskId = taskId ∧ r.recordDigest = recordDigest)

def grants : DecisionKind → Table GrantRow.clash
  | .clear => s.clearanceGrants
  | .revoke => s.revocationGrants

def commands : DecisionKind → Table CommandRow.clash
  | .clear => s.clearanceCommands
  | .revoke => s.revocationCommands

def grant? (kind : DecisionKind) (grantId : String) : Option GrantRow :=
  (s.grants kind).rows.find? fun r => r.grantId = grantId

def command? (kind : DecisionKind) (commandId : String) : Option CommandRow :=
  (s.commands kind).rows.find? fun r => r.commandId = commandId

def route? (routeDigest : Digest) : Option RouteRow :=
  s.routes.rows.find? fun r => r.routeDigest = routeDigest

def successorAdmission? (routeDigest : Digest) : Option SuccessorAdmissionRow :=
  s.successorAdmissions.rows.find? fun r => r.routeDigest = routeDigest

end Store

end Roundwright.Recovery
