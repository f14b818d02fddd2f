/-
Denial scopes. A failure that stops a scope is recorded once, and the owner's dedicated commands clear and
revoke it. Every decision is derived again from the commands, the grants and the candidate seal whenever
the history is read, so a decision that no longer fits closes the scope.
-/
import Roundwright.Recovery.Admission
import Roundwright.State.Lease

namespace Roundwright.Recovery

open Lib State

variable (host : Host)

/-! ## Recording a failure -/

/-- The transaction of `record_durable_failure`, on a connection of its own or of its caller. -/
def recordFailure (identity : TaskIdentity) (record : FailureRecord) : Tx Error Store Digest := do
  let _ ← Tx.query fun s => requireMatchingTask host s.ledger identity none
  Tx.check record.requireFailureCompatibility
  Tx.check (refuse (record.recordSchema ≠ .v3) (.failureRecovery "legacy failure records cannot be persisted"))
  Tx.query fun s => requireAttemptAdmission host s identity record.binding
  Tx.write fun s =>
    match s.failureRecords.rows.find? fun r => r.recordDigest = record.digest host with
    | none => do
      let failureRecords ← demand (s.failureRecords.insert? ⟨record.digest host, identity.taskId, record⟩) .integrity
      return { s with failureRecords }
    | some current => do
      refuse (current.taskId ≠ identity.taskId ∨ current.record ≠ record)
        (.failureRecovery "durable failure record conflicts")
      return s
  return record.digest host

/-! ## Commands -/

/-- `_denial_authority_digest` -/
def denialAuthorityDigest (kind : DecisionKind)
    (owner taskId repositoryId candidateSha candidateSeal authorityScope : String) (target : Digest) : String :=
  (host.hexdigest ("\x1f".intercalate ["roundwright-denial-clearance-authority/v1", kind.commandKind, owner, taskId, repositoryId,
    candidateSha, candidateSeal, authorityScope, target.text])).text

/-- The grant gives the command its authority. -/
def grantMatches (kind : DecisionKind) (command : CommandRow) (grant : GrantRow) : Bool :=
  grant.taskId = command.taskId ∧ grant.repositoryId = command.repositoryId ∧ grant.candidateSha = command.candidateSha ∧
    grant.candidateSeal = command.candidateSeal ∧ grant.authorityScope = command.authorityScope ∧
    grant.targetDigest = command.targetDigest ∧ grant.ownerIdentity = "ythdelmar68" ∧
    grant.authorityDigest = denialAuthorityDigest host kind grant.ownerIdentity command.taskId command.repositoryId
      command.candidateSha command.candidateSeal command.authorityScope command.targetDigest

/-- `_denial_command_receipt` -/
def denialCommandReceipt (s : Store) (taskId : String) (recordDigest : Digest) (binding : FailureBinding)
    (commandId : String) (kind : DecisionKind) (expectedClearance : Option Digest) : Except Error DenialReceipt := do
  refuse (expectedClearance.isSome ≠ decide (kind = .revoke))
    (.failureRecovery "dedicated denial command clearance is invalid")
  let unavailable : Error := .failureRecovery "dedicated denial command is unavailable"
  let command ← demand (s.command? kind commandId) unavailable
  let grant ← demand (s.grant? kind command.authorityGrantId) unavailable
  let sealed ← demand (s.ledger.seal? command.taskId) unavailable
  let task ← demand (s.ledger.task? command.taskId) unavailable
  refuse (¬ (command.taskId = taskId ∧ command.repositoryId = task.identity.repositoryId ∧ command.denialDigest = recordDigest ∧
    command.targetDigest = recordDigest ∧ command.candidateSha = binding.candidateSha.text ∧
    command.authorityScope = binding.authorityScope.val ∧ (kind = .revoke → command.clearanceDigest = expectedClearance) ∧
    sealed.candidateSha = command.candidateSha ∧ sealed.stateIdentity = command.candidateSeal ∧
    isHex 64 command.commandDigest ∧ isHex 64 command.hostResultDigest ∧ isHex 64 command.resultDigest ∧
    isHex 64 grant.authorityDigest ∧ grantMatches host kind command grant))
    (.failureRecovery "dedicated denial command has drifted")
  return ⟨commandId, kind, command.denialDigest, command.targetDigest, command.repositoryId, command.candidateSha,
    command.candidateSeal, command.authorityScope, grant.ownerIdentity, command.authorityGrantId, grant.authorityDigest,
    command.commandDigest, command.hostResultDigest, command.resultDigest⟩

/-! ## Decisions -/

/-- The loop of `_decision_history`, from the sequence number expected next, the digest of the last decision
and whether it cleared the record. -/
def readHistory (s : Store) (taskId : String) (recordDigest : Digest) (binding : FailureBinding) :
    Nat → Option Digest → Bool → List DecisionRow → Except Error Unit
  | _, _, _, [] => .ok ()
  | expected, predecessor, cleared, row :: rest => do
    let d := row.decision
    refuse (row.sequence ≠ expected) (.failureRecovery "clearance decision sequence is stale or out of order")
    refuse (¬ (d.recordDigest = recordDigest ∧ d.binding = binding ∧ d.sequence = row.sequence ∧
      d.predecessorDigest = predecessor ∧ row.decisionDigest = host.digestValue d.payload))
      (.failureRecovery "durable clearance decision has drifted")
    let receipt ← denialCommandReceipt host s taskId recordDigest binding d.denialCommand.commandId d.kind
      (if d.kind = .revoke then predecessor else none)
    refuse (d.denialCommand ≠ receipt) (.failureRecovery "durable clearance receipt has drifted")
    refuse (decide (d.kind = .clear) = cleared) (.failureRecovery "clearance decision is stale or out of order")
    readHistory s taskId recordDigest binding (expected + 1) (some row.decisionDigest) (d.kind = .clear) rest

/-- `_decision_history` -/
def decisionHistory (s : Store) (taskId : String) (recordDigest : Digest) (binding : FailureBinding) :
    Except Error (List DecisionRow) := do
  readHistory host s taskId recordDigest binding 1 none false (s.decisionsOf taskId recordDigest)
  return s.decisionsOf taskId recordDigest

/-- `_require_clearance_record` -/
def requireClearanceRecord (s : Store) (identity : TaskIdentity) (recordDigest : Digest) (binding : FailureBinding) :
    Except Error Unit := do
  requireAttemptAdmission host s identity binding
  let record ← demand (s.record? identity.taskId recordDigest) (.failureRecovery "durable clearance denial is unavailable")
  refuse (¬ (record.digest host = recordDigest ∧ record.binding = binding ∧ record.action = .stopScope ∧
    record.clearanceRequired ∧ record.clearanceConditions ∧ record.clearanceProvenance = some binding))
    (.failureRecovery "durable clearance denial has drifted")
  record.requireFailureCompatibility
  refuse (record.recordSchema ≠ .v3) (.failureRecovery "legacy failure records cannot be cleared")

/-- The decision that a command makes after the last one. -/
def nextDecision (s : Store) (identity : TaskIdentity) (kind : DecisionKind) (recordDigest : Digest)
    (binding : FailureBinding) (commandId : String) (requested : Option Digest) : Except Error Decision := do
  let history ← decisionHistory host s identity.taskId recordDigest binding
  let predecessor := history.getLast?.map (·.decisionDigest)
  refuse (decide (kind = .clear) = (history.getLast?.any fun r => r.decision.kind = .clear))
    (.failureRecovery "clearance decision is stale or out of order")
  refuse (kind = .revoke ∧ requested ≠ predecessor)
    (.failureRecovery "clearance revocation target is stale or substituted")
  let receipt ← denialCommandReceipt host s identity.taskId recordDigest binding commandId kind
    (if kind = .revoke then predecessor else none)
  return ⟨kind, recordDigest, binding, receipt, predecessor, history.length + 1⟩

/-- The row of a decision. -/
def decisionRow (taskId commandId : String) (d : Decision) : DecisionRow :=
  ⟨host.digestValue d.payload, taskId, d.recordDigest, commandId, d.kind, d, d.sequence⟩

/-- `_append_clearance_decision` -/
def appendClearanceDecision (identity : TaskIdentity) (kind : DecisionKind) (recordDigest : Digest)
    (binding : FailureBinding) (commandId : String) (requested : Option Digest) : Tx Error Store Digest := do
  let decision ← Tx.query fun s => nextDecision host s identity kind recordDigest binding commandId requested
  let row := decisionRow host identity.taskId commandId decision
  Tx.write fun s =>
    match s.decisions.rows.find? fun r => r.decisionDigest = row.decisionDigest with
    | none => do
      let decisions ← demand (s.decisions.insert? row) .integrity
      return { s with decisions }
    | some existing => do
      refuse (existing.taskId ≠ identity.taskId ∨ existing.recordDigest ≠ recordDigest ∨ existing.decision ≠ decision)
        (.failureRecovery "durable clearance decision conflicts")
      return s
  return row.decisionDigest

/-- `Clearance` -/
structure Clearance where
  recordDigest : Digest
  binding : FailureBinding
  commandId : Name

/-- `ClearanceRevocation` -/
structure ClearanceRevocation where
  clearanceDigest : Digest
  binding : FailureBinding
  commandId : Name

/-- The transaction of `record_durable_clearance`. -/
def recordClearance (identity : TaskIdentity) (clearance : Clearance) : Tx Error Store Digest := do
  let _ ← Tx.query fun s => requireMatchingTask host s.ledger identity none
  Tx.query fun s => requireClearanceRecord host s identity clearance.recordDigest clearance.binding
  appendClearanceDecision host identity .clear clearance.recordDigest clearance.binding clearance.commandId.val none

/-- The transaction of `record_durable_clearance_revocation`. -/
def recordClearanceRevocation (identity : TaskIdentity) (revocation : ClearanceRevocation) : Tx Error Store Digest := do
  let _ ← Tx.query fun s => requireMatchingTask host s.ledger identity none
  let row ← Tx.query fun s => demand (s.decisions.rows.find? fun r => r.taskId = identity.taskId ∧
    r.decisionDigest = revocation.clearanceDigest ∧ r.commandKind = .clear)
    (.failureRecovery "clearance revocation clearance is unavailable")
  Tx.query fun s => requireClearanceRecord host s identity row.recordDigest revocation.binding
  appendClearanceDecision host identity .revoke row.recordDigest revocation.binding revocation.commandId.val
    (some revocation.clearanceDigest)

/-! ## Scopes -/

/-- One pass of the loop of `require_scope_open`. -/
def requireRecordOpen (s : Store) (taskId scope : String) (row : RecordRow) : Except Error Unit := do
  refuse (row.record.digest host ≠ row.recordDigest) (.failureRecovery "durable failure record digest has drifted")
  row.record.requireFailureCompatibility
  if row.record.action ≠ .stopScope ∨ row.record.binding.authorityScope.val ≠ scope then .ok ()
  else do
    let task ← demand (s.ledger.task? taskId) (.failureRecovery "failure scope task authority is unavailable")
    requireAttemptAdmission host s task.identity row.record.binding
    let history ← decisionHistory host s taskId row.recordDigest row.record.binding
    refuse (history.getLast?.map (·.decision.kind) ≠ some .clear) (.scopeAdmissionDenied "failure scope remains stopped")

/-- `require_scope_open` -/
def requireScopeOpen (s : Store) (taskId scope : String) : Except Error Unit :=
  checkAll (requireRecordOpen host s taskId scope) (s.failureRecords.rows.filter fun r => r.taskId = taskId)

/-! ## Calls -/

/-- A call of the three recording operations, with the time it observes. -/
inductive DenialCall where
  | failure (identity : TaskIdentity) (record : FailureRecord) (observed : Int)
  | clearance (identity : TaskIdentity) (request : Clearance) (observed : Int)
  | revocation (identity : TaskIdentity) (request : ClearanceRevocation) (observed : Int)

/-- `record_durable_failure`, `record_durable_clearance` and `record_durable_clearance_revocation` -/
def DenialCall.run : DenialCall → Tx Error Store Digest
  | .failure identity record observed => do
    Tx.check (refuse (observed ≤ 0) (.failureRecovery "failure record time is invalid"))
    transaction (recordFailure host identity record)
  | .clearance identity request observed => do
    Tx.check (refuse (observed ≤ 0) (.failureRecovery "clearance time is invalid"))
    transaction (recordClearance host identity request)
  | .revocation identity request observed => do
    Tx.check (refuse (observed ≤ 0) (.failureRecovery "clearance revocation time is invalid"))
    transaction (recordClearanceRevocation host identity request)

end Roundwright.Recovery
