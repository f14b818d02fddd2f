/-
Recording one gate result for the sealed candidate. The call checks what the caller presents, binds
the evidence fingerprint to the candidate in one transaction, and in a second one settles the gate
context of the candidate and stores the evidence. Two outcomes of the second transaction are
committed and then raised: a moved terminal review, and a conflicting replay.
-/
import Roundwright.Dependency.Activation
import Roundwright.Gate.Candidate

namespace Roundwright.Gate

open Lib State

/-! ## Well-formed contexts and evidence -/

/-- `_TOKEN` of the gate layer. -/
def isGateToken (text : String) : Bool :=
  headTail Char.isAlphanum (fun c => c.isAlphanum || c ∈ ['.', '_', ':', '@', '/', '-']) 127 text

/-- `_graph_fingerprint` -/
def graphFingerprint (value : String) : String := if value.startsWith "sha256:" then (value.drop 7).toString else value

/-- `_is_graph_digest` -/
def isGraphDigest (value : String) : Bool :=
  isHex 64 value || (value.startsWith "sha256:" && isHex 64 (value.drop 7).toString)

/-- `_is_well_formed_context` -/
def isWellFormedContext (c : GateContext) : Bool :=
  isGateToken c.taskId && isHex 40 c.candidateSha && 0 < c.sourceCount && isHex 64 c.policyDigest &&
    isHex 64 c.receiptFingerprint &&
    c.selectedSupervisorProfileIdentity ∈ c.runtimeBinding.supervisorProfileIdentities.map (·.text) &&
    c.dependencyGraphVersionId.all isGateToken && c.dependencyGraphDecisionDigest.all isGraphDigest

/-- `_follow_ups_are_valid` -/
def followUpsAreValid (followUps : List FollowUp) : Bool :=
  (followUps.map (·.identifier)).Nodup &&
    followUps.all fun f => isGateToken f.identifier && f.resolved == f.resolutionFingerprint.any (isHex 64)

/-- `_is_well_formed`, the outcome apart. -/
def isWellFormed (e : GateEvidence) : Bool :=
  isGateToken e.taskId && isHex 40 e.candidateSha && isGateToken e.evaluatorId && 0 < e.evaluatedAt &&
    isHex 64 e.evidenceFingerprint && followUpsAreValid e.followUps

/-- `_validate_context` -/
def validateContext (c : GateContext) : Except Error Unit :=
  refuse (isWellFormedContext c = false) (.gate "gate context is invalid")

/-- `_validate_evidence`, with the key and the outcome the texts name. -/
def validateEvidence (e : GateEvidence) : Except Error (GateKey × EvidenceOutcome) := do
  let key ← demand (gateRegistry.find? fun k => k.value = e.gateKey) (.gate "gate key is unsupported")
  let outcome ← demand (evidenceOutcomes.find? fun o => o.value = e.outcome) (.gate "gate evidence is invalid")
  refuse (isWellFormed e = false) (.gate "gate evidence is invalid")
  return (key, outcome)

/-- `_encode_follow_ups`: the JSON array is kept as the list it writes. -/
def encodeFollowUps (followUps : List FollowUp) : Except Error (List FollowUp) := do
  refuse (followUpsAreValid followUps = false) (.gate "gate follow-ups are invalid")
  return followUps

/-! ## The review limit -/

/-- The diff review whose findings a candidate repaired. -/
structure RoutedReview where
  reviewRound : Int
  reviewMode : String
  completeRounds : Int
  maxRounds : Int
  maxSupervisorAttemptsPerRound : Int
  onFinalFindings : String
  policyDigest : String

/-- What the two reads of the review tables return for the task and the candidate. -/
structure ReviewRows where
  finalization : Option ReviewLimitFinalization
  routedReview : Option RoutedReview

/-- `_valid_review_limit_finalization` -/
def validReviewLimitFinalization (rows : ReviewRows) (candidateSha : String) (b : RuntimeBinding)
    (receipt : Option ReviewLimitFinalization) : Bool :=
  match rows.finalization, receipt with
  | none, receipt =>
    match rows.routedReview with
    | none => receipt = none
    | some r =>
      b.hasReviewPolicy &&
        (r.completeRounds, r.maxRounds, r.maxSupervisorAttemptsPerRound, r.onFinalFindings, r.policyDigest) =
          (b.reviewCompleteRounds, b.reviewMaxRounds, b.reviewMaxSupervisorAttemptsPerRound, b.reviewOnFinalFindings,
            b.reviewPolicyDigest) &&
        !(r.reviewRound = b.reviewMaxRounds && r.reviewMode = "CONVERGING") && receipt = none
  | some _, none => false
  | some row, some receipt =>
    b.hasReviewPolicy && receipt = row && receipt.candidateSha = candidateSha &&
      (receipt.reviewRound, receipt.configurationDigest, receipt.reviewPolicyDigest) =
        (b.reviewMaxRounds, b.resolvedDigest.text, b.reviewPolicyDigest)

/-! ## The policy -/

structure PolicyDecision where
  authorized : Bool
  policyDigest : String
  receiptFingerprint : String

/-- `TrustedGatePolicyEvidence`: `evaluate` is `evaluate_policy` on its snapshot, receipt, authority, time
and status (nothing when it raises); the rest is what the receipt says, its activation time in
`isoformat`. -/
structure PolicyEvidence where
  evaluate : PlainDigest → String → Option PolicyDecision
  runtimeBinding : RuntimeBinding
  selectedSupervisorProfileIdentity : String
  activatedAt : Option String

/-- `task_identity_fingerprint` -/
def taskIdentityFingerprint (host : Host) (t : TaskIdentity) : PlainDigest :=
  host.hexdigest ("\x00".intercalate [t.taskId, t.sourceId, t.repositoryId, t.branch, t.worktree, t.baseSha])

/-- `_current_trusted_policy_activation` -/
def currentTrustedPolicyActivation (host : Host) (view : GitView) (s : Store) (binding : WorktreeBinding)
    (context : GateContext) (evidence : PolicyEvidence) : Option String := do
  let task ← s.ledger.task? context.taskId
  let identity := task.identity
  guard (identity.taskId = binding.taskId ∧ identity.repositoryId = binding.repositoryId ∧
    identity.branch = binding.branch ∧ view.path identity.worktree = binding.worktree ∧
    identity.baseSha = binding.baseSha)
  guard (requireRuntimeBinding s.ledger s.reviewPolicies identity.taskId context.runtimeBinding = .ok ())
  let decision ← evidence.evaluate (taskIdentityFingerprint host identity) context.candidateSha
  guard (decision.authorized ∧ decision.policyDigest = context.policyDigest ∧
    decision.receiptFingerprint = context.receiptFingerprint ∧ context.runtimeBinding = evidence.runtimeBinding ∧
    evidence.selectedSupervisorProfileIdentity = context.selectedSupervisorProfileIdentity)
  evidence.activatedAt

/-! ## The dependency review of the task -/

/-- The attempts of a task that nothing supersedes, in order of their ids. -/
def terminalAttempts (s : Dependency.Store) (taskId : String) : List Dependency.AttemptRow :=
  sortBy (·.attemptId) (s.attempts.rows.filter fun r => r.taskId.val = taskId ∧ s.successor? r.attemptId = none)

def reviewAsGate : Error → Error
  | .dependencyReview _ => .gate "terminal dependency review subset is unavailable"
  | e => e

/-- `_terminal_dependency_binding` -/
def terminalDependencyBinding (host : Host) (s : Dependency.Store) (taskId : String) :
    Except Error (TerminalBinding × Nat) :=
  if (s.attempts.rows.all fun r => r.taskId.val ≠ taskId) = true then .ok (.noLineage, 1)
  else
    match terminalAttempts s taskId with
    | [last] => do
      rewrap (Dependency.verifyTaskLineage host s last.taskId) reviewAsGate
      let (attempt, subset) ← rewrap (Dependency.readAttempt host s last.attemptId) reviewAsGate
      refuse (attempt.taskId.val ≠ taskId ∨ subset.members.length ≤ 0)
        (.gate "terminal dependency review subset is unavailable")
      return (.terminal last.attemptId subset.snapshotId (subset.contentDigest host) subset.members subset.candidateSha
        subset.policyDigest subset.configurationDigest attempt.state, subset.members.length)
    | _ => .error (.gate "terminal dependency review lineage is unavailable")

def graphAsGate : Error → Error
  | .dependencyGraph _ => .gate "dependency graph evidence is unavailable or stale"
  | e => e

/-- The candidate, the decision and the decision digest of the current version, when it is the one named. -/
def currentDecision? (s : Dependency.Store) (version : String) : Option (String × Dependency.GraphDecision × Digest) := do
  let current ← s.graphCurrent
  guard (current.val = version)
  let row ← s.version? current
  let decision ← (s.decisionsOf current).head?
  return (row.binding.candidateSha.text, decision.decision, decision.decisionDigest)

/-- The graph of the last part of `_require_current_dependency_graph` holds exactly the members the terminal
review of the task accepted, at its snapshot, with an edge from its proposal. -/
def GraphCovers (s : Dependency.Store) (taskId : String) (current : Dependency.GraphSnapshot)
    (terminal : Dependency.AttemptRow) : Prop :=
  let expected := if terminal.state = .accepted then sortBy (·.memberId) (s.membersOf terminal.snapshotId) else []
  let members := current.members.filter fun m => m.taskId.val = taskId
  expected ≠ [] ∧ sortBy (·.memberId) (members.map (·.member)) = expected ∧
    (members.map (·.snapshotId)).dedup = [terminal.snapshotId] ∧
    (s.graphEdges.rows.any fun r => some r.graphVersionId = current.graphVersionId ∧
      (s.proposal? r.edge.proposalId).any (·.attemptId = terminal.attemptId)) = true

instance (s : Dependency.Store) (taskId : String) (current : Dependency.GraphSnapshot)
    (terminal : Dependency.AttemptRow) : Decidable (GraphCovers s taskId current terminal) :=
  inferInstanceAs (Decidable (_ ∧ _))

/-- The columns of a graph binding that a gate context must repeat. -/
def graphBindingColumns (b : Dependency.DependencyGraphBinding) : String × String × String × Digest :=
  (b.candidateSha.text, b.policyDigest.text, b.configurationDigest.text, b.validatorDigest)

def graphPolicyDigest (policyDigest : String) : String :=
  if policyDigest.startsWith "sha256:" then policyDigest else "sha256:" ++ policyDigest

/-- `_require_current_dependency_graph` -/
def requireCurrentDependencyGraph (host : Host) (s : Dependency.Store) (taskId candidateSha : String)
    (context : GateContext) (evidenceFingerprint : String) : Except Error Unit := do
  let stale : Error := .gate "dependency graph evidence is unavailable or stale"
  refuse (context.sourceCount ≤ 1) (.gate "dependency graph PASS is not valid for a single-source task")
  let version ← demand (context.dependencyGraphVersionId.filter isGateToken) (.gate "dependency graph context is unavailable")
  let digest ← demand (context.dependencyGraphDecisionDigest.filter isGraphDigest)
    (.gate "dependency graph context is unavailable")
  let current ← rewrap (Dependency.readCurrent host s) graphAsGate
  let terminal ← demand (terminalAttempts s taskId).head? stale
  refuse (current.graphVersionId.map (·.val) ≠ some version ∨
    current.binding.map graphBindingColumns ≠ some (candidateSha, graphPolicyDigest context.policyDigest,
      context.runtimeBinding.resolvedDigest.text, Dependency.validatorDigest host) ∨
    ¬ GraphCovers s taskId current terminal) stale
  let (decided, decision, decisionDigest) ← demand (currentDecision? s version) stale
  refuse (decided ≠ candidateSha ∨ decision ≠ .accepted ∨
    graphFingerprint decisionDigest.text ≠ graphFingerprint digest ∨ evidenceFingerprint ≠ graphFingerprint digest) stale

/-! ## The gate context of the candidate -/

/-- `context_values` -/
def GateContext.values (c : GateContext) : ContextValues where
  sourceCount := c.sourceCount
  isolatedLocalTask := c.isolatedLocalTask
  trusted :=
    { policyDigest := c.policyDigest
      receiptFingerprint := c.receiptFingerprint
      configurationSchemaVersion := RuntimeBinding.schemaVersion
      configurationDigest := c.runtimeBinding.resolvedDigest.text
      workerProfileIdentity := c.runtimeBinding.workerProfileIdentity.text
      supervisorProfileIdentities := c.runtimeBinding.supervisorProfilesText
      reviewCompleteRounds := c.runtimeBinding.reviewCompleteRounds
      reviewMaxRounds := c.runtimeBinding.reviewMaxRounds
      reviewMaxSupervisorAttemptsPerRound := c.runtimeBinding.reviewMaxSupervisorAttemptsPerRound
      reviewOnFinalFindings := c.runtimeBinding.reviewOnFinalFindings
      reviewPolicyDigest := c.runtimeBinding.reviewPolicyDigest
      selectedSupervisorProfileIdentity := c.selectedSupervisorProfileIdentity }
  dependencyGraphVersionId := c.dependencyGraphVersionId.getD ""
  dependencyGraphDecisionDigest := c.dependencyGraphDecisionDigest.getD ""

/-- When other context values may replace the persisted ones: the same trusted policy under another source
count or another graph, or a newer policy. -/
def requireRebind (old new : ContextStamp) (graphPass : Bool) : Except Error Unit := do
  let unchanged := old.values.trusted = new.values.trusted ∧ old.policyActivatedAt = new.policyActivatedAt
  let sourceRebound := unchanged ∧ old.values.sourceCount ≠ new.values.sourceCount
  let graphMoved := unchanged ∧ old.values.sourceCount = new.values.sourceCount ∧
    old.values.isolatedLocalTask = new.values.isolatedLocalTask
  refuse (sourceRebound ∧ 1 < new.values.sourceCount ∧ graphPass = false)
    (.gate "source-count rebind requires current dependency graph evidence")
  refuse (¬ (sourceRebound ∨ graphMoved) ∧ new.policyActivatedAt ≤ old.policyActivatedAt)
    (.gate "gate context conflicts with committed task state")

/-- What an UPDATE to the values of `row` makes of a context row. -/
def GateContextRow.rewritten (row r : GateContextRow) : GateContextRow :=
  if r.taskId = row.taskId ∧ r.candidateSha = row.candidateSha then row else r

theorem GateContextRow.rewritten_clash (row a b : GateContextRow) :
    (row.rewritten a).clash (row.rewritten b) = a.clash b := by
  have h : ∀ r : GateContextRow, (row.rewritten r).taskId = r.taskId ∧ (row.rewritten r).candidateSha = r.candidateSha := by
    intro r
    unfold rewritten
    split
    · rename_i hr
      exact ⟨hr.1.symm, hr.2.symm⟩
    · exact ⟨rfl, rfl⟩
  simp only [clash, (h a).1, (h a).2, (h b).1, (h b).2]

namespace Store

variable (s : Store)

def insertContext (row : GateContextRow) : Except Error Store := do
  let gateContexts ← demand (s.gateContexts.insert? row) .integrity
  return { s with gateContexts := gateContexts }

/-- UPDATE gate_contexts SET … WHERE task_id = ? AND candidate_sha = ? -/
def updateContext (row : GateContextRow) : Store :=
  { s with gateContexts := s.gateContexts.update row.rewritten (GateContextRow.rewritten_clash row) }

/-- INSERT INTO gate_evidence; the row remembers the context it is inserted under. -/
def insertGateEvidence (key : GateEvidenceKey) (body : GateEvidenceBody) : Except Error Store := do
  requireStorable body.evaluatedAt
  let gateEvidence ← demand (s.gateEvidence.insert?
    ⟨key, body, (s.gateContext? key.taskId key.candidateSha).map (·.toContextStamp)⟩) .integrity
  return { s with gateEvidence := gateEvidence }

end Store

/-- What a conflicting replay makes of the stored row. -/
def GateEvidenceRow.conflicted (key : GateEvidenceKey) (r : GateEvidenceRow) : GateEvidenceRow :=
  if r.key = key then
    { r with body := { r.body with outcome := .conflict, reason := some "conflicting evidence replay" } }
  else r

theorem GateEvidenceRow.conflicted_key (key : GateEvidenceKey) (r : GateEvidenceRow) : (r.conflicted key).key = r.key := by
  unfold conflicted; split <;> rfl

theorem GateEvidenceRow.conflicted_insertedUnder (key : GateEvidenceKey) (r : GateEvidenceRow) :
    (r.conflicted key).insertedUnder = r.insertedUnder := by
  unfold conflicted; split <;> rfl

theorem GateEvidenceRow.conflicted_clash (key : GateEvidenceKey) (a b : GateEvidenceRow) :
    (a.conflicted key).clash (b.conflicted key) = a.clash b := by
  simp only [clash, conflicted_key]

def Store.markConflict (s : Store) (key : GateEvidenceKey) : Store :=
  { s with gateEvidence := s.gateEvidence.update (·.conflicted key) (GateEvidenceRow.conflicted_clash key) }

/-! ## The second transaction -/


/-- Settle the context row; the answer is whether the terminal review has moved. -/
def settleContext (row : GateContextRow) (graphPass : Bool) : Tx Error Store Bool := do
  let persisted ← Tx.query fun s => .ok (s.gateContext? row.taskId row.candidateSha)
  match persisted with
  | none => do
    Tx.write fun s => s.insertContext row
    return false
  | some old =>
    if old.values ≠ row.values then do
      Tx.check (requireRebind old.toContextStamp row.toContextStamp graphPass)
      Tx.write fun s => .ok ((s.clearCandidate row.taskId row.candidateSha).updateContext row)
      return false
    else if old.policyActivatedAt ≠ row.policyActivatedAt then
      Tx.check (.error (.gate "gate context conflicts with committed task state"))
    else if old.terminalDependencyBinding ≠ row.terminalDependencyBinding then do
      Tx.write fun s => .ok (s.clearCandidate row.taskId row.candidateSha)
      return true
    else return false

/-- Store the evidence; the answer is the error raised after the commit, if any. -/
def storeEvidence (key : GateEvidenceKey) (body : GateEvidenceBody) : Tx Error Store (Option Error) := do
  Tx.write fun s => .ok (s.insertCandidateEvidence ⟨key.taskId, key.candidateSha, key.evidenceFingerprint⟩)
  let existing ← Tx.query fun s => .ok (s.gateEvidence? key)
  let _ ← Tx.check (encodeFollowUps body.followUps)
  match existing with
  | none => do
    Tx.write fun s => s.insertGateEvidence key body
    return none
  | some stored =>
    if stored ≠ body then do
      Tx.write fun s => .ok (s.markConflict key)
      return some (.gate "conflicting gate evidence was recorded")
    else return none

/-- `_require_current_dependency_graph`, asked of a PASS of the graph gate only. -/
def requireGraphEvidence (host : Host) (s : Dependency.Store) (taskId candidateSha : String) (context : GateContext)
    (evidenceFingerprint : String) : Bool → Except Error Unit
  | true => requireCurrentDependencyGraph host s taskId candidateSha context evidenceFingerprint
  | false => .ok ()

/-- The reads before the first write, with the terminal review of the task. -/
def requireRecordable (host : Host) (view : GitView) (binding : WorktreeBinding) (row : CandidateSeal)
    (context : GateContext) (evidence : GateEvidence) (graphPass : Bool) (lease : Option TransitionLease) (s : Store) :
    Except Error TerminalBinding := do
  requireCurrentTransitionLease s.ledger lease binding.repositoryId view.recordedAt
  let _ ← demand (s.ledger.task? binding.taskId) (.gate "task identity is unavailable")
  requireRuntimeBinding s.ledger s.reviewPolicies binding.taskId context.runtimeBinding
  refuse ((s.ledger.seal? binding.taskId).map (·.candidateSha) ≠ some row.candidateSha)
    (.gate "candidate seal is no longer current")
  let (terminal, sourceCount) ← terminalDependencyBinding host s.toStore binding.taskId
  refuse (context.sourceCount ≠ sourceCount) (.gate "gate context source count does not match committed task state")
  requireGraphEvidence host s.toStore binding.taskId row.candidateSha context evidence.evidenceFingerprint graphPass
  return terminal

def recordBody (host : Host) (view : GitView) (binding : WorktreeBinding) (row : CandidateSeal) (context : GateContext)
    (evidence : GateEvidence) (key : GateKey) (outcome : EvidenceOutcome) (policyActivatedAt : String)
    (lease : Option TransitionLease) : Tx Error Store (Option Error) := do
  let graphPass : Bool := key = .dependencyGraph ∧ outcome = .pass
  let terminal ← Tx.query (requireRecordable host view binding row context evidence graphPass lease)
  let moved ← settleContext ⟨⟨context.values, policyActivatedAt⟩, binding.taskId, row.candidateSha, terminal⟩ graphPass
  if moved then return some (.gate "terminal dependency-review binding has moved")
  else
    storeEvidence ⟨evidence.taskId, evidence.candidateSha, key, evidence.evaluatorId, evidence.evidenceFingerprint⟩
      ⟨outcome, evidence.evaluatedAt, evidence.changedBoundary, evidence.reason, evidence.followUps⟩

/-- The error a committed transaction leaves to raise. -/
def raiseAfter : Option Error → Except Error Unit
  | none => .ok ()
  | some e => .error e

/-- `record_gate_evidence` -/
def recordGateEvidence (host : Host) (view : GitView) (rows : ReviewRows) (binding : WorktreeBinding)
    (row : CandidateSeal) (context : GateContext) (evidence : GateEvidence) (policy : PolicyEvidence)
    (lease : Option TransitionLease) : Tx Error Store Unit := do
  Tx.check (validateContext context)
  Tx.check (refuse (validReviewLimitFinalization rows row.candidateSha context.runtimeBinding
    context.reviewLimitFinalization = false) (.gate "review-limit finalization receipt is unavailable or stale"))
  let (key, outcome) ← Tx.check (validateEvidence evidence)
  let policyActivatedAt ← Tx.query fun s => demand (currentTrustedPolicyActivation host view s binding context policy)
    (.gate "gate context does not match current trusted policy evidence")
  Tx.check (refuse (context.taskId ≠ binding.taskId ∨ context.candidateSha ≠ row.candidateSha ∨
    evidence.taskId ≠ binding.taskId ∨ evidence.candidateSha ≠ row.candidateSha)
    (.gate "gate evidence does not match the active task candidate"))
  bindCandidateEvidence view binding row evidence.evidenceFingerprint lease
  let raised ← transaction (recordBody host view binding row context evidence key outcome policyActivatedAt lease)
  Tx.check (raiseAfter raised)

end Roundwright.Gate
