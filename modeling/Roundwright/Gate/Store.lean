/-
The gate tables over the ledger and the dependency tables: candidate evidence, gate evidence and the
gate context of each candidate, with the values a caller presents for them. The candidate seal a row
belongs to is in the ledger.
-/
import Roundwright.Dependency.Store
import Roundwright.State.RuntimeBinding

namespace Roundwright.Gate

open Lib State

/-! ## Keys and outcomes -/

inductive GateKey where
  | planReview | candidateSeal | supervisorDiffReview | targetedTests | fullTests | build | policy
  | deploymentAuthority | dependencyGraph | githubTrace | publicIdentifier | liveProof | externalCi
deriving DecidableEq

def GateKey.value : GateKey → String
  | .planReview => "plan-review"
  | .candidateSeal => "candidate-seal"
  | .supervisorDiffReview => "supervisor-diff-review"
  | .targetedTests => "targeted-tests"
  | .fullTests => "full-tests"
  | .build => "build"
  | .policy => "policy"
  | .deploymentAuthority => "deployment-authority"
  | .dependencyGraph => "dependency-graph"
  | .githubTrace => "github-trace"
  | .publicIdentifier => "public-identifier"
  | .liveProof => "live-proof"
  | .externalCi => "external-ci"

/-- The keys of `GATE_REGISTRY`, in its order. -/
def gateRegistry : List GateKey :=
  [.planReview, .candidateSeal, .supervisorDiffReview, .targetedTests, .fullTests, .build, .policy,
    .deploymentAuthority, .dependencyGraph, .githubTrace, .publicIdentifier, .liveProof, .externalCi]

inductive EvidenceOutcome where
  | pass | notApplicable | pending | blocked | findings | unknown | stale | conflict
deriving DecidableEq

def EvidenceOutcome.value : EvidenceOutcome → String
  | .pass => "PASS"
  | .notApplicable => "NOT_APPLICABLE"
  | .pending => "PENDING"
  | .blocked => "BLOCKED"
  | .findings => "FINDINGS"
  | .unknown => "UNKNOWN"
  | .stale => "STALE"
  | .conflict => "CONFLICT"

def evidenceOutcomes : List EvidenceOutcome :=
  [.pass, .notApplicable, .pending, .blocked, .findings, .unknown, .stale, .conflict]

/-! ## What a caller presents -/

structure FollowUp where
  identifier : String
  resolved : Bool
  resolutionFingerprint : Option String
deriving DecidableEq

/-- `GateEvidence`: the key and the outcome are texts until `_validate_evidence` has seen them. -/
structure GateEvidence where
  taskId : String
  candidateSha : String
  gateKey : String
  outcome : String
  evaluatorId : String
  evaluatedAt : Int
  evidenceFingerprint : String
  changedBoundary : Option String
  reason : Option String
  followUps : List FollowUp

/-- `ReviewLimitFinalizationReceipt`, and a row of `review_limit_finalizations`. -/
structure ReviewLimitFinalization where
  reviewRound : Int
  findingsFingerprint : String
  workerRepairFingerprint : String
  candidateSha : String
  workerThreadIdentity : String
  diffReviewAttemptId : String
  configurationDigest : String
  reviewPolicyDigest : String
  receiptFingerprint : String
deriving DecidableEq

structure GateContext where
  taskId : String
  candidateSha : String
  sourceCount : Int
  isolatedLocalTask : Bool
  policyDigest : String
  receiptFingerprint : String
  runtimeBinding : RuntimeBinding
  selectedSupervisorProfileIdentity : String
  reviewLimitFinalization : Option ReviewLimitFinalization
  dependencyGraphVersionId : Option String
  dependencyGraphDecisionDigest : Option String

/-! ## Rows -/

/-- The context values a rebind may not change: `context_values[2:14]`. -/
structure TrustedValues where
  policyDigest : String
  receiptFingerprint : String
  configurationSchemaVersion : String
  configurationDigest : String
  workerProfileIdentity : String
  supervisorProfileIdentities : String
  reviewCompleteRounds : Int
  reviewMaxRounds : Int
  reviewMaxSupervisorAttemptsPerRound : Int
  reviewOnFinalFindings : String
  reviewPolicyDigest : String
  selectedSupervisorProfileIdentity : String
deriving DecidableEq

/-- The sixteen values of a gate context: `context_values`. -/
structure ContextValues where
  sourceCount : Int
  isolatedLocalTask : Bool
  trusted : TrustedValues
  dependencyGraphVersionId : String
  dependencyGraphDecisionDigest : String
deriving DecidableEq

/-- The values of a context and the time its policy was activated. -/
structure ContextStamp where
  values : ContextValues
  policyActivatedAt : String

/-- `terminal_dependency_binding`: the JSON text of the terminal review of a task, kept as what it writes. -/
inductive TerminalBinding where
  | noLineage
  | terminal (attemptId snapshotId : Token) (subsetDigest : Digest) (members : List Dependency.AffectedMember)
      (candidateSha : Sha) (policyDigest configurationDigest : Digest) (disposition : Dependency.AttemptState)
deriving DecidableEq

/-- `candidate_evidence` -/
structure CandidateEvidenceRow where
  taskId : String
  candidateSha : String
  evidenceFingerprint : String
deriving DecidableEq

def CandidateEvidenceRow.clash (a b : CandidateEvidenceRow) : Bool := a == b

/-- `gate_contexts` -/
structure GateContextRow extends ContextStamp where
  taskId : String
  candidateSha : String
  terminalDependencyBinding : TerminalBinding

def GateContextRow.clash (a b : GateContextRow) : Bool := a.taskId == b.taskId && a.candidateSha == b.candidateSha

/-- The primary key of `gate_evidence`. -/
structure GateEvidenceKey where
  taskId : String
  candidateSha : String
  gateKey : GateKey
  evaluatorId : String
  evidenceFingerprint : String
deriving DecidableEq

/-- The columns of `gate_evidence` that a replay must repeat. -/
structure GateEvidenceBody where
  outcome : EvidenceOutcome
  evaluatedAt : Int
  changedBoundary : Option String
  reason : Option String
  followUps : List FollowUp
deriving DecidableEq

/-- `gate_evidence`. `insertedUnder` is no column: it keeps, for the proofs only, what the context row
of the candidate held when the row was inserted. No operation reads it. -/
structure GateEvidenceRow where
  key : GateEvidenceKey
  body : GateEvidenceBody
  insertedUnder : Option ContextStamp

def GateEvidenceRow.clash (a b : GateEvidenceRow) : Bool := a.key == b.key

/-! ## The store -/

structure Store extends Dependency.Store where
  reviewPolicies : Table ReviewPolicyRow.clash
  candidateEvidence : Table CandidateEvidenceRow.clash
  gateContexts : Table GateContextRow.clash
  gateEvidence : Table GateEvidenceRow.clash

namespace Store

/-- Any database in which no candidate was ever sealed. -/
def initial (s : Dependency.Store) (reviewPolicies : Table ReviewPolicyRow.clash) : Store where
  toStore := { s with ledger := { s.ledger with seals := .empty } }
  reviewPolicies := reviewPolicies
  candidateEvidence := .empty
  gateContexts := .empty
  gateEvidence := .empty

variable (s : Store)

def gateContext? (taskId candidateSha : String) : Option GateContextRow :=
  s.gateContexts.rows.find? fun r => r.taskId = taskId ∧ r.candidateSha = candidateSha

def gateEvidence? (key : GateEvidenceKey) : Option GateEvidenceBody :=
  (s.gateEvidence.rows.find? fun r => r.key = key).map (·.body)

/-! ### Statements -/

/-- The three DELETEs of the evidence of a task. -/
def deleteEvidence (taskId : String) : Store :=
  { s with
    candidateEvidence := s.candidateEvidence.keep fun r => r.taskId ≠ taskId
    gateEvidence := s.gateEvidence.keep fun r => r.key.taskId ≠ taskId
    gateContexts := s.gateContexts.keep fun r => r.taskId ≠ taskId }

/-- The two DELETEs of the evidence of a candidate, its context row left in place. -/
def clearCandidate (taskId candidateSha : String) : Store :=
  { s with
    candidateEvidence := s.candidateEvidence.keep fun r => ¬ (r.taskId = taskId ∧ r.candidateSha = candidateSha)
    gateEvidence := s.gateEvidence.keep fun r => ¬ (r.key.taskId = taskId ∧ r.key.candidateSha = candidateSha) }

def deleteSeal (taskId : String) : Store :=
  { s with ledger := { s.ledger with seals := s.ledger.seals.keep fun r => r.taskId ≠ taskId } }

/-- INSERT … ON CONFLICT(task_id) DO UPDATE of every other column. -/
def upsertSeal (row : SealRow) : Store :=
  { s with ledger := { s.ledger with seals := s.ledger.seals.upsert row } }

/-- INSERT OR IGNORE -/
def insertCandidateEvidence (row : CandidateEvidenceRow) : Store :=
  { s with candidateEvidence := s.candidateEvidence.insertOrIgnore row }

end Store

end Roundwright.Gate
