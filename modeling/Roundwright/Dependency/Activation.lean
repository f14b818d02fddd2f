/-
Graph versions in the store: reading one back, re-deriving the transition that wrote it and every
transition before it, and activating a proposal.
-/
import Roundwright.Dependency.Review

namespace Roundwright.Dependency

open Lib State

/-! ## Reading a version -/

namespace Store

variable (s : Store)

def version? (version : Token) : Option VersionRow := s.graphVersions.rows.find? fun r => r.graphVersionId = version

def graphMembersOf (version : Token) : List GraphMember :=
  (s.graphMembers.rows.filter fun r => r.graphVersionId = version).map (·.member)

def graphEdgesOf (version : Token) : List GraphEdge :=
  (s.graphEdges.rows.filter fun r => r.graphVersionId = version).map (·.edge)

def decision? (proposalId : Token) : Option DecisionRow := s.graphDecisions.rows.find? fun r => r.proposalId = proposalId

def decisionsOf (version : Token) : List DecisionRow :=
  s.graphDecisions.rows.filter fun r => r.graphVersionId = some version

end Store

def graphDrifted : Error := .dependencyGraph "current dependency graph has drifted"

/-- `_read_version` -/
def readVersion (host : Host) (s : Store) (version : Token) : Except Error (GraphSnapshot × Option Token) := do
  let row ← demand (s.version? version) (.dependencyGraph "current dependency graph is unavailable")
  let edges := sortBy (fun e => pairKey e.pair) (s.graphEdgesOf version)
  let snapshot ← GraphSnapshot.new (some (version, row.binding)) (sortBy (·.memberId) (s.graphMembersOf version)) edges
    (sortBy id (edges.map (·.proposalId)).dedup)
  refuse (snapshot.proposalSetDigest host ≠ row.proposalSetDigest ∨ snapshot.graphDigest host ≠ row.graphDigest ∨
    hasCycleEdges snapshot.edges) graphDrifted
  return (snapshot, row.predecessor)

/-- `_trusted_provenance` -/
def trustedProvenance (host : Host) (s : Store) (subset : AffectedSubset) (binding : DependencyGraphBinding)
    (attemptId : Token) : Except Error (List TrustedEdgeProvenance) := do
  let rows := sortBy (·.provenanceDigest) (s.trustedOf subset.snapshotId attemptId binding.candidateSha
    binding.policyDigest binding.configurationDigest)
  refuse (∃ p ∈ rows, ¬ p.Valid host) (.dependencyGraph "trusted edge provenance has drifted")
  return rows

/-- A review error met while a version is re-derived is drift of the graph. -/
def reviewAsDrift : Error → Error
  | .dependencyReview _ => graphDrifted
  | e => e

/-- The attempt, subset and proposal behind a decision. -/
def readEvidence (host : Host) (s : Store) (attemptId proposalId : Token) :
    Except Error (AttemptRow × AffectedSubset × DependencyProposal) := do
  let (attempt, subset) ← readAttempt host s attemptId
  let proposal ← readProposal host s proposalId
  verifyTaskLineage host s attempt.taskId
  return (attempt, subset, proposal)

/-- The one decision that wrote a version. -/
def soleDecision (s : Store) (version : Token) : Except Error DecisionRow :=
  match s.decisionsOf version with
  | [row] => .ok row
  | _ => .error graphDrifted

/-- Re-derive one accepted transition: the version's rows are what its decision wrote over `prior`. -/
def verifyTransition (host : Host) (s : Store) (version : Token) (snapshot : GraphSnapshot) (predecessor : Option Token)
    (prior : GraphSnapshot) : Except Error GraphSnapshot := do
  let decision ← soleDecision s version
  refuse (decision.decision ≠ .accepted ∨ decision.reasonCode.val ≠ "graph-valid") graphDrifted
  let (attempt, subset, proposal) ← rewrap (readEvidence host s decision.attemptId decision.proposalId) reviewAsDrift
  let binding ← demand snapshot.binding graphDrifted
  let _ ← rewrap (requireAuthenticatedDispatch host s attempt subset (binding.review attempt.profileIdentity) none true
    "dependency review graph evidence is unavailable") reviewAsDrift
  refuse (proposal.attemptId ≠ decision.attemptId ∨ attempt.state ≠ .accepted ∨
    decision.subsetDigest ≠ subset.contentDigest host ∨ decision.binding ≠ binding) graphDrifted
  let newEdges := snapshot.edges.filter fun e => e.proposalId = decision.proposalId
  let provenance ← trustedProvenance host s subset binding decision.attemptId
  let replay ← validate host proposal subset binding prior provenance
  refuse (replay.decision ≠ .accepted ∨ replay.edges ≠ newEdges) graphDrifted
  refuse (decisionDigest host replay proposal subset binding (some version) predecessor
    (some (snapshot.graphDigest host)) ≠ decision.decisionDigest) graphDrifted
  let expected ← nextSnapshot prior subset newEdges decision.proposalId binding
  refuse (snapshot.members ≠ expected.members ∨ snapshot.edges ≠ expected.edges ∨
    snapshot.proposalIds ≠ expected.proposalIds) graphDrifted
  return snapshot

attribute [local instance] lawfulBEq_token in
/-- `_verify_accepted_version`; `fuel` bounds the predecessors followed, and every version on the way is
stored and not seen before, so one more than the stored versions is enough. -/
def verifyAcceptedVersion (host : Host) (s : Store) : Nat → Token → List Token → Except Error GraphSnapshot
  | 0, _, _ => .error graphDrifted
  | fuel + 1, version, seen => do
    refuse (version ∈ seen) graphDrifted
    let (snapshot, predecessor) ← readVersion host s version
    match predecessor with
    | none => verifyTransition host s version snapshot none .empty
    | some previous => do
      let prior ← verifyAcceptedVersion host s fuel previous (version :: seen)
      refuse (prior.binding ≠ snapshot.binding) graphDrifted
      verifyTransition host s version snapshot (some previous) prior

/-- The verification of a version as the store runs it. -/
def verifyVersion (host : Host) (s : Store) (version : Token) : Except Error GraphSnapshot :=
  verifyAcceptedVersion host s (s.graphVersions.rows.length + 1) version []

/-- `_read_current` -/
def readCurrent (host : Host) (s : Store) : Except Error GraphSnapshot :=
  match s.graphCurrent with
  | none => .ok .empty
  | some version => verifyVersion host s version

/-! ## Activation -/

structure GraphActivation where
  proposalId : Token
  decision : GraphDecision
  reasonCode : Reason
  decisionDigest : Digest
  graphVersionId : Option Token
deriving DecidableEq

/-- A review error met while the dispatch is authenticated is missing graph evidence. -/
def reviewAsUnavailable : Error → Error
  | .dependencyReview _ => .dependencyGraph "dependency review graph evidence is unavailable"
  | e => e

/-- The first part of `activate`: the proposal is durably accepted, dispatched and not superseded. -/
def activationEvidence (host : Host) (s : Store) (proposal : DependencyProposal) (binding : DependencyGraphBinding) :
    Except Error (AffectedSubset × TaskIdentity) := do
  let (attempt, subset) ← readAttempt host s proposal.attemptId
  let stored ← readProposal host s proposal.proposalId
  refuse (stored ≠ proposal ∨ attempt.state ≠ .accepted) (.dependencyGraph "dependency proposal is not durably accepted")
  binding.requireSubset subset
  let derived ← rewrap (requireAuthenticatedDispatch host s attempt subset (binding.review attempt.profileIdentity) none
    true "dependency review graph evidence is unavailable") reviewAsUnavailable
  verifyTaskLineage host s attempt.taskId
  refuse (s.successor? proposal.attemptId ≠ none) (.dependencyGraph "dependency proposal is superseded")
  return (subset, derived)

/-- The answer of `activate` for a proposal that is already decided. -/
def replayDecision (host : Host) (proposal : DependencyProposal) (subset : AffectedSubset)
    (binding : DependencyGraphBinding) (graphVersionId : Token) (row : DecisionRow) : Except Error GraphActivation := do
  refuse (row.attemptId ≠ proposal.attemptId ∨ row.subsetDigest ≠ subset.contentDigest host ∨ row.binding ≠ binding)
    (.dependencyGraph "dependency graph decision has drifted")
  refuse (row.decision = .accepted ∧ row.graphVersionId ≠ some graphVersionId)
    (.dependencyGraph "dependency graph version has drifted")
  refuse (row.decision ≠ .accepted ∧ row.graphVersionId ≠ none)
    (.dependencyGraph "dependency graph decision has drifted")
  return ⟨row.proposalId, row.decision, row.reasonCode, row.decisionDigest, row.graphVersionId⟩

/-- What an accepted activation writes: the next graph and the version it follows. -/
structure GraphWrite where
  snapshot : GraphSnapshot
  predecessor : Option Token

/-- The decision of `activate` on a proposal not decided before, and what it writes when it accepts. -/
def planActivation (host : Host) (s : Store) (proposal : DependencyProposal) (subset : AffectedSubset)
    (binding : DependencyGraphBinding) (derived : TaskIdentity) (active : GraphSnapshot) :
    Except Error (GraphValidation × Option GraphWrite) := do
  let provenance ← trustedProvenance host s subset binding proposal.attemptId
  let validation ← validate host proposal subset binding active provenance
  requireReviewScope s derived.taskId
  if validation.decision = .accepted then do
    let snapshot ← nextSnapshot active subset validation.edges proposal.proposalId binding
    return (validation, some ⟨snapshot, if active.binding = some binding then active.graphVersionId else none⟩)
  else return (validation, none)

/-- `_write_version`, and the move of the current version. -/
def writeVersion (host : Host) (version : Token) (binding : DependencyGraphBinding) (w : GraphWrite) (s : Store) :
    Except Error Store := do
  let graphVersions ← insertRow s.graphVersions ⟨version, w.predecessor, w.snapshot.proposalSetDigest host, binding,
    w.snapshot.graphDigest host⟩
  let graphMembers ← insertRows s.graphMembers (w.snapshot.members.map fun m => ⟨version, m⟩)
  let graphEdges ← insertRows s.graphEdges (w.snapshot.edges.map fun e => ⟨version, e⟩)
  return { s with graphVersions, graphMembers, graphEdges, graphCurrent := some version }

/-- The decision row of a fresh activation. -/
def decisionRow (host : Host) (proposal : DependencyProposal) (subset : AffectedSubset)
    (binding : DependencyGraphBinding) (version : Token) (validation : GraphValidation) (w : Option GraphWrite) : DecisionRow :=
  ⟨proposal.proposalId, proposal.attemptId, subset.contentDigest host, binding, validation.decision,
    validation.reasonCode,
    decisionDigest host validation proposal subset binding (w.map fun _ => version) (w.bind (·.predecessor))
      (w.map (·.snapshot.graphDigest host)),
    w.map fun _ => version⟩

/-- The rows of a fresh activation. -/
def writeActivation (host : Host) (version : Token) (binding : DependencyGraphBinding) (w : Option GraphWrite)
    (decision : DecisionRow) (s : Store) : Except Error Store := do
  let s ← match w with
    | some w => writeVersion host version binding w s
    | none => .ok s
  let graphDecisions ← insertRow s.graphDecisions decision
  return { s with graphDecisions }

/-- The branch of `activate` for a proposal not decided before. -/
def decideActivation (host : Host) (proposal : DependencyProposal) (subset : AffectedSubset)
    (binding : DependencyGraphBinding) (version : Token) (derived : TaskIdentity) (active : GraphSnapshot) :
    Tx Error Store GraphActivation := do
  let (validation, w) ← Tx.query fun s => planActivation host s proposal subset binding derived active
  let row := decisionRow host proposal subset binding version validation w
  Tx.write (writeActivation host version binding w row)
  return ⟨row.proposalId, row.decision, row.reasonCode, row.decisionDigest, row.graphVersionId⟩

/-- The transaction of `activate`. -/
def activateBody (host : Host) (proposal : DependencyProposal) (binding : DependencyGraphBinding) (version : Token) :
    Tx Error Store GraphActivation := do
  let (subset, derived) ← Tx.query fun s => activationEvidence host s proposal binding
  let active ← Tx.query fun s => readCurrent host s
  let existing ← Tx.query fun s => .ok (s.decision? proposal.proposalId)
  match existing with
  | some row => Tx.check (replayDecision host proposal subset binding version row)
  | none => decideActivation host proposal subset binding version derived active

/-- The errors `activate` raises: its own and the review's as they are, any other as unavailable. -/
def activationError : Error → Error
  | .dependencyReview message => .dependencyReview message
  | .dependencyGraph message => .dependencyGraph message
  | _ => .dependencyGraph "dependency graph activation is unavailable"

def activate (host : Host) (proposal : DependencyProposal) (binding : DependencyGraphBinding) (version : Token) (s : Store) :
    Except Error GraphActivation × Store :=
  let (result, s') := transaction (activateBody host proposal binding version) s
  (rewrap result activationError, s')

end Roundwright.Dependency
