/-
The dependency tables and the reads over them: subsets, attempts, proposals, the retry lineage of a
task, the authority a result must still have, and the dispatch that produced it. Reads rebuild what
was stored and raise when a row no longer fits.
-/
import Roundwright.Dependency.Graph
import Roundwright.State.Ledger

namespace Roundwright.Dependency

open Lib State

/-! ## Rows -/

/-- `dependency_review_subsets` -/
structure SubsetRow extends SubsetFields where
  contentDigest : Digest
  memberCount : Nat
deriving DecidableEq

def SubsetRow.clash (a b : SubsetRow) : Bool := a.snapshotId == b.snapshotId

/-- `dependency_review_subset_members` -/
structure SubsetMemberRow where
  snapshotId : Token
  member : AffectedMember

def SubsetMemberRow.clash (a b : SubsetMemberRow) : Bool :=
  a.snapshotId == b.snapshotId &&
    (a.member.memberId == b.member.memberId || a.member.memberFingerprint == b.member.memberFingerprint)

inductive AttemptState where
  | prepared | accepted | invalid | blocked
deriving DecidableEq

/-- `dependency_review_attempts` -/
structure AttemptRow where
  attemptId : Token
  taskId : Token
  snapshotId : Token
  profileIdentity : Digest
  configurationDigest : Digest
  inputDigest : Digest
  supersedesAttemptId : Option Token
  state : AttemptState
deriving DecidableEq

def AttemptRow.clash (a b : AttemptRow) : Bool :=
  a.attemptId == b.attemptId || a.snapshotId == b.snapshotId ||
    (a.taskId == b.taskId && a.inputDigest == b.inputDigest)

/-- `dependency_review_proposals` -/
structure ProposalRow extends ProposalFields where
  proposalDigest : Digest
deriving DecidableEq

def ProposalRow.clash (a b : ProposalRow) : Bool := a.proposalId == b.proposalId || a.attemptId == b.attemptId

/-- `dependency_review_proposal_edges` -/
structure ProposalEdgeRow where
  proposalId : Token
  ordinal : Nat
  edge : ProposedEdge
deriving DecidableEq

def ProposalEdgeRow.clash (a b : ProposalEdgeRow) : Bool :=
  a.proposalId == b.proposalId && (a.ordinal == b.ordinal || a.edge.key == b.edge.key)

inductive OutcomeKind where
  | accepted | invalid | blocked
deriving DecidableEq

/-- The columns of `dependency_review_validation_outcomes` after the key. -/
structure Outcome where
  kind : OutcomeKind
  reasonCode : Reason
  outputDigest : Digest
  ownerRoute : Reason
deriving DecidableEq

structure OutcomeRow where
  attemptId : Token
  outcome : Outcome

def OutcomeRow.clash (a b : OutcomeRow) : Bool := a.attemptId == b.attemptId

/-- `dependency_review_successors` -/
structure SuccessorRow where
  predecessor : Token
  successor : Token

def SuccessorRow.clash (a b : SuccessorRow) : Bool := a.predecessor == b.predecessor || a.successor == b.successor

/-- How far the dispatch of an attempt has come; the table's CHECK ties the identities to the state. -/
inductive DispatchClaim where
  | preDispatch
  | sessionOpened (session : OpaqueIdentity)
  | turnDispatched (session turn : OpaqueIdentity)
deriving DecidableEq

/-- `dependency_review_dispatch_claims` -/
structure ClaimRow where
  attemptId : Token
  claim : DispatchClaim

def ClaimRow.clash (a b : ClaimRow) : Bool := a.attemptId == b.attemptId

/-- The columns of `dependency_review_failure_admissions` after the key. -/
structure Admission where
  taskId : String
  candidateSha : Sha
  policyDigest : Digest
  configurationDigest : Digest
  authorityScope : String
  providerRole : String
  profileIdentity : Digest
  sessionIdentity : String
  attemptIdentity : Token
deriving DecidableEq

structure AdmissionRow where
  attemptId : Token
  admission : Admission

def AdmissionRow.clash (a b : AdmissionRow) : Bool :=
  a.attemptId == b.attemptId ||
    (a.admission.taskId == b.admission.taskId && a.admission.providerRole == b.admission.providerRole &&
      a.admission.sessionIdentity == b.admission.sessionIdentity &&
      a.admission.attemptIdentity == b.admission.attemptIdentity)

/-- `dependency_review_accepted_result_dispatches` -/
structure AcceptedResultRow where
  attemptId : Token
  sessionIdentity : OpaqueIdentity
  turnIdentity : OpaqueIdentity
  outputDigest : Digest

def AcceptedResultRow.clash (a b : AcceptedResultRow) : Bool :=
  a.attemptId == b.attemptId || (a.sessionIdentity == b.sessionIdentity && a.turnIdentity == b.turnIdentity)

/-- `dependency_graph_trusted_relations` -/
structure TrustedRelationRow where
  snapshotId : Token
  attemptId : Token
  provenance : TrustedEdgeProvenance
deriving DecidableEq

def TrustedRelationRow.clash (a b : TrustedRelationRow) : Bool :=
  a.snapshotId == b.snapshotId && a.provenance.provenanceDigest == b.provenance.provenanceDigest

/-- `dependency_graph_versions` -/
structure VersionRow where
  graphVersionId : Token
  predecessor : Option Token
  proposalSetDigest : Digest
  binding : DependencyGraphBinding
  graphDigest : Digest

def VersionRow.clash (a b : VersionRow) : Bool := a.graphVersionId == b.graphVersionId

/-- `dependency_graph_members` -/
structure GraphMemberRow where
  graphVersionId : Token
  member : GraphMember

def GraphMemberRow.clash (a b : GraphMemberRow) : Bool :=
  a.graphVersionId == b.graphVersionId && (a.member.memberId == b.member.memberId ||
    a.member.member.memberFingerprint == b.member.member.memberFingerprint)

/-- `dependency_graph_edges` -/
structure GraphEdgeRow where
  graphVersionId : Token
  edge : GraphEdge

def GraphEdgeRow.clash (a b : GraphEdgeRow) : Bool :=
  a.graphVersionId == b.graphVersionId && a.edge.pair == b.edge.pair

/-- `dependency_graph_decisions` -/
structure DecisionRow where
  proposalId : Token
  attemptId : Token
  subsetDigest : Digest
  binding : DependencyGraphBinding
  decision : GraphDecision
  reasonCode : Reason
  decisionDigest : Digest
  graphVersionId : Option Token

def DecisionRow.clash (a b : DecisionRow) : Bool :=
  a.proposalId == b.proposalId || a.attemptId == b.attemptId ||
    (a.graphVersionId.isSome && a.graphVersionId == b.graphVersionId)

/-! ## The store -/

/-- The dependency tables over the ledger; `scope` is what `require_scope_open` answers for a task and a
scope from the recovery records. -/
structure Store where
  ledger : Ledger
  scope : String → String → Except Error Unit
  subsets : Table SubsetRow.clash
  subsetMembers : Table SubsetMemberRow.clash
  attempts : Table AttemptRow.clash
  proposals : Table ProposalRow.clash
  proposalEdges : Table ProposalEdgeRow.clash
  outcomes : Table OutcomeRow.clash
  successors : Table SuccessorRow.clash
  claims : Table ClaimRow.clash
  admissions : Table AdmissionRow.clash
  acceptedResults : Table AcceptedResultRow.clash
  trustedRelations : Table TrustedRelationRow.clash
  graphVersions : Table VersionRow.clash
  graphMembers : Table GraphMemberRow.clash
  graphEdges : Table GraphEdgeRow.clash
  graphCurrent : Option Token
  graphDecisions : Table DecisionRow.clash

namespace Store

/-- Empty dependency tables over a ledger. -/
def initial (ledger : Ledger) (scope : String → String → Except Error Unit) : Store where
  ledger := ledger
  scope := scope
  subsets := .empty
  subsetMembers := .empty
  attempts := .empty
  proposals := .empty
  proposalEdges := .empty
  outcomes := .empty
  successors := .empty
  claims := .empty
  admissions := .empty
  acceptedResults := .empty
  trustedRelations := .empty
  graphVersions := .empty
  graphMembers := .empty
  graphEdges := .empty
  graphCurrent := none
  graphDecisions := .empty

/-! ### Lookups -/

variable (s : Store)

def subset? (snapshotId : Token) : Option SubsetRow := s.subsets.rows.find? fun r => r.snapshotId = snapshotId

def membersOf (snapshotId : Token) : List AffectedMember :=
  (s.subsetMembers.rows.filter fun r => r.snapshotId = snapshotId).map (·.member)

def attempt? (attemptId : Token) : Option AttemptRow := s.attempts.rows.find? fun r => r.attemptId = attemptId

/-- The attempts of a task, oldest first. -/
def attemptsOf (taskId : Token) : List AttemptRow := s.attempts.rows.filter fun r => r.taskId = taskId

def proposal? (proposalId : Token) : Option ProposalRow := s.proposals.rows.find? fun r => r.proposalId = proposalId

def proposalsOf (attemptId : Token) : List ProposalRow := s.proposals.rows.filter fun r => r.attemptId = attemptId

def edgesOf (proposalId : Token) : List ProposalEdgeRow := s.proposalEdges.rows.filter fun r => r.proposalId = proposalId

def outcome? (attemptId : Token) : Option Outcome :=
  (s.outcomes.rows.find? fun r => r.attemptId = attemptId).map (·.outcome)

def successor? (attemptId : Token) : Option Token :=
  (s.successors.rows.find? fun r => r.predecessor = attemptId).map (·.successor)

def claim? (attemptId : Token) : Option DispatchClaim :=
  (s.claims.rows.find? fun r => r.attemptId = attemptId).map (·.claim)

def admission? (attemptId : Token) : Option Admission :=
  (s.admissions.rows.find? fun r => r.attemptId = attemptId).map (·.admission)

def acceptedResult? (attemptId : Token) : Option (OpaqueIdentity × OpaqueIdentity × Digest) :=
  (s.acceptedResults.rows.find? fun r => r.attemptId = attemptId).map fun r =>
    (r.sessionIdentity, r.turnIdentity, r.outputDigest)

/-- The trusted relations recorded for a snapshot and an attempt under a candidate, policy and configuration. -/
def trustedOf (snapshotId attemptId : Token) (candidateSha : Sha) (policyDigest configurationDigest : Digest) :
    List TrustedEdgeProvenance :=
  (s.trustedRelations.rows.filter fun r => r.snapshotId = snapshotId ∧ r.attemptId = attemptId ∧
    r.provenance.candidateSha = candidateSha ∧ r.provenance.policyDigest = policyDigest ∧
    r.provenance.configurationDigest = configurationDigest).map (·.provenance)

end Store

/-! ## Reads of one record -/

/-- `_read_source_owned_relations` -/
def readSourceOwnedRelations (host : Host) (s : Store) (subset : AffectedSubset) (attemptId : Token) :
    Except Error (List SourceOwnedRelation) := do
  let relations := (s.trustedOf subset.snapshotId attemptId subset.candidateSha subset.policyDigest
    subset.configurationDigest).map (·.relation)
  refuse (¬ (relations.map (·.relationDigest host)).Nodup)
    (.dependencyReview "source-owned relation evidence has drifted")
  return sortBy (·.relationDigest host) relations

/-- `_read_subset` -/
def readSubset (host : Host) (s : Store) (snapshotId : Token) : Except Error AffectedSubset := do
  let row ← demand (s.subset? snapshotId) (.dependencyReview "dependency review subset is unavailable")
  let members := sortBy (·.memberId) (s.membersOf snapshotId)
  let subset ← rewrap (AffectedSubset.new row.toSubsetFields members) fun _ =>
    .dependencyReview "dependency review subset has drifted"
  refuse (row.contentDigest ≠ subset.contentDigest host ∨ row.memberCount ≠ members.length)
    (.dependencyReview "dependency review subset has drifted")
  refuse (s.ledger.sourceDigest? subset.taskId ≠ some subset.sourceDigest.text)
    (.dependencyReview "dependency review source/task identity has drifted")
  return subset

/-- The stored edges of a proposal in order. -/
def storedEdges (s : Store) (proposalId : Token) : List ProposalEdgeRow := sortBy (·.ordinal) (s.edgesOf proposalId)

/-- The edge rows a proposal is stored as. -/
def proposalEdgeRows (proposal : DependencyProposal) : List ProposalEdgeRow :=
  proposal.edges.mapIdx fun ordinal edge => ⟨proposal.proposalId, ordinal, edge⟩

/-- `_verify_proposal_edges` -/
def verifyProposalEdges (s : Store) (proposal : DependencyProposal) : Except Error Unit :=
  refuse (storedEdges s proposal.proposalId ≠ proposalEdgeRows proposal)
    (.dependencyReview "dependency proposal edges have drifted")

/-- `_read_proposal` -/
def readProposal (host : Host) (s : Store) (proposalId : Token) : Except Error DependencyProposal := do
  let row ← demand (s.proposal? proposalId) (.dependencyReview "dependency proposal is unavailable")
  let stored := storedEdges s proposalId
  refuse (stored.map (·.ordinal) ≠ List.range stored.length) (.dependencyReview "dependency proposal has drifted")
  let proposal ← rewrap (DependencyProposal.new row.toProposalFields (stored.map (·.edge))) fun _ =>
    .dependencyReview "dependency proposal has drifted"
  refuse (proposal.proposalDigest host ≠ row.proposalDigest) (.dependencyReview "dependency proposal has drifted")
  return proposal

/-- `("accepted", "schema-valid", proposal_digest, owner_route)` -/
def acceptedOutcome (host : Host) (proposal : DependencyProposal) : Outcome :=
  ⟨.accepted, ⟨"schema-valid", by decide⟩, proposal.proposalDigest host, proposal.ownerRoute⟩

/-- The part of `_read_attempt` that depends on the state of the attempt. -/
def checkTerminalEvidence (host : Host) (s : Store) (attempt : AttemptRow) : Except Error Unit :=
  let proposals := s.proposalsOf attempt.attemptId
  let outcome := s.outcome? attempt.attemptId
  let terminal (kind : OutcomeKind) : Except Error Unit :=
    refuse (proposals ≠ [] ∨ outcome.map (·.kind) ≠ some kind)
      (.dependencyReview "dependency review terminal evidence has drifted")
  match attempt.state with
  | .prepared =>
    refuse (proposals ≠ [] ∨ outcome ≠ none) (.dependencyReview "dependency review prepared evidence has drifted")
  | .accepted =>
    match proposals with
    | [row] => do
      let proposal ← readProposal host s row.proposalId
      refuse (proposal.attemptId ≠ attempt.attemptId ∨ outcome ≠ some (acceptedOutcome host proposal))
        (.dependencyReview "dependency proposal outcome has drifted")
    | _ => .error (.dependencyReview "dependency proposal is unavailable")
  | .invalid => terminal .invalid
  | .blocked => terminal .blocked

/-- `_read_attempt` -/
def readAttempt (host : Host) (s : Store) (attemptId : Token) : Except Error (AttemptRow × AffectedSubset) := do
  let row ← demand (s.attempt? attemptId) (.dependencyReview "dependency review attempt is unavailable")
  let subset ← readSubset host s row.snapshotId
  refuse (row.taskId ≠ subset.taskId ∨ row.configurationDigest ≠ subset.configurationDigest)
    (.dependencyReview "dependency review attempt has drifted")
  let relations ← readSourceOwnedRelations host s subset attemptId
  refuse (row.inputDigest ≠ host.digestValue (modelInput host subset attemptId row.profileIdentity relations))
    (.dependencyReview "dependency review attempt has drifted")
  checkTerminalEvidence host s row
  return (row, subset)

/-! ## The retry lineage of a task -/

attribute [local instance] lawfulBEq_token in
/-- The loop that pairs each attempt with the one it supersedes; the pairs are the source's
`expected_claims` list and its `children` map at once. -/
def lineagePairs (attempts : List AttemptRow) :
    List AttemptRow → List (Token × Token) → Except Error (List (Token × Token))
  | [], pairs => .ok pairs
  | a :: rest, pairs =>
    match a.supersedesAttemptId with
    | none => lineagePairs attempts rest pairs
    | some predecessor => do
      let prior ← demand (attempts.find? fun r => r.attemptId = predecessor)
        (.dependencyReview "dependency review retry lineage has forked")
      refuse (prior.state = .prepared ∨ predecessor ∈ pairs.map (·.1))
        (.dependencyReview "dependency review retry lineage has forked")
      lineagePairs attempts rest (pairs ++ [(predecessor, a.attemptId)])

/-- The loop that selects the successor rows of the task. -/
def taskSuccessors (s : Store) (taskId : Token) : List SuccessorRow → Except Error (List (Token × Token))
  | [] => .ok []
  | r :: rest =>
    let predecessorTask := (s.attempt? r.predecessor).map (·.taskId)
    let successorTask := (s.attempt? r.successor).map (·.taskId)
    if predecessorTask ≠ some taskId ∧ successorTask ≠ some taskId then taskSuccessors s taskId rest
    else do
      refuse (predecessorTask ≠ some taskId ∨ successorTask ≠ some taskId)
        (.dependencyReview "dependency review successor claim has drifted")
      let more ← taskSuccessors s taskId rest
      return (r.predecessor, r.successor) :: more

attribute [local instance] lawfulBEq_token in
/-- The loop that follows the lineage from its root. -/
def walkLineage (pairs : List (Token × Token)) : Nat → Token → List Token → List Token
  | 0, _, visited => visited
  | fuel + 1, current, visited =>
    if current ∈ visited then visited
    else
      match pairs.find? fun p => p.1 = current with
      | none => visited ++ [current]
      | some (_, next) => walkLineage pairs fuel next (visited ++ [current])

/-- Read every attempt of a list. -/
def readAttempts (host : Host) (s : Store) : List Token → Except Error Unit
  | [] => .ok ()
  | attemptId :: rest => do
    let _ ← readAttempt host s attemptId
    readAttempts host s rest

/-- The tuple order of successor pairs. -/
def pairKey (p : Token × Token) : List String := [p.1.val, p.2.val]

attribute [local instance] lawfulBEq_token in
/-- `_verify_task_lineage` -/
def verifyTaskLineage (host : Host) (s : Store) (taskId : Token) : Except Error Unit :=
  let attempts := sortBy (·.attemptId) (s.attemptsOf taskId)
  if attempts = [] then .ok ()
  else
    match attempts.filter fun r => r.supersedesAttemptId = none with
    | [root] => do
      let expected ← lineagePairs attempts attempts []
      let claims ← taskSuccessors s taskId (sortBy (·.predecessor) s.successors.rows)
      refuse (claims ≠ sortBy pairKey expected) (.dependencyReview "dependency review successor claim has drifted")
      let visited := walkLineage expected (attempts.length + 1) root.attemptId []
      refuse (¬ ((∀ id ∈ visited, id ∈ attempts.map (·.attemptId)) ∧ ∀ a ∈ attempts, a.attemptId ∈ visited) ∨
          1 < (attempts.filter fun r => r.state = .prepared).length)
        (.dependencyReview "dependency review retry lineage has forked")
      readAttempts host s visited
    | _ => .error (.dependencyReview "dependency review retry lineage has forked")

/-! ## Authority and dispatch -/

/-- The seal and the runtime receipt of a task are the ones of a binding. -/
def SealCurrent (l : Ledger) (identity : TaskIdentity) (candidateSha : Sha) (configurationDigest : Digest) : Prop :=
  (l.seal? identity.taskId).any (fun row => row.baseSha = identity.baseSha ∧ row.candidateSha = candidateSha.text ∧
    row.stateIdentity ≠ "") = true ∧
  (l.runtimeBinding? identity.taskId).map (fun r => (r.schemaVersion, r.resolvedDigest)) =
    some ("roundwright-runtime/v1", configurationDigest.text)

instance (l : Ledger) (identity : TaskIdentity) (candidateSha : Sha) (configurationDigest : Digest) :
    Decidable (SealCurrent l identity candidateSha configurationDigest) := inferInstanceAs (Decidable (_ ∧ _))

/-- `_require_current_authority` -/
def requireCurrentAuthority (host : Host) (s : Store) (identity : TaskIdentity) (subset : AffectedSubset)
    (binding : DependencyReviewBinding) : Except Error Unit := do
  let _ ← requireMatchingTask host s.ledger identity none
  binding.requireSubset subset
  refuse (¬ SealCurrent s.ledger identity binding.candidateSha binding.configurationDigest ∨
      subset.taskId.val ≠ identity.taskId)
    (.dependencyReview "dependency review current authority is unavailable or has drifted")

/-- `_require_accepted_result_dispatch` -/
def requireAcceptedResultDispatch (s : Store) (attemptId : Token) (outputDigest : Digest) : Except Error Unit :=
  match s.claim? attemptId with
  | some (.turnDispatched session turn) =>
    refuse (s.acceptedResult? attemptId ≠ some (session, turn, outputDigest))
      (.dependencyReview "dependency review accepted result dispatch has drifted")
  | _ => .error (.dependencyReview "dependency review accepted result dispatch has drifted")

/-- The session a claim was admitted under: the surrogate until a session exists. -/
def admittedSession (host : Host) (attemptId : Token) : DispatchClaim → String
  | .preDispatch => preDispatchFailureIdentity host attemptId
  | .sessionOpened session => session.val
  | .turnDispatched session _ => session.val

def DispatchClaim.isTurn : DispatchClaim → Bool
  | .turnDispatched _ _ => true
  | _ => false

/-- The admission of an attempt under a binding and a session. -/
def expectedAdmission (taskId : String) (binding : DependencyReviewBinding) (session : String) (attemptId : Token) :
    Admission :=
  ⟨taskId, binding.candidateSha, binding.policyDigest, binding.configurationDigest, "dependency-review:" ++ taskId,
    "dependency-review", binding.profileIdentity, session, attemptId⟩

/-- The check on the retained result of an accepted attempt in `_require_authenticated_dispatch`. -/
def requireAcceptedEvidence (s : Store) (attempt : AttemptRow) (unavailable : Error) : Except Error Unit :=
  match attempt.state with
  | .accepted => do
    let outcome ← demand (s.outcome? attempt.attemptId) unavailable
    refuse (outcome.kind ≠ .accepted) unavailable
    rewrap (requireAcceptedResultDispatch s attempt.attemptId outcome.outputDigest) fun _ => unavailable
  | _ => .ok ()

/-- `_require_authenticated_dispatch` -/
def requireAuthenticatedDispatch (host : Host) (s : Store) (attempt : AttemptRow) (subset : AffectedSubset)
    (binding : DependencyReviewBinding) (taskIdentity : Option TaskIdentity) (requireTurn : Bool) (unavailable : String) :
    Except Error TaskIdentity := do
  let task ← demand (s.ledger.task? attempt.taskId) (.dependencyReview unavailable)
  let derived := task.identity
  refuse (taskIdentity.any (· ≠ derived)) (.dependencyReview "dependency review task authority has drifted")
  requireCurrentAuthority host s derived subset binding
  binding.requireSubset subset
  refuse (attempt.taskId.val ≠ derived.taskId ∨ attempt.profileIdentity ≠ binding.profileIdentity ∨
    attempt.configurationDigest ≠ binding.configurationDigest) (.dependencyReview unavailable)
  let claim ← demand (s.claim? attempt.attemptId) (.dependencyReview unavailable)
  refuse ((requireTurn ∧ claim.isTurn = false) ∨ s.admission? attempt.attemptId ≠
      some (expectedAdmission derived.taskId binding (admittedSession host attempt.attemptId claim) attempt.attemptId))
    (.dependencyReview unavailable)
  requireAcceptedEvidence s attempt (.dependencyReview unavailable)
  return derived

end Roundwright.Dependency
