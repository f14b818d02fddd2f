/-
The operations of the dependency-review store: preparing an attempt, claiming its dispatch, accepting
its proposal and ending it without one. Each is the body of one `BEGIN IMMEDIATE` transaction.
-/
import Roundwright.Dependency.Store

namespace Roundwright.Dependency

open Lib State

/-! ## Writes -/

def insertRow {ρ : Type} {clash : ρ → ρ → Bool} (t : Table clash) (r : ρ) : Except Error (Table clash) :=
  demand (t.insert? r) .integrity

def insertRows {ρ : Type} {clash : ρ → ρ → Bool} (t : Table clash) (rs : List ρ) : Except Error (Table clash) :=
  demand (t.insertAll? rs) .integrity

/-- The row after a change of state. -/
def AttemptRow.settle (attemptId : Token) (state : AttemptState) (r : AttemptRow) : AttemptRow :=
  if r.attemptId = attemptId then { r with state } else r

theorem AttemptRow.settle_clash (attemptId : Token) (state : AttemptState) (a b : AttemptRow) :
    (a.settle attemptId state).clash (b.settle attemptId state) = a.clash b := by
  unfold settle clash; split <;> split <;> rfl

/-- `UPDATE dependency_review_attempts SET state = ? WHERE attempt_id = ?` -/
def setAttemptState (attemptId : Token) (state : AttemptState) (s : Store) : Store :=
  { s with attempts := s.attempts.update (AttemptRow.settle attemptId state) (AttemptRow.settle_clash attemptId state) }

/-- `INSERT INTO dependency_review_validation_outcomes` -/
def insertOutcome (attemptId : Token) (outcome : Outcome) (s : Store) : Except Error Store := do
  let outcomes ← insertRow s.outcomes ⟨attemptId, outcome⟩
  return { s with outcomes }

/-! ## Preparing an attempt -/

/-- `DependencyReviewAttempt` -/
structure DependencyReviewAttempt where
  attemptId : Token
  snapshotId : Token
  profileIdentity : Digest
  configurationDigest : Digest
  inputDigest : Digest
  supersedesAttemptId : Option Token
  state : AttemptState

/-- `require_scope_open` before a dispatch: a recovery stop is reported as a review error. -/
def requireDispatchScope (s : Store) (taskId : Token) : Except Error Unit :=
  match s.scope taskId.val ("dependency-review:" ++ taskId.val) with
  | .ok _ => .ok ()
  | .error (.failureRecovery _) => .error (.dependencyReview "dependency review dispatch scope is stopped")
  | .error (.scopeAdmissionDenied _) => .error (.dependencyReview "dependency review dispatch scope is stopped")
  | .error e => .error e

/-- The row a subset is stored as. -/
def subsetRow (host : Host) (subset : AffectedSubset) : SubsetRow :=
  { subset.toSubsetFields with contentDigest := subset.contentDigest host, memberCount := subset.members.length }

/-- The subset part of `start_attempt`: store the subset, or require the stored one. -/
def recordSubset (host : Host) (subset : AffectedSubset) (s : Store) : Except Error Store :=
  match s.subset? subset.snapshotId with
  | none => do
    let subsets ← insertRow s.subsets (subsetRow host subset)
    let subsetMembers ← insertRows s.subsetMembers (subset.members.map fun m => ⟨subset.snapshotId, m⟩)
    return { s with subsets, subsetMembers }
  | some row => do
    refuse (row ≠ subsetRow host subset ∨ sortBy (·.memberId) (s.membersOf subset.snapshotId) ≠ subset.members)
      (.dependencyReview "dependency review subset has drifted")
    return s

/-- The supersession checks of `start_attempt`. -/
def requireSupersession (host : Host) (s : Store) (taskId attemptId : Token) (supersedes : Option Token)
    (existing : Option AttemptRow) : Except Error Unit :=
  match supersedes with
  | some predecessor => do
    let (row, _) ← readAttempt host s predecessor
    refuse (row.taskId ≠ taskId ∨ row.state = .prepared)
      (.dependencyReview "dependency review supersession is unavailable")
    refuse ((s.successor? predecessor).any (· ≠ attemptId))
      (.dependencyReview "dependency review retry lineage has forked")
  | none =>
    refuse (existing = none ∧ s.attemptsOf taskId ≠ [])
      (.dependencyReview "dependency review task already has a lineage")

/-- The attempt row of `start_attempt`, with its successor row. -/
def insertAttempt (row : AttemptRow) (s : Store) : Except Error Store := do
  let attempts ← insertRow s.attempts row
  match row.supersedesAttemptId with
  | none => return { s with attempts }
  | some predecessor => do
    refuse (predecessor = row.attemptId) .integrity
    let successors ← insertRow s.successors ⟨predecessor, row.attemptId⟩
    return { s with attempts, successors }

/-- `_persist_source_relation`: an insert that keeps an existing row, then a read of what is there. -/
def persistSourceRelation (host : Host) (subset : AffectedSubset) (binding : DependencyGraphBinding) (attemptId : Token)
    (relation : SourceOwnedRelation) (s : Store) : Except Error Store := do
  binding.requireSubset subset
  let provenance ← TrustedEdgeProvenance.ofRelation host subset binding relation
  let expected : TrustedRelationRow := ⟨subset.snapshotId, attemptId, provenance⟩
  let trustedRelations := (s.trustedRelations.insert? expected).getD s.trustedRelations
  refuse (trustedRelations.rows.find? (fun r => r.snapshotId = subset.snapshotId ∧
      r.provenance.provenanceDigest = provenance.provenanceDigest) ≠ some expected)
    (.dependencyGraph "trusted edge provenance has drifted")
  return { s with trustedRelations }

/-- The loop of `_persist_source_owned_relations`. -/
def persistSourceOwnedRelations (host : Host) (subset : AffectedSubset) (attemptId : Token) :
    List SourceOwnedRelation → Store → Except Error Store
  | [], s => .ok s
  | relation :: rest, s => do
    let binding : DependencyGraphBinding := ⟨subset.candidateSha, subset.policyDigest, subset.configurationDigest,
      validatorDigest host⟩
    let s ← persistSourceRelation host subset binding attemptId relation s
    persistSourceOwnedRelations host subset attemptId rest s

/-- The row `start_attempt` prepares. -/
def attemptRow (host : Host) (subset : AffectedSubset) (attemptId : Token) (binding : DependencyReviewBinding)
    (relations : List SourceOwnedRelation) (supersedes : Option Token) : AttemptRow :=
  ⟨attemptId, subset.taskId, subset.snapshotId, binding.profileIdentity, subset.configurationDigest,
    host.digestValue (modelInput host subset attemptId binding.profileIdentity relations), supersedes, .prepared⟩

/-- The last part of `start_attempt`: a new attempt is written, an existing one must be the same. -/
def prepareAttempt (host : Host) (subset : AffectedSubset) (row : AttemptRow) (relations : List SourceOwnedRelation) :
    Option AttemptRow → Tx Error Store Unit
  | none => do
    Tx.write (insertAttempt row)
    Tx.write (persistSourceOwnedRelations host subset row.attemptId relations)
    Tx.query fun s => verifyTaskLineage host s subset.taskId
  | some stored => do
    Tx.check (refuse ({ stored with taskId := row.taskId } ≠ row)
      (.dependencyReview "dependency review attempt has drifted"))
    let recorded ← Tx.query fun s => readSourceOwnedRelations host s subset row.attemptId
    Tx.check (refuse (recorded ≠ relations) (.dependencyReview "dependency review attempt has drifted"))

/-- Read an attempt that exists. -/
def rereadAttempt (host : Host) (s : Store) : Option AttemptRow → Except Error Unit
  | none => .ok ()
  | some row => do
    let _ ← readAttempt host s row.attemptId
    return ()

def startAttempt (host : Host) (subset : AffectedSubset) (attemptId : Token) (binding : DependencyReviewBinding)
    (relations : List SourceOwnedRelation) (supersedes : Option Token) : Tx Error Store DependencyReviewAttempt := do
  Tx.check (refuse (¬ (relations.map (·.relationDigest host)).Nodup)
    (.dependencyReview "dependency review attempt identity is invalid"))
  Tx.check (binding.requireSubset subset)
  let relations := sortBy (·.relationDigest host) relations
  let row := attemptRow host subset attemptId binding relations supersedes
  Tx.query fun s => requireDispatchScope s subset.taskId
  Tx.query fun s => refuse (s.ledger.sourceDigest? subset.taskId ≠ some subset.sourceDigest.text)
    (.dependencyReview "dependency review source/task identity is unavailable")
  Tx.write (recordSubset host subset)
  let existing ← Tx.query fun s => .ok (s.attempt? attemptId)
  Tx.query fun s => verifyTaskLineage host s subset.taskId
  Tx.query fun s => rereadAttempt host s existing
  Tx.query fun s => refuse (∃ r ∈ s.attemptsOf subset.taskId, r.state = .prepared ∧ r.attemptId ≠ attemptId)
    (.dependencyReview "dependency review retry lineage is already active")
  Tx.query fun s => requireSupersession host s subset.taskId attemptId supersedes existing
  prepareAttempt host subset row relations existing
  return ⟨row.attemptId, row.snapshotId, row.profileIdentity, row.configurationDigest, row.inputDigest,
    row.supersedesAttemptId, .prepared⟩

/-! ## Claiming the dispatch -/

/-- The arguments `task_identity` and `binding` come together. -/
def requirePaired {α β : Type} (taskIdentity : Option α) (binding : Option β) (message : String) : Except Error Unit :=
  refuse (taskIdentity.isNone ≠ binding.isNone) (.dependencyReview message)

/-- The authority checks of a claim that names its task. -/
def requireClaimAuthority (host : Host) (s : Store) (row : AttemptRow) (subset : AffectedSubset)
    (taskIdentity : TaskIdentity) (binding : DependencyReviewBinding) : Except Error Unit := do
  requireCurrentAuthority host s taskIdentity subset binding
  refuse ((row.profileIdentity, row.configurationDigest) ≠ (binding.profileIdentity, binding.configurationDigest))
    (.dependencyReview "dependency review dispatch authority has drifted")

/-- `require_scope_open` for the review scope of a task. -/
def requireReviewScope (s : Store) (taskId : String) : Except Error Unit :=
  s.scope taskId ("dependency-review:" ++ taskId)

/-- Insert an admission, or require that the stored one is it. -/
def recordAdmission (attemptId : Token) (admission : Admission) (s : Store) : Except Error Store :=
  match s.admission? attemptId with
  | none => do
    let admissions ← insertRow s.admissions ⟨attemptId, admission⟩
    return { s with admissions }
  | some existing => do
    refuse (existing ≠ admission) (.dependencyReview "dependency review failure admission has drifted")
    return s

/-- `UPDATE dependency_review_failure_admissions SET session_identity = ? WHERE attempt_id = ? AND session_identity =
?` -/
def setAdmissionSession (attemptId : Token) (old new : String) (s : Store) : Except Error Store := do
  let admissions ← demand (s.admissions.update? fun r =>
    if r.attemptId = attemptId ∧ r.admission.sessionIdentity = old then
      { r with admission := { r.admission with sessionIdentity := new } } else r) .integrity
  return { s with admissions }

/-- The row after a claim moves on. -/
def ClaimRow.advance (attemptId : Token) (claim : DispatchClaim) (r : ClaimRow) : ClaimRow :=
  if r.attemptId = attemptId then { r with claim } else r

theorem ClaimRow.advance_clash (attemptId : Token) (claim : DispatchClaim) (a b : ClaimRow) :
    (a.advance attemptId claim).clash (b.advance attemptId claim) = a.clash b := by
  unfold advance clash; split <;> split <;> rfl

/-- `UPDATE dependency_review_dispatch_claims … WHERE attempt_id = ?` -/
def setClaim (attemptId : Token) (claim : DispatchClaim) (s : Store) : Store :=
  { s with claims := s.claims.update (ClaimRow.advance attemptId claim) (ClaimRow.advance_clash attemptId claim) }

def insertClaim (attemptId : Token) (claim : DispatchClaim) (s : Store) : Except Error Store := do
  let claims ← insertRow s.claims ⟨attemptId, claim⟩
  return { s with claims }

/-- The checks of `claim_pre_dispatch` on the task it names. -/
def requirePreDispatchAuthority (host : Host) (s : Store) (row : AttemptRow) (subset : AffectedSubset) :
    Option TaskIdentity → Option DependencyReviewBinding → Except Error Unit
  | some taskIdentity, some binding => do
    requireClaimAuthority host s row subset taskIdentity binding
    requireReviewScope s taskIdentity.taskId
  | _, _ => .ok ()

/-- The admission `claim_pre_dispatch` writes for the task it names. -/
def admitPreDispatch (host : Host) (attemptId : Token) :
    Option TaskIdentity → Option DependencyReviewBinding → Store → Except Error Store
  | some taskIdentity, some binding, s => recordAdmission attemptId
      (expectedAdmission taskIdentity.taskId binding (preDispatchFailureIdentity host attemptId) attemptId) s
  | _, _, s => .ok s

def claimPreDispatch (host : Host) (attemptId : Token) (taskIdentity : Option TaskIdentity)
    (binding : Option DependencyReviewBinding) : Tx Error Store Unit := do
  Tx.check (requirePaired taskIdentity binding "dependency review dispatch claim is invalid")
  let (row, subset) ← Tx.query fun s => readAttempt host s attemptId
  Tx.query fun s => requirePreDispatchAuthority host s row subset taskIdentity binding
  Tx.query fun s => refuse (row.state ≠ .prepared ∨ s.claim? attemptId ≠ none)
    (.dependencyReview "dependency review dispatch claim is unavailable")
  Tx.write (insertClaim attemptId .preDispatch)
  Tx.write (admitPreDispatch host attemptId taskIdentity binding)

/-- The checks of `claim_session` on the task it names. -/
def requireSessionAuthority (host : Host) (s : Store) (row : AttemptRow) (subset : AffectedSubset) :
    Option TaskIdentity → Option DependencyReviewBinding → Except Error Unit
  | some taskIdentity, some binding => requireClaimAuthority host s row subset taskIdentity binding
  | _, _ => .ok ()

/-- The claim part of `claim_session`. -/
def openSession (attemptId : Token) (session : OpaqueIdentity) (s : Store) : Except Error Store :=
  match s.claim? attemptId with
  | none => insertClaim attemptId (.sessionOpened session) s
  | some .preDispatch => .ok (setClaim attemptId (.sessionOpened session) s)
  | some _ => .error (.dependencyReview "dependency review dispatch claim is already consumed")

/-- The admission part of `claim_session`: the surrogate session is replaced by the opened one. -/
def admitSession (host : Host) (attemptId : Token) (session : OpaqueIdentity) :
    Option TaskIdentity → Option DependencyReviewBinding → Store → Except Error Store
  | some taskIdentity, some binding, s =>
    let admission := expectedAdmission taskIdentity.taskId binding session.val attemptId
    let placeholder := preDispatchFailureIdentity host attemptId
    if s.admission? attemptId = some { admission with sessionIdentity := placeholder } then
      setAdmissionSession attemptId placeholder session.val s
    else recordAdmission attemptId admission s
  | _, _, s => .ok s

def claimSession (host : Host) (attemptId : Token) (session : OpaqueIdentity) (taskIdentity : Option TaskIdentity)
    (binding : Option DependencyReviewBinding) : Tx Error Store Unit := do
  Tx.check (requirePaired taskIdentity binding "dependency review dispatch claim is invalid")
  let (row, subset) ← Tx.query fun s => readAttempt host s attemptId
  Tx.query fun s => requireSessionAuthority host s row subset taskIdentity binding
  Tx.check (refuse (row.state ≠ .prepared) (.dependencyReview "dependency review dispatch claim is unavailable"))
  Tx.write (openSession attemptId session)
  Tx.write (admitSession host attemptId session taskIdentity binding)

def claimTurn (host : Host) (attemptId : Token) (session turn : OpaqueIdentity) : Tx Error Store Unit := do
  let (row, _) ← Tx.query fun s => readAttempt host s attemptId
  Tx.query fun s => refuse (row.state ≠ .prepared ∨ s.claim? attemptId ≠ some (.sessionOpened session))
    (.dependencyReview "dependency review dispatch claim has drifted")
  Tx.write fun s => .ok (setClaim attemptId (.turnDispatched session turn) s)

/-! ## Accepting a proposal -/

/-- `_bind_accepted_result_dispatch` -/
def bindAcceptedResultDispatch (attemptId : Token) (outputDigest : Digest) (session turn : OpaqueIdentity) (s : Store) :
    Except Error Store :=
  match s.claim? attemptId with
  | some (.turnDispatched claimSession claimTurn) => do
    refuse ((session, turn) ≠ (claimSession, claimTurn))
      (.dependencyReview "dependency review accepted result dispatch has drifted")
    match s.acceptedResult? attemptId with
    | none => do
      let acceptedResults ← insertRow s.acceptedResults ⟨attemptId, session, turn, outputDigest⟩
      return { s with acceptedResults }
    | some existing => do
      refuse (existing ≠ (session, turn, outputDigest))
        (.dependencyReview "dependency review accepted result dispatch has drifted")
      return s
  | _ => .error (.dependencyReview "dependency review accepted result dispatch is unavailable")

/-- The row a proposal is stored as. -/
def proposalRow (host : Host) (proposal : DependencyProposal) : ProposalRow :=
  { proposal.toProposalFields with proposalDigest := proposal.proposalDigest host }

/-- The proposal is stored as it was accepted. -/
def replayAcceptance (host : Host) (s : Store) (proposal : DependencyProposal) : Except Error Unit := do
  refuse (s.proposal? proposal.proposalId ≠ some (proposalRow host proposal) ∨
      s.outcome? proposal.attemptId ≠ some (acceptedOutcome host proposal))
    (.dependencyReview "dependency proposal outcome has drifted")
  requireAcceptedResultDispatch s proposal.attemptId (proposal.proposalDigest host)
  verifyProposalEdges s proposal
  refuse ((s.attempt? proposal.attemptId).map (·.state) ≠ some .accepted)
    (.dependencyReview "dependency proposal acceptance has drifted")

/-- The proposal and edge rows of an acceptance. -/
def insertProposal (host : Host) (proposal : DependencyProposal) (s : Store) : Except Error Store := do
  refuse (s.proposal? proposal.proposalId ≠ none ∨ s.outcome? proposal.attemptId ≠ none)
    (.dependencyReview "dependency proposal has drifted")
  refuse (s.proposalsOf proposal.attemptId ≠ []) (.dependencyReview "dependency review attempt already has a proposal")
  let proposals ← insertRow s.proposals (proposalRow host proposal)
  let proposalEdges ← insertRows s.proposalEdges (proposalEdgeRows proposal)
  return { s with proposals, proposalEdges }

/-- The observed native turn of an acceptance: all three identities, with the proposal as output. -/
def requireObserved (host : Host) (proposal : DependencyProposal) (session turn : Option OpaqueIdentity)
    (outputDigest : Option Digest) : Except Error (OpaqueIdentity × OpaqueIdentity) := do
  let session ← demand session (.dependencyReview "dependency review acceptance evidence is unavailable")
  let turn ← demand turn (.dependencyReview "dependency review acceptance evidence is unavailable")
  refuse (outputDigest ≠ some (proposal.proposalDigest host))
    (.dependencyReview "dependency review acceptance evidence is unavailable")
  return (session, turn)

/-- The writes of a first acceptance. -/
def recordAcceptance (host : Host) (proposal : DependencyProposal)
    (observedSession observedTurn : Option OpaqueIdentity) (observedOutput : Option Digest) : Tx Error Store Unit := do
  let (session, turn) ← Tx.check (requireObserved host proposal observedSession observedTurn observedOutput)
  Tx.write (insertProposal host proposal)
  Tx.query fun s => verifyProposalEdges s proposal
  Tx.write (insertOutcome proposal.attemptId (acceptedOutcome host proposal))
  Tx.write (bindAcceptedResultDispatch proposal.attemptId (proposal.proposalDigest host) session turn)
  Tx.write fun s => .ok (setAttemptState proposal.attemptId .accepted s)
  Tx.query fun s => refuse ((s.attempt? proposal.attemptId).map (·.state) ≠ some .accepted)
    (.dependencyReview "dependency proposal acceptance has drifted")

/-- The state-dependent part of `accept_proposal`. -/
def settleAcceptance (host : Host) (proposal : DependencyProposal)
    (observedSession observedTurn : Option OpaqueIdentity) (observedOutput : Option Digest) : AttemptState → Tx Error Store Unit
  | .accepted => Tx.query fun s => replayAcceptance host s proposal
  | _ => recordAcceptance host proposal observedSession observedTurn observedOutput

attribute [local instance] lawfulBEq_token in
def acceptProposal (host : Host) (proposal : DependencyProposal) (binding : DependencyReviewBinding)
    (taskIdentity : Option TaskIdentity) (observedSession observedTurn : Option OpaqueIdentity)
    (observedOutput : Option Digest) : Tx Error Store Digest := do
  Tx.check (refuse ((observedSession.isSome || observedTurn.isSome || observedOutput.isSome) ≠
    (observedSession.isSome && observedTurn.isSome && observedOutput.isSome))
    (.dependencyReview "dependency review binding is invalid"))
  let (attempt, subset) ← Tx.query fun s => readAttempt host s proposal.attemptId
  let derived ← Tx.query fun s => requireAuthenticatedDispatch host s attempt subset binding taskIdentity true
    "dependency review acceptance evidence is unavailable"
  Tx.query fun s => requireReviewScope s derived.taskId
  Tx.check (refuse ((attempt.state ≠ .prepared ∧ attempt.state ≠ .accepted) ∨
      (attempt.profileIdentity, attempt.configurationDigest) ≠ (binding.profileIdentity, binding.configurationDigest))
    (.dependencyReview "dependency review attempt is not available"))
  Tx.query fun s => verifyTaskLineage host s attempt.taskId
  Tx.check (binding.requireSubset subset)
  Tx.check (refuse (∃ id ∈ proposedMembers proposal, id ∉ subset.members.map (·.memberId))
    (.dependencyReview "dependency proposal references a missing member"))
  settleAcceptance host proposal observedSession observedTurn observedOutput attempt.state
  return proposal.proposalDigest host

/-! ## Ending an attempt without a proposal -/

/-- The authority checks of `record_invalid` and `record_blocked` on the task they name. -/
def requireRecordAuthority (host : Host) (s : Store) (subset : AffectedSubset) :
    Option TaskIdentity → Option DependencyReviewBinding → Except Error Unit
  | some taskIdentity, some binding => do
    requireCurrentAuthority host s taskIdentity subset binding
    requireReviewScope s taskIdentity.taskId
  | _, _ => .ok ()

/-- Record the outcome of a prepared attempt, or require the recorded one. -/
def settleTerminal (attemptId : Token) (outcome : Outcome) (state : AttemptState) (drifted : Error)
    (current : AttemptState) (s : Store) : Except Error Store :=
  if current = state then do
    refuse (s.outcome? attemptId ≠ some outcome) drifted
    return s
  else do
    refuse (s.outcome? attemptId ≠ none) drifted
    let s ← insertOutcome attemptId outcome s
    return setAttemptState attemptId state s

/-- `record_invalid` and `record_blocked` up to the outcome they record. -/
def recordTerminal (host : Host) (kind : OutcomeKind) (state : AttemptState) (label : String) (attemptId : Token)
    (outputDigest : Digest) (reasonCode ownerRoute : Reason) (taskIdentity : Option TaskIdentity)
    (binding : Option DependencyReviewBinding) : Tx Error Store Unit := do
  Tx.check (requirePaired taskIdentity binding ("dependency review " ++ label ++ " outcome is malformed"))
  let (row, subset) ← Tx.query fun s => readAttempt host s attemptId
  Tx.query fun s => requireRecordAuthority host s subset taskIdentity binding
  Tx.check (refuse (row.state ≠ .prepared ∧ row.state ≠ state)
    (.dependencyReview "dependency review attempt is not available"))
  Tx.query fun s => verifyTaskLineage host s row.taskId
  Tx.write (settleTerminal attemptId ⟨kind, reasonCode, outputDigest, ownerRoute⟩ state
    (.dependencyReview ("dependency review " ++ label ++ " outcome has drifted")) row.state)

def recordInvalid (host : Host) (attemptId : Token) (outputDigest : Digest) (reasonCode ownerRoute : Reason)
    (taskIdentity : Option TaskIdentity) (binding : Option DependencyReviewBinding) : Tx Error Store Unit :=
  recordTerminal host .invalid .invalid "invalid" attemptId outputDigest reasonCode ownerRoute taskIdentity binding

def recordBlocked (host : Host) (attemptId : Token) (outputDigest : Digest) (reasonCode ownerRoute : Reason)
    (taskIdentity : Option TaskIdentity) (binding : Option DependencyReviewBinding) : Tx Error Store Unit :=
  recordTerminal host .blocked .blocked "blocked" attemptId outputDigest reasonCode ownerRoute taskIdentity binding

/-- The scope of the task is durably stopped. -/
def requireScopeDenied (s : Store) (taskId : String) : Except Error Unit :=
  match requireReviewScope s taskId with
  | .error (.scopeAdmissionDenied _) => .ok ()
  | .error e => .error e
  | .ok _ => .error (.dependencyReview "dependency review scope denial is unavailable")

theorem ownerReview_isReason : isReason "owner-review" = true := by decide

def scopeStopped (outputDigest : Digest) : Outcome :=
  ⟨.blocked, ⟨"scope-stopped", by decide⟩, outputDigest, ⟨"owner-review", ownerReview_isReason⟩⟩

/-- The outcome part of `record_scope_denied`. -/
def settleScopeDenied (attemptId : Token) (outputDigest : Digest) (current : AttemptState) (s : Store) :
    Except Error Store :=
  if current = .prepared ∧ s.outcome? attemptId = none then do
    let s ← insertOutcome attemptId (scopeStopped outputDigest) s
    return setAttemptState attemptId .blocked s
  else do
    refuse (current ≠ .blocked ∨ s.outcome? attemptId ≠ some (scopeStopped outputDigest))
      (.dependencyReview "dependency review scope denial has drifted")
    return s

def recordScopeDenied (host : Host) (attemptId : Token) (outputDigest : Digest) (taskIdentity : TaskIdentity)
    (binding : DependencyReviewBinding) : Tx Error Store Unit := do
  let (row, subset) ← Tx.query fun s => readAttempt host s attemptId
  Tx.query fun s => requireCurrentAuthority host s taskIdentity subset binding
  Tx.query fun s => requireScopeDenied s taskIdentity.taskId
  Tx.write (settleScopeDenied attemptId outputDigest row.state)

def uncertainTurn (outputDigest : Digest) : Outcome :=
  ⟨.blocked, ⟨"uncertain-provider-turn", by decide⟩, outputDigest, ⟨"owner-review", by decide⟩⟩

/-- The authority check of `recover_dispatch_claim`. -/
def requireRecoveryAuthority (host : Host) (s : Store) (subset : AffectedSubset) (binding : DependencyReviewBinding) :
    Option TaskIdentity → Except Error Unit
  | some taskIdentity => requireCurrentAuthority host s taskIdentity subset binding
  | none => .ok ()

/-- The last part of `recover_dispatch_claim`: an in-flight claim ends the attempt. -/
def blockInFlight (attemptId : Token) (outputDigest : Digest) (current : AttemptState) (claim : Option DispatchClaim) :
    Tx Error Store Bool :=
  if claim = none ∨ current ≠ .prepared then return false
  else do
    Tx.write (insertOutcome attemptId (uncertainTurn outputDigest))
    Tx.write fun s => .ok (setAttemptState attemptId .blocked s)
    return true

def recoverDispatchClaim (host : Host) (attemptId : Token) (outputDigest : Digest) (subset : AffectedSubset)
    (binding : DependencyReviewBinding) (inputDigest : Digest) (supersedes : Option Token)
    (taskIdentity : Option TaskIdentity) : Tx Error Store Bool := do
  let (row, stored) ← Tx.query fun s => readAttempt host s attemptId
  Tx.check (binding.requireSubset subset)
  Tx.check (refuse (stored ≠ subset ∨ (row.taskId, row.snapshotId, row.profileIdentity, row.configurationDigest,
      row.inputDigest, row.supersedesAttemptId) ≠ (subset.taskId, subset.snapshotId, binding.profileIdentity,
        binding.configurationDigest, inputDigest, supersedes))
    (.dependencyReview "dependency review recovery identity has drifted"))
  Tx.query fun s => requireRecoveryAuthority host s subset binding taskIdentity
  Tx.query fun s => verifyTaskLineage host s subset.taskId
  let claim ← Tx.query fun s => .ok (s.claim? attemptId)
  blockInFlight attemptId outputDigest row.state claim

end Roundwright.Dependency
