/-
The pure part of graph activation: bindings, trusted provenance, graph snapshots, the validator and
the replacement of one task's part of the graph. Nothing here reads the store.
-/
import Roundwright.Dependency.Record
import Roundwright.Lib.Digraph
import Mathlib.Order.Lex
import Mathlib.Data.List.Lex

namespace Roundwright.Dependency

open Lib

/-! ## Bindings and provenance -/

inductive GraphDecision where
  | accepted | pendingOwner | rejected
deriving DecidableEq

def GraphDecision.value : GraphDecision → String
  | .accepted => "accepted"
  | .pendingOwner => "pending-owner"
  | .rejected => "rejected"

/-- The candidate, policy, configuration and validator an activation is made under. -/
structure DependencyGraphBinding where
  candidateSha : Sha
  policyDigest : Digest
  configurationDigest : Digest
  validatorDigest : Digest
deriving DecidableEq

/-- `VALIDATOR_DIGEST` -/
def validatorDigest (host : Host) : Digest := .sha256 (host.hexdigest "roundwright-dependency-graph-validator/v1")

namespace DependencyGraphBinding

def requireSubset (b : DependencyGraphBinding) (s : AffectedSubset) : Except Error Unit :=
  refuse ((s.candidateSha, s.policyDigest, s.configurationDigest) ≠
    (b.candidateSha, b.policyDigest, b.configurationDigest)) (.dependencyGraph "dependency graph binding has drifted")

/-- The review binding that activation authenticates against. -/
def review (b : DependencyGraphBinding) (profileIdentity : Digest) : DependencyReviewBinding :=
  ⟨b.candidateSha, b.policyDigest, b.configurationDigest, profileIdentity⟩

end DependencyGraphBinding

/-- A source-owned relation bound to a candidate and to the fingerprints of its members. -/
structure TrustedEdgeProvenance where
  relation : SourceOwnedRelation
  candidateSha : Sha
  policyDigest : Digest
  configurationDigest : Digest
  sourceDigest : String
  subjectMemberFingerprint : Digest
  objectMemberFingerprint : Digest
  provenanceDigest : Digest
deriving DecidableEq

namespace TrustedEdgeProvenance

def payload (p : TrustedEdgeProvenance) : Json :=
  .obj (p.relation.payload ++ [("candidate_sha", .hex p.candidateSha), ("policy_digest", .digest p.policyDigest),
    ("configuration_digest", .digest p.configurationDigest), ("source_digest", .str p.sourceDigest),
    ("subject_member_fingerprint", .digest p.subjectMemberFingerprint),
    ("object_member_fingerprint", .digest p.objectMemberFingerprint)])

/-- The digest check of `TrustedEdgeProvenance.__post_init__`. -/
def Valid (host : Host) (p : TrustedEdgeProvenance) : Prop := p.provenanceDigest = host.digestValue p.payload

instance (host : Host) (p : TrustedEdgeProvenance) : Decidable (p.Valid host) := inferInstanceAs (Decidable (_ = _))

/-- `from_explicit_source` and `from_deterministic_policy` up to the digest they name as source. -/
def bindTo (host : Host) (subset : AffectedSubset) (binding : DependencyGraphBinding) (relation : SourceOwnedRelation)
    (sourceDigest : String) : Except Error TrustedEdgeProvenance := do
  let subject ← demand (subset.members.find? fun m => m.memberId = relation.subjectMemberId)
    (.dependencyGraph "trusted edge provenance is invalid")
  let object ← demand (subset.members.find? fun m => m.memberId = relation.objectMemberId)
    (.dependencyGraph "trusted edge provenance is invalid")
  let unsealed : TrustedEdgeProvenance := ⟨relation, binding.candidateSha, binding.policyDigest,
    binding.configurationDigest, sourceDigest, subject.memberFingerprint, object.memberFingerprint, binding.policyDigest⟩
  return { unsealed with provenanceDigest := host.digestValue unsealed.payload }

def fromExplicitSource (host : Host) (subset : AffectedSubset) (binding : DependencyGraphBinding)
    (relation : SourceOwnedRelation) : Except Error TrustedEdgeProvenance :=
  bindTo host subset binding relation subset.sourceDigest.text

def fromDeterministicPolicy (host : Host) (subset : AffectedSubset) (binding : DependencyGraphBinding)
    (relation : SourceOwnedRelation) : Except Error TrustedEdgeProvenance :=
  bindTo host subset binding relation binding.policyDigest.text

/-- The provenance `_persist_source_relation` records for a relation. -/
def ofRelation (host : Host) (subset : AffectedSubset) (binding : DependencyGraphBinding)
    (relation : SourceOwnedRelation) : Except Error TrustedEdgeProvenance :=
  match relation.kind with
  | .explicit => fromExplicitSource host subset binding relation
  | _ => fromDeterministicPolicy host subset binding relation

theorem bindTo_valid {host : Host} {subset : AffectedSubset} {binding : DependencyGraphBinding}
    {relation : SourceOwnedRelation} {sourceDigest : String} {p : TrustedEdgeProvenance}
    (h : bindTo host subset binding relation sourceDigest = .ok p) : p.Valid host := by
  simp only [bindTo, bind_eq_ok, demand_eq_ok, pure_eq_ok] at h
  obtain ⟨_, -, _, -, rfl⟩ := h
  rfl

theorem ofRelation_valid {host : Host} {subset : AffectedSubset} {binding : DependencyGraphBinding}
    {relation : SourceOwnedRelation} {p : TrustedEdgeProvenance} (h : ofRelation host subset binding relation = .ok p) :
    p.Valid host := by
  unfold ofRelation at h
  split at h
  · exact bindTo_valid h
  · exact bindTo_valid h

end TrustedEdgeProvenance

/-! ## Snapshots -/

/-- One canonical directed edge: subject depends on object. -/
structure GraphEdge where
  subjectMemberId : Token
  objectMemberId : Token
  kind : EdgeKind
  proposalId : Token
  provenanceDigest : Digest
  distinct : subjectMemberId ≠ objectMemberId
  verifiable : kind ≠ .semanticInferred

namespace GraphEdge

theorem eq_iff (a b : GraphEdge) :
    (a.subjectMemberId, a.objectMemberId, a.kind, a.proposalId, a.provenanceDigest) =
      (b.subjectMemberId, b.objectMemberId, b.kind, b.proposalId, b.provenanceDigest) ↔ a = b := by
  cases a
  cases b
  simp

instance : DecidableEq GraphEdge := fun a b => decidable_of_iff _ (eq_iff a b)

def pair (e : GraphEdge) : Token × Token := (e.subjectMemberId, e.objectMemberId)

def payload (e : GraphEdge) : Json :=
  .obj [("subject_member_id", .str e.subjectMemberId), ("object_member_id", .str e.objectMemberId),
    ("kind", .str e.kind.value), ("proposal_id", .str e.proposalId), ("provenance_digest", .digest e.provenanceDigest)]

/-- The sort key `(subject, object, kind)`. -/
def orderKey (e : GraphEdge) : List String := [e.subjectMemberId.val, e.objectMemberId.val, e.kind.value]

end GraphEdge

structure GraphMember where
  taskId : Token
  snapshotId : Token
  member : AffectedMember
deriving DecidableEq

namespace GraphMember

def memberId (m : GraphMember) : Token := m.member.memberId

def payload (m : GraphMember) : Json :=
  .obj (("task_id", .str m.taskId) :: ("snapshot_id", .str m.snapshotId) :: m.member.payload)

end GraphMember

/-- `_has_cycle` -/
def hasCycleEdges (edges : List GraphEdge) : Bool := hasCycle (edges.map (·.pair))

/-- A graph with its version and binding, or a graph not yet written. -/
structure GraphSnapshot where
  version : Option (Token × DependencyGraphBinding)
  members : List GraphMember
  edges : List GraphEdge
  proposalIds : List Token
  memberIds : (members.map (·.memberId)).Nodup
  proposals : proposalIds.Nodup
deriving DecidableEq

namespace GraphSnapshot

def graphVersionId (s : GraphSnapshot) : Option Token := s.version.map (·.1)

def binding (s : GraphSnapshot) : Option DependencyGraphBinding := s.version.map (·.2)

/-- `GraphSnapshot.__post_init__` -/
def new (version : Option (Token × DependencyGraphBinding)) (members : List GraphMember) (edges : List GraphEdge)
    (proposalIds : List Token) : Except Error GraphSnapshot :=
  if h : (members.map (·.memberId)).Nodup ∧ proposalIds.Nodup then .ok ⟨version, members, edges, proposalIds, h.1, h.2⟩
  else .error (.dependencyGraph "dependency graph snapshot is invalid")

theorem new_eq_ok {version : Option (Token × DependencyGraphBinding)} {members : List GraphMember}
    {edges : List GraphEdge} {proposalIds : List Token} {s : GraphSnapshot} :
    new version members edges proposalIds = .ok s ↔
      s.version = version ∧ s.members = members ∧ s.edges = edges ∧ s.proposalIds = proposalIds := by
  unfold new
  constructor
  · intro h
    split at h
    · cases h; exact ⟨rfl, rfl, rfl, rfl⟩
    · cases h
  · rintro ⟨rfl, rfl, rfl, rfl⟩
    rw [dif_pos ⟨s.memberIds, s.proposals⟩]

/-- `GraphSnapshot(None, None, (), (), ())` -/
def empty : GraphSnapshot := ⟨none, [], [], [], List.nodup_nil, List.nodup_nil⟩

/-- The graph under the version it was written as. -/
def sealedAs (s : GraphSnapshot) (version : Token) (binding : DependencyGraphBinding) : GraphSnapshot :=
  { s with version := some (version, binding) }

def graphDigest (host : Host) (s : GraphSnapshot) : Digest :=
  host.digestValue (.obj [
    ("members", .arr ((sortBy (·.memberId) s.members).map (·.payload))),
    ("edges", .arr ((sortBy (fun e => e.orderKey ++ [e.proposalId.val]) s.edges).map (·.payload)))])

def proposalSetDigest (host : Host) (s : GraphSnapshot) : Digest :=
  host.digestValue (.obj [("proposal_ids", .arr ((sortBy id s.proposalIds).map fun t => .str t.val))])

end GraphSnapshot

/-! ## Replacing one task's part -/

/-- The member ids a task holds in a snapshot. -/
def GraphSnapshot.idsOf (s : GraphSnapshot) (taskId : Token) : List Token :=
  (s.members.filter fun m => m.taskId = taskId).map (·.memberId)

/-- The equality of tokens under a name, so that the definitions below hold no proof of their own. -/
theorem lawfulBEq_token : LawfulBEq Token := inferInstance

attribute [local instance] lawfulBEq_token in
/-- `_replacement_baseline` -/
def replacementBaseline (active : GraphSnapshot) (subset : AffectedSubset) (binding : DependencyGraphBinding) :
    Except Error GraphSnapshot :=
  if active.binding ≠ some binding then .ok .empty
  else
    let replaced := active.idsOf subset.taskId
    let edges := active.edges.filter fun e => e.subjectMemberId ∉ replaced ∧ e.objectMemberId ∉ replaced
    GraphSnapshot.new none (active.members.filter fun m => m.memberId ∉ replaced) edges
      (sortBy id (edges.map (·.proposalId)).dedup)

/-- `_next_snapshot` -/
def nextSnapshot (active : GraphSnapshot) (subset : AffectedSubset) (edges : List GraphEdge) (proposalId : Token)
    (binding : DependencyGraphBinding) : Except Error GraphSnapshot := do
  let baseline ← replacementBaseline active subset binding
  let replaced := baseline.idsOf subset.taskId
  let members := baseline.members.filter (fun m => m.memberId ∉ replaced) ++
    subset.members.map fun m => ⟨subset.taskId, subset.snapshotId, m⟩
  GraphSnapshot.new none (sortBy (·.memberId) members) (sortBy (·.orderKey) (baseline.edges ++ edges))
    (sortBy id (baseline.proposalIds ++ [proposalId]))

/-! ## The validator -/

structure GraphValidation where
  decision : GraphDecision
  reasonCode : Reason
  edges : List GraphEdge

namespace GraphValidation

def rejected (reason : Reason) : GraphValidation := ⟨.rejected, reason, []⟩

def digest (host : Host) (v : GraphValidation) (proposal : DependencyProposal) (subset : AffectedSubset)
    (binding : DependencyGraphBinding) : Digest :=
  host.digestValue (.obj [("proposal_digest", .digest (proposal.proposalDigest host)),
    ("subset_digest", .digest (subset.contentDigest host)), ("validator_digest", .digest binding.validatorDigest),
    ("policy_digest", .digest binding.policyDigest), ("candidate_sha", .hex binding.candidateSha),
    ("configuration_digest", .digest binding.configurationDigest), ("decision", .str v.decision.value),
    ("reason_code", .str v.reasonCode), ("edges", .arr (v.edges.map (·.payload)))])

end GraphValidation

/-- `_decision_digest` -/
def decisionDigest (host : Host) (v : GraphValidation) (proposal : DependencyProposal) (subset : AffectedSubset)
    (binding : DependencyGraphBinding) (graphVersionId predecessor : Option Token) (graphDigest : Option Digest) : Digest :=
  host.digestValue (.obj [("validation", .digest (v.digest host proposal subset binding)),
    ("graph_version_id", .ofOption (graphVersionId.map (·.val))),
    ("predecessor_graph_version_id", .ofOption (predecessor.map (·.val))),
    ("graph_digest", .ofDigest graphDigest)])

namespace ProposedEdge

/-- The pair `(subject, object)` of an edge read as "subject depends on object". -/
def canonicalPair (e : ProposedEdge) : Token × Token :=
  match e.direction with
  | .dependsOn => (e.subjectMemberId, e.objectMemberId)
  | .blocks => (e.objectMemberId, e.subjectMemberId)

theorem canonicalPair_ne (e : ProposedEdge) : e.canonicalPair.1 ≠ e.canonicalPair.2 := by
  unfold canonicalPair
  cases e.direction with
  | dependsOn => exact e.distinct
  | blocks => exact e.distinct.symm

/-- The canonical edge under a kind that can be verified. -/
def canonical (e : ProposedEdge) (kind : EdgeKind) (hk : kind ≠ .semanticInferred) (proposalId : Token)
    (provenanceDigest : Digest) : GraphEdge :=
  ⟨e.canonicalPair.1, e.canonicalPair.2, kind, proposalId, provenanceDigest, e.canonicalPair_ne, hk⟩

end ProposedEdge

/-- `sha256:` and 64 zeros. -/
def zeroDigest : Digest := .sha256 ⟨⟨0, Nat.pow_pos (by decide)⟩⟩

theorem EdgeKind.explicit_ne : EdgeKind.explicit ≠ .semanticInferred := by decide

/-- The edge the structural checks use, before its provenance is looked at. -/
def structuralEdge (proposalId : Token) (e : ProposedEdge) : GraphEdge :=
  if hk : e.kind = .semanticInferred then e.canonical .explicit EdgeKind.explicit_ne proposalId zeroDigest
  else e.canonical e.kind hk proposalId zeroDigest

/-- `proofs.get(edge.trusted_relation_digest)`: the last provenance under a relation digest. -/
def proofFor (host : Host) (provenance : List TrustedEdgeProvenance) (digest : Digest) : Option TrustedEdgeProvenance :=
  provenance.reverse.find? fun p => p.relation.relationDigest host = digest

/-- The fingerprint of a member of the subset. -/
def memberFingerprint (subset : AffectedSubset) (memberId : Token) : Option Digest :=
  (subset.members.find? fun m => m.memberId = memberId).map (·.memberFingerprint)

/-- The provenance stands for exactly this edge, under this binding and these members. -/
def ProofMatches (subset : AffectedSubset) (binding : DependencyGraphBinding) (e : ProposedEdge)
    (p : TrustedEdgeProvenance) : Prop :=
  p.relation.kind = e.kind ∧ p.relation.direction = e.direction ∧ p.relation.subjectMemberId = e.subjectMemberId ∧
  p.relation.objectMemberId = e.objectMemberId ∧ p.relation.rationaleDigest = e.rationaleDigest ∧
  p.relation.confidence = e.confidence ∧ p.relation.conflictsDigest = e.conflictsDigest ∧
  p.candidateSha = binding.candidateSha ∧ p.policyDigest = binding.policyDigest ∧
  p.configurationDigest = binding.configurationDigest ∧
  p.sourceDigest = (if e.kind = .explicit then subset.sourceDigest.text else binding.policyDigest.text) ∧
  some p.subjectMemberFingerprint = memberFingerprint subset e.subjectMemberId ∧
  some p.objectMemberFingerprint = memberFingerprint subset e.objectMemberId

instance (subset : AffectedSubset) (binding : DependencyGraphBinding) (e : ProposedEdge) (p : TrustedEdgeProvenance) :
    Decidable (ProofMatches subset binding e p) := by unfold ProofMatches; infer_instance

/-- One pass of the provenance loop: the canonical edge, or the reason the proposal is rejected for. -/
def canonicalEdge (host : Host) (proposalId : Token) (subset : AffectedSubset) (binding : DependencyGraphBinding)
    (provenance : List TrustedEdgeProvenance) (e : ProposedEdge) : Except Reason GraphEdge :=
  if hk : e.kind = .semanticInferred then .error ⟨"edge-kind-not-verifiable", by decide⟩
  else
    match e.trustedRelationDigest with
    | none => .error ⟨"provenance-identity-unavailable", by decide⟩
    | some digest =>
      match proofFor host provenance digest with
      | none => .error ⟨"provenance-unavailable", by decide⟩
      | some proof =>
        if ProofMatches subset binding e proof then .ok (e.canonical e.kind hk proposalId proof.provenanceDigest)
        else .error ⟨"provenance-unavailable", by decide⟩

/-- Some pair is new twice, or new and already in the baseline. -/
def PairsConflict (pairs : List (Token × Token)) (prior : List GraphEdge) : Prop :=
  ¬ pairs.Nodup ∨ ∃ p ∈ pairs, p ∈ prior.map (·.pair)

instance (pairs : List (Token × Token)) (prior : List GraphEdge) : Decidable (PairsConflict pairs prior) :=
  inferInstanceAs (Decidable (_ ∨ _))

/-- The last part of the validator, over the canonical edges. -/
def validateCanonical (prior : GraphSnapshot) (canonical : List GraphEdge) : GraphValidation :=
  if PairsConflict (canonical.map (·.pair)) prior.edges then .rejected ⟨"duplicate-or-conflicting-edge", by decide⟩
  else if hasCycleEdges (prior.edges ++ canonical) then .rejected ⟨"cycle-detected", by decide⟩
  else ⟨.accepted, ⟨"graph-valid", by decide⟩, sortBy (·.orderKey) canonical⟩

/-- The validator over the part of the graph that stays. -/
def validateOver (host : Host) (proposal : DependencyProposal) (subset : AffectedSubset)
    (binding : DependencyGraphBinding) (prior : GraphSnapshot) (provenance : List TrustedEdgeProvenance) : GraphValidation :=
  let pairs := proposal.edges.map (·.canonicalPair)
  if PairsConflict pairs prior.edges then .rejected ⟨"duplicate-or-conflicting-edge", by decide⟩
  else if hasCycleEdges (prior.edges ++ proposal.edges.map (structuralEdge proposal.proposalId)) then
    .rejected ⟨"cycle-detected", by decide⟩
  else if proposal.requestedDisposition = .reject then .rejected ⟨"proposal-rejected", by decide⟩
  else if proposal.requestedDisposition = .ownerReview ∨ ∃ e ∈ proposal.edges, e.kind = .semanticInferred then
    ⟨.pendingOwner, ⟨"owner-decision-required", by decide⟩, []⟩
  else if proposal.requestedDisposition ≠ .autoActivate ∨ proposal.ownerRoute.val ≠ "not-required" then
    .rejected ⟨"invalid-disposition", by decide⟩
  else
    match proposal.edges.mapM (canonicalEdge host proposal.proposalId subset binding provenance) with
    | .error reason => .rejected reason
    | .ok canonical => validateCanonical prior canonical

/-- The members a proposal's edges mention. -/
def proposedMembers (proposal : DependencyProposal) : List Token :=
  proposal.edges.flatMap fun e => [e.subjectMemberId, e.objectMemberId]

/-- The proposal mentions exactly the members of the subset. -/
def CoversSubset (proposal : DependencyProposal) (subset : AffectedSubset) : Prop :=
  (∀ id ∈ proposedMembers proposal, id ∈ subset.members.map (·.memberId)) ∧
  (∀ id ∈ subset.members.map (·.memberId), id ∈ proposedMembers proposal)

instance (proposal : DependencyProposal) (subset : AffectedSubset) : Decidable (CoversSubset proposal subset) :=
  inferInstanceAs (Decidable (_ ∧ _))

/-- `DependencyGraphValidator.validate` -/
def validate (host : Host) (proposal : DependencyProposal) (subset : AffectedSubset) (binding : DependencyGraphBinding)
    (active : GraphSnapshot) (provenance : List TrustedEdgeProvenance) : Except Error GraphValidation := do
  binding.requireSubset subset
  -- Candidate movement starts a new aggregate.
  let active := if active.binding ≠ none ∧ active.binding ≠ some binding then .empty else active
  if CoversSubset proposal subset then do
    let prior ← replacementBaseline active subset binding
    return validateOver host proposal subset binding prior provenance
  else return .rejected ⟨"affected-subset-incomplete", by decide⟩

end Roundwright.Dependency
