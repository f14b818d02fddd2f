/-
The records of a dependency review: bindings, affected subsets, source-owned relations, proposed
edges and proposals, with the JSON payloads their digests seal. A record that exists is valid; the
constructors that validate are `AffectedSubset.new` and `DependencyProposal.new`, with the errors of
the source.
-/
import Roundwright.Identity
import Roundwright.Lib.Table
import Roundwright.Lib.Transaction

namespace Roundwright.Dependency

open Lib

/-! ## Enumerations -/

inductive EdgeKind where
  | explicit | policyDerived | semanticInferred
deriving DecidableEq

def EdgeKind.value : EdgeKind → String
  | .explicit => "explicit"
  | .policyDerived => "policy-derived"
  | .semanticInferred => "semantic-inferred"

inductive EdgeDirection where
  | dependsOn | blocks
deriving DecidableEq

def EdgeDirection.value : EdgeDirection → String
  | .dependsOn => "depends-on"
  | .blocks => "blocks"

inductive Confidence where
  | high | medium | low
deriving DecidableEq

def Confidence.value : Confidence → String
  | .high => "high"
  | .medium => "medium"
  | .low => "low"

inductive RequestedDisposition where
  | autoActivate | ownerReview | reject
deriving DecidableEq

def RequestedDisposition.value : RequestedDisposition → String
  | .autoActivate => "auto-activate"
  | .ownerReview => "owner-review"
  | .reject => "reject"

/-! ## Affected subsets -/

structure AffectedMember where
  memberId : Token
  memberFingerprint : Digest
  contentDigest : Digest
deriving DecidableEq

def AffectedMember.payload (m : AffectedMember) : List (String × Json) :=
  [("member_id", .str m.memberId), ("member_fingerprint", .digest m.memberFingerprint),
    ("content_digest", .digest m.contentDigest)]

/-- The columns of a subset apart from its members. -/
structure SubsetFields where
  snapshotId : Token
  taskId : Token
  sourceDigest : PlainDigest
  candidateSha : Sha
  policyDigest : Digest
  configurationDigest : Digest
  boundaryDigest : Digest
  creationReason : Reason
deriving DecidableEq

/-- One immutable boundary: members in order of their ids, no id or fingerprint twice. -/
structure AffectedSubset extends SubsetFields where
  members : List AffectedMember
  nonempty : members ≠ []
  sorted : members.Pairwise fun a b => a.memberId < b.memberId
  fingerprints : (members.map (·.memberFingerprint)).Nodup
deriving DecidableEq

namespace AffectedSubset

/-- `AffectedSubset.__post_init__` -/
def new (fields : SubsetFields) (members : List AffectedMember) : Except Error AffectedSubset :=
  if hne : members = [] then .error (.dependencyReview "affected subset is invalid")
  else if hd : (members.map (·.memberId)).Nodup ∧ (members.map (·.memberFingerprint)).Nodup then
    .ok { fields with
      members := sortBy (·.memberId) members
      nonempty := fun h => hne (List.perm_nil.1 (h ▸ (sortBy_perm (·.memberId) members).symm))
      sorted := sortBy_strict hd.1
      fingerprints := ((sortBy_perm _ members).map _).nodup_iff.2 hd.2 }
  else .error (.dependencyReview "affected subset members are ambiguous")

theorem memberIds_nodup (s : AffectedSubset) : (s.members.map (·.memberId)).Nodup :=
  List.pairwise_map.2 (s.sorted.imp fun h => ne_of_lt h)

def payload (s : AffectedSubset) : Json :=
  .obj [("schema", .str "roundwright-dependency-review-subset/v1"), ("snapshot_id", .str s.snapshotId),
    ("task_id", .str s.taskId), ("source_digest", .hex s.sourceDigest), ("candidate_sha", .hex s.candidateSha),
    ("policy_digest", .digest s.policyDigest), ("configuration_digest", .digest s.configurationDigest),
    ("boundary_digest", .digest s.boundaryDigest), ("creation_reason", .str s.creationReason),
    ("members", .arr (s.members.map fun m => .obj m.payload))]

def contentDigest (host : Host) (s : AffectedSubset) : Digest := host.digestValue s.payload

end AffectedSubset

/-- `DependencyReviewBinding` -/
structure DependencyReviewBinding where
  candidateSha : Sha
  policyDigest : Digest
  configurationDigest : Digest
  profileIdentity : Digest

def DependencyReviewBinding.requireSubset (b : DependencyReviewBinding) (s : AffectedSubset) : Except Error Unit :=
  refuse ((s.candidateSha, s.policyDigest, s.configurationDigest) ≠
    (b.candidateSha, b.policyDigest, b.configurationDigest)) (.dependencyReview "dependency review binding has drifted")

/-! ## Relations and edges -/

/-- A source or policy fact selected before the dependency model is called. -/
structure SourceOwnedRelation where
  kind : EdgeKind
  direction : EdgeDirection
  subjectMemberId : Token
  objectMemberId : Token
  rationaleDigest : Digest
  confidence : Confidence
  conflictsDigest : Digest
  owned : kind ≠ .semanticInferred
  distinct : subjectMemberId ≠ objectMemberId
deriving DecidableEq

namespace SourceOwnedRelation

def payload (r : SourceOwnedRelation) : List (String × Json) :=
  [("kind", .str r.kind.value), ("direction", .str r.direction.value), ("subject_member_id", .str r.subjectMemberId),
    ("object_member_id", .str r.objectMemberId), ("rationale_digest", .digest r.rationaleDigest),
    ("confidence", .str r.confidence.value), ("conflicts_digest", .digest r.conflictsDigest)]

def relationDigest (host : Host) (r : SourceOwnedRelation) : Digest :=
  host.digestValue (.obj (("schema", .str "roundwright-source-owned-relation/v1") :: r.payload))

end SourceOwnedRelation

structure ProposedEdge where
  kind : EdgeKind
  direction : EdgeDirection
  subjectMemberId : Token
  objectMemberId : Token
  rationaleDigest : Digest
  confidence : Confidence
  conflictsDigest : Digest
  trustedRelationDigest : Option Digest
  distinct : subjectMemberId ≠ objectMemberId
  semantic : kind = .semanticInferred → trustedRelationDigest = none
deriving DecidableEq

namespace ProposedEdge

def payload (e : ProposedEdge) : Json :=
  .obj [("kind", .str e.kind.value), ("direction", .str e.direction.value),
    ("subject_member_id", .str e.subjectMemberId), ("object_member_id", .str e.objectMemberId),
      ("rationale_digest", .digest e.rationaleDigest),
    ("confidence", .str e.confidence.value), ("conflicts_digest", .digest e.conflictsDigest),
    ("trusted_relation_digest", .ofDigest e.trustedRelationDigest)]

/-- The key under which a proposal lists an edge at most once. -/
def key (e : ProposedEdge) : EdgeKind × EdgeDirection × Token × Token :=
  (e.kind, e.direction, e.subjectMemberId, e.objectMemberId)

end ProposedEdge

/-! ## Proposals -/

/-- The columns of a proposal apart from its edges. -/
structure ProposalFields where
  proposalId : Token
  attemptId : Token
  requestedDisposition : RequestedDisposition
  ownerRoute : Reason
deriving DecidableEq

/-- A semantic edge sends the proposal to its owner, and an owner review names the owner route. -/
def ProposalFields.RoutedFor (f : ProposalFields) (edges : List ProposedEdge) : Prop :=
  ((∃ e ∈ edges, e.kind = .semanticInferred) → f.requestedDisposition = .ownerReview) ∧
  (f.requestedDisposition = .ownerReview → f.ownerRoute.val = "owner-review")

structure DependencyProposal extends ProposalFields where
  edges : List ProposedEdge
  nonempty : edges ≠ []
  distinct : (edges.map (·.key)).Nodup
  routed : toProposalFields.RoutedFor edges
deriving DecidableEq

namespace DependencyProposal

/-- The routing checks of `DependencyProposal.__post_init__`. -/
def routing (f : ProposalFields) (edges : List ProposedEdge) : Except Error Unit :=
  if ∃ e ∈ edges, e.kind = .semanticInferred then
    refuse (f.requestedDisposition ≠ .ownerReview ∨ f.ownerRoute.val ≠ "owner-review")
      (.dependencyReview "semantic inferred edge requires owner routing")
  else
    refuse (f.requestedDisposition = .ownerReview ∧ f.ownerRoute.val ≠ "owner-review")
      (.dependencyReview "owner review proposal has no owner route")

theorem routing_ok {f : ProposalFields} {edges : List ProposedEdge} {u : Unit} :
    routing f edges = .ok u ↔ f.RoutedFor edges := by
  unfold routing ProposalFields.RoutedFor
  split
  · rename_i hs
    simp only [refuse_eq_ok, not_or, not_not]
    exact ⟨fun h => ⟨fun _ => h.1, fun _ => h.2⟩, fun h => ⟨h.1 hs, h.2 (h.1 hs)⟩⟩
  · rename_i hs
    simp only [refuse_eq_ok, not_and, not_not]
    exact ⟨fun h => ⟨fun hs' => absurd hs' hs, h⟩, fun h => h.2⟩

/-- `DependencyProposal.__post_init__` -/
def new (f : ProposalFields) (edges : List ProposedEdge) : Except Error DependencyProposal :=
  if hne : edges = [] then .error (.dependencyReview "dependency proposal is invalid")
  else if hd : (edges.map (·.key)).Nodup then
    match hr : routing f edges with
    | .ok _ => .ok { f with edges, nonempty := hne, distinct := hd, routed := routing_ok.1 hr }
    | .error e => .error e
  else .error (.dependencyReview "dependency proposal contains duplicate edges")

theorem new_eq_ok {f : ProposalFields} {edges : List ProposedEdge} {p : DependencyProposal} :
    new f edges = .ok p ↔ p.toProposalFields = f ∧ p.edges = edges := by
  constructor
  · intro h
    unfold new at h
    split at h
    · cases h
    · split at h
      · split at h
        · cases h; exact ⟨rfl, rfl⟩
        · cases h
      · cases h
  · rintro ⟨rfl, rfl⟩
    unfold new
    rw [dif_neg p.nonempty, dif_pos p.distinct]
    split
    · congr 1
    · rename_i e he
      have hok : routing p.toProposalFields p.edges = .ok () := routing_ok.2 p.routed
      rw [hok] at he
      cases he

def payload (p : DependencyProposal) : Json :=
  .obj [("schema", .str "roundwright-dependency-review-proposal/v2"), ("proposal_id", .str p.proposalId),
    ("attempt_id", .str p.attemptId), ("requested_disposition", .str p.requestedDisposition.value),
    ("owner_route", .str p.ownerRoute), ("edges", .arr (p.edges.map (·.payload)))]

def proposalDigest (host : Host) (p : DependencyProposal) : Digest := host.digestValue p.payload

end DependencyProposal

/-! ## The model's input -/

/-- `DependencyReviewStore.model_input` -/
def modelInput (host : Host) (s : AffectedSubset) (attemptId : Token) (profileIdentity : Digest)
    (relations : List SourceOwnedRelation) : Json :=
  .obj [("schema", .str "roundwright-dependency-review-input/v2"), ("attempt_id", .str attemptId),
    ("profile_identity", .digest profileIdentity), ("subset_digest", .digest (s.contentDigest host)), ("task_id", .str s.taskId),
    ("source_digest", .hex s.sourceDigest), ("candidate_sha", .hex s.candidateSha), ("policy_digest", .digest s.policyDigest),
    ("configuration_digest", .digest s.configurationDigest), ("boundary_digest", .digest s.boundaryDigest),
    ("members", .arr (s.members.map fun m => .obj m.payload)),
    ("trusted_relations", .arr ((sortBy (·.relationDigest host) relations).map fun r =>
      .obj (("trusted_relation_digest", .digest (r.relationDigest host)) :: r.payload)))]

/-- `pre_dispatch_failure_identity` for the dependency-review role. -/
def preDispatchFailureIdentity (host : Host) (attemptId : Token) : String :=
  let material := "roundwright-pre-dispatch-failure/v1\x00dependency-review\x00" ++ attemptId.val
  "pre-dispatch-dependency-review-" ++ String.ofList ((host.hexdigest material).text.toList.take 32)

end Roundwright.Dependency
