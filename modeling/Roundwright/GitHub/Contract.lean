/-
The typed GitHub boundary: read requests and their results, mutation intents, and the digests by which
they are named.

References, tokens and commits are texts that the constructors have matched against their patterns, on
which nothing here depends. The fields and the payload of an intent are fixed by its operation, so an
intent is its operation with exactly the fields `_validate_mutation_payload` asks for.
-/
import Roundwright.Identity

namespace Roundwright.GitHub

/-! ## Operations -/

inductive GitHubReadOperation where
  | repository
  | repositoryInventory
  | issue
  | issueRelationships
  | comments
  | branch
  | pullRequest
  | reviews
  | requestedReviewers
  | checks
  | workflowRuns
  | mergeability
  | closingReferences
  | remoteHead
deriving DecidableEq

def GitHubReadOperation.value : GitHubReadOperation → String
  | .repository => "repository"
  | .repositoryInventory => "repository-inventory"
  | .issue => "issue"
  | .issueRelationships => "issue-relationships"
  | .comments => "comments"
  | .branch => "branch"
  | .pullRequest => "pull-request"
  | .reviews => "reviews"
  | .requestedReviewers => "requested-reviewers"
  | .checks => "checks"
  | .workflowRuns => "workflow-runs"
  | .mergeability => "mergeability"
  | .closingReferences => "closing-references"
  | .remoteHead => "remote-head"

inductive GitHubMutationOperation where
  | createBranch
  | updateBranch
  | createPullRequest
  | comment
  | requestReview
  | markReady
  | mergePullRequest
  | closeIssue
  | deleteBranch
deriving DecidableEq

def GitHubMutationOperation.value : GitHubMutationOperation → String
  | .createBranch => "create-branch"
  | .updateBranch => "update-branch"
  | .createPullRequest => "create-pull-request"
  | .comment => "comment"
  | .requestReview => "request-review"
  | .markReady => "mark-ready"
  | .mergePullRequest => "merge-pull-request"
  | .closeIssue => "close-issue"
  | .deleteBranch => "delete-branch"

/-- The operations whose effect gets an identity from the provider. -/
def GitHubMutationOperation.allocates : GitHubMutationOperation → Bool
  | .createPullRequest | .comment => true
  | _ => false

inductive GitHubOperation where
  | read (operation : GitHubReadOperation)
  | mutation (operation : GitHubMutationOperation)
deriving DecidableEq

def GitHubOperation.value : GitHubOperation → String
  | .read operation => operation.value
  | .mutation operation => operation.value

inductive GitHubFailureKind where
  | unavailable
  | permissionDenied
  | authenticationFailed
  | transportFailed
  | malformedResponse
  | staleResponse
  | policyDenied
deriving DecidableEq

structure GitHubFailure where
  kind : GitHubFailureKind
  operation : GitHubOperation
  publicReason : String

/-! ## Reads -/

structure RepositoryRef where
  owner : String
  name : String
deriving DecidableEq

def RepositoryRef.slug (r : RepositoryRef) : String := r.owner ++ "/" ++ r.name

structure GitHubReadRequest where
  operation : GitHubReadOperation
  repository : RepositoryRef
  number : Option Nat
  ref : Option String
  expectedSha : Option String
deriving DecidableEq

/-- An optional number: the number, or `null`. -/
def jsonOfNat : Option Nat → Json
  | some n => .num n
  | none => .null

def GitHubReadRequest.identity (host : Host) (r : GitHubReadRequest) : Digest :=
  host.digestValue (.arr [.str r.operation.value, .str r.repository.owner, .str r.repository.name, jsonOfNat r.number,
    .ofOption r.ref, .ofOption r.expectedSha])

inductive IssueState where
  | open
  | closed
deriving DecidableEq

inductive PullRequestState where
  | open
  | closed
  | merged
deriving DecidableEq

def IssueState.value : IssueState → String
  | .open => "OPEN"
  | .closed => "CLOSED"

def PullRequestState.value : PullRequestState → String
  | .open => "OPEN"
  | .closed => "CLOSED"
  | .merged => "MERGED"

structure RepositorySnapshot where
  repositoryId : String
  repository : RepositoryRef
  defaultBranch : String
  defaultBranchSha : String
  repositoryEvidenceIdentity : Digest
  defaultBranchEvidenceIdentity : Digest

structure IssueSnapshot where
  repository : RepositoryRef
  issueId : String
  number : Nat
  state : IssueState
  issueEvidenceIdentity : Digest
  relationshipEvidenceIdentity : Digest
  parentNumber : Option Nat
  subIssueNumbers : List Nat

structure CommentSnapshot where
  commentId : String
  authorId : String
  bodyDigest : Digest
  createdAt : String

structure CommentsSnapshot where
  repository : RepositoryRef
  issueNumber : Nat
  targetKind : String
  comments : List CommentSnapshot

structure BranchSnapshot where
  repository : RepositoryRef
  name : String
  sha : String

structure PullRequestSnapshot where
  repository : RepositoryRef
  baseRepository : RepositoryRef
  headRepository : RepositoryRef
  pullRequestId : String
  number : Nat
  state : PullRequestState
  baseRef : String
  baseSha : String
  headRef : String
  headSha : String
  draft : Bool
  mergeCommitSha : Option String

inductive ReviewState where
  | approved
  | changesRequested
  | commented
  | dismissed
  | pending

def ReviewState.value : ReviewState → String
  | .approved => "APPROVED"
  | .changesRequested => "CHANGES_REQUESTED"
  | .commented => "COMMENTED"
  | .dismissed => "DISMISSED"
  | .pending => "PENDING"

structure ReviewSnapshot where
  reviewId : String
  reviewerId : String
  state : ReviewState
  commitSha : String

structure ReviewsSnapshot where
  repository : RepositoryRef
  pullRequestNumber : Nat
  headSha : String
  reviews : List ReviewSnapshot

structure RequestedReviewersSnapshot where
  repository : RepositoryRef
  pullRequestNumber : Nat
  candidateSha : String
  reviewers : List String
  reviewerSetDigest : Digest
  complete : Bool
  nextCursor : Option String
  rawEvidenceIdentity : Digest

structure RemoteHeadSnapshot where
  repository : RepositoryRef
  ref : String
  sha : String

/-- A snapshot. The kinds that no mutation reads are kept as the operation they answer and the digest of
their payload. -/
inductive GitHubSnapshot where
  | repository (snapshot : RepositorySnapshot)
  | issue (snapshot : IssueSnapshot)
  | comments (snapshot : CommentsSnapshot)
  | branch (snapshot : BranchSnapshot)
  | pullRequest (snapshot : PullRequestSnapshot)
  | reviews (snapshot : ReviewsSnapshot)
  | requestedReviewers (snapshot : RequestedReviewersSnapshot)
  | remoteHead (snapshot : RemoteHeadSnapshot)
  | other (operation : GitHubReadOperation) (payloadDigest : Digest)

/-- One field of a snapshot payload. -/
def payloadField (name : String) (value : Json) : Json := .arr [.str name, value]

def RepositoryRef.payload (r : RepositoryRef) : Json :=
  .arr [.str "RepositoryRef", .arr [payloadField "owner" (.str r.owner), payloadField "name" (.str r.name)]]

def CommentSnapshot.payload (c : CommentSnapshot) : Json :=
  .arr [.str "CommentSnapshot", .arr
    [payloadField "comment_id" (.str c.commentId), payloadField "author_id" (.str c.authorId),
      payloadField "body_digest" (.digest c.bodyDigest), payloadField "created_at" (.str c.createdAt)]]

def ReviewSnapshot.payload (r : ReviewSnapshot) : Json :=
  .arr [.str "ReviewSnapshot", .arr
    [payloadField "review_id" (.str r.reviewId), payloadField "reviewer_id" (.str r.reviewerId), payloadField "state"
      (.str r.state.value), payloadField "commit_sha" (.str r.commitSha)]]

/-- `_snapshot_payload` -/
def GitHubSnapshot.payload : GitHubSnapshot → Json
  | .repository s => .arr [.str "RepositorySnapshot", .arr [payloadField "repository_id" (.str s.repositoryId),
      payloadField "repository" s.repository.payload, payloadField "default_branch" (.str s.defaultBranch),
      payloadField "default_branch_sha" (.str s.defaultBranchSha),
      payloadField "repository_evidence_identity" (.digest s.repositoryEvidenceIdentity),
      payloadField "default_branch_evidence_identity" (.digest s.defaultBranchEvidenceIdentity)]]
  | .issue s => .arr [.str "IssueSnapshot", .arr [payloadField "repository" s.repository.payload,
      payloadField "issue_id" (.str s.issueId), payloadField "number" (.num s.number), payloadField "state" (.str s.state.value),
      payloadField "issue_evidence_identity" (.digest s.issueEvidenceIdentity),
      payloadField "relationship_evidence_identity" (.digest s.relationshipEvidenceIdentity),
      payloadField "parent_number" (jsonOfNat s.parentNumber),
      payloadField "sub_issue_numbers" (.arr (s.subIssueNumbers.map fun n => .num n))]]
  | .comments s => .arr [.str "CommentsSnapshot", .arr [payloadField "repository" s.repository.payload,
      payloadField "issue_number" (.num s.issueNumber), payloadField "target_kind" (.str s.targetKind),
      payloadField "comments" (.arr (s.comments.map CommentSnapshot.payload))]]
  | .branch s => .arr [.str "BranchSnapshot", .arr [payloadField "repository" s.repository.payload,
      payloadField "name" (.str s.name), payloadField "sha" (.str s.sha)]]
  | .pullRequest s => .arr [.str "PullRequestSnapshot", .arr [payloadField "repository" s.repository.payload,
      payloadField "base_repository" s.baseRepository.payload, payloadField "head_repository" s.headRepository.payload,
      payloadField "pull_request_id" (.str s.pullRequestId), payloadField "number" (.num s.number),
      payloadField "state" (.str s.state.value), payloadField "base_ref" (.str s.baseRef),
      payloadField "base_sha" (.str s.baseSha), payloadField "head_ref" (.str s.headRef),
      payloadField "head_sha" (.str s.headSha), payloadField "draft" (.bool s.draft),
      payloadField "merge_commit_sha" (.ofOption s.mergeCommitSha)]]
  | .reviews s => .arr [.str "ReviewsSnapshot", .arr [payloadField "repository" s.repository.payload,
      payloadField "pull_request_number" (.num s.pullRequestNumber), payloadField "head_sha" (.str s.headSha),
      payloadField "reviews" (.arr (s.reviews.map ReviewSnapshot.payload))]]
  | .requestedReviewers s => .arr
      [.str "RequestedReviewersSnapshot",
        .arr [payloadField "repository" s.repository.payload, payloadField "pull_request_number"
          (.num s.pullRequestNumber), payloadField "candidate_sha" (.str s.candidateSha),
      payloadField "reviewers" (.arr (s.reviewers.map .str)), payloadField "reviewer_set_digest" (.digest s.reviewerSetDigest),
      payloadField "complete" (.bool s.complete), payloadField "next_cursor" (.ofOption s.nextCursor),
      payloadField "raw_evidence_identity" (.digest s.rawEvidenceIdentity)]]
  | .remoteHead s => .arr [.str "RemoteHeadSnapshot", .arr [payloadField "repository" s.repository.payload,
      payloadField "ref" (.str s.ref), payloadField "sha" (.str s.sha)]]
  | .other operation payloadDigest => .arr [.str operation.value, .digest payloadDigest]

/-- A read result holds a snapshot or a failure. -/
structure GitHubReadResult where
  request : GitHubReadRequest
  outcome : Except GitHubFailure GitHubSnapshot

namespace GitHubReadResult

def ok (r : GitHubReadResult) : Bool := r.outcome.isOk

def snapshot (r : GitHubReadResult) : Option GitHubSnapshot := r.outcome.toOption

def failure : GitHubReadResult → Option GitHubFailure
  | ⟨_, .error f⟩ => some f
  | ⟨_, .ok _⟩ => none

/-- The digest of the snapshot; a failure has none. -/
def snapshotDigest (host : Host) (r : GitHubReadResult) : Option Digest :=
  r.snapshot.map fun s => host.digestValue s.payload

/-- A failed read of the request. -/
def failed (request : GitHubReadRequest) (kind : GitHubFailureKind) (reason : String) : GitHubReadResult :=
  ⟨request, .error ⟨kind, .read request.operation, reason⟩⟩

end GitHubReadResult

/-! ## Mutations -/

inductive MutationDisposition where
  | accepted
  | alreadyApplied
  | rejected
deriving DecidableEq

inductive MergeMethod where
  | merge
  | squash
  | rebase
deriving DecidableEq

inductive CloseReason where
  | completed
  | notPlanned
deriving DecidableEq

def MergeMethod.value : MergeMethod → String
  | .merge => "merge"
  | .squash => "squash"
  | .rebase => "rebase"

def CloseReason.value : CloseReason → String
  | .completed => "COMPLETED"
  | .notPlanned => "NOT_PLANNED"

structure PullRequestPayload where
  baseRef : String
  baseSha : String
  bodyDigest : Digest
  headRef : String
  headSha : String
  titleDigest : Digest

/-- An operation with the fields its payload check requires. -/
inductive Mutation where
  | createBranch (targetRef expectedSha : String)
  | updateBranch (targetRef expectedSha previousSha : String)
  | createPullRequest (targetNumber : Nat) (payload : PullRequestPayload)
  | comment (targetNumber : Nat) (bodyDigest : Digest)
  | requestReview (targetNumber : Nat) (expectedSha : String) (reviewersDigest : Digest)
  | markReady (targetNumber : Nat) (expectedSha : String)
  | mergePullRequest (targetNumber : Nat) (expectedSha : String) (method : MergeMethod)
  | closeIssue (targetNumber : Nat) (reason : CloseReason)
  | deleteBranch (targetRef expectedSha : String)

structure GitHubMutationIntent where
  repository : RepositoryRef
  idempotencyKey : String
  mutation : Mutation

namespace GitHubMutationIntent

variable (intent : GitHubMutationIntent)

def operation : GitHubMutationOperation :=
  match intent.mutation with
  | .createBranch .. => .createBranch
  | .updateBranch .. => .updateBranch
  | .createPullRequest .. => .createPullRequest
  | .comment .. => .comment
  | .requestReview .. => .requestReview
  | .markReady .. => .markReady
  | .mergePullRequest .. => .mergePullRequest
  | .closeIssue .. => .closeIssue
  | .deleteBranch .. => .deleteBranch

def targetNumber : Option Nat :=
  match intent.mutation with
  | .createPullRequest n _ | .comment n _ | .requestReview n _ _ | .markReady n _ | .mergePullRequest n _ _
  | .closeIssue n _ => some n
  | .createBranch .. | .updateBranch .. | .deleteBranch .. => none

def expectedSha : Option String :=
  match intent.mutation with
  | .createBranch _ sha | .updateBranch _ sha _ | .requestReview _ sha _ | .markReady _ sha | .mergePullRequest _ sha _
  | .deleteBranch _ sha => some sha
  | .createPullRequest .. | .comment .. | .closeIssue .. => none

def targetRef : Option String :=
  match intent.mutation with
  | .createBranch ref _ | .updateBranch ref _ _ | .deleteBranch ref _ => some ref
  | _ => none

/-- The payload, in the order of its field names. -/
def payload : List (String × Json) :=
  match intent.mutation with
  | .updateBranch _ _ previousSha => [("previous_sha", .str previousSha)]
  | .createPullRequest _ p => [("base_ref", .str p.baseRef), ("base_sha", .str p.baseSha),
      ("body_digest", .digest p.bodyDigest), ("head_ref", .str p.headRef), ("head_sha", .str p.headSha),
        ("title_digest", .digest p.titleDigest)]
  | .comment _ bodyDigest => [("body_digest", .digest bodyDigest)]
  | .requestReview _ _ reviewersDigest => [("reviewers_digest", .digest reviewersDigest)]
  | .mergePullRequest _ _ method => [("method", .str method.value)]
  | .closeIssue _ reason => [("reason", .str reason.value)]
  | .createBranch .. | .markReady .. | .deleteBranch .. => []

/-- `dict(intent.payload).get("body_digest")` -/
def bodyDigest : Option Digest :=
  match intent.mutation with
  | .createPullRequest _ p => some p.bodyDigest
  | .comment _ digest => some digest
  | _ => none

/-- `dict(intent.payload).get("reviewers_digest")` -/
def reviewersDigest : Option Digest :=
  match intent.mutation with
  | .requestReview _ _ digest => some digest
  | _ => none

/-- The references and commits in the payload of a pull request. -/
def pullRequestPayload : Option PullRequestPayload :=
  match intent.mutation with
  | .createPullRequest _ p => some p
  | _ => none

def payloadJson : Json := .arr (intent.payload.map fun p => .arr [.str p.1, p.2])

def identityJson : Json :=
  .arr [.str intent.operation.value, .str intent.repository.owner, .str intent.repository.name,
    .str intent.idempotencyKey, jsonOfNat intent.targetNumber, .ofOption intent.expectedSha, .ofOption intent.targetRef,
      intent.payloadJson]

def identity (host : Host) : Digest := host.digestValue intent.identityJson

end GitHubMutationIntent

theorem MergeMethod.value_injective : Function.Injective MergeMethod.value := by
  intro a b h
  revert h
  cases a <;> cases b <;> decide

theorem CloseReason.value_injective : Function.Injective CloseReason.value := by
  intro a b h
  revert h
  cases a <;> cases b <;> decide

open GitHubMutationIntent in
/-- The text that is digested determines the intent. -/
theorem GitHubMutationIntent.identityJson_injective : Function.Injective identityJson := by
  rintro ⟨⟨owner, name⟩, key, m⟩ ⟨⟨owner', name'⟩, key', m'⟩ h
  simp only [identityJson, Json.arr.injEq, List.cons.injEq, Json.str.injEq] at h
  obtain ⟨hop, rfl, rfl, rfl, hnumber, hsha, href, hpayload, -⟩ := h
  -- the first text names the operation, the rest its fields
  cases m <;> cases m' <;> simp [operation, GitHubMutationOperation.value] at hop <;>
    simp [targetNumber, jsonOfNat, Json.ofOption, expectedSha, targetRef, payloadJson, payload,
      MergeMethod.value_injective.eq_iff, CloseReason.value_injective.eq_iff] at hnumber hsha href hpayload ⊢ <;>
    grind [cases PullRequestPayload]

end Roundwright.GitHub
