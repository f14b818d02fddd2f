/-
What a mutation means: the command, the reads before it and the read-back after it, when a read result
shows the effect, and the identities a receipt takes from that result.
-/
import Roundwright.GitHub.Contract
import Roundwright.Lib.Transaction

namespace Roundwright.GitHub

open Lib

inductive SemanticPostcondition where
  | commentPresent
  | branchAtExpectedSha
  | branchAbsent
  | pullRequestDraft
  | pullRequestDraftAtCandidate
  | pullRequestReady
  | pullRequestMerged
  | reviewAtCandidate
  | reviewersExactAtCandidate
  | issueClosed
  | remoteHeadAtExpectedSha
deriving DecidableEq

def SemanticPostcondition.value : SemanticPostcondition → String
  | .commentPresent => "comment-present"
  | .branchAtExpectedSha => "branch-at-expected-sha"
  | .branchAbsent => "branch-absent"
  | .pullRequestDraft => "pull-request-draft"
  | .pullRequestDraftAtCandidate => "pull-request-draft-at-candidate"
  | .pullRequestReady => "pull-request-ready"
  | .pullRequestMerged => "pull-request-merged"
  | .reviewAtCandidate => "review-at-candidate"
  | .reviewersExactAtCandidate => "reviewers-exact-at-candidate"
  | .issueClosed => "issue-closed"
  | .remoteHeadAtExpectedSha => "remote-head-at-expected-sha"

structure SemanticReadback where
  request : GitHubReadRequest
  condition : SemanticPostcondition

def SemanticReadback.identity (host : Host) (r : SemanticReadback) : Digest :=
  host.digestValue (.arr [.digest (r.request.identity host), .str r.condition.value])

/-- The outbound command, one for each mutation operation and of its name. -/
structure BrokerMutationCommand where
  operation : GitHubMutationOperation
deriving DecidableEq

def BrokerMutationCommand.value (c : BrokerMutationCommand) : String := c.operation.value

structure BrokerSemanticPlan where
  operation : GitHubMutationOperation
  command : BrokerMutationCommand
  targetIdentity : Digest
  idempotencyIdentity : Digest
  intentIdentity : Digest
  preState : GitHubReadRequest
  readback : SemanticReadback
  preDispatchReads : List GitHubReadRequest

namespace BrokerSemanticPlan

variable (host : Host) (plan : BrokerSemanticPlan)

def identity : Digest :=
  host.digestValue (.arr [.str plan.operation.value, .str plan.command.value, .digest plan.targetIdentity,
    .digest plan.idempotencyIdentity, .digest plan.intentIdentity, .digest (plan.preState.identity host),
    .digest (plan.readback.identity host), .arr (plan.preDispatchReads.map fun r => .digest (r.identity host))])

/-- `_pre_dispatch_reads_identity` -/
def preDispatchReadsIdentity : Digest :=
  host.digestValue (.arr [.str "pre-dispatch-reads", .arr (plan.preDispatchReads.map fun r => .digest (r.identity host))])

end BrokerSemanticPlan

/-! ## The plan of an intent -/

/-- The reads before the command and the read-back after it. -/
def planReads (intent : GitHubMutationIntent) : GitHubReadRequest × List GitHubReadRequest × SemanticReadback :=
  let repository := intent.repository
  match intent.mutation with
  | .createBranch ref sha =>
    let before : GitHubReadRequest := ⟨.repository, repository, none, none, none⟩
    (before, [before], ⟨⟨.branch, repository, none, some ref, some sha⟩, .branchAtExpectedSha⟩)
  | .updateBranch ref sha previousSha =>
    let before : GitHubReadRequest := ⟨.branch, repository, none, some ref, some previousSha⟩
    (before, [before], ⟨⟨.branch, repository, none, some ref, some sha⟩, .branchAtExpectedSha⟩)
  | .deleteBranch ref sha =>
    let before : GitHubReadRequest := ⟨.branch, repository, none, some ref, some sha⟩
    (before, [before], ⟨⟨.remoteHead, repository, none, some ref, some sha⟩, .branchAbsent⟩)
  | .createPullRequest number p =>
    let base : GitHubReadRequest := ⟨.branch, repository, none, some p.baseRef, some p.baseSha⟩
    let head : GitHubReadRequest := ⟨.branch, repository, none, some p.headRef, some p.headSha⟩
    (base, [base, head], ⟨⟨.pullRequest, repository, some number, none, some p.headSha⟩, .pullRequestDraftAtCandidate⟩)
  | .comment number _ =>
    let before : GitHubReadRequest := ⟨.comments, repository, some number, none, none⟩
    (before, [before], ⟨before, .commentPresent⟩)
  | .requestReview number sha _ =>
    let before : GitHubReadRequest := ⟨.requestedReviewers, repository, some number, none, some sha⟩
    (before, [before], ⟨before, .reviewersExactAtCandidate⟩)
  | .markReady number sha =>
    let before : GitHubReadRequest := ⟨.pullRequest, repository, some number, none, some sha⟩
    (before, [before], ⟨before, .pullRequestReady⟩)
  | .mergePullRequest number sha _ =>
    let before : GitHubReadRequest := ⟨.pullRequest, repository, some number, none, some sha⟩
    (before, [before], ⟨before, .pullRequestMerged⟩)
  | .closeIssue number _ =>
    let before : GitHubReadRequest := ⟨.issue, repository, some number, none, none⟩
    (before, [before], ⟨before, .issueClosed⟩)

/-- `_broker_semantic_plan` -/
def brokerSemanticPlan (host : Host) (intent : GitHubMutationIntent) : BrokerSemanticPlan where
  operation := intent.operation
  command := ⟨intent.operation⟩
  targetIdentity := host.digestValue (.arr [.str intent.repository.slug, jsonOfNat intent.targetNumber,
    .ofOption intent.targetRef, .ofOption intent.expectedSha])
  idempotencyIdentity := host.digestValue (.arr [.str "idempotency", .str intent.idempotencyKey])
  intentIdentity := intent.identity host
  preState := (planReads intent).1
  readback := (planReads intent).2.2
  preDispatchReads := (planReads intent).2.1

/-! ## Allocated resources -/

/-- The identity an identity-creating mutation was given. A pull request is always a draft. -/
inductive CreatedResourceLocator where
  | pullRequest (repository : RepositoryRef) (number : Nat) (pullRequestId baseSha headSha : String) (markerDigest : Digest)
  | comment (repository : RepositoryRef) (issueNumber : Nat) (commentId : String) (markerDigest : Digest)
deriving DecidableEq

namespace CreatedResourceLocator

def operation : CreatedResourceLocator → GitHubMutationOperation
  | .pullRequest .. => .createPullRequest
  | .comment .. => .comment

def repository : CreatedResourceLocator → RepositoryRef
  | .pullRequest repository .. => repository
  | .comment repository .. => repository

def identity (host : Host) : CreatedResourceLocator → Digest
  | .pullRequest repository number pullRequestId baseSha headSha markerDigest =>
    host.digestValue (.obj [("operation", .str "create-pull-request"), ("repository", .str repository.slug),
      ("pull_request_number", .num number), ("pull_request_id", .str pullRequestId), ("issue_number", .null),
      ("comment_id", .null), ("base_sha", .str baseSha), ("head_sha", .str headSha), ("draft", .bool true),
      ("marker_digest", .digest markerDigest)])
  | .comment repository issueNumber commentId markerDigest =>
    host.digestValue (.obj [("operation", .str "comment"), ("repository", .str repository.slug),
      ("pull_request_number", .null), ("pull_request_id", .null), ("issue_number", .num issueNumber),
      ("comment_id", .str commentId), ("base_sha", .null), ("head_sha", .null), ("draft", .null),
      ("marker_digest", .digest markerDigest)])

end CreatedResourceLocator

/-- `_created_pull_request_locator_matches_intent` and `_created_comment_locator_matches_intent`, on the
plan of the intent. -/
def locatorMatchesIntent (intent : GitHubMutationIntent) : CreatedResourceLocator → Bool
  | .pullRequest repository _ _ baseSha headSha markerDigest =>
    match intent.pullRequestPayload with
    | some p => repository = intent.repository ∧ baseSha = p.baseSha ∧ headSha = p.headSha ∧ markerDigest = p.bodyDigest
    | none => false
  | .comment repository issueNumber _ markerDigest =>
    intent.operation = .comment ∧ repository = intent.repository ∧ some issueNumber = intent.targetNumber ∧
      some markerDigest = intent.bodyDigest

/-- `_post_readback_for_locator` -/
def postReadbackForLocator (host : Host) (intent : GitHubMutationIntent) (locator : Option CreatedResourceLocator) :
    Option SemanticReadback :=
  match intent.operation, locator with
  | .createPullRequest, some (.pullRequest repository number pullRequestId baseSha headSha markerDigest) =>
    if locatorMatchesIntent intent (.pullRequest repository number pullRequestId baseSha headSha markerDigest) then
      some ⟨⟨.pullRequest, intent.repository, some number, none, some headSha⟩, .pullRequestDraftAtCandidate⟩
    else none
  | .createPullRequest, _ => none
  | .comment, some (.comment repository issueNumber commentId markerDigest) =>
    if locatorMatchesIntent intent (.comment repository issueNumber commentId markerDigest) then
      some (brokerSemanticPlan host intent).readback
    else none
  | .comment, _ => none
  | _, _ => some (brokerSemanticPlan host intent).readback

/-! ## When a read shows the effect -/

/-- A pull request of the intent's own repository and number. -/
def isTargetPullRequest (intent : GitHubMutationIntent) (s : PullRequestSnapshot) : Bool :=
  s.repository = intent.repository ∧ s.baseRepository = intent.repository ∧ s.headRepository = intent.repository ∧
    some s.number = intent.targetNumber

/-- `_matches` -/
def matchesSnapshot (readback : SemanticReadback) (intent : GitHubMutationIntent) (snapshot : GitHubSnapshot) : Bool :=
  match readback.condition, snapshot with
  | .commentPresent, .comments s => s.repository = intent.repository ∧ some s.issueNumber = intent.targetNumber ∧
      intent.bodyDigest ∈ s.comments.map fun c => some c.bodyDigest
  | .branchAtExpectedSha, .branch s => s.repository = intent.repository ∧ some s.name = intent.targetRef ∧
      some s.sha = intent.expectedSha
  | .pullRequestDraft, .pullRequest s => isTargetPullRequest intent s ∧ s.state = .open ∧ s.draft
  | .pullRequestDraftAtCandidate, .pullRequest s => isTargetPullRequest intent s ∧ s.state = .open ∧ s.draft ∧
      intent.pullRequestPayload.any fun p => s.headSha = p.headSha ∧ s.baseSha = p.baseSha ∧ s.headRef = p.headRef ∧
        s.baseRef = p.baseRef
  | .pullRequestReady, .pullRequest s => isTargetPullRequest intent s ∧ s.state = .open ∧ ¬ s.draft ∧
      some s.headSha = intent.expectedSha
  | .pullRequestMerged, .pullRequest s => isTargetPullRequest intent s ∧ s.state = .merged ∧
      some s.headSha = intent.expectedSha ∧ s.mergeCommitSha.isSome
  | .reviewAtCandidate, .reviews s => s.repository = intent.repository ∧ some s.pullRequestNumber = intent.targetNumber ∧
      some s.headSha = intent.expectedSha ∧ s.reviews ≠ []
  | .reviewersExactAtCandidate, .requestedReviewers s => s.repository = intent.repository ∧
      some s.pullRequestNumber = intent.targetNumber ∧ some s.candidateSha = intent.expectedSha ∧ s.complete ∧
      some s.reviewerSetDigest = intent.reviewersDigest
  | .issueClosed, .issue s => s.repository = intent.repository ∧ some s.number = intent.targetNumber ∧ s.state = .closed
  | .remoteHeadAtExpectedSha, .remoteHead s => s.repository = intent.repository ∧ some s.ref = intent.targetRef ∧
      some s.sha = intent.expectedSha
  | _, _ => false

/-- The created pull request, as its locator and the payload name it. -/
def matchesCreatedPullRequest (intent : GitHubMutationIntent) (locator : Option CreatedResourceLocator)
    (s : PullRequestSnapshot) : Bool :=
  match locator, intent.pullRequestPayload with
  | some (.pullRequest _ number pullRequestId baseSha headSha markerDigest), some p =>
    s.repository = intent.repository ∧ s.baseRepository = intent.repository ∧ s.headRepository = intent.repository ∧
      s.number = number ∧ s.pullRequestId = pullRequestId ∧ s.state = .open ∧ s.draft ∧
      s.baseSha = baseSha ∧ baseSha = p.baseSha ∧ s.headSha = headSha ∧ headSha = p.headSha ∧
      markerDigest = p.bodyDigest ∧ s.baseRef = p.baseRef ∧ s.headRef = p.headRef
  | _, _ => false

/-- The created comment, as its locator names it. -/
def matchesCreatedComment (intent : GitHubMutationIntent) (locator : Option CreatedResourceLocator)
    (s : CommentsSnapshot) : Bool :=
  match locator with
  | some (.comment _ issueNumber commentId markerDigest) =>
    s.repository = intent.repository ∧ s.issueNumber = issueNumber ∧ some issueNumber = intent.targetNumber ∧
      s.comments.any fun c => c.commentId = commentId ∧ c.bodyDigest = markerDigest
  | _ => false

/-- `_readback_matches` -/
def readbackMatches (readback : SemanticReadback) (intent : GitHubMutationIntent) (result : GitHubReadResult)
    (locator : Option CreatedResourceLocator) : Bool :=
  if readback.condition = .branchAbsent then
    match result.outcome with
    | .error f => f.kind = .staleResponse ∧ result.request = readback.request
    | .ok _ => false
  else
    match result.outcome with
    | .error _ => false
    | .ok snapshot =>
      match intent.operation, snapshot with
      | .createPullRequest, .pullRequest s => matchesCreatedPullRequest intent locator s
      | .createPullRequest, _ => false
      | .comment, .comments s => matchesCreatedComment intent locator s
      | .comment, _ => false
      | _, _ => matchesSnapshot readback intent snapshot

/-! ## The identities of a receipt -/

/-- The fields of a pull request that an affected identity lists. -/
def pullRequestFields (s : PullRequestSnapshot) : List Json :=
  [.str s.repository.slug, .str s.pullRequestId, .num s.number, .str s.state.value, .str s.baseRef, .str s.baseSha,
    .str s.headRef, .str s.headSha, .str s.baseRepository.slug, .str s.headRepository.slug, .bool s.draft]

/-- The comment a locator names. -/
def locatedComment (s : CommentsSnapshot) (commentId : String) (markerDigest : Digest) : Option CommentSnapshot :=
  s.comments.find? fun c => c.commentId = commentId ∧ c.bodyDigest = markerDigest

/-- `_affected_identity` of an absent branch. -/
def absentBranchIdentity (host : Host) (intent : GitHubMutationIntent) (result : GitHubReadResult) : Except Error Digest :=
  match result.outcome with
  | .error f =>
    if f.kind = .staleResponse ∧ result.request.repository = intent.repository ∧ result.request.ref = intent.targetRef then
      .ok (host.digestValue (.arr [.str "affected", .str intent.operation.value, .str intent.repository.slug,
        .ofOption intent.targetRef, .str "absent"]))
    else .error (.gitHubRuntime "deleted branch affected identity is unavailable")
  | .ok _ => .error (.gitHubRuntime "deleted branch affected identity is unavailable")

/-- `_affected_identity` of a snapshot. -/
def snapshotIdentity (host : Host) (intent : GitHubMutationIntent) (snapshot : GitHubSnapshot)
    (locator : Option CreatedResourceLocator) : Except Error Digest :=
  let affected (fields : List Json) : Digest :=
    host.digestValue (.arr ([.str "affected", .str intent.operation.value] ++ fields))
  let fallback := affected [.str intent.repository.slug, .ofOption intent.targetRef, jsonOfNat intent.targetNumber,
    .digest (host.digestValue snapshot.payload)]
  match intent.operation, snapshot with
  | .createBranch, .branch s | .updateBranch, .branch s => .ok (affected [.str s.repository.slug, .str s.name, .str s.sha])
  | .createPullRequest, .pullRequest s =>
    match locator with
    | some (.pullRequest repository number pullRequestId _ _ _) => do
      refuse (repository ≠ intent.repository ∨ number ≠ s.number ∨ pullRequestId ≠ s.pullRequestId ∨
        s.repository ≠ intent.repository ∨ s.baseRepository ≠ intent.repository ∨ s.headRepository ≠ intent.repository)
        (.gitHubRuntime "allocated pull request affected identity is unavailable")
      return affected (pullRequestFields s)
    | _ => .error (.gitHubRuntime "allocated pull request affected identity is unavailable")
  | .comment, .comments s =>
    match locator with
    | some (.comment repository issueNumber commentId markerDigest) => do
      refuse (repository ≠ intent.repository ∨ s.repository ≠ intent.repository ∨ s.issueNumber ≠ issueNumber ∨
        some issueNumber ≠ intent.targetNumber) (.gitHubRuntime "allocated comment affected identity is unavailable")
      let c ← demand (locatedComment s commentId markerDigest)
        (.gitHubRuntime "allocated comment affected identity is unavailable")
      return affected [.str s.repository.slug, .num s.issueNumber, .str c.commentId, .digest c.bodyDigest, .str c.createdAt]
    | some (.pullRequest ..) => .error (.gitHubRuntime "allocated comment affected identity is unavailable")
    | none => .ok fallback
  | .markReady, .pullRequest s => .ok (affected (pullRequestFields s ++ [.ofOption s.mergeCommitSha]))
  | .mergePullRequest, .pullRequest s => do
    refuse s.mergeCommitSha.isNone (.gitHubRuntime "merged pull request affected identity is unavailable")
    return affected (pullRequestFields s ++ [.ofOption s.mergeCommitSha])
  | .requestReview, .requestedReviewers s => .ok (affected [.str s.repository.slug, .num s.pullRequestNumber,
      .str s.candidateSha, .arr (s.reviewers.map .str), .digest s.reviewerSetDigest])
  | .closeIssue, .issue s => .ok (affected [.str s.repository.slug, .str s.issueId, .num s.number, .str s.state.value])
  | _, _ => .ok fallback

/-- `_affected_identity` -/
def affectedIdentity (host : Host) (intent : GitHubMutationIntent) (result : GitHubReadResult)
    (locator : Option CreatedResourceLocator) : Except Error Digest :=
  if intent.operation = .deleteBranch then absentBranchIdentity host intent result
  else do
    let snapshot ← demand result.snapshot (.gitHubRuntime "semantic affected identity is unavailable")
    snapshotIdentity host intent snapshot locator

/-- `_post_state_digest` -/
def postStateDigest (host : Host) (intent : GitHubMutationIntent) (result : GitHubReadResult) : Except Error Digest :=
  if intent.operation = .deleteBranch then
    match result.outcome with
    | .error f => do
      refuse (f.kind ≠ .staleResponse) (.gitHubRuntime "deleted branch post-state is unavailable")
      return host.digestValue (.arr [.str "branch-absent", .str intent.repository.slug, .ofOption intent.targetRef])
    | .ok _ => .error (.gitHubRuntime "deleted branch post-state is unavailable")
  else demand (result.snapshotDigest host) (.gitHubRuntime "post-state digest is invalid")

end Roundwright.GitHub
