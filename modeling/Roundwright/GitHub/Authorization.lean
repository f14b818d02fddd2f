/-
What a mutation is authorized by: capability health, the broker context, the bundle of identities made
from it and the checks that come before any read.

The decisions of the policy, deployment and dependency modules are parameters of the model, collected in
`Authority`; whatever they are, the broker's own checks are as here.
-/
import Roundwright.GitHub.Journal

namespace Roundwright.GitHub

open Lib

/-! ## Capability health -/

inductive CapabilityState where
  | available
  | unavailable
  | permissionDenied
  | authenticationFailed
  | transportFailed
deriving DecidableEq

def CapabilityState.value : CapabilityState → String
  | .available => "available"
  | .unavailable => "unavailable"
  | .permissionDenied => "permission-denied"
  | .authenticationFailed => "authentication-failed"
  | .transportFailed => "transport-failed"

/-- One observed capability. Instants are microseconds of UTC. -/
structure OperationHealth where
  operation : GitHubOperation
  state : CapabilityState
  observedAt : Int
  evidenceDigest : Digest
  freshUntil : Int

def OperationHealth.available (h : OperationHealth) : Bool := h.state = .available

def OperationHealth.freshAt (h : OperationHealth) (now : Int) : Bool := h.observedAt ≤ now ∧ now < h.freshUntil

def allOperations : List GitHubOperation :=
  [.read .repository, .read .repositoryInventory, .read .issue, .read .issueRelationships, .read .comments,
    .read .branch, .read .pullRequest, .read .reviews, .read .requestedReviewers, .read .checks, .read .workflowRuns,
      .read .mergeability,
    .read .closingReferences, .read .remoteHead, .mutation .createBranch, .mutation .updateBranch, .mutation .createPullRequest,
    .mutation .comment, .mutation .requestReview, .mutation .markReady, .mutation .mergePullRequest, .mutation .closeIssue,
    .mutation .deleteBranch]

/-- One observation for each operation. -/
structure GitHubCapabilityHealth where
  observations : List OperationHealth
  covers : (observations.map OperationHealth.operation).Perm allOperations

namespace GitHubCapabilityHealth

variable (health : GitHubCapabilityHealth)

def forOperation (operation : GitHubOperation) : Option OperationHealth :=
  health.observations.find? fun h => h.operation = operation

def freshAt (now : Int) : Bool := health.observations.all fun h => h.freshAt now

/-- The first instant at which an observation is stale. -/
def freshUntil : Int := (health.observations.map OperationHealth.freshUntil).min?.getD 0

def identity (host : Host) : Digest :=
  host.digestValue (.arr (health.observations.map fun h => .arr [.str h.operation.value, .str h.state.value, .num h.observedAt,
    .num h.freshUntil, .digest h.evidenceDigest]))

end GitHubCapabilityHealth

/-- `unavailable_capability_health`, fresh for five minutes. -/
def unavailableCapabilityHealth (host : Host) (now : Int) : GitHubCapabilityHealth where
  observations := allOperations.map fun operation =>
    ⟨operation, .unavailable, now, host.digestValue (.arr [.str "gh-health", .str operation.value, .str "unavailable"]),
      now + 300000000⟩
  covers := by
    rw [List.map_map]
    exact .of_eq (List.map_id' _)

/-- `_require_fresh_capabilities` -/
def requireFreshCapabilities (health : GitHubCapabilityHealth) (operations : List GitHubOperation) (now : Int) :
    Except Error Unit := do
  refuse (health.freshAt now = false) (.gitHubRuntime "capability health evidence is stale or malformed")
  refuse (∃ operation ∈ operations, (health.forOperation operation).any OperationHealth.available = false)
    (.gitHubRuntime "required capability health is unavailable")

/-- `_health_failure` -/
def healthFailure (operation : GitHubOperation) (health : GitHubCapabilityHealth) (now : Option Int) : Option GitHubFailure :=
  match health.forOperation operation with
  | none => none
  | some item =>
    match item.state with
    | .available =>
      if now.all item.freshAt then none else some ⟨.staleResponse, operation, "gh capability evidence is stale"⟩
    | .unavailable => some ⟨.unavailable, operation, "gh capability is unavailable for this operation"⟩
    | .permissionDenied => some ⟨.permissionDenied, operation, "gh capability is unavailable for this operation"⟩
    | .authenticationFailed => some ⟨.authenticationFailed, operation, "gh capability is unavailable for this operation"⟩
    | .transportFailed => some ⟨.transportFailed, operation, "gh capability is unavailable for this operation"⟩

/-! ## The context -/

structure RepositoryMutationBinding where
  digest : String
  repositoryFingerprint : String
  candidateSha : String
  deploymentFingerprint : String
  taskFingerprint : String
deriving DecidableEq

/-- A decision of the repository policy. Repository operations are mapped one to one to the operations of
GitHub, which stand here for them. -/
structure RepositoryMutationDecision where
  authorized : Bool
  operation : Option GitHubMutationOperation
  binding : Option RepositoryMutationBinding
deriving DecidableEq

structure DeploymentAuthorityDecision where
  authorized : Bool
  authoritative : Bool
deriving DecidableEq

structure RepositoryMutationContext where
  repositoryFingerprint : String
  deploymentFingerprint : String
  taskFingerprint : String
  candidateSha : String

/-- The fingerprints and digests of the policy, receipt, dispatcher and deployment evidence. -/
structure AuthorityEvidence where
  standingAuthorityIdentity : String
  policySourceIdentity : String
  policyRevisionIdentity : String
  policyIdentity : String
  receiptIdentity : String
  receiptVerificationIdentity : String
  receiptBindingDigest : String
  receiptStatus : String
  dispatcherTransitionIdentity : String
  dispatcherTransitionDigest : String
  deploymentReceiptIdentity : String
  deploymentVerificationIdentity : String

structure MutationBrokerContext where
  policy : RepositoryMutationDecision
  deployment : DeploymentAuthorityDecision
  configurationDigest : Digest
  baseSha : String
  candidateSha : String
  gateIdentity : Digest
  mutationContext : RepositoryMutationContext
  evidence : AuthorityEvidence
  evaluatedAt : Int
  repository : RepositoryRef
  baseRepository : RepositoryRef
  headRepository : RepositoryRef
  baseRef : String
  headRef : String

/-- What other modules decide about a context at an instant: `evaluate_repository_mutation_policy`,
whether the binding is of the receipt verification, `evaluate_deployment_authority`, the dependency
control of the context and the dependency control of the owner for an intent. -/
structure Authority where
  repositoryPolicy : MutationBrokerContext → Int → RepositoryMutationDecision
  receiptBound : MutationBrokerContext → Bool
  deploymentAuthority : MutationBrokerContext → Int → DeploymentAuthorityDecision
  dependencyControl : MutationBrokerContext → Int → Bool
  ownerControl : GitHubMutationIntent → MutationBrokerContext → Int → Bool

/-- `matches_context` of the policy's binding. -/
def bindingMatches (authority : Authority) (context : MutationBrokerContext) : Bool :=
  authority.receiptBound context ∧ context.policy.binding.any fun b =>
    b.repositoryFingerprint = context.mutationContext.repositoryFingerprint ∧
      b.deploymentFingerprint = context.mutationContext.deploymentFingerprint ∧
      b.taskFingerprint = context.mutationContext.taskFingerprint ∧ b.candidateSha = context.mutationContext.candidateSha

structure SchemaV2AuthorizationBundle where
  context : MutationBrokerContext
  evaluatedAt : Int
  freshUntil : Int
  timeIdentity : Digest
  capabilityHealthIdentity : Digest

/-- The digest of the bundle's fields. -/
def SchemaV2AuthorizationBundle.identity (host : Host) (b : SchemaV2AuthorizationBundle) : Digest :=
  let c := b.context
  let e := c.evidence
  host.digestValue (.arr [.str e.standingAuthorityIdentity, .str e.policySourceIdentity, .str e.policyRevisionIdentity,
    .str e.policyIdentity, .str e.receiptIdentity, .str c.mutationContext.repositoryFingerprint,
    .str c.mutationContext.deploymentFingerprint, .str c.mutationContext.taskFingerprint, .digest c.configurationDigest,
    .str c.baseSha, .str c.mutationContext.candidateSha, .digest c.gateIdentity, .str e.receiptVerificationIdentity,
    .str e.receiptBindingDigest, .str e.receiptStatus, .str e.dispatcherTransitionIdentity, .str e.dispatcherTransitionDigest,
    .str e.deploymentReceiptIdentity, .str e.deploymentVerificationIdentity, .num b.evaluatedAt, .num b.freshUntil,
    .digest b.timeIdentity, .digest b.capabilityHealthIdentity, .str c.repository.slug, .str c.baseRepository.slug,
    .str c.headRepository.slug, .str c.baseRef, .str c.headRef])

/-- `schema_v2_authorization_bundle` -/
def schemaV2AuthorizationBundle (host : Host) (authority : Authority) (context : MutationBrokerContext) (now : Int)
    (health : Option GitHubCapabilityHealth) : Except Error SchemaV2AuthorizationBundle := do
  let capabilityHealth := health.getD (unavailableCapabilityHealth host now)
  refuse (capabilityHealth.freshAt now = false) (.gitHubRuntime "broker capability health evidence is stale or malformed")
  refuse (context.candidateSha ≠ context.mutationContext.candidateSha)
    (.gitHubRuntime "broker candidate does not match mutation context")
  refuse (context.policy.authorized = false ∨ context.policy.binding = none ∨ context.policy.operation = none)
    (.gitHubRuntime "broker policy decision is not authorized canonical evidence")
  let canonical := authority.repositoryPolicy context now
  refuse (canonical.authorized = false ∨ canonical ≠ context.policy)
    (.gitHubRuntime "broker policy decision does not match canonical evidence")
  refuse (bindingMatches authority context = false) (.gitHubRuntime "broker policy binding is not coherently bound")
  let deployment := authority.deploymentAuthority context now
  refuse (deployment.authorized = false ∨ deployment ≠ context.deployment)
    (.gitHubRuntime "broker deployment authority does not match canonical evidence")
  let freshUntil := capabilityHealth.freshUntil
  refuse (freshUntil ≤ now) (.gitHubRuntime "authorization freshness interval is invalid")
  return ⟨context, now, freshUntil, timeIdentityOf host now freshUntil, capabilityHealth.identity host⟩

/-- The payload of a pull request names the base and the candidate of the context. -/
def pullRequestBound (context : MutationBrokerContext) (p : PullRequestPayload) : Prop :=
  p.baseSha = context.baseSha ∧ p.headSha = context.candidateSha ∧ p.baseRef = context.baseRef ∧
    p.headRef = context.headRef ∧ context.baseRepository = context.repository ∧ context.headRepository = context.repository

instance (context : MutationBrokerContext) (p : PullRequestPayload) : Decidable (pullRequestBound context p) := by
  unfold pullRequestBound; infer_instance

/-- `_authorize`, after the bundle was made. -/
def authorizeIntent (intent : GitHubMutationIntent) (context : MutationBrokerContext) : Except GitHubFailure Unit := do
  let failure (kind : GitHubFailureKind) (reason : String) : GitHubFailure := ⟨kind, .mutation intent.operation, reason⟩
  refuse (context.policy.authorized = false ∨ context.policy.operation ≠ some intent.operation ∨
    context.policy.binding = none) (failure .policyDenied "repository mutation policy denies this operation")
  refuse (context.deployment.authorized = false ∨ context.deployment.authoritative = false)
    (failure .policyDenied "deployment authority denies GitHub mutation")
  refuse (∃ b ∈ context.policy.binding, b.candidateSha ≠ context.candidateSha)
    (failure .staleResponse "mutation authority is not bound to the exact candidate and deployment")
  refuse (intent.repository ≠ context.repository)
    (failure .policyDenied "mutation target repository is not bound to the authorized context")
  refuse (∃ p ∈ intent.pullRequestPayload, ¬ pullRequestBound context p)
    (failure .staleResponse "pull request payload is not bound to the authorized base and candidate")
  refuse (∃ sha ∈ intent.expectedSha, sha ≠ context.candidateSha)
    (failure .staleResponse "mutation intent is not bound to the exact candidate")

/-- `_require_context_dependency_control` -/
def contextDependencyControl (authority : Authority) (intent : GitHubMutationIntent) (context : MutationBrokerContext)
    (now : Int) : Bool :=
  intent.repository = context.repository ∧ context.mutationContext.candidateSha = context.candidateSha ∧
    authority.dependencyControl context now

/-- The entry that claims a mutation: `MutationJournalEntry.from_evidence`. -/
def claimEntry (host : Host) (intent : GitHubMutationIntent) (context : MutationBrokerContext)
    (bundle : SchemaV2AuthorizationBundle) : MutationJournalEntry where
  evidence :=
    let plan := brokerSemanticPlan host intent
    { repository := intent.repository, operation := intent.operation, idempotencyKey := intent.idempotencyKey
      targetIdentity := plan.targetIdentity, idempotencyIdentity := plan.idempotencyIdentity
      intentIdentity := intent.identity host, authorizationBundleIdentity := bundle.identity host
      candidateSha := context.candidateSha, configurationDigest := context.configurationDigest
      gateIdentity := context.gateIdentity, semanticPlanIdentity := plan.identity host, command := plan.command
      preStateReadIdentity := plan.preDispatchReadsIdentity host
      semanticReadbackIdentity := plan.readback.identity host, evaluatedAt := bundle.evaluatedAt
      freshUntil := bundle.freshUntil, timeIdentity := bundle.timeIdentity }
  lifecycle := .claimed
  receipt := none
  preState := none
  createdResource := none

/-- What `find_recovery` compares: an entry of the intent, its plan and the candidate, configuration and
gate of the context. -/
def recoverable (host : Host) (intent : GitHubMutationIntent) (context : MutationBrokerContext)
    (entry : MutationJournalEntry) : Prop :=
  let e := entry.evidence
  let plan := brokerSemanticPlan host intent
  e.repository = intent.repository ∧ e.operation = intent.operation ∧ e.idempotencyKey = intent.idempotencyKey ∧
    e.intentIdentity = intent.identity host ∧ e.targetIdentity = plan.targetIdentity ∧
    e.idempotencyIdentity = plan.idempotencyIdentity ∧ e.semanticPlanIdentity = plan.identity host ∧
    e.command = plan.command ∧ e.preStateReadIdentity = plan.preDispatchReadsIdentity host ∧
    e.semanticReadbackIdentity = plan.readback.identity host ∧ e.candidateSha = context.candidateSha ∧
    e.configurationDigest = context.configurationDigest ∧ e.gateIdentity = context.gateIdentity

instance (host : Host) (intent : GitHubMutationIntent) (context : MutationBrokerContext) (entry : MutationJournalEntry) :
    Decidable (recoverable host intent context entry) := by unfold recoverable; infer_instance

end Roundwright.GitHub
