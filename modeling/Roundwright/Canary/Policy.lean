/-
The policy contract of a bounded Canary: the policy, the standing authority that selects it, the receipts that count its
calls, and the decision on one request. Every value is as its constructor leaves it, so a policy or a receipt that
exists has passed its checks and is found unchanged when it is validated again.
-/
import Roundwright.GitHub.Contract
import Roundwright.Lib.Transaction
import Mathlib.Data.List.Basic

namespace Roundwright.Canary

open Lib GitHub

/-! ## Values -/

/-- What the modules raise: `CanaryPolicyError`, `CanaryExecutionError`, a bare `ValueError`, and what a broker raises
and nobody catches. -/
inductive Raised where
  | policy (message : String)
  | execution (message : String)
  | value
  | broker
deriving DecidableEq

inductive CanaryResult where
  | genesis | pass | denied | rolledBack | ownerInputRequired
deriving DecidableEq

def CanaryResult.value : CanaryResult → String
  | .genesis => "genesis"
  | .pass => "pass"
  | .denied => "denied"
  | .rolledBack => "rolled-back"
  | .ownerInputRequired => "owner-input-required"

inductive CleanupDisposition where
  | rollback | preserveForOwner
deriving DecidableEq

/-- `_safe_path` -/
def safePath (text : String) : Bool :=
  let chars := text.toList
  chars ≠ [] && chars.head? ≠ some '/' && chars.head? ≠ some '\\' && '\\' ∉ chars && ':' ∉ chars &&
    (chars.splitOn '/').all fun part => part ≠ [] && part ≠ ['.'] && part ≠ ['.', '.']

/-- `_BRANCH` -/
def isBranch (text : String) : Bool := headTail Char.isAlphanum (fun c => c.isAlphanum || c ∈ ['.', '_', '/', '-']) 127 text

/-- One text is in the other. -/
def contains (pattern chars : List Char) : Bool := chars.tails.any pattern.isPrefixOf

/-- `_safe_branch` -/
def safeBranch (text : String) : Bool :=
  let chars := text.toList
  isBranch text && !("refs/".toList.isPrefixOf chars) && chars.head? ≠ some '/' && chars.getLast? ≠ some '/' &&
    chars.getLast? ≠ some '.' && !contains ['.', '.'] chars && !contains ['/', '/'] chars && !contains ['@', '\x7b'] chars &&
    (chars.splitOn '/').all fun component => component ≠ [] && component.head? ≠ some '.' && !(".lock".toList.isSuffixOf component)

/-- `_SLUG` -/
def isSlug (text : String) : Bool :=
  match text.toList.splitOn '/' with
  | [owner, name] =>
    let tail := fun c => c.isAlphanum || c ∈ ['_', '.', '-']
    headTail Char.isAlphanum tail 38 (String.ofList owner) && headTail Char.isAlphanum tail 99 (String.ofList name)
  | _ => false

/-- A controlled target, pinned to its baseline. -/
structure CanaryTarget where
  repository : String
  baselineSha : Sha
  leafNumber : Nat
  valid : isSlug repository = true ∧ 0 < leafNumber
deriving DecidableEq

/-- The ceilings of calls, for each operation and in total. -/
structure CanaryBudget where
  perOperation : List (GitHubMutationOperation × Nat)
  totalCalls : Nat
  valid : 1 ≤ totalCalls ∧ (perOperation.map (·.1)).Nodup ∧ (∀ c ∈ perOperation, 0 < c.2) ∧ totalCalls ≤ (perOperation.map (·.2)).sum
deriving DecidableEq

/-- `limit_for` -/
def CanaryBudget.limitFor (b : CanaryBudget) (operation : GitHubMutationOperation) : Nat := (b.perOperation.lookup operation).getD 0

structure CanaryRollbackPlan where
  rollbackTrigger : String
  killSwitch : String
  semanticReadback : String
  valid : ∀ text ∈ [rollbackTrigger, killSwitch, semanticReadback], text ≠ "" ∧ text.length ≤ 160
deriving DecidableEq

def CanaryRollbackPlan.cleanupDisposition (_ : CanaryRollbackPlan) (resourceIsReversible readbackIsUnambiguous : Bool) :
    CleanupDisposition :=
  if resourceIsReversible && readbackIsUnambiguous then .rollback else .preserveForOwner

structure BoundedCanaryPolicy where
  baseSha : Sha
  candidateSha : Sha
  contractDigest : Digest
  phase : Nat
  leafNumber : Nat
  target : CanaryTarget
  targetPolicyIdentity : Digest
  branch : String
  allowedPaths : List String
  requestedOperations : List GitHubMutationOperation
  budget : CanaryBudget
  rollback : CanaryRollbackPlan
  commits : baseSha ≠ candidateSha
  numbers : phase = 4 ∧ 0 < leafNumber
  safe : safeBranch branch = true ∧ allowedPaths ≠ [] ∧ allowedPaths.Nodup ∧ allowedPaths.all safePath = true
  operations : requestedOperations ≠ [] ∧ requestedOperations.Nodup ∧
    budget.perOperation.map (·.1) ⊆ requestedOperations ∧ requestedOperations ⊆ budget.perOperation.map (·.1)
deriving DecidableEq

def policySchema : String := "roundwright-bounded-canary-policy/v2"

def receiptSchema : String := "roundwright-bounded-canary-receipt/v1"

variable (host : Host)

/-- The counts of operations, as a `dict`. -/
def countsPayload (counts : List (GitHubMutationOperation × Nat)) : Json := .obj (counts.map fun c => (c.1.value, .num c.2))

namespace BoundedCanaryPolicy

variable (p : BoundedCanaryPolicy)

/-- `public_payload`, without the digest. -/
def publicPayload : Json :=
  .obj [("schema", .str policySchema), ("base_sha", .hex p.baseSha), ("candidate_sha", .hex p.candidateSha),
    ("contract_digest", .digest p.contractDigest), ("phase", .num p.phase), ("leaf_number", .num p.leafNumber),
    ("target", .obj [("repository", .str p.target.repository), ("baseline_sha", .hex p.target.baselineSha),
      ("leaf_number", .num p.target.leafNumber)]),
    ("target_policy_identity", .digest p.targetPolicyIdentity), ("branch", .str p.branch),
      ("allowed_paths", .arr (p.allowedPaths.map .str)),
    ("requested_operations", .arr (p.requestedOperations.map fun o => .str o.value)),
    ("budget", .obj [("per_operation", countsPayload p.budget.perOperation), ("total_calls", .num p.budget.totalCalls)]),
    ("rollback", .obj [("rollback_trigger", .str p.rollback.rollbackTrigger), ("kill_switch", .str p.rollback.killSwitch),
      ("semantic_readback", .str p.rollback.semanticReadback)])]

def policyDigest : Digest := host.digestValue p.publicPayload

/-- `_genesis_identity` -/
def genesisIdentity : Digest :=
  host.digestValue (.obj [("schema", .str receiptSchema), ("policy_digest", .digest (p.policyDigest host)),
    ("contract_digest", .digest p.contractDigest), ("kind", .str CanaryResult.genesis.value)])

end BoundedCanaryPolicy

/-! ## The target's own policy -/

inductive RepositoryMutationOperation where
  | issueComment | createRemoteBranch | updateRemoteBranch | deleteRemoteBranch | createDraftPr | requestReview | markPrReady | mergePr
  | closeLeafIssue | deleteLocalBranch | removeWorktree

/-- `GITHUB_REPOSITORY_OPERATION` -/
def repositoryOperation : GitHubMutationOperation → RepositoryMutationOperation
  | .createBranch => .createRemoteBranch
  | .updateBranch => .updateRemoteBranch
  | .deleteBranch => .deleteRemoteBranch
  | .createPullRequest => .createDraftPr
  | .comment => .issueComment
  | .requestReview => .requestReview
  | .markReady => .markPrReady
  | .mergePullRequest => .mergePr
  | .closeIssue => .closeLeafIssue

structure RepositoryMutationPolicy where
  enabled : Bool
  allowIssueComment : Bool
  allowCreateRemoteBranch : Bool
  allowUpdateRemoteBranch : Bool
  allowDeleteRemoteBranch : Bool
  allowCreateDraftPr : Bool
  allowRequestReview : Bool
  allowMarkPrReady : Bool
  allowMergePr : Bool
  allowCloseLeafIssue : Bool
  allowDeleteLocalBranch : Bool
  allowRemoveWorktree : Bool

namespace RepositoryMutationPolicy

variable (p : RepositoryMutationPolicy)

/-- `REPOSITORY_OPERATION_SWITCH` -/
def allows : RepositoryMutationOperation → Bool
  | .issueComment => p.allowIssueComment
  | .createRemoteBranch => p.allowCreateRemoteBranch
  | .updateRemoteBranch => p.allowUpdateRemoteBranch
  | .deleteRemoteBranch => p.allowDeleteRemoteBranch
  | .createDraftPr => p.allowCreateDraftPr
  | .requestReview => p.allowRequestReview
  | .markPrReady => p.allowMarkPrReady
  | .mergePr => p.allowMergePr
  | .closeLeafIssue => p.allowCloseLeafIssue
  | .deleteLocalBranch => p.allowDeleteLocalBranch
  | .removeWorktree => p.allowRemoveWorktree

def digest : PlainDigest :=
  host.digestJson (.obj [("allow_close_leaf_issue", .bool p.allowCloseLeafIssue), ("allow_create_draft_pr", .bool p.allowCreateDraftPr),
    ("allow_create_remote_branch", .bool p.allowCreateRemoteBranch), ("allow_delete_local_branch", .bool p.allowDeleteLocalBranch),
    ("allow_delete_remote_branch", .bool p.allowDeleteRemoteBranch), ("allow_issue_comment", .bool p.allowIssueComment),
    ("allow_mark_pr_ready", .bool p.allowMarkPrReady), ("allow_merge_pr", .bool p.allowMergePr),
    ("allow_remove_worktree", .bool p.allowRemoveWorktree), ("allow_request_review", .bool p.allowRequestReview),
    ("allow_update_remote_branch", .bool p.allowUpdateRemoteBranch), ("enabled", .bool p.enabled), ("schema_version", .num 2)])

end RepositoryMutationPolicy

structure TrustedRepositoryPolicySnapshot where
  sourceFingerprint : PlainDigest
  revisionFingerprint : PlainDigest
  document : RepositoryMutationPolicy

/-- `canary_target_policy_identity` -/
def canaryTargetPolicyIdentity (snapshot : TrustedRepositoryPolicySnapshot) (target : CanaryTarget) : Digest :=
  host.digestValue (.obj [("source_fingerprint", .hex snapshot.sourceFingerprint), ("revision_fingerprint", .hex snapshot.revisionFingerprint),
    ("policy_digest", .hex (snapshot.document.digest host)),
    ("target", .obj [("repository", .str target.repository), ("baseline_sha", .hex target.baselineSha), ("leaf_number", .num target.leafNumber)])])

/-- The selection and the standing authority for one call; `bound` is what `_target_policy_for` finds. -/
structure CanaryAuthorityContext where
  roundletEnabled : Bool
  readOnlyExternalValidationAllowed : Bool
  disposableTargetMutationAllowed : Bool
  phase : Int
  leafNumber : Int
  baseSha : Sha
  candidateSha : Sha
  contractDigest : Digest
  target : CanaryTarget
  targetPolicy : TrustedRepositoryPolicySnapshot
  targetPolicyIdentity : Digest
  policyDigest : Digest
  branch : String
  priorReceiptDigest : Option Digest
  killSwitchActive : Bool
  bound : canaryTargetPolicyIdentity host targetPolicy target = targetPolicyIdentity

/-! ## Requests and claims -/

structure CanaryMutationRequest where
  operation : GitHubMutationOperation
  branch : String
  paths : List String
  valid : safeBranch branch = true ∧ paths ≠ [] ∧ paths.all safePath = true
deriving DecidableEq

def CanaryMutationRequest.requestDigest (r : CanaryMutationRequest) : Digest :=
  host.digestValue (.obj [("operation", .str r.operation.value), ("branch", .str r.branch), ("paths", .arr (r.paths.map .str))])

/-- A claim that a broker consumes once by its fence key. -/
structure CanaryAuthorization where
  policyDigest : Digest
  contractDigest : Digest
  requestDigest : Digest
  receiptChainHeadDigest : Digest
deriving DecidableEq

namespace CanaryAuthorization

variable (a : CanaryAuthorization)

def consumptionKey : Digest :=
  host.digestValue (.obj [("policy_digest", .digest a.policyDigest), ("contract_digest", .digest a.contractDigest),
    ("receipt_chain_head_digest", .digest a.receiptChainHeadDigest)])

def claimDigest : Digest :=
  host.digestValue (.obj [("consumption_key", .digest (a.consumptionKey host)), ("request_digest", .digest a.requestDigest)])

end CanaryAuthorization

structure CanaryDecision where
  authorized : Bool
  reason : String
  policyDigest : Option Digest
  nextAction : String
  authorization : Option CanaryAuthorization

/-! ## Receipts -/

/-- What the constructor of a receipt finds wrong. -/
def receiptFault (policy : BoundedCanaryPolicy) (result : CanaryResult) (counts : List (GitHubMutationOperation × Nat))
    (semanticReadbackDigest : Digest) (predecessorReceiptDigest : Option Digest) : Option String :=
  if ¬ (counts.map (·.1)).Nodup then some "Canary receipt operation counts are invalid"
  else if ¬ counts.map (·.1) ⊆ policy.requestedOperations ∨ ¬ policy.requestedOperations ⊆ counts.map (·.1) ∨
      policy.budget.totalCalls < (counts.map (·.2)).sum ∨ ∃ c ∈ counts, policy.budget.limitFor c.1 < c.2 then
    some "Canary receipt exceeds its budget"
  else if result = .genesis then
    if predecessorReceiptDigest ≠ none ∨ (∃ c ∈ counts, c.2 ≠ 0) ∨ semanticReadbackDigest ≠ policy.genesisIdentity host then
      some "Canary genesis receipt is invalid"
    else none
  else if predecessorReceiptDigest = none then some "Canary non-genesis receipt has no predecessor"
  else none

/-- What a receipt counts. -/
structure Counts (policy : BoundedCanaryPolicy) (counts : List (GitHubMutationOperation × Nat)) : Prop where
  nodup : (counts.map (·.1)).Nodup
  known : counts.map (·.1) ⊆ policy.requestedOperations
  all : policy.requestedOperations ⊆ counts.map (·.1)
  total : (counts.map (·.2)).sum ≤ policy.budget.totalCalls
  limits : ∀ c ∈ counts, c.2 ≤ policy.budget.limitFor c.1

theorem receiptFault_eq_none {policy : BoundedCanaryPolicy} {result : CanaryResult}
    {counts : List (GitHubMutationOperation × Nat)} {readback : Digest} {predecessor : Option Digest} :
    receiptFault host policy result counts readback predecessor = none ↔ Counts policy counts ∧
      (result = .genesis → predecessor = none ∧ (∀ c ∈ counts, c.2 = 0) ∧ readback = policy.genesisIdentity host) ∧
      (result ≠ .genesis → predecessor ≠ none) := by
  unfold receiptFault
  constructor
  · intro h
    split_ifs at h with hnodup hbudget hgenesis hfault hpredecessor
    · push Not at hbudget hfault
      obtain ⟨hknown, hall, htotal, hlimits⟩ := hbudget
      exact ⟨⟨hnodup, hknown, hall, htotal, hlimits⟩, fun _ => hfault, fun hno => absurd hgenesis hno⟩
    · push Not at hbudget
      obtain ⟨hknown, hall, htotal, hlimits⟩ := hbudget
      exact ⟨⟨hnodup, hknown, hall, htotal, hlimits⟩, fun hno => absurd hno hgenesis, fun _ => hpredecessor⟩
  · rintro ⟨hcounts, hgenesis, hother⟩
    have hbudget : ¬ (¬ counts.map (·.1) ⊆ policy.requestedOperations ∨ ¬ policy.requestedOperations ⊆ counts.map (·.1) ∨
        policy.budget.totalCalls < (counts.map (·.2)).sum ∨ ∃ c ∈ counts, policy.budget.limitFor c.1 < c.2) := by
      push Not
      exact ⟨hcounts.known, hcounts.all, hcounts.total, hcounts.limits⟩
    rw [if_neg (not_not.2 hcounts.nodup), if_neg hbudget]
    by_cases hresult : result = .genesis
    · obtain ⟨hnone, hzero, hreadback⟩ := hgenesis hresult
      rw [if_pos hresult, if_neg]
      push Not
      exact ⟨hnone, hzero, hreadback⟩
    · rw [if_neg hresult, if_neg (hother hresult)]

structure BoundedCanaryReceipt where
  policy : BoundedCanaryPolicy
  result : CanaryResult
  operationCounts : List (GitHubMutationOperation × Nat)
  semanticReadbackDigest : Digest
  predecessorReceiptDigest : Option Digest
  valid : receiptFault host policy result operationCounts semanticReadbackDigest predecessorReceiptDigest = none
deriving DecidableEq

namespace BoundedCanaryReceipt

variable {host}

/-- The constructor. -/
def make (policy : BoundedCanaryPolicy) (result : CanaryResult) (counts : List (GitHubMutationOperation × Nat))
    (readback : Digest) (predecessor : Option Digest) : Except Raised (BoundedCanaryReceipt host) :=
  match h : receiptFault host policy result counts readback predecessor with
  | some message => .error (.policy message)
  | none => .ok ⟨policy, result, counts, readback, predecessor, h⟩

variable (r : BoundedCanaryReceipt host)

/-- `dict(operation_counts)[operation]` -/
def count (operation : GitHubMutationOperation) : Nat := (r.operationCounts.lookup operation).getD 0

def total : Nat := (r.operationCounts.map (·.2)).sum

/-- `public_payload`, without the digest. -/
def payloadFields : List (String × Json) :=
  [("schema", .str receiptSchema), ("policy_digest", .digest (r.policy.policyDigest host)),
    ("contract_digest", .digest r.policy.contractDigest), ("base_sha", .hex r.policy.baseSha),
      ("candidate_sha", .hex r.policy.candidateSha),
    ("target_repository", .str r.policy.target.repository), ("target_baseline_sha", .hex r.policy.target.baselineSha),
    ("target_leaf_number", .num r.policy.target.leafNumber), ("leaf_number", .num r.policy.leafNumber),
    ("requested_operations", .arr (r.policy.requestedOperations.map fun o => .str o.value)),
    ("operation_counts", countsPayload r.operationCounts), ("total_calls", .num r.total), ("result", .str r.result.value),
    ("semantic_readback_digest", .digest r.semanticReadbackDigest),
      ("predecessor_receipt_digest", .ofDigest r.predecessorReceiptDigest)]

def receiptDigest : Digest := host.digestValue (.obj r.payloadFields)

def publicPayload : Json := .obj (r.payloadFields ++ [("receipt_digest", .digest r.receiptDigest)])

/-- `validate_for`; a receipt is as it was made. -/
def validateFor (policy : BoundedCanaryPolicy) : Except Raised Unit :=
  refuse (policy.policyDigest host ≠ r.policy.policyDigest host) (.policy "Canary receipt has drifted")

end BoundedCanaryReceipt

theorem genesis_valid (policy : BoundedCanaryPolicy) :
    receiptFault host policy .genesis (policy.requestedOperations.map fun o => (o, 0)) (policy.genesisIdentity host)
    none = none := by
  have hkeys : (policy.requestedOperations.map fun o => ((o, 0) : GitHubMutationOperation × Nat)).map
    (·.1) = policy.requestedOperations := by
    rw [List.map_map]
    exact List.map_id _
  have hsum : ((policy.requestedOperations.map fun o => ((o, 0) : GitHubMutationOperation × Nat)).map (·.2)).sum = 0 := by
    simp [Function.comp_def]
  have hzero : ∀ c ∈ policy.requestedOperations.map fun o => ((o, 0) : GitHubMutationOperation × Nat), c.2 = 0 := by
    intro c hc
    obtain ⟨o, -, rfl⟩ := List.mem_map.1 hc
    rfl
  refine (receiptFault_eq_none host).2 ⟨⟨?_, ?_, ?_, ?_, fun c hc => ?_⟩, fun _ => ⟨rfl, hzero, rfl⟩, fun hno => absurd rfl hno⟩
  · rw [hkeys]
    exact policy.operations.2.1
  · rw [hkeys]
    exact List.Subset.refl _
  · rw [hkeys]
    exact List.Subset.refl _
  · rw [hsum]
    exact Nat.zero_le _
  · rw [hzero c hc]
    exact Nat.zero_le _

/-- `genesis_canary_receipt` -/
def genesisCanaryReceipt (policy : BoundedCanaryPolicy) : BoundedCanaryReceipt host :=
  ⟨policy, .genesis, policy.requestedOperations.map fun o => (o, 0), policy.genesisIdentity host, none, genesis_valid host policy⟩

variable {host}

/-- `advance_canary_receipt` -/
def advanceCanaryReceipt (predecessor : BoundedCanaryReceipt host) (operation : GitHubMutationOperation)
    (semanticReadbackDigest : Digest) :
    Except Raised (BoundedCanaryReceipt host) :=
  if (predecessor.result ≠ .genesis ∧ predecessor.result ≠ .pass) ∨ operation ∉ predecessor.policy.requestedOperations then
    .error (.policy "Canary receipt advancement is not permitted")
  else if predecessor.policy.budget.limitFor operation ≤ predecessor.count operation ∨
      predecessor.policy.budget.totalCalls ≤ predecessor.total then
    .error (.policy "Canary receipt advancement exceeds budget")
  else
    BoundedCanaryReceipt.make predecessor.policy .pass
      (predecessor.operationCounts.map fun c => if c.1 = operation then (c.1, c.2 + 1) else c) semanticReadbackDigest
        (some predecessor.receiptDigest)

/-- A receipt after another: exactly one count is one higher. -/
def Follows (policy : BoundedCanaryPolicy) (previous receipt : BoundedCanaryReceipt host) : Prop :=
  receipt.result = .pass ∧ receipt.predecessorReceiptDigest = some previous.receiptDigest ∧
    (∀ o ∈ policy.requestedOperations, previous.count o ≤ receipt.count o) ∧
    (policy.requestedOperations.map fun o => (receipt.count o : Int) - previous.count o).sum = 1 ∧
    (policy.requestedOperations.map fun o => (receipt.count o : Int) - previous.count o).count 1 = 1

instance (policy : BoundedCanaryPolicy) (previous receipt : BoundedCanaryReceipt host) :
    Decidable (Follows policy previous receipt) := by
  unfold Follows
  infer_instance

/-- The loop of `validate_canary_receipt_chain`, after its first receipt. -/
def validateAfter (policy : BoundedCanaryPolicy) : BoundedCanaryReceipt host → List (BoundedCanaryReceipt host) →
    Except Raised (BoundedCanaryReceipt host)
  | previous, [] => .ok previous
  | previous, receipt :: rest => do
    receipt.validateFor policy
    refuse (¬ Follows policy previous receipt) (.policy "Canary receipt chain is not monotonic")
    validateAfter policy receipt rest

/-- `validate_canary_receipt_chain` -/
def validateCanaryReceiptChain (policy : BoundedCanaryPolicy) : List (BoundedCanaryReceipt host) →
    Except Raised (BoundedCanaryReceipt host)
  | [] => .error (.policy "Canary receipt chain is unavailable")
  | receipt :: rest => do
    receipt.validateFor policy
    refuse (receipt.result ≠ .genesis ∨ receipt.predecessorReceiptDigest ≠ none ∨ ∃ c ∈ receipt.operationCounts, c.2 ≠ 0)
      (.policy "Canary receipt chain has no genesis")
    validateAfter policy receipt rest

/-! ## Decisions -/

/-- A denial of the policy. -/
def denied (reason : String) (policyDigest : Option Digest) : CanaryDecision :=
    ⟨false, reason, policyDigest, "preserve-for-owner", none⟩

/-- `evaluate_bounded_canary_policy` -/
def evaluateBoundedCanaryPolicy (policy : BoundedCanaryPolicy) (context : CanaryAuthorityContext host) : CanaryDecision :=
  let digest := policy.policyDigest host
  if context.roundletEnabled = false ∨ context.readOnlyExternalValidationAllowed = false ∨
    context.disposableTargetMutationAllowed = false then
    denied "standing Canary authority is disabled" digest
  else if context.killSwitchActive then denied "Canary kill switch is active" digest
  else if context.phase ≠ policy.phase ∨ context.leafNumber ≠ policy.leafNumber ∨ context.baseSha ≠ policy.baseSha ∨
      context.candidateSha ≠ policy.candidateSha ∨ context.contractDigest ≠ policy.contractDigest ∨ context.target ≠ policy.target ∨
      context.targetPolicyIdentity ≠ policy.targetPolicyIdentity ∨ context.policyDigest ≠ digest ∨
        context.branch ≠ policy.branch then
    denied "Canary identity or policy binding is stale" digest
  else ⟨true, "exact bounded Canary policy is authorized", digest, "execute-through-mutation-broker", none⟩

/-- `authorize_canary_request`, where the selection names the head of the chain that it is given. -/
def authorizeCanaryRequest (policy : BoundedCanaryPolicy) (context : CanaryAuthorityContext host)
    (request : CanaryMutationRequest) (chain : List (BoundedCanaryReceipt host)) : CanaryDecision :=
  let decision := evaluateBoundedCanaryPolicy policy context
  let digest := some (policy.policyDigest host)
  if decision.authorized = false then denied decision.reason decision.policyDigest
  else if request.operation ∉ policy.requestedOperations then denied "Canary operation is outside the selected vocabulary" digest
  else if request.branch ≠ policy.branch then denied "Canary branch is outside the selected allowlist" digest
  else if ∃ path ∈ request.paths, path ∉ policy.allowedPaths then denied "Canary path is outside the selected allowlist" digest
  else
    match context.priorReceiptDigest with
    | none => denied "Canary receipt-chain state is unavailable" digest
    | some priorReceiptDigest =>
      match validateCanaryReceiptChain policy chain with
      | .error _ => denied "Canary receipt-chain state is invalid or stale" digest
      | .ok prior =>
        let target := context.targetPolicy.document
        if prior.receiptDigest ≠ priorReceiptDigest then denied "Canary receipt-chain head conflicts with selection state" digest
        else if target.enabled = false ∨ target.allows (repositoryOperation request.operation) = false then
          denied "Canary target policy denies the requested operation" digest
        else if policy.budget.limitFor request.operation ≤ prior.count request.operation ∨
          policy.budget.totalCalls ≤ prior.total then
          denied "Canary call budget is exhausted" digest
        else ⟨true, decision.reason, digest, decision.nextAction,
          some ⟨policy.policyDigest host, policy.contractDigest, request.requestDigest host, prior.receiptDigest⟩⟩

end Roundwright.Canary
