/-
The ledger of a Canary coordinator: the chain of receipts and a record for each claim. Every method holds the ledger's
lock, so each is one function on the ledger. A record is an object of its own and is never taken out, so a reference to
it is its claim digest.
-/
import Roundwright.Canary.Policy

namespace Roundwright.Canary

open Lib GitHub

/-! ## Receipts of transitions -/

inductive CanaryReadbackState where
  | applied | absent | ambiguous
deriving DecidableEq

inductive CanaryTransitionState where
  | claimed | verified | quarantined | retryAllowed | preservedForOwner
deriving DecidableEq

inductive CanaryTransitionPurpose where
  | execute | rollback | cleanup
deriving DecidableEq

def CanaryTransitionState.value : CanaryTransitionState → String
  | .claimed => "claimed"
  | .verified => "verified"
  | .quarantined => "quarantined"
  | .retryAllowed => "retry-allowed"
  | .preservedForOwner => "preserved-for-owner"

def CanaryTransitionPurpose.value : CanaryTransitionPurpose → String
  | .execute => "execute"
  | .rollback => "rollback"
  | .cleanup => "cleanup"

structure CanarySemanticReadback where
  state : CanaryReadbackState
  digest : Digest

/-- `_cleanup_action_for` -/
def cleanupActionFor : GitHubMutationOperation → Except Raised GitHubMutationOperation
  | .createBranch => .ok .deleteBranch
  | _ => .error (.execution "Canary predecessor has no reversible cleanup action")

/-- What the constructor of an execution receipt finds wrong. -/
def executionFault (purpose : CanaryTransitionPurpose) (state : CanaryTransitionState)
    (semanticReadbackDigest canaryReceiptDigest predecessorTransitionReceiptDigest preStateReadbackDigest :
    Option Digest) (retryUsed : Bool) :
    Option String :=
  if purpose = .execute ∧ (predecessorTransitionReceiptDigest ≠ none ∨ preStateReadbackDigest ≠ none) then
    some "ordinary Canary execution cannot carry cleanup preconditions"
  else if purpose ≠ .execute ∧ (predecessorTransitionReceiptDigest = none ∨ preStateReadbackDigest = none) then
    some "rollback or cleanup lacks reconciled predecessor evidence"
  else if retryUsed ∧ state = .retryAllowed then some "consumed Canary retry cannot remain retry-allowed"
  else if state = .verified ∧ (semanticReadbackDigest = none ∨ canaryReceiptDigest = none) then
    some "verified Canary transition lacks semantic receipt evidence"
  else if state ≠ .verified ∧ canaryReceiptDigest ≠ none then some "unverified Canary transition cannot advance the receipt chain"
  else none

structure CanaryExecutionReceipt where
  policyDigest : Digest
  contractDigest : Digest
  claimDigest : Digest
  requestDigest : Digest
  receiptChainHeadDigest : Digest
  purpose : CanaryTransitionPurpose
  state : CanaryTransitionState
  semanticReadbackDigest : Option Digest
  canaryReceiptDigest : Option Digest
  predecessorTransitionReceiptDigest : Option Digest
  preStateReadbackDigest : Option Digest
  retryUsed : Bool
  valid : executionFault purpose state semanticReadbackDigest canaryReceiptDigest predecessorTransitionReceiptDigest
    preStateReadbackDigest retryUsed = none

namespace CanaryExecutionReceipt

variable (host : Host) (r : CanaryExecutionReceipt)

/-- `public_payload`, without the digest. -/
def payloadFields : List (String × Json) :=
  [("policy_digest", .digest r.policyDigest), ("contract_digest", .digest r.contractDigest),
    ("claim_digest", .digest r.claimDigest), ("request_digest", .digest r.requestDigest),
      ("receipt_chain_head_digest", .digest r.receiptChainHeadDigest),
    ("purpose", .str r.purpose.value), ("state", .str r.state.value),
      ("semantic_readback_digest", .ofDigest r.semanticReadbackDigest),
    ("canary_receipt_digest", .ofDigest r.canaryReceiptDigest),
    ("predecessor_transition_receipt_digest", .ofDigest r.predecessorTransitionReceiptDigest),
    ("pre_state_readback_digest", .ofDigest r.preStateReadbackDigest), ("retry_used", .bool r.retryUsed)]

def receiptDigest : Digest := host.digestValue (.obj r.payloadFields)

def publicPayload : Json := .obj (r.payloadFields ++ [("receipt_digest", .digest (r.receiptDigest host))])

end CanaryExecutionReceipt

/-- `_TransitionRecord` -/
structure TransitionRecord (host : Host) where
  authorization : CanaryAuthorization
  request : CanaryMutationRequest
  purpose : CanaryTransitionPurpose
  state : CanaryTransitionState
  receipt : CanaryExecutionReceipt
  canaryReceipt : Option (BoundedCanaryReceipt host)
  retryUsed : Bool
  predecessorTransitionReceiptDigest : Option Digest
  preStateReadbackDigest : Option Digest

variable {host : Host}

namespace TransitionRecord

variable (record : TransitionRecord host)

def claimDigest : Digest := record.authorization.claimDigest host

/-- The receipt of a record in a state. -/
def receiptOf (state : CanaryTransitionState) (readback : Option Digest)
    (canaryReceipt : Option (BoundedCanaryReceipt host)) (retryUsed : Bool) : Except Raised CanaryExecutionReceipt :=
  match h : executionFault record.purpose state readback (canaryReceipt.map (·.receiptDigest))
      record.predecessorTransitionReceiptDigest record.preStateReadbackDigest retryUsed with
  | some message => .error (.execution message)
  | none => .ok ⟨record.authorization.policyDigest, record.authorization.contractDigest, record.claimDigest,
      record.authorization.requestDigest, record.authorization.receiptChainHeadDigest, record.purpose, state, readback,
        canaryReceipt.map (·.receiptDigest),
      record.predecessorTransitionReceiptDigest, record.preStateReadbackDigest, retryUsed, h⟩

end TransitionRecord

/-! ## The ledger -/

/-- `CanaryExecutionLedger`; the records are in the order in which they were reserved. -/
structure Ledger (host : Host) where
  policy : BoundedCanaryPolicy
  chain : List (BoundedCanaryReceipt host)
  records : List (TransitionRecord host)
  hydrated : Bool

namespace Ledger

def new (policy : BoundedCanaryPolicy) : Ledger host := ⟨policy, [genesisCanaryReceipt host policy], [], false⟩

variable (l : Ledger host)

/-- `record` -/
def record? (claimDigest : Digest) : Option (TransitionRecord host) := l.records.find? fun r => r.claimDigest = claimDigest

/-- A change of one record. -/
def setRecord (claimDigest : Digest) (f : TransitionRecord host → TransitionRecord host) : Ledger host :=
  { l with records := l.records.map fun r => if r.claimDigest = claimDigest then f r else r }

/-- `matching` -/
def matching (request : CanaryMutationRequest) (purpose : CanaryTransitionPurpose) : Except Raised
    (Option (TransitionRecord host)) :=
  match l.records.filter fun r => r.request = request ∧ r.purpose = purpose with
  | [] => .ok none
  | [record] => .ok (some record)
  | _ => .error (.execution "Canary execution replay is ambiguous")

/-- `predecessor` -/
def predecessor : Except Raised (Option (TransitionRecord host)) :=
  match l.chain.getLast? with
  | none => .error .value
  | some head =>
    if head.predecessorReceiptDigest = none then .ok none
    else
      match l.records.filter fun r => r.state = .verified ∧ r.canaryReceipt = some head ∧
        r.receipt.canaryReceiptDigest = some head.receiptDigest with
      | [record] => .ok (some record)
      | _ => .error (.execution "Canary retained predecessor is unavailable or ambiguous")

/-- `reserve`: the claim, and whether it is new. -/
def reserve (authorization : CanaryAuthorization) (request : CanaryMutationRequest) (purpose : CanaryTransitionPurpose)
    (predecessorTransitionReceiptDigest preStateReadbackDigest : Option Digest) : Except Raised Bool × Ledger host :=
  match l.record? (authorization.claimDigest host) with
  | some existing =>
    if existing.request ≠ request ∨ existing.purpose ≠ purpose then
      (.error (.execution "Canary consumption fence was reused with a different transition"), l)
    else (.ok false, l)
  | none =>
    match h : executionFault purpose .claimed none none predecessorTransitionReceiptDigest preStateReadbackDigest false with
    | some message => (.error (.execution message), l)
    | none =>
      let receipt : CanaryExecutionReceipt :=
        ⟨authorization.policyDigest, authorization.contractDigest, authorization.claimDigest host,
          authorization.requestDigest, authorization.receiptChainHeadDigest, purpose, .claimed, none, none,
        predecessorTransitionReceiptDigest, preStateReadbackDigest, false, h⟩
      (.ok true, { l with records := l.records ++
        [⟨authorization, request, purpose, .claimed, receipt, none, false, predecessorTransitionReceiptDigest, preStateReadbackDigest⟩] })

/-- The last part of `update`: the record changes, and then gets its receipt, unless that cannot be made. -/
def finishUpdate (claimDigest : Digest) (state : CanaryTransitionState) (readback : Option Digest)
    (canaryReceipt : Option (BoundedCanaryReceipt host)) (record : TransitionRecord host) : Except Raised Unit × Ledger host :=
  match record.receiptOf state readback canaryReceipt record.retryUsed with
  | .error e => (.error e, l.setRecord claimDigest fun r => { r with state := state, canaryReceipt := canaryReceipt })
  | .ok receipt => (.ok (), l.setRecord claimDigest fun r =>
      { r with state := state, canaryReceipt := canaryReceipt, receipt := receipt })

/-- `update`; no caller passes `retry_used`. -/
def update (claimDigest : Digest) (state : CanaryTransitionState) (readback : Option Digest)
    (canaryReceipt : Option (BoundedCanaryReceipt host)) : Except Raised Unit × Ledger host :=
  match l.record? claimDigest with
  | none => (.error (.execution "Canary execution record is stale"), l)
  | some record =>
    if state = .verified then
      match canaryReceipt with
      | none => (.error (.execution "verified Canary transition has no receipt"), l)
      | some receipt =>
        if receipt.predecessorReceiptDigest ≠ some record.authorization.receiptChainHeadDigest then
          (.error (.execution "verified Canary transition has stale chain evidence"), l)
        else finishUpdate { l with chain := l.chain ++ [receipt] } claimDigest state readback (some receipt) record
    else if canaryReceipt ≠ none then (.error (.execution "unverified Canary transition cannot advance the chain"), l)
    else l.finishUpdate claimDigest state readback none record

/-- `consume_retry` -/
def consumeRetry (claimDigest : Digest) : Except Raised Bool × Ledger host :=
  match l.record? claimDigest with
  | none => (.ok false, l)
  | some record =>
    if record.state ≠ .retryAllowed ∨ record.retryUsed then (.ok false, l)
    else
      match record.receiptOf .claimed none none true with
      | .error e => (.error e, l.setRecord claimDigest fun r => { r with retryUsed := true, state := .claimed })
      | .ok receipt => (.ok true, l.setRecord claimDigest fun r =>
          { r with retryUsed := true, state := .claimed, receipt := receipt })

end Ledger

end Roundwright.Canary
