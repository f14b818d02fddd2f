/-
`CanaryOrchestrator`. A call is a program of atomic actions on the ledger that it shares with others: the ledger's
methods, reads of a record's fields, and the calls of the lease and of the broker, whose answers nobody here decides.
-/
import Roundwright.Canary.Ledger
import Roundwright.Lib.Script

namespace Roundwright.Canary

open Lib GitHub

variable {host : Host}

/-! ## Actions -/

/-- What a broker says of the state before a rollback: a read-back, something else or an exception that is caught, or an
exception that is not. -/
inductive PreReadback where
  | readback (r : CanarySemanticReadback)
  | unusable
  | raises

/-- What the owner host would answer: whether the lease is granted, whether a dispatch is accepted and what is read
back, each unless it raises; `readback` is also empty for what is no read-back. -/
structure Answer where
  granted : Option Bool
  accepted : Option Bool
  readback : Option CanarySemanticReadback
  preReadback : PreReadback

inductive Action (host : Host) where
  | chain
  | record (claimDigest : Digest)
  | matching (request : CanaryMutationRequest) (purpose : CanaryTransitionPurpose)
  | predecessor
  | reserve (authorization : CanaryAuthorization) (request : CanaryMutationRequest) (purpose : CanaryTransitionPurpose)
      (predecessorTransitionReceiptDigest preStateReadbackDigest : Option Digest)
  | update (claimDigest : Digest) (state : CanaryTransitionState) (readback : Option Digest)
      (canaryReceipt : Option (BoundedCanaryReceipt host))
  | consumeRetry (claimDigest : Digest)
  | requiresRetryLeaseProof
  | look (claimDigest : Digest)
  | claim (consumptionKey claimDigest : Digest)
  | dispatch (authorization : CanaryAuthorization) (request : CanaryMutationRequest) (purpose : CanaryTransitionPurpose)
  | semanticReadback (authorization : CanaryAuthorization) (request : CanaryMutationRequest)
  | semanticPreReadback (authorization : CanaryAuthorization) (request : CanaryMutationRequest)
      (predecessorReceiptDigest : Digest)

abbrev Program (host : Host) := Script (Action host) Raised Answer (Ledger host)

/-- A read of the ledger. -/
def read {α : Type} (l : Action host) (f : Ledger host → α) : Program host α :=
    Script.commit l fun _ => Tx.query fun s => .ok (f s)

/-- A method of the ledger that changes it; what it raises is part of its answer. -/
def method {α : Type} (l : Action host) (f : Ledger host → Except Raised α × Ledger host) : Program host (Except Raised α) :=
  Script.commit l fun _ s => (.ok (f s).1, (f s).2)

/-- A call of the lease or the broker. -/
def ask {α : Type} (l : Action host) (f : Answer → α) : Program host α :=
    Script.commit l fun answer => Tx.query fun _ => .ok (f answer)

namespace Program

def chain : Program host (List (BoundedCanaryReceipt host)) := read .chain fun l => l.chain

/-- The fields of a record that is in the ledger. -/
def look (claimDigest : Digest) : Program host (TransitionRecord host) := do
  let record ← read (.look claimDigest) fun l => l.record? claimDigest
  Script.check (demand record .value)

def tryUpdate (claimDigest : Digest) (state : CanaryTransitionState) (readback : Option Digest)
    (canaryReceipt : Option (BoundedCanaryReceipt host)) : Program host (Except Raised Unit) :=
  method (.update claimDigest state readback canaryReceipt) fun l => l.update claimDigest state readback canaryReceipt

/-- An update of a record to a state that is not verified. -/
def update (claimDigest : Digest) (state : CanaryTransitionState) (readback : Option Digest) : Program host Unit := do
  let updated ← tryUpdate claimDigest state readback none
  Script.check updated

end Program

/-! ## Calls -/

structure CanaryExecutionResult (host : Host) where
  decision : CanaryDecision
  receipt : Option CanaryExecutionReceipt
  canaryReceipt : Option (BoundedCanaryReceipt host)

/-- The evidence of a coordinator: the policy that its ledger is bound to and the selection. -/
structure Coordinator (host : Host) where
  policy : BoundedCanaryPolicy
  context : CanaryAuthorityContext host

namespace Coordinator

open Program

variable (c : Coordinator host)

/-- `_decision`; the selection follows the head of the chain. -/
def decide_ (request : CanaryMutationRequest) (chain : List (BoundedCanaryReceipt host)) : CanaryDecision :=
  authorizeCanaryRequest c.policy { c.context with priorReceiptDigest := chain.getLast?.map (·.receiptDigest) } request chain

def decision (request : CanaryMutationRequest) : Program host CanaryDecision := do
  let chain ← chain
  pure (c.decide_ request chain)

/-- The answer with the receipt that the record has now, and the receipt of the chain where `verified` says so. -/
def result (decision : CanaryDecision) (claimDigest : Digest) (verified : Bool) : Program host (CanaryExecutionResult host) := do
  let record ← look claimDigest
  pure ⟨decision, some record.receipt, if verified then record.canaryReceipt else none⟩

def unavailable (decision : CanaryDecision) : CanaryExecutionResult host := ⟨decision, none, none⟩

/-- `_readback`, of a record that is known by its claim digest. -/
def readback (decision : CanaryDecision) (authorization : CanaryAuthorization) (record : TransitionRecord host) (allowRetry : Bool) :
    Program host (CanaryExecutionResult host) := do
  let claimDigest := record.claimDigest
  let answer ← ask (.semanticReadback authorization record.request) fun answer => answer.readback
  match answer with
  | none => do
    update claimDigest .quarantined none
    result (denied "Canary outcome is ambiguous; semantic reconciliation is required" decision.policyDigest) claimDigest false
  | some ⟨.ambiguous, digest⟩ => do
    update claimDigest .quarantined digest
    result (denied "Canary outcome is ambiguous; semantic reconciliation is required" decision.policyDigest) claimDigest false
  | some ⟨.applied, digest⟩ => do
    let chain ← chain
    let advanced : Except Raised (BoundedCanaryReceipt host) := do
      let head ← demand chain.getLast? .value
      advanceCanaryReceipt head record.request.operation digest
    match advanced with
    | .error _ => do
      update claimDigest .quarantined none
      result (denied "Canary receipt reconciliation failed" decision.policyDigest) claimDigest false
    | .ok canaryReceipt => do
      let updated ← tryUpdate claimDigest .verified digest canaryReceipt
      match updated with
      | .error _ => do
        update claimDigest .quarantined none
        result (denied "Canary receipt reconciliation failed" decision.policyDigest) claimDigest false
      | .ok _ => result decision claimDigest true
  | some ⟨.absent, digest⟩ => do
    let current ← look claimDigest
    if allowRetry && !current.retryUsed then do
      update claimDigest .retryAllowed digest
      result ⟨false, "Canary read-back does not prove the requested transition", decision.policyDigest,
        "retry-after-semantic-readback", none⟩ claimDigest false
    else do
      update claimDigest .preservedForOwner digest
      result (denied "Canary read-back does not prove the requested transition" decision.policyDigest) claimDigest false

/-- `_dispatch`; the read-back of a dispatch that is not accepted is inside the `try`, so that one that raises is made
again. -/
def dispatch (decision : CanaryDecision) (authorization : CanaryAuthorization) (record : TransitionRecord host) :
    Program host (CanaryExecutionResult host) := do
  let accepted ← ask (.dispatch authorization record.request record.purpose) fun answer => answer.accepted
  match accepted with
  | some true => readback decision authorization record false
  | some false => Script.handle (readback decision authorization record true) fun _ => readback decision authorization record true
  | none => readback decision authorization record true

/-- What a rollback or a cleanup asks before it is reserved: the retained predecessor is exactly reversed and its state
is read back. -/
def preState (authorization : CanaryAuthorization) (request : CanaryMutationRequest) : Program host (Option (Digest × Digest)) := do
  let predecessor ← read .predecessor fun l => l.predecessor
  match predecessor with
  | .error _ => pure none
  | .ok none => pure none
  | .ok (some predecessor) => do
    let held ← look predecessor.claimDigest
    match held.canaryReceipt, cleanupActionFor predecessor.request.operation with
    | some _, .ok inverse =>
      if request.operation ≠ inverse ∨ request.branch ≠ predecessor.request.branch ∨
        request.paths ≠ predecessor.request.paths then pure none
      else do
        let asked ← look predecessor.claimDigest
        let answer ← ask (.semanticPreReadback authorization request (asked.receipt.receiptDigest host)) fun answer =>
          answer.preReadback
        match answer with
        | .raises => Script.check (.error .broker)
        | .unusable => pure none
        | .readback pre =>
          if c.policy.rollback.cleanupDisposition true (pre.state = .applied) = .rollback then do
            let kept ← look predecessor.claimDigest
            pure (some (kept.receipt.receiptDigest host, pre.digest))
          else pure none
    | _, _ => pure none

/-- The rest of `_begin`, once the preconditions of its purpose are met. -/
def reserveAndDispatch (decision : CanaryDecision) (authorization : CanaryAuthorization)
    (request : CanaryMutationRequest) (purpose : CanaryTransitionPurpose)
    (predecessorTransitionReceiptDigest preStateReadbackDigest : Option Digest) :
    Program host (CanaryExecutionResult host) := do
  let reserved ← method (.reserve authorization request purpose predecessorTransitionReceiptDigest preStateReadbackDigest)
    fun l => l.reserve authorization request purpose predecessorTransitionReceiptDigest preStateReadbackDigest
  match reserved with
  | .error _ => pure (unavailable (denied "Canary consumption fence conflicts" decision.policyDigest))
  | .ok false => result decision (authorization.claimDigest host) true
  | .ok true => do
    let granted ← ask (.claim (authorization.consumptionKey host) (authorization.claimDigest host)) fun answer => answer.granted
    if granted = some true then do
      let record ← look (authorization.claimDigest host)
      dispatch decision authorization record
    else do
      update (authorization.claimDigest host) .preservedForOwner none
      result (denied "another Orchestrator owns this Canary transition" decision.policyDigest) (authorization.claimDigest host) false

/-- `_begin` -/
def begin_ (request : CanaryMutationRequest) (purpose : CanaryTransitionPurpose) : Program host (CanaryExecutionResult host) := do
  let prior ← read (.matching request purpose) fun l => l.matching request purpose
  match prior with
  | .error _ => pure (unavailable (denied "Canary duplicate-delivery identity is ambiguous" (c.policy.policyDigest host)))
  | .ok (some prior) =>
    result ⟨true, "duplicate Canary delivery converged on its retained receipt", some (c.policy.policyDigest host), "reuse-receipt", none⟩
      prior.claimDigest true
  | .ok none => do
    let decision ← c.decision request
    match decision.authorization with
    | none => pure (unavailable decision)
    | some authorization =>
      if decision.authorized = false then pure (unavailable decision)
      else if purpose = .execute then reserveAndDispatch decision authorization request purpose none none
      else do
        let evidence ← c.preState authorization request
        match evidence with
        | none =>
          pure (unavailable (denied "Canary rollback or cleanup requires retained reversible semantic pre-state" decision.policyDigest))
        | some (predecessorDigest, preDigest) => reserveAndDispatch decision authorization request purpose predecessorDigest preDigest

def unknown : CanaryExecutionResult host := unavailable (denied "Canary transition is unknown" none)

/-- `reconcile` -/
def reconcile (claimDigest : Digest) : Program host (CanaryExecutionResult host) := do
  let found ← read (.record claimDigest) fun l => l.record? claimDigest
  match found with
  | none => pure unknown
  | some record => do
    let decision ← c.decision record.request
    if decision.authorized = false ∨ decision.authorization ≠ some record.authorization then
      result (denied "Canary reconciliation evidence has drifted" decision.policyDigest) claimDigest true
    else do
      let current ← look claimDigest
      if current.state ≠ .quarantined ∧ current.state ≠ .retryAllowed then result decision claimDigest true
      else readback decision record.authorization record true

/-- The proof of a replacement coordinator that it owns the fence of a retry. -/
def ownsFence (record : TransitionRecord host) : Program host Bool := do
  let proof ← read .requiresRetryLeaseProof fun l => l.hydrated
  if proof then
    ask (.claim (record.authorization.consumptionKey host) record.claimDigest) fun answer => decide (answer.granted = some true)
  else pure true

/-- `retry` -/
def retry (claimDigest : Digest) : Program host (CanaryExecutionResult host) := do
  let found ← read (.record claimDigest) fun l => l.record? claimDigest
  match found with
  | none => pure unknown
  | some record => do
    let decision ← c.decision record.request
    if decision.authorized = false ∨ decision.authorization ≠ some record.authorization then
      result (denied "Canary retry evidence has drifted" decision.policyDigest) claimDigest true
    else do
      let current ← look claimDigest
      if current.state ≠ .retryAllowed then
        result (denied "Canary retry requires an absent semantic read-back" decision.policyDigest) claimDigest false
      else do
        let owned ← ownsFence record
        if owned then do
          let consumed ← method (.consumeRetry claimDigest) fun l => l.consumeRetry claimDigest
          let consumed ← Script.check consumed
          if consumed then dispatch decision record.authorization record
          else result (denied "Canary retry budget is exhausted" decision.policyDigest) claimDigest false
        else do
          update claimDigest .preservedForOwner none
          result (denied "replacement Orchestrator cannot prove the original retry fence" decision.policyDigest) claimDigest false

end Coordinator

/-- A call on a coordinator. -/
inductive Request where
  | execute (request : CanaryMutationRequest)
  | rollback (request : CanaryMutationRequest)
  | cleanup (request : CanaryMutationRequest)
  | reconcile (claimDigest : Digest)
  | retry (claimDigest : Digest)

def Coordinator.program (c : Coordinator host) : Request → Program host (CanaryExecutionResult host)
  | .execute request => c.begin_ request .execute
  | .rollback request => c.begin_ request .rollback
  | .cleanup request => c.begin_ request .cleanup
  | .reconcile claimDigest => c.reconcile claimDigest
  | .retry claimDigest => c.retry claimDigest

end Roundwright.Canary
