/-
The deployment authority: one store that names the active receipt, and coordinators that claim it, hand it over and tear
it down. Every operation runs under the lock of the store, so runs are sequences of whole operations; nothing is rolled
back, and an operation that raises halfway leaves what it has written.
-/
import Roundwright.Lib.Transaction
import Roundwright.State.RuntimeBinding

namespace Roundwright.Handoff

open Lib State

/-! ## Receipts and evidence -/

inductive HandoffPhase where
  | stopping | reconciled | revoked
deriving DecidableEq

inductive AuthorityReceiptVerificationStatus where
  | fresh | missing | stale | copied | conflicting | revoked
deriving DecidableEq

inductive HandoffRecoveryStatus where
  | staleOwner | missing | conflicting
deriving DecidableEq

abbrev Fingerprint := PlainDigest
abbrev Uuid := Hex 32
/-- A full commit of either object format. -/
abbrev CandidateSha := Sha ⊕ PlainDigest

/-- A `datetime` in UTC: microseconds from the beginning of the year 1, to the end of the year 9999. -/
abbrev Instant := Fin 315537897600000000

instance instant_neZero : NeZero 315537897600000000 := ⟨by decide⟩

/-- What an operation is given as the time: an instant, or anything else. -/
inductive Clock where
  | utc (instant : Instant)
  | other

structure DeploymentAuthorityIdentity where
  repositoryFingerprint : Fingerprint
  canonicalCheckoutFingerprint : Fingerprint
  stateStoreFingerprint : Fingerprint
  stateId : Uuid
  deploymentFingerprint : Fingerprint
  candidateSha : CandidateSha
  environmentFingerprint : Fingerprint
  runtimeBinding : RuntimeBinding
deriving DecidableEq

structure DeploymentAuthorityHandoffReceipt where
  receiptFingerprint : Fingerprint
  identity : DeploymentAuthorityIdentity
  issuedAt : Instant
  expiresAt : Instant
  window : issuedAt < expiresAt
deriving DecidableEq

/-! `==` compares the runtime bindings by theirs, so it does not see the review policy. -/

def DeploymentAuthorityIdentity.same (left right : DeploymentAuthorityIdentity) : Bool :=
  left.runtimeBinding.same right.runtimeBinding && { left with runtimeBinding := right.runtimeBinding } = right

def DeploymentAuthorityHandoffReceipt.same (left right : DeploymentAuthorityHandoffReceipt) : Bool :=
  left.identity.same right.identity && { left with identity := right.identity } = right

namespace DeploymentAuthorityIdentity

variable {a b c : DeploymentAuthorityIdentity}

theorem same_refl (a : DeploymentAuthorityIdentity) : a.same a = true := by simp [same, RuntimeBinding.same_refl]

theorem same_symm (h : a.same b = true) : b.same a = true := by
  simp only [same, Bool.and_eq_true, decide_eq_true_eq] at h ⊢
  refine ⟨RuntimeBinding.same_symm h.1, ?_⟩
  rw [← h.2]

theorem same_trans (h : a.same b = true) (h' : b.same c = true) : a.same c = true := by
  simp only [same, Bool.and_eq_true, decide_eq_true_eq] at h h' ⊢
  refine ⟨RuntimeBinding.same_trans h.1 h'.1, ?_⟩
  rw [← h'.2, ← h.2]

end DeploymentAuthorityIdentity

namespace DeploymentAuthorityHandoffReceipt

variable {a b c : DeploymentAuthorityHandoffReceipt}

theorem same_refl (a : DeploymentAuthorityHandoffReceipt) : a.same a = true := by
  simp [same, DeploymentAuthorityIdentity.same_refl]

theorem same_symm (h : a.same b = true) : b.same a = true := by
  simp only [same, Bool.and_eq_true, decide_eq_true_eq] at h ⊢
  refine ⟨DeploymentAuthorityIdentity.same_symm h.1, ?_⟩
  rw [← h.2]

theorem same_trans (h : a.same b = true) (h' : b.same c = true) : a.same c = true := by
  simp only [same, Bool.and_eq_true, decide_eq_true_eq] at h h' ⊢
  refine ⟨DeploymentAuthorityIdentity.same_trans h.1 h'.1, ?_⟩
  rw [← h'.2, ← h.2]

theorem same_fingerprint (h : a.same b = true) : a.receiptFingerprint = b.receiptFingerprint := by
  simp only [same, Bool.and_eq_true, decide_eq_true_eq] at h
  rw [← h.2]

end DeploymentAuthorityHandoffReceipt

def CandidateSha.json : CandidateSha → Json
  | .inl sha => .hex sha
  | .inr sha => .hex sha

/-- `binding_digest`, with the instants as numbers. -/
def DeploymentAuthorityHandoffReceipt.bindingDigest (host : Host) (r : DeploymentAuthorityHandoffReceipt) : Fingerprint :=
  host.digestJson (.obj [
    ("receipt_fingerprint", .hex r.receiptFingerprint),
    ("repository_fingerprint", .hex r.identity.repositoryFingerprint),
    ("canonical_checkout_fingerprint", .hex r.identity.canonicalCheckoutFingerprint),
    ("state_store_fingerprint", .hex r.identity.stateStoreFingerprint),
    ("state_id", .hex r.identity.stateId),
    ("deployment_fingerprint", .hex r.identity.deploymentFingerprint),
    ("candidate_sha", r.identity.candidateSha.json),
    ("environment_fingerprint", .hex r.identity.environmentFingerprint),
    ("runtime_binding", .hex (r.identity.runtimeBinding.fingerprint host)),
    ("issued_at", .num r.issuedAt.val),
    ("expires_at", .num r.expiresAt.val)])

structure DeploymentAuthorityReceiptVerification where
  evidenceFingerprint : Fingerprint
  receiptFingerprint : Fingerprint
  receiptBindingDigest : Fingerprint
  repositoryFingerprint : Fingerprint
  stateStoreFingerprint : Fingerprint
  stateId : Uuid
  candidateSha : CandidateSha
  environmentFingerprint : Fingerprint
  status : AuthorityReceiptVerificationStatus

structure HandoffReconciliation where
  handoffFingerprint : Fingerprint
  oldReceiptFingerprint : Fingerprint
  stateStoreFingerprint : Fingerprint
  stateId : Uuid
  dispatcherStopped : Bool
  childrenReconciled : Bool
  leaseReconciled : Bool
  evidenceFingerprint : Fingerprint
deriving DecidableEq

def HandoffReconciliation.complete (e : HandoffReconciliation) : Bool :=
  e.dispatcherStopped && e.childrenReconciled && e.leaseReconciled

structure HandoffTeardown where
  handoffFingerprint : Fingerprint
  oldReceiptFingerprint : Fingerprint
  stateStoreFingerprint : Fingerprint
  stateId : Uuid
  resourcesTornDown : Bool
  evidenceFingerprint : Fingerprint

structure HandoffRecoveryClaim where
  evidenceFingerprint : Fingerprint
  handoffFingerprint : Fingerprint
  oldReceiptFingerprint : Fingerprint
  receiptBindingDigest : Fingerprint
  priorOwnerClaimFingerprint : Fingerprint
  priorOwnerClaimGeneration : Int
  replacementOwnerClaimFingerprint : Fingerprint
  stateStoreFingerprint : Fingerprint
  stateId : Uuid
  status : HandoffRecoveryStatus
  observedAt : Instant
  expiresAt : Instant
  generation : 1 ≤ priorOwnerClaimGeneration
  window : observedAt < expiresAt

/-- `HandoffProgress`; what its constructor insists on is the last three fields. -/
structure HandoffProgress where
  handoffFingerprint : Fingerprint
  oldReceiptFingerprint : Fingerprint
  newIdentity : DeploymentAuthorityIdentity
  phase : HandoffPhase
  reconciliation : Option HandoffReconciliation
  ownerClaimFingerprint : Fingerprint
  ownerClaimGeneration : Int
  consumedRecoveryEvidenceFingerprints : List Fingerprint
  generation : 1 ≤ ownerClaimGeneration
  history : consumedRecoveryEvidenceFingerprints.Nodup
  evidence : if phase = .stopping then reconciliation = none else reconciliation.any (·.complete) = true
deriving DecidableEq

/-- The constructor of `HandoffProgress`. -/
def HandoffProgress.make (handoffFingerprint oldReceiptFingerprint : Fingerprint)
    (newIdentity : DeploymentAuthorityIdentity) (phase : HandoffPhase) (reconciliation : Option HandoffReconciliation)
    (ownerClaimFingerprint : Option Fingerprint) (ownerClaimGeneration : Int) (consumed : List Fingerprint) :
    Except Error HandoffProgress := do
  let owner ← demand ownerClaimFingerprint (.deploymentHandoff "handoff owner claim fingerprint is invalid")
  if generation : 1 ≤ ownerClaimGeneration then
    if history : consumed.Nodup then
      if evidence : if phase = .stopping then reconciliation = none else reconciliation.any (·.complete) = true then
        return ⟨handoffFingerprint, oldReceiptFingerprint, newIdentity, phase, reconciliation, owner,
          ownerClaimGeneration, consumed, generation, history, evidence⟩
      else .error (.deploymentHandoff (match phase with
        | .stopping => "stopping handoff cannot have reconciliation evidence"
        | .reconciled => "reconciled handoff lacks complete evidence"
        | .revoked => "revoked handoff lacks complete evidence"))
    else .error (.deploymentHandoff "handoff recovery evidence history is invalid")
  else .error (.deploymentHandoff "handoff owner claim generation is invalid")

/-- `HandoffDecision` -/
structure HandoffDecision where
  authorized : Bool
  reason : String
  receiptFingerprint : Option Fingerprint
deriving DecidableEq

/-- `_require_fingerprint` -/
def requireFingerprint (value description : String) : Except Error Fingerprint :=
  demand (Hex.ofText? 64 value) (.deploymentHandoff (description ++ " fingerprint is invalid"))

/-! ## The store -/

/-- `InMemoryDeploymentAuthorityStore`. A coordinator is known by the number of its private token, sets are kept as
lists. -/
structure Store where
  stateStoreFingerprint : Fingerprint
  stateId : Uuid
  active : Option DeploymentAuthorityHandoffReceipt
  verification : Option DeploymentAuthorityReceiptVerification
  progress : Option HandoffProgress
  revoked : List Fingerprint
  claimOwnerToken : Option Nat
  claimReceiptFingerprint : Option Fingerprint
  claimBindingDigest : Option Fingerprint
  claimFingerprint : Option Fingerprint
  claimGeneration : Int
  handoffOwnerToken : Option Nat
  handoffFingerprint : Option Fingerprint
  handoffBindingDigest : Option Fingerprint
  handoffOwnerClaimFingerprint : Option Fingerprint
  handoffOwnerClaimGeneration : Option Int
  consumedRecoveryEvidenceFingerprints : List Fingerprint

namespace Store

/-- A store that has just been made. -/
def initial (stateStoreFingerprint : Fingerprint) (stateId : Uuid) : Store where
  stateStoreFingerprint := stateStoreFingerprint
  stateId := stateId
  active := none
  verification := none
  progress := none
  revoked := []
  claimOwnerToken := none
  claimReceiptFingerprint := none
  claimBindingDigest := none
  claimFingerprint := none
  claimGeneration := 0
  handoffOwnerToken := none
  handoffFingerprint := none
  handoffBindingDigest := none
  handoffOwnerClaimFingerprint := none
  handoffOwnerClaimGeneration := none
  consumedRecoveryEvidenceFingerprints := []

variable (host : Host) (s : Store) (self : Nat)

/-- `_identity_names_this_store` -/
def identityNames (identity : DeploymentAuthorityIdentity) : Bool :=
  identity.stateStoreFingerprint = s.stateStoreFingerprint ∧ identity.stateId = s.stateId

/-- `_receipt_names_this_store` -/
def receiptNames (receipt : DeploymentAuthorityHandoffReceipt) : Bool := s.identityNames receipt.identity

/-- `_active == receipt` -/
def isActive (receipt : DeploymentAuthorityHandoffReceipt) : Bool := s.active.any (·.same receipt)

/-- `_holds_claim` -/
def holdsClaim (receipt : DeploymentAuthorityHandoffReceipt) (claimFingerprint : Option Fingerprint) : Bool :=
  s.claimOwnerToken = some self ∧ s.claimReceiptFingerprint = some receipt.receiptFingerprint ∧
    s.claimBindingDigest = some (receipt.bindingDigest host) ∧ s.claimFingerprint = claimFingerprint

/-- `_holds_handoff_claim` -/
def holdsHandoffClaim (progress : HandoffProgress) : Bool :=
  s.handoffOwnerToken = some self ∧ s.handoffFingerprint = some progress.handoffFingerprint ∧ s.handoffBindingDigest.isSome ∧
    s.handoffOwnerClaimFingerprint = some progress.ownerClaimFingerprint ∧
    s.handoffOwnerClaimGeneration = some progress.ownerClaimGeneration

/-- `_clear_authority_claim` -/
def clearAuthorityClaim : Store :=
  { s with claimOwnerToken := none, claimReceiptFingerprint := none, claimBindingDigest := none, claimFingerprint := none }

/-- `_clear_handoff_claim` -/
def clearHandoffClaim : Store :=
  { s with
    handoffOwnerToken := none
    handoffFingerprint := none
    handoffBindingDigest := none
    handoffOwnerClaimFingerprint := none
    handoffOwnerClaimGeneration := none }

variable {s} {a b : DeploymentAuthorityHandoffReceipt}

theorem isActive_self (h : s.active = some a) : s.isActive a = true := by
  rw [isActive, h]
  exact a.same_refl

/-- Receipts that the store takes for the active one it takes for one another. -/
theorem isActive_same (ha : s.isActive a = true) (hb : s.isActive b = true) : a.same b = true := by
  obtain ⟨active, hactive, ha⟩ := (Option.any_eq_true _ _).1 ha
  obtain ⟨active', hactive', hb⟩ := (Option.any_eq_true _ _).1 hb
  obtain rfl := Option.some.inj (hactive.symm.trans hactive')
  exact DeploymentAuthorityHandoffReceipt.same_trans (DeploymentAuthorityHandoffReceipt.same_symm ha) hb

end Store

/-! ## Checks of the evidence -/

/-- `_receipt_current` -/
def receiptCurrent (receipt : DeploymentAuthorityHandoffReceipt) : Clock → Bool
  | .utc now => receipt.issuedAt ≤ now ∧ now < receipt.expiresAt
  | .other => false

/-- `_verification_matches` -/
def verificationMatches (host : Host) (receipt : DeploymentAuthorityHandoffReceipt)
    (verification : Option DeploymentAuthorityReceiptVerification) : Bool :=
  verification.any fun v => v.status = .fresh ∧ v.receiptFingerprint = receipt.receiptFingerprint ∧
    v.receiptBindingDigest = receipt.bindingDigest host ∧ v.repositoryFingerprint = receipt.identity.repositoryFingerprint ∧
    v.stateStoreFingerprint = receipt.identity.stateStoreFingerprint ∧ v.stateId = receipt.identity.stateId ∧
    v.candidateSha = receipt.identity.candidateSha ∧ v.environmentFingerprint = receipt.identity.environmentFingerprint

/-- What `_recovery_matches` is told about the old receipt: the receipt, or the digest of its binding and its
fingerprint. -/
inductive OldReceipt where
  | receipt (receipt : DeploymentAuthorityHandoffReceipt)
  | binding (bindingDigest receiptFingerprint : Fingerprint)

def OldReceipt.bindingDigest (host : Host) : OldReceipt → Fingerprint
  | .receipt r => r.bindingDigest host
  | .binding digest _ => digest

def OldReceipt.receiptFingerprint : OldReceipt → Fingerprint
  | .receipt r => r.receiptFingerprint
  | .binding _ fingerprint => fingerprint

/-- `claim.observed_at <= now < claim.expires_at` -/
def HandoffRecoveryClaim.current (claim : HandoffRecoveryClaim) : Clock → Bool
  | .utc now => claim.observedAt ≤ now ∧ now < claim.expiresAt
  | .other => false

/-- `_recovery_matches` -/
def recoveryMatches (host : Host) (s : Store) (claim : HandoffRecoveryClaim) (handoffFingerprint : Fingerprint)
    (old : Option OldReceipt) (priorOwnerClaimFingerprint : Option Fingerprint) (priorOwnerClaimGeneration : Int)
    (now : Clock) : Bool :=
  claim.status = .staleOwner && old.any fun old =>
    claim.handoffFingerprint = handoffFingerprint ∧ claim.oldReceiptFingerprint = old.receiptFingerprint ∧
      claim.receiptBindingDigest = old.bindingDigest host ∧ claim.stateStoreFingerprint = s.stateStoreFingerprint ∧
      claim.stateId = s.stateId ∧ some claim.priorOwnerClaimFingerprint = priorOwnerClaimFingerprint ∧
      claim.priorOwnerClaimGeneration = priorOwnerClaimGeneration ∧ claim.current now

/-- `_same_authority_domain` -/
def sameAuthorityDomain (left right : DeploymentAuthorityIdentity) : Bool :=
  left.repositoryFingerprint = right.repositoryFingerprint ∧
    left.canonicalCheckoutFingerprint = right.canonicalCheckoutFingerprint ∧
    left.stateStoreFingerprint = right.stateStoreFingerprint ∧ left.stateId = right.stateId ∧
    left.runtimeBinding.same right.runtimeBinding

/-! ## The operations -/

/-- What an operation is: it may raise, and leaves what it has written. -/
abbrev Operation := Tx Error Store HandoffDecision

def denied (reason : String) : Operation := pure ⟨false, reason, none⟩

/-- The decision with which an operation ends after its last write. -/
def decided (s : Store) (reason : String) (receiptFingerprint : Fingerprint) : Except Error HandoffDecision × Store :=
  (.ok ⟨true, reason, some receiptFingerprint⟩, s)

/-- The writes of an operation, the last of which makes the progress. -/
def progressed (s : Store) (progress : Except Error HandoffProgress) (reason : String) (receiptFingerprint : Fingerprint) :
    Except Error HandoffDecision × Store :=
  match progress with
  | .ok progress => decided { s with progress := some progress } reason receiptFingerprint
  | .error e => (.error e, s)

section Operations

variable (host : Host) (self : Nat)

/-- `activate_initial` -/
def activateInitial (receipt : DeploymentAuthorityHandoffReceipt)
    (verification : DeploymentAuthorityReceiptVerification) (now : Clock) : Operation := fun s =>
  if s.receiptNames receipt = false then denied "receipt does not name the canonical authority state" s
  else if receiptCurrent receipt now = false then denied "receipt is not current" s
  else if verificationMatches host receipt verification = false then denied "receipt lacks fresh canonical verification" s
  else if s.active ≠ none ∨ s.progress ≠ none then denied "an authority is already active or handing off" s
  else if receipt.receiptFingerprint ∈ s.revoked then denied "receipt was revoked" s
  else decided ({ s with active := some receipt, verification := some verification }.clearAuthorityClaim.clearHandoffClaim)
    "initial receipt is the sole active authority" receipt.receiptFingerprint

/-- The claim of the active receipt, when nobody holds one. -/
def acquired (receipt : DeploymentAuthorityHandoffReceipt) (claimFingerprint : Fingerprint) (s : Store) : Store :=
  { s with
    claimOwnerToken := some self
    claimReceiptFingerprint := some receipt.receiptFingerprint
    claimBindingDigest := some (receipt.bindingDigest host)
    claimFingerprint := some claimFingerprint
    claimGeneration := s.claimGeneration + 1 }

/-- `claim_orchestrator` -/
def claimOrchestrator (receipt : DeploymentAuthorityHandoffReceipt) (claimFingerprint : String) (now : Clock) : Operation := do
  let claimFingerprint ← Tx.check (requireFingerprint claimFingerprint "orchestrator claim")
  fun s =>
    if s.progress ≠ none then denied "authority handoff is incomplete; no orchestrator may claim it" s
    else if s.isActive receipt = false ∨ s.receiptNames receipt = false then
      denied "receipt is absent, copied, revoked, or not the active authority" s
    else if receiptCurrent receipt now = false ∨ verificationMatches host receipt s.verification = false then
      denied "receipt lacks fresh canonical verification" s
    else if s.claimOwnerToken = none then
      decided (acquired host self receipt claimFingerprint s) "exclusive canonical orchestrator claim acquired"
        receipt.receiptFingerprint
    else if s.holdsClaim host self receipt (some claimFingerprint) then
      decided s "exclusive canonical orchestrator claim remains current" receipt.receiptFingerprint
    else denied "receipt is copied or conflicting; another orchestrator holds the canonical claim" s

/-- `authorize` -/
def authorize (identity : DeploymentAuthorityIdentity) (receipt : DeploymentAuthorityHandoffReceipt) (now : Clock) :
    Operation := fun s =>
  if s.receiptNames receipt = false then denied "authority identity is unavailable or names another state store" s
  else if s.progress ≠ none then denied "authority handoff is incomplete; dispatch remains blocked" s
  else if s.isActive receipt = false then denied "receipt is absent, copied, revoked, or not the active authority" s
  else if receipt.receiptFingerprint ∈ s.revoked then denied "receipt was revoked" s
  else if verificationMatches host receipt s.verification = false then denied "receipt lacks fresh canonical verification" s
  else if s.holdsClaim host self receipt s.claimFingerprint = false then
    denied "receipt has no exclusive canonical orchestrator claim" s
  else if receipt.identity.same identity = false then denied "receipt does not match deployment candidate or environment" s
  else if receiptCurrent receipt now = false then denied "receipt is stale or not yet active" s
  else decided s "one exact authority receipt is current" receipt.receiptFingerprint

/-- The store with the coordinator as the owner of a handoff. -/
def ownHandoff (handoffFingerprint bindingDigest ownerClaimFingerprint : Fingerprint) (ownerClaimGeneration : Int)
    (s : Store) : Store :=
  { s with
    handoffOwnerToken := some self
    handoffFingerprint := some handoffFingerprint
    handoffBindingDigest := some bindingDigest
    handoffOwnerClaimFingerprint := some ownerClaimFingerprint
    handoffOwnerClaimGeneration := some ownerClaimGeneration }

/-- `recovery_is_valid` of `begin_handoff`. -/
def recoveryIsValid (s : Store) (oldReceipt : DeploymentAuthorityHandoffReceipt) (handoffFingerprint : Fingerprint)
    (now : Clock) (claim : HandoffRecoveryClaim) : Bool :=
  recoveryMatches host s claim handoffFingerprint (some (.receipt oldReceipt)) s.claimFingerprint s.claimGeneration
    now && claim.evidenceFingerprint ∉ s.consumedRecoveryEvidenceFingerprints

/-- The last part of `begin_handoff`: the progress, then its owner, then the evidence that was used up. -/
def begun (oldReceipt : DeploymentAuthorityHandoffReceipt) (newIdentity : DeploymentAuthorityIdentity)
    (handoffFingerprint : Fingerprint) (recovery : Option HandoffRecoveryClaim) : Operation := fun s =>
  let ownerClaimFingerprint := (recovery.map (·.replacementOwnerClaimFingerprint)).or s.claimFingerprint
  let ownerClaimGeneration := (recovery.map (·.priorOwnerClaimGeneration + 1)).getD s.claimGeneration
  let consumed := (recovery.map (·.evidenceFingerprint)).toList
  match HandoffProgress.make handoffFingerprint oldReceipt.receiptFingerprint newIdentity .stopping none
      ownerClaimFingerprint ownerClaimGeneration consumed with
  | .error e => (.error e, s)
  | .ok progress =>
    let s := ownHandoff self handoffFingerprint (oldReceipt.bindingDigest host) progress.ownerClaimFingerprint
      progress.ownerClaimGeneration { s with progress := some progress }
    decided { s with consumedRecoveryEvidenceFingerprints := consumed ++ s.consumedRecoveryEvidenceFingerprints }
      "old authority is now non-dispatching pending reconciliation" oldReceipt.receiptFingerprint

/-- `begin_handoff` -/
def beginHandoff (oldReceipt : DeploymentAuthorityHandoffReceipt) (newIdentity : DeploymentAuthorityIdentity)
    (handoffFingerprint : String) (now : Clock) (recoveryClaim : Option HandoffRecoveryClaim) : Operation := do
  let handoffFingerprint ← Tx.check (requireFingerprint handoffFingerprint "handoff")
  fun s =>
    let freshOwnerClaim := s.holdsClaim host self oldReceipt s.claimFingerprint && receiptCurrent oldReceipt now
    let valid := recoveryClaim.filter (recoveryIsValid host s oldReceipt handoffFingerprint now)
    if s.progress ≠ none then denied "another handoff is already incomplete" s
    else if s.isActive oldReceipt = false ∨ s.receiptNames oldReceipt = false then
      denied "old receipt is not the active canonical authority" s
    else if freshOwnerClaim ∧ recoveryClaim ≠ none then denied "fresh authority cannot begin a handoff with recovery evidence" s
    else if freshOwnerClaim = false ∧ valid = none then
      denied "old authority claim is unavailable and lacks fresh unreplayed recovery verification" s
    else if s.identityNames newIdentity = false then denied "new authority names another state store" s
    else if sameAuthorityDomain oldReceipt.identity newIdentity = false then
      denied "new authority does not match the canonical repository state" s
    else if oldReceipt.identity.same newIdentity then denied "handoff must select a distinct candidate or environment" s
    else begun host self oldReceipt newIdentity handoffFingerprint valid s

/-- What is left of the old receipt while a handoff is open. -/
def Store.oldReceipt (s : Store) (progress : HandoffProgress) : Option OldReceipt :=
  match s.active with
  | some active => some (.receipt active)
  | none => s.handoffBindingDigest.map (.binding · progress.oldReceiptFingerprint)

/-- `recover_handoff` -/
def recoverHandoff (claim : HandoffRecoveryClaim) (now : Clock) : Operation := fun s =>
  match s.progress with
  | none => denied "no interrupted handoff can be recovered" s
  | some progress =>
    if recoveryMatches host s claim progress.handoffFingerprint (s.oldReceipt progress)
          (some progress.ownerClaimFingerprint) progress.ownerClaimGeneration now = false ∨
        claim.evidenceFingerprint ∈ s.consumedRecoveryEvidenceFingerprints then
      denied "handoff recovery lacks exact stale-owner verification" s
    else
      let owned := ownHandoff self progress.handoffFingerprint claim.receiptBindingDigest
        claim.replacementOwnerClaimFingerprint (claim.priorOwnerClaimGeneration + 1) s
      progressed
        { owned with
          consumedRecoveryEvidenceFingerprints := claim.evidenceFingerprint :: s.consumedRecoveryEvidenceFingerprints }
        (HandoffProgress.make progress.handoffFingerprint progress.oldReceiptFingerprint progress.newIdentity
          progress.phase progress.reconciliation (some claim.replacementOwnerClaimFingerprint) (claim.priorOwnerClaimGeneration + 1)
          (progress.consumedRecoveryEvidenceFingerprints ++ [claim.evidenceFingerprint]))
        "independently verified stale-owner recovery claim acquired" progress.oldReceiptFingerprint

/-- The progress in another phase. -/
def HandoffProgress.advance (progress : HandoffProgress) (phase : HandoffPhase) (reconciliation : Option HandoffReconciliation) :
    Except Error HandoffProgress :=
  HandoffProgress.make progress.handoffFingerprint progress.oldReceiptFingerprint progress.newIdentity phase
    reconciliation (some progress.ownerClaimFingerprint) progress.ownerClaimGeneration progress.consumedRecoveryEvidenceFingerprints

def notOwned : String := "handoff is owned by another coordinator or requires recovery verification"

/-- `reconcile` -/
def reconcile (evidence : HandoffReconciliation) : Operation := fun s =>
  match s.progress.filter (·.phase = .stopping) with
  | none => denied "no stopping handoff can accept reconciliation evidence" s
  | some progress =>
    if s.holdsHandoffClaim self progress = false then denied notOwned s
    else if evidence.handoffFingerprint ≠ progress.handoffFingerprint ∨
        evidence.oldReceiptFingerprint ≠ progress.oldReceiptFingerprint ∨
        evidence.stateStoreFingerprint ≠ s.stateStoreFingerprint ∨ evidence.stateId ≠ s.stateId ∨ evidence.complete = false then
      denied "reconciliation evidence is incomplete or does not match machine truth" s
    else progressed s (progress.advance .reconciled (some evidence)) "old authority is reconciled and may be revoked"
      progress.oldReceiptFingerprint

/-- `revoke_old_receipt` -/
def revokeOldReceipt (handoffFingerprint : String) : Operation := do
  let handoffFingerprint ← Tx.check (requireFingerprint handoffFingerprint "handoff")
  fun s =>
    match s.progress.filter fun p => p.phase = .reconciled ∧ p.handoffFingerprint = handoffFingerprint with
    | none => denied "old receipt cannot be revoked before matching reconciliation" s
    | some progress =>
      if s.holdsHandoffClaim self progress = false then denied notOwned s
      else
        match s.active.filter (·.receiptFingerprint = progress.oldReceiptFingerprint) with
        | none => denied "machine truth no longer contains the old active receipt" s
        | some active =>
          progressed
            ({ s with
              revoked := active.receiptFingerprint :: s.revoked
              active := none
              verification := none }.clearAuthorityClaim)
            (progress.advance .revoked progress.reconciliation) "old receipt is revoked; no authority is dispatching"
            active.receiptFingerprint

/-- The store after the last step of a handoff: the replacement is active and claimed by the owner of the handoff. -/
def issued (receipt : DeploymentAuthorityHandoffReceipt) (verification : DeploymentAuthorityReceiptVerification)
    (progress : HandoffProgress) (s : Store) : Store :=
  { s with
    active := some receipt
    verification := some verification
    claimOwnerToken := some self
    claimReceiptFingerprint := some receipt.receiptFingerprint
    claimBindingDigest := some (receipt.bindingDigest host)
    claimFingerprint := some progress.ownerClaimFingerprint
    claimGeneration := progress.ownerClaimGeneration
    progress := none }.clearHandoffClaim

/-- `issue_new_receipt` -/
def issueNewReceipt (receipt : DeploymentAuthorityHandoffReceipt)
    (verification : DeploymentAuthorityReceiptVerification) (handoffFingerprint : String) (now : Clock) : Operation := do
  let handoffFingerprint ← Tx.check (requireFingerprint handoffFingerprint "handoff")
  fun s =>
    match s.progress.filter fun p => p.phase = .revoked ∧ p.handoffFingerprint = handoffFingerprint with
    | none => denied "new receipt cannot issue before old receipt revocation" s
    | some progress =>
      if s.holdsHandoffClaim self progress = false then denied notOwned s
      else if receipt.identity.same progress.newIdentity = false ∨ s.receiptNames receipt = false then
        denied "new receipt does not match the reconciled handoff target" s
      else if receiptCurrent receipt now = false ∨ receipt.receiptFingerprint ∈ s.revoked ∨
          verificationMatches host receipt verification = false then
        denied "new receipt is stale, revoked, or not yet active" s
      else decided (issued host self receipt verification progress s) "new receipt is the sole active authority"
        receipt.receiptFingerprint

/-- `complete_teardown` -/
def completeTeardown (evidence : HandoffTeardown) : Operation := fun s =>
  match s.progress.filter (·.phase = .revoked) with
  | none => denied "no revoked handoff can complete teardown" s
  | some progress =>
    if s.holdsHandoffClaim self progress = false then denied notOwned s
    else if evidence.handoffFingerprint ≠ progress.handoffFingerprint ∨
        evidence.oldReceiptFingerprint ≠ progress.oldReceiptFingerprint ∨
        evidence.stateStoreFingerprint ≠ s.stateStoreFingerprint ∨ evidence.stateId ≠ s.stateId ∨
        evidence.resourcesTornDown = false ∨ s.active ≠ none then
      denied "teardown evidence is incomplete or does not match revoked machine truth" s
    else decided ({ s with progress := none }.clearHandoffClaim)
      "revoked handoff resources are torn down and no authority is active" evidence.oldReceiptFingerprint

end Operations

/-! ## Calls -/

/-- One operation with its arguments. -/
inductive Operation.Request where
  | activateInitial (receipt : DeploymentAuthorityHandoffReceipt)
      (verification : DeploymentAuthorityReceiptVerification) (now : Clock)
  | claimOrchestrator (receipt : DeploymentAuthorityHandoffReceipt) (claimFingerprint : String) (now : Clock)
  | authorize (identity : DeploymentAuthorityIdentity) (receipt : DeploymentAuthorityHandoffReceipt) (now : Clock)
  | beginHandoff (oldReceipt : DeploymentAuthorityHandoffReceipt) (newIdentity : DeploymentAuthorityIdentity)
    (handoffFingerprint : String) (now : Clock) (recoveryClaim : Option HandoffRecoveryClaim)
  | recoverHandoff (claim : HandoffRecoveryClaim) (now : Clock)
  | reconcile (evidence : HandoffReconciliation)
  | revokeOldReceipt (handoffFingerprint : String)
  | issueNewReceipt (receipt : DeploymentAuthorityHandoffReceipt)
    (verification : DeploymentAuthorityReceiptVerification) (handoffFingerprint : String) (now : Clock)
  | completeTeardown (evidence : HandoffTeardown)

/-- A call by one of the coordinators. -/
structure Call where
  self : Nat
  request : Operation.Request

def Call.run (host : Host) (call : Call) : Operation :=
  match call.request with
  | .activateInitial receipt verification now => activateInitial host receipt verification now
  | .claimOrchestrator receipt claimFingerprint now => claimOrchestrator host call.self receipt claimFingerprint now
  | .authorize identity receipt now => authorize host call.self identity receipt now
  | .beginHandoff oldReceipt newIdentity handoffFingerprint now recoveryClaim =>
    beginHandoff host call.self oldReceipt newIdentity handoffFingerprint now recoveryClaim
  | .recoverHandoff claim now => recoverHandoff host call.self claim now
  | .reconcile evidence => reconcile call.self evidence
  | .revokeOldReceipt handoffFingerprint => revokeOldReceipt call.self handoffFingerprint
  | .issueNewReceipt receipt verification handoffFingerprint now =>
    issueNewReceipt host call.self receipt verification handoffFingerprint now
  | .completeTeardown evidence => completeTeardown call.self evidence

/-- The store after a call. -/
def Call.after (host : Host) (call : Call) (s : Store) : Store := (call.run host s).2

end Roundwright.Handoff
