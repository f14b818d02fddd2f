/-
Runs of the coordinator operations on one store. `Effect` is what one call can have done, and from it come the invariant
of the store, the course of a handoff and its ownership: in every state at most one coordinator is authorized, and an
open handoff is moved on by the coordinator that began it or recovered it last.
-/
import Roundwright.Handoff.Coordinator

namespace Roundwright.Handoff

open Lib State

/-! ## Runs -/

/-- The receipt that something was granted for. -/
def grantedFor : Except Error HandoffDecision → Option Fingerprint
  | .ok decision => if decision.authorized then decision.receiptFingerprint else none
  | .error _ => none

def Call.answer (host : Host) (call : Call) (s : Store) : Option Fingerprint := grantedFor (call.run host s).1

/-- Who owns the deployment, as recovery evidence names it. -/
structure OwnerClaim where
  fingerprint : Fingerprint
  generation : Int
deriving DecidableEq

def Store.authorityClaim (s : Store) : Option OwnerClaim := s.claimFingerprint.map (⟨·, s.claimGeneration⟩)

def Store.handoffClaim (s : Store) : Option OwnerClaim :=
  s.progress.map fun p => ⟨p.ownerClaimFingerprint, p.ownerClaimGeneration⟩

/-- A call and what came of it: the receipt it was granted for, and the owner claim it made. -/
structure Event where
  call : Call
  answer : Option Fingerprint
  claim : Option OwnerClaim

/-- The owner claim that a granted call has made. -/
def Operation.Request.claims (request : Operation.Request) (s' : Store) : Option OwnerClaim :=
  match request with
  | .claimOrchestrator .. => s'.authorityClaim
  | .beginHandoff _ _ _ _ (some _) => s'.handoffClaim
  | .recoverHandoff .. => s'.handoffClaim
  | .issueNewReceipt .. => s'.authorityClaim
  | _ => none

def Call.event (host : Host) (call : Call) (s : Store) : Event :=
  ⟨call, call.answer host s, (call.answer host s).bind fun _ => call.request.claims (call.after host s)⟩

/-- Calls of any coordinators, one after another, each allowed in the state it is made in. -/
inductive Run (host : Host) (allowed : Store → Call → Prop) (start : Store) : List Event → Store → Prop
  | nil : Run host allowed start [] start
  | snoc {log : List Event} {s : Store} (run : Run host allowed start log s) (call : Call) (may : allowed s call) :
      Run host allowed start (log ++ [call.event host s]) (call.after host s)

/-- Whatever the calls are. -/
def AnyCall (_ : Store) (_ : Call) : Prop := True

/-- The fingerprint a granted revocation has revoked. -/
def Event.revoked (e : Event) : Option Fingerprint :=
  match e.call.request with
  | .revokeOldReceipt _ => e.answer
  | _ => none

/-- The handoff that the call makes its coordinator the owner of. -/
def Event.owns (e : Event) : Option (Nat × Fingerprint) :=
  match e.call.request, e.answer with
  | .beginHandoff _ _ handoffFingerprint _ _, some _ => (Hex.ofText? 64 handoffFingerprint).map (e.call.self, ·)
  | .recoverHandoff claim _, some _ => some (e.call.self, claim.handoffFingerprint)
  | _, _ => none

/-- The coordinator whose beginning or recovery of a handoff was the last to be granted, with that handoff. -/
def lastOwner (log : List Event) : Option (Nat × Fingerprint) := (log.filterMap Event.owns).getLast?

/-! ## What a call has done -/

/-- The owner claim a handoff begins with: the one on the receipt, or the one that the evidence puts in its place. -/
inductive BeginsWith (s : Store) (p : HandoffProgress) : Option HandoffRecoveryClaim → Prop where
  | held (fingerprint : s.claimFingerprint = some p.ownerClaimFingerprint)
    (generation : p.ownerClaimGeneration = s.claimGeneration) (consumed : p.consumedRecoveryEvidenceFingerprints = []) :
      BeginsWith s p none
  | recovered (claim : HandoffRecoveryClaim) (prior : s.claimFingerprint = some claim.priorOwnerClaimFingerprint)
    (priorGeneration : claim.priorOwnerClaimGeneration = s.claimGeneration)
    (fingerprint : p.ownerClaimFingerprint = claim.replacementOwnerClaimFingerprint)
    (generation : p.ownerClaimGeneration = s.claimGeneration + 1)
    (consumed : p.consumedRecoveryEvidenceFingerprints = [claim.evidenceFingerprint]) : BeginsWith s p (some claim)

/-- The progress of the same handoff. -/
structure HandoffProgress.Continues (p p' : HandoffProgress) : Prop where
  handoff : p'.handoffFingerprint = p.handoffFingerprint
  old : p'.oldReceiptFingerprint = p.oldReceiptFingerprint
  new : p'.newIdentity = p.newIdentity

/-- The progress moved to another phase by its owner. -/
structure HandoffProgress.Advances (p p' : HandoffProgress) : Prop extends p.Continues p' where
  owner : p'.ownerClaimFingerprint = p.ownerClaimFingerprint
  generation : p'.ownerClaimGeneration = p.ownerClaimGeneration
  consumed : p'.consumedRecoveryEvidenceFingerprints = p.consumedRecoveryEvidenceFingerprints

inductive Effect (host : Host) (s : Store) : Call → Option Fingerprint → Store → Prop where
  | denied {call : Call} : Effect host s call none s
  | authorized {self : Nat} {identity receipt now} (answer : Option Fingerprint) :
    Effect host s ⟨self, .authorize identity receipt now⟩ answer s
  | activated {self : Nat} {receipt verification now} (free : s.active = none) (closed : s.progress = none)
    (unrevoked : receipt.receiptFingerprint ∉ s.revoked) (current : receiptCurrent receipt now = true) :
    Effect host s ⟨self, .activateInitial receipt verification now⟩ (some receipt.receiptFingerprint)
      ({ s with active := some receipt, verification := some verification }.clearAuthorityClaim.clearHandoffClaim)
  | claimed {self : Nat} {receipt text now} (claimFingerprint : Fingerprint) (closed : s.progress = none)
    (active : s.isActive receipt = true) (free : s.claimOwnerToken = none) :
    Effect host s ⟨self, .claimOrchestrator receipt text now⟩ (some receipt.receiptFingerprint)
      (acquired host self receipt claimFingerprint s)
  | reclaimed {self : Nat} {receipt text now} (closed : s.progress = none) :
    Effect host s ⟨self, .claimOrchestrator receipt text now⟩ (some receipt.receiptFingerprint) s
  | began {self : Nat} {old new text now} {recovery : Option HandoffRecoveryClaim} (p : HandoffProgress)
    (handoff : Hex.ofText? 64 text = some p.handoffFingerprint) (closed : s.progress = none)
    (phase : p.phase = .stopping) (begins : BeginsWith s p recovery) :
    Effect host s ⟨self, .beginHandoff old new text now recovery⟩ (some old.receiptFingerprint)
      { ownHandoff self p.handoffFingerprint (old.bindingDigest host) p.ownerClaimFingerprint p.ownerClaimGeneration s with
        progress := some p
        consumedRecoveryEvidenceFingerprints :=
          p.consumedRecoveryEvidenceFingerprints ++ s.consumedRecoveryEvidenceFingerprints }
  | recovered {self : Nat} {claim now} (p p' : HandoffProgress) (open_ : s.progress = some p)
    (handoff : claim.handoffFingerprint = p.handoffFingerprint) (continues : p.Continues p') (phase : p'.phase = p.phase)
    (evidence : p'.reconciliation = p.reconciliation) (generation : p'.ownerClaimGeneration = p.ownerClaimGeneration + 1)
    (consumed : p'.consumedRecoveryEvidenceFingerprints = p.consumedRecoveryEvidenceFingerprints ++
      [claim.evidenceFingerprint]) :
    Effect host s ⟨self, .recoverHandoff claim now⟩ (some p.oldReceiptFingerprint)
      { ownHandoff self p.handoffFingerprint claim.receiptBindingDigest p'.ownerClaimFingerprint p'.ownerClaimGeneration s with
        progress := some p'
        consumedRecoveryEvidenceFingerprints := claim.evidenceFingerprint :: s.consumedRecoveryEvidenceFingerprints }
  | reconciled {self : Nat} {evidence} (p p' : HandoffProgress) (open_ : s.progress = some p)
    (phase : p.phase = .stopping) (held : s.holdsHandoffClaim self p = true) (advances : p.Advances p')
      (next : p'.phase = .reconciled)
    (recorded : p'.reconciliation = some evidence) (handoff : evidence.handoffFingerprint = p.handoffFingerprint)
    (old : evidence.oldReceiptFingerprint = p.oldReceiptFingerprint) :
    Effect host s ⟨self, .reconcile evidence⟩ (some p.oldReceiptFingerprint) { s with progress := some p' }
  | revoked {self : Nat} {text} (p p' : HandoffProgress) (active : DeploymentAuthorityHandoffReceipt)
    (open_ : s.progress = some p) (phase : p.phase = .reconciled) (held : s.holdsHandoffClaim self p = true)
      (is : s.active = some active)
    (advances : p.Advances p') (next : p'.phase = .revoked) (recorded : p'.reconciliation = p.reconciliation) :
    Effect host s ⟨self, .revokeOldReceipt text⟩ (some active.receiptFingerprint)
      { s.clearAuthorityClaim with
        revoked := active.receiptFingerprint :: s.revoked
        active := none
        verification := none
        progress := some p' }
  | issued {self : Nat} {receipt verification text now} (p : HandoffProgress) (open_ : s.progress = some p)
    (phase : p.phase = .revoked) (held : s.holdsHandoffClaim self p = true)
      (identity : receipt.identity.same p.newIdentity = true)
    (unrevoked : receipt.receiptFingerprint ∉ s.revoked) (current : receiptCurrent receipt now = true) :
    Effect host s ⟨self, .issueNewReceipt receipt verification text now⟩ (some receipt.receiptFingerprint)
      (issued host self receipt verification p s)
  | tornDown {self : Nat} {evidence} (p : HandoffProgress) (open_ : s.progress = some p) (phase : p.phase = .revoked)
    (held : s.holdsHandoffClaim self p = true) (none_ : s.active = none) :
    Effect host s ⟨self, .completeTeardown evidence⟩ (some evidence.oldReceiptFingerprint)
      ({ s with progress := none }.clearHandoffClaim)

/-! ## The invariant -/

structure Inv (s : Store) : Prop where
  claimed : ∀ token, s.claimOwnerToken = some token → ∃ fingerprint, s.claimFingerprint = some fingerprint
  start : 0 ≤ s.claimGeneration
  generation : ∀ fingerprint, s.claimFingerprint = some fingerprint → 1 ≤ s.claimGeneration
  ofActive : s.active = none → s.claimFingerprint = none
  unrevoked : ∀ receipt, s.active = some receipt → receipt.receiptFingerprint ∉ s.revoked
  consumed : ∀ p, s.progress = some p → p.consumedRecoveryEvidenceFingerprints ⊆ s.consumedRecoveryEvidenceFingerprints
  evidence : ∀ p e, s.progress = some p → p.reconciliation = some e →
    e.handoffFingerprint = p.handoffFingerprint ∧ e.oldReceiptFingerprint = p.oldReceiptFingerprint

variable {host : Host} {s : Store}

theorem Inv.initial (stateStoreFingerprint : Fingerprint) (stateId : Uuid) : Inv (.initial stateStoreFingerprint stateId) := by
  constructor <;> simp [Store.initial]

/-! ## The operations -/

theorem HandoffProgress.make_eq {handoff old owner : Fingerprint} {new : DeploymentAuthorityIdentity}
    {phase : HandoffPhase} {reconciliation : Option HandoffReconciliation} {generation : Int}
    {consumed : List Fingerprint} (h : 1 ≤ generation) (hn : consumed.Nodup)
    (he : if phase = .stopping then reconciliation = none else reconciliation.any (·.complete) = true) :
    HandoffProgress.make handoff old new phase reconciliation (some owner) generation consumed =
      .ok ⟨handoff, old, new, phase, reconciliation, owner, generation, consumed, h, hn, he⟩ := by
  simp only [HandoffProgress.make, demand, ok_bind, dif_pos h, dif_pos hn, dif_pos he]
  rfl

theorem requireFingerprint_ok {text description : String} {fingerprint : Fingerprint} :
    requireFingerprint text description = .ok fingerprint ↔ Hex.ofText? 64 text = some fingerprint := demand_eq_ok

/-- The outcome of an operation is one of the effects. -/
def Does (host : Host) (s : Store) (call : Call) (outcome : Except Error HandoffDecision × Store) : Prop :=
  Effect host s call (grantedFor outcome.1) outcome.2

theorem Does.denied (call : Call) (reason : String) : Does host s call (Handoff.denied reason s) := Effect.denied

theorem Does.raised (call : Call) (e : Error) : Does host s call (.error e, s) := Effect.denied

/-- An operation that starts with a check of a fingerprint. -/
theorem Does.fingerprint {call : Call} {text description : String} {rest : Fingerprint → Operation}
    (h : ∀ fingerprint, Hex.ofText? 64 text = some fingerprint → Does host s call (rest fingerprint s)) :
    Does host s call ((Tx.check (requireFingerprint text description) >>= rest) s) := by
  cases hf : requireFingerprint text description with
  | error e => exact .raised call e
  | ok fingerprint => exact h fingerprint (requireFingerprint_ok.1 hf)

variable {now : Clock}

section Operations

variable (self : Nat)

theorem activateInitial_does (receipt : DeploymentAuthorityHandoffReceipt)
    (verification : DeploymentAuthorityReceiptVerification) (now : Clock) :
    Does host s ⟨self, .activateInitial receipt verification now⟩ (activateInitial host receipt verification now s) := by
  unfold activateInitial
  split_ifs with _ hcurrent _ hbusy hrevoked
  iterate 5 exact .denied _ _
  rw [not_or, not_not, not_not] at hbusy
  exact Effect.activated hbusy.1 hbusy.2 hrevoked (by simpa using hcurrent)

theorem claimOrchestrator_does (receipt : DeploymentAuthorityHandoffReceipt) (claimFingerprint : String) (now : Clock) :
    Does host s ⟨self, .claimOrchestrator receipt claimFingerprint now⟩
      (claimOrchestrator host self receipt claimFingerprint now s) := by
  refine .fingerprint fun fingerprint _ => ?_
  split_ifs with hclosed hactive _ hfree
  iterate 3 exact .denied _ _
  · rw [not_or, Bool.not_eq_false] at hactive
    exact Effect.claimed fingerprint (not_not.1 hclosed) hactive.1 hfree
  · exact Effect.reclaimed (not_not.1 hclosed)
  · exact .denied _ _

theorem authorize_does (identity : DeploymentAuthorityIdentity) (receipt : DeploymentAuthorityHandoffReceipt) (now : Clock) :
    Does host s ⟨self, .authorize identity receipt now⟩ (authorize host self identity receipt now s) := by
  unfold authorize
  split_ifs
  iterate 8 exact .denied _ _
  exact Effect.authorized _

theorem recoveryMatches_prior {claim : HandoffRecoveryClaim} {handoffFingerprint : Fingerprint}
    {old : Option OldReceipt} {prior : Option Fingerprint} {generation : Int}
    (h : recoveryMatches host s claim handoffFingerprint old prior generation now = true) :
    claim.handoffFingerprint = handoffFingerprint ∧ prior = some claim.priorOwnerClaimFingerprint ∧
      claim.priorOwnerClaimGeneration = generation := by
  unfold recoveryMatches at h
  rw [Bool.and_eq_true, Option.any_eq_true] at h
  obtain ⟨-, o, -, h⟩ := h
  simp only [decide_eq_true_eq] at h
  obtain ⟨hhandoff, -, -, -, -, hprior, hgeneration, -⟩ := h
  exact ⟨hhandoff, hprior.symm, hgeneration⟩

/-- The last part of the beginning of a handoff, by the owner claim that the progress is made with. -/
theorem begun_does {old : DeploymentAuthorityHandoffReceipt} {new : DeploymentAuthorityIdentity} {text : String}
    {handoffFingerprint owner : Fingerprint} {recovery : Option HandoffRecoveryClaim}
    (hf : Hex.ofText? 64 text = some handoffFingerprint) (hclosed : s.progress = none)
    (howner : (recovery.map (·.replacementOwnerClaimFingerprint)).or s.claimFingerprint = some owner)
    (hgeneration : 1 ≤ (recovery.map (·.priorOwnerClaimGeneration + 1)).getD s.claimGeneration)
    (hbegins : ∀ p : HandoffProgress, p.ownerClaimFingerprint = owner →
      p.ownerClaimGeneration = (recovery.map (·.priorOwnerClaimGeneration + 1)).getD s.claimGeneration →
      p.consumedRecoveryEvidenceFingerprints = (recovery.map (·.evidenceFingerprint)).toList → BeginsWith s p recovery) :
    Does host s ⟨self, .beginHandoff old new text now recovery⟩ (begun host self old new handoffFingerprint recovery s) := by
  have hnodup : (recovery.map (·.evidenceFingerprint)).toList.Nodup := by cases recovery <;> simp
  have hmake : HandoffProgress.make handoffFingerprint old.receiptFingerprint new .stopping none (some owner) _ _ = .ok _ :=
    HandoffProgress.make_eq hgeneration hnodup (by simp)
  unfold begun
  dsimp only
  rw [howner, hmake]
  exact Effect.began _ hf hclosed rfl (hbegins _ rfl rfl rfl)

theorem beginHandoff_does (h : Inv s) (old : DeploymentAuthorityHandoffReceipt) (new : DeploymentAuthorityIdentity)
    (handoffFingerprint : String) (now : Clock) (recoveryClaim : Option HandoffRecoveryClaim) :
    Does host s ⟨self, .beginHandoff old new handoffFingerprint now recoveryClaim⟩
      (beginHandoff host self old new handoffFingerprint now recoveryClaim s) := by
  refine .fingerprint fun fingerprint hf => ?_
  dsimp only
  split_ifs with hclosed _ hfresh hstale
  iterate 4 exact .denied _ _
  iterate 3 exact .denied _ _
  rw [not_not] at hclosed
  cases recoveryClaim with
  | none =>
    -- without evidence it is the holder of the claim that begins
    have hheld : s.claimOwnerToken = some self := by
      simp only [Option.filter_none, and_true, Bool.not_eq_false, Bool.and_eq_true, Store.holdsClaim,
        decide_eq_true_eq] at hstale
      exact hstale.1.1
    obtain ⟨owner, howner⟩ := h.claimed self hheld
    refine begun_does self hf hclosed howner (h.generation owner howner) fun p hp hg hc => ?_
    exact .held (by rw [hp]; exact howner) hg hc
  | some claim =>
    -- a fresh owner may not bring evidence, so the evidence is valid
    have hvalid : recoveryIsValid host s old fingerprint now claim = true := by
      by_contra hbad
      have hnone : (some claim).filter (recoveryIsValid host s old fingerprint now) = none := by
        rw [Option.filter_eq_none_iff]
        simpa using hbad
      simp only [ne_eq, reduceCtorEq, not_false_eq_true, and_true, Bool.not_eq_true] at hfresh
      exact hstale ⟨hfresh, hnone⟩
    rw [Option.filter_some_pos hvalid]
    simp only [recoveryIsValid, Bool.and_eq_true] at hvalid
    obtain ⟨-, hprior, hgeneration⟩ := recoveryMatches_prior hvalid.1
    have hpos : 1 ≤ claim.priorOwnerClaimGeneration + 1 := by
      have := claim.generation
      omega
    refine begun_does self hf hclosed rfl hpos fun p hp hg hc => ?_
    exact .recovered claim hprior hgeneration hp (by rw [← hgeneration]; exact hg) hc

theorem recoverHandoff_does (h : Inv s) (claim : HandoffRecoveryClaim) (now : Clock) :
    Does host s ⟨self, .recoverHandoff claim now⟩ (recoverHandoff host self claim now s) := by
  unfold recoverHandoff
  split
  · exact .denied _ _
  rename_i p hp
  split_ifs with hrefused
  · exact .denied _ _
  rw [not_or, Bool.not_eq_false] at hrefused
  obtain ⟨hhandoff, -, hgeneration⟩ := recoveryMatches_prior hrefused.1
  -- evidence that the store has not used up is new to the progress as well
  have hnodup : (p.consumedRecoveryEvidenceFingerprints ++ [claim.evidenceFingerprint]).Nodup := by
    refine List.nodup_append.2 ⟨p.history, List.nodup_singleton _, fun a ha b hb hab => ?_⟩
    rw [hab, List.mem_singleton.1 hb] at ha
    exact hrefused.2 (h.consumed p hp ha)
  have hpos : 1 ≤ claim.priorOwnerClaimGeneration + 1 := by
    have := claim.generation
    omega
  rw [HandoffProgress.make_eq hpos hnodup p.evidence]
  exact Effect.recovered p _ hp hhandoff ⟨rfl, rfl, rfl⟩ rfl rfl (by rw [← hgeneration]) rfl

/-- A new phase with its evidence. -/
theorem HandoffProgress.advance_eq (p : HandoffProgress) (phase : HandoffPhase)
    (reconciliation : Option HandoffReconciliation)
    (he : if phase = .stopping then reconciliation = none else reconciliation.any (·.complete) = true) :
    ∃ p', p.advance phase reconciliation = .ok p' ∧ p.Advances p' ∧ p'.phase = phase ∧ p'.reconciliation = reconciliation :=
  ⟨_, HandoffProgress.make_eq p.generation p.history he, ⟨⟨rfl, rfl, rfl⟩, rfl, rfl, rfl⟩, rfl, rfl⟩

theorem reconcile_does (evidence : HandoffReconciliation) :
    Does host s ⟨self, .reconcile evidence⟩ (reconcile self evidence s) := by
  unfold reconcile
  split
  · exact .denied _ _
  rename_i p hp
  obtain ⟨hp, hphase⟩ := Option.filter_eq_some_iff.1 hp
  rw [decide_eq_true_eq] at hphase
  split_ifs with hheld hbad
  iterate 2 exact .denied _ _
  simp only [not_or, not_not, Bool.not_eq_false] at hbad hheld
  obtain ⟨hhandoff, hold, -, -, hcomplete⟩ := hbad
  obtain ⟨p', hadvance, hadvances, hnext, hrecorded⟩ :=
    p.advance_eq .reconciled (some evidence) (by simpa using hcomplete)
  rw [hadvance]
  exact Effect.reconciled p p' hp hphase hheld hadvances hnext hrecorded hhandoff hold

theorem revokeOldReceipt_does (handoffFingerprint : String) :
    Does host s ⟨self, .revokeOldReceipt handoffFingerprint⟩ (revokeOldReceipt self handoffFingerprint s) := by
  refine .fingerprint fun fingerprint _ => ?_
  split
  · exact .denied _ _
  rename_i p hp
  obtain ⟨hp, hphase⟩ := Option.filter_eq_some_iff.1 hp
  rw [decide_eq_true_eq] at hphase
  split_ifs with hheld
  · exact .denied _ _
  rw [Bool.not_eq_false] at hheld
  split
  · exact .denied _ _
  rename_i active hactive
  obtain ⟨hactive, -⟩ := Option.filter_eq_some_iff.1 hactive
  have hevidence := p.evidence
  rw [if_neg (by rw [hphase.1]; decide)] at hevidence
  obtain ⟨p', hadvance, hadvances, hnext, hrecorded⟩ :=
    p.advance_eq .revoked p.reconciliation (by simpa using hevidence)
  rw [hadvance]
  exact Effect.revoked p p' active hp hphase.1 hheld hactive hadvances hnext hrecorded

theorem issueNewReceipt_does (receipt : DeploymentAuthorityHandoffReceipt)
    (verification : DeploymentAuthorityReceiptVerification) (handoffFingerprint : String) (now : Clock) :
    Does host s ⟨self, .issueNewReceipt receipt verification handoffFingerprint now⟩
      (issueNewReceipt host self receipt verification handoffFingerprint now s) := by
  refine .fingerprint fun fingerprint _ => ?_
  split
  · exact .denied _ _
  rename_i p hp
  obtain ⟨hp, hphase⟩ := Option.filter_eq_some_iff.1 hp
  rw [decide_eq_true_eq] at hphase
  split_ifs with hheld htarget hstale
  iterate 3 exact .denied _ _
  simp only [not_or, Bool.not_eq_false] at hheld htarget hstale
  exact Effect.issued p hp hphase.1 hheld htarget.1 hstale.2.1 hstale.1

theorem completeTeardown_does (evidence : HandoffTeardown) :
    Does host s ⟨self, .completeTeardown evidence⟩ (completeTeardown self evidence s) := by
  unfold completeTeardown
  split
  · exact .denied _ _
  rename_i p hp
  obtain ⟨hp, hphase⟩ := Option.filter_eq_some_iff.1 hp
  rw [decide_eq_true_eq] at hphase
  split_ifs with hheld hbad
  iterate 2 exact .denied _ _
  simp only [not_or, not_not, Bool.not_eq_false] at hheld hbad
  exact Effect.tornDown p hp hphase hheld hbad.2.2.2.2.2

end Operations

/-- What any call does to a store that keeps the invariant. -/
theorem Call.effect (h : Inv s) (call : Call) : Effect host s call (call.answer host s) (call.after host s) := by
  obtain ⟨self, request⟩ := call
  cases request with
  | activateInitial receipt verification now => exact activateInitial_does self receipt verification now
  | claimOrchestrator receipt claimFingerprint now => exact claimOrchestrator_does self receipt claimFingerprint now
  | authorize identity receipt now => exact authorize_does self identity receipt now
  | beginHandoff old new handoffFingerprint now recoveryClaim => exact beginHandoff_does self h old new handoffFingerprint now recoveryClaim
  | recoverHandoff claim now => exact recoverHandoff_does self h claim now
  | reconcile evidence => exact reconcile_does self evidence
  | revokeOldReceipt handoffFingerprint => exact revokeOldReceipt_does self handoffFingerprint
  | issueNewReceipt receipt verification handoffFingerprint now =>
    exact issueNewReceipt_does self receipt verification handoffFingerprint now
  | completeTeardown evidence => exact completeTeardown_does self evidence

/-! ## What every call keeps -/

variable {call : Call} {answer : Option Fingerprint} {s' : Store}

theorem Effect.inv (h : Effect host s call answer s') (hi : Inv s) : Inv s' := by
  have hkept := hi
  obtain ⟨hclaimed, hstart, hgeneration, hactive, hunrevoked, hconsumed, hevidence⟩ := hi
  -- each call sets only what the clauses about its own field speak of
  cases h with
  | denied => exact hkept
  | authorized => exact hkept
  | reclaimed => exact hkept
  | activated free closed unrevoked current =>
    refine ⟨fun _ h => (by cases h), hstart, fun _ h => (by cases h), fun _ => rfl, ?_, hconsumed, hevidence⟩
    rintro _ ⟨⟩
    exact unrevoked
  | claimed fingerprint closed active free =>
    refine ⟨fun _ _ => ⟨fingerprint, rfl⟩, ?_, fun _ _ => ?_, fun hnone => ?_, hunrevoked, hconsumed, hevidence⟩
    · show 0 ≤ s.claimGeneration + 1
      omega
    · show 1 ≤ s.claimGeneration + 1
      omega
    · rw [Store.isActive, show s.active = none from hnone] at active
      cases active
  | began p handoff closed phase begins =>
    refine ⟨hclaimed, hstart, hgeneration, hactive, hunrevoked, ?_, ?_⟩
    · rintro _ ⟨⟩
      exact List.subset_append_left _ _
    · rintro _ e ⟨⟩ he
      have hnone := p.evidence
      rw [if_pos phase, he] at hnone
      cases hnone
  | recovered p p' open_ handoff continues phase evidence generation consumed =>
    refine ⟨hclaimed, hstart, hgeneration, hactive, hunrevoked, ?_, ?_⟩
    · rintro _ ⟨⟩
      rw [consumed]
      refine List.append_subset.2 ⟨List.subset_cons_of_subset _ (hconsumed p open_), ?_⟩
      simp
    · rintro _ e ⟨⟩ he
      rw [continues.handoff, continues.old]
      exact hevidence p e open_ (by rw [← evidence]; exact he)
  | reconciled p p' open_ phase held advances next recorded handoff old =>
    refine ⟨hclaimed, hstart, hgeneration, hactive, hunrevoked, ?_, ?_⟩
    · rintro _ ⟨⟩
      rw [advances.consumed]
      exact hconsumed p open_
    · rintro _ e ⟨⟩ he
      rw [recorded] at he
      cases he
      rw [advances.handoff, advances.old]
      exact ⟨handoff, old⟩
  | revoked p p' active open_ phase held is advances next recorded =>
    refine ⟨fun _ h => (by cases h), hstart, fun _ h => (by cases h), fun _ => rfl, fun _ h => (by cases h), ?_, ?_⟩
    · rintro _ ⟨⟩
      rw [advances.consumed]
      exact hconsumed p open_
    · rintro _ e ⟨⟩ he
      rw [advances.handoff, advances.old]
      exact hevidence p e open_ (by rw [← recorded]; exact he)
  | issued p open_ phase held identity unrevoked current =>
    have hpos := p.generation
    refine ⟨fun _ _ => ⟨_, rfl⟩, ?_, fun _ _ => hpos, fun h => (by cases h), ?_, fun _ h => (by cases h), fun _ _ h =>
      (by cases h)⟩
    · show 0 ≤ p.ownerClaimGeneration
      omega
    · rintro _ ⟨⟩
      exact unrevoked
  | tornDown p open_ phase held none_ =>
    exact ⟨hclaimed, hstart, hgeneration, hactive, hunrevoked, fun _ h => (by cases h), fun _ _ h => (by cases h)⟩

variable {log : List Event}

theorem Run.inv {allowed : Store → Call → Prop} {start : Store} (h : Run host allowed start log s) (hi : Inv start) :
    Inv s := by
  induction h with
  | nil => exact hi
  | snoc _ call _ ih => exact (Call.effect ih call).inv ih

/-! ### Revoked receipts -/

theorem Effect.revoked_mono (h : Effect host s call answer s') {fingerprint : Fingerprint} (hr : fingerprint ∈ s.revoked) :
    fingerprint ∈ s'.revoked := by
  cases h with
  | revoked => exact List.mem_cons_of_mem _ hr
  | _ => exact hr

theorem Effect.revokes (h : Effect host s call answer s') {claim : Option OwnerClaim} {fingerprint : Fingerprint}
    (hr : Event.revoked ⟨call, answer, claim⟩ = some fingerprint) : fingerprint ∈ s'.revoked := by
  cases h with
  | revoked =>
    cases hr
    exact List.mem_cons_self
  | denied =>
    unfold Event.revoked at hr
    split at hr <;> cases hr
  | _ => cases hr

section Runs

variable {allowed : Store → Call → Prop} {start : Store} {log : List Event}

theorem Run.revoked (h : Run host allowed start log s) (hi : Inv start) :
    ∀ fingerprint ∈ log.filterMap Event.revoked, fingerprint ∈ s.revoked := by
  induction h with
  | nil => simp
  | @snoc log s hrun call may ih =>
    intro fingerprint hf
    have heffect : Effect host s call _ _ := Call.effect (hrun.inv hi) call
    rw [List.filterMap_append, List.mem_append] at hf
    rcases hf with hf | hf
    · exact heffect.revoked_mono (ih fingerprint hf)
    · obtain ⟨e, he, hrevoked⟩ := List.mem_filterMap.1 hf
      rw [List.mem_singleton.1 he] at hrevoked
      exact heffect.revokes hrevoked

/-! ### The owner of a handoff -/

/-- The handoff that is open is the one of the last owner. -/
def Owned (log : List Event) (s : Store) : Prop :=
  ∀ p, s.progress = some p → ∃ token, s.handoffOwnerToken = some token ∧ lastOwner log = some (token, p.handoffFingerprint)

theorem lastOwner_append (log : List Event) (e : Event) : lastOwner (log ++ [e]) = e.owns.or (lastOwner log) := by
  cases h : e.owns with
  | none => simp [lastOwner, List.filterMap_append, h]
  | some owner => simp [lastOwner, List.filterMap_append, h]

theorem Effect.owned (h : Effect host s call answer s') {claim : Option OwnerClaim} (ho : Owned log s) :
    Owned (log ++ [⟨call, answer, claim⟩]) s' := by
  intro q hq
  rw [lastOwner_append]
  -- with no handoff open nobody owns it; what advances its phase keeps the owner
  cases h with
  | denied =>
    obtain ⟨token, htoken, hlast⟩ := ho q hq
    have hnone : Event.owns ⟨call, none, claim⟩ = none := by
      unfold Event.owns
      split <;> first | rfl | simp_all
    rw [hnone]
    exact ⟨token, htoken, hlast⟩
  | authorized => exact ho q hq
  | activated free closed unrevoked current =>
    rw [show s.progress = some q from hq] at closed
    cases closed
  | claimed fingerprint closed active free =>
    rw [show s.progress = some q from hq] at closed
    cases closed
  | reclaimed closed =>
    rw [hq] at closed
    cases closed
  | began p handoff closed phase begins =>
    cases hq
    refine ⟨_, rfl, ?_⟩
    simp [Event.owns, handoff]
  | recovered p p' open_ handoff continues phase evidence generation consumed =>
    cases hq
    refine ⟨_, rfl, ?_⟩
    simp [Event.owns, handoff, continues.handoff]
  | reconciled p p' open_ phase held advances next recorded handoff old =>
    cases hq
    rw [advances.handoff]
    exact ho p open_
  | revoked p p' active open_ phase held is advances next recorded =>
    cases hq
    rw [advances.handoff]
    exact ho p open_
  | issued => cases hq
  | tornDown => cases hq

theorem Run.owned (h : Run host allowed start log s) (hi : Inv start) (hclosed : start.progress = none) : Owned log s := by
  induction h with
  | nil =>
    intro p hp
    rw [hclosed] at hp
    cases hp
  | snoc hrun call may ih => exact (Call.effect (hrun.inv hi) call).owned ih

end Runs

/-! ## One authority -/

/-- The coordinator is authorized for an identity and a receipt. -/
def Authorized (host : Host) (s : Store) (self : Nat) (identity : DeploymentAuthorityIdentity)
    (receipt : DeploymentAuthorityHandoffReceipt) (now : Clock) : Prop :=
  ∃ d, (authorize host self identity receipt now s).1 = .ok d ∧ d.authorized = true

theorem Authorized.holder {self : Nat} {identity : DeploymentAuthorityIdentity}
    {receipt : DeploymentAuthorityHandoffReceipt} (h : Authorized host s self identity receipt now) :
    s.progress = none ∧ s.isActive receipt = true ∧ s.claimOwnerToken = some self ∧
      s.claimBindingDigest = some (receipt.bindingDigest host) ∧ receipt.identity.same identity = true := by
  obtain ⟨d, hd, hauthorized⟩ := h
  have hdenied : ∀ reason, (denied reason s).1 ≠ .ok d := by
    rintro reason ⟨⟩
    cases hauthorized
  unfold authorize at hd
  split_ifs at hd with _ hclosed hactive _ _ hholds hidentity
  all_goals first | exact absurd hd (hdenied _) | skip
  simp only [Bool.not_eq_false, Store.holdsClaim, decide_eq_true_eq] at hactive hholds hidentity
  exact ⟨not_not.1 hclosed, hactive, hholds.1, hholds.2.2.1, hidentity⟩

theorem Authorized.current {self : Nat} {identity : DeploymentAuthorityIdentity}
    {receipt : DeploymentAuthorityHandoffReceipt} (h : Authorized host s self identity receipt now) :
    receiptCurrent receipt now = true ∧ receipt.receiptFingerprint ∉ s.revoked := by
  obtain ⟨d, hd, hauthorized⟩ := h
  have hdenied : ∀ reason, (denied reason s).1 ≠ .ok d := by
    rintro reason ⟨⟩
    cases hauthorized
  unfold authorize at hd
  split_ifs at hd with _ _ _ hrevoked _ _ _ hcurrent
  all_goals first | exact absurd hd (hdenied _) | skip
  exact ⟨by simpa using hcurrent, hrevoked⟩

/-- The phase after a phase. -/
def HandoffPhase.next? : HandoffPhase → Option HandoffPhase
  | .stopping => some .reconciled
  | .reconciled => some .revoked
  | .revoked => none

/-- What a call may do to a handoff. It begins as stopping, goes from phase to phase and ends when revoked; a receipt
becomes active during a handoff only at its end, for the identity it is for and with complete evidence of its
reconciliation; and only its last owner moves it, all others have no more than the recovery of it. -/
structure Course (log : List Event) (s : Store) (call : Call) (answer : Option Fingerprint) (s' : Store) : Prop where
  begins : ∀ p', s.progress = none → s'.progress = some p' → p'.phase = .stopping
  moves : ∀ p p', s.progress = some p → s'.progress = some p' →
    p.Continues p' ∧ (p'.phase = p.phase ∨ p.phase.next? = some p'.phase)
  ends : ∀ p, s.progress = some p → s'.progress = none → p.phase = .revoked
  activates : ∀ p receipt, s.progress = some p → s'.active = some receipt → s.active ≠ some receipt →
    p.phase = .revoked ∧ receipt.identity.same p.newIdentity = true ∧ ∃ e, p.reconciliation = some e ∧ e.complete = true ∧
      e.handoffFingerprint = p.handoffFingerprint ∧ e.oldReceiptFingerprint = p.oldReceiptFingerprint
  owner : ∀ p, s.progress = some p → s'.progress ≠ some p →
    lastOwner log = some (call.self, p.handoffFingerprint) ∨
      ((∃ claim now, call.request = .recoverHandoff claim now) ∧ answer ≠ none ∧
        ∃ p', s'.progress = some p' ∧ p'.phase = p.phase ∧ p'.reconciliation = p.reconciliation)

theorem Owned.self (h : Owned log s) {self : Nat} {p : HandoffProgress} (hp : s.progress = some p)
    (hheld : s.holdsHandoffClaim self p = true) : lastOwner log = some (self, p.handoffFingerprint) := by
  obtain ⟨token, htoken, hlast⟩ := h p hp
  simp only [Store.holdsHandoffClaim, decide_eq_true_eq] at hheld
  rw [htoken] at hheld
  obtain rfl := Option.some.inj hheld.1
  exact hlast

/-- A call that leaves the handoff and the active receipt. -/
theorem Course.same (hp : s'.progress = s.progress) (ha : s'.active = s.active) : Course log s call answer s' := by
  refine ⟨fun p' h h' => ?_, fun p p' h h' => ?_, fun p h h' => ?_, fun p r h h' hne => ?_, fun p h hne => ?_⟩
  · rw [hp, h] at h'
    cases h'
  · rw [hp, h] at h'
    cases h'
    exact ⟨⟨rfl, rfl, rfl⟩, .inl rfl⟩
  · rw [hp, h] at h'
    cases h'
  · rw [ha] at h'
    exact absurd h' hne
  · rw [hp] at hne
    exact absurd h hne

/-- A call on a store without a handoff. -/
theorem Course.closed (hclosed : s.progress = none) (hbegins : ∀ p', s'.progress = some p' → p'.phase = .stopping) :
    Course log s call answer s' := by
  have hnever : ∀ {p : HandoffProgress}, s.progress ≠ some p := fun h => by
    rw [hclosed] at h
    cases h
  exact ⟨fun p' _ h' => hbegins p' h', fun _ _ h => absurd h hnever, fun _ h => absurd h hnever,
    fun _ _ h => absurd h hnever, fun _ h => absurd h hnever⟩

/-- A step of the open handoff. -/
theorem Course.moved {p p' : HandoffProgress} (hp : s.progress = some p) (hp' : s'.progress = some p')
    (ha : ∀ receipt, s'.active = some receipt → s.active = some receipt) (hc : p.Continues p')
    (hphase : p'.phase = p.phase ∨ p.phase.next? = some p'.phase)
    (howner : lastOwner log = some (call.self, p.handoffFingerprint) ∨
      ((∃ claim now, call.request = .recoverHandoff claim now) ∧ answer ≠ none ∧
        ∃ p', s'.progress = some p' ∧ p'.phase = p.phase ∧ p'.reconciliation = p.reconciliation)) :
    Course log s call answer s' := by
  refine ⟨fun _ h => ?_, fun q q' h h' => ?_, fun q h h' => ?_, fun q r h h' hne => absurd (ha r h') hne, fun q h _ => ?_⟩
  · rw [hp] at h
    cases h
  · rw [hp] at h
    rw [hp'] at h'
    cases h
    cases h'
    exact ⟨hc, hphase⟩
  · rw [hp'] at h'
    cases h'
  · rw [hp] at h
    cases h
    exact howner

/-- The end of the open handoff. -/
theorem Course.ended {p : HandoffProgress} (hp : s.progress = some p) (hp' : s'.progress = none)
    (hphase : p.phase = .revoked) (ha : ∀ receipt, s'.active = some receipt → s.active ≠ some receipt →
      receipt.identity.same p.newIdentity = true ∧ ∃ e, p.reconciliation = some e ∧ e.complete = true ∧
        e.handoffFingerprint = p.handoffFingerprint ∧ e.oldReceiptFingerprint = p.oldReceiptFingerprint)
    (howner : lastOwner log = some (call.self, p.handoffFingerprint)) : Course log s call answer s' := by
  refine ⟨fun _ h => ?_, fun _ _ _ h' => ?_, fun q h _ => ?_, fun q r h h' hne => ?_, fun q h _ => .inl ?_⟩
  · rw [hp] at h
    cases h
  · rw [hp'] at h'
    cases h'
  all_goals
    rw [hp] at h
    cases h
  · exact hphase
  · exact ⟨hphase, ha r h' hne⟩
  · exact howner

theorem HandoffProgress.complete_evidence (p : HandoffProgress) (h : p.phase ≠ .stopping) :
    ∃ e, p.reconciliation = some e ∧ e.complete = true := by
  have hevidence := p.evidence
  rw [if_neg h, Option.any_eq_true] at hevidence
  exact hevidence

theorem Effect.course (h : Effect host s call answer s') (hi : Inv s) (ho : Owned log s) :
    Course log s call answer s' := by
  -- a call that is granted is one move of the handoff
  cases h with
  | denied => exact .same rfl rfl
  | authorized => exact .same rfl rfl
  | activated free closed unrevoked current =>
    refine .closed closed fun p' hp' => ?_
    rw [show s.progress = some p' from hp'] at closed
    cases closed
  | claimed => exact .same rfl rfl
  | reclaimed => exact .same rfl rfl
  | began p handoff closed phase begins =>
    refine .closed closed fun p' hp' => ?_
    cases hp'
    exact phase
  | recovered p p' open_ handoff continues phase evidence generation consumed =>
    exact .moved open_ rfl (fun _ h => h) continues (.inl phase)
      (.inr ⟨⟨_, _, rfl⟩, Option.some_ne_none _, p', rfl, phase, evidence⟩)
  | reconciled p p' open_ phase held advances next recorded handoff old =>
    exact .moved open_ rfl (fun _ h => h) advances.toContinues (.inr (by rw [phase, next]; rfl)) (.inl (ho.self open_ held))
  | revoked p p' active open_ phase held is advances next recorded =>
    exact .moved open_ rfl (fun _ h => (by cases h)) advances.toContinues (.inr (by rw [phase, next]; rfl))
      (.inl (ho.self open_ held))
  | issued p open_ phase held identity unrevoked current =>
    refine .ended open_ rfl phase (fun receipt hr _ => ?_) (ho.self open_ held)
    cases hr
    obtain ⟨e, he, hcomplete⟩ := p.complete_evidence (by rw [phase]; decide)
    exact ⟨identity, e, he, hcomplete, hi.evidence p e open_ he⟩
  | tornDown p open_ phase held none_ =>
    refine .ended open_ rfl phase (fun receipt hr => ?_) (ho.self open_ held)
    rw [show s.active = some receipt from hr] at none_
    cases none_

/-- Calls of any coordinators with any arguments and clocks, from a new store on. At most one coordinator is authorized,
for one receipt and one identity up to the review policy, and none during a handoff; no revoked receipt is active; and
whatever call is made next keeps to the course of the handoff. -/
theorem deployment_handoff_safe {stateStoreFingerprint : Fingerprint} {stateId : Uuid} {log : List Event}
    (h : Run host AnyCall (.initial stateStoreFingerprint stateId) log s) :
    (∀ a b identityA identityB receiptA receiptB nowA nowB, Authorized host s a identityA receiptA nowA →
      Authorized host s b identityB receiptB nowB → a = b ∧ receiptA.same receiptB = true ∧
        receiptA.bindingDigest host = receiptB.bindingDigest host ∧ identityA.same identityB = true) ∧
    (s.progress ≠ none → ∀ self identity receipt now, ¬ Authorized host s self identity receipt now) ∧
    (∀ fingerprint ∈ log.filterMap Event.revoked, ∀ receipt, s.active = some receipt →
    receipt.receiptFingerprint ≠ fingerprint) ∧
    ∀ call : Call, Course log s call (call.answer host s) (call.after host s) := by
  have hinitial := Inv.initial stateStoreFingerprint stateId
  have hi := h.inv hinitial
  refine ⟨fun a b identityA identityB receiptA receiptB nowA nowB ha hb => ?_, fun hopen self identity receipt now ha =>
    ?_, fun fingerprint hf receipt hr heq => ?_, fun call => ?_⟩
  · obtain ⟨-, hactiveA, htokenA, hdigestA, hidentityA⟩ := ha.holder
    obtain ⟨-, hactiveB, htokenB, hdigestB, hidentityB⟩ := hb.holder
    have hreceipts := Store.isActive_same hactiveA hactiveB
    have hidentities : receiptA.identity.same identityB = true :=
      DeploymentAuthorityIdentity.same_trans (Bool.and_eq_true_iff.1 hreceipts).1 hidentityB
    exact ⟨Option.some.inj (htokenA.symm.trans htokenB), hreceipts, Option.some.inj (hdigestA.symm.trans hdigestB),
      DeploymentAuthorityIdentity.same_trans (DeploymentAuthorityIdentity.same_symm hidentityA) hidentities⟩
  · exact hopen ha.holder.1
  · exact hi.unrevoked receipt hr (heq ▸ h.revoked hinitial fingerprint hf)
  · exact (Call.effect hi call).course hi (h.owned hinitial rfl)

/-! ### A run -/

namespace Sample

def fingerprint (n : Nat) : Fingerprint := .ofNat 64 n

def runtime : RuntimeBinding where
  resolvedDigest := .sha256 (fingerprint 1)
  workerProfileIdentity := .sha256 (fingerprint 2)
  supervisorProfileIdentities := [.sha256 (fingerprint 3)]
  reviewCompleteRounds := 0
  reviewMaxRounds := 0
  reviewMaxSupervisorAttemptsPerRound := 0
  reviewOnFinalFindings := ""
  reviewPolicyDigest := ""
  profiles := by decide
  reviewPolicy := by decide

def identity (candidate : Nat) : DeploymentAuthorityIdentity :=
  ⟨fingerprint 4, fingerprint 5, fingerprint 6, .ofNat 32 7, fingerprint 8, .inl (.ofNat 40 candidate), fingerprint 9, runtime⟩

/-- The first identity, its configuration with a review policy. -/
def reviewed : DeploymentAuthorityIdentity :=
  { identity 1 with
    runtimeBinding := { runtime with
      reviewCompleteRounds := 1
      reviewMaxRounds := 1
      reviewMaxSupervisorAttemptsPerRound := 1
      reviewOnFinalFindings := "worker-final-repair-then-merge"
      reviewPolicyDigest := (fingerprint 14).text
      reviewPolicy := .inr ⟨by decide, by decide, rfl, rfl, Hex.isHex_text _⟩ } }

def receipt (n candidate : Nat) : DeploymentAuthorityHandoffReceipt := ⟨fingerprint n, identity candidate, 0, 100, by decide⟩

def verification (r : DeploymentAuthorityHandoffReceipt) : DeploymentAuthorityReceiptVerification :=
  ⟨fingerprint 10, r.receiptFingerprint, r.bindingDigest .sample, r.identity.repositoryFingerprint,
    r.identity.stateStoreFingerprint, r.identity.stateId, r.identity.candidateSha, r.identity.environmentFingerprint, .fresh⟩

/-- Evidence that the owner of a claim is stale, and who takes its place. -/
def recovery (evidence prior : Nat) (generation : Int) (replacement : Nat) (h : 1 ≤ generation) : HandoffRecoveryClaim :=
  ⟨fingerprint evidence, fingerprint 11, fingerprint 20, (receipt 20 1).bindingDigest .sample, fingerprint prior,
    generation, fingerprint replacement, fingerprint 6, .ofNat 32 7, .staleOwner, 0, 100, h, by decide⟩

def reconciliation : HandoffReconciliation :=
  ⟨fingerprint 11, fingerprint 20, fingerprint 6, .ofNat 32 7, true, true, true, fingerprint 12⟩

def start : Store := .initial (fingerprint 6) (.ofNat 32 7)

/-- The log and the store after some more calls. -/
def further (r : List Event × Store) (calls : List Call) : List Event × Store :=
  calls.foldl (fun r call => (r.1 ++ [call.event .sample r.2], call.after .sample r.2)) r

def after (calls : List Call) : List Event × Store := further ([], start) calls

theorem run_further : ∀ (calls : List Call) {r : List Event × Store}, Run .sample AnyCall start r.1 r.2 →
    Run .sample AnyCall start (further r calls).1 (further r calls).2
  | [], _, h => h
  | call :: calls, _, h => run_further calls (h.snoc call trivial)

theorem run_after (calls : List Call) : Run .sample AnyCall start (after calls).1 (after calls).2 := run_further calls .nil

/-- The first coordinator begins a handoff and the second recovers it. -/
def replaced : List Call :=
  [⟨1, .activateInitial (receipt 20 1) (verification (receipt 20 1)) (.utc 10)⟩,
    ⟨1, .claimOrchestrator (receipt 20 1) (fingerprint 30).text (.utc 10)⟩,
    ⟨1, .beginHandoff (receipt 20 1) (identity 2) (fingerprint 11).text (.utc 10) none⟩,
    ⟨2, .recoverHandoff (recovery 40 30 1 31 (by decide)) (.utc 10)⟩]

end Sample

/-- Identities that differ in the review policy of their configuration are both authorized. -/
theorem two_identities_authorized :
    ¬ ∀ (log : List Event) (s : Store), Run .sample AnyCall Sample.start log s →
      ∀ a b identityA identityB receiptA receiptB nowA nowB, Authorized .sample s a identityA receiptA nowA →
        Authorized .sample s b identityB receiptB nowB → a = b ∧ receiptA = receiptB ∧ identityA = identityB := by
  intro h
  have hauthorized : ∀ identity ∈ [Sample.identity 1, Sample.reviewed],
      (authorize .sample 1 identity (Sample.receipt 20 1) (.utc 10) (Sample.after (Sample.replaced.take 2)).2).1 =
        .ok ⟨true, "one exact authority receipt is current", some (Sample.fingerprint 20)⟩ := by decide +kernel
  obtain ⟨-, -, heq⟩ := h _ _ (Sample.run_after (Sample.replaced.take 2)) 1 1 _ _ _ _ _ _
    ⟨_, hauthorized (Sample.identity 1) (by simp), rfl⟩ ⟨_, hauthorized Sample.reviewed (by simp), rfl⟩
  have hpolicy := congrArg (·.runtimeBinding.reviewMaxRounds) heq
  revert hpolicy
  decide

/-- The coordinator that has been replaced no longer moves the handoff on, the one in its place does. -/
theorem deployment_handoff_safe_replaced :
    let s := (Sample.after Sample.replaced).2
    s.progress ≠ none ∧ (Call.after .sample ⟨1, .reconcile Sample.reconciliation⟩ s).progress = s.progress ∧
      (Call.after .sample ⟨2, .reconcile Sample.reconciliation⟩ s).progress ≠ s.progress := by
  intro s
  have hopen : s.progress ≠ none := by decide +kernel
  refine ⟨hopen, ?_, by decide +kernel⟩
  obtain ⟨p, hp⟩ := Option.ne_none_iff_exists'.1 hopen
  obtain ⟨-, -, -, hcourse⟩ := deployment_handoff_safe (Sample.run_after Sample.replaced)
  by_contra hmoved
  rw [hp] at hmoved
  rcases (hcourse ⟨1, .reconcile Sample.reconciliation⟩).owner p hp hmoved with hlast | ⟨⟨_, _, hrecover⟩, -⟩
  · have htwo : (lastOwner (Sample.after Sample.replaced).1).map (·.1) = some 2 := by decide +kernel
    rw [hlast] at htwo
    cases htwo
  · cases hrecover

end Roundwright.Handoff
