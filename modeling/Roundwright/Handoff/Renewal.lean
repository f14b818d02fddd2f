/-
Replacing the active receipt. From a state a coordinator can reach, the receipt can be revoked and another one activated
and claimed at any later time, except when it expires outside a handoff with no claim on it: then nobody can claim it
any more, and recovery evidence needs a claim to name.
-/
import Roundwright.Handoff.Invariant
import Mathlib.Tactic.Ring

namespace Roundwright.Handoff

open Lib State

variable {host : Host} {s : Store}

/-! ## What the store records of the authority -/

/-- The active receipt is verified and names the store, a claim is one on the active receipt, and an open handoff has an
owner, a target in this store and, up to its revocation, the old receipt. -/
structure Live (host : Host) (s : Store) : Prop where
  names : ∀ r, s.active = some r → s.receiptNames r = true
  verified : ∀ r, s.active = some r → verificationMatches host r s.verification = true
  claimed : ∀ r token, s.active = some r → s.claimOwnerToken = some token → s.holdsClaim host token r s.claimFingerprint = true
  unclaimed : s.claimOwnerToken = none → s.claimFingerprint = none
  target : ∀ p, s.progress = some p → s.identityNames p.newIdentity = true
  owner : ∀ p, s.progress = some p → ∃ token, s.holdsHandoffClaim token p = true
  old : ∀ p, s.progress = some p → p.phase ≠ .revoked → ∃ r, s.active = some r ∧ r.receiptFingerprint = p.oldReceiptFingerprint
  revoked : ∀ p, s.progress = some p → p.phase = .revoked → s.active = none

theorem Live.initial (stateStoreFingerprint : Fingerprint) (stateId : Uuid) :
    Live host (.initial stateStoreFingerprint stateId) := by
  constructor <;> simp [Store.initial]

theorem verificationMatches_digest {r q : DeploymentAuthorityHandoffReceipt}
    {v : Option DeploymentAuthorityReceiptVerification} (hr : verificationMatches host r v = true)
    (hq : verificationMatches host q v = true) : r.bindingDigest host = q.bindingDigest host := by
  cases v with
  | none => cases hr
  | some v =>
    simp only [verificationMatches, Option.any_some, decide_eq_true_eq] at hr hq
    exact hr.2.2.1.symm.trans hq.2.2.1

variable {call : Call} {outcome : Except Error HandoffDecision × Store}

section Operations

variable (self : Nat)

theorem activateInitial_live (h : Live host s) (receipt : DeploymentAuthorityHandoffReceipt)
    (verification : DeploymentAuthorityReceiptVerification) (now : Clock) :
    Live host (activateInitial host receipt verification now s).2 := by
  unfold activateInitial
  split_ifs with hnames _ hverified hbusy _
  iterate 5 exact h
  rw [not_or, not_not, not_not] at hbusy
  rw [Bool.not_eq_false] at hnames hverified
  have hprogress : ({ s with active := some receipt, verification := some verification }.clearAuthorityClaim.clearHandoffClaim).progress =
      none := hbusy.2
  constructor
  · rintro r hr
    obtain rfl := Option.some.inj hr
    exact hnames
  · rintro r hr
    obtain rfl := Option.some.inj hr
    exact hverified
  · rintro r token - htoken
    cases htoken
  · exact fun _ => rfl
  all_goals
    intro p hp
    rw [decided, hprogress] at hp
    cases hp

theorem claimOrchestrator_live (h : Live host s) (receipt : DeploymentAuthorityHandoffReceipt)
    (claimFingerprint : String) (now : Clock) :
    Live host (claimOrchestrator host self receipt claimFingerprint now s).2 := by
  unfold claimOrchestrator
  cases hf : requireFingerprint claimFingerprint "orchestrator claim" with
  | error e => exact h
  | ok fingerprint =>
    show Live host (ite _ _ _ : Except Error HandoffDecision × Store).2
    split_ifs with hclosed hactive hstale hfree
    iterate 3 exact h
    · simp only [not_or, Bool.not_eq_false] at hactive hstale
      refine ⟨h.names, h.verified, fun r token hr htoken => ?_, fun hnone => (by cases hnone), h.target, h.owner, h.old, h.revoked⟩
      -- one verification is of both receipts, so they have one digest
      have hsame := Store.isActive_same (s.isActive_self hr) hactive.1
      have hdigest := verificationMatches_digest (h.verified r hr) hstale.2
      obtain rfl := Option.some.inj htoken
      simp [Store.holdsClaim, acquired, decided, DeploymentAuthorityHandoffReceipt.same_fingerprint hsame, hdigest]
    · exact h
    · exact h

theorem authorize_live (h : Live host s) (identity : DeploymentAuthorityIdentity)
    (receipt : DeploymentAuthorityHandoffReceipt) (now : Clock) : Live host (authorize host self identity receipt now s).2 := by
  unfold authorize
  split_ifs <;> exact h

theorem HandoffProgress.make_ok {handoff old : Fingerprint} {new : DeploymentAuthorityIdentity} {phase : HandoffPhase}
    {reconciliation : Option HandoffReconciliation} {owner : Option Fingerprint} {generation : Int}
    {consumed : List Fingerprint} {p : HandoffProgress}
    (h : HandoffProgress.make handoff old new phase reconciliation owner generation consumed = .ok p) :
    p.handoffFingerprint = handoff ∧ p.oldReceiptFingerprint = old ∧ p.newIdentity = new ∧ p.phase = phase ∧
      p.reconciliation = reconciliation ∧ owner = some p.ownerClaimFingerprint ∧ p.ownerClaimGeneration = generation ∧
      p.consumedRecoveryEvidenceFingerprints = consumed := by
  unfold HandoffProgress.make at h
  obtain ⟨name, howner, h⟩ := bind_eq_ok.1 h
  rw [demand_eq_ok] at howner
  by_cases hgeneration : 1 ≤ generation
  · by_cases hhistory : consumed.Nodup
    · by_cases hevidence : if phase = .stopping then reconciliation = none else reconciliation.any (·.complete) = true
      · rw [dif_pos hgeneration, dif_pos hhistory, dif_pos hevidence] at h
        obtain rfl := Except.ok.inj h
        exact ⟨rfl, rfl, rfl, rfl, rfl, howner, rfl, rfl⟩
      · rw [dif_pos hgeneration, dif_pos hhistory, dif_neg hevidence] at h
        cases h
    · rw [dif_pos hgeneration, dif_neg hhistory] at h
      cases h
  · rw [dif_neg hgeneration] at h
    cases h

theorem begun_live (h : Live host s) {old : DeploymentAuthorityHandoffReceipt} {new : DeploymentAuthorityIdentity}
    (handoffFingerprint : Fingerprint) (recovery : Option HandoffRecoveryClaim) (hactive : s.isActive old = true)
    (hnew : s.identityNames new = true) : Live host (begun host self old new handoffFingerprint recovery s).2 := by
  unfold begun
  dsimp only
  split
  · exact h
  · rename_i p hmake
    obtain ⟨hhandoff, hold, hnewIdentity, hphase, -, -, -, -⟩ := HandoffProgress.make_ok hmake
    obtain ⟨active, hactive, hsame⟩ := (Option.any_eq_true _ _).1 hactive
    refine ⟨h.names, h.verified, h.claimed, h.unclaimed, fun q hq => ?_, fun q hq => ⟨self, ?_⟩,
      fun q hq _ => ⟨active, hactive, ?_⟩, fun q hq hrevoked => ?_⟩
    all_goals obtain rfl := Option.some.inj hq
    · rw [hnewIdentity]
      exact hnew
    · simp [Store.holdsHandoffClaim, decided, ownHandoff, hhandoff]
    · exact (DeploymentAuthorityHandoffReceipt.same_fingerprint hsame).trans hold.symm
    · rw [hphase] at hrevoked
      cases hrevoked

theorem beginHandoff_live (h : Live host s) (old : DeploymentAuthorityHandoffReceipt)
    (new : DeploymentAuthorityIdentity) (handoffFingerprint : String) (now : Clock) (recoveryClaim : Option HandoffRecoveryClaim) :
    Live host (beginHandoff host self old new handoffFingerprint now recoveryClaim s).2 := by
  unfold beginHandoff
  cases hf : requireFingerprint handoffFingerprint "handoff" with
  | error e => exact h
  | ok fingerprint =>
    show Live host (ite _ _ _ : Except Error HandoffDecision × Store).2
    split_ifs with _ hactive _ _ hnames
    iterate 7 exact h
    rw [not_or, Bool.not_eq_false] at hactive
    exact begun_live self h fingerprint _ hactive.1 (by simpa using hnames)

/-- The requests that only move an open handoff on. -/
def Operation.Request.moves : Operation.Request → Bool
  | .recoverHandoff .. | .reconcile .. | .revokeOldReceipt .. | .completeTeardown .. => true
  | _ => false

theorem Store.holdsHandoffClaim_advances {p p' : HandoffProgress} (h : p.Advances p') {self : Nat} :
    s.holdsHandoffClaim self p' = s.holdsHandoffClaim self p := by
  unfold Store.holdsHandoffClaim
  rw [h.handoff, h.owner, h.generation]

theorem Does.live (he : Does host s call outcome) (h : Live host s)
    (hmoves : call.request.moves = true) : Live host outcome.2 := by
  obtain ⟨answer, s'⟩ := outcome
  unfold Does at he
  dsimp only at he ⊢
  generalize grantedFor answer = granted at he
  cases he with
  | denied => exact h
  | authorized | reclaimed => exact h
  | activated | claimed | began | issued => cases hmoves
  | @recovered self claim now p p' open_ handoff continues phase evidence generation consumed =>
    refine ⟨h.names, h.verified, h.claimed, h.unclaimed, fun q hq => ?_, fun q hq => ⟨self, ?_⟩, fun q hq hphase => ?_,
      fun q hq hphase => ?_⟩
    all_goals obtain rfl := Option.some.inj hq
    · rw [continues.new]
      exact h.target p open_
    · simp [Store.holdsHandoffClaim, ownHandoff, continues.handoff]
    · rw [continues.old]
      exact h.old p open_ (phase ▸ hphase)
    · exact h.revoked p open_ (phase ▸ hphase)
  | @reconciled self evidence p p' open_ phase held advances next recorded handoff old =>
    refine ⟨h.names, h.verified, h.claimed, h.unclaimed, fun q hq => ?_, fun q hq => ⟨self, ?_⟩, fun q hq _ => ?_,
      fun q hq hphase => ?_⟩
    all_goals obtain rfl := Option.some.inj hq
    · rw [advances.new]
      exact h.target p open_
    · exact (Store.holdsHandoffClaim_advances advances).trans held
    · rw [advances.old]
      exact h.old p open_ (by rw [phase]; decide)
    · rw [next] at hphase
      cases hphase
  | @revoked self text p p' active open_ phase held is advances next recorded =>
    refine ⟨fun _ hr => (by cases hr), fun _ hr => (by cases hr), fun _ _ hr => (by cases hr), fun _ => rfl,
      fun q hq => ?_, fun q hq => ⟨self, ?_⟩, fun q hq hphase => ?_, fun _ _ _ => rfl⟩
    all_goals obtain rfl := Option.some.inj hq
    · rw [advances.new]
      exact h.target p open_
    · exact (Store.holdsHandoffClaim_advances advances).trans held
    · exact absurd next hphase
  | tornDown p open_ phase held none_ =>
    exact ⟨h.names, h.verified, h.claimed, h.unclaimed, fun _ hq => (by cases hq), fun _ hq => (by cases hq),
      fun _ hq => (by cases hq), fun _ hq => (by cases hq)⟩

theorem issueNewReceipt_live (h : Live host s) (receipt : DeploymentAuthorityHandoffReceipt)
    (verification : DeploymentAuthorityReceiptVerification) (handoffFingerprint : String) (now : Clock) :
    Live host (issueNewReceipt host self receipt verification handoffFingerprint now s).2 := by
  unfold issueNewReceipt
  cases hf : requireFingerprint handoffFingerprint "handoff" with
  | error e => exact h
  | ok fingerprint =>
    dsimp only [Tx.check, Bind.bind]
    split
    · exact h
    · split_ifs with _ htarget hstale
      iterate 3 exact h
      simp only [not_or, Bool.not_eq_false] at htarget hstale
      refine ⟨fun r hr => ?_, fun r hr => ?_, fun r token hr htoken => ?_, fun hnone => (by cases hnone), fun _ hq =>
        (by cases hq), fun _ hq => (by cases hq), fun _ hq => (by cases hq), fun _ hq => (by cases hq)⟩
      all_goals obtain rfl := Option.some.inj hr
      · exact htarget.2
      · exact hstale.2.2
      · obtain rfl := Option.some.inj htoken
        simp [Store.holdsClaim, decided, issued, Store.clearHandoffClaim]

end Operations

theorem Call.live (h : Live host s) (hi : Inv s) (call : Call) : Live host (call.after host s) := by
  obtain ⟨self, request⟩ := call
  cases request with
  | activateInitial receipt verification now => exact activateInitial_live h receipt verification now
  | claimOrchestrator receipt claimFingerprint now => exact claimOrchestrator_live self h receipt claimFingerprint now
  | authorize identity receipt now => exact authorize_live self h identity receipt now
  | beginHandoff old new handoffFingerprint now recoveryClaim =>
    exact beginHandoff_live self h old new handoffFingerprint now recoveryClaim
  | recoverHandoff claim now => exact (recoverHandoff_does self hi claim now).live h rfl
  | reconcile evidence => exact (reconcile_does self evidence).live h rfl
  | revokeOldReceipt handoffFingerprint => exact (revokeOldReceipt_does self handoffFingerprint).live h rfl
  | issueNewReceipt receipt verification handoffFingerprint now =>
    exact issueNewReceipt_live self h receipt verification handoffFingerprint now
  | completeTeardown evidence => exact (completeTeardown_does self evidence).live h rfl

theorem Run.live {allowed : Store → Call → Prop} {start : Store} {log : List Event} (h : Run host allowed start log s)
    (hi : Inv start) (hl : Live host start) : Live host s := by
  induction h with
  | nil => exact hl
  | snoc hrun call _ ih => exact Call.live ih (hrun.inv hi) call

/-! ## Later calls -/

/-- The time a request is given, where it is given one. -/
def Operation.Request.clock? : Operation.Request → Option Clock
  | .activateInitial _ _ now => some now
  | .claimOrchestrator _ _ now => some now
  | .authorize _ _ now => some now
  | .beginHandoff _ _ _ now _ => some now
  | .recoverHandoff _ now => some now
  | .issueNewReceipt _ _ _ now => some now
  | .reconcile _ | .revokeOldReceipt _ | .completeTeardown _ => none

/-- Calls at instants that are not before `t` and do not go back. -/
def Timely (t : Instant) (calls : List Call) : Prop :=
  ∃ instants : List Instant, calls.filterMap (·.request.clock?) = instants.map .utc ∧ (t :: instants).Pairwise (· ≤ ·)

/-- The store after calls one after another. -/
def runCalls (host : Host) (calls : List Call) (s : Store) : Store := calls.foldl (fun s call => call.after host s) s

/-- The receipt that was active is revoked, and another one is active and claimed. -/
structure Renewed (host : Host) (s s' : Store) : Prop where
  revoked : ∀ r, s.active = some r → r.receiptFingerprint ∈ s'.revoked
  active : ∃ r self, s'.active = some r ∧ s.isActive r = false ∧ s'.holdsClaim host self r s'.claimFingerprint = true

theorem runCalls_inv (hi : Inv s) (calls : List Call) : Inv (runCalls host calls s) := by
  induction calls generalizing s with
  | nil => exact hi
  | cons call rest ih => exact ih ((Call.effect hi call).inv hi)

theorem runCalls_revoked (hi : Inv s) (calls : List Call) {fingerprint : Fingerprint} (h : fingerprint ∈ s.revoked) :
    fingerprint ∈ (runCalls host calls s).revoked := by
  induction calls generalizing s with
  | nil => exact h
  | cons call rest ih =>
    have heffect : Effect host s call _ _ := Call.effect hi call
    exact ih (heffect.inv hi) (heffect.revoked_mono h)

/-! ## Texts of fingerprints -/

/-- A fingerprint passes the check of its text. -/
theorem checked (fingerprint : Fingerprint) (description : String) (rest : Fingerprint → Operation) (s : Store) :
    (Tx.check (requireFingerprint fingerprint.text description) >>= rest) s = rest fingerprint s := by
  rw [requireFingerprint_ok.2 (Hex.ofText?_text fingerprint)]
  rfl

/-! ## Ways to renew -/

/-- Calls at the instant `n` revoke the active receipt and make one with the fingerprint `f` active and claimed. -/
def Renewable (host : Host) (n : Instant) (f : Fingerprint) (s : Store) : Prop :=
  ∃ calls : List Call, (∀ call ∈ calls, ∀ now, call.request.clock? = some now → now = .utc n) ∧
    (∀ r, s.active = some r → r.receiptFingerprint ∈ (runCalls host calls s).revoked) ∧
    ∃ r self, (runCalls host calls s).active = some r ∧ r.receiptFingerprint = f ∧
      (runCalls host calls s).holdsClaim host self r (runCalls host calls s).claimFingerprint = true

variable {n : Instant} {f : Fingerprint}

/-- One call before the others, that keeps the active receipt or revokes it. -/
theorem Renewable.step (hi : Inv s) (call : Call) (hclock : ∀ now, call.request.clock? = some now → now = .utc n)
    (hactive : ∀ r, s.active = some r → (call.after host s).active = some r ∨
    r.receiptFingerprint ∈ (call.after host s).revoked) (h : Renewable host n f (call.after host s)) : Renewable host n f s := by
  obtain ⟨calls, hclocks, hrevoked, hnew⟩ := h
  refine ⟨call :: calls, fun c hc => ?_, fun r hr => ?_, hnew⟩
  · rcases List.mem_cons.1 hc with rfl | hc
    · exact hclock
    · exact hclocks c hc
  · rcases hactive r hr with hkept | hgone
    · exact hrevoked r hkept
    · exact runCalls_revoked ((Call.effect hi call).inv hi) calls hgone

/-- `datetime.max` -/
def Instant.last : Instant := Fin.last _

/-- A receipt that is current from `n` on. -/
def receiptAt (f : Fingerprint) (identity : DeploymentAuthorityIdentity) (hn : n < .last) : DeploymentAuthorityHandoffReceipt :=
  ⟨f, identity, n, .last, hn⟩

/-- The observation that a receipt is fresh. -/
def freshVerification (host : Host) (r : DeploymentAuthorityHandoffReceipt) : DeploymentAuthorityReceiptVerification :=
  ⟨r.receiptFingerprint, r.receiptFingerprint, r.bindingDigest host, r.identity.repositoryFingerprint,
    r.identity.stateStoreFingerprint, r.identity.stateId, r.identity.candidateSha, r.identity.environmentFingerprint, .fresh⟩

@[simp] theorem receiptCurrent_receiptAt (identity : DeploymentAuthorityIdentity) (hn : n < .last) :
    receiptCurrent (receiptAt f identity hn) (.utc n) = true := by
  simpa [receiptCurrent, receiptAt] using hn

@[simp] theorem verificationMatches_fresh (r : DeploymentAuthorityHandoffReceipt) :
    verificationMatches host r (some (freshVerification host r)) = true := by
  simp [verificationMatches, freshVerification]

/-! ### The steps of a handoff, granted -/

/-- Complete reconciliation evidence for a handoff. -/
def completeEvidence (s : Store) (p : HandoffProgress) (evidenceFingerprint : Fingerprint) : HandoffReconciliation :=
  ⟨p.handoffFingerprint, p.oldReceiptFingerprint, s.stateStoreFingerprint, s.stateId, true, true, true, evidenceFingerprint⟩

variable {r : DeploymentAuthorityHandoffReceipt} {now : Clock}

section Granted

variable {self : Nat} {p : HandoffProgress} (hp : s.progress = some p) (hheld : s.holdsHandoffClaim self p = true)

include hp hheld

theorem issueNewReceipt_granted (hphase : p.phase = .revoked)
    {v : DeploymentAuthorityReceiptVerification} (hidentity : r.identity = p.newIdentity)
    (hnames : s.identityNames p.newIdentity = true) (hcurrent : receiptCurrent r now = true)
    (hfresh : r.receiptFingerprint ∉ s.revoked) (hverified : verificationMatches host r (some v) = true) :
    (issueNewReceipt host self r v p.handoffFingerprint.text now s).2 = issued host self r v p s := by
  have hfilter : s.progress.filter (fun q => q.phase = .revoked ∧ q.handoffFingerprint = p.handoffFingerprint) = some p := by
    simp [hp, hphase]
  have hnamesR : s.receiptNames r = true := by
    rw [Store.receiptNames, hidentity]
    exact hnames
  refine (congrArg Prod.snd (checked p.handoffFingerprint "handoff" _ s)).trans ?_
  rw [hfilter]
  dsimp only
  rw [if_neg (by rw [hheld]; decide), if_neg (by rw [hnamesR, hidentity]; simp [DeploymentAuthorityIdentity.same_refl]),
    if_neg (by rw [hcurrent, hverified]; simpa using hfresh)]
  rfl

theorem revokeOldReceipt_granted (hphase : p.phase = .reconciled) (hr : s.active = some r)
    (hold : r.receiptFingerprint = p.oldReceiptFingerprint) : ∃ p' : HandoffProgress, p'.phase = .revoked ∧
      (revokeOldReceipt self p.handoffFingerprint.text s).2 = { s.clearAuthorityClaim with
        revoked := r.receiptFingerprint :: s.revoked
        active := none
        verification := none
        progress := some p' } := by
  have hevidence := p.evidence
  rw [if_neg (by rw [hphase]; decide)] at hevidence
  obtain ⟨p', hadvance, -, hnext, -⟩ := p.advance_eq .revoked p.reconciliation (by simpa using hevidence)
  have hfilter : s.progress.filter (fun q => q.phase = .reconciled ∧ q.handoffFingerprint = p.handoffFingerprint) = some p := by
    simp [hp, hphase]
  have hactive : s.active.filter (·.receiptFingerprint = p.oldReceiptFingerprint) = some r := by simp [hr, hold]
  refine ⟨p', hnext, (congrArg Prod.snd (checked p.handoffFingerprint "handoff" _ s)).trans ?_⟩
  dsimp only
  rw [hfilter]
  dsimp only
  rw [if_neg (by rw [hheld]; decide), hactive]
  dsimp only
  rw [hadvance]
  rfl

theorem reconcile_granted (hphase : p.phase = .stopping) (evidenceFingerprint : Fingerprint) : ∃ p' : HandoffProgress,
    p'.phase = .reconciled ∧ (reconcile self (completeEvidence s p evidenceFingerprint) s).2 = { s with progress := some p' } := by
  obtain ⟨p', hadvance, -, hnext, -⟩ := p.advance_eq .reconciled (some (completeEvidence s p evidenceFingerprint)) rfl
  have hfilter : s.progress.filter (fun q => q.phase = .stopping) = some p := by simp [hp, hphase]
  refine ⟨p', hnext, ?_⟩
  unfold reconcile
  rw [hfilter]
  dsimp only
  rw [if_neg (by rw [hheld]; decide), if_neg (by simp [completeEvidence, HandoffReconciliation.complete]), hadvance]
  rfl

end Granted

theorem issued_holds (self : Nat) (r : DeploymentAuthorityHandoffReceipt) (v : DeploymentAuthorityReceiptVerification)
    (p : HandoffProgress) :
    (issued host self r v p s).holdsClaim host self r (issued host self r v p s).claimFingerprint = true := by
  simp [Store.holdsClaim, issued, Store.clearHandoffClaim]

/-! ### From an open handoff -/

variable {p : HandoffProgress}

/-- After the revocation the owner of the handoff issues the replacement. -/
theorem renewable_revoked (hn : n < .last) (hl : Live host s) (hp : s.progress = some p) (hphase : p.phase = .revoked)
    (hf : f ∉ s.revoked) : Renewable host n f s := by
  obtain ⟨token, hheld⟩ := hl.owner p hp
  have hafter := issueNewReceipt_granted hp hheld hphase (r := receiptAt f p.newIdentity hn) rfl (hl.target p hp)
    (receiptCurrent_receiptAt _ hn) hf (@verificationMatches_fresh host _)
  refine ⟨[⟨token, .issueNewReceipt (receiptAt f p.newIdentity hn) (freshVerification host (receiptAt f p.newIdentity hn))
    p.handoffFingerprint.text (.utc n)⟩], fun c hc now hnow => ?_, fun r hr => ?_, receiptAt f p.newIdentity hn, token, ?_⟩
  · rw [List.mem_singleton.1 hc] at hnow
    exact (Option.some.inj hnow).symm
  · rw [hl.revoked p hp hphase] at hr
    cases hr
  · simp only [runCalls, List.foldl_cons, List.foldl_nil, Call.after, Call.run, hafter]
    exact ⟨rfl, rfl, issued_holds token _ _ p⟩

/-- After the reconciliation its owner revokes the old receipt. -/
theorem renewable_reconciled (hn : n < .last) (hi : Inv s) (hl : Live host s) (hp : s.progress = some p)
    (hphase : p.phase = .reconciled) (hf : f ∉ s.revoked) (hother : ∀ r, s.active = some r → f ≠ r.receiptFingerprint) :
    Renewable host n f s := by
  obtain ⟨token, hheld⟩ := hl.owner p hp
  obtain ⟨r, hr, hfingerprint⟩ := hl.old p hp (by rw [hphase]; decide)
  obtain ⟨p', hnext, hafter⟩ := revokeOldReceipt_granted hp hheld hphase hr hfingerprint
  have hlive := Call.live hl hi ⟨token, .revokeOldReceipt p.handoffFingerprint.text⟩
  refine Renewable.step hi ⟨token, .revokeOldReceipt p.handoffFingerprint.text⟩ (fun now hnow => (nomatch hnow))
    (fun r' hr' => ?_) ?_
  all_goals simp only [Call.after, Call.run, hafter] at hlive ⊢
  · right
    rw [← Option.some.inj (hr.symm.trans hr')]
    exact List.mem_cons_self
  · refine renewable_revoked hn hlive (p := p') rfl hnext ?_
    rw [List.mem_cons, not_or]
    exact ⟨hother r hr, hf⟩

/-- The owner of a handoff that has stopped the old authority reconciles it. -/
theorem renewable_stopping (hn : n < .last) (hi : Inv s) (hl : Live host s) (hp : s.progress = some p)
    (hphase : p.phase = .stopping) (hf : f ∉ s.revoked) (hother : ∀ r, s.active = some r → f ≠ r.receiptFingerprint) :
    Renewable host n f s := by
  obtain ⟨token, hheld⟩ := hl.owner p hp
  obtain ⟨p', hnext, hafter⟩ := reconcile_granted hp hheld hphase f
  have hlive := Call.live hl hi ⟨token, .reconcile (completeEvidence s p f)⟩
  have hinv : Inv (Call.after host ⟨token, .reconcile (completeEvidence s p f)⟩ s) := (Call.effect hi _).inv hi
  refine Renewable.step hi ⟨token, .reconcile (completeEvidence s p f)⟩ (fun now hnow => (nomatch hnow)) (fun r hr => ?_) ?_
  all_goals simp only [Call.after, Call.run, hafter] at hlive hinv ⊢
  · exact .inl hr
  · exact renewable_reconciled hn hinv hlive (p := p') rfl hnext hf hother

theorem renewable_open (hn : n < .last) (hi : Inv s) (hl : Live host s) (hp : s.progress = some p) (hf : f ∉ s.revoked)
    (hother : ∀ r, s.active = some r → f ≠ r.receiptFingerprint) : Renewable host n f s := by
  cases hphase : p.phase with
  | stopping => exact renewable_stopping hn hi hl hp hphase hf hother
  | reconciled => exact renewable_reconciled hn hi hl hp hphase hf hother
  | revoked => exact renewable_revoked hn hl hp hphase hf

/-! ### From an authority at rest -/

/-- Another fingerprint. -/
def otherFingerprint (f : Fingerprint) : Fingerprint := if f = .ofNat 64 0 then .ofNat 64 1 else .ofNat 64 0

theorem otherFingerprint_ne (f : Fingerprint) : otherFingerprint f ≠ f := by
  unfold otherFingerprint
  split
  · rename_i h
    rw [h]
    decide
  · rename_i h
    exact fun heq => h heq.symm

/-- The identity of the receipt in another environment. -/
def elsewhere (r : DeploymentAuthorityHandoffReceipt) : DeploymentAuthorityIdentity :=
  { r.identity with environmentFingerprint := otherFingerprint r.identity.environmentFingerprint }

theorem elsewhere_ne (r : DeploymentAuthorityHandoffReceipt) : r.identity.same (elsewhere r) ≠ true := by
  intro h
  have heq := of_decide_eq_true (Bool.and_eq_true_iff.1 h).2
  exact otherFingerprint_ne _ (congrArg DeploymentAuthorityIdentity.environmentFingerprint heq).symm

section Rest

variable {r : DeploymentAuthorityHandoffReceipt} (hi : Inv s) (hl : Live host s) (hclosed : s.progress = none)
    (hr : s.active = some r)

include hl hclosed hr

/-- A handoff to another environment begins, by whoever brings what it takes. -/
theorem beginHandoff_granted (self : Nat) (recovery : Option HandoffRecoveryClaim) {owner : Fingerprint}
    (hauthority : (s.holdsClaim host self r s.claimFingerprint && receiptCurrent r now) = true ∧ recovery = none ∨
      (s.holdsClaim host self r s.claimFingerprint && receiptCurrent r now) = false ∧
        ∃ claim, recovery = some claim ∧ recoveryIsValid host s r f now claim = true)
    (howner : (recovery.map (·.replacementOwnerClaimFingerprint)).or s.claimFingerprint = some owner)
    (hgeneration : 1 ≤ (recovery.map (·.priorOwnerClaimGeneration + 1)).getD s.claimGeneration) :
    ∃ p : HandoffProgress, p.phase = .stopping ∧ (beginHandoff host self r (elsewhere r) f.text now recovery s).2.progress = some p ∧
      (beginHandoff host self r (elsewhere r) f.text now recovery s).2.active = s.active ∧
      (beginHandoff host self r (elsewhere r) f.text now recovery s).2.revoked = s.revoked := by
  have hnames := hl.names r hr
  have hnew : s.identityNames (elsewhere r) = true := hnames
  have hdomain : sameAuthorityDomain r.identity (elsewhere r) = true := by
    simp [sameAuthorityDomain, elsewhere, RuntimeBinding.same_refl]
  have hvalid : recovery.filter (recoveryIsValid host s r f now) = recovery := by
    rcases hauthority with ⟨-, rfl⟩ | ⟨-, claim, rfl, hvalid⟩
    · rfl
    · exact Option.filter_some_pos hvalid
  have hfresh : ¬ ((s.holdsClaim host self r s.claimFingerprint && receiptCurrent r now) = true ∧ recovery ≠ none) := by
    rcases hauthority with ⟨-, rfl⟩ | ⟨hstale, -⟩
    · exact fun h => h.2 rfl
    · exact fun h => absurd (hstale.symm.trans h.1) (by decide)
  have hstale : ¬ ((s.holdsClaim host self r s.claimFingerprint && receiptCurrent r now) = false ∧ recovery = none) := by
    rcases hauthority with ⟨hheld, -⟩ | ⟨-, claim, rfl, -⟩
    · exact fun h => absurd (h.1.symm.trans hheld) (by decide)
    · exact fun h => (nomatch h.2)
  have hnodup : (recovery.map (·.evidenceFingerprint)).toList.Nodup := by cases recovery <;> simp
  have hmake : HandoffProgress.make f r.receiptFingerprint (elsewhere r) .stopping none (some owner) _ _ = .ok _ :=
    HandoffProgress.make_eq hgeneration hnodup (by simp)
  have hafter : beginHandoff host self r (elsewhere r) f.text now recovery s = begun host self r (elsewhere r) f recovery s := by
    refine (checked f "handoff" _ s).trans ?_
    dsimp only
    rw [hvalid, if_neg (not_not.2 hclosed), if_neg (by rw [hnames, s.isActive_self hr]; decide), if_neg hfresh,
      if_neg hstale, if_neg (by rw [hnew]; decide), if_neg (by rw [hdomain]; decide), if_neg (elsewhere_ne r)]
  rw [hafter]
  unfold begun
  dsimp only
  rw [howner, hmake]
  exact ⟨_, rfl, rfl, rfl, rfl⟩

theorem claimOrchestrator_granted (self : Nat) (hfree : s.claimOwnerToken = none) (hcurrent : receiptCurrent r now = true) :
    (claimOrchestrator host self r f.text now s).2 = acquired host self r f s := by
  have hnames := hl.names r hr
  have hverified := hl.verified r hr
  refine (congrArg Prod.snd (checked f "orchestrator claim" _ s)).trans ?_
  rw [if_neg (not_not.2 hclosed), if_neg (by rw [hnames, s.isActive_self hr]; decide),
    if_neg (by rw [hcurrent, hverified]; decide), if_pos hfree]
  rfl

include hi

variable (hn : n < .last) (hf : f ∉ s.revoked) (hother : f ≠ r.receiptFingerprint)

include hn hf hother

omit hclosed in
/-- Once a handoff has begun, it runs to its end. -/
theorem renewable_begun {self : Nat} {recovery : Option HandoffRecoveryClaim} (h : ∃ p : HandoffProgress, p.phase = .stopping ∧
      (beginHandoff host self r (elsewhere r) f.text (.utc n) recovery s).2.progress = some p ∧
      (beginHandoff host self r (elsewhere r) f.text (.utc n) recovery s).2.active = s.active ∧
      (beginHandoff host self r (elsewhere r) f.text (.utc n) recovery s).2.revoked = s.revoked) : Renewable host n f s := by
  obtain ⟨p, -, hp, hactive, hrevoked⟩ := h
  have hlive := Call.live hl hi ⟨self, .beginHandoff r (elsewhere r) f.text (.utc n) recovery⟩
  have hinv : Inv (Call.after host ⟨self, .beginHandoff r (elsewhere r) f.text (.utc n) recovery⟩ s) := (Call.effect hi _).inv hi
  refine Renewable.step hi ⟨self, .beginHandoff r (elsewhere r) f.text (.utc n) recovery⟩
    (fun now hnow => (Option.some.inj hnow).symm) (fun r' hr' => ?_) ?_
  all_goals
    simp only [Call.after, Call.run] at hlive hinv ⊢
    generalize (beginHandoff host self r (elsewhere r) f.text (.utc n) recovery s).2 = s' at hp hactive hrevoked hlive hinv ⊢
  · exact .inl (hactive.trans hr')
  · refine renewable_open hn hinv hlive hp (hrevoked ▸ hf) fun r' hr' => ?_
    have hsame : s.active = some r' := hactive.symm.trans hr'
    rw [← Option.some.inj (hr.symm.trans hsame)]
    exact hother

/-- The holder of the claim on a current receipt begins a handoff. -/
theorem renewable_claimed {token : Nat} (htoken : s.claimOwnerToken = some token) (hcurrent : receiptCurrent r (.utc n) = true) :
    Renewable host n f s := by
  obtain ⟨owner, howner⟩ := hi.claimed token htoken
  refine renewable_begun hi hl hr hn hf hother
    (beginHandoff_granted hl hclosed hr token none (.inl ⟨?_, rfl⟩) howner (hi.generation owner howner))
  rw [hl.claimed r token hr htoken, hcurrent, Bool.and_self]

/-- Recovery evidence replaces the claim on a receipt that is not current. -/
theorem renewable_recovered {prior evidence : Fingerprint} (hprior : s.claimFingerprint = some prior)
    (hstale : receiptCurrent r (.utc n) = false) (hevidence : evidence ∉ s.consumedRecoveryEvidenceFingerprints) :
    Renewable host n f s := by
  let claim : HandoffRecoveryClaim :=
    ⟨evidence, f, r.receiptFingerprint, r.bindingDigest host, prior, s.claimGeneration, f, s.stateStoreFingerprint,
      s.stateId, .staleOwner, n, .last, hi.generation prior hprior, hn⟩
  refine renewable_begun hi hl hr hn hf hother
    (beginHandoff_granted hl hclosed hr 0 (some claim) (.inr ⟨?_, claim, rfl, ?_⟩) rfl ?_)
  · rw [hstale, Bool.and_false]
  · simp [recoveryIsValid, recoveryMatches, claim, OldReceipt.receiptFingerprint, OldReceipt.bindingDigest, hprior,
      HandoffRecoveryClaim.current, hevidence, hn]
  · have := hi.generation prior hprior
    simp only [Option.map_some, Option.getD_some, claim]
    omega

/-- Nobody has claimed the current receipt: somebody does, and begins a handoff. -/
theorem renewable_unclaimed (hfree : s.claimOwnerToken = none) (hcurrent : receiptCurrent r (.utc n) = true) :
    Renewable host n f s := by
  have hafter := claimOrchestrator_granted hl hclosed hr (f := f) 0 hfree hcurrent
  have hlive := Call.live hl hi ⟨0, .claimOrchestrator r f.text (.utc n)⟩
  have hinv : Inv (Call.after host ⟨0, .claimOrchestrator r f.text (.utc n)⟩ s) := (Call.effect hi _).inv hi
  refine Renewable.step hi ⟨0, .claimOrchestrator r f.text (.utc n)⟩ (fun now hnow => (Option.some.inj hnow).symm)
    (fun r' hr' => ?_) ?_
  all_goals simp only [Call.after, Call.run, hafter] at hlive hinv ⊢
  · exact .inl hr'
  · exact renewable_claimed hinv hlive hclosed hr hn hf hother rfl hcurrent

end Rest

/-- A runtime binding without a review policy. -/
def plainRuntime (f : Fingerprint) : RuntimeBinding where
  resolvedDigest := .sha256 f
  workerProfileIdentity := .sha256 f
  supervisorProfileIdentities := [.sha256 f]
  reviewCompleteRounds := 0
  reviewMaxRounds := 0
  reviewMaxSupervisorAttemptsPerRound := 0
  reviewOnFinalFindings := ""
  reviewPolicyDigest := ""
  profiles := ⟨by simp, by simp⟩
  reviewPolicy := .inl ⟨rfl, rfl, rfl, rfl, rfl⟩

/-- An identity that names the store. -/
def identityIn (s : Store) (f : Fingerprint) : DeploymentAuthorityIdentity :=
  ⟨f, f, s.stateStoreFingerprint, s.stateId, f, .inr f, f, plainRuntime f⟩

theorem acquired_holds (self : Nat) (r : DeploymentAuthorityHandoffReceipt) :
    (acquired host self r f s).holdsClaim host self r (acquired host self r f s).claimFingerprint = true := by
  simp [Store.holdsClaim, acquired]

/-- Without an authority, a first receipt is activated and claimed. -/
theorem renewable_inactive (hn : n < .last) (hi : Inv s) (hl : Live host s) (hclosed : s.progress = none)
    (hnone : s.active = none) (hf : f ∉ s.revoked) : Renewable host n f s := by
  have hafter : (activateInitial host (receiptAt f (identityIn s f) hn)
      (freshVerification host (receiptAt f (identityIn s f) hn)) (.utc n) s).2 = { s with
        active := some (receiptAt f (identityIn s f) hn)
        verification := some (freshVerification host (receiptAt f (identityIn s f) hn)) }.clearAuthorityClaim.clearHandoffClaim := by
    have hnames : s.receiptNames (receiptAt f (identityIn s f) hn) = true := by
      simp [Store.receiptNames, Store.identityNames, receiptAt, identityIn]
    unfold activateInitial
    rw [if_neg (by rw [hnames]; decide), if_neg (by rw [receiptCurrent_receiptAt]; decide),
      if_neg (by rw [verificationMatches_fresh]; decide), if_neg (by rw [hnone, hclosed]; simp),
        if_neg (by simpa [receiptAt] using hf)]
    rfl
  have hlive := Call.live hl hi ⟨0, .activateInitial (receiptAt f (identityIn s f) hn)
    (freshVerification host (receiptAt f (identityIn s f) hn)) (.utc n)⟩
  simp only [Call.after, Call.run, hafter] at hlive
  refine ⟨[⟨0, .activateInitial (receiptAt f (identityIn s f) hn) (freshVerification host (receiptAt f (identityIn s f) hn)) (.utc n)⟩,
    ⟨0, .claimOrchestrator (receiptAt f (identityIn s f) hn) f.text (.utc n)⟩], fun call hc now hnow => ?_, fun r hr => ?_,
    receiptAt f (identityIn s f) hn, 0, ?_⟩
  · simp only [List.mem_cons, List.not_mem_nil, or_false] at hc
    rcases hc with rfl | rfl
    · exact (Option.some.inj hnow).symm
    · exact (Option.some.inj hnow).symm
  · rw [hnone] at hr
    cases hr
  · simp only [runCalls, List.foldl_cons, List.foldl_nil, Call.after, Call.run, hafter]
    rw [claimOrchestrator_granted hlive hclosed rfl 0 rfl (receiptCurrent_receiptAt _ hn)]
    exact ⟨rfl, rfl, acquired_holds 0 _⟩

/-! ## When the authority is wedged -/

/-- There is a later instant for a receipt to expire at; outside a handoff, a receipt that has expired at `t` is
claimed, and there is recovery evidence that has not been used; and there is a fingerprint for another receipt. -/
structure Unwedged (s : Store) (t : Instant) : Prop where
  time : t < .last
  claim : ∀ r, s.active = some r → s.progress = none → r.expiresAt ≤ t →
    s.claimFingerprint ≠ none ∧ ∃ evidence, evidence ∉ s.consumedRecoveryEvidenceFingerprints
  fingerprint : ∃ f, f ∉ s.revoked ∧ ∀ r, s.active = some r → f ≠ r.receiptFingerprint

variable {t : Instant}

theorem Renewable.timely (h : Renewable host n f s) (htime : t ≤ n) (hother : ∀ r, s.active = some r → f ≠ r.receiptFingerprint) :
    ∃ calls, Timely t calls ∧ Renewed host s (runCalls host calls s) := by
  obtain ⟨calls, hclocks, hrevoked, r, self, hr, hfingerprint, hheld⟩ := h
  refine ⟨calls, ⟨List.replicate (calls.filterMap (·.request.clock?)).length n, ?_, ?_⟩, hrevoked, r, self, hr, ?_, hheld⟩
  · rw [List.map_replicate]
    refine List.eq_replicate_iff.2 ⟨rfl, fun now hnow => ?_⟩
    obtain ⟨call, hcall, hclock⟩ := List.mem_filterMap.1 hnow
    exact hclocks call hcall now hclock
  · refine List.pairwise_cons.2 ⟨fun m hm => ?_, List.pairwise_replicate.2 (.inr le_rfl)⟩
    rw [List.eq_of_mem_replicate hm]
    exact htime
  · by_contra hsame
    obtain ⟨active, hactive, hsame⟩ := (Option.any_eq_true _ _).1 (Bool.not_eq_false _ ▸ hsame)
    exact hother active hactive (hfingerprint.symm.trans (DeploymentAuthorityHandoffReceipt.same_fingerprint hsame).symm)

theorem Unwedged.renewable (h : Unwedged s t) (hi : Inv s) (hl : Live host s) :
    ∃ calls, Timely t calls ∧ Renewed host s (runCalls host calls s) := by
  obtain ⟨f, hf, hother⟩ := h.fingerprint
  cases hp : s.progress with
  | some p => exact (renewable_open h.time hi hl hp hf hother).timely le_rfl hother
  | none =>
    cases hr : s.active with
    | none => exact (renewable_inactive h.time hi hl hp hr hf).timely le_rfl hother
    | some r =>
      rcases lt_or_ge t r.expiresAt with hbefore | hexpired
      · -- at the first instant from `t` on at which the receipt is current
        have hlater : max t r.issuedAt < r.expiresAt := max_lt hbefore r.window
        have hn : max t r.issuedAt < .last := hlater.trans_le (Fin.le_last _)
        have hcurrent : receiptCurrent r (.utc (max t r.issuedAt)) = true := decide_eq_true ⟨le_max_right _ _, hlater⟩
        cases htoken : s.claimOwnerToken with
        | none => exact (renewable_unclaimed hi hl hp hr hn hf (hother r hr) htoken hcurrent).timely (le_max_left _ _) hother
        | some token => exact (renewable_claimed hi hl hp hr hn hf (hother r hr) htoken hcurrent).timely (le_max_left _ _) hother
      · obtain ⟨hclaimed, evidence, hevidence⟩ := h.claim r hr hp hexpired
        obtain ⟨prior, hprior⟩ := Option.ne_none_iff_exists'.1 hclaimed
        have hstale : receiptCurrent r (.utc t) = false := by
          simp only [receiptCurrent, decide_eq_false_iff_not, not_and, not_lt]
          exact fun _ => hexpired
        exact (renewable_recovered hi hl hp hr h.time hf (hother r hr) hprior hstale hevidence).timely le_rfl hother

/-- The receipt has expired outside a handoff, and recovery has no claim to name or no evidence left. -/
structure Stuck (t : Instant) (r : DeploymentAuthorityHandoffReceipt) (s : Store) : Prop where
  closed : s.progress = none
  active : s.active = some r
  expired : r.expiresAt ≤ t
  lost : s.claimFingerprint = none ∨ ∀ evidence, evidence ∈ s.consumedRecoveryEvidenceFingerprints

variable {calls : List Call}

section Stuck

variable {t : Instant} {r : DeploymentAuthorityHandoffReceipt}

/-- Neither the active receipt nor one that is taken for it is current. -/
theorem Stuck.not_current (h : Stuck t r s) {m : Instant} (hm : t ≤ m) {receipt : DeploymentAuthorityHandoffReceipt}
    (hactive : s.isActive receipt = true) : receiptCurrent receipt (.utc m) = false := by
  have hsame := (Bool.and_eq_true_iff.1 (Store.isActive_same (s.isActive_self h.active) hactive)).2
  rw [← of_decide_eq_true hsame]
  simp only [receiptCurrent, decide_eq_false_iff_not, not_and, not_lt]
  exact fun _ => h.expired.trans hm

theorem Stuck.claimOrchestrator (h : Stuck t r s) (self : Nat) (receipt : DeploymentAuthorityHandoffReceipt)
    (text : String) {m : Instant} (hm : t ≤ m) : (claimOrchestrator host self receipt text (.utc m) s).2 = s := by
  unfold Handoff.claimOrchestrator
  cases hf : requireFingerprint text "orchestrator claim" with
  | error e => rfl
  | ok fingerprint =>
    show (ite _ _ _ : Except Error HandoffDecision × Store).2 = s
    split_ifs with _ hactive hstale
    iterate 3 rfl
    all_goals
      rw [not_or, Bool.not_eq_false] at hactive
      exact absurd (.inl (h.not_current hm hactive.1)) hstale

/-- No evidence is valid: it names a prior claim, and it must not have been used. -/
theorem Stuck.not_valid (h : Stuck t r s) (old : DeploymentAuthorityHandoffReceipt) (f : Fingerprint) (now : Clock)
    (claim : HandoffRecoveryClaim) : recoveryIsValid host s old f now claim = false := by
  by_contra hvalid
  rw [Bool.not_eq_false, recoveryIsValid, Bool.and_eq_true, decide_eq_true_eq] at hvalid
  rcases h.lost with hnone | hconsumed
  · have hprior := (recoveryMatches_prior hvalid.1).2.1
    rw [hnone] at hprior
    cases hprior
  · exact hvalid.2 (hconsumed _)

theorem Stuck.beginHandoff (h : Stuck t r s) (self : Nat) (old : DeploymentAuthorityHandoffReceipt)
    (new : DeploymentAuthorityIdentity) (text : String) {m : Instant} (hm : t ≤ m) (recovery : Option HandoffRecoveryClaim) :
    (beginHandoff host self old new text (.utc m) recovery s).2 = s := by
  unfold Handoff.beginHandoff
  cases hf : requireFingerprint text "handoff" with
  | error e => rfl
  | ok fingerprint =>
    show (ite _ _ _ : Except Error HandoffDecision × Store).2 = s
    split_ifs with _ hactive _ hstale
    iterate 4 rfl
    all_goals
      rw [not_or, Bool.not_eq_false] at hactive
      refine absurd ⟨?_, ?_⟩ hstale
      · rw [h.not_current hm hactive.1, Bool.and_false]
      · rw [Option.filter_eq_none_iff]
        exact fun claim _ => by rw [h.not_valid]; decide

/-- The requests that act on a receipt outside a handoff. -/
def Operation.Request.starts : Operation.Request → Bool
  | .claimOrchestrator .. | .beginHandoff .. => true
  | _ => false

theorem Does.stuck (he : Does host s call outcome) (h : Stuck t r s)
    (hother : call.request.starts = false) : Stuck t r outcome.2 := by
  obtain ⟨answer, s'⟩ := outcome
  unfold Does at he
  dsimp only at he ⊢
  generalize grantedFor answer = granted at he
  cases he with
  | denied | authorized | reclaimed => exact h
  | activated free => exact absurd (free.symm.trans h.active) (by simp)
  | claimed | began => cases hother
  | recovered _ _ open_ | reconciled _ _ open_ | revoked _ _ _ open_ | issued _ open_ | tornDown _ open_ =>
    exact absurd (h.closed.symm.trans open_) (by simp)

theorem Call.stuck (h : Stuck t r s) (hi : Inv s) (call : Call)
    (hclock : ∀ now, call.request.clock? = some now → ∃ m, now = .utc m ∧ t ≤ m) : Stuck t r (call.after host s) := by
  by_cases hstarts : call.request.starts = true
  · obtain ⟨self, request⟩ := call
    cases request with
    | claimOrchestrator receipt text now =>
      obtain ⟨m, rfl, hm⟩ := hclock now rfl
      rw [Call.after, Call.run, h.claimOrchestrator self receipt text hm]
      exact h
    | beginHandoff old new text now recovery =>
      obtain ⟨m, rfl, hm⟩ := hclock now rfl
      rw [Call.after, Call.run, h.beginHandoff self old new text hm recovery]
      exact h
    | _ => cases hstarts
  · exact Does.stuck (Call.effect hi call) h (Bool.eq_false_iff.2 hstarts)

theorem runCalls_stuck (h : Stuck t r s) (hi : Inv s)
    (hclock : ∀ call ∈ calls, ∀ now, call.request.clock? = some now → ∃ m, now = .utc m ∧ t ≤ m) :
    Stuck t r (runCalls host calls s) := by
  induction calls generalizing s with
  | nil => exact h
  | cons call rest ih =>
    exact ih (Call.stuck h hi call (hclock call List.mem_cons_self)) ((Call.effect hi call).inv hi)
      fun c hc => hclock c (List.mem_cons_of_mem _ hc)

end Stuck

/-- A receipt becomes active when it is current. -/
theorem Effect.activates {answer : Option Fingerprint} {s' : Store} (h : Effect host s call answer s')
    (hr : s'.active = some r) (hne : s.active ≠ some r) :
    ∃ now, call.request.clock? = some now ∧ receiptCurrent r now = true := by
  cases h with
  | activated free closed unrevoked current =>
    obtain rfl := Option.some.inj hr
    exact ⟨_, rfl, current⟩
  | issued p open_ phase held identity unrevoked current =>
    obtain rfl := Option.some.inj hr
    exact ⟨_, rfl, current⟩
  | revoked => cases hr
  | _ => exact absurd hr hne

theorem runCalls_activates (hi : Inv s)
    (hr : (runCalls host calls s).active = some r) (hne : s.active ≠ some r) :
    ∃ call ∈ calls, ∃ now, call.request.clock? = some now ∧ receiptCurrent r now = true := by
  induction calls generalizing s with
  | nil => exact absurd hr hne
  | cons call rest ih =>
    have heffect : Effect host s call _ _ := Call.effect hi call
    by_cases hafter : (call.after host s).active = some r
    · exact ⟨call, List.mem_cons_self, heffect.activates hafter hne⟩
    · obtain ⟨c, hc, hcurrent⟩ := ih (heffect.inv hi) hr hafter
      exact ⟨c, List.mem_cons_of_mem _ hc, hcurrent⟩

theorem Timely.clock (h : Timely t calls) (hcall : call ∈ calls)
    (hnow : call.request.clock? = some now) : ∃ m, now = .utc m ∧ t ≤ m := by
  obtain ⟨instants, hclocks, hordered⟩ := h
  have hmem : now ∈ instants.map Clock.utc := hclocks ▸ List.mem_filterMap.2 ⟨call, hcall, hnow⟩
  obtain ⟨m, hm, rfl⟩ := List.mem_map.1 hmem
  exact ⟨m, rfl, (List.pairwise_cons.1 hordered).1 m hm⟩

theorem Unwedged.of_renewed (hi : Inv s) (htimely : Timely t calls)
    (hrenewed : Renewed host s (runCalls host calls s)) : Unwedged s t := by
  have hinv : Inv (runCalls host calls s) := runCalls_inv hi calls
  refine ⟨?_, fun r hr hclosed hexpired => ?_, ?_⟩
  · obtain ⟨r, self, hr, hnew, -⟩ := hrenewed.active
    have hne : s.active ≠ some r := by
      intro hsame
      rw [s.isActive_self hsame] at hnew
      cases hnew
    -- the new receipt has become active at an instant before its last one
    obtain ⟨call, hcall, now, hnow, hcurrent⟩ := runCalls_activates hi hr hne
    obtain ⟨m, rfl, hm⟩ := htimely.clock hcall hnow
    exact (hm.trans_lt (of_decide_eq_true hcurrent).2).trans_le (Fin.le_last _)
  · by_contra hlost
    have hstuck : Stuck t r s := by
      refine ⟨hclosed, hr, hexpired, ?_⟩
      by_contra hnot
      rw [not_or, not_forall] at hnot
      exact hlost hnot
    -- the receipt stays active, so it is never revoked
    have hafter : Stuck t r (runCalls host calls s) := runCalls_stuck hstuck hi fun call hcall now hnow => htimely.clock hcall hnow
    exact hinv.unrevoked r hafter.active (hrenewed.revoked r hr)
  · obtain ⟨r', self, hr', hne, -⟩ := hrenewed.active
    have hunrevoked := hinv.unrevoked r' hr'
    refine ⟨r'.receiptFingerprint, fun hmem => hunrevoked (runCalls_revoked hi calls hmem), fun r hr heq => ?_⟩
    exact hunrevoked (heq ▸ hrenewed.revoked r hr)

/-- In every state that coordinators can reach and at every instant, calls from that instant on can replace the active
receipt exactly when it is not wedged. -/
theorem authority_renewable_iff {stateStoreFingerprint : Fingerprint} {stateId : Uuid} {log : List Event}
    (h : Run host AnyCall (.initial stateStoreFingerprint stateId) log s) (t : Instant) :
    (∃ calls, Timely t calls ∧ Renewed host s (runCalls host calls s)) ↔ Unwedged s t := by
  have hi := h.inv (.initial stateStoreFingerprint stateId)
  have hl := h.live (.initial stateStoreFingerprint stateId) (.initial stateStoreFingerprint stateId)
  constructor
  · rintro ⟨calls, htimely, hrenewed⟩
    exact .of_renewed hi htimely hrenewed
  · exact fun hunwedged => hunwedged.renewable hi hl

open Sample in
/-- A claimed receipt that has expired is replaced. -/
theorem authority_renewable_iff_claimed :
    (∃ calls, Timely 200 calls ∧ Renewed .sample (after (replaced.take 2)).2
      (runCalls .sample calls (after (replaced.take 2)).2)) := by
  refine (authority_renewable_iff (run_after (replaced.take 2)) 200).2 ⟨by decide, fun r _ _ _ => ⟨by decide +kernel, ?_⟩, ?_⟩
  · exact ⟨fingerprint 1, by decide +kernel⟩
  · refine ⟨fingerprint 21, by decide +kernel, fun r hr => ?_⟩
    have hactive : (after (replaced.take 2)).2.active = some (receipt 20 1) := by decide +kernel
    rw [← Option.some.inj (hactive.symm.trans hr)]
    decide +kernel

open Sample in
/-- A receipt that nobody has claimed before it expired is never replaced. -/
theorem authority_wedged_unclaimed :
    ¬ ∀ (log : List Event) (s : Store), Run .sample AnyCall start log s → ∀ t : Instant,
      (∀ e ∈ log, ∀ now, e.call.request.clock? = some now → ∃ m ≤ t, now = .utc m) →
      ∃ calls, Timely t calls ∧ Renewed .sample s (runCalls .sample calls s) := by
  intro h
  have hrun := run_after (replaced.take 1)
  obtain ⟨calls, htimely, hrenewed⟩ := h _ _ hrun 100 (by
    intro e he now hnow
    simp only [after, further, replaced, List.take_succ_cons, List.take_zero, List.foldl_cons, List.foldl_nil,
      List.nil_append, List.mem_singleton] at he
    rw [he] at hnow
    exact ⟨10, by decide, (Option.some.inj hnow).symm⟩)
  have hunwedged := Unwedged.of_renewed (hrun.inv (.initial _ _)) htimely hrenewed
  have hactive : (after (replaced.take 1)).2.active = some (receipt 20 1) := by decide +kernel
  exact (hunwedged.claim _ hactive (by decide +kernel) (by decide)).1 (by decide +kernel)

end Roundwright.Handoff
