/-
The generations of owner claims. Every change of the owner raises the generation, of the authority claim or, during a
handoff, of the progress; the progress gives its generation back to the authority claim when the replacement is issued,
and not when the handoff is torn down. Claims are fenced in every run that tears down no handoff whose owner has been
replaced.
-/
import Roundwright.Handoff.Invariant

namespace Roundwright.Handoff

open Lib State

/-! ## Periods of ownership -/

/-- The generation and the fingerprint of whoever owns the deployment now: the owner of the handoff that is open, else
the holder of the authority claim. -/
def Store.period (s : Store) : Int × Option Fingerprint :=
  match s.progress with
  | some p => (p.ownerClaimGeneration, some p.ownerClaimFingerprint)
  | none => (s.claimGeneration, s.claimFingerprint)

/-- A claim of the period or of an earlier one. -/
def OwnerClaim.Within (c : OwnerClaim) (period : Int × Option Fingerprint) : Prop :=
  c.generation ≤ period.1 ∧ ∀ fingerprint, period.2 = some fingerprint → c.generation = period.1 → c.fingerprint = fingerprint

/-- The order of owner claims: no later claim is older, and one generation has one fingerprint. -/
def OwnerClaim.Before (a b : OwnerClaim) : Prop := a.generation ≤ b.generation ∧
    (a.generation = b.generation → a.fingerprint = b.fingerprint)

/-- A teardown ends a handoff that still has the generation of the authority claim: nobody has replaced its owner. -/
def KeepsGeneration (s : Store) (call : Call) : Prop :=
  ∀ evidence p, call.request = .completeTeardown evidence → s.progress = some p → p.ownerClaimGeneration = s.claimGeneration

variable {host : Host} {s s' : Store} {call : Call} {answer : Option Fingerprint} {log : List Event}

theorem Store.period_open {p : HandoffProgress} (h : s.progress = some p) :
    s.period = (p.ownerClaimGeneration, some p.ownerClaimFingerprint) := by
  rw [Store.period, h]

theorem Store.period_closed (h : s.progress = none) : s.period = (s.claimGeneration, s.claimFingerprint) := by
  rw [Store.period, h]

variable {c : OwnerClaim}

/-- A period with a higher generation. -/
theorem OwnerClaim.Within.raised {period period' : Int × Option Fingerprint} (h : c.Within period)
    (hlt : period.1 < period'.1) : c.Within period' := by
  obtain ⟨hle, -⟩ := h
  refine ⟨by omega, fun _ _ heq => ?_⟩
  omega

/-- A period whose owner is not known. -/
theorem OwnerClaim.Within.unowned {period : Int × Option Fingerprint} (h : c.Within period) :
    c.Within (period.1, none) :=
  ⟨h.1, fun _ hnone => (nomatch hnone)⟩

/-- No call starts a period that an earlier claim is ahead of. -/
theorem Effect.within (h : Effect host s call answer s') (hi : Inv s) (hkeeps : KeepsGeneration s call)
    (hc : c.Within s.period) : c.Within s'.period := by
  cases h with
  | denied => exact hc
  | authorized => exact hc
  | reclaimed => exact hc
  | activated free closed unrevoked =>
    rw [Store.period_closed closed] at hc
    rw [Store.period_closed]
    · exact hc.unowned
    · exact closed
  | claimed fingerprint closed active free =>
    rw [Store.period_closed closed] at hc
    rw [Store.period_closed]
    · refine hc.raised ?_
      show s.claimGeneration < s.claimGeneration + 1
      omega
    · exact closed
  | began p handoff closed phase begins =>
    rw [Store.period_closed closed] at hc
    rw [Store.period_open rfl]
    cases begins with
    | held fingerprint generation consumed =>
      rw [← fingerprint, generation]
      exact hc
    | recovered claim prior priorGeneration fingerprint generation consumed =>
      refine hc.raised ?_
      show s.claimGeneration < p.ownerClaimGeneration
      omega
  | recovered p p' open_ handoff continues phase evidence generation consumed =>
    rw [Store.period_open open_] at hc
    rw [Store.period_open rfl]
    refine hc.raised ?_
    show p.ownerClaimGeneration < p'.ownerClaimGeneration
    omega
  | reconciled p p' open_ phase held advances next recorded handoff old =>
    rw [Store.period_open open_] at hc
    rw [Store.period_open rfl, advances.owner, advances.generation]
    exact hc
  | revoked p p' active open_ phase held is advances next recorded =>
    rw [Store.period_open open_] at hc
    rw [Store.period_open rfl, advances.owner, advances.generation]
    exact hc
  | issued p open_ phase held identity unrevoked =>
    rw [Store.period_open open_] at hc
    exact hc
  | tornDown p open_ phase held none_ =>
    -- the receipt is revoked, so the claim on it is gone
    rw [Store.period_open open_, hkeeps _ p rfl open_] at hc
    rw [Store.period_closed rfl]
    show c.Within (s.claimGeneration, s.claimFingerprint)
    rw [hi.ofActive none_]
    exact hc.unowned

/-- The claim that a call makes is the one of the period it leaves. -/
theorem Effect.claims (h : Effect host s call answer s') (hc : (answer.bind fun _ => call.request.claims s') = some c) :
    s'.period = (c.generation, some c.fingerprint) := by
  have hauthority : s'.progress = none → s'.authorityClaim = some c → s'.period = (c.generation, some c.fingerprint) := by
    intro hclosed hclaim
    obtain ⟨fingerprint, hf, rfl⟩ := Option.map_eq_some_iff.1 hclaim
    rw [Store.period_closed hclosed, hf]
  have hhandoff : s'.handoffClaim = some c → s'.period = (c.generation, some c.fingerprint) := by
    intro hclaim
    obtain ⟨p, hp, rfl⟩ := Option.map_eq_some_iff.1 hclaim
    exact Store.period_open hp
  cases h with
  | denied => cases hc
  | authorized =>
    obtain ⟨_, -, hc⟩ := Option.bind_eq_some_iff.1 hc
    cases hc
  | activated => cases hc
  | claimed fingerprint closed active free => exact hauthority closed hc
  | reclaimed closed => exact hauthority closed hc
  | began p handoff closed phase begins =>
    cases begins with
    | held => cases hc
    | recovered => exact hhandoff hc
  | recovered => exact hhandoff hc
  | reconciled => cases hc
  | revoked => cases hc
  | issued => exact hauthority rfl hc
  | tornDown => cases hc

/-! ## Runs -/

/-- The claims made so far are in order, and none is ahead of the present period. -/
structure Fenced (claims : List OwnerClaim) (s : Store) : Prop where
  ordered : claims.Pairwise OwnerClaim.Before
  within : ∀ c ∈ claims, c.Within s.period

theorem Run.fenced {start : Store} (h : Run host KeepsGeneration start log s) (hi : Inv start) :
    Fenced (log.filterMap Event.claim) s := by
  induction h with
  | nil => exact ⟨List.Pairwise.nil, fun _ hc => (nomatch hc)⟩
  | @snoc log s hrun call may ih =>
    have heffect : Effect host s call _ _ := Call.effect (hrun.inv hi) call
    have hwithin : ∀ c ∈ log.filterMap Event.claim, c.Within (call.after host s).period :=
      fun c hc => heffect.within (hrun.inv hi) may (ih.within c hc)
    rw [List.filterMap_append]
    cases hclaim : (call.event host s).claim with
    | none => simpa [hclaim] using Fenced.mk ih.ordered hwithin
    | some new =>
      have hperiod := heffect.claims hclaim
      have hnew : [call.event host s].filterMap Event.claim = [new] := by simp [hclaim]
      rw [hnew]
      refine ⟨List.pairwise_append.2 ⟨ih.ordered, List.pairwise_singleton _ _, fun c hc d hd => ?_⟩, fun c hc => ?_⟩
      · rw [List.mem_singleton.1 hd]
        have hc := hwithin c hc
        rw [hperiod] at hc
        exact ⟨hc.1, hc.2 _ rfl⟩
      · rcases List.mem_append.1 hc with hc | hc
        · exact hwithin c hc
        · rw [List.mem_singleton.1 hc, hperiod]
          refine ⟨le_rfl, fun fingerprint hf _ => ?_⟩
          exact Option.some.inj hf

/-- In every run whose teardowns end handoffs of their first owner, the generations of successive owner claims never
fall and no generation has two fingerprints. -/
theorem owner_generations_fence {stateStoreFingerprint : Fingerprint} {stateId : Uuid}
    (h : Run host KeepsGeneration (.initial stateStoreFingerprint stateId) log s) :
    (log.filterMap Event.claim).Pairwise fun a b =>
      a.generation ≤ b.generation ∧ (a.generation = b.generation → a.fingerprint = b.fingerprint) :=
  (h.fenced (.initial stateStoreFingerprint stateId)).ordered

/-! ### Runs with another owner -/

namespace Sample

/-- The second coordinator recovers the handoff and issues the replacement; its receipt is then claimed by nobody
else. -/
def replacement : List Call :=
  replaced ++
    [⟨2, .reconcile reconciliation⟩, ⟨2, .revokeOldReceipt (fingerprint 11).text⟩,
      ⟨2, .issueNewReceipt (receipt 21 2) (verification (receipt 21 2)) (fingerprint 11).text (.utc 10)⟩,
      ⟨3, .claimOrchestrator (receipt 21 2) (fingerprint 32).text (.utc 10)⟩]

def teardown : HandoffTeardown := ⟨fingerprint 11, fingerprint 20, fingerprint 6, .ofNat 32 7, true, fingerprint 13⟩

/-- The second coordinator recovers the handoff and tears it down; a third one activates another receipt and claims it. -/
def abandoned : List Call :=
  replaced ++
    [⟨2, .reconcile reconciliation⟩, ⟨2, .revokeOldReceipt (fingerprint 11).text⟩, ⟨2, .completeTeardown teardown⟩,
      ⟨3, .activateInitial (receipt 21 1) (verification (receipt 21 1)) (.utc 10)⟩,
      ⟨3, .claimOrchestrator (receipt 21 1) (fingerprint 32).text (.utc 10)⟩]

def isTeardown (call : Call) : Bool :=
  match call.request with
  | .completeTeardown _ => true
  | _ => false

theorem run_keeping : ∀ (calls : List Call) {r : List Event × Store}, Run .sample KeepsGeneration start r.1 r.2 →
    (∀ call ∈ calls, isTeardown call = false) → Run .sample KeepsGeneration start (further r calls).1 (further r calls).2
  | [], _, h, _ => h
  | call :: calls, _, h, hcalls => by
    refine run_keeping calls (h.snoc call fun evidence p hrequest _ => ?_) fun c hc => hcalls c (List.mem_cons_of_mem _ hc)
    have hkeeps := hcalls call List.mem_cons_self
    rw [isTeardown, hrequest] at hkeeps
    cases hkeeps

end Sample

open Sample in
/-- The claims of the first owner, of the one in its place and of the replacement's receipt. -/
theorem owner_generations_fence_replacement :
    let claims := (after replacement).1.filterMap Event.claim
    claims.map (·.generation) = [1, 2, 2] ∧ claims.Pairwise fun a b =>
      a.generation ≤ b.generation ∧ (a.generation = b.generation → a.fingerprint = b.fingerprint) := by
  refine ⟨by decide +kernel, ?_⟩
  exact owner_generations_fence (run_keeping replacement .nil (by decide +kernel))

open Sample in
/-- After a recovery and a teardown, the claim on the next receipt has the generation of the recovering owner's. -/
theorem owner_generations_repeat_after_teardown :
    ¬ ∀ (log : List Event) (s : Store), Run .sample AnyCall start log s →
      (log.filterMap Event.claim).Pairwise fun a b =>
        a.generation ≤ b.generation ∧ (a.generation = b.generation → a.fingerprint = b.fingerprint) := by
  intro h
  have hpairs := h _ _ (run_after abandoned)
  have hclaims : (after abandoned).1.filterMap Event.claim =
      [⟨fingerprint 30, 1⟩, ⟨fingerprint 31, 2⟩, ⟨fingerprint 32, 2⟩] := by decide +kernel
  rw [hclaims] at hpairs
  revert hpairs
  decide +kernel

end Roundwright.Handoff
