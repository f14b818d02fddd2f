/-
Any number of coordinators on one ledger. Each of their actions is a method of the ledger or leaves it alone; in a run
whose updates are timely the ledger is consistent in every state, and a record that is verified or left to its owner
stays as it is. Two reconciliations of one record are not timely: both append to the chain.
-/
import Roundwright.Canary.Consistency

namespace Roundwright.Canary

open Lib GitHub

variable {host : Host} {l : Ledger host} {record : TransitionRecord host} {claimDigest : Digest}
  {state : CanaryTransitionState} {readback : Option Digest} {canaryReceipt : Option (BoundedCanaryReceipt host)}
    {receipt : CanaryExecutionReceipt} {action : Action host}

/-! ## What the actions do -/

/-- What an action does to the ledger: reads and questions do nothing. -/
def Action.effect : Action host → Ledger host → Ledger host
  | .reserve authorization request purpose cleaned preState, l => (l.reserve authorization request purpose cleaned preState).2
  | .update claimDigest state readback canaryReceipt, l => (l.update claimDigest state readback canaryReceipt).2
  | .consumeRetry claimDigest, l => (l.consumeRetry claimDigest).2
  | _, l => l

/-- An update to verified has the read-back that its receipt has. -/
def Action.Evidenced : Action host → Prop
  | .update _ state readback canaryReceipt => state = .verified → ∃ r, canaryReceipt = some r ∧
      readback = some r.semanticReadbackDigest
  | _ => True

/-- The action of a call. -/
def Takes (action : Action host) (l l' : Ledger host) : Prop := l' = action.effect l ∧ action.Evidenced

theorem read_acts {α : Type} {f : Ledger host → α} (heffect : ∀ l, action.effect l = l) (hevidenced : action.Evidenced) :
    Script.Acts Takes (read action f) :=
  Script.acts_commit fun _ l => ⟨(heffect l).symm, hevidenced⟩

theorem ask_acts {α : Type} {f : Answer → α} (heffect : ∀ l, action.effect l = l) (hevidenced : action.Evidenced) :
    Script.Acts Takes (ask action f) :=
  Script.acts_commit fun _ l => ⟨(heffect l).symm, hevidenced⟩

theorem method_acts {α : Type} {f : Ledger host → Except Raised α × Ledger host}
    (heffect : ∀ l, action.effect l = (f l).2) (hevidenced : action.Evidenced) : Script.Acts Takes (method action f) :=
  Script.acts_commit fun _ l => ⟨(heffect l).symm, hevidenced⟩

theorem look_acts : Script.Acts Takes (Program.look claimDigest : Program host _) :=
  (read_acts (by intro l; rfl) (by trivial)).bind fun _ => Script.acts_check _

theorem tryUpdate_acts (h : (Action.update claimDigest state readback canaryReceipt).Evidenced) :
    Script.Acts Takes (Program.tryUpdate claimDigest state readback canaryReceipt) :=
  method_acts (by intro l; rfl) h

theorem update_acts (h : state ≠ .verified) : Script.Acts Takes (Program.update claimDigest state readback : Program host _) :=
  (tryUpdate_acts fun hstate => absurd hstate h).bind fun _ => Script.acts_check _

namespace Coordinator

variable {c : Coordinator host} {decision : CanaryDecision} {authorization : CanaryAuthorization} {request : CanaryMutationRequest}

theorem result_acts {verified : Bool} : Script.Acts Takes (result decision claimDigest verified : Program host _) :=
  look_acts.bind fun _ => Script.acts_pure _

/-- An update and what the call answers then. -/
theorem update_result_acts {denial : CanaryDecision} {verified : Bool} (h : state ≠ .verified) :
    Script.Acts Takes (do Program.update claimDigest state readback; result denial claimDigest verified : Program host _) :=
  (update_acts h).bind fun _ => result_acts

theorem readback_acts {allowRetry : Bool} : Script.Acts Takes (Coordinator.readback decision authorization record allowRetry) := by
  refine (ask_acts (by intro l; rfl) (by trivial)).bind fun answer => ?_
  cases answer with
  | none => exact update_result_acts (by decide)
  | some back =>
    obtain ⟨found, digest⟩ := back
    cases found with
    | ambiguous => exact update_result_acts (by decide)
    | absent =>
      refine look_acts.bind fun current => ?_
      split
      · exact (update_acts (by decide)).bind fun _ => result_acts
      · exact (update_acts (by decide)).bind fun _ => result_acts
    | applied =>
      refine (read_acts (by intro l; rfl) (by trivial)).bind fun chain => ?_
      simp only []
      split
      · exact update_result_acts (by decide)
      · rename_i r hadvanced
        obtain ⟨head, -, hadvance⟩ := bind_eq_ok.1 hadvanced
        have hevidenced : (Action.update record.claimDigest .verified (some digest) (some r)).Evidenced :=
          fun _ => ⟨r, rfl, by rw [(advance_ok hadvance).readback_eq]⟩
        refine (tryUpdate_acts hevidenced).bind fun updated => ?_
        split
        · exact update_result_acts (by decide)
        · exact result_acts

theorem dispatch_acts : Script.Acts Takes (Coordinator.dispatch decision authorization record) := by
  refine (ask_acts (by intro l; rfl) (by trivial)).bind fun accepted => ?_
  split
  · exact readback_acts
  · exact readback_acts.handle fun _ => readback_acts
  · exact readback_acts

theorem decision_acts : Script.Acts Takes (c.decision request) :=
  (read_acts (by intro l; rfl) (by trivial)).bind fun _ => Script.acts_pure _

theorem preState_acts : Script.Acts Takes (c.preState authorization request) := by
  refine (read_acts (by intro l; rfl) (by trivial)).bind fun predecessor => ?_
  split
  · exact Script.acts_pure _
  · exact Script.acts_pure _
  · refine look_acts.bind fun held => ?_
    split
    · split_ifs
      · exact Script.acts_pure _
      · refine look_acts.bind fun asked => (ask_acts (by intro l; rfl) (by trivial)).bind fun answer => ?_
        split
        · exact Script.acts_check _
        · exact Script.acts_pure _
        · split_ifs
          · exact look_acts.bind fun _ => Script.acts_pure _
          · exact Script.acts_pure _
    · exact Script.acts_pure _

theorem reserveAndDispatch_acts {purpose : CanaryTransitionPurpose} {predecessor preState : Option Digest} :
    Script.Acts Takes (reserveAndDispatch decision authorization request purpose predecessor preState : Program host _) := by
  refine (method_acts (by intro l; rfl) (by trivial)).bind fun reserved => ?_
  split
  · exact Script.acts_pure _
  · exact result_acts
  · refine (ask_acts (by intro l; rfl) (by trivial)).bind fun granted => ?_
    split_ifs
    · exact look_acts.bind fun _ => dispatch_acts
    · exact update_result_acts (by decide)

theorem begin_acts {purpose : CanaryTransitionPurpose} : Script.Acts Takes (c.begin_ request purpose) := by
  refine (read_acts (by intro l; rfl) (by trivial)).bind fun prior => ?_
  split
  · exact Script.acts_pure _
  · exact result_acts
  · refine decision_acts.bind fun decision => ?_
    split
    · exact Script.acts_pure _
    · split_ifs
      · exact Script.acts_pure _
      · exact reserveAndDispatch_acts
      · refine preState_acts.bind fun evidence => ?_
        split
        · exact Script.acts_pure _
        · exact reserveAndDispatch_acts

theorem reconcile_acts : Script.Acts Takes (c.reconcile claimDigest) := by
  refine (read_acts (by intro l; rfl) (by trivial)).bind fun found => ?_
  split
  · exact Script.acts_pure _
  · refine decision_acts.bind fun decision => ?_
    split_ifs
    · exact result_acts
    · refine look_acts.bind fun current => ?_
      split_ifs
      · exact result_acts
      · exact readback_acts

theorem ownsFence_acts : Script.Acts Takes (ownsFence record) := by
  refine (read_acts (by intro l; rfl) (by trivial)).bind fun proof => ?_
  split_ifs
  · exact ask_acts (by intro l; rfl) (by trivial)
  · exact Script.acts_pure _

theorem retry_acts : Script.Acts Takes (c.retry claimDigest) := by
  refine (read_acts (by intro l; rfl) (by trivial)).bind fun found => ?_
  split
  · exact Script.acts_pure _
  · refine decision_acts.bind fun decision => ?_
    split_ifs
    · exact result_acts
    · refine look_acts.bind fun current => ?_
      split_ifs
      · exact result_acts
      · refine ownsFence_acts.bind fun owned => ?_
        split_ifs
        · refine (method_acts (by intro l; rfl) (by trivial)).bind fun consumed => (Script.acts_check _).bind fun consumed => ?_
          split_ifs
          · exact dispatch_acts
          · exact result_acts
        · exact update_result_acts (by decide)

theorem program_acts (call : Request) : Script.Acts Takes (c.program call) := by
  cases call with
  | execute request => exact begin_acts
  | rollback request => exact begin_acts
  | cleanup request => exact begin_acts
  | reconcile claimDigest => exact reconcile_acts
  | retry claimDigest => exact retry_acts

end Coordinator

/-! ## Timely updates -/

/-- The update is refused, and changes nothing. -/
def Refused (record : TransitionRecord host) (state : CanaryTransitionState)
    (canaryReceipt : Option (BoundedCanaryReceipt host)) : Prop :=
  (state = .verified ∧ ∀ r ∈ canaryReceipt, r.predecessorReceiptDigest ≠ some record.authorization.receiptChainHeadDigest) ∨
    (state ≠ .verified ∧ canaryReceipt ≠ none)

instance : Decidable (Refused record state canaryReceipt) := by
  unfold Refused
  infer_instance

/-- The update finds its record and the chain as its caller has seen them: the record is not verified, and where it is
left to its owner the update says so again; its retry is unused where it is allowed a retry; a receipt that is appended
advances the head. -/
def Finds (l : Ledger host) (record : TransitionRecord host) (state : CanaryTransitionState) (readback : Option Digest)
    (canaryReceipt : Option (BoundedCanaryReceipt host)) : Prop :=
  record.state ≠ .verified ∧
    (record.state = .preservedForOwner → state = .preservedForOwner ∧ readback = record.receipt.semanticReadbackDigest) ∧
    (state = .retryAllowed → record.retryUsed = false) ∧
    ∀ r ∈ canaryReceipt, ∃ head ∈ l.chain.getLast?, advanceCanaryReceipt head record.request.operation
      r.semanticReadbackDigest = .ok r

instance : Decidable (Finds l record state readback canaryReceipt) := by
  unfold Finds
  infer_instance

/-- Every update that is not refused finds what its caller has seen. -/
def Timely : Action host → Ledger host → Prop
  | .update claimDigest state readback canaryReceipt, l =>
    ∀ record ∈ l.record? claimDigest, ¬ Refused record state canaryReceipt → Finds l record state readback canaryReceipt
  | _, _ => True

instance : DecidablePred fun l : Ledger host => Timely action l := by
  intro l
  cases action <;> unfold Timely <;> infer_instance

def Settled (record : TransitionRecord host) : Prop := record.state = .verified ∨ record.state = .preservedForOwner

theorem update_timely (h : Consistent l)
    (hevidenced : (Action.update claimDigest state readback canaryReceipt).Evidenced)
    (htimely : Timely (.update claimDigest state readback canaryReceipt) l) :
    (l.update claimDigest state readback canaryReceipt).2 = l ∨
    ∃ record receipt, l.record? claimDigest = some record ∧ Finds l record state readback canaryReceipt ∧
      record.receiptOf state readback canaryReceipt record.retryUsed = .ok receipt ∧
      (∀ r, canaryReceipt = some r → ∃ head, l.chain.getLast? = some head ∧
        Advances head record.request.operation r.semanticReadbackDigest r ∧
        record.authorization.receiptChainHeadDigest = head.receiptDigest ∧ readback = some r.semanticReadbackDigest) ∧
      (state ≠ .verified → canaryReceipt = none) ∧
      (l.update claimDigest state readback canaryReceipt).2 = l.moved claimDigest state canaryReceipt receipt := by
  -- no record, a refusal, or the move of the record that was found
  cases hr : l.record? claimDigest with
  | none =>
    obtain ⟨e, heq⟩ : ∃ e, l.update claimDigest state readback canaryReceipt = (.error e, l) := update_refused (.inl hr)
    exact .inl (by rw [heq])
  | some record =>
    by_cases hrefused : Refused record state canaryReceipt
    · obtain ⟨e, heq⟩ : ∃ e, l.update claimDigest state readback canaryReceipt = (.error e, l) :=
        update_refused (.inr ⟨record, hr, hrefused⟩)
      exact .inl (by rw [heq])
    · right
      have hfinds : Finds l record state readback canaryReceipt := htimely record hr hrefused
      unfold Refused at hrefused
      push Not at hrefused
      obtain ⟨hpredecessor, hunverified⟩ := hrefused
      have hverified : ∀ r, canaryReceipt = some r → state = .verified := by
        intro r hc
        by_contra hstate
        rw [hunverified hstate] at hc
        cases hc
      have hadvances : ∀ r, canaryReceipt = some r → ∃ head, l.chain.getLast? = some head ∧
          Advances head record.request.operation r.semanticReadbackDigest r ∧
          record.authorization.receiptChainHeadDigest = head.receiptDigest ∧ readback = some r.semanticReadbackDigest := by
        intro r hc
        obtain ⟨head, hhead, hadvance⟩ := hfinds.2.2.2 r hc
        obtain ⟨r₁, hr₁, hnames⟩ := hpredecessor (hverified r hc)
        obtain ⟨r₂, hr₂, hreadback⟩ := hevidenced (hverified r hc)
        obtain rfl : r = r₁ := Option.some.inj (hc.symm.trans hr₁)
        obtain rfl : r = r₂ := Option.some.inj (hc.symm.trans hr₂)
        have hadvance := advance_ok hadvance
        rw [hadvance.predecessor_eq] at hnames
        exact ⟨head, hhead, hadvance, (Option.some.inj hnames).symm, hreadback⟩
      have hevidence : state = .verified → readback ≠ none ∧ canaryReceipt ≠ none := by
        intro hstate
        obtain ⟨r, hc, hreadback⟩ := hevidenced hstate
        rw [hc, hreadback]
        exact ⟨by simp, by simp⟩
      have hkept := h.kept record (h.record?.1 hr).1
      obtain ⟨receipt, hreceipt⟩ := hkept.receiptOf hfinds.2.2.1 hevidence hunverified
      refine ⟨record, receipt, rfl, hfinds, hreceipt, hadvances, hunverified, ?_⟩
      rw [update_ok hr (fun hstate => ?_) hunverified hreceipt]
      obtain ⟨r, hc, hnames⟩ := hpredecessor hstate
      exact ⟨r, hc, hnames⟩

/-- A timely action keeps the ledger consistent, and what is settled. -/
theorem Consistent.effect (h : Consistent l) (hevidenced : action.Evidenced) (htimely : Timely action l) :
    Consistent (action.effect l) ∧ (action.effect l).policy = l.policy ∧
      ∀ d r, l.record? d = some r → Settled r → (action.effect l).record? d = some r := by
  -- a reservation only adds a record; what a timely update moves is not settled
  cases action with
  | reserve authorization request purpose predecessor preState =>
    rcases reserve_cases l authorization request purpose predecessor preState with
      ⟨new, hnone, rfl, hcanary, hstate, hretry, hreceipt, heq⟩ | heq
    · show Consistent (l.reserve _ _ _ _ _).2 ∧ (l.reserve _ _ _ _ _).2.policy = _ ∧ ∀ d r, _ → _ →
        (l.reserve _ _ _ _ _).2.record? d = _
      rw [heq]
      refine ⟨h.reserved hnone hcanary ?_, rfl, fun d r hr _ => find?_append_some hr⟩
      rw [hstate, hretry]
      exact hreceipt
    · show Consistent (l.reserve _ _ _ _ _).2 ∧ (l.reserve _ _ _ _ _).2.policy = _ ∧ ∀ d r, _ → _ →
        (l.reserve _ _ _ _ _).2.record? d = _
      rw [heq]
      exact ⟨h, rfl, fun d r hr _ => hr⟩
  | update claimDigest state readback canaryReceipt =>
    show Consistent (l.update _ _ _ _).2 ∧ (l.update _ _ _ _).2.policy = _ ∧ ∀ d r, _ → _ → (l.update _ _ _ _).2.record? d = _
    rcases update_timely h hevidenced htimely with heq | ⟨record, receipt, hr, hfinds, hreceipt, hadvances, hunverified, heq⟩
    · rw [heq]
      exact ⟨h, rfl, fun d r hr _ => hr⟩
    · rw [heq]
      refine ⟨h.moved hr hfinds.1 hadvances hreceipt, rfl, fun d r hr' hsettled => ?_⟩
      unfold Ledger.moved
      rw [setRecord_record? (by intro r; rfl)]
      show (if d = claimDigest then (l.record? d).map _ else l.record? d) = some r
      split_ifs with hd
      · -- Only a record that is left to its owner, and to say so again.
        subst hd
        obtain rfl : r = record := Option.some.inj (hr'.symm.trans hr)
        have hpreserved : r.state = .preservedForOwner := hsettled.resolve_left hfinds.1
        obtain ⟨hstate, hreadback⟩ := hfinds.2.1 hpreserved
        have hkept := h.kept r (h.record?.1 hr).1
        have hnone : canaryReceipt = none := hunverified (by rw [hstate]; decide)
        have hsame : r.canaryReceipt = none := by
          cases hc : r.canaryReceipt with
          | none => rfl
          | some x => exact absurd (hkept.verified_iff.2 ⟨x, hc⟩) hfinds.1
        have hagain := hkept.receipt
        rw [hsame, ← hreadback, hpreserved, ← hstate, ← hnone, hreceipt] at hagain
        cases hagain
        rw [hr', Option.map_some, Option.some.injEq]
        show { r with state := state, canaryReceipt := canaryReceipt, receipt := r.receipt } = r
        rw [hnone, hstate, ← hsame, ← hpreserved]
      · exact hr'
  | consumeRetry claimDigest =>
    show Consistent (l.consumeRetry _).2 ∧ (l.consumeRetry _).2.policy = _ ∧ ∀ d r, _ → _ → (l.consumeRetry _).2.record? d = _
    rcases consumeRetry_cases h claimDigest with ⟨record, receipt, hr, hstate, hretry, hreceipt, heq⟩ | heq
    · rw [heq]
      refine ⟨h.consumed hr hstate hreceipt, rfl, fun d r hr' hsettled => ?_⟩
      unfold Ledger.consumed
      rw [setRecord_record? (by intro r; rfl), if_neg]
      · exact hr'
      · rintro rfl
        obtain rfl : r = record := Option.some.inj (hr'.symm.trans hr)
        rcases hsettled with hno | hno
        · rw [hstate] at hno
          cases hno
        · rw [hstate] at hno
          cases hno
    · rw [heq]
      exact ⟨h, rfl, fun d r hr _ => hr⟩
  | _ => exact ⟨h, rfl, fun d r hr _ => hr⟩

/-! ## Runs -/

/-- Coordinators that share a ledger. -/
abbrev CanaryPool (π : Type) (host : Host) := Lib.Pool π (Action host) Answer (Ledger host)
    (Except Raised (CanaryExecutionResult host))

/-- The program of a call on one of the coordinators. -/
def callOn (call : Coordinator host × Request) : Program host (CanaryExecutionResult host) := call.1.program call.2

def CanaryStep {π : Type} [DecidableEq π] (allowed : Action host → Ledger host → Prop) (pool pool' : CanaryPool π host) : Prop :=
  ∃ event, Pool.Step callOn allowed pool event pool'

/-- A pool that can be reached from a new ledger. -/
def Reaches {π : Type} [DecidableEq π] (allowed : Action host → Ledger host → Prop) (policy : BoundedCanaryPolicy)
    (pool : CanaryPool π host) :
    Prop :=
  Relation.ReflTransGen (CanaryStep allowed) ⟨.new policy, fun _ => none, []⟩ pool

def AnyAction : Action host → Ledger host → Prop := fun _ _ => True

instance (action : Action host) (l : Ledger host) : Decidable (AnyAction action l) := inferInstanceAs (Decidable True)

section Runs

variable {π : Type} [DecidableEq π] {policy : BoundedCanaryPolicy} {pool pool' : CanaryPool π host}

theorem Reaches.consistent (run : Reaches Timely policy pool) : Consistent pool.shared ∧ pool.shared.policy = policy := by
  have hshared := (Pool.acting_run (fun call => call.1.program_acts call.2) run).2
  refine run_induction (P := fun l => Consistent l ∧ l.policy = policy) (fun l l' hstep h => ?_) hshared ⟨.new policy, rfl⟩
  obtain ⟨action, htimely, rfl, hevidenced⟩ := hstep
  obtain ⟨hkeeps, hpolicy, -⟩ := h.1.effect hevidenced htimely
  exact ⟨hkeeps, hpolicy.trans h.2⟩

theorem Reaches.settled (run : Reaches Timely policy pool) (hr : pool.shared.record? claimDigest = some record)
    (hsettled : Settled record) (further : Relation.ReflTransGen (CanaryStep Timely) pool pool') :
    pool'.shared.record? claimDigest = some record := by
  induction further with
  | refl => exact hr
  | @tail middle last hsteps hstep ih =>
    have hreached : Reaches Timely policy middle := run.trans hsteps
    obtain ⟨event, hstep⟩ := hstep
    have hacting := (Pool.acting_run (fun call => call.1.program_acts call.2) hreached).1
    obtain ⟨-, hsame | ⟨action, htimely, heffect, hevidenced⟩⟩ :=
      Pool.acting_step (fun call => call.1.program_acts call.2) hacting hstep
    · rw [hsame]
      exact ih
    · rw [heffect]
      exact (hreached.consistent.1.effect hevidenced htimely).2.2 claimDigest record ih hsettled

/-- In every run whose updates find what their callers have seen, the chain is accepted, a record is verified exactly if
one receipt of the chain is its own and follows the head that it names, its receipt is of its state, and what is
verified or left to its owner never changes. -/
theorem ledger_consistent_while_updates_timely (run : Reaches Timely policy pool) :
    (∃ head, validateCanaryReceiptChain policy pool.shared.chain = .ok head) ∧
    ∀ claimDigest record, pool.shared.record? claimDigest = some record →
      (record.state = .verified ↔ ∃ r, record.canaryReceipt = some r ∧ pool.shared.chain.count r = 1 ∧
        r.predecessorReceiptDigest = some record.authorization.receiptChainHeadDigest) ∧
      record.state = record.receipt.state ∧
      (record.state = .verified ∨ record.state = .preservedForOwner →
        ∀ pool', Relation.ReflTransGen (CanaryStep Timely) pool pool' → pool'.shared.record? claimDigest = some record) := by
  obtain ⟨hconsistent, rfl⟩ := run.consistent
  obtain ⟨head, hhead⟩ := hconsistent.head
  refine ⟨⟨head, hconsistent.accepted.validates hhead⟩, fun claimDigest record hr => ?_⟩
  have hkept := hconsistent.kept record (hconsistent.record?.1 hr).1
  refine ⟨?_, (receiptOf_ok hkept.receipt).2.1.symm, fun hsettled pool' further => run.settled hr hsettled further⟩
  rw [hkept.verified_iff]
  constructor
  · rintro ⟨r, hc⟩
    obtain ⟨previous, -, hadvances, hnames, -⟩ := hkept.advanced r hc
    refine ⟨r, hc, List.count_eq_one_of_mem hconsistent.accepted.nodup (hkept.canaryReceipt_mem hc), ?_⟩
    rw [hadvances.predecessor_eq, hnames]
  · rintro ⟨r, hc, -⟩
    exact ⟨r, hc⟩

end Runs

namespace Sample

def snapshot : TrustedRepositoryPolicySnapshot :=
  ⟨.ofNat 64 1, .ofNat 64 2, ⟨true, true, true, true, true, true, true, true, true, true, true, true⟩⟩

def target : CanaryTarget := ⟨"owner/name", .ofNat 40 3, 7, by decide +kernel⟩

/-- A policy with two operations, of one call each. -/
def policy : BoundedCanaryPolicy where
  baseSha := .ofNat 40 4
  candidateSha := .ofNat 40 5
  contractDigest := .sha256 (.ofNat 64 6)
  phase := 4
  leafNumber := 8
  target := target
  targetPolicyIdentity := canaryTargetPolicyIdentity .sample snapshot target
  branch := "canary"
  allowedPaths := ["notes.md"]
  requestedOperations := [.createBranch, .deleteBranch]
  budget := ⟨[(.createBranch, 1), (.deleteBranch, 1)], 2, by decide⟩
  rollback := ⟨"trigger", "switch", "read-back", by decide +kernel⟩
  commits := by decide
  numbers := by decide
  safe := by decide +kernel
  operations := by decide

def context : CanaryAuthorityContext .sample where
  roundletEnabled := true
  readOnlyExternalValidationAllowed := true
  disposableTargetMutationAllowed := true
  phase := 4
  leafNumber := 8
  baseSha := policy.baseSha
  candidateSha := policy.candidateSha
  contractDigest := policy.contractDigest
  target := target
  targetPolicy := snapshot
  targetPolicyIdentity := policy.targetPolicyIdentity
  policyDigest := policy.policyDigest .sample
  branch := "canary"
  priorReceiptDigest := some (genesisCanaryReceipt .sample policy).receiptDigest
  killSwitchActive := false
  bound := rfl

def coordinator : Coordinator .sample := ⟨policy, context⟩

def create : CanaryMutationRequest := ⟨.createBranch, "canary", ["notes.md"], by decide +kernel⟩

/-- The claim of the first request. -/
def claim : Digest :=
  CanaryAuthorization.claimDigest .sample
    ⟨policy.policyDigest .sample, policy.contractDigest, create.requestDigest .sample,
      (genesisCanaryReceipt .sample policy).receiptDigest⟩

/-- An owner host that grants and accepts, and reads this back. -/
def reads (state : CanaryReadbackState) (digest : Nat) : Answer :=
  ⟨some true, some true, some ⟨state, .sha256 (.ofNat 64 digest)⟩, .unusable⟩

/-- A call of one coordinator with nothing between its actions. -/
def call (p : Bool) (request : Request) (answers : List Answer) : List (Pool.Move Bool (Coordinator .sample × Request) Answer) :=
  .start p (coordinator, request) :: answers.map (.act p) ++ [.finish p]

def played (allowed : Action .sample → Ledger .sample → Prop) [∀ l s, Decidable (allowed l s)]
    (moves : List (Pool.Move Bool (Coordinator .sample × Request) Answer)) : Option (CanaryPool Bool .sample) :=
  moves.foldlM (Pool.move callOn allowed) ⟨.new policy, fun _ => none, []⟩

/-- The outcome of the first dispatch is ambiguous. -/
def quarantined : List (Pool.Move Bool (Coordinator .sample × Request) Answer) :=
  call true (.execute create) (List.replicate 9 (reads .ambiguous 20))

/-- Two coordinators reconcile it; both read the head, and then both update. -/
def reconciledTwice : List (Pool.Move Bool (Coordinator .sample × Request) Answer) :=
  quarantined ++ [.start true (coordinator, .reconcile claim), .start false (coordinator, .reconcile claim)] ++
    List.replicate 5 (.act true (reads .applied 21)) ++ List.replicate 5 (.act false (reads .applied 22)) ++
    [.act true (reads .applied 21), .act false (reads .applied 22)]

def reconciledOnce : List (Pool.Move Bool (Coordinator .sample × Request) Answer) :=
  quarantined ++ call false (.reconcile claim) (List.replicate 7 (reads .applied 21))

end Sample

open Sample in
/-- A record that one coordinator quarantines and another reconciles is verified, and its chain is accepted. -/
theorem ledger_consistent_while_updates_timely_reconciled :
    ∃ pool : CanaryPool Bool .sample, Reaches Timely policy pool ∧
      (pool.shared.record? claim).map (·.state) = some .verified ∧
      ∃ head, validateCanaryReceiptChain policy pool.shared.chain = .ok head := by
  have hrun : (played Timely reconciledOnce).map (fun pool => (pool.shared.record? claim).map (·.state)) =
      some (some .verified) := by
    decide +kernel
  obtain ⟨pool, hpool, hstate⟩ := Option.map_eq_some_iff.1 hrun
  have hreaches : Reaches Timely policy pool := Pool.moves_steps hpool
  exact ⟨pool, hreaches, hstate, (ledger_consistent_while_updates_timely hreaches).1⟩

open Sample in
/-- Both of two reconciliations of one record have appended to the chain, which is not accepted then. -/
theorem reconciled_twice_breaks_the_chain :
    ¬ ∀ pool : CanaryPool Bool .sample, Reaches AnyAction policy pool →
      ∃ head, validateCanaryReceiptChain policy pool.shared.chain = .ok head := by
  intro hclaim
  have hrun : (played AnyAction reconciledTwice).map
      (fun pool => (validateCanaryReceiptChain policy pool.shared.chain).toOption.isSome) = some false := by
    decide +kernel
  obtain ⟨pool, hpool, hno⟩ := Option.map_eq_some_iff.1 hrun
  obtain ⟨head, hhead⟩ := hclaim pool (Pool.moves_steps hpool)
  rw [hhead] at hno
  cases hno

end Roundwright.Canary
