/-
The ledger under concurrent coordinators. A method is atomic, but a transition reads the head, asks the broker and
updates only then, and an update compares neither the head of the chain nor the state of its record. Where every update
finds both as they were, the ledger stays consistent.
-/
import Roundwright.Canary.Orchestrator
import Roundwright.Canary.Chain
import Roundwright.Lib.Table

namespace Roundwright.Canary

open Lib GitHub

variable {host : Host} {l : Ledger host} {record : TransitionRecord host} {claimDigest : Digest}
  {state : CanaryTransitionState} {readback : Option Digest} {canaryReceipt : Option (BoundedCanaryReceipt host)}
    {receipt : CanaryExecutionReceipt}

/-! ## Receipts of records -/

variable {retryUsed : Bool}

theorem executionFault_eq_none {purpose : CanaryTransitionPurpose} {canaryDigest predecessor preState : Option Digest} :
    executionFault purpose state readback canaryDigest predecessor preState retryUsed = none ↔
      (purpose = .execute → predecessor = none ∧ preState = none) ∧ (purpose ≠ .execute → predecessor ≠ none ∧ preState ≠ none) ∧
      (state = .retryAllowed → retryUsed = false) ∧ (state = .verified → readback ≠ none ∧ canaryDigest ≠ none) ∧
      (state ≠ .verified → canaryDigest = none) := by
  unfold executionFault
  constructor
  · intro h
    split_ifs at h with hexecute hevidence hretry hverified hunverified
    push Not at hexecute hevidence hretry hverified hunverified
    refine ⟨hexecute, hevidence, fun hstate => ?_, hverified, hunverified⟩
    by_contra hno
    exact hretry (by simpa using hno) hstate
  · rintro ⟨hexecute, hevidence, hretry, hverified, hunverified⟩
    rw [if_neg (by push Not; exact hexecute), if_neg (by push Not; exact hevidence), if_neg,
      if_neg (by push Not; exact hverified), if_neg (by push Not; exact hunverified)]
    rintro ⟨hused, hstate⟩
    rw [hretry hstate] at hused
    cases hused

theorem receiptOf_ok (h : record.receiptOf state readback canaryReceipt retryUsed = .ok receipt) :
    executionFault record.purpose state readback (canaryReceipt.map (·.receiptDigest)) record.predecessorTransitionReceiptDigest
      record.preStateReadbackDigest retryUsed = none ∧ receipt.state = state ∧ receipt.semanticReadbackDigest = readback ∧
      receipt.canaryReceiptDigest = canaryReceipt.map (·.receiptDigest) := by
  unfold TransitionRecord.receiptOf at h
  split at h
  · cases h
  · rename_i hfault
    cases h
    exact ⟨hfault, rfl, rfl, rfl⟩

theorem receiptOf_of_valid (h : executionFault record.purpose state readback (canaryReceipt.map (·.receiptDigest))
    record.predecessorTransitionReceiptDigest record.preStateReadbackDigest retryUsed = none) :
    ∃ receipt, record.receiptOf state readback canaryReceipt retryUsed = .ok receipt := by
  unfold TransitionRecord.receiptOf
  split
  · rename_i message hfault
    rw [h] at hfault
    cases hfault
  · exact ⟨_, rfl⟩

/-- A record as the ledger keeps it: its receipt is of its state, and a receipt of the chain that it has is one call of
its operation after the receipt that it names as its head. -/
structure Kept (chain : List (BoundedCanaryReceipt host)) (record : TransitionRecord host) : Prop where
  receipt : record.receiptOf record.state record.receipt.semanticReadbackDigest record.canaryReceipt record.retryUsed =
    .ok record.receipt
  advanced : ∀ r, record.canaryReceipt = some r → ∃ previous, [previous, r] <:+: chain ∧
    Advances previous record.request.operation r.semanticReadbackDigest r ∧
    record.authorization.receiptChainHeadDigest = previous.receiptDigest ∧
    record.receipt.semanticReadbackDigest = some r.semanticReadbackDigest

namespace Kept

variable {chain : List (BoundedCanaryReceipt host)}

theorem verified_iff (h : Kept chain record) : record.state = .verified ↔ ∃ r, record.canaryReceipt = some r := by
  obtain ⟨hfault, -⟩ := receiptOf_ok h.receipt
  obtain ⟨-, -, -, hverified, hunverified⟩ := executionFault_eq_none.1 hfault
  constructor
  · intro hstate
    cases hreceipt : record.canaryReceipt with
    | none => exact absurd (by rw [hreceipt]; rfl) (hverified hstate).2
    | some r => exact ⟨r, rfl⟩
  · rintro ⟨r, hr⟩
    by_contra hstate
    have hnone := hunverified hstate
    rw [hr] at hnone
    cases hnone

theorem canaryReceipt_mem (h : Kept chain record) {r : BoundedCanaryReceipt host} (hr : record.canaryReceipt = some r) :
    r ∈ chain := by
  obtain ⟨previous, hadjacent, -⟩ := h.advanced r hr
  exact hadjacent.subset (by simp)

/-- A chain that grows keeps the record. -/
theorem append (h : Kept chain record) (more : List (BoundedCanaryReceipt host)) : Kept (chain ++ more) record := by
  refine ⟨h.receipt, fun r hr => ?_⟩
  obtain ⟨previous, hadjacent, hrest⟩ := h.advanced r hr
  exact ⟨previous, hadjacent.trans (List.prefix_append chain more).isInfix, hrest⟩

/-- The receipt of another state can be made. -/
theorem receiptOf (h : Kept chain record) (hretry : state = .retryAllowed → retryUsed = false)
    (hverified : state = .verified → readback ≠ none ∧ canaryReceipt ≠ none)
    (hunverified : state ≠ .verified → canaryReceipt = none) :
    ∃ receipt, record.receiptOf state readback canaryReceipt retryUsed = .ok receipt := by
  obtain ⟨hfault, -⟩ := receiptOf_ok h.receipt
  obtain ⟨hexecute, hevidence, -⟩ := executionFault_eq_none.1 hfault
  refine receiptOf_of_valid (executionFault_eq_none.2 ⟨hexecute, hevidence, hretry, fun hstate => ?_, fun hstate => ?_⟩)
  · exact ⟨(hverified hstate).1, by simpa using (hverified hstate).2⟩
  · rw [hunverified hstate]
    rfl

end Kept

/-! ## Consistent ledgers -/

/-- The chain is accepted, and its receipts after the first are those of the verified records, one each. -/
structure Consistent (l : Ledger host) : Prop where
  accepted : Accepted l.policy l.chain
  keys : (l.records.map (·.claimDigest)).Nodup
  kept : ∀ record ∈ l.records, Kept l.chain record
  owned : ∀ r ∈ l.chain.tail, ∃ record ∈ l.records, record.canaryReceipt = some r
  apart : ∀ a ∈ l.records, ∀ b ∈ l.records, ∀ r, a.canaryReceipt = some r → b.canaryReceipt = some r → a = b

theorem Consistent.new (policy : BoundedCanaryPolicy) : Consistent (Ledger.new policy : Ledger host) :=
  ⟨.new policy, List.nodup_nil, fun _ hr => (nomatch hr), fun _ hr => (nomatch hr), fun _ ha => (nomatch ha)⟩

theorem Consistent.record? (h : Consistent l) : l.record? claimDigest = some record ↔ record ∈ l.records ∧
    record.claimDigest = claimDigest :=
  find?_of_nodup h.keys

theorem Consistent.head (h : Consistent l) : ∃ head, l.chain.getLast? = some head := h.accepted.exists_head

/-! ## What a method does -/

/-- A record after an update. -/
def TransitionRecord.moved (record : TransitionRecord host) (state : CanaryTransitionState)
    (canaryReceipt : Option (BoundedCanaryReceipt host)) (receipt : CanaryExecutionReceipt) : TransitionRecord host :=
  { record with state := state, canaryReceipt := canaryReceipt, receipt := receipt }

/-- The ledger after an update. -/
def Ledger.moved (l : Ledger host) (claimDigest : Digest) (state : CanaryTransitionState)
    (canaryReceipt : Option (BoundedCanaryReceipt host)) (receipt : CanaryExecutionReceipt) : Ledger host :=
  { l with chain := l.chain ++ canaryReceipt.toList }.setRecord claimDigest fun r => r.moved state canaryReceipt receipt

/-- The ledger after the retry of a record was consumed. -/
def Ledger.consumed (l : Ledger host) (claimDigest : Digest) (receipt : CanaryExecutionReceipt) : Ledger host :=
  l.setRecord claimDigest fun r => { r with retryUsed := true, state := .claimed, receipt := receipt }

/-- The records of a changed ledger, by what they were. -/
theorem mem_setRecord {f : TransitionRecord host → TransitionRecord host} {r : TransitionRecord host} :
    r ∈ (l.setRecord claimDigest f).records ↔
      ∃ record ∈ l.records, r = if record.claimDigest = claimDigest then f record else record := by
  unfold Ledger.setRecord
  rw [List.mem_map]
  exact ⟨fun ⟨record, hmem, heq⟩ => ⟨record, hmem, heq.symm⟩, fun ⟨record, hmem, heq⟩ => ⟨record, hmem, heq.symm⟩⟩

theorem setRecord_record? {f : TransitionRecord host → TransitionRecord host}
    (hf : ∀ r, (f r).claimDigest = r.claimDigest) (d : Digest) :
    (l.setRecord claimDigest f).record? d = if d = claimDigest then (l.record? d).map f else l.record? d := by
  have hkey : ∀ r : TransitionRecord host, (if r.claimDigest = claimDigest then f r else r).claimDigest = r.claimDigest := by
    intro r
    split_ifs
    · exact hf r
    · rfl
  unfold Ledger.setRecord Ledger.record?
  rw [find?_map_key hkey]
  cases hfound : l.records.find? fun r => r.claimDigest = d with
  | none => split_ifs <;> rfl
  | some r =>
    have hd : r.claimDigest = d := by simpa using List.find?_some hfound
    rw [Option.map_some, Option.map_some, hd]
    split_ifs <;> rfl

theorem update_ok (hr : l.record? claimDigest = some record)
    (hverified : state = .verified → ∃ r, canaryReceipt = some r ∧
    r.predecessorReceiptDigest = some record.authorization.receiptChainHeadDigest)
    (hunverified : state ≠ .verified → canaryReceipt = none)
    (hreceipt : record.receiptOf state readback canaryReceipt record.retryUsed = .ok receipt) :
    l.update claimDigest state readback canaryReceipt = (.ok (), l.moved claimDigest state canaryReceipt receipt) := by
  unfold Ledger.update
  rw [hr]
  by_cases hstate : state = .verified
  · obtain ⟨r, rfl, hpredecessor⟩ := hverified hstate
    simp only [hstate, if_true]
    rw [if_neg (not_not.2 hpredecessor)]
    subst hstate
    unfold Ledger.finishUpdate
    rw [hreceipt]
    rfl
  · obtain rfl := hunverified hstate
    simp only [hstate, if_false, ne_eq, not_true_eq_false]
    unfold Ledger.finishUpdate
    rw [hreceipt]
    simp [Ledger.moved, TransitionRecord.moved]

theorem update_refused (h : l.record? claimDigest = none ∨
    ∃ record, l.record? claimDigest = some record ∧
      ((state = .verified ∧ ∀ r, canaryReceipt = some r → r.predecessorReceiptDigest ≠ some record.authorization.receiptChainHeadDigest) ∨
        (state ≠ .verified ∧ canaryReceipt ≠ none))) :
    ∃ e, l.update claimDigest state readback canaryReceipt = (.error e, l) := by
  unfold Ledger.update
  rcases h with hnone | ⟨record, hr, ⟨hstate, hstale⟩ | ⟨hstate, hsome⟩⟩
  · rw [hnone]
    exact ⟨_, rfl⟩
  · rw [hr]
    simp only [hstate, if_true]
    cases hcanary : canaryReceipt with
    | none => exact ⟨_, rfl⟩
    | some r =>
      simp only []
      rw [if_pos (hstale r hcanary)]
      exact ⟨_, rfl⟩
  · rw [hr]
    simp only [hstate, if_false, hsome, ne_eq, not_false_eq_true, if_true]
    exact ⟨_, rfl⟩

theorem reserve_ok {authorization : CanaryAuthorization} (request : CanaryMutationRequest)
    {purpose : CanaryTransitionPurpose} {predecessor preState : Option Digest}
    (hr : l.record? (authorization.claimDigest host) = none)
    (hvalid : executionFault purpose .claimed none none predecessor preState false = none) :
    ∃ record : TransitionRecord host, record.authorization = authorization ∧ record.request = request ∧ record.purpose = purpose ∧
      record.state = .claimed ∧ record.canaryReceipt = none ∧ record.retryUsed = false ∧
      record.predecessorTransitionReceiptDigest = predecessor ∧ record.preStateReadbackDigest = preState ∧
      record.receiptOf .claimed none none false = .ok record.receipt ∧
      l.reserve authorization request purpose predecessor preState = (.ok true, { l with records := l.records ++ [record] }) := by
  let receipt : CanaryExecutionReceipt :=
    ⟨authorization.policyDigest, authorization.contractDigest, authorization.claimDigest host,
      authorization.requestDigest, authorization.receiptChainHeadDigest, purpose, .claimed, none, none, predecessor,
        preState, false, hvalid⟩
  refine ⟨⟨authorization, request, purpose, .claimed, receipt, none, false, predecessor, preState⟩, rfl, rfl, rfl, rfl,
    rfl, rfl, rfl, rfl, ?_, ?_⟩
  · unfold TransitionRecord.receiptOf
    split
    · rename_i message hfault
      rw [show executionFault purpose .claimed none none predecessor preState false = some message from hfault] at hvalid
      cases hvalid
    · rfl
  · unfold Ledger.reserve
    rw [hr]
    simp only []
    split
    · rename_i message hfault
      rw [hvalid] at hfault
      cases hfault
    · rfl

theorem reserve_cases (l : Ledger host) (authorization : CanaryAuthorization) (request : CanaryMutationRequest)
    (purpose : CanaryTransitionPurpose) (predecessor preState : Option Digest) :
    (∃ record : TransitionRecord host, l.record? (authorization.claimDigest host) = none ∧ record.authorization = authorization ∧
      record.canaryReceipt = none ∧ record.state = .claimed ∧ record.retryUsed = false ∧
      record.receiptOf .claimed none none false = .ok record.receipt ∧
      (l.reserve authorization request purpose predecessor preState).2 = { l with records := l.records ++ [record] }) ∨
    (l.reserve authorization request purpose predecessor preState).2 = l := by
  cases hr : l.record? (authorization.claimDigest host) with
  | some existing =>
    right
    unfold Ledger.reserve
    rw [hr]
    simp only []
    split_ifs <;> rfl
  | none =>
    cases hvalid : executionFault purpose .claimed none none predecessor preState false with
    | some message =>
      right
      unfold Ledger.reserve
      rw [hr]
      simp only []
      split
      · rfl
      · rename_i hfault
        rw [hvalid] at hfault
        cases hfault
    | none =>
      obtain ⟨record, hauthorization, -, -, hstate, hcanary, hretry, -, -, hreceipt, heq⟩ := reserve_ok request hr hvalid
      exact .inl ⟨record, rfl, hauthorization, hcanary, hstate, hretry, hreceipt, by rw [heq]⟩

theorem consumeRetry_ok (hr : l.record? claimDigest = some record) (hstate : record.state = .retryAllowed)
    (hretry : record.retryUsed = false) (hreceipt : record.receiptOf .claimed none none true = .ok receipt) :
    l.consumeRetry claimDigest = (.ok true, l.consumed claimDigest receipt) := by
  unfold Ledger.consumeRetry
  rw [hr]
  simp only [hstate, hretry, ne_eq, not_true_eq_false, Bool.false_eq_true, or_self, if_false, hreceipt]
  rfl

theorem consumeRetry_cases (h : Consistent l) (claimDigest : Digest) :
    (∃ record receipt, l.record? claimDigest = some record ∧ record.state = .retryAllowed ∧ record.retryUsed = false ∧
      record.receiptOf .claimed none none true = .ok receipt ∧ (l.consumeRetry claimDigest).2 = l.consumed claimDigest receipt) ∨
    (l.consumeRetry claimDigest).2 = l := by
  cases hr : l.record? claimDigest with
  | none =>
    right
    unfold Ledger.consumeRetry
    rw [hr]
  | some record =>
    by_cases hno : record.state ≠ .retryAllowed ∨ record.retryUsed = true
    · right
      unfold Ledger.consumeRetry
      rw [hr]
      simp only []
      rw [if_pos hno]
    · push Not at hno
      obtain ⟨hstate, hretry⟩ := hno
      have hretry : record.retryUsed = false := by simpa using hretry
      have hkept := h.kept record (h.record?.1 hr).1
      obtain ⟨receipt, hreceipt⟩ : ∃ receipt, record.receiptOf .claimed none none true = .ok receipt :=
        hkept.receiptOf (fun hno => nomatch hno) (fun hno => nomatch hno) fun _ => rfl
      exact .inl ⟨record, receipt, rfl, hstate, hretry, hreceipt, by rw [consumeRetry_ok hr hstate hretry hreceipt]⟩

/-! ## Methods keep a ledger consistent -/

theorem Consistent.reserved (h : Consistent l) (hnew : l.record? record.claimDigest = none)
    (hcanary : record.canaryReceipt = none)
    (hreceipt : record.receiptOf record.state none none record.retryUsed = .ok record.receipt) :
    Consistent { l with records := l.records ++ [record] } := by
  obtain ⟨-, -, hreadback, -⟩ := receiptOf_ok hreceipt
  have hkept : Kept l.chain record := by
    refine ⟨?_, fun r hr => ?_⟩
    · rw [hreadback, hcanary]
      exact hreceipt
    · rw [hcanary] at hr
      cases hr
  have happ : ∀ a ∈ l.records ++ [record], ∀ r, a.canaryReceipt = some r → a ∈ l.records := by
    intro a ha r hr
    rcases List.mem_append.1 ha with ha | ha
    · exact ha
    · rw [List.mem_singleton.1 ha, hcanary] at hr
      cases hr
  -- the new record has no receipt, so the chain owes it nothing
  refine ⟨h.accepted, ?_, fun a ha => ?_, fun r hr => ?_, fun a ha b hb r har hbr => ?_⟩
  · show ((l.records ++ [record]).map (·.claimDigest)).Nodup
    rw [List.map_append, List.nodup_append]
    refine ⟨h.keys, List.nodup_singleton _, fun d hd e he hde => ?_⟩
    obtain ⟨a, ha, rfl⟩ := List.mem_map.1 hd
    have he : e = record.claimDigest := by simpa using he
    exact find?_key_none.1 hnew a ha (hde.trans he)
  · rcases List.mem_append.1 ha with ha | ha
    · exact h.kept a ha
    · rw [List.mem_singleton.1 ha]
      exact hkept
  · obtain ⟨a, ha, har⟩ := h.owned r hr
    exact ⟨a, List.mem_append_left _ ha, har⟩
  · exact h.apart a (happ a ha r har) b (happ b hb r hbr) r har hbr

theorem Consistent.consumed (h : Consistent l) (hr : l.record? claimDigest = some record)
    (hstate : record.state = .retryAllowed) (hreceipt : record.receiptOf .claimed none none true = .ok receipt) :
    Consistent (l.consumed claimDigest receipt) := by
  obtain ⟨hmem, hclaim⟩ := h.record?.1 hr
  obtain ⟨-, -, hreadback, -⟩ := receiptOf_ok hreceipt
  have hcanary : record.canaryReceipt = none := by
    cases hcanary : record.canaryReceipt with
    | none => rfl
    | some r =>
      have hverified := (h.kept record hmem).verified_iff.2 ⟨r, hcanary⟩
      rw [hstate] at hverified
      cases hverified
  -- The receipts that the records have of the chain are as they were.
  have hback : ∀ r ∈ (l.consumed claimDigest receipt).records, ∀ c, r.canaryReceipt = some c → r ∈ l.records := by
    intro r hmem' c hc
    obtain ⟨old, hold, rfl⟩ := mem_setRecord.1 hmem'
    split_ifs at hc ⊢ with hd
    · obtain rfl : old = record := List.inj_on_of_nodup_map h.keys hold hmem (hd.trans hclaim.symm)
      have hc : old.canaryReceipt = some c := hc
      rw [hcanary] at hc
      cases hc
    · exact hold
  refine ⟨h.accepted, ?_, fun r hmem' => ?_, fun c hc => ?_, fun a ha b hb c hac hbc => ?_⟩
  · have hsame : (l.consumed claimDigest receipt).records.map (·.claimDigest) = l.records.map (·.claimDigest) := by
      unfold Ledger.consumed Ledger.setRecord
      rw [List.map_map]
      refine List.map_congr_left fun r _ => ?_
      show TransitionRecord.claimDigest (if r.claimDigest = claimDigest then _ else r) = r.claimDigest
      split_ifs <;> rfl
    rw [hsame]
    exact h.keys
  · obtain ⟨old, hold, rfl⟩ := mem_setRecord.1 hmem'
    split_ifs with hd
    · obtain rfl : old = record := List.inj_on_of_nodup_map h.keys hold hmem (hd.trans hclaim.symm)
      refine ⟨?_, fun c hc => ?_⟩
      · show old.receiptOf .claimed receipt.semanticReadbackDigest old.canaryReceipt true = .ok receipt
        rw [hreadback, hcanary]
        exact hreceipt
      · have hc : old.canaryReceipt = some c := hc
        rw [hcanary] at hc
        cases hc
    · exact h.kept old hold
  · obtain ⟨owner, howner, hc⟩ := h.owned c hc
    refine ⟨owner, mem_setRecord.2 ⟨owner, howner, ?_⟩, hc⟩
    rw [if_neg]
    intro hd
    obtain rfl : owner = record := List.inj_on_of_nodup_map h.keys howner hmem (hd.trans hclaim.symm)
    rw [hcanary] at hc
    cases hc
  · exact h.apart a (hback a ha c hac) b (hback b hb c hbc) c hac hbc

/-- A record that is neither verified nor left to its owner changes, and to verified it does so with the receipt that
advances the head. -/
theorem Consistent.moved (h : Consistent l) (hr : l.record? claimDigest = some record) (hnot : record.state ≠ .verified)
    (hadvances : ∀ r, canaryReceipt = some r → ∃ head, l.chain.getLast? = some head ∧
      Advances head record.request.operation r.semanticReadbackDigest r ∧
      record.authorization.receiptChainHeadDigest = head.receiptDigest ∧ readback = some r.semanticReadbackDigest)
    (hreceipt : record.receiptOf state readback canaryReceipt record.retryUsed = .ok receipt) :
    Consistent (l.moved claimDigest state canaryReceipt receipt) := by
  obtain ⟨hmem, hclaim⟩ := h.record?.1 hr
  obtain ⟨-, -, hreadback, -⟩ := receiptOf_ok hreceipt
  have hnone : record.canaryReceipt = none := by
    cases hcanary : record.canaryReceipt with
    | none => rfl
    | some r => exact absurd ((h.kept record hmem).verified_iff.2 ⟨r, hcanary⟩) hnot
  have hself : ∀ r ∈ l.records, r.claimDigest = claimDigest → r = record := fun r hr' hd =>
    List.inj_on_of_nodup_map h.keys hr' hmem (hd.trans hclaim.symm)
  have hpolicy : ∀ r, canaryReceipt = some r → r.policy = l.policy := by
    intro r hc
    obtain ⟨head, hhead, hadvance, -⟩ := hadvances r hc
    rw [hadvance.policy_eq]
    exact h.accepted.policies head (List.mem_of_getLast? hhead)
  have hfollows : ∀ r, canaryReceipt = some r → ∀ head, l.chain.getLast? = some head → Follows l.policy head r := by
    intro r hc head hhead
    obtain ⟨head', hhead', hadvance, -⟩ := hadvances r hc
    obtain rfl := Option.some.inj (hhead.symm.trans hhead')
    rw [← h.accepted.policies head (List.mem_of_getLast? hhead)]
    exact hadvance.follows
  refine ⟨?_, ?_, fun a ha => ?_, fun r hmem' => ?_, fun a ha b hb r har hbr => ?_⟩
  · show Accepted l.policy (l.chain ++ canaryReceipt.toList)
    cases hc : canaryReceipt with
    | none =>
      rw [Option.toList_none, List.append_nil]
      exact h.accepted
    | some r =>
      obtain ⟨head, hhead⟩ := h.head
      exact h.accepted.append hhead (hpolicy r hc) (hfollows r hc head hhead)
  · have hsame : (l.moved claimDigest state canaryReceipt receipt).records.map (·.claimDigest) = l.records.map (·.claimDigest) := by
      unfold Ledger.moved Ledger.setRecord
      rw [List.map_map]
      refine List.map_congr_left fun r _ => ?_
      show TransitionRecord.claimDigest (if r.claimDigest = claimDigest then _ else r) = r.claimDigest
      split_ifs <;> rfl
    rw [hsame]
    exact h.keys
  · obtain ⟨old, hold, rfl⟩ := mem_setRecord.1 ha
    split_ifs with hd
    · obtain rfl := hself old hold hd
      refine ⟨?_, fun r hc => ?_⟩
      · show old.receiptOf state receipt.semanticReadbackDigest canaryReceipt old.retryUsed = .ok receipt
        rw [hreadback]
        exact hreceipt
      · have hc : canaryReceipt = some r := hc
        obtain ⟨head, hhead, hadvance, hnames, hdigest⟩ := hadvances r hc
        refine ⟨head, ?_, hadvance, hnames, ?_⟩
        · show [head, r] <:+: l.chain ++ canaryReceipt.toList
          obtain ⟨before, hbefore⟩ := List.getLast?_eq_some_iff.1 hhead
          rw [hc, hbefore]
          exact ⟨before, [], by simp⟩
        · show receipt.semanticReadbackDigest = _
          rw [hreadback, hdigest]
    · exact (h.kept old hold).append _
  · have hmem' : r ∈ (l.chain ++ canaryReceipt.toList).tail := hmem'
    obtain ⟨rest, hrest⟩ := h.accepted.eq_cons
    rw [hrest, List.cons_append, List.tail_cons] at hmem'
    have htail : l.chain.tail = rest := by rw [hrest, List.tail_cons]
    rcases List.mem_append.1 hmem' with hold | hnew
    · obtain ⟨owner, howner, hc⟩ := h.owned r (by rw [htail]; exact hold)
      refine ⟨owner, mem_setRecord.2 ⟨owner, howner, ?_⟩, hc⟩
      rw [if_neg]
      intro hd
      rw [hself owner howner hd, hnone] at hc
      cases hc
    · have hc : canaryReceipt = some r := by simpa using hnew
      exact ⟨record.moved state canaryReceipt receipt, mem_setRecord.2 ⟨record, hmem, by rw [if_pos hclaim]⟩, hc⟩
  · obtain ⟨oldA, holdA, rfl⟩ := mem_setRecord.1 ha
    obtain ⟨oldB, holdB, rfl⟩ := mem_setRecord.1 hb
    -- A receipt that is appended is new, so only the record that is moved has it.
    have hnew : ∀ old ∈ l.records, old.canaryReceipt = some r → canaryReceipt ≠ some r := by
      intro old hold hc hr
      obtain ⟨head, hhead⟩ := h.head
      exact h.accepted.not_mem hhead (hpolicy r hr) (hfollows r hr head hhead) ((h.kept old hold).canaryReceipt_mem hc)
    split_ifs at har hbr ⊢ with hda hdb hdb
    · rw [hself oldA holdA hda, hself oldB holdB hdb]
    · exact absurd har (hnew oldB holdB hbr)
    · exact absurd hbr (hnew oldA holdA har)
    · exact h.apart oldA holdA oldB holdB r har hbr

end Roundwright.Canary
