/-
What the chain of receipts counts. A receipt that is advanced from another adds one call of one operation, so it follows
it; the calls grow along an accepted chain, so no receipt is in it twice and a receipt that follows its head can be
appended.
-/
import Roundwright.Canary.Policy
import Mathlib.Data.List.Chain
import Mathlib.Algebra.BigOperators.Group.List.Basic

namespace Roundwright.Canary

open Lib GitHub

variable {host : Host} {policy : BoundedCanaryPolicy}

/-! ## One more call -/

variable {counts : List (GitHubMutationOperation × Nat)}

theorem lookup_advanced {operation o : GitHubMutationOperation} :
    (counts.map fun c => if c.1 = operation then (c.1, c.2 + 1) else c).lookup o =
      (counts.lookup o).map fun n => if o = operation then n + 1 else n := by
  induction counts with
  | nil => rfl
  | cons c counts ih =>
    obtain ⟨key, n⟩ := c
    by_cases ho : o = key
    · subst ho
      by_cases hop : o = operation
      · simp [hop]
      · simp [hop]
    · have hne : (o == key) = false := beq_eq_false_iff_ne.2 ho
      by_cases hop : key = operation
      · simp [hop, List.lookup_cons, hop ▸ hne, ih]
      · simp [hop, List.lookup_cons, hne, ih]

theorem mem_lookup {o : GitHubMutationOperation} (h : o ∈ counts.map (·.1)) :
    ∃ n, counts.lookup o = some n := by
  induction counts with
  | nil => cases h
  | cons c counts ih =>
    obtain ⟨key, n⟩ := c
    by_cases ho : o = key
    · exact ⟨n, by rw [List.lookup_cons, beq_iff_eq.2 ho]⟩
    · have hrest : o ∈ counts.map (·.1) := by simpa [ho] using h
      obtain ⟨m, hm⟩ := ih hrest
      exact ⟨m, by rw [List.lookup_cons, beq_eq_false_iff_ne.2 ho, hm]⟩

/-- The receipt adds a call of this operation to another. -/
structure Advances (previous : BoundedCanaryReceipt host) (operation : GitHubMutationOperation) (readback : Digest)
    (receipt : BoundedCanaryReceipt host) : Prop where
  known : operation ∈ previous.policy.requestedOperations
  limit : previous.count operation < previous.policy.budget.limitFor operation
  total : previous.total < previous.policy.budget.totalCalls
  policy_eq : receipt.policy = previous.policy
  result_eq : receipt.result = .pass
  counts_eq : receipt.operationCounts = previous.operationCounts.map fun c => if c.1 = operation then (c.1, c.2 + 1) else c
  readback_eq : receipt.semanticReadbackDigest = readback
  predecessor_eq : receipt.predecessorReceiptDigest = some previous.receiptDigest

variable {previous receipt : BoundedCanaryReceipt host} {operation : GitHubMutationOperation}

theorem advance_ok {readback : Digest} (h : advanceCanaryReceipt previous operation readback = .ok receipt) :
    Advances previous operation readback receipt := by
  unfold advanceCanaryReceipt at h
  split_ifs at h with hpermitted hbudget
  push Not at hpermitted hbudget
  unfold BoundedCanaryReceipt.make at h
  split at h
  · cases h
  · cases h
    exact ⟨hpermitted.2, hbudget.1, hbudget.2, rfl, rfl, rfl, rfl, rfl⟩

theorem BoundedCanaryReceipt.counted (r : BoundedCanaryReceipt host) : Counts r.policy r.operationCounts :=
  ((receiptFault_eq_none host).1 r.valid).1

theorem Advances.count {readback : Digest} (h : Advances previous operation readback receipt)
    {o : GitHubMutationOperation} (ho : o ∈ previous.policy.requestedOperations) :
    receipt.count o = if o = operation then previous.count o + 1 else previous.count o := by
  obtain ⟨n, hn⟩ := mem_lookup (previous.counted.all ho)
  unfold BoundedCanaryReceipt.count
  rw [h.counts_eq, lookup_advanced, hn]
  split_ifs <;> rfl

theorem sum_indicator {α : Type} [DecidableEq α] {l : List α} {a : α} (hl : l.Nodup) (ha : a ∈ l) :
    (l.map fun b => if b = a then (1 : Int) else 0).sum = 1 ∧ (l.map fun b => if b = a then (1 : Int) else 0).count 1 = 1 := by
  have hzero : ∀ {m : List α}, a ∉ m → (m.map fun b => if b = a then (1 : Int) else 0) = m.map fun _ => 0 := by
    intro m hm
    refine List.map_congr_left fun b hb => if_neg ?_
    rintro rfl
    exact hm hb
  induction l with
  | nil => cases ha
  | cons b l ih =>
    obtain ⟨hb, hl⟩ := List.nodup_cons.1 hl
    rw [List.map_cons, List.sum_cons, List.count_cons]
    by_cases hab : b = a
    · subst hab
      rw [hzero hb]
      simp [List.count_replicate]
    · obtain ⟨hsum, hcount⟩ := ih hl (by simpa [Ne.symm hab] using ha)
      rw [if_neg hab, hsum, hcount]
      exact ⟨rfl, rfl⟩

theorem Advances.follows {readback : Digest} (h : Advances previous operation readback receipt) :
    Follows previous.policy previous receipt := by
  have hdiff : (previous.policy.requestedOperations.map fun o => (receipt.count o : Int) - previous.count o) =
      previous.policy.requestedOperations.map fun o => if o = operation then (1 : Int) else 0 := by
    refine List.map_congr_left fun o ho => ?_
    rw [h.count ho]
    split_ifs
    · push_cast
      omega
    · omega
  obtain ⟨hsum, hcount⟩ := sum_indicator previous.policy.operations.2.1 h.known
  refine ⟨h.result_eq, h.predecessor_eq, fun o ho => ?_, ?_, ?_⟩
  · rw [h.count ho]
    split_ifs <;> omega
  · rw [hdiff]
    exact hsum
  · rw [hdiff]
    exact hcount

/-! ## Calls -/

/-- The calls that a receipt counts. -/
def BoundedCanaryReceipt.calls (policy : BoundedCanaryPolicy) (r : BoundedCanaryReceipt host) : Nat :=
  (policy.requestedOperations.map r.count).sum

theorem sum_differences {α : Type} (l : List α) (f g : α → Nat) :
    (l.map fun a => (f a : Int) - g a).sum = ((l.map f).sum : Nat) - ((l.map g).sum : Nat) := by
  induction l with
  | nil => rfl
  | cons a l ih =>
    rw [List.map_cons, List.map_cons, List.map_cons, List.sum_cons, List.sum_cons, List.sum_cons, ih]
    push_cast
    omega

theorem Follows.calls (h : Follows policy previous receipt) : receipt.calls policy = previous.calls policy + 1 := by
  have hsum := h.2.2.2.1
  rw [sum_differences] at hsum
  show (policy.requestedOperations.map receipt.count).sum = (policy.requestedOperations.map previous.count).sum + 1
  omega

/-! ## Accepted chains -/

theorem validateFor_of_policy {r : BoundedCanaryReceipt host} (h : r.policy = policy) : r.validateFor policy = .ok () := by
  unfold BoundedCanaryReceipt.validateFor
  rw [h]
  exact refuse_of_not (not_not.2 rfl)

theorem validateAfter_ok {previous head : BoundedCanaryReceipt host} {rest : List (BoundedCanaryReceipt host)} :
    validateAfter policy previous rest = .ok head ↔ (∀ r ∈ rest, r.validateFor policy = .ok ()) ∧
      (previous :: rest).IsChain (Follows policy) ∧ (previous :: rest).getLast? = some head := by
  induction rest generalizing previous with
  | nil =>
    show Except.ok previous = .ok head ↔ _
    simp
  | cons receipt rest ih =>
    show (receipt.validateFor policy >>= fun _ => refuse _ _ >>= fun _ => validateAfter policy receipt rest) = .ok head ↔ _
    rw [bind_eq_ok, exists_unit, bind_eq_ok, exists_unit, refuse_eq_ok, not_not, ih, List.isChain_cons_cons,
      List.getLast?_cons_cons, List.forall_mem_cons]
    tauto

/-- The chain of a ledger: its receipts are of its policy, the first counts nothing and each follows the one before
it. -/
structure Accepted (policy : BoundedCanaryPolicy) (chain : List (BoundedCanaryReceipt host)) : Prop where
  policies : ∀ r ∈ chain, r.policy = policy
  genesis : chain.head? = some (genesisCanaryReceipt host policy)
  follows : chain.IsChain (Follows policy)

namespace Accepted

variable {chain : List (BoundedCanaryReceipt host)}

theorem new (policy : BoundedCanaryPolicy) : Accepted policy [genesisCanaryReceipt host policy] :=
  ⟨fun r hr => by rw [List.mem_singleton.1 hr]; rfl, rfl, .singleton _⟩

section

variable (h : Accepted policy chain)

include h

theorem eq_cons : ∃ rest, chain = genesisCanaryReceipt host policy :: rest := by
  cases chain with
  | nil => cases h.genesis
  | cons receipt rest =>
    obtain rfl := Option.some.inj h.genesis
    exact ⟨rest, rfl⟩

theorem exists_head : ∃ head, chain.getLast? = some head := by
  obtain ⟨rest, rfl⟩ := h.eq_cons
  exact ⟨_, List.getLast?_cons⟩

theorem validates {head : BoundedCanaryReceipt host} (hhead : chain.getLast? = some head) :
    validateCanaryReceiptChain policy chain = .ok head := by
  obtain ⟨rest, rfl⟩ := h.eq_cons
  have hzero : ∀ c ∈ (genesisCanaryReceipt host policy).operationCounts, c.2 = 0 := by
    intro c hc
    obtain ⟨o, -, rfl⟩ := List.mem_map.1 hc
    rfl
  have hrest : validateAfter policy (genesisCanaryReceipt host policy) rest = .ok head :=
    validateAfter_ok.2 ⟨fun r hr => validateFor_of_policy (h.policies r (List.mem_cons_of_mem _ hr)), h.follows, hhead⟩
  have hgenesis : ¬ ((genesisCanaryReceipt host policy).result ≠ .genesis ∨
    (genesisCanaryReceipt host policy).predecessorReceiptDigest ≠ none ∨
      ∃ c ∈ (genesisCanaryReceipt host policy).operationCounts, c.2 ≠ 0) := by
    rintro (hno | hno | ⟨c, hc, hno⟩)
    · exact hno rfl
    · exact hno rfl
    · exact hno (hzero c hc)
  exact bind_eq_ok.2 ⟨(), validateFor_of_policy rfl, bind_eq_ok.2 ⟨(), refuse_of_not hgenesis, hrest⟩⟩

/-- A receipt that follows the head can be appended. -/
theorem append {head receipt : BoundedCanaryReceipt host} (hhead : chain.getLast? = some head)
    (hpolicy : receipt.policy = policy) (hfollows : Follows policy head receipt) : Accepted policy (chain ++ [receipt]) := by
  refine ⟨fun r hr => ?_, ?_, ?_⟩
  · rcases List.mem_append.1 hr with hr | hr
    · exact h.policies r hr
    · rw [List.mem_singleton.1 hr]
      exact hpolicy
  · rw [List.head?_append, h.genesis]
    rfl
  · rw [List.isChain_append]
    refine ⟨h.follows, .singleton _, fun x hx y hy => ?_⟩
    have hx : chain.getLast? = some x := hx
    have hy : some receipt = some y := hy
    rw [hhead] at hx
    cases hx
    cases hy
    exact hfollows

/-- The calls grow along the chain. -/
theorem calls_pairwise : chain.Pairwise fun a b => a.calls policy < b.calls policy := by
  have hlt : chain.IsChain fun a b => a.calls policy < b.calls policy := h.follows.imp fun a b hab => by
    rw [hab.calls]
    exact Nat.lt_succ_self _
  exact List.isChain_iff_pairwise.1 hlt

theorem nodup : chain.Nodup :=
  h.calls_pairwise.imp fun hlt heq => by
    rw [heq] at hlt
    exact lt_irrefl _ hlt

/-- What follows the head is new. -/
theorem not_mem {head receipt : BoundedCanaryReceipt host} (hhead : chain.getLast? = some head)
    (hpolicy : receipt.policy = policy) (hfollows : Follows policy head receipt) : receipt ∉ chain := by
  have hnodup := (h.append hhead hpolicy hfollows).nodup
  intro hmem
  exact (List.nodup_append.1 hnodup).2.2 receipt hmem receipt (List.mem_singleton_self _) rfl

end

end Accepted

end Roundwright.Canary
