/-
Chains of receipts count exactly. What is compared of receipts are their digests, and a digest is that of the canonical
text: of a policy and of a receipt it fixes everything but the order in which counts are listed. So an accepted chain
is, but for that order, one that starts at the genesis receipt and is advanced step by step.
-/
import Roundwright.Canary.Concurrency
import Roundwright.Recovery.Codec
import Mathlib.Data.Set.Function

namespace Roundwright.Canary

open Lib Lib.JsonText GitHub

variable {F : Type} (floats : Floats F) {host : Host} {policy : BoundedCanaryPolicy}

/-- `_digest` hashes the canonical text of a value. -/
def HashesText (host : Host) : Prop := ∀ j : Json, host.digestJson j = host.hexdigest (dumps floats (j.value : Value F))

def BoundedCanaryPolicy.text (p : BoundedCanaryPolicy) : String := dumps floats (p.publicPayload.value : Value F)

def BoundedCanaryReceipt.text (r : BoundedCanaryReceipt host) : String :=
    dumps floats ((Json.obj r.payloadFields).value : Value F)

variable {counts : List (GitHubMutationOperation × Nat)}

/-! ## Texts of counts -/

section Texts

theorem operation_value_injective : Function.Injective GitHubMutationOperation.value := by
  intro a b h
  cases a <;> cases b <;> first | rfl | (exact absurd h (by decide))

theorem fieldValues_counts (counts : List (GitHubMutationOperation × Nat)) :
    (Json.fieldValues (counts.map fun c => (c.1.value, .num c.2)) : List (String × Value F)) = counts.map fun c =>
    (c.1.value, .int c.2) := by
  induction counts with
  | nil => rfl
  | cons c counts ih => rw [List.map_cons, Json.fieldValues, ih, List.map_cons, Json.value]

theorem countsPayload_value (counts : List (GitHubMutationOperation × Nat)) :
    ((countsPayload counts).value : Value F) = .dict (counts.map fun c => (c.1.value, .int c.2)) := by
  rw [countsPayload, Json.value, fieldValues_counts]

/-- A dict of counts is looked up by operation. -/
theorem get?_countsPayload (counts : List (GitHubMutationOperation × Nat)) (o : GitHubMutationOperation) :
    ((countsPayload counts).value : Value F).get? o.value = (counts.lookup o).map fun n => .int n := by
  rw [countsPayload_value, Value.get?_dict]
  induction counts with
  | nil => rfl
  | cons c counts ih =>
    obtain ⟨key, n⟩ := c
    by_cases hkey : o = key
    · subst hkey
      simp
    · have hvalue : ¬ key.value = o.value := fun h => hkey (operation_value_injective h).symm
      rw [List.map_cons, List.find?_cons_of_neg (by simpa using hvalue), ih, List.lookup_cons, beq_eq_false_iff_ne.2 hkey]

theorem keys_nodup (hnodup : (counts.map (·.1)).Nodup) :
    (counts.map fun c => c.1.value).Nodup := by
  have hmap : (counts.map fun c => c.1.value) = (counts.map (·.1)).map GitHubMutationOperation.value := by
    rw [List.map_map]
    rfl
  rw [hmap]
  exact hnodup.map operation_value_injective

/-- The same counts, in whatever order, are one dict. -/
theorem countsPayload_congr {counts counts' : List (GitHubMutationOperation × Nat)} (hperm : counts.Perm counts')
    (hnodup : (counts.map (·.1)).Nodup) : ((countsPayload counts).value : Value F) = (countsPayload counts').value := by
  rw [countsPayload_value, countsPayload_value, Value.dict, Value.dict]
  refine congrArg _ (sortBy_congr (hperm.map _) ?_)
  rw [List.map_map]
  exact keys_nodup hnodup

theorem countsPayload_distinct (hnodup : (counts.map (·.1)).Nodup) :
    (countsPayload counts).Distinct := by
  refine ⟨?_, ?_⟩
  · rw [List.map_map]
    exact keys_nodup hnodup
  · induction counts with
    | nil => trivial
    | cons c counts ih => exact ⟨trivial, ih (List.nodup_cons.1 hnodup).2⟩

theorem distinctItems_of_map {α : Type} (l : List α) (f : α → Json) (h : ∀ a, (f a).Distinct) : Json.DistinctItems (l.map f) :=
  Json.distinctItems_iff.2 (List.forall_mem_map.2 fun a _ => h a)

theorem publicPayload_distinct (p : BoundedCanaryPolicy) : p.publicPayload.Distinct := by
  have hbudget := countsPayload_distinct p.budget.valid.2.1
  have hpaths := distinctItems_of_map p.allowedPaths .str fun _ => trivial
  have hoperations := distinctItems_of_map p.requestedOperations (fun o => .str o.value) fun _ => trivial
  simp only [BoundedCanaryPolicy.publicPayload, Json.Distinct, Json.DistinctFields, and_true, true_and]
  exact ⟨by simp, by simp, hpaths, hoperations, ⟨by simp, hbudget⟩, by simp⟩

theorem payload_distinct (r : BoundedCanaryReceipt host) : (Json.obj r.payloadFields).Distinct := by
  have hcounts := countsPayload_distinct r.counted.nodup
  have hoperations := distinctItems_of_map r.policy.requestedOperations (fun o => .str o.value) fun _ => trivial
  have hpredecessor : (Json.ofDigest r.predecessorReceiptDigest).Distinct := by
    cases r.predecessorReceiptDigest <;> trivial
  simp only [BoundedCanaryReceipt.payloadFields, Json.Distinct, Json.DistinctFields, and_true, true_and]
  exact ⟨by simp, hoperations, hcounts, hpredecessor⟩

end Texts

/-! ## What a digest fixes -/

/-- What policies with one text have in common: all of it, but for the order of the budget. -/
structure SamePolicy (p p' : BoundedCanaryPolicy) : Prop where
  contractDigest : p.contractDigest = p'.contractDigest
  baseSha : p.baseSha = p'.baseSha
  candidateSha : p.candidateSha = p'.candidateSha
  leafNumber : p.leafNumber = p'.leafNumber
  target : p.target = p'.target
  requestedOperations : p.requestedOperations = p'.requestedOperations
  totalCalls : p.budget.totalCalls = p'.budget.totalCalls
  limits : ∀ o, p.budget.limitFor o = p'.budget.limitFor o

section Fixed

variable {floats} {p p' : BoundedCanaryPolicy}

theorem values_operations (l : List GitHubMutationOperation) :
    (Json.values (l.map fun o => .str o.value) : List (Value F)) = l.map fun o => .str o.value := by
  induction l with
  | nil => rfl
  | cons o l ih => rw [List.map_cons, Json.values, ih, List.map_cons, Json.value]

theorem samePolicy_of_text (h : p.text floats = p'.text floats) : SamePolicy p p' := by
  have hvalue : (p.publicPayload.value : Value F) = p'.publicPayload.value :=
    dumps_injective floats (Json.value_canonical _ (publicPayload_distinct p))
      (Json.value_canonical _ (publicPayload_distinct p')) h
  have hget : ∀ key, (p.publicPayload.value : Value F).get? key = p'.publicPayload.value.get? key := fun key => by rw [hvalue]
  have hinner : ∀ key key', ((p.publicPayload.value : Value F).get? key).bind (·.get? key') =
      (p'.publicPayload.value.get? key).bind (·.get? key') := fun key key' => by rw [hvalue]
  have hoperations : (Json.values (p.requestedOperations.map fun o => .str o.value) : List (Value F)) =
      Json.values (p'.requestedOperations.map fun o => .str o.value) := by
    simpa [BoundedCanaryPolicy.publicPayload, Json.value, Json.fieldValues] using hget "requested_operations"
  have hperOperation : ((countsPayload p.budget.perOperation).value : Value F) =
    (countsPayload p'.budget.perOperation).value := by
    simpa [BoundedCanaryPolicy.publicPayload, Json.value, Json.fieldValues] using hinner "budget" "per_operation"
  have hrepository : p.target.repository = p'.target.repository := by
    simpa [BoundedCanaryPolicy.publicPayload, Json.value, Json.fieldValues] using hinner "target" "repository"
  have hbaseline : p.target.baselineSha = p'.target.baselineSha := by
    simpa [BoundedCanaryPolicy.publicPayload, Json.value, Json.fieldValues, Hex.text_injective.eq_iff] using
      hinner "target" "baseline_sha"
  have hleaf : p.target.leafNumber = p'.target.leafNumber := by
    simpa [BoundedCanaryPolicy.publicPayload, Json.value, Json.fieldValues] using hinner "target" "leaf_number"
  constructor
  · simpa [BoundedCanaryPolicy.publicPayload, Json.value, Json.fieldValues, Digest.text_injective.eq_iff] using hget
      "contract_digest"
  · simpa [BoundedCanaryPolicy.publicPayload, Json.value, Json.fieldValues, Hex.text_injective.eq_iff] using hget "base_sha"
  · simpa [BoundedCanaryPolicy.publicPayload, Json.value, Json.fieldValues, Hex.text_injective.eq_iff] using hget "candidate_sha"
  · simpa [BoundedCanaryPolicy.publicPayload, Json.value, Json.fieldValues] using hget "leaf_number"
  · cases htarget : p.target with
    | mk repository baseline leaf valid =>
      cases htarget' : p'.target with
      | mk repository' baseline' leaf' valid' =>
        rw [htarget, htarget'] at hrepository hbaseline hleaf
        cases hrepository
        cases hbaseline
        cases hleaf
        rfl
  · rw [values_operations, values_operations] at hoperations
    refine List.map_injective_iff.2 (fun a b hab => ?_) hoperations
    exact operation_value_injective (by simpa using hab)
  · simpa [BoundedCanaryPolicy.publicPayload, Json.value, Json.fieldValues] using hinner "budget" "total_calls"
  · intro o
    have hlookup := congrArg (·.get? o.value) hperOperation
    simp only [get?_countsPayload] at hlookup
    have hinjective : Function.Injective fun n : Nat => (.int n : Value F) := fun a b h => by simpa using h
    rw [CanaryBudget.limitFor, CanaryBudget.limitFor, Option.map_injective hinjective hlookup]

/-- What receipts with one text have in common: all of it, but for the order of the counts. -/
structure SameReceipt (r r' : BoundedCanaryReceipt host) : Prop where
  policyDigest : r.policy.policyDigest host = r'.policy.policyDigest host
  result : r.result = r'.result
  counts : ∀ o, r.operationCounts.lookup o = r'.operationCounts.lookup o
  readback : r.semanticReadbackDigest = r'.semanticReadbackDigest
  predecessor : r.predecessorReceiptDigest = r'.predecessorReceiptDigest

theorem result_value_injective : Function.Injective CanaryResult.value := by
  intro a b h
  cases a <;> cases b <;> first | rfl | (exact absurd h (by decide))

theorem ofDigest_value_injective : Function.Injective fun d : Option Digest => ((Json.ofDigest d).value : Value F) := by
  intro a b h
  cases a with
  | none => cases b with
    | none => rfl
    | some b => simp [Json.ofDigest, Json.value] at h
  | some a => cases b with
    | none => simp [Json.ofDigest, Json.value] at h
    | some b => simpa [Json.ofDigest, Json.value, Digest.text_injective.eq_iff] using h

theorem sameReceipt_of_text {r r' : BoundedCanaryReceipt host} (h : r.text floats = r'.text floats) : SameReceipt r r' := by
  have hvalue : ((Json.obj r.payloadFields).value : Value F) = (Json.obj r'.payloadFields).value :=
    dumps_injective floats (Json.value_canonical _ (payload_distinct r)) (Json.value_canonical _ (payload_distinct r')) h
  have hget : ∀ key, ((Json.obj r.payloadFields).value : Value F).get? key = (Json.obj r'.payloadFields).value.get? key :=
    fun key => by rw [hvalue]
  have hcounts : ((countsPayload r.operationCounts).value : Value F) = (countsPayload r'.operationCounts).value := by
    simpa [BoundedCanaryReceipt.payloadFields, Json.value, Json.fieldValues] using hget "operation_counts"
  constructor
  · simpa [BoundedCanaryReceipt.payloadFields, Json.value, Json.fieldValues, Digest.text_injective.eq_iff] using hget
      "policy_digest"
  · simpa [BoundedCanaryReceipt.payloadFields, Json.value, Json.fieldValues, result_value_injective.eq_iff] using hget "result"
  · intro o
    have hlookup := congrArg (·.get? o.value) hcounts
    simp only [get?_countsPayload] at hlookup
    have hinjective : Function.Injective fun n : Nat => (.int n : Value F) := fun a b h => by simpa using h
    exact Option.map_injective hinjective hlookup
  · simpa [BoundedCanaryReceipt.payloadFields, Json.value, Json.fieldValues, Digest.text_injective.eq_iff] using
      hget "semantic_readback_digest"
  · have hpredecessor : ((Json.ofDigest r.predecessorReceiptDigest).value : Value F) =
      (Json.ofDigest r'.predecessorReceiptDigest).value := by
      simpa [BoundedCanaryReceipt.payloadFields, Json.value, Json.fieldValues] using hget "predecessor_receipt_digest"
    exact ofDigest_value_injective hpredecessor

end Fixed

variable {o : GitHubMutationOperation}

/-! ## Same receipts -/

section Same

variable {r r' previous receipt p q : BoundedCanaryReceipt host}

theorem mem_iff_lookup (hnodup : (counts.map (·.1)).Nodup)
    {n : Nat} : (o, n) ∈ counts ↔ counts.lookup o = some n := by
  induction counts with
  | nil => simp
  | cons c counts ih =>
    obtain ⟨key, m⟩ := c
    obtain ⟨hkey, hnodup⟩ := List.nodup_cons.1 hnodup
    by_cases ho : o = key
    · subst ho
      have hnot : (o, n) ∉ counts := fun hmem => hkey (List.mem_map_of_mem (f := (·.1)) hmem)
      simp [hnot, eq_comm]
    · rw [List.lookup_cons, beq_eq_false_iff_ne.2 ho, List.mem_cons, ih hnodup]
      simp [ho]

theorem BoundedCanaryReceipt.mem_counts (ho : o ∈ r.policy.requestedOperations) :
    (o, r.count o) ∈ r.operationCounts := by
  obtain ⟨n, hn⟩ := mem_lookup (r.counted.all ho)
  rw [mem_iff_lookup r.counted.nodup, BoundedCanaryReceipt.count, hn]
  rfl

theorem BoundedCanaryReceipt.lookup_eq (r : BoundedCanaryReceipt host) (o : GitHubMutationOperation) :
    r.operationCounts.lookup o =
    if o ∈ r.policy.requestedOperations then some (r.count o) else none := by
  split_ifs with ho
  · exact (mem_iff_lookup r.counted.nodup).1 (r.mem_counts ho)
  · rw [List.lookup_eq_none_iff]
    rintro ⟨key, n⟩ hmem
    have hne : o ≠ key := fun h => ho (h ▸ r.counted.known (List.mem_map_of_mem (f := (·.1)) hmem))
    simpa using hne

theorem BoundedCanaryReceipt.count_le (r : BoundedCanaryReceipt host) (o : GitHubMutationOperation) :
    r.count o ≤ r.policy.budget.limitFor o := by
  by_cases ho : o ∈ r.policy.requestedOperations
  · exact r.counted.limits _ (r.mem_counts ho)
  · rw [BoundedCanaryReceipt.count, r.lookup_eq, if_neg ho]
    exact Nat.zero_le _

theorem perm_of_lookup {l l' : List (GitHubMutationOperation × Nat)} (hl : (l.map (·.1)).Nodup)
    (hl' : (l'.map (·.1)).Nodup) (h : ∀ o, l.lookup o = l'.lookup o) : l.Perm l' := by
  refine (List.perm_ext_iff_of_nodup (hl.of_map _) (hl'.of_map _)).2 ?_
  rintro ⟨o, n⟩
  rw [mem_iff_lookup hl, mem_iff_lookup hl', h]

theorem BoundedCanaryReceipt.total_eq (r : BoundedCanaryReceipt host) : r.total = r.calls r.policy := by
  have hkeys : (r.operationCounts.map (·.1)).Perm r.policy.requestedOperations :=
    (List.perm_ext_iff_of_nodup r.counted.nodup r.policy.operations.2.1).2 fun o =>
      ⟨fun h => r.counted.known h, fun h => r.counted.all h⟩
  have hvalues : r.operationCounts.map (·.2) = (r.operationCounts.map (·.1)).map r.count := by
    rw [List.map_map]
    refine List.map_congr_left fun c hc => ?_
    show c.2 = (r.operationCounts.lookup c.1).getD 0
    rw [(mem_iff_lookup r.counted.nodup).1 hc]
    rfl
  show (r.operationCounts.map (·.2)).sum = (r.policy.requestedOperations.map r.count).sum
  rw [hvalues]
  exact (hkeys.map r.count).sum_eq

namespace SameReceipt

theorem symm (h : SameReceipt r r') : SameReceipt r' r where
  policyDigest := h.policyDigest.symm
  result := h.result.symm
  counts o := (h.counts o).symm
  readback := h.readback.symm
  predecessor := h.predecessor.symm

theorem count (h : SameReceipt r r') (o : GitHubMutationOperation) : r.count o = r'.count o := by
  rw [BoundedCanaryReceipt.count, BoundedCanaryReceipt.count, h.counts]

theorem perm (h : SameReceipt r r') : r.operationCounts.Perm r'.operationCounts :=
    perm_of_lookup r.counted.nodup r'.counted.nodup h.counts

theorem total (h : SameReceipt r r') : r.total = r'.total := by
  show (r.operationCounts.map (·.2)).sum = (r'.operationCounts.map (·.2)).sum
  exact (h.perm.map _).sum_eq

theorem text (h : SameReceipt r r') (hpolicy : r.policy.text floats = r'.policy.text floats) :
    r.text floats = r'.text floats := by
  have hsame := samePolicy_of_text hpolicy
  have hcounts : ((countsPayload r.operationCounts).value : Value F) = (countsPayload r'.operationCounts).value :=
    countsPayload_congr h.perm r.counted.nodup
  rw [BoundedCanaryReceipt.text, BoundedCanaryReceipt.text, Json.value, Json.value, BoundedCanaryReceipt.payloadFields,
    BoundedCanaryReceipt.payloadFields, h.policyDigest, h.result, h.readback, h.predecessor, h.total,
      hsame.contractDigest, hsame.baseSha,
    hsame.candidateSha, hsame.target, hsame.leafNumber, hsame.requestedOperations]
  simp only [Json.fieldValues, hcounts]

end SameReceipt

end Same

/-! ## Steps -/

/-- The receipts from one on, advanced by one call after the other. -/
def advanceAll : BoundedCanaryReceipt host → List (GitHubMutationOperation × Digest) →
    Except Raised (List (BoundedCanaryReceipt host))
  | receipt, [] => .ok [receipt]
  | receipt, step :: steps => do
    let next ← advanceCanaryReceipt receipt step.1 step.2
    let rest ← advanceAll next steps
    return receipt :: rest

section Steps

variable {previous receipt p q : BoundedCanaryReceipt host} {o : GitHubMutationOperation} {readback : Digest}

theorem advanceAll_cons {step : GitHubMutationOperation × Digest} {steps : List (GitHubMutationOperation × Digest)}
    {l : List (BoundedCanaryReceipt host)} : advanceAll p (step :: steps) = .ok l ↔
      ∃ q rest, advanceCanaryReceipt p step.1 step.2 = .ok q ∧ advanceAll q steps = .ok rest ∧ l = p :: rest := by
  show (advanceCanaryReceipt p step.1 step.2 >>= fun next => advanceAll next steps >>= fun rest => .ok (p :: rest)) = .ok l ↔ _
  rw [bind_eq_ok]
  constructor
  · rintro ⟨q, hq, h⟩
    obtain ⟨rest, hrest, h⟩ := bind_eq_ok.1 h
    exact ⟨q, rest, hq, hrest, (Except.ok.inj h).symm⟩
  · rintro ⟨q, rest, hq, hrest, rfl⟩
    exact ⟨q, hq, bind_eq_ok.2 ⟨rest, hrest, rfl⟩⟩

/-- One call more is one more in total, at most. -/
theorem sum_advanced (hnodup : (counts.map (·.1)).Nodup) :
    ((counts.map fun c => if c.1 = o then (c.1, c.2 + 1) else c).map (·.2)).sum ≤ (counts.map (·.2)).sum + 1 := by
  induction counts with
  | nil => exact Nat.zero_le _
  | cons c counts ih =>
    obtain ⟨hkey, hnodup⟩ := List.nodup_cons.1 hnodup
    rw [List.map_cons, List.map_cons, List.map_cons, List.sum_cons, List.sum_cons]
    by_cases hc : c.1 = o
    · -- no other count is of this operation
      have hrest : (counts.map fun c => if c.1 = o then (c.1, c.2 + 1) else c) = counts := by
        refine (List.map_congr_left fun d hd => if_neg ?_).trans (List.map_id _)
        intro hd'
        exact hkey (List.mem_map.2 ⟨d, hd, hd'.trans hc.symm⟩)
      rw [if_pos hc, hrest]
      show c.2 + 1 + _ ≤ _
      omega
    · have hle := ih hnodup
      rw [if_neg hc]
      omega

theorem Counts.advanced (h : Counts policy counts)
    (hlimit : (counts.lookup o).getD 0 < policy.budget.limitFor o) (htotal : (counts.map (·.2)).sum < policy.budget.totalCalls) :
    Counts policy (counts.map fun c => if c.1 = o then (c.1, c.2 + 1) else c) := by
  have hkeys : (counts.map fun c => if c.1 = o then (c.1, c.2 + 1) else c).map (·.1) = counts.map (·.1) := by
    rw [List.map_map]
    refine List.map_congr_left fun c _ => ?_
    show (if c.1 = o then (c.1, c.2 + 1) else c).1 = c.1
    split <;> rfl
  refine ⟨hkeys ▸ h.nodup, hkeys ▸ h.known, hkeys ▸ h.all, (sum_advanced h.nodup).trans htotal, ?_⟩
  intro c hc
  obtain ⟨⟨key, n⟩, hd, rfl⟩ := List.mem_map.1 hc
  split_ifs with hdo
  · have hkey : key = o := hdo
    subst hkey
    rw [(mem_iff_lookup h.nodup).1 hd] at hlimit
    exact hlimit
  · exact h.limits _ hd

/-- Within the budget a receipt can be advanced. -/
theorem exists_advance (hresult : p.result = .genesis ∨ p.result = .pass) (ho : o ∈ p.policy.requestedOperations)
    (hlimit : p.count o < p.policy.budget.limitFor o) (htotal : p.total < p.policy.budget.totalCalls) (readback : Digest) :
    ∃ q, advanceCanaryReceipt p o readback = .ok q := by
  have hfault : receiptFault host p.policy .pass (p.operationCounts.map fun c => if c.1 = o then (c.1, c.2 + 1) else c)
      readback (some p.receiptDigest) = none :=
    (receiptFault_eq_none host).2 ⟨p.counted.advanced hlimit htotal, by simp, by simp⟩
  unfold advanceCanaryReceipt
  rw [if_neg (by tauto), if_neg (by omega)]
  unfold BoundedCanaryReceipt.make
  split
  · rename_i message hmessage
    rw [hfault] at hmessage
    cases hmessage
  · exact ⟨_, rfl⟩

/-- Differences that sum to one and are nowhere negative are one at one place, and nothing elsewhere. -/
theorem exists_increment {α : Type} {l : List α} (hl : l.Nodup) {f : α → Int} (hnonneg : ∀ a ∈ l, 0 ≤ f a)
    (hsum : (l.map f).sum = 1) :
    ∃ a ∈ l, f a = 1 ∧ ∀ b ∈ l, b ≠ a → f b = 0 := by
  have hzero : ∀ l : List α, (∀ a ∈ l, 0 ≤ f a) → 0 ≤ (l.map f).sum ∧ ((l.map f).sum = 0 → ∀ a ∈ l, f a = 0) := by
    intro l
    induction l with
    | nil => simp
    | cons a l ih =>
      intro hnonneg
      obtain ⟨ha, hnonneg⟩ := List.forall_mem_cons.1 hnonneg
      obtain ⟨hle, hall⟩ := ih hnonneg
      rw [List.map_cons, List.sum_cons]
      refine ⟨by omega, fun hsum => List.forall_mem_cons.2 ⟨by omega, hall (by omega)⟩⟩
  induction l with
  | nil => simp at hsum
  | cons a l ih =>
    obtain ⟨ha, hnonneg⟩ := List.forall_mem_cons.1 hnonneg
    obtain ⟨hnot, hl⟩ := List.nodup_cons.1 hl
    rw [List.map_cons, List.sum_cons] at hsum
    obtain ⟨hle, hall⟩ := hzero l hnonneg
    rcases Int.lt_or_eq_of_le ha with hpos | hno
    · have hrest := hall (by omega)
      refine ⟨a, List.mem_cons_self, by omega, fun b hb hne => ?_⟩
      exact hrest b ((List.mem_cons.1 hb).resolve_left hne)
    · obtain ⟨b, hb, hone, hothers⟩ := ih hl hnonneg (by omega)
      refine ⟨b, List.mem_cons_of_mem _ hb, hone, fun c hc hne => ?_⟩
      rcases List.mem_cons.1 hc with rfl | hc
      · exact hno.symm
      · exact hothers c hc hne

/-- What follows is decided by the counts, and by the digest of the receipt before. -/
theorem Follows.congr (hprevious : SameReceipt previous p) (hdigest : previous.receiptDigest = p.receiptDigest)
    (hreceipt : SameReceipt receipt q) {policy' : BoundedCanaryPolicy}
    (hpolicy : policy.requestedOperations = policy'.requestedOperations) (h : Follows policy' p q) :
    Follows policy previous receipt := by
  have hcounts : (policy'.requestedOperations.map fun o => (receipt.count o : Int) - previous.count o) =
      policy'.requestedOperations.map fun o => (q.count o : Int) - p.count o :=
    List.map_congr_left fun o _ => by rw [hprevious.count, hreceipt.count]
  obtain ⟨hresult, hpredecessor, hmonotone, hsum, hone⟩ := h
  unfold Follows
  rw [hpolicy, hcounts]
  refine ⟨hreceipt.result.trans hresult, ?_, fun o ho => ?_, hsum, hone⟩
  · rw [hreceipt.predecessor, hpredecessor, hdigest]
  · rw [hprevious.count, hreceipt.count]
    exact hmonotone o ho

theorem Follows.exists_advance (hsame : SameReceipt previous p) (hdigest : previous.receiptDigest = p.receiptDigest)
    (hp : p.policy = policy) (hreceipt : SamePolicy receipt.policy policy)
    (hpolicyDigest : receipt.policy.policyDigest host = policy.policyDigest host)
    (hresult : previous.result = .genesis ∨ previous.result = .pass) (hprevious : SamePolicy previous.policy policy)
    (h : Follows policy previous receipt) :
    ∃ o q, advanceCanaryReceipt p o receipt.semanticReadbackDigest = .ok q ∧ SameReceipt receipt q ∧ q.policy = policy := by
  subst hp
  have hfollows := h
  obtain ⟨hpass, hpredecessor, hmonotone, hsum, -⟩ := h
  obtain ⟨o, ho, hone, hothers⟩ := exists_increment p.policy.operations.2.1
    (f := fun o => (receipt.count o : Int) - previous.count o) (fun o ho => by have := hmonotone o ho; omega) hsum
  have hadds : ∀ b ∈ p.policy.requestedOperations, receipt.count b = if b = o then p.count b + 1 else p.count b := by
    intro b hb
    rw [← hsame.count]
    split_ifs with hbo
    · subst hbo
      omega
    · have := hothers b hb hbo
      omega
  -- the budget holds what the receipt counts
  have hlimit : p.count o < p.policy.budget.limitFor o := by
    have hcount := receipt.count_le o
    rw [hreceipt.limits, hadds o ho, if_pos rfl] at hcount
    omega
  have htotal : p.total < p.policy.budget.totalCalls := by
    have hcalls := hfollows.calls
    have hle : receipt.total ≤ receipt.policy.budget.totalCalls := receipt.counted.total
    have hptotal : p.total = previous.calls p.policy := by
      rw [p.total_eq]
      exact congrArg List.sum (List.map_congr_left fun b _ => (hsame.count b).symm)
    have hrtotal : receipt.total = receipt.calls p.policy := by
      rw [receipt.total_eq]
      unfold BoundedCanaryReceipt.calls
      rw [hreceipt.requestedOperations]
    rw [hreceipt.totalCalls] at hle
    omega
  obtain ⟨q, hq⟩ := Canary.exists_advance (hsame.result ▸ hresult) ho hlimit htotal receipt.semanticReadbackDigest
  have hadvances := advance_ok hq
  refine ⟨o, q, hq, ⟨?_, ?_, fun b => ?_, hadvances.readback_eq.symm, ?_⟩, hadvances.policy_eq⟩
  · rw [hpolicyDigest, hadvances.policy_eq]
  · rw [hpass, hadvances.result_eq]
  · rw [receipt.lookup_eq, q.lookup_eq, hadvances.policy_eq, hreceipt.requestedOperations]
    split_ifs with hb
    · rw [hadds b hb, hadvances.count hb]
    · rfl
  · rw [hpredecessor, hadvances.predecessor_eq, hdigest]

end Steps

/-! ## Runs -/

section Runs

variable {previous p q head : BoundedCanaryReceipt host} {rest derived : List (BoundedCanaryReceipt host)}
  {steps : List (GitHubMutationOperation × Digest)}

/-- What all receipts of a run are. -/
structure Derives (policy : BoundedCanaryPolicy) (r : BoundedCanaryReceipt host) : Prop where
  policy_eq : r.policy = policy
  result : r.result = .genesis ∨ r.result = .pass

theorem Derives.next (h : Derives policy p) {readback : Digest}
    (hq : advanceCanaryReceipt p o readback = .ok q) : Derives policy q :=
  ⟨(advance_ok hq).policy_eq.trans h.policy_eq, .inr (advance_ok hq).result_eq⟩

theorem advanceAll_head (h : advanceAll p steps = .ok derived) : ∃ tail, derived = p :: tail := by
  cases steps with
  | nil =>
    cases h
    exact ⟨[], rfl⟩
  | cons step steps =>
    obtain ⟨_, rest, -, -, rfl⟩ := advanceAll_cons.1 h
    exact ⟨rest, rfl⟩

/-- Every count at the end of a run is that at its start with the steps of the operation, and the run has one receipt
more than steps. -/
theorem advanceAll_counts (h : advanceAll p steps = .ok derived) (hhead : derived.getLast? = some head) :
    (∀ o, head.count o = p.count o + (steps.filter (·.1 = o)).length) ∧ head.total = p.total + steps.length ∧
      derived.length = steps.length + 1 ∧ head.policy = p.policy := by
  induction steps generalizing p derived with
  | nil =>
    cases h
    cases hhead
    exact ⟨fun _ => rfl, rfl, rfl, rfl⟩
  | cons step steps ih =>
    obtain ⟨q, rest, hq, hrest, rfl⟩ := advanceAll_cons.1 h
    have hadvances := advance_ok hq
    have hne : rest ≠ [] := by
      obtain ⟨tail, rfl⟩ := advanceAll_head hrest
      exact List.cons_ne_nil _ _
    have hhead : rest.getLast? = some head := by
      rwa [List.getLast?_cons_of_ne_nil hne] at hhead
    obtain ⟨hcounts, htotal, hlength, hpolicy⟩ := ih hrest hhead
    have hcount : ∀ o, q.count o = p.count o + if step.1 = o then 1 else 0 := by
      intro o
      by_cases ho : o ∈ p.policy.requestedOperations
      · rw [hadvances.count ho]
        by_cases hstep : o = step.1
        · rw [if_pos hstep, if_pos hstep.symm]
        · rw [if_neg hstep, if_neg (Ne.symm hstep)]
          rfl
      · -- an operation that is not requested is counted nowhere, and no step is of it
        have hstep : step.1 ≠ o := fun hno => ho (hno ▸ hadvances.known)
        rw [if_neg hstep, BoundedCanaryReceipt.count, BoundedCanaryReceipt.count, q.lookup_eq, p.lookup_eq,
          hadvances.policy_eq, if_neg ho, if_neg ho]
        rfl
    have hqtotal : q.total = p.total + 1 := by
      have hcalls := hadvances.follows.calls
      rw [q.total_eq, p.total_eq, hadvances.policy_eq, hcalls]
    refine ⟨fun o => ?_, ?_, ?_, hpolicy.trans hadvances.policy_eq⟩
    · rw [hcounts, hcount, List.filter_cons]
      by_cases hstep : step.1 = o
      · simp only [hstep, decide_true, if_true, List.length_cons]
        omega
      · simp only [hstep, decide_false, if_false, Bool.false_eq_true]
        omega
    · rw [htotal, hqtotal, List.length_cons]
      omega
    · rw [List.length_cons, List.length_cons, hlength]

/-- A text decides a digest, and in a set of texts without collisions a digest decides its text. -/
structure Hashed (floats : Floats F) (host : Host) (texts : Set String) : Prop where
  text : HashesText floats host
  injective : Set.InjOn host.hexdigest texts

/-- The texts of a receipt and of its policy are among these. -/
structure BoundedCanaryReceipt.TextsIn (r : BoundedCanaryReceipt host) (floats : Floats F) (texts : Set String) : Prop where
  own : r.text floats ∈ texts
  policy : r.policy.text floats ∈ texts

section Digests

variable {floats}

theorem policyDigest_eq (htext : HashesText floats host) (p : BoundedCanaryPolicy) :
    p.policyDigest host = .sha256 (host.hexdigest (p.text floats)) := congrArg Digest.sha256 (htext _)

theorem receiptDigest_eq (htext : HashesText floats host) (r : BoundedCanaryReceipt host) :
    r.receiptDigest = .sha256 (host.hexdigest (r.text floats)) := congrArg Digest.sha256 (htext _)

variable {texts : Set String} (hhash : Hashed floats host texts)
include hhash

theorem policyText_of_digest {p p' : BoundedCanaryPolicy} (hp : p.text floats ∈ texts) (hp' : p'.text floats ∈ texts)
    (h : p.policyDigest host = p'.policyDigest host) : p.text floats = p'.text floats := by
  rw [policyDigest_eq hhash.text, policyDigest_eq hhash.text] at h
  exact hhash.injective hp hp' (Digest.sha256.inj h)

theorem receiptText_of_digest {r r' : BoundedCanaryReceipt host} (hr : r.text floats ∈ texts)
    (hr' : r'.text floats ∈ texts) (h : r.receiptDigest = r'.receiptDigest) : r.text floats = r'.text floats := by
  rw [receiptDigest_eq hhash.text, receiptDigest_eq hhash.text] at h
  exact hhash.injective hr hr' (Digest.sha256.inj h)

omit hhash in
theorem validateFor_ok {r : BoundedCanaryReceipt host} : r.validateFor policy = .ok () ↔
    r.policy.policyDigest host = policy.policyDigest host := by
  rw [BoundedCanaryReceipt.validateFor, refuse_eq_ok, not_not, eq_comm]

/-- What is accepted after a receipt is derived, receipt by receipt. The induction is on the receipts that are left. -/
theorem derive (hpolicy : policy.text floats ∈ texts) (hin : ∀ r ∈ previous :: rest, r.TextsIn floats texts)
    (hsame : SameReceipt previous p) (hp : Derives policy p)
    (hpolicies : ∀ r ∈ previous :: rest, r.policy.policyDigest host = policy.policyDigest host)
    (hchain : (previous :: rest).IsChain (Follows policy)) :
    ∃ steps derived, advanceAll p steps = .ok derived ∧ List.Forall₂ (fun r q => r.text floats = q.text floats)
    (previous :: rest) derived := by
  have htexts : ∀ r ∈ previous :: rest, r.policy.text floats = policy.text floats := fun r hr =>
    policyText_of_digest hhash (hin r hr).policy hpolicy (hpolicies r hr)
  have htext : previous.text floats = p.text floats := by
    refine hsame.text floats ?_
    rw [hp.policy_eq]
    exact htexts previous List.mem_cons_self
  induction rest generalizing previous p with
  | nil => exact ⟨[], [p], rfl, .cons htext .nil⟩
  | cons receipt rest ih =>
    obtain ⟨hfollows, hchain⟩ := List.isChain_cons_cons.1 hchain
    have hreceipt : receipt ∈ previous :: receipt :: rest := List.mem_cons_of_mem _ List.mem_cons_self
    have hdigest : previous.receiptDigest = p.receiptDigest := by
      rw [receiptDigest_eq hhash.text, receiptDigest_eq hhash.text, htext]
    obtain ⟨o, q, hq, hsame', hpolicy'⟩ := hfollows.exists_advance hsame hdigest hp.policy_eq
      (samePolicy_of_text (htexts receipt hreceipt)) (hpolicies receipt hreceipt) (by rw [hsame.result]; exact hp.result)
      (samePolicy_of_text (htexts previous List.mem_cons_self))
    have htext' : receipt.text floats = q.text floats := hsame'.text floats (by rw [hpolicy']; exact htexts receipt hreceipt)
    obtain ⟨steps, derived, hsteps, hall⟩ := ih (fun r hr => hin r (List.mem_cons_of_mem _ hr)) hsame' (hp.next hq)
      (fun r hr => hpolicies r (List.mem_cons_of_mem _ hr)) hchain (fun r hr => htexts r (List.mem_cons_of_mem _ hr)) htext'
    exact ⟨(o, receipt.semanticReadbackDigest) :: steps, p :: derived, advanceAll_cons.2 ⟨q, derived, hq, hsteps, rfl⟩,
      .cons htext hall⟩

omit hhash in
theorem policyDigest_of_text {r q : BoundedCanaryReceipt host} (h : r.text floats = q.text floats) :
    r.policy.policyDigest host = q.policy.policyDigest host := (sameReceipt_of_text h).policyDigest

/-- What is derived is accepted, and so is any list of receipts with the same texts. -/
theorem accept (hp : Derives policy p) (h : advanceAll p steps = .ok derived)
    (hall : List.Forall₂ (fun r q => r.text floats = q.text floats) rest derived) :
    rest.IsChain (Follows policy) ∧ ∀ r ∈ rest, r.policy.policyDigest host = policy.policyDigest host := by
  induction steps generalizing p derived rest with
  | nil =>
    cases h
    obtain ⟨r, rest, htext, hnil, rfl⟩ := List.forall₂_cons_right_iff.1 hall
    rw [List.forall₂_nil_right_iff] at hnil
    subst hnil
    refine ⟨.singleton _, fun r' hr' => ?_⟩
    rw [List.mem_singleton.1 hr', policyDigest_of_text htext, hp.policy_eq]
  | cons step steps ih =>
    obtain ⟨q, tail, hq, htail, rfl⟩ := advanceAll_cons.1 h
    obtain ⟨r, rest, htext, hrest, rfl⟩ := List.forall₂_cons_right_iff.1 hall
    obtain ⟨hchain, hpolicies⟩ := ih (hp.next hq) htail hrest
    have hr : r.policy.policyDigest host = policy.policyDigest host := by
      rw [policyDigest_of_text htext, hp.policy_eq]
    refine ⟨?_, List.forall_mem_cons.2 ⟨hr, hpolicies⟩⟩
    obtain ⟨tail, rfl⟩ := advanceAll_head htail
    obtain ⟨next, rest, hnext, -, rfl⟩ := List.forall₂_cons_right_iff.1 hrest
    have hdigest : r.receiptDigest = p.receiptDigest := by
      rw [receiptDigest_eq hhash.text, receiptDigest_eq hhash.text, htext]
    have hfollows : Follows p.policy p q := (advance_ok hq).follows
    refine List.isChain_cons_cons.2 ⟨?_, hchain⟩
    exact hfollows.congr (sameReceipt_of_text htext) hdigest (sameReceipt_of_text hnext) (by rw [hp.policy_eq])

theorem texts_of_digests {l l' : List (BoundedCanaryReceipt host)} (hl : ∀ r ∈ l, r.text floats ∈ texts)
    (hl' : ∀ r ∈ l', r.text floats ∈ texts) (h : l.map (·.receiptDigest) = l'.map (·.receiptDigest)) :
    List.Forall₂ (fun r q => r.text floats = q.text floats) l l' := by
  induction l generalizing l' with
  | nil =>
    rw [List.map_nil, eq_comm, List.map_eq_nil_iff] at h
    subst h
    exact .nil
  | cons r l ih =>
    obtain ⟨q, tail, rfl, hq, htail⟩ := List.map_eq_cons_iff.1 h.symm
    have htext := receiptText_of_digest hhash (hl r List.mem_cons_self) (hl' q List.mem_cons_self) hq.symm
    exact .cons htext (ih (fun r hr => hl r (List.mem_cons_of_mem _ hr)) (fun q hq => hl' q (List.mem_cons_of_mem _ hq))
      htail.symm)

theorem digests_of_texts {l l' : List (BoundedCanaryReceipt host)}
    (h : List.Forall₂ (fun r q => r.text floats = q.text floats) l l') : l.map (·.receiptDigest) = l'.map (·.receiptDigest) := by
  induction h with
  | nil => rfl
  | cons htext _ ih => rw [List.map_cons, List.map_cons, ih, receiptDigest_eq hhash.text, receiptDigest_eq hhash.text, htext]

end Digests

/-! ## Accepted chains -/

/-- A receipt as the first of a chain must be. -/
structure Starts (r : BoundedCanaryReceipt host) : Prop where
  result : r.result = .genesis
  predecessor : r.predecessorReceiptDigest = none
  zero : ∀ c ∈ r.operationCounts, c.2 = 0

variable {r : BoundedCanaryReceipt host}

theorem starts_of_genesis (h : r.result = .genesis) : Starts r := by
  obtain ⟨hnone, hzero, -⟩ := ((receiptFault_eq_none host).1 r.valid).2.1 h
  exact ⟨h, hnone, hzero⟩

theorem validate_ok {chain : List (BoundedCanaryReceipt host)} : validateCanaryReceiptChain policy chain = .ok head ↔
    (∀ r ∈ chain, r.policy.policyDigest host = policy.policyDigest host) ∧ (∀ r, chain.head? = some r → Starts r) ∧
      chain.IsChain (Follows policy) ∧ chain.getLast? = some head := by
  cases chain with
  | nil => simp [validateCanaryReceiptChain]
  | cons r rest =>
    show (r.validateFor policy >>= fun _ => refuse _ _ >>= fun _ => validateAfter policy r rest) = .ok head ↔ _
    rw [bind_eq_ok, exists_unit, bind_eq_ok, exists_unit, refuse_eq_ok, validateFor_ok, validateAfter_ok, List.forall_mem_cons]
    simp only [validateFor_ok, List.head?_cons, Option.some.injEq, forall_eq']
    constructor
    · rintro ⟨hr, hstart, hrest, hchain, hlast⟩
      push Not at hstart
      exact ⟨⟨hr, hrest⟩, ⟨hstart.1, hstart.2.1, hstart.2.2⟩, hchain, hlast⟩
    · rintro ⟨⟨hr, hrest⟩, ⟨hresult, hpredecessor, hzero⟩, hchain, hlast⟩
      refine ⟨hr, ?_, hrest, hchain, hlast⟩
      push Not
      exact ⟨hresult, hpredecessor, hzero⟩

theorem Starts.count (h : Starts r) (o : GitHubMutationOperation) : r.count o = 0 := by
  by_cases ho : o ∈ r.policy.requestedOperations
  · exact h.zero _ (r.mem_counts ho)
  · rw [BoundedCanaryReceipt.count, r.lookup_eq, if_neg ho]
    rfl

theorem Starts.total (h : Starts r) : r.total = 0 := by
  show (r.operationCounts.map (·.2)).sum = 0
  refine List.sum_eq_zero fun n hn => ?_
  obtain ⟨c, hc, rfl⟩ := List.mem_map.1 hn
  exact h.zero c hc

theorem same_genesis (hstart : Starts r) (hpolicy : SamePolicy r.policy policy)
    (hdigest : r.policy.policyDigest host = policy.policyDigest host) : SameReceipt r (genesisCanaryReceipt host policy) := by
  have hgenesis : Starts (genesisCanaryReceipt host policy) := starts_of_genesis rfl
  obtain ⟨-, -, hreadback⟩ := ((receiptFault_eq_none host).1 r.valid).2.1 hstart.result
  refine ⟨hdigest, hstart.result, fun o => ?_, ?_, hstart.predecessor⟩
  · rw [r.lookup_eq, (genesisCanaryReceipt host policy).lookup_eq, hstart.count, hgenesis.count, hpolicy.requestedOperations]
    rfl
  · rw [hreadback, BoundedCanaryPolicy.genesisIdentity, hdigest, hpolicy.contractDigest]
    rfl

end Runs

theorem last_of_texts {chain : List (BoundedCanaryReceipt host)}
    (hall : List.Forall₂ (fun (r q : BoundedCanaryReceipt host) => r.text floats = q.text floats) chain derived)
    (hlast : chain.getLast? = some head) : ∃ q : BoundedCanaryReceipt host, derived.getLast? = some q ∧
    head.text floats = q.text floats := by
  induction hall with
  | nil => cases hlast
  | @cons r q rest derived htext hrest ih =>
    cases hrest with
    | nil =>
      cases hlast
      exact ⟨q, rfl, htext⟩
    | cons _ _ =>
      rw [List.getLast?_cons_cons] at hlast ⊢
      exact ih hlast

/-- Every receipt of an accepted chain can be advanced, for all that its result says. -/
theorem result_of_chain {chain : List (BoundedCanaryReceipt host)} (hstarts : ∀ r, chain.head? = some r → Starts r)
    (hfollows : chain.IsChain (Follows policy)) : ∀ r ∈ chain, r.result = .genesis ∨ r.result = .pass := by
  have hpasses : ∀ (first : BoundedCanaryReceipt host) (rest : List (BoundedCanaryReceipt host)),
      (first :: rest).IsChain (Follows policy) → ∀ r ∈ rest, r.result = .pass := by
    intro first rest
    induction rest generalizing first with
    | nil => simp
    | cons next rest ih =>
      intro hchain
      obtain ⟨hnext, hrest⟩ := List.isChain_cons_cons.1 hchain
      exact List.forall_mem_cons.2 ⟨hnext.1, ih next hrest⟩
  cases chain with
  | nil => simp
  | cons first rest => exact List.forall_mem_cons.2 ⟨.inl (hstarts first rfl).result, fun r hr => .inr (hpasses first rest hfollows r hr)⟩

theorem isChain_append_singleton {α : Type} {R : α → α → Prop} {l : List α} {a b : α} (hl : l.IsChain R) (hlast : l.getLast? = some a)
    (hab : R a b) : (l ++ [b]).IsChain R := by
  rw [List.isChain_append]
  refine ⟨hl, .singleton _, fun x hx y hy => ?_⟩
  have hx : l.getLast? = some x := hx
  have hy : some b = some y := hy
  rw [hlast] at hx
  cases hx
  cases hy
  exact hab

/-- What is authorized is requested, and its head is within the budget. -/
structure Within (policy : BoundedCanaryPolicy) (head : BoundedCanaryReceipt host) (o : GitHubMutationOperation) : Prop where
  known : o ∈ policy.requestedOperations
  limit : head.count o < policy.budget.limitFor o
  total : head.total < policy.budget.totalCalls

theorem not_denied {c : Prop} [Decidable c] {reason : String} {digest : Option Digest} {decision : CanaryDecision}
    (h : (if c then denied reason digest else decision).authorized = true) : ¬ c ∧ decision.authorized = true := by
  by_cases hc : c
  · rw [if_pos hc] at h
    cases h
  · rw [if_neg hc] at h
    exact ⟨hc, h⟩

theorem authorized_within {context : CanaryAuthorityContext host} {request : CanaryMutationRequest}
    {chain : List (BoundedCanaryReceipt host)} (h : (authorizeCanaryRequest policy context request chain).authorized = true) :
    ∃ head, validateCanaryReceiptChain policy chain = .ok head ∧ Within policy head request.operation := by
  unfold authorizeCanaryRequest at h
  obtain ⟨-, h⟩ := not_denied h
  obtain ⟨hknown, h⟩ := not_denied h
  obtain ⟨-, h⟩ := not_denied h
  obtain ⟨-, h⟩ := not_denied h
  cases hprior : context.priorReceiptDigest with
  | none =>
    rw [hprior] at h
    cases h
  | some priorReceiptDigest =>
    rw [hprior] at h
    cases hhead : validateCanaryReceiptChain policy chain with
    | error e =>
      rw [hhead] at h
      cases h
    | ok head =>
      simp only [hhead] at h
      obtain ⟨-, h⟩ := not_denied h
      obtain ⟨-, h⟩ := not_denied h
      obtain ⟨hbudget, -⟩ := not_denied h
      push Not at hbudget
      exact ⟨head, rfl, not_not.1 hknown, hbudget.1, hbudget.2⟩

/-- A chain of receipts is accepted exactly when it has the digests of one that was advanced from the genesis receipt.
Then its head counts the steps, each operation within its limit and all within the total; and a call that is authorized
on it can be made and counted, whatever its read-back is. -/
theorem receipt_chain_exact {texts : Set String} (hhash : Hashed floats host texts)
    (hpolicy : policy.text floats ∈ texts) {chain : List (BoundedCanaryReceipt host)}
    (hchain : ∀ r ∈ chain, r.TextsIn floats texts) :
    ((∃ head, validateCanaryReceiptChain policy chain = .ok head) ↔
      ∃ steps derived, advanceAll (genesisCanaryReceipt host policy) steps = .ok derived ∧
        (∀ q ∈ derived, q.text floats ∈ texts) ∧
        chain.map (·.receiptDigest) = derived.map (·.receiptDigest)) ∧
    (∀ head steps derived, validateCanaryReceiptChain policy chain = .ok head →
      advanceAll (genesisCanaryReceipt host policy) steps = .ok derived → (∀ q ∈ derived, q.text floats ∈ texts) →
      chain.map (·.receiptDigest) = derived.map (·.receiptDigest) →
      (∀ o, head.count o = (steps.filter (·.1 = o)).length ∧ head.count o ≤ policy.budget.limitFor o) ∧
        head.total + 1 = chain.length ∧ head.total ≤ policy.budget.totalCalls) ∧
    ∀ context request readback, (authorizeCanaryRequest policy context request chain).authorized = true →
      ∃ head next, validateCanaryReceiptChain policy chain = .ok head ∧
        advanceCanaryReceipt head request.operation readback = .ok next ∧
        validateCanaryReceiptChain policy (chain ++ [next]) = .ok next := by
  have htexts : ∀ r ∈ chain, r.text floats ∈ texts := fun r hr => (hchain r hr).own
  have hgenesis : Derives policy (genesisCanaryReceipt host policy) := ⟨rfl, .inl rfl⟩
  have hsamePolicy : ∀ r ∈ chain, r.policy.policyDigest host = policy.policyDigest host →
    r.policy.text floats = policy.text floats :=
    fun r hr hdigest => policyText_of_digest hhash (hchain r hr).policy hpolicy hdigest
  -- an accepted chain is derived from the genesis by induction; a derived one agrees with it text by text
  refine ⟨⟨?_, ?_⟩, ?_, ?_⟩
  · rintro ⟨head, h⟩
    obtain ⟨hpolicies, hstarts, hfollows, hlast⟩ := validate_ok.1 h
    cases chain with
    | nil => cases hlast
    | cons first rest =>
      have hfirst := hpolicies first List.mem_cons_self
      have hsame := same_genesis (hstarts first rfl) (samePolicy_of_text (hsamePolicy first List.mem_cons_self hfirst)) hfirst
      obtain ⟨steps, derived, hsteps, hall⟩ := derive hhash hpolicy hchain hsame hgenesis hpolicies hfollows
      refine ⟨steps, derived, hsteps, fun q hq => ?_, digests_of_texts hhash hall⟩
      obtain ⟨r, hr, htext⟩ : ∃ r ∈ first :: rest, r.text floats = q.text floats := by
        obtain ⟨n, hn, rfl⟩ := List.getElem_of_mem hq
        have hn' : n < (first :: rest).length := hall.length_eq ▸ hn
        exact ⟨(first :: rest)[n], List.getElem_mem hn', hall.get hn' hn⟩
      exact htext ▸ htexts r hr
  · rintro ⟨steps, derived, hsteps, hderived, hdigests⟩
    have hall := texts_of_digests hhash htexts hderived hdigests
    obtain ⟨hfollows, hpolicies⟩ := accept hhash hgenesis hsteps hall
    obtain ⟨tail, rfl⟩ := advanceAll_head hsteps
    obtain ⟨first, rest, hfirst, -, rfl⟩ := List.forall₂_cons_right_iff.1 hall
    refine ⟨_, validate_ok.2 ⟨hpolicies, ?_, hfollows, List.getLast?_cons⟩⟩
    rintro r hr
    cases hr
    exact starts_of_genesis (sameReceipt_of_text hfirst).result
  · intro head steps derived h hsteps hderived hdigests
    obtain ⟨hpolicies, -, -, hlast⟩ := validate_ok.1 h
    have hall := texts_of_digests hhash htexts hderived hdigests
    obtain ⟨q, hq, htext⟩ := last_of_texts floats hall hlast
    obtain ⟨hcounts, htotal, hlength, -⟩ := advanceAll_counts hsteps hq
    have hsame := sameReceipt_of_text htext
    have hhead : head ∈ chain := List.mem_of_getLast? hlast
    have hlimits := samePolicy_of_text (hsamePolicy head hhead (hpolicies head hhead))
    have hstart : Starts (genesisCanaryReceipt host policy) := starts_of_genesis rfl
    refine ⟨fun o => ⟨?_, ?_⟩, ?_, ?_⟩
    · rw [hsame.count, hcounts, hstart.count, Nat.zero_add]
    · rw [← hlimits.limits]
      exact head.count_le o
    · rw [hsame.total, htotal, hstart.total, hall.length_eq, hlength]
      omega
    · rw [← hlimits.totalCalls]
      exact head.counted.total
  · intro context request readback h
    obtain ⟨head, h, hlimits⟩ := authorized_within h
    obtain ⟨hpolicies, hstarts, hfollows, hlast⟩ := validate_ok.1 h
    have hhead : head ∈ chain := List.mem_of_getLast? hlast
    have hsame := samePolicy_of_text (hsamePolicy head hhead (hpolicies head hhead))
    obtain ⟨next, hnext⟩ := exists_advance (result_of_chain hstarts hfollows head hhead)
      (hsame.requestedOperations ▸ hlimits.known) (hsame.limits _ ▸ hlimits.limit) (hsame.totalCalls ▸ hlimits.total) readback
    have hadvances := advance_ok hnext
    have hnextFollows : Follows policy head next := by
      have hown := hadvances.follows
      unfold Follows at hown ⊢
      rwa [hsame.requestedOperations] at hown
    refine ⟨head, next, h, hnext, validate_ok.2 ⟨?_, ?_, ?_, ?_⟩⟩
    · rintro r hr
      rcases List.mem_append.1 hr with hr | hr
      · exact hpolicies r hr
      · rw [List.mem_singleton.1 hr, hadvances.policy_eq]
        exact hpolicies head hhead
    · rintro r hr
      rw [List.head?_append_of_ne_nil _ (List.ne_nil_of_mem hhead)] at hr
      exact hstarts r hr
    · exact isChain_append_singleton hfollows hlast hnextFollows
    · rw [List.getLast?_append, List.getLast?_singleton]
      rfl

namespace Sample

def integral : Floats Empty := .empty

/-- What a text is of: nothing that has a result, the genesis receipt, or another. -/
def kind (text : String) : Nat :=
  match (loads integral text).bind (·.get? "result") with
  | some (.str result) => if result = CanaryResult.genesis.value then 1 else 2
  | _ => 0

/-- A host that tells the texts of the chain apart. -/
def hashing : Host where
  digestJson j := .ofNat 64 (kind (dumps integral j.value))
  hexdigest text := .ofNat 64 (kind text)
  canonicalWorktreeKey path := some path

theorem kind_policy (p : BoundedCanaryPolicy) : kind (p.text integral) = 0 := by
  rw [kind, BoundedCanaryPolicy.text, loads_dumps integral (Json.value_canonical _ (publicPayload_distinct p))]
  simp [BoundedCanaryPolicy.publicPayload, Json.value, Json.fieldValues]

theorem kind_receipt (r : BoundedCanaryReceipt host) : kind (r.text integral) = if r.result = .genesis then 1 else 2 := by
  rw [kind, BoundedCanaryReceipt.text, loads_dumps integral (Json.value_canonical _ (payload_distinct r))]
  simp [BoundedCanaryReceipt.payloadFields, Json.value, Json.fieldValues, result_value_injective.eq_iff]

def calls : List (GitHubMutationOperation × Digest) := [(.createBranch, .sha256 (.ofNat 64 21))]

/-- Genesis, and a call. -/
def chain : List (BoundedCanaryReceipt hashing) :=
    (advanceAll (genesisCanaryReceipt hashing Sample.policy) calls).toOption.getD []

def texts : List String := Sample.policy.text integral :: chain.map (·.text integral)

theorem texts_digests : texts.map hashing.hexdigest = [.ofNat 64 0, .ofNat 64 1, .ofNat 64 2] := by
  have hresults : chain.map (fun r => Hex.ofNat 64 (if r.result = .genesis then 1 else 2)) = [.ofNat 64 1, .ofNat 64 2] := by
    decide +kernel
  rw [texts, List.map_cons, List.map_map, ← hresults]
  refine congrArg₂ List.cons (congrArg (Hex.ofNat 64) (kind_policy _)) (List.map_congr_left fun r _ => ?_)
  exact congrArg (Hex.ofNat 64) (kind_receipt r)

theorem hashing_injective : Set.InjOn hashing.hexdigest {text | text ∈ texts} := by
  have hnodup : (texts.map hashing.hexdigest).Nodup := by
    rw [texts_digests]
    decide +kernel
  intro a ha b hb h
  exact List.inj_on_of_nodup_map hnodup ha hb h

end Sample

/-- A chain that exhausts the budget of an operation is accepted, and counts its call. -/
theorem receipt_chain_exact_one_call :
    ∃ head, validateCanaryReceiptChain Sample.policy Sample.chain = .ok head ∧ head.count .createBranch = 1 ∧
    head.count .deleteBranch = 0 ∧
      head.total = 1 ∧ head.total ≤ Sample.policy.budget.totalCalls := by
  have hpolicies : ∀ r ∈ Sample.chain, r.policy = Sample.policy := by
    decide +kernel
  have hpolicy : Sample.policy.text Sample.integral ∈ Sample.texts := by
    rw [Sample.texts]
    exact List.mem_cons_self
  have hchain : ∀ r ∈ Sample.chain, r.TextsIn Sample.integral {text | text ∈ Sample.texts} := by
    intro r hr
    refine ⟨?_, ?_⟩
    · rw [Sample.texts]
      exact List.mem_cons_of_mem _ (List.mem_map_of_mem hr)
    · rw [hpolicies r hr]
      exact hpolicy
  have hsteps : advanceAll (genesisCanaryReceipt Sample.hashing Sample.policy) Sample.calls = .ok Sample.chain := by
    have hsome : (advanceAll (genesisCanaryReceipt Sample.hashing Sample.policy) Sample.calls).isOk = true := by
      decide +kernel
    cases hderived : advanceAll (genesisCanaryReceipt Sample.hashing Sample.policy) Sample.calls with
    | error e =>
      rw [hderived] at hsome
      cases hsome
    | ok derived =>
      rw [Sample.chain, hderived]
      rfl
  have hlength : Sample.chain.length = 2 := by
    decide +kernel
  have hhashed : Hashed Sample.integral Sample.hashing {text | text ∈ Sample.texts} := ⟨fun _ => rfl, Sample.hashing_injective⟩
  obtain ⟨haccepts, hcounts, -⟩ :=
    receipt_chain_exact Sample.integral hhashed hpolicy hchain
  have htexts : ∀ q ∈ Sample.chain, q.text Sample.integral ∈ {text | text ∈ Sample.texts} := fun q hq => (hchain q hq).own
  obtain ⟨head, hhead⟩ := haccepts.2 ⟨Sample.calls, Sample.chain, hsteps, htexts, rfl⟩
  obtain ⟨hcount, htotal, hwithin⟩ := hcounts head Sample.calls Sample.chain hhead hsteps htexts rfl
  refine ⟨head, hhead, (hcount .createBranch).1, (hcount .deleteBranch).1, ?_, hwithin⟩
  rw [hlength] at htotal
  omega

end Roundwright.Canary
