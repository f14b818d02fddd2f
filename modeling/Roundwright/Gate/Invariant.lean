/-
Evidence never outlives its candidate or its context. `Commit` is one committed transaction of the
candidate and gate calls, or anything the rest of the program does to the other tables; every call is
a sequence of commits, and every commit keeps `Bound`.
-/
import Roundwright.Gate.Recording

namespace Roundwright.Gate

open Lib State

/-! ## The invariant -/

/-- The current seal of the task is for this candidate. -/
def Store.Sealed (s : Store) (taskId candidateSha : String) : Prop :=
  (s.ledger.seal? taskId).map (·.candidateSha) = some candidateSha

/-- The candidate evidence row a gate evidence row needs. -/
def GateEvidenceKey.candidateRow (k : GateEvidenceKey) : CandidateEvidenceRow :=
  ⟨k.taskId, k.candidateSha, k.evidenceFingerprint⟩

/-- The context row of the candidate of a gate evidence row holds what it held at the insertion. -/
def Store.UnderContext (s : Store) (r : GateEvidenceRow) : Prop :=
  ∃ c ∈ s.gateContexts.rows, c.taskId = r.key.taskId ∧ c.candidateSha = r.key.candidateSha ∧
    r.insertedUnder = some c.toContextStamp

structure Bound (s : Store) : Prop where
  candidate : ∀ r ∈ s.candidateEvidence.rows, s.Sealed r.taskId r.candidateSha
  context : ∀ r ∈ s.gateContexts.rows, s.Sealed r.taskId r.candidateSha
  backed : ∀ r ∈ s.gateEvidence.rows, r.key.candidateRow ∈ s.candidateEvidence.rows
  under : ∀ r ∈ s.gateEvidence.rows, s.UnderContext r

theorem Bound.initial (s : Dependency.Store) (policies : Table ReviewPolicyRow.clash) : Bound (.initial s policies) := by
  constructor <;> intro r hr <;> simp [Store.initial] at hr

/-! ## Lookups by key -/

theorem seal?_eq_some {l : Ledger} {taskId : String} {r : SealRow} :
    l.seal? taskId = some r ↔ r ∈ l.seals.rows ∧ r.taskId = taskId :=
  Table.find?_key (g := fun r : SealRow => r.taskId) fun a b h => by simp [SealRow.clash, h]

theorem gateContext?_eq_some {s : Store} {taskId candidateSha : String} {r : GateContextRow} :
    s.gateContext? taskId candidateSha = some r ↔
      r ∈ s.gateContexts.rows ∧ r.taskId = taskId ∧ r.candidateSha = candidateSha := by
  have hkey : Table.IsKey GateContextRow.clash fun r => (r.taskId, r.candidateSha) := by
    intro a b h
    obtain ⟨ht, hc⟩ := Prod.mk.inj h
    simp [GateContextRow.clash, ht, hc]
  have := Table.find?_key (t := s.gateContexts) hkey (k := (taskId, candidateSha)) (r := r)
  simpa only [Store.gateContext?, Prod.mk.injEq] using this

theorem seal?_upsert_self (l : Ledger) (row : SealRow) :
    ({ l with seals := l.seals.upsert row } : Ledger).seal? row.taskId = some row :=
  seal?_eq_some.2 ⟨Table.mem_upsert.2 (.inr rfl), rfl⟩

theorem seal?_upsert_ne (l : Ledger) {row : SealRow} {taskId : String} (h : row.taskId ≠ taskId) :
    ({ l with seals := l.seals.upsert row } : Ledger).seal? taskId = l.seal? taskId := by
  ext r
  rw [seal?_eq_some, seal?_eq_some]
  refine and_congr_left fun hr => ?_
  have hclash : r.clash row = false := by simp [SealRow.clash, hr, h.symm]
  have hne : r ≠ row := fun he => h (by rw [← he]; exact hr)
  simp [Table.mem_upsert, hclash, hne]

theorem seal?_delete_ne (l : Ledger) {deleted taskId : String} (h : taskId ≠ deleted) :
    ({ l with seals := l.seals.keep fun r => r.taskId ≠ deleted } : Ledger).seal? taskId = l.seal? taskId := by
  ext r
  rw [seal?_eq_some, seal?_eq_some]
  refine and_congr_left fun hr => ?_
  simp [hr, h]

variable {row : GateContextRow} {row : CandidateSeal}

/-! ## What each statement keeps -/

namespace Bound

variable {s s' : Store}

theorem sealed (hs : Bound s) {r : GateEvidenceRow} (hr : r ∈ s.gateEvidence.rows) :
    s.Sealed r.key.taskId r.key.candidateSha :=
  hs.candidate _ (hs.backed r hr)

/-- Other tables may change as long as every seal that has evidence stays. -/
theorem of_seals (hs : Bound s) (hc : s'.candidateEvidence = s.candidateEvidence)
    (hg : s'.gateContexts = s.gateContexts) (he : s'.gateEvidence = s.gateEvidence) (hseals : ∀ taskId candidateSha,
      (∃ r ∈ s.candidateEvidence.rows, r.taskId = taskId) ∨ (∃ r ∈ s.gateContexts.rows, r.taskId = taskId) →
      s.Sealed taskId candidateSha → s'.Sealed taskId candidateSha) : Bound s' where
  candidate r hr := by
    rw [hc] at hr
    exact hseals _ _ (.inl ⟨r, hr, rfl⟩) (hs.candidate r hr)
  context r hr := by
    rw [hg] at hr
    exact hseals _ _ (.inr ⟨r, hr, rfl⟩) (hs.context r hr)
  backed r hr := by
    rw [he] at hr
    rw [hc]
    exact hs.backed r hr
  under r hr := by
    rw [he] at hr
    obtain ⟨c, hmem, hkey⟩ := hs.under r hr
    exact ⟨c, by rw [hg]; exact hmem, hkey⟩

/-- After the three DELETEs nothing of the task is left. -/
theorem deleteEvidence (hs : Bound s) (taskId : String) : Bound (s.deleteEvidence taskId) where
  candidate r hr := hs.candidate r (List.mem_of_mem_filter hr)
  context r hr := hs.context r (List.mem_of_mem_filter hr)
  backed r hr := by
    obtain ⟨hmem, hne⟩ := List.mem_filter.1 hr
    exact List.mem_filter.2 ⟨hs.backed r hmem, hne⟩
  under r hr := by
    obtain ⟨hmem, hne⟩ := List.mem_filter.1 hr
    obtain ⟨c, hc, htask, hcand, hu⟩ := hs.under r hmem
    refine ⟨c, List.mem_filter.2 ⟨hc, ?_⟩, htask, hcand, hu⟩
    rw [htask]
    exact hne

theorem deleteEvidence_none (taskId : String) :
    ¬ ((∃ r ∈ (s.deleteEvidence taskId).candidateEvidence.rows, r.taskId = taskId) ∨
      ∃ r ∈ (s.deleteEvidence taskId).gateContexts.rows, r.taskId = taskId) := by
  rintro (⟨r, hr, rfl⟩ | ⟨r, hr, rfl⟩) <;> exact absurd (List.mem_filter.1 hr).2 (by simp)

/-- The two DELETEs of a candidate leave its context row, with no evidence under it. -/
theorem clearCandidate (hs : Bound s) (taskId candidateSha : String) : Bound (s.clearCandidate taskId candidateSha) where
  candidate r hr := hs.candidate r (List.mem_of_mem_filter hr)
  context := hs.context
  backed r hr := by
    obtain ⟨hmem, hne⟩ := List.mem_filter.1 hr
    exact List.mem_filter.2 ⟨hs.backed r hmem, hne⟩
  under r hr := hs.under r (List.mem_of_mem_filter hr)

theorem insertCandidateEvidence (hs : Bound s) {row : CandidateEvidenceRow} (hsealed : s.Sealed row.taskId row.candidateSha) :
    Bound (s.insertCandidateEvidence row) := by
  rcases Table.insertOrIgnore_cases s.candidateEvidence row with hrows | ⟨-, hsame⟩
  · have hrows' : (s.insertCandidateEvidence row).candidateEvidence.rows = s.candidateEvidence.rows ++ [row] := hrows
    refine ⟨fun r hr => ?_, hs.context, fun r hr => ?_, hs.under⟩
    · rw [hrows', List.mem_append, List.mem_singleton] at hr
      rcases hr with hr | rfl
      · exact hs.candidate r hr
      · exact hsealed
    · rw [hrows']
      exact List.mem_append_left _ (hs.backed r hr)
  · have hself : s.insertCandidateEvidence row = s := by
      rw [Store.insertCandidateEvidence, hsame]
    rw [hself]
    exact hs

theorem mem_insertCandidateEvidence (s : Store) (row : CandidateEvidenceRow) :
    row ∈ (s.insertCandidateEvidence row).candidateEvidence.rows := by
  rcases Table.insertOrIgnore_cases s.candidateEvidence row with hrows | ⟨⟨a, ha, hclash⟩, hsame⟩
  · show row ∈ (s.candidateEvidence.insertOrIgnore row).rows
    rw [hrows]
    exact List.mem_append_right _ (List.mem_singleton_self row)
  · show row ∈ (s.candidateEvidence.insertOrIgnore row).rows
    rw [hsame, ← eq_of_beq hclash]
    exact ha

theorem insertContext (hs : Bound s) {row : GateContextRow} (hsealed : s.Sealed row.taskId row.candidateSha)
    (h : s.insertContext row = .ok s') : Bound s' := by
  simp only [Store.insertContext, bind_eq_ok, demand_eq_ok, pure_eq_ok] at h
  obtain ⟨t, ht, rfl⟩ := h
  obtain ⟨-, hrows⟩ := Table.insert?_eq_some.1 ht
  refine ⟨hs.candidate, fun r hr => ?_, hs.backed, fun r hr => ?_⟩
  · rw [hrows, List.mem_append, List.mem_singleton] at hr
    rcases hr with hr | rfl
    · exact hs.context r hr
    · exact hsealed
  · obtain ⟨c, hc, hkey⟩ := hs.under r hr
    exact ⟨c, by rw [hrows]; exact List.mem_append_left _ hc, hkey⟩

/-- Rewriting the context of a candidate is safe once its evidence is gone. -/
theorem updateContext (hs : Bound s) {row : GateContextRow} (hsealed : s.Sealed row.taskId row.candidateSha)
    (hgone : ∀ r ∈ s.gateEvidence.rows, ¬ (r.key.taskId = row.taskId ∧ r.key.candidateSha = row.candidateSha)) :
    Bound (s.updateContext row) := by
  refine ⟨hs.candidate, fun r hr => ?_, hs.backed, fun r hr => ?_⟩
  · obtain ⟨old, hold, rfl⟩ := List.mem_map.1 hr
    unfold GateContextRow.rewritten
    split
    · exact hsealed
    · exact hs.context old hold
  · obtain ⟨c, hc, htask, hcand, hu⟩ := hs.under r hr
    refine ⟨c, List.mem_map.2 ⟨c, hc, ?_⟩, htask, hcand, hu⟩
    refine if_neg ?_
    rw [htask, hcand]
    exact hgone r hr

theorem insertGateEvidence (hs : Bound s) {key : GateEvidenceKey} {body : GateEvidenceBody}
    (hbacked : key.candidateRow ∈ s.candidateEvidence.rows)
    (hctx : ∃ c ∈ s.gateContexts.rows, c.taskId = key.taskId ∧ c.candidateSha = key.candidateSha)
    (h : s.insertGateEvidence key body = .ok s') : Bound s' := by
  simp only [Store.insertGateEvidence, bind_eq_ok, exists_unit, demand_eq_ok, pure_eq_ok] at h
  obtain ⟨-, t, ht, rfl⟩ := h
  obtain ⟨-, hrows⟩ := Table.insert?_eq_some.1 ht
  obtain ⟨c, hc, htask, hcand⟩ := hctx
  refine ⟨hs.candidate, hs.context, fun r hr => ?_, fun r hr => ?_⟩
  · rw [hrows, List.mem_append, List.mem_singleton] at hr
    rcases hr with hr | rfl
    · exact hs.backed r hr
    · exact hbacked
  · rw [hrows, List.mem_append, List.mem_singleton] at hr
    rcases hr with hr | rfl
    · exact hs.under r hr
    · refine ⟨c, hc, htask, hcand, ?_⟩
      rw [gateContext?_eq_some.2 ⟨hc, htask, hcand⟩]
      rfl

theorem markConflict (hs : Bound s) (key : GateEvidenceKey) : Bound (s.markConflict key) := by
  refine ⟨hs.candidate, hs.context, fun r hr => ?_, fun r hr => ?_⟩
  · obtain ⟨old, hold, rfl⟩ := List.mem_map.1 hr
    rw [GateEvidenceRow.conflicted_key]
    exact hs.backed old hold
  · obtain ⟨old, hold, rfl⟩ := List.mem_map.1 hr
    obtain ⟨c, hc, htask, hcand, hu⟩ := hs.under old hold
    refine ⟨c, hc, ?_, ?_, ?_⟩
    · rw [GateEvidenceRow.conflicted_key]; exact htask
    · rw [GateEvidenceRow.conflicted_key]; exact hcand
    · rw [GateEvidenceRow.conflicted_insertedUnder]; exact hu

/-! ## What each transaction keeps -/

theorem invalidate (hs : Bound s) {binding : WorktreeBinding} {lease : Option TransitionLease} {now : Int} {u : Unit}
    (h : invalidateBody binding lease now s = (.ok u, s')) : Bound s' := by
  simp only [invalidateBody, Tx.query_bind, Tx.check_bind, exists_unit, Tx.write_ok, Except.ok.injEq] at h
  obtain ⟨-, -, rfl⟩ := h
  refine (hs.deleteEvidence binding.taskId).of_seals rfl rfl rfl fun taskId candidateSha hhas hsealed => ?_
  have hne : taskId ≠ binding.taskId := by
    rintro rfl
    exact deleteEvidence_none binding.taskId hhas
  unfold Store.Sealed at hsealed ⊢
  rw [← hsealed]
  exact congrArg (Option.map _) (seal?_delete_ne _ hne)

/-- Sealing keeps the evidence only when the seal is the one already there. -/
theorem sealAs (hs : Bound s) {repositoryId : String} {lease : Option TransitionLease} {now : Int}
    {u : Unit} (h : sealBody repositoryId lease now row s = (.ok u, s')) : Bound s' := by
  simp only [sealBody, Tx.query_bind, exists_unit, Tx.write_ok, Except.ok.injEq] at h
  obtain ⟨-, rfl⟩ := h
  have hupsert : ∀ t : Store, Bound t → (∀ taskId candidateSha,
      (∃ r ∈ t.candidateEvidence.rows, r.taskId = taskId) ∨ (∃ r ∈ t.gateContexts.rows, r.taskId = taskId) →
      t.Sealed taskId candidateSha → taskId = row.taskId → candidateSha = row.candidateSha) → Bound (t.upsertSeal row) := by
    intro t ht hkeep
    refine ht.of_seals rfl rfl rfl fun taskId candidateSha hhas hsealed => ?_
    unfold Store.Sealed at hsealed ⊢
    by_cases htask : taskId = row.taskId
    · rw [hkeep taskId candidateSha hhas hsealed htask, htask]
      exact congrArg (Option.map _) (seal?_upsert_self _ row)
    · rw [← hsealed]
      exact congrArg (Option.map _) (seal?_upsert_ne _ (Ne.symm htask))
  unfold Store.deleteMoved
  split
  · refine hupsert _ (hs.deleteEvidence row.taskId) ?_
    rintro taskId candidateSha hhas - rfl
    exact absurd hhas (deleteEvidence_none row.taskId)
  · rename_i hsame
    refine hupsert s hs ?_
    rintro taskId candidateSha - hsealed rfl
    unfold Store.Sealed at hsealed
    obtain ⟨old, hold, rfl⟩ := Option.map_eq_some_iff.1 hsealed
    rw [hold] at hsame
    rw [show old = row by simpa using hsame]

theorem bind (hs : Bound s) {repositoryId : String} {lease : Option TransitionLease} {now : Int} {row : CandidateSeal}
    {fingerprint : String} {u : Unit} (h : bindBody repositoryId lease now row fingerprint s = (.ok u, s')) :
    Bound s' := by
  simp only [bindBody, Tx.query_bind, exists_unit, Tx.write_ok, Except.ok.injEq, refuse_eq_ok, not_not] at h
  obtain ⟨-, hseal, rfl⟩ := h
  refine hs.insertCandidateEvidence ?_
  unfold Store.Sealed
  rw [hseal]
  rfl

/-- After the context is settled, either the evidence of the candidate is gone or its context row is there;
the seals are untouched. -/
theorem settle (hs : Bound s) {row : GateContextRow} {graphPass moved : Bool}
    (hsealed : s.Sealed row.taskId row.candidateSha) (h : settleContext row graphPass s = (.ok moved, s')) :
    Bound s' ∧ s'.ledger = s.ledger ∧
      ∃ c ∈ s'.gateContexts.rows, c.taskId = row.taskId ∧ c.candidateSha = row.candidateSha := by
  simp only [settleContext, Tx.query_bind, Except.ok.injEq, exists_eq_left'] at h
  cases hold : s.gateContext? row.taskId row.candidateSha with
  | none =>
    simp only [hold, Tx.write_bind, Tx.pure_ok] at h
    obtain ⟨s₁, hw, -, rfl⟩ := h
    have hs₁ := hs.insertContext hsealed hw
    simp only [Store.insertContext, bind_eq_ok, demand_eq_ok, pure_eq_ok] at hw
    obtain ⟨t, ht, rfl⟩ := hw
    refine ⟨hs₁, rfl, row, ?_, rfl, rfl⟩
    rw [(Table.insert?_eq_some.1 ht).2]
    exact List.mem_append_right _ (List.mem_singleton_self row)
  | some old =>
    obtain ⟨hmem, htask, hcand⟩ := gateContext?_eq_some.1 hold
    simp only [hold] at h
    split at h
    · simp only [Tx.check_bind, Tx.write_bind, Tx.pure_ok, exists_unit, Except.ok.injEq, exists_eq_left'] at h
      obtain ⟨-, -, rfl⟩ := h
      refine ⟨(hs.clearCandidate _ _).updateContext hsealed fun r hr => ?_, rfl, row, ?_, rfl, rfl⟩
      · exact of_decide_eq_true (List.mem_filter.1 hr).2
      · exact List.mem_map.2 ⟨old, hmem, if_pos ⟨htask, hcand⟩⟩
    · split at h
      · simp at h
      · split at h
        · simp only [Tx.write_bind, Tx.pure_ok, Except.ok.injEq, exists_eq_left'] at h
          obtain ⟨-, rfl⟩ := h
          exact ⟨hs.clearCandidate _ _, rfl, old, hmem, htask, hcand⟩
        · simp only [Tx.pure_ok] at h
          obtain ⟨-, rfl⟩ := h
          exact ⟨hs, rfl, old, hmem, htask, hcand⟩

theorem store (hs : Bound s) {key : GateEvidenceKey} {body : GateEvidenceBody} {raised : Option Error}
    (hsealed : s.Sealed key.taskId key.candidateSha)
    (hctx : ∃ c ∈ s.gateContexts.rows, c.taskId = key.taskId ∧ c.candidateSha = key.candidateSha)
    (h : storeEvidence key body s = (.ok raised, s')) : Bound s' := by
  simp only [storeEvidence, Tx.write_bind, Tx.query_bind, Tx.check_bind, Except.ok.injEq, exists_eq_left'] at h
  obtain ⟨-, -, h⟩ := h
  have hs₁ : Bound (s.insertCandidateEvidence key.candidateRow) := hs.insertCandidateEvidence hsealed
  cases hold : (s.insertCandidateEvidence key.candidateRow).gateEvidence? key with
  | none =>
    simp only [GateEvidenceKey.candidateRow] at hold
    simp only [hold, Tx.write_bind, Tx.pure_ok] at h
    obtain ⟨s₁, hw, -, rfl⟩ := h
    exact hs₁.insertGateEvidence (mem_insertCandidateEvidence s _) hctx hw
  | some stored =>
    simp only [GateEvidenceKey.candidateRow] at hold
    simp only [hold] at h
    split at h
    · simp only [Tx.write_bind, Tx.pure_ok, Except.ok.injEq, exists_eq_left'] at h
      obtain ⟨-, rfl⟩ := h
      exact hs₁.markConflict key
    · simp only [Tx.pure_ok] at h
      obtain ⟨-, rfl⟩ := h
      exact hs₁

theorem record (hs : Bound s) {host : Host} {view : GitView} {binding : WorktreeBinding} {row : CandidateSeal}
    {context : GateContext} {evidence : GateEvidence} {key : GateKey} {outcome : EvidenceOutcome} {activatedAt : String}
    {lease : Option TransitionLease} {raised : Option Error} (htask : evidence.taskId = binding.taskId)
    (hcand : evidence.candidateSha = row.candidateSha)
    (h : recordBody host view binding row context evidence key outcome activatedAt lease s = (.ok raised, s')) :
    Bound s' := by
  rw [recordBody, Tx.query_bind] at h
  obtain ⟨terminal, hguard, h⟩ := h
  obtain ⟨moved, s₁, hsettle, h⟩ := Tx.bind_ok.1 h
  have hsealed : s.Sealed binding.taskId row.candidateSha := by
    simp only [requireRecordable, bind_eq_ok, exists_unit, demand_eq_ok, refuse_eq_ok, not_not] at hguard
    obtain ⟨-, -, -, -, hseal, -⟩ := hguard
    exact hseal
  obtain ⟨hs₁, hledger, hctx⟩ := hs.settle hsealed hsettle
  cases moved with
  | true =>
    simp only [if_true, Tx.pure_ok] at h
    obtain ⟨-, rfl⟩ := h
    exact hs₁
  | false =>
    simp only [Bool.false_eq_true, if_false] at h
    refine hs₁.store ?_ ?_ h
    · unfold Store.Sealed at hsealed ⊢
      rw [hledger]
      simpa only [htask, hcand] using hsealed
    · simpa only [htask, hcand] using hctx

end Bound

/-! ## Calls -/

/-- One committed transaction of the candidate and gate calls, or a change of the rest of the program, which
writes none of the four tables. -/
inductive Commit (host : Host) : Store → Store → Prop
  | invalidate {s s' : Store} (binding : WorktreeBinding) (lease : Option TransitionLease) (now : Int) {u : Unit}
      (h : invalidateBody binding lease now s = (.ok u, s')) : Commit host s s'
  | sealAs {s s' : Store} (repositoryId : String) (lease : Option TransitionLease) (now : Int) (row : CandidateSeal)
      {u : Unit} (h : sealBody repositoryId lease now row s = (.ok u, s')) : Commit host s s'
  | bind {s s' : Store} (repositoryId : String) (lease : Option TransitionLease) (now : Int) (row : CandidateSeal)
      (fingerprint : String) {u : Unit} (h : bindBody repositoryId lease now row fingerprint s = (.ok u, s')) :
      Commit host s s'
  | record {s s' : Store} (view : GitView) (binding : WorktreeBinding) (row : CandidateSeal) (context : GateContext)
      (evidence : GateEvidence) (key : GateKey) (outcome : EvidenceOutcome) (activatedAt : String)
      (lease : Option TransitionLease) {raised : Option Error}
      (htask : evidence.taskId = binding.taskId) (hcand : evidence.candidateSha = row.candidateSha)
      (h : recordBody host view binding row context evidence key outcome activatedAt lease s = (.ok raised, s')) :
      Commit host s s'
  | other (s : Store) (d : Dependency.Store) (policies : Table ReviewPolicyRow.clash) (h : d.ledger.seals = s.ledger.seals) :
      Commit host s { s with toStore := d, reviewPolicies := policies }

theorem Commit.bound {host : Host} {s s' : Store} (h : Commit host s s') (hs : Bound s) : Bound s' := by
  cases h with
  | invalidate binding lease now h => exact hs.invalidate h
  | sealAs repositoryId lease now row h => exact hs.sealAs h
  | bind repositoryId lease now row fingerprint h => exact hs.bind h
  | record view binding row context evidence key outcome activatedAt lease htask hcand h => exact hs.record htask hcand h
  | other d policies h =>
    refine hs.of_seals rfl rfl rfl fun taskId candidateSha _ hsealed => ?_
    unfold Store.Sealed Ledger.seal? at hsealed ⊢
    rw [← hsealed, ← h]

/-- A call, with everything its surroundings answer; `other` is any operation on the other tables. -/
inductive Call where
  | sealCandidate (view : GitView) (binding : WorktreeBinding) (control : GitEntrypointControl)
      (lease : Option TransitionLease)
  | invalidateCandidate (binding : WorktreeBinding) (lease : Option TransitionLease) (now : Int)
  | bindCandidateEvidence (view : GitView) (binding : WorktreeBinding) (row : CandidateSeal)
      (evidenceFingerprint : String) (lease : Option TransitionLease)
  | recordGateEvidence (view : GitView) (rows : ReviewRows) (binding : WorktreeBinding) (row : CandidateSeal)
      (context : GateContext) (evidence : GateEvidence) (policy : PolicyEvidence) (lease : Option TransitionLease)
  | other (d : Dependency.Store) (policies : Table ReviewPolicyRow.clash)

/-- The store after a call, whether it returned or raised. -/
def Call.run (host : Host) (s : Store) : Call → Store
  | .sealCandidate view binding control lease => (Gate.sealCandidate view binding control lease s).2
  | .invalidateCandidate binding lease now => (Gate.invalidateCandidate binding lease now s).2
  | .bindCandidateEvidence view binding row fingerprint lease =>
    (Gate.bindCandidateEvidence view binding row fingerprint lease s).2
  | .recordGateEvidence view rows binding row context evidence policy lease =>
    (Gate.recordGateEvidence host view rows binding row context evidence policy lease s).2
  | .other d policies =>
    { s with toStore := { d with ledger := { d.ledger with seals := s.ledger.seals } }, reviewPolicies := policies }

/-! Each call is a sequence of commits. -/

section Follows

variable {host : Host}

theorem follows_invalidateCandidate (binding : WorktreeBinding) (lease : Option TransitionLease) (now : Int) :
    Tx.Follows (Commit host) (invalidateCandidate binding lease now) :=
  .transaction fun _ _ _ h => .invalidate binding lease now h

theorem follows_rejectDrift (drifted : Bool) (binding : WorktreeBinding) (lease : Option TransitionLease) (now : Int)
    (message : String) : Tx.Follows (Commit host) (rejectDrift drifted binding lease now message) := by
  unfold rejectDrift
  split
  · exact (follows_invalidateCandidate binding lease now).bind fun _ => .check _
  · exact .pure ()

theorem follows_revalidate (view : GitView) (binding : WorktreeBinding) (lease : Option TransitionLease)
    (control : Option GitEntrypointControl) :
    Tx.Follows (Commit host) (revalidateLiveCandidateBinding view binding lease control) :=
  (Tx.Follows.query _).bind fun _ => .onError (.query _) (follows_invalidateCandidate binding lease view.invalidatedAt)

theorem follows_sealCandidate (view : GitView) (binding : WorktreeBinding) (control : GitEntrypointControl)
    (lease : Option TransitionLease) : Tx.Follows (Commit host) (sealCandidate view binding control lease) := by
  refine (Tx.Follows.check _).bind fun _ => (follows_revalidate _ _ _ _).bind fun verified => ?_
  refine (Tx.Follows.check _).bind fun dirty => (follows_rejectDrift _ _ _ _ _).bind fun _ => ?_
  refine (Tx.Follows.check _).bind fun candidate => ?_
  refine Tx.Follows.bind (.transaction fun _ _ _ h => .sealAs _ _ _ _ h) fun _ => .pure _

theorem follows_requireLiveCandidate (view : GitView) (binding : WorktreeBinding) (row : CandidateSeal)
    (lease : Option TransitionLease) : Tx.Follows (Commit host) (requireLiveCandidate view binding row lease) := by
  refine (follows_revalidate _ _ _ _).bind fun verified => (Tx.Follows.check _).bind fun _ => ?_
  refine (Tx.Follows.check _).bind fun dirty => (follows_rejectDrift _ _ _ _ _).bind fun _ => ?_
  exact (Tx.Follows.check _).bind fun head => follows_rejectDrift _ _ _ _ _

theorem follows_bindCandidateEvidence (view : GitView) (binding : WorktreeBinding) (row : CandidateSeal)
    (fingerprint : String) (lease : Option TransitionLease) :
    Tx.Follows (Commit host) (bindCandidateEvidence view binding row fingerprint lease) := by
  refine (Tx.Follows.check _).bind fun _ => (follows_requireLiveCandidate _ _ _ _).bind fun _ => ?_
  exact .transaction fun _ _ _ h => .bind _ _ _ _ _ h

theorem follows_recordGateEvidence (view : GitView) (rows : ReviewRows) (binding : WorktreeBinding)
    (row : CandidateSeal) (context : GateContext) (evidence : GateEvidence) (policy : PolicyEvidence)
    (lease : Option TransitionLease) :
    Tx.Follows (Commit host) (recordGateEvidence host view rows binding row context evidence policy lease) := by
  refine (Tx.Follows.check _).bind fun _ => (Tx.Follows.check _).bind fun _ => ?_
  refine (Tx.Follows.check _).bind fun kind => (Tx.Follows.query _).bind fun activatedAt => ?_
  refine .check_bind fun _ hmatch => ?_
  have hsame : evidence.taskId = binding.taskId ∧ evidence.candidateSha = row.candidateSha := by
    simp only [refuse_eq_ok, not_or, not_not] at hmatch
    exact ⟨hmatch.2.2.1, hmatch.2.2.2⟩
  refine (follows_bindCandidateEvidence _ _ _ _ _).bind fun _ => ?_
  refine Tx.Follows.bind (.transaction fun _ _ _ h => ?_) fun raised => .check _
  exact .record _ _ _ _ _ _ _ _ _ hsame.1 hsame.2 h

end Follows

theorem Call.commits (host : Host) (s : Store) (c : Call) : Relation.ReflTransGen (Commit host) s (c.run host s) := by
  cases c with
  | sealCandidate view binding control lease => exact follows_sealCandidate view binding control lease s
  | invalidateCandidate binding lease now => exact follows_invalidateCandidate binding lease now s
  | bindCandidateEvidence view binding row fingerprint lease =>
    exact follows_bindCandidateEvidence view binding row fingerprint lease s
  | recordGateEvidence view rows binding row context evidence policy lease =>
    exact follows_recordGateEvidence view rows binding row context evidence policy lease s
  | other d policies => exact .single (.other s _ policies rfl)

/-- Transactions of any calls of any clients, in any order: every state reached is bound. -/
theorem commits_bound {host : Host} {s s' : Store} (hr : Relation.ReflTransGen (Commit host) s s') (hs : Bound s) :
    Bound s' :=
  run_induction (fun _ _ h => h.bound) hr hs

/-! ## Evidence never outlives its candidate or its context -/

/-- After any calls on a database in which nothing was sealed: every row of the three tables carries the
candidate of the current seal of its task, so a task without a seal has none; every gate evidence row has its
candidate evidence row; and the context row of its candidate holds the values and the activation time it held
when the row was inserted. -/
theorem evidence_bound_to_candidate_and_context (host : Host) (d : Dependency.Store)
    (policies : Table ReviewPolicyRow.clash) (calls : List Call) :
    let s := calls.foldl (Call.run host) (.initial d policies)
    (∀ r ∈ s.candidateEvidence.rows, (s.ledger.seal? r.taskId).map (·.candidateSha) = some r.candidateSha) ∧
    (∀ r ∈ s.gateContexts.rows, (s.ledger.seal? r.taskId).map (·.candidateSha) = some r.candidateSha) ∧
    (∀ r ∈ s.gateEvidence.rows,
      (s.ledger.seal? r.key.taskId).map (·.candidateSha) = some r.key.candidateSha ∧
      (⟨r.key.taskId, r.key.candidateSha, r.key.evidenceFingerprint⟩ : CandidateEvidenceRow) ∈ s.candidateEvidence.rows ∧
      ∃ c, s.gateContext? r.key.taskId r.key.candidateSha = some c ∧
        r.insertedUnder = some ⟨c.values, c.policyActivatedAt⟩) := by
  intro s
  have hs : Bound s := commits_bound (run_foldl (Call.commits host) calls _) (.initial d policies)
  refine ⟨hs.candidate, hs.context, fun r hr => ⟨hs.sealed hr, hs.backed r hr, ?_⟩⟩
  obtain ⟨c, hc, htask, hcand, hu⟩ := hs.under r hr
  exact ⟨c, gateContext?_eq_some.2 ⟨hc, htask, hcand⟩, hu⟩

/-! ## A database to run the calls on -/

namespace Sample

def runtime : RuntimeBinding where
  resolvedDigest := .sha256 (.ofNat 64 1)
  workerProfileIdentity := .sha256 (.ofNat 64 2)
  supervisorProfileIdentities := [.sha256 (.ofNat 64 3)]
  reviewCompleteRounds := 0
  reviewMaxRounds := 0
  reviewMaxSupervisorAttemptsPerRound := 0
  reviewOnFinalFindings := ""
  reviewPolicyDigest := ""
  profiles := by decide
  reviewPolicy := by decide

def identity : TaskIdentity := ⟨"task", "source", "repository", "branch", "/worktree", (Hex.ofNat 40 0).text⟩
def lease : TransitionLease := ⟨"repository", "state", "owner", 3, 100⟩

def ledger : Ledger := { Ledger.initial "state" with
  tasks := ⟨[⟨identity, .diffReview, none, "/worktree"⟩], by decide⟩
  leases := ⟨[lease], by decide⟩
  runtimeBindings := ⟨[runtime.columns "task"], by simp⟩ }

def control : GitEntrypointControl := ⟨"repository", "task", identity.baseSha, true⟩
def binding : WorktreeBinding := ⟨"task", "repository", "branch", "/worktree", identity.baseSha, "state", some control⟩

/-- Git answers that the worktree is clean at a commit. -/
def view (candidate : Nat) : GitView :=
  ⟨id, .ok, .ok, .ok (), .ok false, .ok (Hex.ofNat 40 candidate).text, 50, 50, 50, 50⟩

def sealedAt (candidate : Nat) : CandidateSeal := ⟨"task", identity.baseSha, (Hex.ofNat 40 candidate).text, "state"⟩

def supervisor : String := (Digest.sha256 (.ofNat 64 3)).text

def policy : PolicyEvidence :=
  ⟨fun _ _ => some ⟨true, (Hex.ofNat 64 4).text, (Hex.ofNat 64 5).text⟩, runtime, supervisor,
    some "2026-01-01T00:00:00+00:00"⟩

def context (candidate : Nat) : GateContext :=
  ⟨"task", (Hex.ofNat 40 candidate).text, 1, true, (Hex.ofNat 64 4).text, (Hex.ofNat 64 5).text, runtime, supervisor,
    none, none, none⟩

def passed (candidate : Nat) : GateEvidence :=
  ⟨"task", (Hex.ofNat 40 candidate).text, "build", "PASS", "ci", 7, (Hex.ofNat 64 6).text, none, none, []⟩

def record (candidate : Nat) : Call :=
  .recordGateEvidence (view candidate) ⟨none, none⟩ binding (sealedAt candidate) (context candidate) (passed candidate)
    policy (some lease)

def sealAt (candidate : Nat) : Call := .sealCandidate (view candidate) binding control (some lease)

def start : Store := .initial (.initial ledger fun _ _ => .ok ()) .empty

end Sample

-- evidence is recorded for a sealed candidate, and gone once the next candidate is sealed
open Sample in
example :
    let run (calls : List Call) : Store := calls.foldl (Call.run .sample) start
    (run [sealAt 1, record 1]).gateEvidence.rows.length = 1 ∧
      (run [sealAt 1, record 1, sealAt 2]).gateEvidence.rows.length = 0 := by
  decide +kernel

end Roundwright.Gate
