/-
Conflicting gate evidence is sticky. A record that a call has turned into a conflict keeps the outcome CONFLICT while
the gate context of its candidate stays the same, and a decision over it never passes. `Disputed` says this of a
database: the row is there, bound to the sealed candidate, under the context row it was recorded under, or the task has
no seal at all.
-/
import Roundwright.Final.Decision
import Roundwright.Gate.Movement

namespace Roundwright.Final

open Lib State Gate

/-- The gate evidence `key` is in conflict under the context row `context` of its candidate. -/
structure InConflict (context : GateContextRow) (key : GateEvidenceKey) (s : Gate.Store) : Prop where
  sealed : s.Sealed key.taskId key.candidateSha
  backed : key.candidateRow ∈ s.candidateEvidence.rows
  conflict : ∃ r ∈ s.gateEvidence.rows, r.key = key ∧ r.body.outcome = .conflict
  context : s.gateContext? key.taskId key.candidateSha = some context

/-- The gate evidence is in conflict, unless the task has lost its seal. -/
def Disputed (context : GateContextRow) (key : GateEvidenceKey) (s : Gate.Store) : Prop :=
  s.ledger.seal? key.taskId = none ∨ InConflict context key s

/-! ## A disputed candidate does not pass -/

theorem InConflict.not_pass {context : GateContextRow} {key : GateEvidenceKey} {s : Gate.Store}
    (h : InConflict context key s) (seen : GateContext) : ¬ Satisfied seen key.gateKey
    (entriesOf key.gateKey (boundEvidence s key.taskId key.candidateSha)) := by
  intro hsatisfied
  obtain ⟨r, hr, hkey, hconflict⟩ := h.conflict
  have hbound : r ∈ boundRows s key.taskId key.candidateSha := by
    refine mem_sortBy.2 (List.mem_filter.2 ⟨hr, ?_⟩)
    rw [hkey]
    simp only [true_and, decide_eq_true_eq]
    exact List.any_eq_true.2 ⟨_, h.backed, by simp [GateEvidenceKey.candidateRow]⟩
  have hentry : GateEvidenceRow.evidence r ∈ entriesOf key.gateKey (boundEvidence s key.taskId key.candidateSha) := by
    refine List.mem_filter.2 ⟨List.mem_map_of_mem hbound, ?_⟩
    simp [GateEvidenceRow.evidence, hkey]
  have houtcome : (GateEvidenceRow.evidence r).outcome = EvidenceOutcome.conflict.value := by
    simp [GateEvidenceRow.evidence, hconflict]
  rcases hsatisfied.outcome with hpass | ⟨-, -, -, hna⟩
  · exact absurd ((hpass _ hentry).symm.trans houtcome) (by decide)
  · exact absurd ((hna _ hentry).1.symm.trans houtcome) (by decide)

theorem Disputed.not_pass {context : GateContextRow} {key : GateEvidenceKey} {s : Gate.Store}
    (h : Disputed context key s) {host : Host} {items : Table ReviewItemRow.clash} {identity : TaskIdentity}
    (htask : identity.taskId = key.taskId) {d : GateDecision}
    (hd : decisionFromConnection host s items identity = .ok d) : d.outcome ≠ .pass := by
  intro hpass
  cases hlease : s.ledger.leases.rows.head? with
  | none =>
    unfold decisionFromConnection at hd
    rw [hlease] at hd
    cases hseal : s.ledger.seal? identity.taskId with
    | none =>
      rw [hseal] at hd
      cases hd
      cases hpass
    | some sealed =>
      rw [hseal] at hd
      cases hd
      cases hpass
  | some lease =>
    obtain ⟨sealed, seen, hcleared⟩ := decisionFromConnection_pass hd hpass hlease
    have hseal := hcleared.candidate
    rw [htask] at hseal
    rcases h with hnone | hconflict
    · exact absurd (hnone.symm.trans hseal) (by simp)
    · have hcandidate : sealed.candidateSha = key.candidateSha := by
        have hsealed := hconflict.sealed
        unfold Gate.Store.Sealed at hsealed
        rw [hseal] at hsealed
        exact Option.some.inj hsealed
      have hgate := hcleared.gates key.gateKey
      rw [htask, hcandidate] at hgate
      exact hconflict.not_pass seen hgate

/-! ## What keeps a dispute -/

namespace Disputed

variable {context : GateContextRow} {key : GateEvidenceKey} {s s' : Gate.Store}

/-- The parts of the database a dispute is about. -/
theorem of_tables (h : Disputed context key s) (hseal : s'.ledger.seal? key.taskId = s.ledger.seal? key.taskId)
    (hbacked : s.candidateEvidence.rows ⊆ s'.candidateEvidence.rows)
    (hevidence : s.gateEvidence.rows ⊆ s'.gateEvidence.rows) (hcontext : s'.gateContexts = s.gateContexts) :
    Disputed context key s' := by
  rcases h with hnone | h
  · exact .inl (hseal.trans hnone)
  · obtain ⟨r, hr, hkey⟩ := h.conflict
    refine .inr ⟨?_, hbacked h.backed, ⟨r, hevidence hr, hkey⟩, ?_⟩
    · unfold Gate.Store.Sealed
      rw [hseal]
      exact h.sealed
    · unfold Gate.Store.gateContext?
      rw [hcontext]
      exact h.context

theorem invalidate (h : Disputed context key s) {binding : WorktreeBinding} {lease : Option TransitionLease} {now : Int}
    {u : Unit} (hrun : invalidateBody binding lease now s = (.ok u, s')) : Disputed context key s' := by
  simp only [invalidateBody, Tx.query_bind, Tx.check_bind, exists_unit, Tx.write_ok, Except.ok.injEq] at hrun
  obtain ⟨-, -, rfl⟩ := hrun
  by_cases htask : key.taskId = binding.taskId
  · left
    rw [Option.eq_none_iff_forall_ne_some]
    intro r hr
    obtain ⟨hmem, heq⟩ := seal?_eq_some.1 hr
    exact absurd (List.mem_filter.1 hmem).2 (by simp [heq, htask])
  · have hseal := seal?_delete_ne s.ledger htask
    rcases h with hnone | h
    · exact .inl (hseal.trans hnone)
    · obtain ⟨r, hr, hkey, hconflict⟩ := h.conflict
      obtain ⟨hmem, hctask, hccand⟩ := gateContext?_eq_some.1 h.context
      refine .inr ⟨?_, List.mem_filter.2 ⟨h.backed, decide_eq_true htask⟩,
        ⟨r, List.mem_filter.2 ⟨hr, by simpa [hkey] using htask⟩, hkey, hconflict⟩,
        gateContext?_eq_some.2 ⟨List.mem_filter.2 ⟨hmem, by simpa [hctask] using htask⟩, hctask, hccand⟩⟩
      have hsealed := h.sealed
      unfold Gate.Store.Sealed at hsealed ⊢
      rw [← hsealed]
      exact congrArg _ hseal

theorem insertCandidateEvidence_subset (s : Gate.Store) (row : CandidateEvidenceRow) :
    s.candidateEvidence.rows ⊆ (s.insertCandidateEvidence row).candidateEvidence.rows := by
  intro r hr
  rcases Table.insertOrIgnore_cases s.candidateEvidence row with hrows | ⟨-, hsame⟩
  · show r ∈ (s.candidateEvidence.insertOrIgnore row).rows
    rw [hrows]
    exact List.mem_append_left _ hr
  · show r ∈ (s.candidateEvidence.insertOrIgnore row).rows
    rw [hsame]
    exact hr

theorem insertCandidateEvidence (h : Disputed context key s) (row : CandidateEvidenceRow) :
    Disputed context key (s.insertCandidateEvidence row) :=
  h.of_tables rfl (insertCandidateEvidence_subset s row) (List.Subset.refl _) rfl

theorem bind (h : Disputed context key s) {repositoryId : String} {lease : Option TransitionLease} {now : Int}
    {row : CandidateSeal} {fingerprint : String} {u : Unit}
    (hrun : bindBody repositoryId lease now row fingerprint s = (.ok u, s')) :
    Disputed context key s' := by
  simp only [bindBody, Tx.query_bind, exists_unit, Tx.write_ok, Except.ok.injEq, refuse_eq_ok, not_not] at hrun
  obtain ⟨-, -, rfl⟩ := hrun
  exact h.insertCandidateEvidence _

theorem sealAs (h : Disputed context key s) {repositoryId : String} {lease : Option TransitionLease} {now : Int}
    {row : CandidateSeal} {u : Unit} (htask : row.taskId ≠ key.taskId) (hrun : sealBody repositoryId lease now row s = (.ok u, s')) :
    Disputed context key s' := by
  simp only [sealBody, Tx.query_bind, exists_unit, Tx.write_ok, Except.ok.injEq] at hrun
  obtain ⟨-, rfl⟩ := hrun
  have hupsert : ∀ t : Gate.Store, Disputed context key t → Disputed context key (t.upsertSeal row) := fun t ht =>
    ht.of_tables (seal?_upsert_ne _ htask) (List.Subset.refl _) (List.Subset.refl _) rfl
  apply hupsert
  unfold Gate.Store.deleteMoved
  split
  · rcases h with hnone | h
    · exact .inl hnone
    · obtain ⟨r, hr, hkey, hconflict⟩ := h.conflict
      obtain ⟨hmem, hctask, hccand⟩ := gateContext?_eq_some.1 h.context
      refine .inr ⟨h.sealed, List.mem_filter.2 ⟨h.backed, decide_eq_true htask.symm⟩,
        ⟨r, List.mem_filter.2 ⟨hr, by simpa [hkey] using htask.symm⟩, hkey, hconflict⟩,
        gateContext?_eq_some.2 ⟨List.mem_filter.2 ⟨hmem, by simpa [hctask] using htask.symm⟩, hctask, hccand⟩⟩
  · exact h

/-- Storing evidence appends a row, or turns a row into a conflict. -/
theorem store (h : Disputed context key s) {stored : GateEvidenceKey} {body : GateEvidenceBody} {raised : Option Error}
    (hrun : storeEvidence stored body s = (.ok raised, s')) : Disputed context key s' := by
  have hbound := h.insertCandidateEvidence stored.candidateRow
  rcases storeEvidence_ok hrun with ⟨-, hinsert⟩ | ⟨-, rfl⟩ | ⟨-, -, rfl⟩
  · simp only [Gate.Store.insertGateEvidence, bind_eq_ok, exists_unit, demand_eq_ok, pure_eq_ok] at hinsert
    obtain ⟨-, t, ht, rfl⟩ := hinsert
    refine hbound.of_tables rfl (List.Subset.refl _) ?_ rfl
    show _ ⊆ t.rows
    rw [(Table.insert?_eq_some.1 ht).2]
    exact List.subset_append_left _ _
  · exact hbound
  · rcases hbound with hnone | hbound
    · exact .inl hnone
    · obtain ⟨r, hr, hkey, hconflict⟩ := hbound.conflict
      refine .inr ⟨hbound.sealed, hbound.backed, ⟨r.conflicted stored, List.mem_map_of_mem hr, ?_, ?_⟩, hbound.context⟩
      · rw [GateEvidenceRow.conflicted_key]
        exact hkey
      · unfold GateEvidenceRow.conflicted
        split
        · rfl
        · exact hconflict

/-- Settling the context of another candidate touches nothing of this one. -/
theorem settle_other (h : Disputed context key s) {row : GateContextRow} {graphPass moved : Bool}
    (hother : ¬ (row.taskId = key.taskId ∧ row.candidateSha = key.candidateSha))
    (hrun : settleContext row graphPass s = (.ok moved, s')) : Disputed context key s' := by
  have hcleared : Disputed context key (s.clearCandidate row.taskId row.candidateSha) := by
    rcases h with hnone | h
    · exact .inl hnone
    · obtain ⟨r, hr, hkey, hconflict⟩ := h.conflict
      have hne : ¬ (key.taskId = row.taskId ∧ key.candidateSha = row.candidateSha) := fun heq => hother ⟨heq.1.symm, heq.2.symm⟩
      exact .inr ⟨h.sealed, List.mem_filter.2 ⟨h.backed, decide_eq_true hne⟩,
        ⟨r, List.mem_filter.2 ⟨hr, decide_eq_true (by rw [hkey]; exact hne)⟩, hkey, hconflict⟩, h.context⟩
  have hcontext : ∀ t : Gate.Store, Disputed context key t → ∀ contexts : Table GateContextRow.clash,
      (∀ c ∈ t.gateContexts.rows, ¬ (c.taskId = row.taskId ∧ c.candidateSha = row.candidateSha) → c ∈ contexts.rows) →
      Disputed context key { t with gateContexts := contexts } := by
    intro t ht contexts hkept
    rcases ht with hnone | ht
    · exact .inl hnone
    · obtain ⟨hmem, hctask, hccand⟩ := gateContext?_eq_some.1 ht.context
      refine .inr ⟨ht.sealed, ht.backed, ht.conflict, gateContext?_eq_some.2 ⟨hkept context hmem ?_, hctask, hccand⟩⟩
      rw [hctask, hccand]
      exact fun heq => hother ⟨heq.1.symm, heq.2.symm⟩
  rcases settleContext_ok hrun with ⟨-, -, hinsert⟩ | ⟨old, -, -, -, rfl⟩ | ⟨-, -, -, -, -, rfl⟩ | ⟨-, -, rfl⟩
  · simp only [Gate.Store.insertContext, bind_eq_ok, demand_eq_ok, pure_eq_ok] at hinsert
    obtain ⟨t, ht, rfl⟩ := hinsert
    refine hcontext s h t fun c hc _ => ?_
    rw [(Table.insert?_eq_some.1 ht).2]
    exact List.mem_append_left _ hc
  · refine hcontext _ hcleared _ fun c hc hne => ?_
    exact List.mem_map.2 ⟨c, hc, if_neg hne⟩
  · exact hcleared
  · exact h

/-- Under the context of the dispute and the terminal review it names, settling finds the row that is there. -/
theorem settle_same (h : InConflict context key s) {row : GateContextRow} {graphPass moved : Bool}
    (htask : row.taskId = key.taskId) (hcandidate : row.candidateSha = key.candidateSha)
    (hvalues : row.values = context.values)
    (hterminal : row.terminalDependencyBinding = context.terminalDependencyBinding)
    (hrun : settleContext row graphPass s = (.ok moved, s')) : s' = s := by
  have hold : s.gateContext? row.taskId row.candidateSha = some context := by
    rw [htask, hcandidate]
    exact h.context
  rcases settleContext_ok hrun with ⟨hnone, -, -⟩ | ⟨old, hrow, hne, -, -⟩ | ⟨old, hrow, -, hne, -, -⟩ | ⟨-, -, rfl⟩
  · exact absurd (hnone.symm.trans hold) (by simp)
  · obtain rfl := Option.some.inj (hrow.symm.trans hold)
    exact absurd hvalues.symm hne
  · obtain rfl := Option.some.inj (hrow.symm.trans hold)
    exact absurd hterminal.symm hne
  · rfl

/-- The terminal review of the task has not moved away from the one of the context. -/
def Steady (host : Host) (context : GateContextRow) (s : Gate.Store) : Prop :=
  ∀ terminal count, terminalDependencyBinding host s.toStore context.taskId = .ok (terminal, count) →
    terminal = context.terminalDependencyBinding

/-- A recording transaction under the context of the dispute keeps it. -/
theorem record (h : Disputed context key s) {host : Host} {c : RecordCall} {gate : GateKey} {outcome : EvidenceOutcome}
    {activatedAt : String} {raised : Option Error} (hkey : context.taskId = key.taskId)
    (hvalues : c.binding.taskId = key.taskId → c.row.candidateSha = key.candidateSha →
    c.context.values = context.values) (hsteady : Steady host context s)
    (hrun : recordBody host c.view c.binding c.row c.context c.evidence gate outcome activatedAt c.lease s = (.ok raised, s')) :
    Disputed context key s' := by
  obtain ⟨terminal, count, graphPass, hsealed, hterminal, hcase⟩ := recordBody_ok hrun
  have hsettled : ∀ moved s₁, settleContext (contextRow c.context activatedAt c.binding c.row terminal) graphPass s =
    (.ok moved, s₁) →
      Disputed context key s₁ := by
    intro moved s₁ hsettle
    by_cases hsame : c.binding.taskId = key.taskId ∧ c.row.candidateSha = key.candidateSha
    · rcases h with hnone | hconflict
      · unfold Gate.Store.Sealed at hsealed
        rw [hsame.1, hnone] at hsealed
        cases hsealed
      · have hreview : terminal = context.terminalDependencyBinding := by
          refine hsteady terminal count ?_
          rw [hkey, ← hsame.1]
          exact hterminal
        obtain rfl := settle_same hconflict hsame.1 hsame.2 (hvalues hsame.1 hsame.2) hreview hsettle
        exact .inr hconflict
    · exact h.settle_other hsame hsettle
  rcases hcase with ⟨hsettle, -⟩ | ⟨s₁, hsettle, hstore⟩
  · exact hsettled true s' hsettle
  · exact (hsettled false s₁ hsettle).store hstore

end Disputed

/-! ## Calls under one context -/

/-- A call that seals no candidate of the task, and records for the candidate under the given context values only. -/
def InContext (taskId candidateSha : String) (values : ContextValues) : Call → Prop
  | .sealCandidate _ binding _ _ => binding.taskId ≠ taskId
  | .recordGateEvidence _ _ binding row context _ _ _ =>
    binding.taskId = taskId → row.candidateSha = candidateSha → context.values = values
  | _ => True

theorem revalidateLiveCandidateBinding_taskId {view : GitView} {binding verified : WorktreeBinding}
    {lease : Option TransitionLease} {control : Option GitEntrypointControl} {s s' : Gate.Store}
    (h : revalidateLiveCandidateBinding view binding lease control s = (.ok verified, s')) : verified.taskId = binding.taskId := by
  unfold revalidateLiveCandidateBinding at h
  obtain ⟨active, -, hlive⟩ := Tx.query_bind.1 h
  obtain ⟨hverified, -⟩ := Tx.query_ok.1 (onError_ok hlive)
  simp only [revalidateWorktree, bind_eq_ok, exists_unit, pure_eq_ok] at hverified
  obtain ⟨-, worktree, -, -, stateIdentity, -, -, -, rfl⟩ := hverified
  rfl

namespace Disputed

variable {context : GateContextRow} {key : GateEvidenceKey} {s s' : Gate.Store} {host : Host}

/-- Each commit keeps the dispute. -/
def Keeps (context : GateContextRow) (key : GateEvidenceKey) (a b : Gate.Store) : Prop :=
  Disputed context key a → Disputed context key b

theorem of_follows {α : Type} {x : Tx Error Gate.Store α} (hx : Tx.Follows (Keeps context key) x) (h : Disputed context key s) :
    Disputed context key (x s).2 :=
  run_induction (fun _ _ hstep => hstep) (hx s) h

theorem follows_invalidate (binding : WorktreeBinding) (lease : Option TransitionLease) (now : Int) :
    Tx.Follows (Keeps context key) (invalidateCandidate binding lease now) :=
  .transaction fun _ _ _ hrun h => h.invalidate hrun

theorem follows_bind (view : GitView) (binding : WorktreeBinding) (row : CandidateSeal) (fingerprint : String)
    (lease : Option TransitionLease) :
    Tx.Follows (Keeps context key) (bindCandidateEvidence view binding row fingerprint lease) :=
  Gate.follows_bind (fun _ _ _ _ _ hrun h => h.invalidate hrun) (fun _ _ _ _ _ _ _ hrun h => h.bind hrun) view binding
    row fingerprint lease

theorem follows_seal (view : GitView) (binding : WorktreeBinding) (control : GitEntrypointControl)
    (lease : Option TransitionLease) (htask : binding.taskId ≠ key.taskId) : Tx.Follows (Keeps context key)
    (sealCandidate view binding control lease) := by
  have hrevalidate : Tx.Follows (Keeps context key) (revalidateLiveCandidateBinding view binding lease (some control)) :=
    (Tx.Follows.query _).bind fun _ => .onError (.query _) (follows_invalidate _ _ _)
  have hdrift : ∀ drifted verified, Tx.Follows (Keeps context key)
      (rejectDrift drifted verified lease view.invalidatedAt "candidate worktree is dirty") := by
    intro drifted verified
    unfold rejectDrift
    split
    · exact (follows_invalidate _ _ _).bind fun _ => .check _
    · exact .pure ()
  refine (Tx.Follows.check _).bind fun _ => Tx.Follows.bind_ok hrevalidate fun verified a b hverified => ?_
  have hverified := revalidateLiveCandidateBinding_taskId hverified
  refine ((Tx.Follows.check _).bind fun dirty => (hdrift dirty verified).bind fun _ => (Tx.Follows.check _).bind fun candidate =>
    Tx.Follows.bind (.transaction fun _ _ _ hrun h => h.sealAs ?_ hrun) fun _ => .pure _) b
  show verified.taskId ≠ key.taskId
  rw [hverified]
  exact htask

theorem record_call (h : Disputed context key s) (c : RecordCall) (hkey : context.taskId = key.taskId)
    (hvalues : c.binding.taskId = key.taskId → c.row.candidateSha = key.candidateSha →
    c.context.values = context.values) (hsteady : Steady host context s) : Disputed context key (c.run host s).2 := by
  by_cases hadmitted : ∃ gate outcome activatedAt, c.Admitted host s gate outcome activatedAt
  · obtain ⟨gate, outcome, activatedAt, hadmitted⟩ := hadmitted
    rw [hadmitted.run]
    have hbound := h.of_follows (follows_bind c.view c.binding c.row c.evidence.evidenceFingerprint c.lease)
    unfold RecordCall.commit
    rcases hbind : bindCandidateEvidence c.view c.binding c.row c.evidence.evidenceFingerprint c.lease s with ⟨e | u, s₁⟩
    · rw [hbind] at hbound
      simp only [Bind.bind, hbind]
      exact hbound
    · rw [hbind] at hbound
      -- the bind has written no table the terminal review is read from
      have hsteady₁ : Steady host context s₁ := by
        obtain ⟨-, rfl⟩ := bindCandidateEvidence_ok hbind
        exact hsteady
      rcases transaction_cases (recordBody host c.view c.binding c.row c.context c.evidence gate outcome activatedAt
        c.lease) s₁ with ⟨raised, s₂, hbody, hrun⟩ | ⟨e, -, hrun⟩
      · simp only [Bind.bind, hbind, hrun, Tx.check]
        exact hbound.record hkey hvalues hsteady₁ hbody
      · simp only [Bind.bind, hbind, hrun]
        exact hbound
  · simp only [not_exists] at hadmitted
    obtain ⟨e, hrun⟩ := RecordCall.run_of_not_admitted hadmitted
    rw [hrun]
    exact h

theorem call (h : Disputed context key s) (hkey : context.taskId = key.taskId) {c : Call}
    (hc : InContext key.taskId key.candidateSha context.values c) (hsteady : Steady host context s) :
    Disputed context key (c.run host s) := by
  cases c with
  | sealCandidate view binding control lease => exact h.of_follows (follows_seal view binding control lease hc)
  | invalidateCandidate binding lease now => exact h.of_follows (follows_invalidate binding lease now)
  | bindCandidateEvidence view binding row fingerprint lease => exact h.of_follows (follows_bind view binding row fingerprint lease)
  | recordGateEvidence view rows binding row context evidence policy lease =>
    exact h.record_call ⟨view, rows, binding, row, context, evidence, policy, lease⟩ hkey hc hsteady
  | other d policies => exact h.of_tables rfl (List.Subset.refl _) (List.Subset.refl _) rfl

/-- A call that answers a conflict leaves its record in dispute, under the context it recorded under and the terminal
review it read. -/
theorem of_answer {c : RecordCall} (h : c.Answers host s s' (.gate "conflicting gate evidence was recorded")) :
    ∃ context key, context.taskId = c.binding.taskId ∧ key.taskId = c.binding.taskId ∧ key.candidateSha = c.row.candidateSha ∧
      context.values = c.context.values ∧ Disputed context key s' ∧
      ∃ count, terminalDependencyBinding host s'.toStore c.binding.taskId = .ok (context.terminalDependencyBinding, count) := by
  obtain ⟨gate, outcome, activatedAt, s₁, hadmitted, -, hbody⟩ := h
  obtain ⟨terminal, count, graphPass, hsealed, hterminal, hcase⟩ := recordBody_ok hbody
  rcases hcase with ⟨-, hno⟩ | ⟨s₂, hsettle, hstore⟩
  · simp at hno
  · have hrow := settleContext_row hsettle
    have htables := settleContext_toStore hsettle
    rcases storeEvidence_ok hstore with ⟨hno, -⟩ | ⟨hno, -⟩ | ⟨-, ⟨stored, hfound⟩, rfl⟩
    · cases hno
    · cases hno
    · refine ⟨contextRow c.context activatedAt c.binding c.row terminal, c.key gate, rfl, hadmitted.task.2,
        hadmitted.candidate.2, rfl, .inr ?_, count, ?_⟩
      · unfold Gate.Store.gateEvidence? at hfound
        obtain ⟨r, hr, -⟩ := Option.map_eq_some_iff.1 hfound
        have hkey : r.key = c.key gate := by simpa using List.find?_some hr
        refine ⟨?_, Bound.mem_insertCandidateEvidence s₂ _,
          ⟨r.conflicted (c.key gate), List.mem_map_of_mem (List.mem_of_find?_eq_some hr), ?_, ?_⟩, ?_⟩
        · show s₂.Sealed c.evidence.taskId c.evidence.candidateSha
          rw [hadmitted.task.2, hadmitted.candidate.2]
          unfold Gate.Store.Sealed at hsealed ⊢
          rw [htables]
          exact hsealed
        · rw [GateEvidenceRow.conflicted_key]
          exact hkey
        · unfold GateEvidenceRow.conflicted
          rw [if_pos hkey]
        · show s₂.gateContext? c.evidence.taskId c.evidence.candidateSha = _
          rw [hadmitted.task.2, hadmitted.candidate.2]
          exact hrow
      · show terminalDependencyBinding host s₂.toStore c.binding.taskId = _
        rw [htables]
        exact hterminal

end Disputed

/-! ## Conflicts are sticky -/

/-- One call of a run that stays under the context of `c`, as it was when `start` was reached: records for the candidate
present the same context values, no candidate of the task is sealed, and the terminal dependency review of the task has
not moved. -/
def SameContext (host : Host) (c : RecordCall) (start s s' : Gate.Store) : Prop :=
  ∃ call : Call, InContext c.binding.taskId c.row.candidateSha c.context.values call ∧
    (∀ now before, terminalDependencyBinding host s.toStore c.binding.taskId = .ok now →
      terminalDependencyBinding host start.toStore c.binding.taskId = .ok before → now.1 = before.1) ∧
    s' = call.run host s

/-- Once a record has been answered with a conflict, no run of calls under the same gate context, with any evidence in
any order, reaches a database whose persisted decision for the task is PASS, until a candidate of the task is sealed
again. -/
theorem conflicting_evidence_is_sticky (host : Host) (c : RecordCall) (s start s' : Gate.Store)
    (hanswer : c.Answers host s start (.gate "conflicting gate evidence was recorded"))
    (hrun : Relation.ReflTransGen (SameContext host c start) start s') (items : Table ReviewItemRow.clash)
    (identity : TaskIdentity) (htask : identity.taskId = c.binding.taskId) (d : GateDecision)
    (hd : decisionFromConnection host s' items identity = .ok d) :
    d.outcome ≠ .pass := by
  obtain ⟨context, key, hcontext, hkey, hcandidate, hvalues, hdisputed, count, hterminal⟩ := Disputed.of_answer hanswer
  have hdisputed' : Disputed context key s' := by
    refine run_induction (fun a b hstep ha => ?_) hrun hdisputed
    obtain ⟨call, hin, hreview, rfl⟩ := hstep
    rw [← hkey, ← hcandidate, ← hvalues] at hin
    refine ha.call (hcontext.trans hkey.symm) hin fun terminal n hn => ?_
    rw [hcontext] at hn
    exact hreview _ _ hn hterminal
  exact hdisputed'.not_pass (htask.trans hkey.symm) hd

namespace Sample

open Gate.Sample

/-- A PASS of the build that was evaluated at the given time. -/
def recordedAt (time : Int) : RecordCall :=
  ⟨view 1, ⟨none, none⟩, binding, sealedAt 1, context 1, { passed 1 with evaluatedAt := time }, policy, some lease⟩

/-- A sealed candidate with one record. -/
def recorded : Gate.Store := ((recordedAt 7).run .sample ([sealAt 1].foldl (Call.run .sample) start)).2

/-- The same record with another time is a conflict. -/
def disputed : Gate.Store := ((recordedAt 8).run .sample recorded).2

theorem recordedAt_answers :
    (recordedAt 8).Answers .sample recorded disputed (.gate "conflicting gate evidence was recorded") :=
  @RecordCall.answers_of (recordedAt 8) .sample recorded .build .pass "2026-01-01T00:00:00+00:00" _ (by decide +kernel)

/-- The first version is recorded again. -/
def replayed : Gate.Store := ((recordedAt 7).run .sample disputed).2

end Sample

open Sample in
theorem conflicting_evidence_is_sticky_replayed :
    (decisionFromConnection .sample replayed .empty Gate.Sample.identity).toOption.map (·.outcome) ≠ some .pass := by
  intro hpass
  obtain ⟨d, hd, houtcome⟩ := Option.map_eq_some_iff.1 hpass
  have hstep : SameContext .sample (recordedAt 8) disputed disputed replayed := by
    refine ⟨.recordGateEvidence (recordedAt 7).view (recordedAt 7).rows (recordedAt 7).binding
      (recordedAt 7).row (recordedAt 7).context (recordedAt 7).evidence (recordedAt 7).policy
      (recordedAt 7).lease, fun _ _ => rfl, fun now before hnow hbefore => ?_, rfl⟩
    exact congrArg Prod.fst (Except.ok.inj (hnow.symm.trans hbefore))
  refine conflicting_evidence_is_sticky .sample (recordedAt 8) recorded disputed replayed
    recordedAt_answers (.single hstep) .empty Gate.Sample.identity rfl d ?_ houtcome
  cases hdecision : decisionFromConnection .sample replayed .empty Gate.Sample.identity with
  | error e =>
    rw [hdecision] at hd
    cases hd
  | ok d' =>
    rw [hdecision] at hd
    cases hd
    rfl

end Roundwright.Final
