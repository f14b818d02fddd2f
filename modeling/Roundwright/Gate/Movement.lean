/-
A conflict and a moved terminal review, followed over later calls. Both outcomes of the recording transaction are
committed before they are raised: the conflict overwrites its row and stays, whatever is recorded under the same context
afterwards; the move clears the evidence of the candidate and leaves the context row as it was, so the next call under
the same context finds the review moved again.
-/
import Roundwright.Dependency.Invariant
import Roundwright.Gate.Invariant

namespace Roundwright.Gate

open Lib State

/-! ## What a bind that returns has done -/

variable {s s' : Store}

theorem onError_ok {α : Type} {x : Tx Error Store α} {caught : Error → Bool} {handler : Tx Error Store Unit} {a : α}
    (h : x.onError caught handler s = (.ok a, s')) : x s = (.ok a, s') := by
  unfold Tx.onError at h
  rcases hx : x s with ⟨e | b, s₁⟩ <;> rw [hx] at h
  · dsimp only at h
    split at h
    · simp only [Tx.bind_ok, Tx.check_ok, reduceCtorEq, false_and, and_false, exists_false] at h
    · cases h
  · exact h

theorem rejectDrift_ok {drifted : Bool} {binding : WorktreeBinding} {lease : Option TransitionLease} {now : Int}
    {message : String} {u : Unit} (h : rejectDrift drifted binding lease now message s = (.ok u, s')) : s' = s := by
  unfold rejectDrift at h
  split at h
  · simp only [Tx.bind_ok, Tx.check_ok, reduceCtorEq, false_and, and_false, exists_false] at h
  · exact (Tx.pure_ok.1 h).2.symm

theorem requireLiveCandidate_ok {view : GitView} {binding : WorktreeBinding} {row : CandidateSeal}
    {lease : Option TransitionLease} {u : Unit} (h : requireLiveCandidate view binding row lease s = (.ok u, s')) : s' = s := by
  unfold requireLiveCandidate revalidateLiveCandidateBinding at h
  obtain ⟨verified, s₁, hlive, hrest⟩ := Tx.bind_ok.1 h
  obtain ⟨active, -, hlive⟩ := Tx.query_bind.1 hlive
  obtain ⟨-, rfl⟩ := Tx.query_ok.1 (onError_ok hlive)
  obtain ⟨_, -, hrest⟩ := Tx.check_bind.1 hrest
  obtain ⟨dirty, -, hrest⟩ := Tx.check_bind.1 hrest
  obtain ⟨_, s₂, hdirty, hrest⟩ := Tx.bind_ok.1 hrest
  obtain ⟨head, -, hhead⟩ := Tx.check_bind.1 hrest
  exact (rejectDrift_ok hhead).trans (rejectDrift_ok hdirty)

/-- A bind that returns has added the fingerprint under the current seal, and nothing else. -/
theorem bindCandidateEvidence_ok {view : GitView} {binding : WorktreeBinding} {row : CandidateSeal}
    {fingerprint : String} {lease : Option TransitionLease} {u : Unit}
    (h : bindCandidateEvidence view binding row fingerprint lease s = (.ok u, s')) :
    s.ledger.seal? row.taskId = some row ∧
      s' = s.insertCandidateEvidence ⟨row.taskId, row.candidateSha, fingerprint⟩ := by
  unfold bindCandidateEvidence at h
  obtain ⟨_, -, hrest⟩ := Tx.check_bind.1 h
  obtain ⟨_, s₁, hlive, hcommit⟩ := Tx.bind_ok.1 hrest
  have hsame := requireLiveCandidate_ok hlive
  have hbody := transaction_ok.1 hcommit
  rw [hsame] at hbody
  simp only [bindBody, Tx.query_bind, exists_unit, Tx.write_ok, Except.ok.injEq, refuse_eq_ok, not_not] at hbody
  obtain ⟨-, hseal, rfl⟩ := hbody
  exact ⟨hseal, rfl⟩

/-- Binding is made of invalidations and of the bind transaction; a step relation that holds of both holds along it. -/
theorem follows_bind {step : Store → Store → Prop} (hinvalidate : ∀ (binding : WorktreeBinding) (lease : Option TransitionLease)
      (now : Int) (s s' : Store), invalidateBody binding lease now s = (.ok (), s') → step s s')
    (hbind : ∀ (repositoryId : String) (lease : Option TransitionLease) (now : Int) (row : CandidateSeal) (fingerprint : String)
      (s s' : Store), bindBody repositoryId lease now row fingerprint s = (.ok (), s') → step s s')
    (view : GitView) (binding : WorktreeBinding) (row : CandidateSeal) (fingerprint : String) (lease : Option TransitionLease) :
    Tx.Follows step (bindCandidateEvidence view binding row fingerprint lease) := by
  have hinvalid : ∀ binding now, Tx.Follows step (invalidateCandidate binding lease now) :=
    fun binding now => .transaction fun s _ s' h => hinvalidate binding lease now s s' h
  have hdrift : ∀ drifted binding now message, Tx.Follows step (rejectDrift drifted binding lease now message) := by
    intro drifted binding now message
    unfold rejectDrift
    split
    · exact (hinvalid binding now).bind fun _ => .check _
    · exact .pure ()
  refine (Tx.Follows.check _).bind fun _ => Tx.Follows.bind ?_ fun _ => .transaction fun s _ s' h => hbind _ _ _ _ _ s s' h
  refine Tx.Follows.bind ((Tx.Follows.query _).bind fun _ => .onError (.query _) (hinvalid _ _)) fun verified => ?_
  refine (Tx.Follows.check _).bind fun _ => (Tx.Follows.check _).bind fun _ => (hdrift _ _ _ _).bind fun _ => ?_
  exact (Tx.Follows.check _).bind fun _ => hdrift _ _ _ _

/-! ## The answers of the recording transaction -/

/-- The arguments of a `record_gate_evidence` call, with what its surroundings answer. -/
structure RecordCall where
  view : GitView
  rows : ReviewRows
  binding : WorktreeBinding
  row : CandidateSeal
  context : GateContext
  evidence : GateEvidence
  policy : PolicyEvidence
  lease : Option TransitionLease

namespace RecordCall

variable (c : RecordCall)

def run (host : Host) : Tx Error Store Unit :=
  recordGateEvidence host c.view c.rows c.binding c.row c.context c.evidence c.policy c.lease

def key (gate : GateKey) : GateEvidenceKey :=
  ⟨c.evidence.taskId, c.evidence.candidateSha, gate, c.evidence.evaluatorId, c.evidence.evidenceFingerprint⟩

def body (outcome : EvidenceOutcome) : GateEvidenceBody :=
  ⟨outcome, c.evidence.evaluatedAt, c.evidence.changedBoundary, c.evidence.reason, c.evidence.followUps⟩

/-- The checks that read no seal pass: the key and the outcome of the evidence, and the activation of the policy. -/
structure Admitted (host : Host) (s : Store) (gate : GateKey) (outcome : EvidenceOutcome) (activatedAt : String) : Prop where
  context : validateContext c.context = .ok ()
  reviewLimit : validReviewLimitFinalization c.rows c.row.candidateSha c.context.runtimeBinding
    c.context.reviewLimitFinalization = true
  evidence : validateEvidence c.evidence = .ok (gate, outcome)
  policy : currentTrustedPolicyActivation host c.view s c.binding c.context c.policy = some activatedAt
  task : c.context.taskId = c.binding.taskId ∧ c.evidence.taskId = c.binding.taskId
  candidate : c.context.candidateSha = c.row.candidateSha ∧ c.evidence.candidateSha = c.row.candidateSha

/-- What a call runs once it is admitted. -/
def commit (host : Host) (gate : GateKey) (outcome : EvidenceOutcome) (activatedAt : String) : Tx Error Store Unit := do
  bindCandidateEvidence c.view c.binding c.row c.evidence.evidenceFingerprint c.lease
  let raised ← transaction (recordBody host c.view c.binding c.row c.context c.evidence gate outcome activatedAt c.lease)
  Tx.check (raiseAfter raised)

variable {c} {host : Host} {s : Store}

theorem Admitted.run {gate : GateKey} {outcome : EvidenceOutcome} {activatedAt : String}
    (h : c.Admitted host s gate outcome activatedAt) : c.run host s = c.commit host gate outcome activatedAt s := by
  have hmatch : ¬ (c.context.taskId ≠ c.binding.taskId ∨ c.context.candidateSha ≠ c.row.candidateSha ∨
      c.evidence.taskId ≠ c.binding.taskId ∨ c.evidence.candidateSha ≠ c.row.candidateSha) := by
    simp only [not_or, not_not]
    exact ⟨h.task.1, h.candidate.1, h.task.2, h.candidate.2⟩
  simp only [RecordCall.run, recordGateEvidence, commit, bind, Tx.check, Tx.query, h.context, h.evidence, h.policy,
    h.reviewLimit, refuse, Bool.true_eq_false, if_false, demand, if_neg hmatch]

theorem run_of_not_admitted (h : ∀ gate outcome activatedAt, ¬ c.Admitted host s gate outcome activatedAt) :
    ∃ e, c.run host s = (.error e, s) := by
  unfold RecordCall.run recordGateEvidence
  simp only [bind, Tx.check, Tx.query]
  rcases hcontext : validateContext c.context with e | u
  · exact ⟨e, rfl⟩
  rcases hlimit : refuse (validReviewLimitFinalization c.rows c.row.candidateSha c.context.runtimeBinding
      c.context.reviewLimitFinalization = false) (Error.gate "review-limit finalization receipt is unavailable or stale") with e | u
  · exact ⟨e, rfl⟩
  rcases hevidence : validateEvidence c.evidence with e | ⟨gate, outcome⟩
  · exact ⟨e, rfl⟩
  rcases hpolicy : demand (currentTrustedPolicyActivation host c.view s c.binding c.context c.policy)
      (Error.gate "gate context does not match current trusted policy evidence") with e | activatedAt
  · exact ⟨e, by simp only [hpolicy]⟩
  rcases hmatch : refuse (c.context.taskId ≠ c.binding.taskId ∨ c.context.candidateSha ≠ c.row.candidateSha ∨
      c.evidence.taskId ≠ c.binding.taskId ∨ c.evidence.candidateSha ≠ c.row.candidateSha)
      (Error.gate "gate evidence does not match the active task candidate") with e | u
  · exact ⟨e, by simp only [hpolicy]⟩
  simp only [refuse_eq_ok, not_or, not_not, Bool.not_eq_false, demand_eq_ok] at hlimit hpolicy hmatch
  exact absurd ⟨hcontext, hlimit, hevidence, hpolicy, ⟨hmatch.1, hmatch.2.2.1⟩, hmatch.2.1, hmatch.2.2.2⟩
    (h gate outcome activatedAt)

/-- The call is admitted, binds the fingerprint, and its second transaction commits `s'` and leaves `e` to raise. -/
def Answers (c : RecordCall) (host : Host) (s s' : Store) (e : Error) : Prop :=
  ∃ gate outcome activatedAt s₁, c.Admitted host s gate outcome activatedAt ∧
    bindCandidateEvidence c.view c.binding c.row c.evidence.evidenceFingerprint c.lease s = (.ok (), s₁) ∧
    recordBody host c.view c.binding c.row c.context c.evidence gate outcome activatedAt c.lease s₁ = (.ok (some e), s')

theorem Answers.run {s' : Store} {e : Error} (h : c.Answers host s s' e) : c.run host s = (.error e, s') := by
  obtain ⟨gate, outcome, activatedAt, s₁, hadmitted, hbind, hbody⟩ := h
  rw [hadmitted.run]
  simp only [commit, bind, hbind, transaction, hbody, raiseAfter, Tx.check]

/-- An admitted call whose bind returns and whose recording transaction leaves an error to raise. -/
theorem Admitted.answers {gate : GateKey} {outcome : EvidenceOutcome} {activatedAt : String} {e : Error}
    (h : c.Admitted host s gate outcome activatedAt)
    (hbind : (bindCandidateEvidence c.view c.binding c.row c.evidence.evidenceFingerprint c.lease s).1 = .ok ())
    (hbody : (recordBody host c.view c.binding c.row c.context c.evidence gate outcome activatedAt c.lease
      (bindCandidateEvidence c.view c.binding c.row c.evidence.evidenceFingerprint c.lease s).2).1 = .ok (some e)) :
    c.Answers host s (c.run host s).2 e := by
  have hanswer : c.Answers host s
      (recordBody host c.view c.binding c.row c.context c.evidence gate outcome activatedAt c.lease
        (bindCandidateEvidence c.view c.binding c.row c.evidence.evidenceFingerprint c.lease s).2).2 e :=
    ⟨gate, outcome, activatedAt, _, h, Prod.ext hbind rfl, Prod.ext hbody rfl⟩
  rw [hanswer.run]
  exact hanswer

/-- The same from one conjunction, which a run evaluates at once. -/
theorem answers_of {gate : GateKey} {outcome : EvidenceOutcome} {activatedAt : String} {e : Error}
    (h : (validateContext c.context = .ok () ∧
        validReviewLimitFinalization c.rows c.row.candidateSha c.context.runtimeBinding c.context.reviewLimitFinalization = true ∧
        validateEvidence c.evidence = .ok (gate, outcome) ∧
        currentTrustedPolicyActivation host c.view s c.binding c.context c.policy = some activatedAt) ∧
      ((c.context.taskId = c.binding.taskId ∧ c.evidence.taskId = c.binding.taskId) ∧
        c.context.candidateSha = c.row.candidateSha ∧ c.evidence.candidateSha = c.row.candidateSha) ∧
      (bindCandidateEvidence c.view c.binding c.row c.evidence.evidenceFingerprint c.lease s).1 = .ok () ∧
      (recordBody host c.view c.binding c.row c.context c.evidence gate outcome activatedAt c.lease
        (bindCandidateEvidence c.view c.binding c.row c.evidence.evidenceFingerprint c.lease s).2).1 = .ok (some e)) :
    c.Answers host s (c.run host s).2 e := by
  obtain ⟨⟨hcontext, hlimit, hevidence, hpolicy⟩, ⟨htask, hcandidate⟩, hbind, hbody⟩ := h
  exact Admitted.answers ⟨hcontext, hlimit, hevidence, hpolicy, htask, hcandidate⟩ hbind hbody

end RecordCall

/-! ## What settling a context does -/

/-- The four ways a context is settled: it is new, it replaces other values and clears the evidence, its terminal review
has moved, or it is the row that is there. -/
theorem settleContext_ok {row : GateContextRow} {graphPass moved : Bool} (h : settleContext row graphPass s = (.ok moved, s')) :
    (s.gateContext? row.taskId row.candidateSha = none ∧ moved = false ∧ s.insertContext row = .ok s') ∨
    (∃ old, s.gateContext? row.taskId row.candidateSha = some old ∧ old.values ≠ row.values ∧ moved = false ∧
      s' = (s.clearCandidate row.taskId row.candidateSha).updateContext row) ∨
    (∃ old, s.gateContext? row.taskId row.candidateSha = some old ∧ old.toContextStamp = row.toContextStamp ∧
      old.terminalDependencyBinding ≠ row.terminalDependencyBinding ∧ moved = true ∧
      s' = s.clearCandidate row.taskId row.candidateSha) ∨
    (s.gateContext? row.taskId row.candidateSha = some row ∧ moved = false ∧ s' = s) := by
  simp only [settleContext, Tx.query_bind, Except.ok.injEq, exists_eq_left'] at h
  -- nothing stored, other values, another terminal binding, or the row itself
  cases hold : s.gateContext? row.taskId row.candidateSha with
  | none =>
    simp only [hold, Tx.write_bind, Tx.pure_ok] at h
    obtain ⟨s₁, hw, rfl, rfl⟩ := h
    exact .inl ⟨rfl, rfl, hw⟩
  | some old =>
    obtain ⟨-, htask, hcand⟩ := gateContext?_eq_some.1 hold
    simp only [hold] at h
    split at h
    · rename_i hvalues
      simp only [Tx.check_bind, Tx.write_bind, Tx.pure_ok, exists_unit, Except.ok.injEq, exists_eq_left'] at h
      obtain ⟨-, rfl, rfl⟩ := h
      exact .inr (.inl ⟨old, rfl, hvalues, rfl, rfl⟩)
    · rename_i hvalues
      rw [not_not] at hvalues
      split at h
      · simp at h
      · rename_i hactivated
        rw [not_not] at hactivated
        have hstamp : old.toContextStamp = row.toContextStamp := congrArg₂ ContextStamp.mk hvalues hactivated
        split at h
        · rename_i hmoved
          simp only [Tx.write_bind, Tx.pure_ok, Except.ok.injEq, exists_eq_left'] at h
          obtain ⟨rfl, rfl⟩ := h
          exact .inr (.inr (.inl ⟨old, rfl, hstamp, hmoved, rfl, rfl⟩))
        · rename_i hsame
          rw [not_not] at hsame
          simp only [Tx.pure_ok] at h
          obtain ⟨rfl, rfl⟩ := h
          have hrow : old = row := by
            cases old
            cases row
            simp only at hstamp htask hcand hsame
            subst hstamp htask hcand hsame
            rfl
          exact .inr (.inr (.inr ⟨by rw [hrow], rfl, rfl⟩))

theorem settleContext_row {row : GateContextRow} {graphPass : Bool}
    (h : settleContext row graphPass s = (.ok false, s')) : s'.gateContext? row.taskId row.candidateSha = some row := by
  rcases settleContext_ok h with ⟨-, -, hinsert⟩ | ⟨old, hold, -, -, rfl⟩ | ⟨-, -, -, -, hmoved, -⟩ | ⟨hsame, -, rfl⟩
  · simp only [Store.insertContext, bind_eq_ok, demand_eq_ok, pure_eq_ok] at hinsert
    obtain ⟨t, ht, rfl⟩ := hinsert
    refine gateContext?_eq_some.2 ⟨?_, rfl, rfl⟩
    rw [(Table.insert?_eq_some.1 ht).2]
    exact List.mem_append_right _ (List.mem_singleton_self row)
  · obtain ⟨hmem, htask, hcand⟩ := gateContext?_eq_some.1 hold
    exact gateContext?_eq_some.2 ⟨List.mem_map.2 ⟨old, hmem, if_pos ⟨htask, hcand⟩⟩, rfl, rfl⟩
  · cases hmoved
  · exact hsame

theorem settleContext_toStore {row : GateContextRow} {graphPass moved : Bool}
    (h : settleContext row graphPass s = (.ok moved, s')) : s'.toStore = s.toStore := by
  rcases settleContext_ok h with ⟨-, -, hinsert⟩ | ⟨-, -, -, -, rfl⟩ | ⟨-, -, -, -, -, rfl⟩ | ⟨-, -, rfl⟩
  · simp only [Store.insertContext, bind_eq_ok, demand_eq_ok, pure_eq_ok] at hinsert
    obtain ⟨t, -, rfl⟩ := hinsert
    rfl
  · rfl
  · rfl
  · rfl

theorem storeEvidence_ok {key : GateEvidenceKey} {body : GateEvidenceBody} {raised : Option Error}
    (h : storeEvidence key body s = (.ok raised, s')) :
    (raised = none ∧ (s.insertCandidateEvidence key.candidateRow).insertGateEvidence key body = .ok s') ∨
    (raised = none ∧ s' = s.insertCandidateEvidence key.candidateRow) ∨
    (raised = some (.gate "conflicting gate evidence was recorded") ∧
      (∃ stored, (s.insertCandidateEvidence key.candidateRow).gateEvidence? key = some stored) ∧
      s' = (s.insertCandidateEvidence key.candidateRow).markConflict key) := by
  simp only [storeEvidence, Tx.write_bind, Tx.query_bind, Tx.check_bind, Except.ok.injEq, exists_eq_left'] at h
  obtain ⟨-, -, h⟩ := h
  cases hold : (s.insertCandidateEvidence key.candidateRow).gateEvidence? key with
  | none =>
    simp only [GateEvidenceKey.candidateRow] at hold
    simp only [hold, Tx.write_bind, Tx.pure_ok] at h
    obtain ⟨s₁, hw, rfl, rfl⟩ := h
    exact .inl ⟨rfl, hw⟩
  | some stored =>
    have hkey := hold
    simp only [GateEvidenceKey.candidateRow] at hkey
    simp only [hkey] at h
    split at h
    · simp only [Tx.write_bind, Tx.pure_ok, Except.ok.injEq, exists_eq_left'] at h
      obtain ⟨rfl, rfl⟩ := h
      exact .inr (.inr ⟨rfl, ⟨stored, rfl⟩, rfl⟩)
    · simp only [Tx.pure_ok] at h
      obtain ⟨rfl, rfl⟩ := h
      exact .inr (.inl ⟨rfl, rfl⟩)

/-- What the recording transaction settles the context to. -/
def contextRow (context : GateContext) (activatedAt : String) (binding : WorktreeBinding) (row : CandidateSeal)
    (terminal : TerminalBinding) : GateContextRow :=
  ⟨⟨context.values, activatedAt⟩, binding.taskId, row.candidateSha, terminal⟩

/-- A recording transaction that commits has read the seal and the terminal review, settled the context, and either
found the review moved or gone on to store the evidence. -/
theorem recordBody_ok {host : Host} {c : RecordCall} {gate : GateKey} {outcome : EvidenceOutcome} {activatedAt : String}
    {raised : Option Error}
    (h : recordBody host c.view c.binding c.row c.context c.evidence gate outcome activatedAt c.lease s = (.ok raised, s')) :
    ∃ terminal count graphPass, s.Sealed c.binding.taskId c.row.candidateSha ∧
      terminalDependencyBinding host s.toStore c.binding.taskId = .ok (terminal, count) ∧
      ((settleContext (contextRow c.context activatedAt c.binding c.row terminal) graphPass s = (.ok true, s') ∧
          raised = some (.gate "terminal dependency-review binding has moved")) ∨
        ∃ s₁, settleContext (contextRow c.context activatedAt c.binding c.row terminal) graphPass s = (.ok false, s₁) ∧
          storeEvidence (c.key gate) (c.body outcome) s₁ = (.ok raised, s')) := by
  rw [recordBody, Tx.query_bind] at h
  obtain ⟨terminal, hguard, hrest⟩ := h
  obtain ⟨moved, s₁, hsettle, hrest⟩ := Tx.bind_ok.1 hrest
  simp only [requireRecordable, bind_eq_ok, exists_unit, demand_eq_ok, refuse_eq_ok, not_not, pure_eq_ok] at hguard
  obtain ⟨-, -, -, -, hseal, ⟨terminal', count⟩, hterminal, -, -, rfl⟩ := hguard
  refine ⟨_, count, decide (gate = .dependencyGraph ∧ outcome = .pass), hseal, hterminal, ?_⟩
  cases moved with
  | true =>
    simp only [if_true, Tx.pure_ok] at hrest
    obtain ⟨rfl, rfl⟩ := hrest
    exact .inl ⟨hsettle, rfl⟩
  | false =>
    simp only [Bool.false_eq_true, if_false] at hrest
    exact .inr ⟨s₁, hsettle, hrest⟩

/-! ## A moved review stays moved -/

/-- The context row of the candidate holds these values under another terminal review than the current one, and no
evidence of the candidate is stored. -/
structure Moved (host : Host) (taskId candidateSha : String) (values : ContextValues) (s : Store) : Prop where
  context : ∃ old, s.gateContext? taskId candidateSha = some old ∧ old.values = values ∧
    ∀ terminal count, terminalDependencyBinding host s.toStore taskId = .ok (terminal, count) →
      terminal ≠ old.terminalDependencyBinding
  cleared : ∀ r ∈ s.gateEvidence.rows, ¬ (r.key.taskId = taskId ∧ r.key.candidateSha = candidateSha)

namespace Moved

variable {host : Host} {taskId candidateSha : String} {values : ContextValues} {s s' : Store}

/-- Binding a fingerprint to the candidate does not help. -/
theorem insertCandidateEvidence (h : Moved host taskId candidateSha values s) (row : CandidateEvidenceRow) :
    Moved host taskId candidateSha values (s.insertCandidateEvidence row) :=
  ⟨h.context, h.cleared⟩

/-- The transaction of a call that answers a moved review leaves the review moved. -/
theorem of_answer {c : RecordCall} (h : c.Answers host s s' (.gate "terminal dependency-review binding has moved")) :
    Moved host c.binding.taskId c.row.candidateSha c.context.values s' := by
  obtain ⟨gate, outcome, activatedAt, s₁, -, hbind, hbody⟩ := h
  obtain ⟨terminal, count, graphPass, -, hterminal, hcase⟩ := recordBody_ok hbody
  rcases hcase with ⟨hsettle, -⟩ | ⟨s₂, -, hstore⟩
  · rcases settleContext_ok hsettle with ⟨-, hno, -⟩ | ⟨-, -, -, hno, -⟩ | ⟨old, hold, hstamp, hne, -, rfl⟩ | ⟨-, hno, -⟩
    · cases hno
    · cases hno
    · refine ⟨⟨old, hold, congrArg ContextStamp.values hstamp, fun t n ht => ?_⟩, fun r hr => ?_⟩
      · have hsame := ht.symm.trans hterminal
        simp only [Except.ok.injEq, Prod.mk.injEq] at hsame
        rw [hsame.1]
        exact hne.symm
      · exact of_decide_eq_true (List.mem_filter.1 hr).2
    · cases hno
  · rcases storeEvidence_ok hstore with ⟨hno, -⟩ | ⟨hno, -⟩ | ⟨hno, -⟩ <;> simp at hno

/-- Under a moved review a recording transaction with the same values commits nothing but the same answer. -/
theorem record {c : RecordCall} {gate : GateKey} {outcome : EvidenceOutcome} {activatedAt : String}
    {raised : Option Error} (h : Moved host c.binding.taskId c.row.candidateSha c.context.values s)
    (hbody : recordBody host c.view c.binding c.row c.context c.evidence gate outcome activatedAt c.lease s = (.ok raised, s')) :
    raised = some (.gate "terminal dependency-review binding has moved") ∧
      Moved host c.binding.taskId c.row.candidateSha c.context.values s' := by
  obtain ⟨old, hold, hvalues, hmoved⟩ := h.context
  obtain ⟨terminal, count, graphPass, -, hterminal, hcase⟩ := recordBody_ok hbody
  have hne := hmoved terminal count hterminal
  rcases hcase with ⟨hsettle, hraised⟩ | ⟨s₁, hsettle, -⟩
  · refine ⟨hraised, ?_⟩
    rcases settleContext_ok hsettle with ⟨-, hno, -⟩ | ⟨-, -, -, hno, -⟩ | ⟨old', hold', hstamp, -, -, rfl⟩ | ⟨-, hno, -⟩
    · cases hno
    · cases hno
    · exact ⟨⟨old, hold, hvalues, hmoved⟩, fun r hr => of_decide_eq_true (List.mem_filter.1 hr).2⟩
    · cases hno
  · -- the context that is settled is the one stored, and its terminal review is not the current one
    rcases settleContext_ok hsettle with ⟨hnone, -, -⟩ | ⟨old', hold', hdiffers, -, -⟩ | ⟨-, -, -, -, hno, -⟩ | ⟨hsame, -, -⟩
    · exact absurd (hnone.symm.trans hold) (by simp)
    · obtain rfl := Option.some.inj (hold'.symm.trans hold)
      exact absurd hvalues hdiffers
    · cases hno
    · have hrow := Option.some.inj (hold.symm.trans hsame)
      exact absurd (congrArg GateContextRow.terminalDependencyBinding hrow).symm hne

end Moved

theorem bindCandidateEvidence_subset (view : GitView) (binding : WorktreeBinding) (row : CandidateSeal)
    (fingerprint : String) (lease : Option TransitionLease) (s : Store) :
    (bindCandidateEvidence view binding row fingerprint lease s).2.gateEvidence.rows ⊆ s.gateEvidence.rows := by
  let fewer : Store → Store → Prop := fun a b => b.gateEvidence.rows ⊆ a.gateEvidence.rows
  have hrun : Relation.ReflTransGen fewer s _ := follows_bind ?_ ?_ view binding row fingerprint lease s
  · exact run_relates (P := fun _ => True) (R := fewer) (fun _ _ _ _ => trivial) (fun _ _ h _ => h)
      (fun _ => List.Subset.refl _) (fun _ _ _ h h' => List.Subset.trans h' h) hrun trivial
  · intro binding lease now s s' h
    simp only [invalidateBody, Tx.query_bind, Tx.check_bind, exists_unit, Tx.write_ok, Except.ok.injEq] at h
    obtain ⟨-, -, rfl⟩ := h
    exact List.filter_subset_self _
  · intro repositoryId lease now row fingerprint s s' h
    simp only [bindBody, Tx.query_bind, exists_unit, Tx.write_ok, Except.ok.injEq] at h
    obtain ⟨-, -, rfl⟩ := h
    exact List.Subset.refl _

/-- Once a call has answered that the terminal review has moved, no later call with the same context records its
evidence: it raises, no evidence of the candidate is stored, and when its own transaction commits it raises the same
again. -/
theorem moved_review_never_recovers (host : Host) (c later : RecordCall) (s s' : Store)
    (h : c.Answers host s s' (.gate "terminal dependency-review binding has moved"))
    (htask : later.binding.taskId = c.binding.taskId) (hcandidate : later.row.candidateSha = c.row.candidateSha)
    (hcontext : later.context = c.context) :
    (later.run host s').1 ≠ .ok () ∧
      (∀ e s'', later.Answers host s' s'' e → e = .gate "terminal dependency-review binding has moved") ∧
      ∀ r ∈ (later.run host s').2.gateEvidence.rows,
        ¬ (r.key.taskId = c.binding.taskId ∧ r.key.candidateSha = c.row.candidateSha) := by
  have hmoved := Moved.of_answer h
  rw [← htask, ← hcandidate, ← hcontext] at hmoved
  rw [← htask, ← hcandidate]
  have hanswer : ∀ e s'', later.Answers host s' s'' e → e = .gate "terminal dependency-review binding has moved" := by
    rintro e s'' ⟨gate, outcome, activatedAt, s₁, -, hbind, hbody⟩
    obtain ⟨-, rfl⟩ := bindCandidateEvidence_ok hbind
    exact Option.some.inj ((hmoved.insertCandidateEvidence _).record hbody).1
  by_cases hadmitted : ∃ gate outcome activatedAt, later.Admitted host s' gate outcome activatedAt
  · obtain ⟨gate, outcome, activatedAt, hadmitted⟩ := hadmitted
    rw [hadmitted.run]
    have hfewer := bindCandidateEvidence_subset later.view later.binding later.row later.evidence.evidenceFingerprint later.lease s'
    unfold RecordCall.commit
    rcases hbind : bindCandidateEvidence later.view later.binding later.row later.evidence.evidenceFingerprint
      later.lease s' with ⟨e | u, s₁⟩
    · rw [hbind] at hfewer
      simp only [bind, hbind]
      exact ⟨by simp, hanswer, fun r hr => hmoved.cleared r (hfewer hr)⟩
    · obtain ⟨-, rfl⟩ := bindCandidateEvidence_ok hbind
      have hstill := hmoved.insertCandidateEvidence ⟨later.row.taskId, later.row.candidateSha, later.evidence.evidenceFingerprint⟩
      rcases transaction_cases (recordBody host later.view later.binding later.row later.context later.evidence gate
        outcome activatedAt later.lease) (s'.insertCandidateEvidence
          ⟨later.row.taskId, later.row.candidateSha, later.evidence.evidenceFingerprint⟩) with ⟨raised, s₂, hbody,
            hrun⟩ | ⟨e, -, hrun⟩
      · obtain ⟨rfl, hend⟩ := hstill.record hbody
        simp only [bind, hbind, hrun, raiseAfter, Tx.check]
        exact ⟨by simp, hanswer, hend.cleared⟩
      · simp only [bind, hbind, hrun]
        exact ⟨by simp, hanswer, hstill.cleared⟩
  · simp only [not_exists] at hadmitted
    obtain ⟨e, hrun⟩ := RecordCall.run_of_not_admitted hadmitted
    rw [hrun]
    exact ⟨by simp, hanswer, hmoved.cleared⟩

/-! ## A review that moves between two records -/

namespace Sample

/-- The runtime binding the dependency review of the task was made under. -/
def reviewRuntime : RuntimeBinding :=
  { runtime with
    resolvedDigest := Dependency.Sample.digest 2
    profiles := runtime.profiles
    reviewPolicy := runtime.reviewPolicy }

def reviewLedger : Ledger :=
  { Dependency.Sample.ledger 1 with
    leases := ledger.leases
    runtimeBindings := ⟨[reviewRuntime.columns "task"], by simp⟩ }

/-- The database with the dependency review of the task as far as the given calls take it. -/
def reviewed (calls : List Dependency.Call) : Dependency.Store :=
  { Dependency.Sample.runAll calls (Dependency.Sample.store 1) with ledger := reviewLedger }

/-- The review is dispatched. -/
def dispatched : List Dependency.Call :=
  Dependency.Sample.dispatch Dependency.Sample.main 1 Dependency.Sample.a1 Dependency.Sample.n1 none Dependency.Sample.session1

/-- The review is accepted: its members stay, its disposition changes. -/
def accepted : List Dependency.Call :=
  dispatched ++ [Dependency.Sample.accept Dependency.Sample.main 1 Dependency.Sample.p1 Dependency.Sample.a1
    Dependency.Sample.session1]

def reviewControl : GitEntrypointControl := ⟨"repository", "task", Dependency.Sample.main.identity.baseSha, true⟩

def reviewBinding : WorktreeBinding :=
  ⟨"task", "repository", "branch", "/w", Dependency.Sample.main.identity.baseSha, "state", some reviewControl⟩

/-- A PASS of the build, recorded for the task with the two members of its review. -/
def twoSources : RecordCall :=
  ⟨view 1, ⟨none, none⟩, reviewBinding, sealedAt 1,
    { context 1 with sourceCount := 2, isolatedLocalTask := false, runtimeBinding := reviewRuntime }, passed 1,
    { policy with runtimeBinding := reviewRuntime }, some lease⟩

/-- The build is recorded while the review is dispatched, and then the review is accepted. -/
def reviewMoved : Store :=
  [.other (reviewed dispatched) .empty, .sealCandidate (view 1) reviewBinding reviewControl (some lease),
    .recordGateEvidence twoSources.view twoSources.rows twoSources.binding twoSources.row twoSources.context
      twoSources.evidence twoSources.policy twoSources.lease,
    .other (reviewed accepted) .empty].foldl (Call.run .sample) start

/-- What the database holds after the call that finds the review moved. -/
def reviewRejected : Store := (twoSources.run .sample reviewMoved).2

/-- What is decided on the way, in one evaluation. -/
theorem course :
    ((validateContext twoSources.context = .ok () ∧
        validReviewLimitFinalization twoSources.rows twoSources.row.candidateSha twoSources.context.runtimeBinding
          twoSources.context.reviewLimitFinalization = true ∧
        validateEvidence twoSources.evidence = .ok (.build, .pass) ∧
        currentTrustedPolicyActivation .sample twoSources.view reviewMoved twoSources.binding twoSources.context
          twoSources.policy = some "2026-01-01T00:00:00+00:00") ∧
      ((twoSources.context.taskId = twoSources.binding.taskId ∧ twoSources.evidence.taskId = twoSources.binding.taskId) ∧
        twoSources.context.candidateSha = twoSources.row.candidateSha ∧
          twoSources.evidence.candidateSha = twoSources.row.candidateSha) ∧
      (bindCandidateEvidence twoSources.view twoSources.binding twoSources.row twoSources.evidence.evidenceFingerprint
        twoSources.lease reviewMoved).1 = .ok () ∧
      (recordBody .sample twoSources.view twoSources.binding twoSources.row twoSources.context twoSources.evidence
        .build .pass "2026-01-01T00:00:00+00:00" twoSources.lease
          (bindCandidateEvidence twoSources.view twoSources.binding twoSources.row
            twoSources.evidence.evidenceFingerprint twoSources.lease reviewMoved).2).1 =
        .ok (some (.gate "terminal dependency-review binding has moved"))) ∧
    (twoSources.run .sample reviewMoved).1 = .error (.gate "terminal dependency-review binding has moved") ∧
    currentTrustedPolicyActivation .sample twoSources.view reviewRejected twoSources.binding twoSources.context twoSources.policy =
      some "2026-01-01T00:00:00+00:00" ∧
    (requireRecordable .sample twoSources.view twoSources.binding twoSources.row twoSources.context twoSources.evidence false
      twoSources.lease reviewRejected).toOption.isSome = true ∧
    (twoSources.run .sample reviewRejected).1 = .error (.gate "terminal dependency-review binding has moved") := by
  decide +kernel

theorem twoSources_answers :
    twoSources.Answers .sample reviewMoved reviewRejected (.gate "terminal dependency-review binding has moved") :=
  RecordCall.answers_of course.1

end Sample

open Sample in
theorem moved_review_never_recovers_accepted : (twoSources.run .sample reviewRejected).1 ≠ .ok () :=
  (moved_review_never_recovers .sample twoSources twoSources _ _ twoSources_answers rfl rfl rfl).1

open Sample in
/-- The review of a sealed candidate moves on from dispatched to accepted. The next record finds it moved and clears the
evidence. The same call, whose reads of lease, runtime binding, seal, review and source count all pass under the same
trusted policy, raises the same again. -/
theorem moved_review_raised_again :
    (twoSources.run .sample reviewMoved).1 = .error (.gate "terminal dependency-review binding has moved") ∧
    currentTrustedPolicyActivation .sample twoSources.view reviewRejected twoSources.binding
      twoSources.context twoSources.policy = some "2026-01-01T00:00:00+00:00" ∧
    (requireRecordable .sample twoSources.view twoSources.binding twoSources.row twoSources.context
      twoSources.evidence false twoSources.lease reviewRejected).toOption.isSome = true ∧
    validateEvidence twoSources.evidence = .ok (.build, .pass) ∧
    (twoSources.run .sample reviewRejected).1 =
      .error (.gate "terminal dependency-review binding has moved") := by
  obtain ⟨⟨⟨-, -, hevidence, -⟩, -⟩, hraised, hpolicy, hrecordable, hagain⟩ := course
  exact ⟨hraised, hpolicy, hrecordable, hevidence, hagain⟩

end Roundwright.Gate
