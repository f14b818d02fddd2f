/-
Rejected plans. The second transaction compares the plan with the task summary of its input when the provider turn is
completed already, so a plan that it rejects leaves the turn with an output that no other plan can replace.
-/
import Roundwright.Planning.Turn
import Roundwright.Provider.Machine

namespace Roundwright.Planning

open Lib State Provider

variable {host : Host} {identity : TaskIdentity} {c : RecoveryContext} {call : RecordPlanCall} {s : Store}
  {plan : WorkerPlan} {dispatch : PlanningDispatch}

/-! ## The second transaction -/

/-- What the second transaction demands, of the state before the call. -/
structure Settles (host : Host) (identity : TaskIdentity) (call : RecordPlanCall) (s : Store) (plan : WorkerPlan) : Prop where
  clock : 0 < call.now.getD call.settledAt
  lease : requireLease s.ledger call.lease identity.repositoryId (call.now.getD call.settledAt) = .ok ()
  summary : inputTaskSummary s call.planAttemptId = .ok plan.taskSummary
  artifact : ∀ artifact, s.artifact? call.planAttemptId = some artifact →
    artifact.content = plan ∧ artifact.contentDigest = plan.digest host
  recorded : ∀ attempt, s.planAttempt? identity.taskId call.planAttemptId = some attempt →
    (attempt.state = .recorded ↔ (s.artifact? call.planAttemptId).isSome)

theorem requireLease_error {l : Ledger} {lease : Option TransitionLease} {repositoryId : String} {observed : Int}
    {e : Error} (h : requireLease l lease repositoryId observed = .error e) : e ≠ ownerInput := by
  have hclock : ∀ e', State.clock observed = .error e' → ∃ message, e' = .gitIdentity message := by
    intro e' h
    rcases bind_eq_error.1 h with hrefused | ⟨_, _, hpure⟩
    · exact ⟨_, (refuse_eq_error.1 hrefused).2.symm⟩
    · cases hpure
  have hgit : ∃ message, e = .gitIdentity message := by
    rcases bind_eq_error.1 h with hnone | ⟨lease, _, h⟩
    · exact ⟨_, (demand_eq_error.1 hnone).2.symm⟩
    · simp only [requireCurrentLease, stateIdentityOf, bind_eq_error, demand_eq_error, refuse_eq_error] at h
      rcases h with ⟨_, rfl⟩ | ⟨_, _, ⟨_, rfl⟩ | ⟨_, _, ⟨_, rfl⟩ | ⟨_, _, ⟨_, rfl⟩ | ⟨_, _, h | ⟨_, _, _, rfl⟩⟩⟩⟩⟩
      · exact ⟨_, rfl⟩
      · exact ⟨_, rfl⟩
      · exact ⟨_, rfl⟩
      · exact ⟨_, rfl⟩
      · exact hclock e h
      · exact ⟨_, rfl⟩
  obtain ⟨message, rfl⟩ := hgit
  exact fun h => by cases h

theorem requireMatchingTask_error {l : Ledger} {expected : Option TaskState} {e : Error}
    (h : requireMatchingTask host l identity expected = .error e) : e ≠ ownerInput := by
  have hstate : ∃ message, e = .state message := by
    simp only [requireMatchingTask, canonicalWorktreeKey, requireWorktree, bind_eq_error, demand_eq_error, refuse_eq_error] at h
    rcases h with ⟨_, rfl⟩ | ⟨_, _,
      ⟨_, rfl⟩ | ⟨_, _, (⟨_, rfl⟩ | ⟨_, _, _, rfl⟩) | ⟨_, _, ⟨_, rfl⟩ | ⟨_, _, ⟨_, rfl⟩ | ⟨_, _, ⟨_, rfl⟩ | ⟨_, _, h⟩⟩⟩⟩⟩⟩
    · exact ⟨_, rfl⟩
    · exact ⟨_, rfl⟩
    · exact ⟨_, rfl⟩
    · exact ⟨_, rfl⟩
    · exact ⟨_, rfl⟩
    · exact ⟨_, rfl⟩
    · exact ⟨_, rfl⟩
    · cases h
  obtain ⟨message, rfl⟩ := hstate
  exact fun h => by cases h

/-- What is unowned is planned, and an owner-blocked output is the same. -/
theorem requireUnowned_ok {planAttemptId digest : String} (h : requireUnowned host s identity planAttemptId digest = .ok ()) :
    (∃ state, requireMatchingTask host s.ledger identity (some .planning) = .ok state) ∧
      ∃ attempt, s.planAttempt? identity.taskId planAttemptId = some attempt ∧
        (attempt.state = .ownerBlocked → attempt.ownerBlockerDigest = digest) := by
  unfold requireUnowned at h
  obtain ⟨state, hstate, h⟩ := bind_eq_ok.1 h
  obtain ⟨attempt, hattempt, h⟩ := bind_eq_ok.1 h
  obtain ⟨_, hblocked, _⟩ := bind_eq_ok.1 h
  rw [refuse_eq_ok, not_and, not_not] at hblocked
  exact ⟨⟨state, hstate⟩, attempt, demand_eq_ok.1 hattempt, hblocked⟩

theorem planAttempt?_update {taskId planAttemptId : String} {attempt : PlanAttemptRow} {state : PlanAttemptState}
    {digest : PlanAttemptRow → String} (h : s.planAttempt? taskId planAttemptId = some attempt) :
    ∃ attempt', (s.updatePlanAttempt planAttemptId state digest).planAttempt? taskId planAttemptId = some attempt' := by
  unfold Store.planAttempt? at h ⊢
  refine Option.isSome_iff_exists.1 (List.find?_isSome.2 ?_)
  have hsel := List.find?_some h
  refine ⟨_, List.mem_map.2 ⟨attempt, List.mem_of_find?_eq_some h, rfl⟩, ?_⟩
  split
  · exact hsel
  · exact hsel

/-- A plan that is kept is read back. -/
theorem persistedPlan_ok {artifact : PlanArtifactRow} {attempt : PlanAttemptRow} {planAttemptId : String}
    (htask : ∃ state, requireMatchingTask host s.ledger identity (some .planning) = .ok state)
    (hattempt : s.planAttempt? identity.taskId planAttemptId = some attempt)
    (hartifact : s.artifact? planAttemptId = some artifact)
    (hnormal : artifact.content.normalized = .ok artifact.content) : ∃ persisted,
    persistedPlan host s identity planAttemptId = .ok persisted := by
  obtain ⟨state, hstate⟩ := htask
  obtain ⟨row, hrow, hid, hrowState, hkey, hbranch, hworktree, -⟩ := requireMatchingTask_ok.1 hstate
  have hmatch : requireMatchingTask host s.ledger identity none = .ok state :=
    requireMatchingTask_ok.2 ⟨row, hrow, hid, hrowState, hkey, hbranch, hworktree, fun _ h => by cases h⟩
  unfold persistedPlan
  simp only [hmatch, hattempt, hartifact, hnormal, ok_bind, demand]
  exact ⟨_, rfl⟩

theorem settleFirst_ok {planAttemptId : String} {attempt : PlanAttemptRow} {settlement : Settlement} {s' : Store} :
    settleFirst host identity planAttemptId attempt plan s = (.ok settlement, s') ↔
      (attempt.state = .ownerBlocked ∧ attempt.ownerBlockerDigest = plan.digest host ∧ settlement = .ownerBlocked ∧ s' = s) ∨
      (attempt.state = .dispatched ∧ plan.hasOwnerBlocker = true ∧ settlement = .ownerBlocked ∧
        s' = s.updatePlanAttempt planAttemptId .ownerBlocked fun _ => plan.digest host) ∨
      (attempt.state = .dispatched ∧ plan.hasOwnerBlocker = false ∧ settlement = .kept ∧
        ∃ planArtifacts, s.planArtifacts.insert? ⟨planAttemptId, identity.taskId, plan, plan.digest host⟩ = some planArtifacts ∧
          s' = Store.updatePlanAttempt planAttemptId .recorded (fun r => r.ownerBlockerDigest) { s with planArtifacts }) := by
  unfold settleFirst
  cases hstate : attempt.state with
  | ownerBlocked =>
    rw [if_pos rfl]
    simp only [Tx.check_bind, exists_unit, refuse_eq_ok, not_not, Tx.pure_ok, reduceCtorEq, false_and, or_false, true_and]
    exact and_congr Iff.rfl (and_congr eq_comm eq_comm)
  | recorded =>
    rw [if_neg (by decide)]
    simp [Tx.check_bind]
  | dispatched =>
    rw [if_neg (by decide)]
    simp only [Tx.check_bind, exists_unit, refuse_eq_ok, not_not, reduceCtorEq, false_and, false_or, true_and]
    cases hblocker : plan.hasOwnerBlocker with
    | true =>
      rw [if_pos rfl]
      simp only [Tx.write_bind, Except.ok.injEq, exists_eq_left', Tx.pure_ok, reduceCtorEq, false_and, or_false, true_and]
      exact and_congr eq_comm eq_comm
    | false =>
      rw [if_neg (by decide)]
      simp only [Tx.write_bind, bind_eq_ok, demand_eq_ok, pure_eq_ok, Except.ok.injEq, Tx.pure_ok, reduceCtorEq,
        false_and, false_or, true_and]
      constructor
      · rintro ⟨_, ⟨planArtifacts, hinsert, rfl⟩, _, rfl, rfl, rfl⟩
        exact ⟨rfl, planArtifacts, hinsert, rfl⟩
      · rintro ⟨rfl, planArtifacts, hinsert, rfl⟩
        exact ⟨_, ⟨planArtifacts, hinsert, rfl⟩, _, rfl, rfl, rfl⟩

/-- What the second transaction commits, and when. -/
theorem settlePlan_ok {observed : Int} {settlement : Settlement} {s' : Store} :
    settlePlan host identity call plan observed s = (.ok settlement, s') ↔
      requireLease s.ledger call.lease identity.repositoryId observed = .ok () ∧
      (∃ state, requireMatchingTask host s.ledger identity (some .planning) = .ok state) ∧
      ∃ attempt, s.planAttempt? identity.taskId call.planAttemptId = some attempt ∧
        inputTaskSummary s call.planAttemptId = .ok plan.taskSummary ∧
        ((∃ artifact, s.artifact? call.planAttemptId = some artifact ∧
            (artifact.content = plan ∧ artifact.contentDigest = plan.digest host) ∧ attempt.state = .recorded ∧
              settlement = .kept ∧ s' = s) ∨
          (s.artifact? call.planAttemptId = none ∧
            settleFirst host identity call.planAttemptId attempt plan s = (.ok settlement, s'))) := by
  simp only [settlePlan, Tx.query_bind, Tx.check_bind, exists_unit, planAttempt, demand_eq_ok, refuse_eq_ok, not_not,
    Except.ok.injEq, exists_eq_left']
  constructor
  · rintro ⟨hlease, state, htask, attempt, hattempt, summary, hsummary, hsame, h⟩
    refine ⟨hlease, ⟨state, htask⟩, attempt, hattempt, by rw [hsame]; exact hsummary, ?_⟩
    cases hartifact : s.artifact? call.planAttemptId with
    | none =>
      rw [hartifact] at h
      exact .inr ⟨rfl, h⟩
    | some artifact =>
      rw [hartifact] at h
      simp only [Tx.check_bind, exists_unit, refuse_eq_ok, not_not, Tx.pure_ok, Prod.mk.injEq] at h
      obtain ⟨hcontent, hrecorded, rfl, rfl⟩ := h
      exact .inl ⟨artifact, rfl, hcontent, hrecorded, rfl, rfl⟩
  · rintro ⟨hlease, ⟨state, htask⟩, attempt, hattempt, hsummary, h⟩
    refine ⟨hlease, state, htask, attempt, hattempt, _, hsummary, rfl, ?_⟩
    rcases h with ⟨artifact, hartifact, hcontent, hrecorded, rfl, rfl⟩ | ⟨hnone, h⟩
    · rw [hartifact]
      simp only [Tx.check_bind, exists_unit, refuse_eq_ok, not_not, Tx.pure_ok, Prod.mk.injEq]
      exact ⟨hcontent, hrecorded, trivial, trivial⟩
    · rw [hnone]
      exact h

/-- The owner is asked after a commit only. -/
theorem settlePlan_error {observed : Int} {e : Error}
    (h : (settlePlan host identity call plan observed s).1 = .error e) : e ≠ ownerInput := by
  have hrefuse : ∀ {bad : Prop} [Decidable bad] {message : String}, message ≠ "plan requires owner input" →
      refuse bad (.workerPlanning message) = .error e → e ≠ ownerInput := by
    intro bad _ message hne h
    rw [← (refuse_eq_error.1 h).2]
    exact fun heq => hne (Error.workerPlanning.inj heq)
  have hfirst : ∀ attempt, (settleFirst host identity call.planAttemptId attempt plan s).1 = .error e → e ≠ ownerInput := by
    intro attempt h
    unfold settleFirst at h
    split at h
    · rcases Tx.bind_error.1 h with h | ⟨_, _, _, h⟩
      · exact hrefuse (by decide) h
      · cases h
    · rcases Tx.bind_error.1 h with h | ⟨_, s₁, hs, h⟩
      · exact hrefuse (by decide) h
      · obtain ⟨-, rfl⟩ := Tx.check_ok.1 hs
        split at h
        · cases h
        · rcases Tx.bind_error.1 h with h | ⟨_, _, _, h⟩
          · have hintegrity : e = .integrity := by
              unfold Tx.write at h
              cases hinsert : s.planArtifacts.insert? ⟨call.planAttemptId, identity.taskId, plan, plan.digest host⟩ with
              | none =>
                simp only [hinsert, demand, error_bind, Except.error.injEq] at h
                exact h.symm
              | some planArtifacts =>
                simp only [hinsert, demand, ok_bind] at h
                cases h
            rw [hintegrity]
            decide
          · cases h
  -- check by check, every refusal has another text
  unfold settlePlan at h
  rcases Tx.bind_error.1 h with h | ⟨_, s₁, hs, h⟩
  · exact requireLease_error h
  obtain ⟨-, rfl⟩ := Tx.query_ok.1 hs
  rcases Tx.bind_error.1 h with h | ⟨_, s₁, hs, h⟩
  · exact requireMatchingTask_error h
  obtain ⟨-, rfl⟩ := Tx.query_ok.1 hs
  rcases Tx.bind_error.1 h with h | ⟨attempt, s₁, hs, h⟩
  · rw [← (demand_eq_error.1 h).2]
    decide
  obtain ⟨-, rfl⟩ := Tx.query_ok.1 hs
  rcases Tx.bind_error.1 h with h | ⟨_, s₁, hs, h⟩
  · rcases bind_eq_error.1 h with h | ⟨_, _, hpure⟩
    · rw [← (demand_eq_error.1 h).2]
      decide
    · cases hpure
  obtain ⟨-, rfl⟩ := Tx.query_ok.1 hs
  rcases Tx.bind_error.1 h with h | ⟨_, s₁, hs, h⟩
  · exact hrefuse (by decide) h
  obtain ⟨-, rfl⟩ := Tx.check_ok.1 hs
  rcases Tx.bind_error.1 h with h | ⟨existing, s₁, hs, h⟩
  · cases h
  obtain ⟨-, rfl⟩ := Tx.query_ok.1 hs
  cases existing with
  | none => exact hfirst attempt h
  | some artifact =>
    rcases Tx.bind_error.1 h with h | ⟨_, s₁, hs, h⟩
    · exact hrefuse (by decide) h
    obtain ⟨-, rfl⟩ := Tx.check_ok.1 hs
    rcases Tx.bind_error.1 h with h | ⟨_, _, _, h⟩
    · exact hrefuse (by decide) h
    · cases h

theorem artifact?_insert {artifact : PlanArtifactRow} {planArtifacts : Table PlanArtifactRow.clash}
    (hnone : s.artifact? artifact.planAttemptId = none) (h : s.planArtifacts.insert? artifact = some planArtifacts) :
    Store.artifact? { s with planArtifacts } artifact.planAttemptId = some artifact := by
  unfold Store.artifact? at hnone ⊢
  dsimp only
  rw [(Table.insert?_eq_some.1 h).2, List.find?_append, hnone]
  simp

/-- The second transaction keeps the plan or asks the owner exactly where it finds what it demands. -/
theorem settle_cases (hnormal : plan.normalized = .ok plan)
    (hunowned : requireUnowned host s identity call.planAttemptId (plan.digest host) = .ok ()) :
    (Settles host identity call s plan ∧ ((∃ persisted, (settle host identity call plan s).1 = .ok persisted) ∨
        (settle host identity call plan s).1 = .error ownerInput)) ∨
      (¬ Settles host identity call s plan ∧ ∃ e, e ≠ ownerInput ∧ settle host identity call plan s = (.error e, s)) := by
  obtain ⟨htask, attempt, hattempt, hblocked⟩ := requireUnowned_ok hunowned
  unfold settle
  rw [Tx.run_check_bind]
  by_cases hclock : 0 < call.now.getD call.settledAt
  case neg =>
    refine .inr ⟨fun h => hclock h.clock, .workerPlanning "planning clock is invalid", by decide, ?_⟩
    unfold planningClock refuse
    rw [if_pos (not_lt.1 hclock)]
    rfl
  have hread : planningClock (call.now.getD call.settledAt) = .ok (call.now.getD call.settledAt) := by
    unfold planningClock
    rw [refuse_of_not (not_le.2 hclock)]
    rfl
  rw [hread]
  dsimp only
  rw [run_transaction_bind]
  rcases hbody : settlePlan host identity call plan (call.now.getD call.settledAt) s with ⟨e | settlement, s'⟩
  · refine .inr ⟨fun hsettles => ?_, e, settlePlan_error (by rw [hbody]), rfl⟩
    -- what the transaction demands is there, so it commits
    have hgoes : ∃ settlement s', settlePlan host identity call plan (call.now.getD call.settledAt) s = (.ok settlement, s') := by
      cases hartifact : s.artifact? call.planAttemptId with
      | some artifact =>
        refine ⟨.kept, s, settlePlan_ok.2
          ⟨hsettles.lease, htask, attempt, hattempt, hsettles.summary,
            .inl ⟨artifact, hartifact, hsettles.artifact artifact hartifact, (hsettles.recorded attempt hattempt).2
              (by rw [hartifact]; rfl), rfl, rfl⟩⟩⟩
      | none =>
        have hfirst : ∃ settlement s', settleFirst host identity call.planAttemptId attempt plan s = (.ok settlement, s') := by
          cases hstate : attempt.state with
          | ownerBlocked => exact ⟨_, _, settleFirst_ok.2 (.inl ⟨hstate, hblocked hstate, rfl, rfl⟩)⟩
          | recorded =>
            have hsome := (hsettles.recorded attempt hattempt).1 hstate
            rw [hartifact] at hsome
            cases hsome
          | dispatched =>
            cases hblocker : plan.hasOwnerBlocker with
            | true => exact ⟨_, _, settleFirst_ok.2 (.inr (.inl ⟨hstate, hblocker, rfl, rfl⟩))⟩
            | false =>
              have hapart : ∀ a ∈ s.planArtifacts.rows,
                  PlanArtifactRow.clash a ⟨call.planAttemptId, identity.taskId, plan, plan.digest host⟩ = false := by
                intro a ha
                unfold Store.artifact? at hartifact
                simpa [PlanArtifactRow.clash] using List.find?_eq_none.1 hartifact a ha
              obtain ⟨planArtifacts, hinsert⟩ := Table.insert?_of_apart hapart
              exact ⟨_, _, settleFirst_ok.2 (.inr (.inr ⟨hstate, hblocker, rfl, planArtifacts, hinsert, rfl⟩))⟩
        obtain ⟨settlement, s', hfirst⟩ := hfirst
        exact ⟨settlement, s', settlePlan_ok.2
          ⟨hsettles.lease, htask, attempt, hattempt, hsettles.summary, .inr ⟨hartifact, hfirst⟩⟩⟩
    obtain ⟨settlement, s'', hgoes⟩ := hgoes
    rw [hbody] at hgoes
    cases hgoes
  · obtain ⟨hlease, -, attempt', hattempt', hsummary, hcases⟩ := settlePlan_ok.1 hbody
    obtain rfl : attempt' = attempt := Option.some.inj (hattempt'.symm.trans hattempt)
    have hsettles (hartifact : ∀ artifact, s.artifact? call.planAttemptId = some artifact →
          artifact.content = plan ∧ artifact.contentDigest = plan.digest host)
        (hrecorded : attempt'.state = .recorded ↔ (s.artifact? call.planAttemptId).isSome) : Settles host identity call s plan := by
      refine ⟨hclock, hlease, hsummary, hartifact, fun other hother => ?_⟩
      obtain rfl : other = attempt' := Option.some.inj (hother.symm.trans hattempt)
      exact hrecorded
    refine .inl ?_
    rcases hcases with ⟨artifact, hartifact, ⟨hcontent, hdigest⟩, hrecorded, rfl, rfl⟩ | ⟨hnone, hfirst⟩
    · refine ⟨hsettles (fun other hother => ?_) (by rw [hartifact]; simp [hrecorded]), .inl ?_⟩
      · obtain rfl : other = artifact := Option.some.inj (hother.symm.trans hartifact)
        exact ⟨hcontent, hdigest⟩
      · exact persistedPlan_ok htask hattempt hartifact (by rw [hcontent]; exact hnormal)
    · have hunrecorded : attempt'.state ≠ .recorded → Settles host identity call s plan := fun hstate =>
        hsettles (fun other hother => by rw [hnone] at hother; cases hother) (by rw [hnone]; simp [hstate])
      rcases settleFirst_ok.1 hfirst with ⟨hstate, -, rfl, rfl⟩ | ⟨hstate, -, rfl, rfl⟩ | ⟨hstate, -, rfl,
        planArtifacts, hinsert, rfl⟩
      · exact ⟨hunrecorded (by rw [hstate]; decide), .inr rfl⟩
      · exact ⟨hunrecorded (by rw [hstate]; decide), .inr rfl⟩
      · refine ⟨hunrecorded (by rw [hstate]; decide), .inl ?_⟩
        obtain ⟨updated, hupdated⟩ := @planAttempt?_update { s with planArtifacts } identity.taskId call.planAttemptId
          attempt' .recorded (fun r => r.ownerBlockerDigest) hattempt
        exact persistedPlan_ok htask hupdated (artifact?_insert hnone hinsert) hnormal

/-! ## The context of a replay -/

section Context

variable {attemptId ptr evidence output : String} {lease : Option TransitionLease} {observed : Int}
    {p q p' : Recovery.Store} {row : AttemptRow}

/-- A context that is written is found the next time. -/
theorem persistContext_again (h : persistContext attemptId c p = .ok q) : persistContext attemptId c q = .ok q := by
  have hfound : q.context? attemptId = some ⟨attemptId, c.taskId, c.values⟩ := by
    unfold persistContext at h
    cases hcontext : p.context? attemptId with
    | none =>
      rw [hcontext] at h
      simp only [bind_eq_ok, exists_unit, refuse_eq_ok, demand_eq_ok, pure_eq_ok] at h
      obtain ⟨-, contexts, hinsert, rfl⟩ := h
      unfold Recovery.Store.context? at hcontext ⊢
      dsimp only
      rw [(Table.insert?_eq_some.1 hinsert).2, List.find?_append, hcontext]
      simp
    | some existing =>
      rw [hcontext] at h
      simp only [bind_eq_ok, exists_unit, refuse_eq_ok, pure_eq_ok, not_not] at h
      obtain ⟨rfl, rfl⟩ := h
      exact hcontext
  unfold persistContext
  rw [hfound]
  exact bind_eq_ok.2 ⟨(), refuse_eq_ok.2 (not_not.2 rfl), rfl⟩

theorem Authorized.again {q' : Recovery.Store} (h : Authorized host identity c attemptId lease observed p q' row)
    (hcontext : persistContext attemptId c p = .ok q) : Authorized host identity c attemptId lease observed q q' row := by
  obtain rfl : q' = q := Except.ok.inj (h.context.symm.trans hcontext)
  have hledger : q'.ledger = p.ledger := by rw [persistContext_frame hcontext]
  refine ⟨?_, ?_, persistContext_again hcontext, h.attempt, h.health⟩
  · rw [hledger]
    exact h.lease
  · rw [hledger]
    exact h.task

/-- Where the context is there already, the completion goes as where it is not. -/
theorem recordCompletedOutput_context (hcontext : persistContext attemptId c p = .ok q)
    (h : recordCompletedOutput host identity c attemptId ptr evidence output lease observed p = (.ok row, p')) :
    recordCompletedOutput host identity c attemptId ptr evidence output lease observed q = (.ok row, p') := by
  simp only [recordCompletedOutput, Tx.check_bind, exists_unit] at h ⊢
  obtain ⟨hvalid, hid, hptr, hevidence, houtput, h⟩ := h
  refine ⟨hvalid, hid, hptr, hevidence, houtput, ?_⟩
  obtain ⟨_, p₁, hcompleted, hread⟩ := Tx.bind_ok.1 h
  refine Tx.bind_ok.2 ⟨(), p₁, transaction_ok.2 ?_, hread⟩
  obtain ⟨q', found, hauthorized, hcases⟩ := completeOutput_iff.1 (transaction_ok.1 hcompleted)
  exact completeOutput_iff.2 ⟨q', found, hauthorized.again hcontext, hcases⟩

theorem completeTurn_ok {s₁ : Store} : completeTurn host identity c call plan dispatch s = (.ok (), s₁) ↔
    ∃ row p', recordCompletedOutput host identity c dispatch.providerAttemptId (pointer call.planAttemptId)
    call.completionEvidenceFingerprint
        (plan.digest host) call.lease (call.now.getD call.completedAt) s.provider = (.ok row, p') ∧
      row.state = .completed ∧ s.withProvider p' = s₁ := by
  simp only [completeTurn, Tx.bind_ok, Tx.mapError_ok, Tx.on_ok, Tx.check_ok, refuse_eq_ok, not_not]
  constructor
  · rintro ⟨row, _, ⟨p', hrun, rfl⟩, hstate, rfl⟩
    exact ⟨row, p', hrun, hstate, rfl⟩
  · rintro ⟨row, p', hrun, hstate, rfl⟩
    exact ⟨row, _, ⟨p', hrun, rfl⟩, hstate, rfl⟩

theorem requireUnowned_withProvider {planAttemptId digest : String} (hledger : p.ledger = s.ledger) :
    requireUnowned host (s.withProvider p) identity planAttemptId digest = requireUnowned host s identity planAttemptId digest := by
  have hsame : (s.withProvider p).ledger = s.ledger := hledger
  unfold requireUnowned
  rw [hsame]
  rfl

theorem admitOutput_withProvider (hledger : p.ledger = s.ledger) :
    admitOutput host identity call (s.withProvider p) = admitOutput host identity call s := by
  have hsame : (s.withProvider p).ledger = s.ledger := hledger
  unfold admitOutput readDispatch requireUnowned
  rw [hsame]
  rfl

theorem recordPlan_context {later : RecordPlanCall} {persisted : PersistedPlan} {t : Store}
    (hdispatch : readDispatch host s identity later.planAttemptId = .ok dispatch)
    (hcontext : persistContext dispatch.providerAttemptId c s.provider = .ok q)
    (h : recordPlan host identity c later s = (.ok persisted, t)) : recordPlan host identity c later
    (s.withProvider q) = (.ok persisted, t) := by
  have hledger : q.ledger = s.ledger := by
    rw [persistContext_frame hcontext]
    rfl
  obtain ⟨⟨plan, found⟩, hadmitted, h⟩ := Tx.query_bind.1 h
  obtain ⟨_, s₁, hcompleted, hsettled⟩ := Tx.bind_ok.1 h
  obtain ⟨row, p', hrun, hstate, rfl⟩ := completeTurn_ok.1 hcompleted
  obtain rfl : found = dispatch := Except.ok.inj ((admitOutput_ok hadmitted).2.2.2.2.1.symm.trans hdispatch)
  refine Tx.query_bind.2 ⟨(plan, found), (admitOutput_withProvider hledger).trans hadmitted,
    Tx.bind_ok.2 ⟨(), s.withProvider p', ?_, hsettled⟩⟩
  exact completeTurn_ok.2 ⟨row, p', recordCompletedOutput_context hcontext hrun, hstate, rfl⟩

end Context

/-! ## Rejected plans -/

/-- The tables that a rejected plan leaves alone. -/
structure Unharmed (s s' : Store) : Prop where
  providerAttempts : s'.provider.providerAttempts = s.provider.providerAttempts
  completionOutputs : s'.provider.completionOutputs = s.provider.completionOutputs
  planAttempts : s'.planAttempts = s.planAttempts
  planArtifacts : s'.planArtifacts = s.planArtifacts

/-- A call that raises, and not for the owner, leaves the tables alone, and every plan of the turn that could be
recorded still can. -/
def RejectionHarmless (host : Host) (identity : TaskIdentity) (c : RecoveryContext) (call : RecordPlanCall) (s : Store) : Prop :=
  ∀ (e : Error) (s' : Store), recordPlan host identity c call s = (.error e, s') → e ≠ ownerInput →
    Unharmed s s' ∧ ∀ (later : RecordPlanCall) (persisted : PersistedPlan) (t : Store), later.planAttemptId = call.planAttemptId →
      recordPlan host identity c later s = (.ok persisted, t) → ∃ t', recordPlan host identity c later s' = (.ok persisted, t')

/-- The call gets to the completion of its turn, and the turn is open to it. -/
structure Completing (host : Host) (identity : TaskIdentity) (c : RecoveryContext) (call : RecordPlanCall) (s : Store)
    (plan : WorkerPlan) (dispatch : PlanningDispatch) (row : AttemptRow) : Prop where
  admitted : admitOutput host identity call s = .ok (plan, dispatch)
  context : validateContext host identity c = .ok ()
  turn : ∃ q, Authorized host identity c dispatch.providerAttemptId call.lease (call.now.getD call.completedAt) s.provider q row ∧
    TurnOpen q row dispatch.providerAttemptId (pointer call.planAttemptId) call.completionEvidenceFingerprint (plan.digest host)

theorem Settles.withProvider {p : Recovery.Store} (hledger : p.ledger = s.ledger) :
    Settles host identity call (s.withProvider p) plan ↔ Settles host identity call s plan := by
  have hlease : (s.withProvider p).ledger = s.ledger := hledger
  constructor
  · rintro ⟨hclock, hcurrent, hsummary, hartifact, hrecorded⟩
    rw [hlease] at hcurrent
    exact ⟨hclock, hcurrent, hsummary, hartifact, hrecorded⟩
  · rintro ⟨hclock, hcurrent, hsummary, hartifact, hrecorded⟩
    rw [← hlease] at hcurrent
    exact ⟨hclock, hcurrent, hsummary, hartifact, hrecorded⟩

/-- A rejected plan changes nothing exactly where the second transaction accepts every plan whose completion has been
written. -/
theorem rejected_plan_exact (host : Host) (identity : TaskIdentity) (c : RecoveryContext) (call : RecordPlanCall) (s : Store) :
    RejectionHarmless host identity c call s ↔ ∀ (plan : WorkerPlan) (dispatch : PlanningDispatch) (row : AttemptRow),
      Completing host identity c call s plan dispatch row → Settles host identity call s plan ∧
        ¬ (row.role = .supervisor ∧ ReviewedTwice s.provider identity.taskId dispatch.providerAttemptId) := by
  constructor
  · rintro h plan dispatch row ⟨hadmitted, hcontext, q, hauthorized, hopen⟩
    have hrun : recordPlan host identity c call s = (completeTurn host identity c call plan dispatch >>= fun _ =>
        settle host identity call plan) s := by
      unfold recordPlan
      rw [Tx.run_query_bind, hadmitted]
    rcases completeTurn_cases hadmitted with ⟨p', q', row', -, hauthorized', hcompleted, hcases, hread⟩ | ⟨hnone, -⟩
    · obtain rfl : q' = q := Except.ok.inj (hauthorized'.context.symm.trans hauthorized.context)
      obtain rfl : row' = row := Except.ok.inj (hauthorized'.attempt.symm.trans hauthorized.attempt)
      have hwritten : p'.providerAttempts ≠ s.provider.providerAttempts ∨ p'.completionOutputs ≠ s.provider.completionOutputs := by
        rcases hcases with ⟨⟨hstate, -, -, hbound⟩, -⟩ | ⟨-, hwritten⟩
        · rcases hopen with ⟨hdispatched, -⟩ | ⟨-, -, -, hnone⟩
          · rw [hstate] at hdispatched
            cases hdispatched
          · rw [hbound] at hnone
            cases hnone
        · exact hwritten
      have hharm : ∀ e, e ≠ ownerInput → recordPlan host identity c call s ≠ (.error e, s.withProvider p') := by
        intro e hne hresult
        obtain ⟨⟨hattempts, houtputs, -, -⟩, -⟩ := h e _ hresult hne
        rcases hwritten with hwritten | hwritten
        · exact hwritten hattempts
        · exact hwritten houtputs
      rcases hread with ⟨hvalid, hgoes⟩ | ⟨-, e, hne, hfails⟩
      · refine ⟨?_, hvalid⟩
        have hnormal := WorkerPlan.normalized_idem (admitOutput_ok hadmitted).2.2.2.1
        have hunowned : requireUnowned host (s.withProvider p') identity call.planAttemptId (plan.digest host) = .ok () := by
          rw [requireUnowned_withProvider hcompleted.ledger]
          exact (admitOutput_ok hadmitted).2.2.2.2.2
        rcases settle_cases hnormal hunowned with ⟨hsettles, -⟩ | ⟨-, e, hne, hfails⟩
        · exact (Settles.withProvider hcompleted.ledger).1 hsettles
        · refine absurd ?_ (hharm e hne)
          rw [hrun]
          simp only [bind, hgoes, hfails]
      · refine absurd ?_ (hharm e hne)
        rw [hrun]
        simp only [bind, hfails]
    · exact absurd hopen (hnone hcontext q row hauthorized)
  · intro h e s' hresult hne
    have hsame : s' = s → Unharmed s s' ∧ ∀ (later : RecordPlanCall) (persisted : PersistedPlan) (t : Store),
        later.planAttemptId = call.planAttemptId → recordPlan host identity c later s = (.ok persisted, t) →
          ∃ t', recordPlan host identity c later s' = (.ok persisted, t') := by
      rintro rfl
      exact ⟨⟨rfl, rfl, rfl, rfl⟩, fun later persisted t _ hlater => ⟨t, hlater⟩⟩
    unfold recordPlan at hresult
    rw [Tx.run_query_bind] at hresult
    cases hadmitted : admitOutput host identity call s with
    | error e' =>
      rw [hadmitted] at hresult
      exact hsame (Prod.mk.inj hresult).2.symm
    | ok admitted =>
      obtain ⟨plan, dispatch⟩ := admitted
      rw [hadmitted] at hresult
      dsimp only at hresult
      rcases completeTurn_cases (c := c)
        hadmitted with ⟨p', q, row, hcontext, hauthorized, hcompleted, hcases, hread⟩ | ⟨-, e', hfails⟩
      · have hnormal := WorkerPlan.normalized_idem (admitOutput_ok hadmitted).2.2.2.1
        have hunowned : requireUnowned host (s.withProvider p') identity call.planAttemptId (plan.digest host) = .ok () := by
          rw [requireUnowned_withProvider hcompleted.ledger]
          exact (admitOutput_ok hadmitted).2.2.2.2.2
        -- whatever stops the call after the completion leaves what the completion has left
        have hleft : s' = s.withProvider p' ∧ (Settles host identity call s plan →
            row.role = .supervisor ∧ ReviewedTwice s.provider identity.taskId dispatch.providerAttemptId) := by
          rcases hread with ⟨-, hgoes⟩ | ⟨htwice, e', -, hfails⟩
          · simp only [bind, hgoes] at hresult
            rcases settle_cases hnormal hunowned with ⟨-, ⟨persisted, hok⟩ | howner⟩ | ⟨hunsettled, e', -, hfails⟩
            · rw [hresult] at hok
              cases hok
            · rw [hresult] at howner
              exact absurd (Except.error.inj howner) hne
            · rw [hfails] at hresult
              exact ⟨(Prod.mk.inj hresult).2.symm, fun hsettles =>
                absurd ((Settles.withProvider hcompleted.ledger).2 hsettles) hunsettled⟩
          · simp only [bind, hfails] at hresult
            exact ⟨(Prod.mk.inj hresult).2.symm, fun _ => htwice⟩
        obtain ⟨rfl, htwice⟩ := hleft
        rcases hcases with ⟨-, rfl⟩ | ⟨hopen, -⟩
        · have hframe := persistContext_frame hauthorized.context
          refine ⟨⟨?_, ?_, rfl, rfl⟩, fun later persisted t hid hlater => ⟨t, recordPlan_context ?_ hauthorized.context hlater⟩⟩
          · show p'.providerAttempts = _
            rw [hframe]
          · show p'.completionOutputs = _
            rw [hframe]
          · rw [hid]
            exact (admitOutput_ok hadmitted).2.2.2.2.1
        · obtain ⟨hsettles, hvalid⟩ := h plan dispatch row ⟨hadmitted, hcontext, q, hauthorized, hopen⟩
          exact absurd (htwice hsettles) hvalid
      · simp only [bind, hfails] at hresult
        exact hsame (Prod.mk.inj hresult).2.symm

/-! ## A plan of another summary -/

namespace RejectionSample

open Provider.Sample (lease text digest context After)

/-- A task in planning and a lease. -/
def start : Recovery.Store :=
  let ledger : Ledger := { Provider.Sample.start.ledger with tasks :=
    ⟨[⟨Provider.Sample.identity, .planning, none, "/w"⟩], by decide⟩ }
  { Provider.Sample.start with ledger := ledger }

def planner : RecoveryContext := context .planning 0 (digest 2)

def request : PrepareRequest := { Provider.Sample.request with role := .planning }

def prepared : After (.prepare Provider.Sample.identity planner request (some lease) 10) start := ⟨_, rfl⟩
def opened : After (.session Provider.Sample.identity planner "attempt" "session" (some lease) 10) prepared.1 := ⟨_, rfl⟩
def dispatched : After (.turn Provider.Sample.identity planner "attempt" "session" "turn" (some lease) 10) opened.1 := ⟨_, rfl⟩

/-- A planning turn that is dispatched with a task summary as its input. -/
def store : Store where
  provider := dispatched.1
  planAttempts := ⟨[⟨"plan", "task", "attempt", "session", text 1, text 2, "summary", none, .initial, .dispatched, "", "turn", "process", 50,
    text 3, ""⟩], by decide⟩
  planArtifacts := .empty
  submittedPlans := .empty

/-- The turn returns a plan of this summary. -/
def recordCall (taskSummary : String) : RecordPlanCall where
  planAttemptId := "plan"
  output := ⟨"plan", "attempt", "session", "turn", text 2, text 1, ⟨taskSummary, [], [], ["built"], ["tested"], [], [], []⟩⟩
  completionEvidenceFingerprint := text 8
  lease := some lease
  now := some 10
  completedAt := 10
  settledAt := 10

/-- What a call has raised. -/
def raised? (x : Except Error PersistedPlan × Store) : Option Error :=
  match x.1 with
  | .ok _ => none
  | .error e => some e

/-- The stores after a plan of another summary, and after one of this. -/
def recorded (taskSummary : String) (s : Store) : Except Error PersistedPlan × Store :=
  recordPlan .sample Provider.Sample.identity planner (recordCall taskSummary) s

theorem course :
    raised? (recorded "other" store) = some (.workerPlanning "plan task summary does not match immutable planning input") ∧
      raised? (recorded "summary" store) = none ∧
      raised? (recorded "summary" (recorded "other" store).2) =
        some (.workerPlanning "completed output replay conflicts with committed content") := by
  decide +kernel

theorem raised?_eq_some {e : Error} (h : raised? x = some e) : x = (.error e, x.2) := by
  obtain ⟨_ | persisted, s⟩ := x
  · cases h
    rfl
  · cases h

theorem raised?_eq_none (h : raised? x = none) : ∃ persisted, x = (.ok persisted, x.2) := by
  obtain ⟨_ | persisted, s⟩ := x
  · cases h
  · exact ⟨persisted, rfl⟩

end RejectionSample

open RejectionSample in
/-- A plan of another summary is rejected with its turn completed; the plan that answers the input is refused from then
on. -/
theorem rejected_plan_closes_turn : ¬ RejectionHarmless .sample Provider.Sample.identity planner (recordCall "other") store ∧
    ∃ s' persisted t, recorded "other" store =
        (.error (.workerPlanning "plan task summary does not match immutable planning input"), s') ∧
      recorded "summary" store = (.ok persisted, t) ∧
      (recorded "summary" s').1 = .error (.workerPlanning "completed output replay conflicts with committed content") := by
  obtain ⟨hrejected, haccepted, hrefused⟩ := course
  have hother := raised?_eq_some hrejected
  have hlater := raised?_eq_some hrefused
  obtain ⟨persisted, hsummary⟩ := raised?_eq_none haccepted
  refine ⟨fun h => ?_, _, persisted, _, hother, hsummary, (Prod.ext_iff.1 hlater).1⟩
  obtain ⟨-, hstill⟩ := h _ _ hother (by decide)
  obtain ⟨t, ht⟩ := hstill (recordCall "summary") persisted _ rfl hsummary
  exact nomatch hlater.symm.trans ht

end Roundwright.Planning
