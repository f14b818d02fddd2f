/-
Submitting a plan for review. One transaction writes down which plan is under review, another one moves the task to its
review; what stops the second leaves what the first has written.
-/
import Roundwright.Planning.Rejection
import Roundwright.State.TransitionLog

namespace Roundwright.Planning

open Lib State

variable {host : Host} {identity : TaskIdentity} {s s' : Store} {plan : PersistedPlan}

/-! ## Submitting -/

/-- A call of `submit_plan_for_review`, with the wall clock of its two transactions. -/
structure SubmitCall where
  planAttemptId : String
  evidenceFingerprint : String
  lease : Option TransitionLease
  exposedAt : Int
  movedAt : Int

variable {call : SubmitCall}

namespace Store

/-- `SELECT plan_attempt_id, plan_digest FROM submitted_plan_reviews WHERE task_id = ?` -/
def submitted? (s : Store) (taskId : String) : Option SubmittedPlanRow := s.submittedPlans.rows.find? fun r => r.taskId = taskId

def withLedger (s : Store) (ledger : Ledger) : Store := { s with provider := { s.provider with ledger } }

end Store

/-- `_require_completed_dispatch` -/
def requireCompletedDispatch (s : Store) (identity : TaskIdentity) (planAttemptId : String) : Except Error Unit := do
  let attempt ← planAttempt s identity planAttemptId
  let provider := s.provider.providerAttempts.rows.find? fun r => r.attemptId = attempt.providerAttemptId ∧
    r.taskId = identity.taskId
  let expected (r : Provider.AttemptRow) : Bool :=
    r.role = .planning ∧ r.processLeaseId = attempt.processLeaseId ∧ r.processLeaseExpiresAt = attempt.processLeaseExpiresAt ∧
      r.sessionIdentity = some attempt.workerThreadIdentity ∧ r.externalTurnIdentity = some attempt.externalTurnIdentity ∧
      r.inputFingerprint = attempt.inputDigest ∧ r.state = .completed
  refuse (provider.any expected = false) (.workerPlanning "plan artifact is not bound to an exact completed provider turn")
  let artifact := s.planArtifacts.rows.find? fun r => r.planAttemptId = planAttemptId ∧ r.taskId = identity.taskId
  let completion := s.provider.completionOutputs.rows.find? fun r => r.attemptId = attempt.providerAttemptId
  refuse (artifact = none ∨ completion.map (·.outputFingerprint) ≠ artifact.map (·.contentDigest))
    (.workerPlanning "plan artifact content is not bound to the completed provider output")

/-- The first transaction. -/
def exposePlan (host : Host) (identity : TaskIdentity) (call : SubmitCall) (plan : PersistedPlan) : Tx Error Store Unit := do
  Tx.query fun s => requireLease s.ledger call.lease identity.repositoryId call.exposedAt
  let _ ← Tx.query fun s => requireMatchingTask host s.ledger identity (some .planning)
  Tx.query fun s => requireCompletedDispatch s identity call.planAttemptId
  Tx.write fun s =>
    match s.submitted? identity.taskId with
    | none => do
      let submittedPlans ← demand (s.submittedPlans.insert? ⟨identity.taskId, call.planAttemptId, plan.contentDigest⟩) .integrity
      return { s with submittedPlans }
    | some existing => do
      refuse ((existing.planAttemptId, existing.planDigest) ≠ (call.planAttemptId, plan.contentDigest))
        (.workerPlanning "a different plan is already submitted for review")
      return s

/-- What `task_projection` demands. -/
def requireProjection (host : Host) (l : Ledger) (identity : TaskIdentity) : Except Error Unit := do
  validateTaskIdentity host identity
  let _ ← requireMatchingTask host l identity none
  let _ ← demand (l.source? identity.sourceId) (.state "task source snapshot is missing")

/-- `submit_plan_for_review`. No gate decides on this transition. -/
def submitPlanForReview (host : Host) (identity : TaskIdentity) (call : SubmitCall) : Tx Error Store PersistedPlan := do
  let plan ← Tx.query fun s => persistedPlan host s identity call.planAttemptId
  Tx.check (refuse (plan.state ≠ .recorded ∨ plan.hasTrueBlockers = true)
    (.workerPlanning "only a complete unblocked plan can be submitted for review"))
  transaction (exposePlan host identity call plan)
  Tx.on Store.ledger Store.withLedger (transaction
    (transitionTask host identity .planning .planReview call.evidenceFingerprint call.lease call.movedAt (.ok .pass)))
  Tx.query fun s => requireProjection host s.ledger identity
  return plan

/-! ## The two transactions -/

/-- What the first transaction demands of the state, apart from the plan that may be submitted already. -/
structure Exposable (host : Host) (identity : TaskIdentity) (call : SubmitCall) (s : Store) (plan : PersistedPlan) : Prop where
  persisted : persistedPlan host s identity call.planAttemptId = .ok plan
  complete : plan.state = .recorded ∧ plan.hasTrueBlockers = false
  lease : requireLease s.ledger call.lease identity.repositoryId call.exposedAt = .ok ()
  planning : ∃ state, requireMatchingTask host s.ledger identity (some .planning) = .ok state
  dispatched : requireCompletedDispatch s identity call.planAttemptId = .ok ()

/-- What the second transaction demands, of a task in planning. -/
structure Moves (host : Host) (identity : TaskIdentity) (call : SubmitCall) (l : Ledger) : Prop where
  valid : validateTaskIdentity host identity = .ok ()
  evidence : isHex 64 call.evidenceFingerprint = true
  lease : requireCurrentTransitionLease l call.lease identity.repositoryId call.movedAt = .ok ()
  fresh : evidenceCommitted l identity.taskId call.evidenceFingerprint = false

/-- No plan is under review for the task, and this one for no other. -/
def Unsubmitted (identity : TaskIdentity) (call : SubmitCall) (s : Store) : Prop :=
  ∀ r ∈ s.submittedPlans.rows, r.taskId ≠ identity.taskId ∧ r.planAttemptId ≠ call.planAttemptId

theorem sequence_lt_next {l : Ledger} {taskId : String} {e : EventRow} (h : e ∈ l.eventsOf taskId) :
    e.sequence < nextSequence l taskId := by
  have hle : e.sequence ≤ ((l.eventsOf taskId).map (·.sequence)).max?.getD 0 := List.le_max?_getD_of_mem (List.mem_map_of_mem h)
  unfold nextSequence
  omega

/-- The transition commits exactly if it finds what it demands. -/
theorem transition_iff (call : SubmitCall) {l : Ledger}
    (hplanning : ∃ state, requireMatchingTask host l identity (some .planning) = .ok state) :
    (∃ l', transitionTask host identity .planning .planReview call.evidenceFingerprint call.lease call.movedAt (.ok .pass) l =
      (.ok (), l')) ↔ Moves host identity call l := by
  have hallowed : ∀ blockedFrom, transitionIsAllowed .planning .planReview blockedFrom = true := fun blockedFrom => rfl
  simp only [transitionTask, commitTransition, Tx.check_bind, Tx.query_bind, Tx.write_bind, exists_unit, refuse_eq_ok,
    Tx.write_ok, State.requireFingerprint, requireFinalGate, Except.ok.injEq, exists_eq_left', hallowed,
      Bool.not_eq_false, Bool.not_eq_true, reduceCtorEq,
    false_and, if_false, not_false_eq_true, true_and]
  constructor
  · rintro ⟨l', hvalid, hevidence, hlease, state, -, hfresh, -⟩
    exact ⟨hvalid, hevidence, hlease, hfresh⟩
  · rintro ⟨hvalid, hevidence, hlease, hfresh⟩
    obtain ⟨state, hstate⟩ := hplanning
    -- the next sequence and the evidence are new to the task
    have hapart : ∀ e ∈ l.events.rows, EventRow.clash e
        ⟨identity.taskId, nextSequence l identity.taskId, .planning, .planReview, call.evidenceFingerprint⟩ = false := by
      intro e he
      by_cases htask : e.taskId = identity.taskId
      · have hof : e ∈ l.eventsOf identity.taskId := List.mem_filter.2 ⟨he, by simpa using htask⟩
        have hsequence : e.sequence ≠ nextSequence l identity.taskId := (sequence_lt_next hof).ne
        have hnew : e.evidenceFingerprint ≠ call.evidenceFingerprint := by
          unfold evidenceCommitted at hfresh
          simpa using List.any_eq_false.1 hfresh e hof
        simp [EventRow.clash, hsequence, hnew]
      · simp [EventRow.clash, htask]
    obtain ⟨events, hinsert⟩ := Table.insert?_of_apart hapart
    have hrecorded : ∃ l', recordTransition identity.taskId .planning .planReview call.evidenceFingerprint l = .ok l' :=
      ⟨_, bind_eq_ok.2 ⟨(), refuse_eq_ok.2 (by decide), bind_eq_ok.2 ⟨events, demand_eq_ok.2 hinsert, rfl⟩⟩⟩
    obtain ⟨l', hrecorded⟩ := hrecorded
    exact ⟨l', hvalid, hevidence, hlease, state, hstate, hfresh, hrecorded⟩

/-- The row that says which plan is under review. -/
def submittedRow (identity : TaskIdentity) (call : SubmitCall) (plan : PersistedPlan) : SubmittedPlanRow :=
  ⟨identity.taskId, call.planAttemptId, plan.contentDigest⟩

theorem exposePlan_ok : exposePlan host identity call plan s = (.ok (), s') ↔
    requireLease s.ledger call.lease identity.repositoryId call.exposedAt = .ok () ∧
      (∃ state, requireMatchingTask host s.ledger identity (some .planning) = .ok state) ∧
      requireCompletedDispatch s identity call.planAttemptId = .ok () ∧
      ((s.submitted? identity.taskId = some (submittedRow identity call plan) ∧ s' = s) ∨
        (s.submitted? identity.taskId = none ∧
          ∃ submittedPlans, s.submittedPlans.insert? (submittedRow identity call plan) = some submittedPlans ∧
            s' = { s with submittedPlans })) := by
  simp only [exposePlan, Tx.query_bind, exists_unit, Tx.write_ok]
  constructor
  · rintro ⟨hlease, state, hstate, hdispatch, h⟩
    refine ⟨hlease, ⟨state, hstate⟩, hdispatch, ?_⟩
    cases hsubmitted : s.submitted? identity.taskId with
    | none =>
      rw [hsubmitted] at h
      obtain ⟨submittedPlans, hinsert, h⟩ := bind_eq_ok.1 h
      exact .inr ⟨rfl, submittedPlans, demand_eq_ok.1 hinsert, (Except.ok.inj h).symm⟩
    | some existing =>
      rw [hsubmitted] at h
      obtain ⟨_, hsame, h⟩ := bind_eq_ok.1 h
      have htask : existing.taskId = identity.taskId := by simpa using List.find?_some hsubmitted
      rw [refuse_eq_ok, not_not] at hsame
      obtain ⟨hattempt, hdigest⟩ := Prod.mk.inj hsame
      refine .inl ⟨?_, (Except.ok.inj h).symm⟩
      obtain ⟨taskId, planAttemptId, planDigest⟩ := existing
      dsimp only at htask hattempt hdigest
      rw [submittedRow, htask, hattempt, hdigest]
  · rintro ⟨hlease, ⟨state, hstate⟩, hdispatch, ⟨hsubmitted, rfl⟩ | ⟨hsubmitted, submittedPlans, hinsert, rfl⟩⟩
    · refine ⟨hlease, state, hstate, hdispatch, ?_⟩
      rw [hsubmitted]
      exact bind_eq_ok.2 ⟨(), refuse_eq_ok.2 (not_not.2 rfl), rfl⟩
    · refine ⟨hlease, state, hstate, hdispatch, ?_⟩
      rw [hsubmitted]
      exact bind_eq_ok.2 ⟨submittedPlans, demand_eq_ok.2 hinsert, rfl⟩

theorem exposePlan_ledger (h : exposePlan host identity call plan s = (.ok (), s')) : s'.ledger = s.ledger := by
  obtain ⟨-, -, -, ⟨-, rfl⟩ | ⟨-, submittedPlans, -, rfl⟩⟩ := exposePlan_ok.1 h
  · rfl
  · rfl

theorem exposable_iff : Exposable host identity call s plan ∧
    (s.submitted? identity.taskId = some (submittedRow identity call plan) ∨
      Unsubmitted identity call s) ↔
    persistedPlan host s identity call.planAttemptId = .ok plan ∧ (plan.state = .recorded ∧ plan.hasTrueBlockers = false) ∧
      ∃ s', exposePlan host identity call plan s = (.ok (), s') := by
  have hinsert : Unsubmitted identity call s ↔ s.submitted? identity.taskId = none ∧
      ∃ submittedPlans, s.submittedPlans.insert? (submittedRow identity call plan) = some submittedPlans := by
    constructor
    · intro h
      refine ⟨List.find?_eq_none.2 fun r hr => by simpa using (h r hr).1, Table.insert?_of_apart fun r hr => ?_⟩
      simp [SubmittedPlanRow.clash, submittedRow, h r hr]
    · rintro ⟨-, submittedPlans, hinsert⟩ r hr
      have hclash := (Table.insert?_eq_some.1 hinsert).1 r hr
      simpa [SubmittedPlanRow.clash, submittedRow] using hclash
  constructor
  · rintro ⟨⟨hpersisted, hcomplete, hlease, hplanning, hdispatched⟩, hrow⟩
    refine ⟨hpersisted, hcomplete, ?_⟩
    rcases hrow with hrow | hnew
    · exact ⟨s, exposePlan_ok.2 ⟨hlease, hplanning, hdispatched, .inl ⟨hrow, rfl⟩⟩⟩
    · obtain ⟨hnone, submittedPlans, hinserted⟩ := hinsert.1 hnew
      exact ⟨_, exposePlan_ok.2 ⟨hlease, hplanning, hdispatched, .inr ⟨hnone, submittedPlans, hinserted, rfl⟩⟩⟩
  · rintro ⟨hpersisted, hcomplete, s', hexposed⟩
    obtain ⟨hlease, hplanning, hdispatched, ⟨hrow, -⟩ | ⟨hnone, submittedPlans, hinserted, -⟩⟩ := exposePlan_ok.1 hexposed
    · exact ⟨⟨hpersisted, hcomplete, hlease, hplanning, hdispatched⟩, .inl hrow⟩
    · exact ⟨⟨hpersisted, hcomplete, hlease, hplanning, hdispatched⟩, .inr (hinsert.2 ⟨hnone, submittedPlans, hinserted⟩)⟩

/-! ## All or nothing -/

/-- A submission that returns has the task in its review and exactly this plan under review. One that raises leaves both
tables alone, and every submission that was possible still is. -/
def AllOrNothing (host : Host) (identity : TaskIdentity) (call : SubmitCall) (s : Store) : Prop :=
  match submitPlanForReview host identity call s with
  | (.ok plan, s') => (s'.ledger.task? identity.taskId).map (·.state) = some .planReview ∧
      s'.submitted? identity.taskId = some (submittedRow identity call plan)
  | (.error _, s') => s'.submittedPlans = s.submittedPlans ∧ s'.ledger.tasks = s.ledger.tasks ∧
      ∀ (later : SubmitCall) (plan : PersistedPlan) (t : Store), submitPlanForReview host identity later s = (.ok plan, t) →
        ∃ t', submitPlanForReview host identity later s' = (.ok plan, t')

/-- The task can be moved once its plan is submitted, and what is moved can be read. -/
def Completes (host : Host) (identity : TaskIdentity) (call : SubmitCall) (s : Store) : Prop :=
  (Unsubmitted identity call s → Moves host identity call s.ledger) ∧
    (Moves host identity call s.ledger → (s.ledger.source? identity.sourceId).isSome = true)

/-- What a call does to a plan that cannot be submitted. -/
theorem submit_unexposed (h : ∀ plan, Exposable host identity call s plan →
      s.submitted? identity.taskId ≠ some (submittedRow identity call plan) ∧ ¬ Unsubmitted identity call s) :
    ∃ e, submitPlanForReview host identity call s = (.error e, s) := by
  unfold submitPlanForReview
  rw [Tx.run_query_bind]
  cases hpersisted : persistedPlan host s identity call.planAttemptId with
  | error e => exact ⟨e, rfl⟩
  | ok plan =>
    dsimp only
    rw [Tx.run_check_bind]
    by_cases hcomplete : plan.state ≠ .recorded ∨ plan.hasTrueBlockers = true
    · rw [refuse, if_pos hcomplete]
      exact ⟨_, rfl⟩
    · rw [refuse_of_not hcomplete]
      dsimp only
      rw [run_transaction_bind]
      rcases hexposed : exposePlan host identity call plan s with ⟨e | u, s'⟩
      · exact ⟨e, rfl⟩
      · have hstate : plan.state = .recorded ∧ plan.hasTrueBlockers = false := by
          simpa [not_or] using hcomplete
        obtain ⟨hexposable, hrow⟩ := exposable_iff.2 ⟨hpersisted, hstate, s', hexposed⟩
        obtain ⟨hno, hno'⟩ := h plan hexposable
        exact (hrow.elim hno hno').elim

/-- What follows the first transaction. -/
def moveTask (host : Host) (identity : TaskIdentity) (call : SubmitCall) (plan : PersistedPlan) : Tx Error Store PersistedPlan := do
  Tx.on Store.ledger Store.withLedger (transaction
    (transitionTask host identity .planning .planReview call.evidenceFingerprint call.lease call.movedAt (.ok .pass)))
  Tx.query fun s => requireProjection host s.ledger identity
  return plan

theorem submit_exposed (h : Exposable host identity call s plan) (hexposed : exposePlan host identity call plan s = (.ok (), s')) :
    submitPlanForReview host identity call s = moveTask host identity call plan s' := by
  unfold submitPlanForReview
  rw [Tx.run_query_bind, h.persisted]
  dsimp only
  have hcomplete : ¬ (plan.state ≠ .recorded ∨ plan.hasTrueBlockers = true) := by
    simpa [not_or] using h.complete
  rw [Tx.run_check_bind, refuse_of_not hcomplete]
  dsimp only
  rw [run_transaction_bind, hexposed]
  rfl

theorem task?_moved {l l' : Ledger} (h : Transitioned l l' identity.taskId .planning .planReview call.evidenceFingerprint) :
    (l'.task? identity.taskId).map (·.state) = some .planReview ∧ l'.tasks ≠ l.tasks := by
  obtain ⟨row, hrow, hstate, -⟩ := h.task
  have hid : row.identity.taskId = identity.taskId := by
    unfold Ledger.task? at hrow
    simpa using List.find?_some hrow
  have hmoved : l'.task? identity.taskId = some (row.moved identity.taskId .planning .planReview) := by
    have hmap := find?_map_key (g := fun r : TaskRow => r.identity.taskId) (l := l.tasks.rows)
      (f := TaskRow.moved identity.taskId .planning .planReview) (fun a => by rw [TaskRow.moved_identity]) identity.taskId
    unfold Ledger.task? at hrow ⊢
    rw [h.tasks, hmap, hrow]
    rfl
  have hnext : (row.moved identity.taskId .planning .planReview).state = .planReview := by
    simp [TaskRow.moved, hid, hstate]
  refine ⟨by rw [hmoved, Option.map_some, hnext], fun heq => ?_⟩
  unfold Ledger.task? at hmoved hrow
  rw [heq, hrow] at hmoved
  have hsame := congrArg TaskRow.state (Option.some.inj hmoved)
  rw [hstate, hnext] at hsame
  cases hsame

theorem moveTask_cases (call : SubmitCall) (plan : PersistedPlan)
    (hplanning : ∃ state, requireMatchingTask host s.ledger identity (some .planning) = .ok state) :
    (¬ Moves host identity call s.ledger ∧ ∃ e, moveTask host identity call plan s = (.error e, s)) ∨
      (Moves host identity call s.ledger ∧ ∃ l', Transitioned s.ledger l' identity.taskId .planning .planReview
        call.evidenceFingerprint ∧
        (((s.ledger.source? identity.sourceId).isSome = true ∧ moveTask host identity call plan s = (.ok plan, s.withLedger l')) ∨
          (s.ledger.source? identity.sourceId = none ∧ ∃ e, moveTask host identity call plan s = (.error e, s.withLedger l')))) := by
  have hmoves := transition_iff call hplanning
  rcases hrun : transitionTask host identity .planning .planReview call.evidenceFingerprint call.lease call.movedAt
    (.ok .pass) s.ledger with ⟨e | u, l'⟩
  · have hmove : moveTask host identity call plan s = (.error e, s) := by
      simp only [moveTask, bind, Tx.on, transaction, hrun]
      rfl
    refine .inl ⟨fun h => ?_, e, hmove⟩
    obtain ⟨l'', hgoes⟩ := hmoves.2 h
    rw [hrun] at hgoes
    cases hgoes
  · have hmoved : Transitioned s.ledger l' identity.taskId .planning .planReview call.evidenceFingerprint :=
      transitionTask_transitioned hrun
    have hvalid : Moves host identity call s.ledger := hmoves.1 ⟨l', hrun⟩
    refine .inr ⟨hvalid, l', hmoved, ?_⟩
    -- the task that is moved is still the same task
    have hmatching : ∃ state, requireMatchingTask host l' identity none = .ok state := by
      obtain ⟨state, hstate⟩ := hplanning
      obtain ⟨row, hrow, hid, hsame, hkey, hbranch, hworktree, -⟩ := requireMatchingTask_ok.1 hstate
      exact hmoved.extends.matchingTask
        (requireMatchingTask_ok.2 ⟨row, hrow, hid, hsame, hkey, hbranch, hworktree, fun _ h => by cases h⟩)
    obtain ⟨state, hstate⟩ := hmatching
    have hsources : l'.source? identity.sourceId = s.ledger.source? identity.sourceId := by
      unfold Ledger.source?
      rw [hmoved.frame.1]
    have hread : requireProjection host l' identity =
        (demand (s.ledger.source? identity.sourceId) (.state "task source snapshot is missing")).map fun _ => () := by
      rw [requireProjection, hvalid.valid, ok_bind, hstate, ok_bind, hsources]
      cases s.ledger.source? identity.sourceId <;> rfl
    have hmove : moveTask host identity call plan s =
        ((demand (s.ledger.source? identity.sourceId) (.state "task source snapshot is missing")).map fun _ => plan,
          s.withLedger l') := by
      simp only [moveTask, bind, Tx.on, transaction, hrun, Tx.query]
      rw [show (s.withLedger l').ledger = l' from rfl, hread]
      cases s.ledger.source? identity.sourceId <;> rfl
    rw [hmove]
    cases s.ledger.source? identity.sourceId with
    | none => exact .inr ⟨rfl, _, rfl⟩
    | some row => exact .inl ⟨rfl, rfl⟩

/-- A submission is all or nothing exactly where the task of every plan that can be submitted can be moved and read. -/
theorem submission_exact (host : Host) (identity : TaskIdentity) (call : SubmitCall) (s : Store) :
    AllOrNothing host identity call s ↔ ∀ plan, Exposable host identity call s plan →
      s.submitted? identity.taskId = some (submittedRow identity call plan) ∨ Unsubmitted identity call s →
        Completes host identity call s := by
  have hsame : ∀ e, submitPlanForReview host identity call s = (.error e, s) → AllOrNothing host identity call s := by
    intro e h
    unfold AllOrNothing
    rw [h]
    exact ⟨rfl, rfl, fun later plan t hlater => ⟨t, hlater⟩⟩
  constructor
  · intro h plan hexposable hrow
    obtain ⟨hpersisted, hcomplete, s₁, hexposed⟩ := exposable_iff.1 ⟨hexposable, hrow⟩
    have hrun := submit_exposed hexposable hexposed
    obtain ⟨-, -, -, hcases⟩ := exposePlan_ok.1 hexposed
    have hledger := exposePlan_ledger hexposed
    unfold AllOrNothing at h
    rw [hrun] at h
    have hplanning := hexposable.planning
    rw [← hledger] at hplanning
    rcases moveTask_cases call plan hplanning with ⟨hstays, e, hmove⟩ | ⟨hmoves, l', hmoved, hmove⟩
    · rw [hledger] at hstays
      rw [hmove] at h
      refine ⟨fun hnew => ?_, fun hmoves => absurd hmoves hstays⟩
      -- the row that was written is still there
      rcases hcases with ⟨hsubmitted, -⟩ | ⟨-, submittedPlans, hinsert, rfl⟩
      · exact absurd rfl (hnew _ (List.mem_of_find?_eq_some hsubmitted)).1
      · have hrows := (Table.insert?_eq_some.1 hinsert).2
        rw [show submittedPlans = s.submittedPlans from h.1] at hrows
        simp at hrows
    · rw [hledger] at hmoves hmoved hmove
      refine ⟨fun _ => hmoves, fun _ => ?_⟩
      rcases hmove with ⟨hsource, -⟩ | ⟨-, e, hmove⟩
      · exact hsource
      · rw [hmove] at h
        exact absurd h.2.1 (task?_moved hmoved).2
  · intro h
    by_cases hexposable : ∃ plan, Exposable host identity call s plan ∧
        (s.submitted? identity.taskId = some (submittedRow identity call plan) ∨ Unsubmitted identity call s)
    · obtain ⟨plan, hexposable, hrow⟩ := hexposable
      obtain ⟨hnew, hsource⟩ := h plan hexposable hrow
      obtain ⟨hpersisted, hcomplete, s₁, hexposed⟩ := exposable_iff.1 ⟨hexposable, hrow⟩
      have hrun := submit_exposed hexposable hexposed
      obtain ⟨-, -, -, hcases⟩ := exposePlan_ok.1 hexposed
      have hledger := exposePlan_ledger hexposed
      have hplanning := hexposable.planning
      rw [← hledger] at hplanning
      rcases moveTask_cases call plan hplanning with ⟨hstays, e, hmove⟩ | ⟨hmoves, l', hmoved, hmove⟩
      · rw [hledger] at hstays
        rcases hcases with ⟨-, rfl⟩ | ⟨hnone, submittedPlans, hinsert, rfl⟩
        · exact hsame e (hrun.trans hmove)
        · refine absurd (hnew fun r hr => ?_) hstays
          have hclash := (Table.insert?_eq_some.1 hinsert).1 r hr
          simpa [SubmittedPlanRow.clash, submittedRow] using hclash
      · rw [hledger] at hmoves hmoved hmove
        rcases hmove with ⟨-, hmove⟩ | ⟨hnone, -⟩
        · unfold AllOrNothing
          rw [hrun, hmove]
          refine ⟨(task?_moved hmoved).1, ?_⟩
          rcases hcases with ⟨hsubmitted, rfl⟩ | ⟨hnone, submittedPlans, hinsert, rfl⟩
          · exact hsubmitted
          · show submittedPlans.rows.find? _ = _
            unfold Store.submitted? at hnone
            rw [(Table.insert?_eq_some.1 hinsert).2, List.find?_append, hnone]
            simp [submittedRow]
        · have hsome := hsource hmoves
          rw [hnone] at hsome
          cases hsome
    · have hunexposed : ∃ e, submitPlanForReview host identity call s = (.error e, s) := submit_unexposed fun plan hplan =>
        ⟨fun hrow => hexposable ⟨plan, hplan, .inl hrow⟩, fun hrow => hexposable ⟨plan, hplan, .inr hrow⟩⟩
      obtain ⟨e, hfails⟩ := hunexposed
      exact hsame e hfails

/-! ## A submission without evidence -/

namespace SubmissionSample

open Provider.Sample (lease text)

/-- The plan of a completed turn, recorded and without blockers. -/
def recorded : Store where
  provider := { RejectionSample.start with
    providerAttempts := ⟨[⟨"attempt", "task", .planning, 1, "process", 50, some "session", some "turn", text 2, some "plan:plan", some (text 8),
      none, .completed, text 4, 0, 0⟩], by simp⟩
    completionOutputs := ⟨[⟨"attempt", text 9⟩], by simp⟩ }
  planAttempts := ⟨[⟨"plan", "task", "attempt", "session", text 1, text 2, "summary", none, .initial, .recorded, "", "turn", "process", 50,
    text 3, ""⟩], by simp⟩
  planArtifacts := ⟨[⟨"plan", "task", ⟨"summary", [], [], ["built"], ["tested"], [], [], []⟩, text 9⟩], by simp⟩
  submittedPlans := .empty

/-- The evidence is no fingerprint. -/
def submitCall : SubmitCall := ⟨"plan", "evidence", some lease, 10, 10⟩

/-- What a submission has raised, and the plans that are under review after it. -/
def outcome (x : Except Error PersistedPlan × Store) : Option Error × List SubmittedPlanRow × List TaskState :=
  (match x.1 with
    | .ok _ => none
    | .error e => some e,
  x.2.submittedPlans.rows, x.2.ledger.tasks.rows.map (·.state))

theorem course : outcome (submitPlanForReview .sample Provider.Sample.identity submitCall recorded) =
    (some (.state "evidence fingerprint is not a lowercase SHA-256 value"), [⟨"task", "plan", text 9⟩], [.planning]) := by
  decide +kernel

end SubmissionSample

open SubmissionSample in
/-- A submission whose evidence is refused raises with its plan under review, and the task still in planning. -/
theorem refused_submission_exposed :
    outcome (submitPlanForReview .sample Provider.Sample.identity submitCall recorded) =
      (some (.state "evidence fingerprint is not a lowercase SHA-256 value"),
        [⟨"task", "plan", Provider.Sample.text 9⟩], [.planning]) ∧
    ¬ AllOrNothing .sample Provider.Sample.identity submitCall recorded := by
  refine ⟨course, fun h => ?_⟩
  have hcourse := course
  unfold AllOrNothing at h
  unfold outcome at hcourse
  rcases hrun : submitPlanForReview .sample Provider.Sample.identity submitCall recorded with ⟨e | plan, s'⟩
  · rw [hrun] at h hcourse
    have hrows := (Prod.mk.inj (Prod.mk.inj hcourse).2).1
    rw [show s'.submittedPlans = recorded.submittedPlans from h.1] at hrows
    cases hrows
  · rw [hrun] at hcourse
    cases hcourse

end Roundwright.Planning
