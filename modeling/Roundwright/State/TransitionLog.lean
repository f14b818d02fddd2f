/-
The transition log over whole runs. Every call that moves a task is one `Transitioned` step, every
admission one `Admitted` step; the log of each task is numbered, chained from `queued` to the task's
state, and detours through `blocked` exactly.
-/
import Roundwright.State.Routing
import Mathlib.Data.List.Chain

namespace Roundwright.State

open Lib

/-! ## What a call may do -/

/-- One transition of one task. -/
structure Transitioned (l l' : Ledger) (taskId : String) (fromState toState : TaskState) (evidence : String) :
    Prop where
  task : ∃ row, l.task? taskId = some row ∧ row.state = fromState ∧
    transitionIsAllowed fromState toState row.blockedFromState = true
  fresh : evidenceCommitted l taskId evidence = false
  tasks : l'.tasks.rows = l.tasks.rows.map (TaskRow.moved taskId fromState toState)
  events : l'.events.rows = l.events.rows ++ [⟨taskId, nextSequence l taskId, fromState, toState, evidence⟩]
  frame : l'.sources = l.sources ∧ l'.branchOwners = l.branchOwners ∧ l'.worktreeOwners = l.worktreeOwners

/-- The admission of one task. -/
structure Admitted (l l' : Ledger) (identity : TaskIdentity) : Prop where
  fresh : l.task? identity.taskId = none
  tasks : ∃ key, l'.tasks.rows = l.tasks.rows ++ [⟨identity, .queued, none, key⟩]
  events : l'.events = l.events
  sources : ∃ new, l'.sources.rows = l.sources.rows ++ new
  branches : ∃ new, l'.branchOwners.rows = l.branchOwners.rows ++ new
  worktrees : ∃ new, l'.worktreeOwners.rows = l.worktreeOwners.rows ++ new

variable {l l' : Ledger} {taskId : String} {fromState toState : TaskState}

variable {evidence : String}

/-- The writes of a transition, from the checks that come before them. -/
theorem recordTransition_transitioned (h : recordTransition taskId fromState toState evidence l = .ok l')
    (htask : ∃ row, l.task? taskId = some row ∧ row.state = fromState ∧
      transitionIsAllowed fromState toState row.blockedFromState = true)
    (hfresh : evidenceCommitted l taskId evidence = false) : Transitioned l l' taskId fromState toState evidence := by
  simp only [recordTransition, bind_eq_ok, exists_unit, refuse_eq_ok, demand_eq_ok, pure_eq_ok] at h
  obtain ⟨-, events, hins, rfl⟩ := h
  exact ⟨htask, hfresh, rfl, (Table.insert?_eq_some.1 hins).2, rfl, rfl, rfl⟩

variable {host : Host} {identity : TaskIdentity}

theorem requireMatchingTask_state {l : Ledger} {expected state : TaskState}
    (h : requireMatchingTask host l identity (some expected) = .ok state) :
    ∃ row, l.task? identity.taskId = some row ∧ row.state = expected := by
  obtain ⟨row, hrow, -, -, -, -, -, hs⟩ := requireMatchingTask_ok.1 h
  exact ⟨row, hrow, hs expected rfl⟩

variable {lease : Option TransitionLease} {now : Int}

variable {u : Unit}

theorem commitTransition_transitioned {expected next : TaskState} {validated : Bool}
    {decision : Except Error GateOutcome}
    (h : commitTransition host identity expected next evidence lease now validated decision l = (.ok u, l')) :
    Transitioned l l' identity.taskId expected next evidence := by
  simp only [commitTransition, Tx.query_bind, Tx.check_bind, Tx.write_bind, exists_unit, refuse_eq_ok, Tx.write_ok,
    Except.ok.injEq, exists_eq_left', Bool.not_eq_true] at h
  obtain ⟨-, ⟨state, hmatch, -, hallowed, hfresh, hrec⟩⟩ := h
  obtain ⟨row, hrow, hstate⟩ := requireMatchingTask_state hmatch
  rw [hrow, Option.bind_some, Bool.not_eq_false] at hallowed
  -- closing the blockers touches neither the tasks nor the log
  split at hrec
  · have ht := recordTransition_transitioned hrec ⟨row, hrow, hstate, hallowed⟩ hfresh
    exact ⟨ht.task, ht.fresh, ht.tasks, ht.events, ht.frame⟩
  · exact recordTransition_transitioned hrec ⟨row, hrow, hstate, hallowed⟩ hfresh

theorem recordSource_frame {snapshot : SourceSnapshot} (h : recordSource snapshot l = .ok l') :
    ∃ sources, l' = { l with sources } ∧ ∃ new, sources.rows = l.sources.rows ++ new := by
  unfold recordSource at h
  split at h
  · simp only [bind_eq_ok, demand_eq_ok, pure_eq_ok] at h
    obtain ⟨sources, hins, rfl⟩ := h
    exact ⟨sources, rfl, _, (Table.insert?_eq_some.1 hins).2⟩
  · simp only [bind_eq_ok, exists_unit, refuse_eq_ok, pure_eq_ok] at h
    exact ⟨l.sources, h.2.symm, [], by simp⟩

theorem mutateTask_admitted {snapshot : SourceSnapshot}
    (h : mutateTask host identity snapshot lease now l = (.ok u, l')) : Admitted l l' identity := by
  simp only [mutateTask, insertTask, Tx.query_bind, Tx.check_bind, Tx.write_bind, exists_unit, refuse_eq_ok,
    Tx.write_ok, bind_eq_ok, demand_eq_ok, pure_eq_ok] at h
  obtain ⟨-, l₁, hsrc, key, -, -, -, hnone, tasks, htasks, worktrees, hworktrees, branches, hbranches, rfl⟩ := h
  obtain ⟨sources, rfl, hnew⟩ := recordSource_frame hsrc
  refine ⟨Option.not_isSome_iff_eq_none.1 hnone, ⟨key, (Table.insert?_eq_some.1 htasks).2⟩, rfl, hnew,
    ⟨_, (Table.insert?_eq_some.1 hbranches).2⟩, ⟨_, (Table.insert?_eq_some.1 hworktrees).2⟩⟩

theorem admitTask_admitted {snapshots : List SourceSnapshot}
    (h : admitTask host identity snapshots lease now l = (.ok u, l')) : Admitted l l' identity := by
  simp only [admitTask, Tx.check_bind, exists_unit] at h
  obtain ⟨-, snapshot, -, -, -, h⟩ := h
  exact mutateTask_admitted h

theorem transitionTask_transitioned {expected next : TaskState} {decision : Except Error GateOutcome}
    (h : transitionTask host identity expected next evidence lease now decision l = (.ok u, l')) :
    Transitioned l l' identity.taskId expected next evidence := by
  simp only [transitionTask, Tx.check_bind, exists_unit] at h
  exact commitTransition_transitioned h.2.2.2

theorem recordPlanFindings_ledger {taskId planAttemptId : String} {observed : Int} :
    ∀ {findings : List (String × String)} {w w' : Workspace},
      recordPlanFindings host taskId planAttemptId observed findings w = .ok w' → w'.ledger = w.ledger
  | [], w, w', h => by cases h; rfl
  | (finding, findingId) :: rest, w, w', h => by
    unfold recordPlanFindings at h
    split at h
    · simp only [bind_eq_ok, demand_eq_ok] at h
      obtain ⟨planFindings, -, h⟩ := h
      exact (recordPlanFindings_ledger h).trans rfl
    · simp only [bind_eq_ok, exists_unit] at h
      exact recordPlanFindings_ledger h.2

variable {w w' : Workspace}

/-- Routing findings either replays a committed routing or moves the task back to planning. -/
theorem routePlanFindings_cases {planAttemptId : String} {findings identifiers : List String}
    (h : routePlanFindings host identity planAttemptId findings lease now w = (.ok identifiers, w')) :
    w' = w ∨ ∃ evidence, Transitioned w.ledger w'.ledger identity.taskId .planReview .planning evidence := by
  simp only [routePlanFindings, Tx.check_bind, Tx.query_bind, exists_unit] at h
  obtain ⟨-, normalized, -, -, -, state, hmatch, h⟩ := h
  obtain ⟨row, hrow, -, hstate, -⟩ := requireMatchingTask_ok.1 hmatch
  split at h
  · simp only [Tx.query_bind, exists_unit, Tx.pure_ok] at h
    exact .inl h.2.2.symm
  · simp only [reopenPlanning, Tx.bind_ok, Tx.query_ok, Tx.write_ok, Tx.pure_ok, bind_eq_ok, exists_unit, refuse_eq_ok,
      pure_eq_ok] at h
    obtain ⟨_, ⟨w₁, ⟨-, rfl⟩, w₂, hfind, w₃, ⟨hfresh, rfl⟩, ledger, hrec, rfl⟩, -, rfl⟩ := h
    have hledger := recordPlanFindings_ledger hfind
    rw [hledger] at hrec hfresh
    exact .inr ⟨_, recordTransition_transitioned hrec ⟨row, hrow, hstate, rfl⟩ (by simpa using hfresh)⟩
  · simp only [Tx.check_ok, reduceCtorEq, false_and] at h

variable {input : DiffReviewInput}

theorem recordDiffArtifact_ledger (h : recordDiffArtifact taskId input w = .ok w') : w'.ledger = w.ledger := by
  unfold recordDiffArtifact at h
  split at h
  · simp only [bind_eq_ok, demand_eq_ok, pure_eq_ok] at h
    obtain ⟨_, -, rfl⟩ := h; rfl
  · simp only [bind_eq_ok, exists_unit, pure_eq_ok] at h
    rw [h.2]

theorem recordDiffRoute_ledger (h : recordDiffRoute host taskId input w = .ok w') : w'.ledger = w.ledger := by
  simp only [recordDiffRoute, bind_eq_ok, demand_eq_ok] at h
  obtain ⟨thread, -, h⟩ := h
  split at h
  · simp only [bind_eq_ok, demand_eq_ok, pure_eq_ok] at h
    obtain ⟨_, -, rfl⟩ := h; rfl
  · simp only [bind_eq_ok, exists_unit, pure_eq_ok] at h
    rw [h.2]

/-- The product transaction of a diff review moves the task back to implementing exactly when the verdict
is FINDINGS. -/
theorem recordDiffReviewBody_cases {checks : DiffReviewChecks}
    (h : recordDiffReviewBody host identity input lease now checks w = (.ok u, w')) :
    w'.ledger = w.ledger ∨
      Transitioned w.ledger w'.ledger identity.taskId .diffReview .implementing input.boundOutputDigest := by
  simp only [recordDiffReviewBody, Tx.query_bind, exists_unit] at h
  obtain ⟨-, state, hmatch, h⟩ := h
  obtain ⟨row, hrow, hstate⟩ := requireMatchingTask_state hmatch
  cases hv : input.verdict with
  | findings =>
    simp only [hv, routeDiffFindings, Tx.check_bind, Tx.query_bind, Tx.write_bind, Tx.write_ok, exists_unit,
      refuse_eq_ok, bind_eq_ok, pure_eq_ok] at h
    obtain ⟨-, -, w₁, hart, w₂, hroute, -, -, hfresh, -, -, ledger, hrec, rfl⟩ := h
    have hledger := (recordDiffRoute_ledger hroute).trans (recordDiffArtifact_ledger hart)
    rw [hledger] at hrec hfresh
    exact .inr (recordTransition_transitioned hrec ⟨row, hrow, hstate, rfl⟩ (by simpa using hfresh))
  | pass =>
    simp only [hv, Tx.write_ok] at h
    exact .inl (recordDiffArtifact_ledger h)

/-! ## The log of one task -/

/-- The log of a task fits the task's row. -/
structure LifecycleLog (row : TaskRow) (log : List EventRow) : Prop where
  numbered : log.map (·.sequence) = List.range' 1 log.length
  starts : ∀ e, log.head? = some e → e.fromState = .queued
  chained : log.IsChain fun a b => b.fromState = a.toState
  current : row.state = (log.getLast?.map (·.toState)).getD .queued
  distinct : (log.map (·.evidenceFingerprint)).Nodup
  blocked : row.blockedFromState = if row.state = .blocked then log.getLast?.map (·.fromState) else none
  returns : log.IsChain fun a b => a.toState = .blocked → b.toState = a.fromState
  final : ∀ e ∈ log, e.fromState ≠ .readyForOwner

theorem LifecycleLog.admitted (identity : TaskIdentity) (key : String) :
    LifecycleLog ⟨identity, .queued, none, key⟩ [] :=
  ⟨rfl, by simp, .nil, rfl, .nil, rfl, .nil, by simp⟩

/-- The next number of a log numbered without gaps. -/
theorem max_range_succ (n : Nat) : (List.range' 1 n).max?.getD 0 + 1 = n + 1 := by
  cases n with
  | zero => rfl
  | succ n =>
    have hmax : (List.range' 1 (n + 1)).max? = some (n + 1) :=
      List.max?_eq_some_iff.2 ⟨by rw [List.mem_range'_1]; omega, fun b hb => by rw [List.mem_range'_1] at hb; omega⟩
    rw [hmax]; rfl

variable {blockedFrom : Option TaskState}

theorem allowed_returns {current next : TaskState} (h : transitionIsAllowed current next blockedFrom = true)
    (hb : current = .blocked) : blockedFrom = some next := by
  subst hb
  simpa [transitionIsAllowed] using And.right (by simpa [transitionIsAllowed] using h)

theorem allowed_not_final {current next : TaskState} (h : transitionIsAllowed current next blockedFrom = true) :
    current ≠ .readyForOwner := by
  rintro rfl
  simp [transitionIsAllowed, allowedTransitions] at h

/-- An allowed transition under fresh evidence extends the log. -/
theorem LifecycleLog.append {row : TaskRow} {log : List EventRow} (h : LifecycleLog row log) {next : TaskState}
    {taskId evidence : String} (hallowed : transitionIsAllowed row.state next row.blockedFromState = true)
    (hfresh : ∀ e ∈ log, e.evidenceFingerprint ≠ evidence) :
    LifecycleLog { row with state := next, blockedFromState := if next = .blocked then some row.state else none }
      (log ++ [⟨taskId, (log.map (·.sequence)).max?.getD 0 + 1, row.state, next, evidence⟩]) := by
  have hlast : ∀ a, log.getLast? = some a → row.state = a.toState := fun a ha => by rw [h.current, ha]; rfl
  refine ⟨?_, ?_, ?_, ?_, ?_, ?_, ?_, ?_⟩
  · rw [h.numbered, max_range_succ, List.map_append, h.numbered, List.length_append, List.length_singleton,
      List.range'_concat]
    simp [Nat.add_comm]
  · intro e he
    cases log with
    | nil => cases he; exact h.current
    | cons a rest => exact h.starts e he
  · refine List.isChain_append.2 ⟨h.chained, .singleton _, ?_⟩
    rintro a ha b ⟨⟩
    exact hlast a ha
  · simp
  · rw [List.map_append, List.map_singleton]
    refine List.nodup_append.2 ⟨h.distinct, List.nodup_singleton _, ?_⟩
    intro a ha b hb
    obtain ⟨e, he, rfl⟩ := List.mem_map.1 ha
    rw [List.mem_singleton.1 hb]
    exact hfresh e he
  · simp
  · refine List.isChain_append.2 ⟨h.returns, .singleton _, ?_⟩
    rintro a ha b ⟨⟩ hblocked
    -- the task is blocked, so its remembered state is where the detour began
    have hstate := (hlast a ha).trans hblocked
    have hfrom := allowed_returns hallowed hstate
    rw [h.blocked, if_pos hstate, ha] at hfrom
    exact (Option.some.inj hfrom).symm
  · intro e he
    rcases List.mem_append.1 he with he | he
    · exact h.final e he
    · rw [List.mem_singleton.1 he]; exact allowed_not_final hallowed

/-! ## Steps -/

/-- Every task fits its log, and every event belongs to a task. -/
structure LogInv (l : Ledger) : Prop where
  logs : ∀ row ∈ l.tasks.rows, LifecycleLog row (l.eventsOf row.identity.taskId)
  owned : ∀ e ∈ l.events.rows, ∃ row ∈ l.tasks.rows, row.identity.taskId = e.taskId

theorem LogInv.admitted (h : LogInv l) (ha : Admitted l l' identity) : LogInv l' := by
  obtain ⟨key, htasks⟩ := ha.tasks
  have hno : ∀ e ∈ l.events.rows, e.taskId ≠ identity.taskId := by
    intro e he heq
    obtain ⟨row, hrow, hid⟩ := h.owned e he
    have hsome := Ledger.task?_eq_some.2 ⟨hrow, hid.trans heq⟩
    rw [ha.fresh] at hsome
    cases hsome
  refine ⟨fun row hrow => ?_, fun e he => ?_⟩
  · rw [Ledger.eventsOf, ha.events]
    rw [htasks] at hrow
    rcases List.mem_append.1 hrow with hrow | hrow
    · exact h.logs row hrow
    · rw [List.mem_singleton.1 hrow, List.filter_eq_nil_iff.2 fun e he => by simpa using hno e he]
      exact .admitted identity key
  · rw [ha.events] at he
    obtain ⟨row, hrow, hid⟩ := h.owned e he
    exact ⟨row, by rw [htasks]; exact List.mem_append_left _ hrow, hid⟩

theorem LogInv.transitioned (h : LogInv l) (ht : Transitioned l l' taskId fromState toState evidence) : LogInv l' := by
  obtain ⟨row, hfind, rfl, hallowed⟩ := ht.task
  obtain ⟨hmem, hid⟩ := Ledger.task?_eq_some.1 hfind
  refine ⟨fun row' hrow' => ?_, fun e he => ?_⟩
  · rw [ht.tasks] at hrow'
    obtain ⟨old, hold, rfl⟩ := List.mem_map.1 hrow'
    rw [TaskRow.moved_identity, Ledger.eventsOf, ht.events]
    by_cases heq : old.identity.taskId = taskId
    · -- the task that moved: its log grows by the new event
      have hsame : old = row := Option.some.inj ((Ledger.task?_eq_some.2 ⟨hold, heq⟩).symm.trans hfind)
      subst hsame
      have hlog := h.logs old hold
      rw [heq] at hlog ⊢
      have hfresh : ∀ e ∈ l.eventsOf taskId, e.evidenceFingerprint ≠ evidence := by
        simpa [evidenceCommitted] using ht.fresh
      simpa [TaskRow.moved, heq, List.filter_append, nextSequence, Ledger.eventsOf] using
        hlog.append hallowed hfresh
    · have hstay : old.moved taskId row.state toState = old := by simp [TaskRow.moved, heq]
      rw [hstay, filter_append_none (by simpa using fun h => heq h.symm)]
      exact h.logs old hold
  · have hkeep : ∀ r ∈ l.tasks.rows, ∃ r' ∈ l'.tasks.rows, r'.identity.taskId = r.identity.taskId := fun r hr =>
      ⟨_, by rw [ht.tasks]; exact List.mem_map_of_mem hr, by rw [TaskRow.moved_identity]⟩
    rw [ht.events] at he
    rcases List.mem_append.1 he with he | he
    · obtain ⟨r, hr, hre⟩ := h.owned e he
      obtain ⟨r', hr', hre'⟩ := hkeep r hr
      exact ⟨r', hr', hre'.trans hre⟩
    · obtain ⟨r', hr', hre'⟩ := hkeep row hmem
      exact ⟨r', hr', by rw [hre', hid, List.mem_singleton.1 he]⟩

/-! ## Identities stay -/

theorem Transitioned.extends (ht : Transitioned l l' taskId fromState toState evidence) : l.Extends l' := by
  obtain ⟨hs, hb, hw⟩ := ht.frame
  refine ⟨fun t r hr => ⟨r.moved taskId fromState toState, ?_, TaskRow.moved_identity .., TaskRow.moved_worktreeKey ..⟩,
    fun s r hr => ?_, fun b o ho => ?_, fun k o ho => ?_⟩
  · have hmap := find?_map_key (g := fun r : TaskRow => r.identity.taskId) (l := l.tasks.rows)
      (f := TaskRow.moved taskId fromState toState) (fun a => by rw [TaskRow.moved_identity]) t
    unfold Ledger.task? at hr ⊢
    rw [ht.tasks, hmap, hr]; rfl
  · unfold Ledger.source? at hr ⊢; rw [hs]; exact hr
  · unfold Ledger.branchOwner? at ho ⊢; rw [hb]; exact ho
  · unfold Ledger.worktreeOwner? at ho ⊢; rw [hw]; exact ho

/-! ## Runs -/

/-- The calls that admit or move tasks. -/
inductive LifecycleCall where
  | admission (identity : TaskIdentity) (snapshots : List SourceSnapshot) (lease : Option TransitionLease) (now : Int)
  | transition (identity : TaskIdentity) (expected next : TaskState) (evidence : String)
      (lease : Option TransitionLease) (now : Int) (decision : Except Error GateOutcome)
  | readyForOwner (identity : TaskIdentity) (evidence : String) (lease : Option TransitionLease) (now : Int)
      (candidateEvidence : Except Error Unit) (decision : Except Error GateOutcome)
  | routePlan (identity : TaskIdentity) (planAttemptId : String) (findings : List String)
      (lease : Option TransitionLease) (now : Int)
  | recordDiff (identity : TaskIdentity) (input : DiffReviewInput) (lease : Option TransitionLease) (now : Int)
      (checks : DiffReviewChecks)

/-- A transaction over the ledger of a workspace. -/
def onLedger {α : Type} (body : Tx Error Ledger α) (w : Workspace) : Workspace :=
  { w with ledger := (transaction body w.ledger).2 }

/-- The workspace a call leaves behind. -/
def LifecycleCall.run (host : Host) (w : Workspace) : LifecycleCall → Workspace
  | .admission identity snapshots lease now => onLedger (admitTask host identity snapshots lease now) w
  | .transition identity expected next evidence lease now decision =>
    onLedger (transitionTask host identity expected next evidence lease now decision) w
  | .readyForOwner identity evidence lease now candidateEvidence decision =>
    onLedger (transitionReadyForOwner host identity evidence lease now candidateEvidence decision) w
  | .routePlan identity planAttemptId findings lease now =>
    (transaction (routePlanFindings host identity planAttemptId findings lease now) w).2
  | .recordDiff identity input lease now checks => (recordDiffReview host identity input lease now checks w).2

/-- One call, or anything the rest of the program does to the other tables. -/
inductive LifecycleStep (host : Host) : Workspace → Workspace → Prop
  | call (w : Workspace) (c : LifecycleCall) : LifecycleStep host w (c.run host w)
  | other {w w' : Workspace} (tasks : w'.ledger.tasks = w.ledger.tasks) (events : w'.ledger.events = w.ledger.events) :
      LifecycleStep host w w'

theorem allowed_ready {current : TaskState} (h : transitionIsAllowed current .readyForOwner blockedFrom = true) :
    current = .diffReview := by
  cases current <;> simp [transitionIsAllowed, allowedTransitions] at h ⊢

/-- What a call has made of the ledger. -/
inductive LifecycleEffect (host : Host) (l : Ledger) : LifecycleCall → Ledger → Prop
  | none {c : LifecycleCall} : LifecycleEffect host l c l
  | admitted {c : LifecycleCall} {l' : Ledger} {identity : TaskIdentity} (admitted : Admitted l l' identity) :
      LifecycleEffect host l c l'
  | moved {c : LifecycleCall} {l' : Ledger} {taskId evidence : String} {fromState toState : TaskState}
    (moved : Transitioned l l' taskId fromState toState evidence) (notFinal : toState ≠ .readyForOwner) : LifecycleEffect host l c l'
  | final {l' : Ledger} {identity : TaskIdentity} {evidence : String} {lease : Option TransitionLease} {now : Int}
    {candidateEvidence : Except Error Unit} {decision : Except Error GateOutcome}
    (committed : commitTransition host identity .diffReview .readyForOwner evidence lease now true decision l = (.ok (), l')) :
    LifecycleEffect host l (.readyForOwner identity evidence lease now candidateEvidence decision) l'

/-- A call leaves the ledger alone, admits one task, or moves one task. -/
theorem LifecycleCall.effect (host : Host) (w : Workspace) (c : LifecycleCall) : LifecycleEffect host w.ledger c
    (c.run host w).ledger := by
  cases c with
  | admission identity snapshots lease now =>
    rcases transaction_cases (admitTask host identity snapshots lease now) w.ledger with ⟨_, l', hb, ht⟩ | ⟨_, -, ht⟩
    · simp only [run, onLedger, ht]
      exact .admitted (admitTask_admitted hb)
    · simp only [run, onLedger, ht]
      exact .none
  | transition identity expected next evidence lease now decision =>
    rcases transaction_cases (transitionTask host identity expected next evidence lease now decision) w.ledger with
      ⟨_, l', hb, ht⟩ | ⟨_, -, ht⟩
    · have hmoved := transitionTask_transitioned hb
      simp only [run, onLedger, ht]
      refine .moved hmoved fun hready => ?_
      -- the general transition refuses the final one
      subst hready
      obtain ⟨row, -, -, hallowed⟩ := hmoved.task
      simp only [transitionTask, Tx.check_bind, exists_unit, refuse_eq_ok, and_true] at hb
      exact hb.2.2.1 (allowed_ready hallowed)
    · simp only [run, onLedger, ht]
      exact .none
  | readyForOwner identity evidence lease now candidateEvidence decision =>
    rcases transaction_cases (transitionReadyForOwner host identity evidence lease now candidateEvidence decision)
      w.ledger with ⟨_, l', hb, ht⟩ | ⟨_, -, ht⟩
    · simp only [transitionReadyForOwner, Tx.check_bind, exists_unit] at hb
      simp only [run, onLedger, ht]
      exact .final hb.2.2.2
    · simp only [run, onLedger, ht]
      exact .none
  | routePlan identity planAttemptId findings lease now =>
    rcases transaction_cases (routePlanFindings host identity planAttemptId findings lease now) w with
      ⟨_, w', hb, ht⟩ | ⟨_, -, ht⟩
    · simp only [run, ht]
      rcases routePlanFindings_cases hb with rfl | ⟨evidence, hmove⟩
      · exact .none
      · exact .moved hmove nofun
    · simp only [run, ht]
      exact .none
  | recordDiff identity input lease now checks =>
    simp only [run, recordDiffReview]
    cases checks.before with
    | error e => exact .none
    | ok _ =>
      rcases transaction_cases (recordDiffReviewBody host identity input lease now checks) w with
        ⟨_, w', hb, ht⟩ | ⟨_, -, ht⟩
      · simp only [ht]
        rcases recordDiffReviewBody_cases hb with hsame | hmove
        · rw [hsame]
          exact .none
        · exact .moved hmove nofun
      · simp only [ht]
        exact .none

theorem LifecycleCall.cases (host : Host) (w : Workspace) (c : LifecycleCall) :
    (c.run host w).ledger = w.ledger ∨ (∃ identity, Admitted w.ledger (c.run host w).ledger identity) ∨
    (∃ taskId fromState toState evidence,
      Transitioned w.ledger (c.run host w).ledger taskId fromState toState evidence) := by
  generalize hl : (c.run host w).ledger = l'
  have heffect := c.effect host w
  rw [hl] at heffect
  cases heffect with
  | none => exact .inl rfl
  | admitted admitted => exact .inr (.inl ⟨_, admitted⟩)
  | moved moved _ => exact .inr (.inr ⟨_, _, _, _, moved⟩)
  | final committed => exact .inr (.inr ⟨_, _, _, _, commitTransition_transitioned committed⟩)

theorem LifecycleStep.logInv (hs : LifecycleStep host w w') (h : LogInv w.ledger) : LogInv w'.ledger := by
  cases hs with
  | call c =>
    rcases c.cases host w with hsame | ⟨_, ha⟩ | ⟨_, _, _, _, ht⟩
    · rw [hsame]; exact h
    · exact h.admitted ha
    · exact h.transitioned ht
  | other tasks events =>
    refine ⟨fun row hrow => ?_, fun e he => ?_⟩
    · rw [Ledger.eventsOf, events]; exact h.logs row (tasks ▸ hrow)
    · rw [tasks]; exact h.owned e (events ▸ he)

/-- The log of every task, after any calls in any order with anything else in between: numbered from one
without gap, chained from `queued` to the task's state, no evidence used twice, the remembered state set
exactly while the task is blocked, every detour through `blocked` back to where it began, and no way out
of `ready-for-owner`. -/
theorem transition_log_replays {host : Host} {w₀ w : Workspace} (htasks : w₀.ledger.tasks.rows = [])
    (hevents : w₀.ledger.events.rows = []) (hrun : Relation.ReflTransGen (LifecycleStep host) w₀ w) {row : TaskRow}
    (hrow : row ∈ w.ledger.tasks.rows) :
    let log := w.ledger.eventsOf row.identity.taskId
    log.map (·.sequence) = List.range' 1 log.length ∧
    (∀ e, log.head? = some e → e.fromState = .queued) ∧
    log.IsChain (fun a b => b.fromState = a.toState) ∧
    row.state = (log.getLast?.map (·.toState)).getD .queued ∧
    (log.map (·.evidenceFingerprint)).Nodup ∧
    (row.blockedFromState.isSome ↔ row.state = .blocked) ∧
    (∀ s, row.blockedFromState = some s → ∃ e, log.getLast? = some e ∧ e.fromState = s) ∧
    log.IsChain (fun a b => a.toState = .blocked → b.toState = a.fromState) ∧
    (∀ e ∈ log, e.fromState ≠ .readyForOwner) := by
  have hinit : LogInv w₀.ledger := ⟨by rw [htasks]; simp, by rw [hevents]; simp⟩
  have hinv : LogInv w.ledger :=
    run_induction (P := fun w : Workspace => LogInv w.ledger) (fun _ _ hs h => hs.logInv h) hrun hinit
  have h := hinv.logs row hrow
  -- the log of the row says it all but for what is blocked
  refine ⟨h.numbered, h.starts, h.chained, h.current, h.distinct, ?_, fun s hs => ?_, h.returns, h.final⟩
  · rw [h.blocked]
    constructor
    · intro hsome
      by_contra hne
      rw [if_neg hne] at hsome
      cases hsome
    · intro hb
      have hlast := h.current.symm.trans hb
      cases hl : (w.ledger.eventsOf row.identity.taskId).getLast? with
      | none => rw [hl] at hlast; cases hlast
      | some e => rw [if_pos hb]; rfl
  · have hb := h.blocked
    rw [hs] at hb
    split at hb
    · obtain ⟨e, he, hfrom⟩ := Option.map_eq_some_iff.1 hb.symm
      exact ⟨e, he, hfrom⟩
    · cases hb

/-- A workspace with no tasks under a live lease. -/
def Workspace.leased (lease : TransitionLease) : Workspace where
  ledger := { Ledger.initial lease.stateIdentity with leases := ⟨[lease], List.pairwise_singleton ..⟩ }
  planAttempts := .empty
  planArtifacts := .empty
  submittedPlans := .empty
  planFindings := .empty
  diffAttempts := .empty
  diffArtifacts := .empty
  diffRoutes := .empty
  workerThread := fun _ => none

/-- A task that is blocked in planning and comes back to planning. -/
theorem transition_log_replays_detour :
    let lease : TransitionLease := ⟨"repository", "state", "owner", 3, 100⟩
    let identity : TaskIdentity := ⟨"task", "source", "repository", "branch", "/worktree", "00000000000000000000" ++
      "00000000000000000000"⟩
    let snapshot : SourceSnapshot := ⟨"source", "repository", (Hex.ofNat 64 0).text⟩
    let move (a b : TaskState) (n : Nat) : LifecycleCall :=
      .transition identity a b (Hex.ofNat 64 n).text (some lease) 50 (.ok .pending)
    let w := [LifecycleCall.admission identity [snapshot] (some lease) 50, move .queued .planning 1,
      move .planning .blocked 2, move .blocked .planning 3].foldl (LifecycleCall.run .sample) (.leased lease)
    (w.ledger.eventsOf "task").map (fun e => (e.sequence, e.fromState, e.toState)) =
      [(1, .queued, .planning), (2, .planning, .blocked), (3, .blocked, .planning)] ∧
    (w.ledger.eventsOf "task").IsChain (fun a b => a.toState = .blocked → b.toState = a.fromState) := by
  intro lease identity snapshot move w
  have hrun : Relation.ReflTransGen (LifecycleStep .sample) (.leased lease) w :=
    run_foldl (fun w c => .single (LifecycleStep.call w c)) _ _
  have hrow : (⟨identity, .planning, none, "/worktree"⟩ : TaskRow) ∈ w.ledger.tasks.rows := by decide +kernel
  have h := transition_log_replays rfl rfl hrun hrow
  exact ⟨by decide +kernel, h.2.2.2.2.2.2.2.1⟩

end Roundwright.State
