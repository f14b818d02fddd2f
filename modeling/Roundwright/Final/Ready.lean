/-
The final state of a task over whole runs. The calls that move tasks are those of the transition log, and only one of
them ends in `ready-for-owner`: the final transition, whose transaction has read a passing decision. Whatever else the
clients do between them, a task that has become ready for its owner was cleared in the state that transaction began in.
-/
import Roundwright.Final.Decision
import Roundwright.Gate.Invariant

namespace Roundwright.Final

open Lib State Gate

/-! ## The database -/

/-- The tables of the gates, the plans and the reviews over one ledger. -/
structure Database where
  gate : Gate.Store
  workspace : Workspace
  reviewItems : Table ReviewItemRow.clash
  oneLedger : workspace.ledger = gate.ledger

namespace Database

def ledger (db : Database) : Ledger := db.gate.ledger

def state? (db : Database) (taskId : String) : Option TaskState := (db.ledger.task? taskId).map (·.state)

/-- The decision of the connection a call works on. -/
def decision (host : Host) (db : Database) (identity : TaskIdentity) : Except Error GateOutcome :=
  (decisionFromConnection host db.gate db.reviewItems identity).map (·.outcome)

end Database

/-! ## Steps -/

/-- The decision a call has read is that of its connection; nothing is written before it. -/
def Decides (host : Host) (db : Database) : LifecycleCall → Prop
  | .transition identity _ _ _ _ _ decision => decision = db.decision host identity
  | .readyForOwner identity _ _ _ _ decision => decision = db.decision host identity
  | _ => True

/-- One transaction of some client: a call that admits or moves tasks, or anything that moves none. -/
inductive Step (host : Host) (db db' : Database) : Prop where
  | lifecycle (call : LifecycleCall) (decides : Decides host db call) (ran : db'.workspace = call.run host db.workspace)
    (gate : db'.gate = { db.gate with ledger := db'.workspace.ledger })
  | other (states : ∀ taskId, db'.state? taskId = db.state? taskId)

def Run (host : Host) : Database → Database → Prop := Relation.ReflTransGen (Step host)

/-- The database a call leaves behind. -/
def Database.after (host : Host) (db : Database) (call : LifecycleCall) : Database where
  gate := { db.gate with ledger := (call.run host db.workspace).ledger }
  workspace := call.run host db.workspace
  reviewItems := db.reviewItems
  oneLedger := rfl

theorem Step.after {host : Host} {db : Database} {call : LifecycleCall} (h : Decides host db call) : Step host db
    (db.after host call) :=
  .lifecycle call h rfl rfl

/-! ## What moves a task -/

section Moves

variable {l l' : Ledger}

theorem Transitioned.state_cases {moved evidence : String} {fromState toState : TaskState}
    (h : Transitioned l l' moved fromState toState evidence) (taskId : String) :
    (l'.task? taskId).map (·.state) = (l.task? taskId).map (·.state) ∨
      (taskId = moved ∧ (l'.task? taskId).map (·.state) = some toState) := by
  have htask : l'.task? taskId = (l.task? taskId).map (TaskRow.moved moved fromState toState) := by
    unfold Ledger.task?
    rw [h.tasks]
    exact find?_map_key (g := fun r : TaskRow => r.identity.taskId) (fun a => by rw [TaskRow.moved_identity]) taskId
  by_cases hmoved : taskId = moved
  · obtain ⟨row, hrow, hstate, -⟩ := h.task
    have hid := (Ledger.task?_eq_some.1 hrow).2
    refine .inr ⟨hmoved, ?_⟩
    rw [htask, hmoved, hrow]
    simp [TaskRow.moved, hid, hstate]
  · left
    rw [htask, Option.map_map]
    cases hrow : l.task? taskId with
    | none => rfl
    | some row =>
      have hid := (Ledger.task?_eq_some.1 hrow).2
      simp [TaskRow.moved, hid, hmoved]

/-- An admission leaves the tasks that are there. -/
theorem Admitted.state_cases {identity : TaskIdentity} (h : Admitted l l' identity) (taskId : String) :
    (l'.task? taskId).map (·.state) = (l.task? taskId).map (·.state) ∨ (l'.task? taskId).map (·.state) = some .queued := by
  obtain ⟨key, htasks⟩ := h.tasks
  unfold Ledger.task?
  rw [htasks, List.find?_append]
  cases hrow : l.tasks.rows.find? fun r => r.identity.taskId = taskId with
  | some row => exact .inl rfl
  | none =>
    rw [Option.none_or]
    by_cases hid : identity.taskId = taskId
    · right
      simp [hid]
    · left
      simp [hid]

end Moves

/-! ## The final transition -/

/-- The transaction of `_commit_transition` from `diff-review` to `ready-for-owner`, and what it has seen. -/
structure FinalTransition (host : Host) (db db' : Database) (taskId : String) (identity : TaskIdentity)
    (evidence : String) (lease : TransitionLease) (now : Int) : Prop where
  task : identity.taskId = taskId
  committed : commitTransition host identity .diffReview .readyForOwner evidence (some lease) now true
    (db.decision host identity) db.ledger = (.ok (), db'.ledger)
  current : db.ledger.leases.rows.head? = some lease ∧ lease.repositoryId = identity.repositoryId ∧
    db.ledger.stateIdentity = some lease.stateIdentity ∧ now < lease.expiresAt
  cleared : ∃ sealed context, Cleared host db.gate db.reviewItems identity lease sealed context

theorem requireCurrentTransitionLease_current {l : Ledger} {lease : Option TransitionLease} {repositoryId : String}
    {now : Int} (h : requireCurrentTransitionLease l lease repositoryId now = .ok ()) :
    ∃ held, lease = some held ∧ l.leases.rows.head? = some held ∧ held.repositoryId = repositoryId ∧
      l.stateIdentity = some held.stateIdentity ∧ now < held.expiresAt := by
  simp only [requireCurrentTransitionLease, bind_eq_ok, exists_unit, demand_eq_ok, refuse_eq_ok, not_not, not_le] at h
  obtain ⟨held, hlease, hhead, hrepository, hstate, hexpiry⟩ := h
  exact ⟨held, hlease, hhead, hrepository, hstate, hexpiry⟩

theorem commitTransition_final {host : Host} {db db' : Database} {identity : TaskIdentity} {evidence : String}
    {lease : Option TransitionLease} {now : Int} {u : Unit}
    (h : commitTransition host identity .diffReview .readyForOwner evidence lease now true (db.decision host identity) db.ledger =
      (.ok u, db'.ledger)) : ∃ held, FinalTransition host db db' identity.taskId identity evidence held now := by
  have hcommit := h
  simp only [commitTransition, Tx.query_bind, Tx.check_bind, exists_unit] at hcommit
  obtain ⟨hlease, -, -, hgate, -⟩ := hcommit
  obtain ⟨held, rfl, hcurrent⟩ := requireCurrentTransitionLease_current hlease
  simp only [requireFinalGate, and_self, if_true, bind_eq_ok, exists_unit, refuse_eq_ok, not_not] at hgate
  obtain ⟨-, outcome, hdecision, rfl⟩ := hgate
  rw [Database.decision] at hdecision
  cases hread : decisionFromConnection host db.gate db.reviewItems identity with
  | error e =>
    rw [hread] at hdecision
    cases hdecision
  | ok d =>
    rw [hread] at hdecision
    exact ⟨held, rfl, h, hcurrent, decisionFromConnection_pass hread (Except.ok.inj hdecision) hcurrent.1⟩

/-- A step after which a task is ready for its owner, and was not before. -/
theorem Step.ready {host : Host} {db db' : Database} {taskId : String} (h : Step host db db')
    (hbefore : db.state? taskId ≠ some .readyForOwner) (hafter : db'.state? taskId = some .readyForOwner) :
    ∃ identity evidence lease now, FinalTransition host db db' taskId identity evidence lease now := by
  cases h with
  | other states =>
    rw [states] at hafter
    exact absurd hafter hbefore
  | lifecycle call decides ran gate =>
    have hledger : db'.ledger = (call.run host db.workspace).ledger := by rw [Database.ledger, ← db'.oneLedger, ran]
    have hsame : db.workspace.ledger = db.ledger := db.oneLedger
    have hkept : (db'.ledger.task? taskId).map (·.state) ≠ (db.ledger.task? taskId).map (·.state) :=
      fun heq => hbefore (heq.symm.trans hafter)
    have heffect := call.effect host db.workspace
    rw [hsame, ← hledger] at heffect
    generalize hl : db'.ledger = l' at heffect
    rw [hl] at hkept
    have hready : (l'.task? taskId).map (·.state) = some .readyForOwner := by rw [← hl]; exact hafter
    cases heffect with
    | none => exact absurd rfl hkept
    | admitted admitted =>
      rcases Admitted.state_cases admitted taskId with heq | hqueued
      · exact absurd heq hkept
      · exact nomatch hqueued.symm.trans hready
    | moved moved notFinal =>
      rcases Transitioned.state_cases moved taskId with heq | ⟨-, hstate⟩
      · exact absurd heq hkept
      · exact absurd (Option.some.inj (hstate.symm.trans hready)) notFinal
    | @final _ identity evidence lease now candidateEvidence decision committed =>
      rcases Transitioned.state_cases (commitTransition_transitioned committed) taskId with heq | ⟨rfl, -⟩
      · exact absurd heq hkept
      · rw [show decision = db.decision host identity from decides, ← hl] at committed
        obtain ⟨held, hfinal⟩ := commitTransition_final committed
        exact ⟨identity, evidence, held, now, hfinal⟩

/-- A task becomes ready for its owner through the final transition only. In every run of any clients, a task that is
ready and was not at the start became so in one transaction of `_commit_transition` from `diff-review`, which saw the
current lease, the current seal of the task, no pending follow-up of an accepted review, accepted evidence of every gate
for the sealed candidate under its persisted context, and the current accepted graph of a task with more than one
source. -/
theorem ready_for_owner_cleared {host : Host} {start db : Database} {taskId : String} (run : Run host start db)
    (notReady : start.state? taskId ≠ some .readyForOwner) (ready : db.state? taskId = some .readyForOwner) :
    ∃ before after identity evidence lease now, Run host start before ∧
      FinalTransition host before after taskId identity evidence lease now ∧ Run host after db := by
  induction run with
  | refl => exact absurd ready notReady
  | @tail b c hrun hstep ih =>
    by_cases hready : b.state? taskId = some .readyForOwner
    · obtain ⟨before, after, identity, evidence, lease, now, hbefore, hfinal, hafter⟩ := ih hready
      exact ⟨before, after, identity, evidence, lease, now, hbefore, hfinal, hafter.tail hstep⟩
    · obtain ⟨identity, evidence, lease, now, hfinal⟩ := hstep.ready hready ready
      exact ⟨b, c, identity, evidence, lease, now, hrun, hfinal, .refl⟩

/-! ## A task that becomes ready -/

namespace Sample

open Gate.Sample (identity runtime context)

def lease : TransitionLease := ⟨"repository", "00000000-0000-0000-0000-000000000000", "owner", 3, 100⟩

/-- A task in review whose candidate is sealed under the lease. -/
def ledger : Ledger := { Ledger.initial lease.stateIdentity with
  tasks := Gate.Sample.ledger.tasks
  branchOwners := Recovery.Sample.ledger.branchOwners
  worktreeOwners := ⟨[⟨"/worktree", "task"⟩], by decide⟩
  leases := ⟨[lease], by decide⟩
  seals := ⟨[⟨"task", identity.baseSha, (Hex.ofNat 40 1).text, lease.stateIdentity⟩], by decide⟩
  runtimeBindings := Gate.Sample.ledger.runtimeBindings }

/-- Accepted evidence of a gate. -/
def accepted (key : GateKey) : GateEvidenceRow :=
  ⟨⟨"task", (Hex.ofNat 40 1).text, key, "ci", (Hex.ofNat 64 6).text⟩, ⟨.pass, 7, none, none, []⟩, none⟩

def gate : Gate.Store where
  toStore := .initial ledger fun _ _ => .ok ()
  reviewPolicies := .empty
  candidateEvidence := ⟨[⟨"task", (Hex.ofNat 40 1).text, (Hex.ofNat 64 6).text⟩], by simp⟩
  gateContexts := ⟨[⟨⟨(context 1).values, "2026-01-01T00:00:00+00:00"⟩, "task", (Hex.ofNat 40 1).text, .noLineage⟩], by simp⟩
  gateEvidence := ⟨gateRegistry.map accepted, by decide +kernel⟩

def workspace : Workspace := { Workspace.leased lease with ledger := ledger }

def start : Database := ⟨gate, workspace, .empty, rfl⟩

def finish : LifecycleCall := .readyForOwner identity (Hex.ofNat 64 7).text (some lease) 50 (.ok ())
    (start.decision .sample identity)

def ready : Database := start.after .sample finish

theorem ready_state : start.state? "task" = some .diffReview ∧ ready.state? "task" = some .readyForOwner := by decide +kernel

theorem run : Run .sample start ready := .single (.after rfl)

end Sample

open Sample in
/-- A task of one source, with accepted evidence of every gate, becomes ready for its owner. -/
theorem ready_for_owner_cleared_local : ready.state? "task" = some .readyForOwner ∧
    ∃ before after identity evidence lease now, Run .sample start before ∧
      FinalTransition .sample before after "task" identity evidence lease now ∧ Run .sample after ready :=
  ⟨ready_state.2,
    ready_for_owner_cleared run (by rw [ready_state.1]; simp) ready_state.2⟩

end Roundwright.Final
