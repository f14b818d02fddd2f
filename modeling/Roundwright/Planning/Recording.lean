/-
Recording a plan: the output of a dispatched planning turn is checked, the provider turn is completed in a transaction
of its own, and only then does a second transaction compare the plan with the task summary of its input and keep it.
-/
import Roundwright.Planning.Plan
import Roundwright.Provider.Attempt

namespace Roundwright.Planning

open Lib State
open Provider (RecoveryContext AttemptRow)

/-! ## Tables -/

inductive PlanAttemptKind where
  | initial | revision

/-- `worker_plan_attempts` -/
structure PlanAttemptRow where
  planAttemptId : String
  taskId : String
  providerAttemptId : String
  workerThreadIdentity : String
  sourceDigest : String
  inputDigest : String
  taskSummary : String
  parentPlanAttemptId : Option String
  attemptKind : PlanAttemptKind
  state : PlanAttemptState
  revisionFindingsDigest : String
  externalTurnIdentity : String
  processLeaseId : String
  processLeaseExpiresAt : Int
  contextDigest : String
  ownerBlockerDigest : String

def PlanAttemptRow.clash (a b : PlanAttemptRow) : Bool :=
  a.planAttemptId == b.planAttemptId || a.providerAttemptId == b.providerAttemptId

/-- `worker_plan_artifacts`; the text of the content is the canonical JSON of the plan. -/
structure PlanArtifactRow where
  planAttemptId : String
  taskId : String
  content : WorkerPlan
  contentDigest : String

def PlanArtifactRow.clash (a b : PlanArtifactRow) : Bool := a.planAttemptId == b.planAttemptId

/-- The planning tables over the provider tables and the ledger. -/
structure Store where
  provider : Recovery.Store
  planAttempts : Table PlanAttemptRow.clash
  planArtifacts : Table PlanArtifactRow.clash
  submittedPlans : Table SubmittedPlanRow.clash

namespace Store

def ledger (s : Store) : Ledger := s.provider.ledger

def withProvider (s : Store) (provider : Recovery.Store) : Store := { s with provider }

def planAttempt? (s : Store) (taskId planAttemptId : String) : Option PlanAttemptRow :=
  s.planAttempts.rows.find? fun r => r.planAttemptId = planAttemptId ∧ r.taskId = taskId

/-- `SELECT … FROM worker_plan_artifacts WHERE plan_attempt_id = ?` -/
def artifact? (s : Store) (planAttemptId : String) : Option PlanArtifactRow :=
  s.planArtifacts.rows.find? fun r => r.planAttemptId = planAttemptId

/-- `UPDATE worker_plan_attempts SET … WHERE plan_attempt_id = ?`, of columns that are no key. -/
def updatePlanAttempt (planAttemptId : String) (state : PlanAttemptState) (ownerBlockerDigest : PlanAttemptRow → String)
    (s : Store) : Store :=
  { s with
    planAttempts := s.planAttempts.update
      (fun r => if r.planAttemptId =
        planAttemptId then { r with state, ownerBlockerDigest := ownerBlockerDigest r } else r) fun a b => by
      dsimp only [PlanAttemptRow.clash]; split <;> split <;> rfl }

end Store

/-! ## Reading -/

structure PlanningDispatch where
  planAttemptId : String
  providerAttemptId : String
  workerThreadIdentity : String
  inputDigest : String
  sourceDigest : String
  kind : PlanAttemptKind
  externalTurnIdentity : String
  processLeaseId : String
  processLeaseExpiresAt : Int
  contextDigest : String

def PlanAttemptRow.dispatch (r : PlanAttemptRow) : PlanningDispatch :=
  ⟨r.planAttemptId, r.providerAttemptId, r.workerThreadIdentity, r.inputDigest, r.sourceDigest, r.attemptKind,
    r.externalTurnIdentity, r.processLeaseId, r.processLeaseExpiresAt, r.contextDigest⟩

/-- `_read_dispatch` -/
def readDispatch (host : Host) (s : Store) (identity : TaskIdentity) (planAttemptId : String) : Except Error PlanningDispatch := do
  let _ ← requireMatchingTask host s.ledger identity none
  let attempt ← demand (s.planAttempt? identity.taskId planAttemptId) (.workerPlanning "plan attempt is unavailable")
  return attempt.dispatch

/-- `_plan_attempt` -/
def planAttempt (s : Store) (identity : TaskIdentity) (planAttemptId : String) : Except Error PlanAttemptRow :=
  demand (s.planAttempt? identity.taskId planAttemptId) (.workerPlanning "plan attempt does not match the task")

/-- `_input_task_summary` -/
def inputTaskSummary (s : Store) (planAttemptId : String) : Except Error String := do
  let attempt ← demand (s.planAttempts.rows.find? fun r => r.planAttemptId = planAttemptId)
    (.workerPlanning "plan input is unavailable")
  return attempt.taskSummary

structure PersistedPlan where
  planAttemptId : String
  workerThreadIdentity : String
  sourceDigest : String
  inputDigest : String
  contentDigest : String
  kind : PlanAttemptKind
  state : PlanAttemptState
  hasTrueBlockers : Bool

/-- `_persisted_plan` -/
def persistedPlan (host : Host) (s : Store) (identity : TaskIdentity) (planAttemptId : String) : Except Error PersistedPlan := do
  let _ ← requireMatchingTask host s.ledger identity none
  let attempt ← demand (s.planAttempt? identity.taskId planAttemptId) (.workerPlanning "plan artifact is unavailable")
  let artifact ← demand (s.artifact? planAttemptId) (.workerPlanning "plan artifact is unavailable")
  let plan ← artifact.content.normalized
  return ⟨planAttemptId, attempt.workerThreadIdentity, attempt.sourceDigest, attempt.inputDigest,
    artifact.contentDigest, attempt.attemptKind, attempt.state, plan.trueBlockers ≠ []⟩

/-- `_clock` -/
def planningClock (observed : Int) : Except Error Int := do
  refuse (observed ≤ 0) (.workerPlanning "planning clock is invalid")
  return observed

/-! ## Recording -/

/-- A call of `record_plan`. The wall clock is read when the turn is completed and once more when the plan is settled,
unless the caller gives the time. -/
structure RecordPlanCall where
  planAttemptId : String
  output : WorkerPlanOutput
  completionEvidenceFingerprint : String
  lease : Option TransitionLease
  now : Option Int
  completedAt : Int
  settledAt : Int

/-- The output is that of the dispatch. -/
def WorkerPlanOutput.answers (o : WorkerPlanOutput) (d : PlanningDispatch) : Bool :=
  o.providerAttemptId = d.providerAttemptId ∧ o.workerThreadIdentity = d.workerThreadIdentity ∧
    o.externalTurnIdentity = d.externalTurnIdentity ∧ o.inputDigest = d.inputDigest ∧ o.sourceDigest = d.sourceDigest

/-- A durable artifact or an owner-blocked output owns its attempt. -/
def requireUnowned (host : Host) (s : Store) (identity : TaskIdentity) (planAttemptId digest : String) : Except Error Unit := do
  let _ ← requireMatchingTask host s.ledger identity (some .planning)
  let attempt ← planAttempt s identity planAttemptId
  refuse (attempt.state = .ownerBlocked ∧ attempt.ownerBlockerDigest ≠ digest)
    (.workerPlanning "owner-blocked plan replay conflicts with committed output")
  refuse ((s.planArtifacts.rows.find? fun r => r.planAttemptId = planAttemptId ∧ r.taskId = identity.taskId).any
    (·.contentDigest ≠ digest)) (.workerPlanning "plan artifact replay conflicts with committed content")

/-- Everything before the provider turn is completed. -/
def admitOutput (host : Host) (identity : TaskIdentity) (call : RecordPlanCall) (s : Store) : Except Error
    (WorkerPlan × PlanningDispatch) := do
  requireToken call.planAttemptId "plan attempt identity"
  requireFingerprint call.completionEvidenceFingerprint "completion evidence fingerprint"
  let output ← call.output.normalized
  refuse (output.planAttemptId ≠ call.planAttemptId)
    (.workerPlanning "Worker output plan attempt does not match the requested artifact")
  let dispatch ← readDispatch host s identity call.planAttemptId
  refuse (output.answers dispatch = false) (.workerPlanning "Worker output identity does not match the durable dispatch")
  requireUnowned host s identity call.planAttemptId (output.plan.digest host)
  return (output.plan, dispatch)

/-- `except ProviderRecoveryError as error: raise WorkerPlanningError(str(error))` -/
def planningError : Error → Error
  | .providerRecovery message | .providerAttemptAbsent message => .workerPlanning message
  | e => e

def pointer (planAttemptId : String) : String := "plan:" ++ planAttemptId

/-- The completion of the provider turn. -/
def completeTurn (host : Host) (identity : TaskIdentity) (c : RecoveryContext) (call : RecordPlanCall)
    (plan : WorkerPlan) (dispatch : PlanningDispatch) : Tx Error Store Unit := do
  let completed ← Tx.mapError (Tx.on Store.provider Store.withProvider
    (Provider.recordCompletedOutput host identity c dispatch.providerAttemptId (pointer call.planAttemptId)
      call.completionEvidenceFingerprint (plan.digest host) call.lease (call.now.getD call.completedAt))) planningError
  Tx.check (refuse (completed.state ≠ .completed) (.workerPlanning "Worker plan provider turn is not completed"))

/-- What the second transaction has committed. -/
inductive Settlement where
  | kept | ownerBlocked

/-- The branch of an attempt without an artifact. -/
def settleFirst (host : Host) (identity : TaskIdentity) (planAttemptId : String) (attempt : PlanAttemptRow) (plan : WorkerPlan) :
    Tx Error Store Settlement :=
  if attempt.state = .ownerBlocked then do
    Tx.check (refuse (attempt.ownerBlockerDigest ≠ plan.digest host)
      (.workerPlanning "owner-blocked plan replay conflicts with committed output"))
    return .ownerBlocked
  else do
    Tx.check (refuse (attempt.state ≠ .dispatched) (.workerPlanning "plan attempt is not eligible for its first output"))
    if plan.hasOwnerBlocker then do
      Tx.write fun s => .ok (s.updatePlanAttempt planAttemptId .ownerBlocked fun _ => plan.digest host)
      return .ownerBlocked
    else do
      Tx.write fun s => do
        let planArtifacts ← demand (s.planArtifacts.insert? ⟨planAttemptId, identity.taskId, plan, plan.digest host⟩) .integrity
        return { s with planArtifacts }
      Tx.write fun s => .ok (s.updatePlanAttempt planAttemptId .recorded fun r => r.ownerBlockerDigest)
      return .kept

/-- The second transaction. -/
def settlePlan (host : Host) (identity : TaskIdentity) (call : RecordPlanCall) (plan : WorkerPlan) (observed : Int) :
    Tx Error Store Settlement := do
  Tx.query fun s => requireLease s.ledger call.lease identity.repositoryId observed
  let _ ← Tx.query fun s => requireMatchingTask host s.ledger identity (some .planning)
  let attempt ← Tx.query fun s => planAttempt s identity call.planAttemptId
  let summary ← Tx.query fun s => inputTaskSummary s call.planAttemptId
  Tx.check (refuse (plan.taskSummary ≠ summary) (.workerPlanning "plan task summary does not match immutable planning input"))
  let existing ← Tx.query fun s => .ok (s.artifact? call.planAttemptId)
  match existing with
  | some artifact => do
    Tx.check (refuse ((artifact.content, artifact.contentDigest) ≠ (plan, plan.digest host))
      (.workerPlanning "plan artifact replay conflicts with committed content"))
    Tx.check (refuse (attempt.state ≠ .recorded) (.workerPlanning "recorded plan artifact has an invalid attempt state"))
    return .kept
  | none => settleFirst host identity call.planAttemptId attempt plan

def ownerInput : Error := .workerPlanning "plan requires owner input"

/-- What follows the completion. -/
def settle (host : Host) (identity : TaskIdentity) (call : RecordPlanCall) (plan : WorkerPlan) : Tx Error Store PersistedPlan := do
  let observed ← Tx.check (planningClock (call.now.getD call.settledAt))
  let settlement ← transaction (settlePlan host identity call plan observed)
  match settlement with
  | .ownerBlocked => Tx.check (.error ownerInput)
  | .kept => Tx.query fun s => persistedPlan host s identity call.planAttemptId

/-- `record_plan` -/
def recordPlan (host : Host) (identity : TaskIdentity) (c : RecoveryContext) (call : RecordPlanCall) :
    Tx Error Store PersistedPlan := do
  let (plan, dispatch) ← Tx.query (admitOutput host identity call)
  completeTurn host identity c call plan dispatch
  settle host identity call plan

end Roundwright.Planning
