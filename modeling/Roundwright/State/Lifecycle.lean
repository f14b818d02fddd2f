/-
The task lifecycle: admission, the transition log, and the four places of the program that move a
task from one state to another. `commitTransition` is the general one; routing plan findings and
recording diff-review findings write the log themselves, in transactions that also keep the plan and
review tables.

Checks over tables the lifecycle does not own enter as what they returned in that call: the live
candidate validation, the aggregate gate decision, the recovery scope, the authenticated diff-review
dispatch and the canonical review items.
-/
import Roundwright.State.Lease

namespace Roundwright.State

open Lib

/-! ## Validated texts -/

/-- `str.isspace` -/
def isSpace (c : Char) : Bool :=
  let n := c.toNat
  (9 ≤ n && n ≤ 13) || (28 ≤ n && n ≤ 32) || n == 0x85 || n == 0xa0 || n == 0x1680 || (0x2000 ≤ n && n ≤ 0x200a) ||
    n == 0x2028 || n == 0x2029 || n == 0x202f || n == 0x205f || n == 0x3000

/-- `" ".join(value.split())` -/
def collapseSpaces (value : String) : String :=
  " ".intercalate ((value.splitToList isSpace).filter (· ≠ ""))

/-- `_require_token` of the state layer. -/
def requireIdentityToken (value name : String) : Except Error Unit :=
  refuse (value = "" ∨ value.toList.any fun c => isSpace c || c.toNat < 32) (.state (name ++ " is invalid"))

/-- `_require_fingerprint` -/
def requireFingerprint (value : String) : Except Error Unit :=
  refuse (isHex 64 value = false) (.state "evidence fingerprint is not a lowercase SHA-256 value")

/-- `SourceSnapshot` -/
structure SourceSnapshot where
  sourceId : String
  repositoryId : String
  sourceDigest : String

/-- `_validate_task_identity` -/
def validateTaskIdentity (host : Host) (identity : TaskIdentity) : Except Error Unit := do
  requireIdentityToken identity.taskId "task identity"
  requireIdentityToken identity.sourceId "source identity"
  requireIdentityToken identity.repositoryId "repository identity"
  requireIdentityToken identity.branch "task branch"
  requireWorktree identity.worktree
  let _ ← canonicalWorktreeKey host identity.worktree
  refuse (isHex 40 identity.baseSha = false) (.state "base commit is not a full lowercase SHA")

/-- `_validate_source_snapshot` -/
def validateSourceSnapshot (snapshot : SourceSnapshot) : Except Error Unit := do
  requireIdentityToken snapshot.sourceId "source identity"
  requireIdentityToken snapshot.repositoryId "repository identity"
  refuse (isHex 64 snapshot.sourceDigest = false) (.state "source digest is not a lowercase SHA-256 value")

/-! ## Admission -/

/-- The source part of `_mutate_task`: record the snapshot, or require the recorded one. -/
def recordSource (snapshot : SourceSnapshot) (l : Ledger) : Except Error Ledger :=
  match l.source? snapshot.sourceId with
  | none => do
    let sources ← demand (l.sources.insert? ⟨snapshot.sourceId, snapshot.repositoryId, snapshot.sourceDigest⟩) .integrity
    return { l with sources }
  | some row => do
    refuse ((row.repositoryId, row.sourceDigest) ≠ (snapshot.repositoryId, snapshot.sourceDigest))
      (.state "source snapshot identity does not match replayed input")
    return l

/-- The ownership part of `_mutate_task`: another task holds the branch or the worktree. -/
def ownedByAnother (l : Ledger) (identity : TaskIdentity) (worktreeKey : String) : Bool :=
  l.tasks.rows.any (fun r => r.identity.branch = identity.branch ∧ r.identity.taskId ≠ identity.taskId) ||
    (l.branchOwner? identity.branch).any (· ≠ identity.taskId) ||
    (l.worktreeOwner? worktreeKey).any (· ≠ identity.taskId)

/-- The writes of `_mutate_task` for a task not seen before. -/
def insertTask (identity : TaskIdentity) (worktreeKey : String) (l : Ledger) : Except Error Ledger := do
  let tasks ← demand (l.tasks.insert? ⟨identity, .queued, none, worktreeKey⟩) .integrity
  let worktreeOwners ← demand (l.worktreeOwners.insert? ⟨worktreeKey, identity.taskId⟩) .integrity
  let branchOwners ← demand (l.branchOwners.insert? ⟨identity.branch, identity.taskId⟩) .integrity
  return { l with tasks, worktreeOwners, branchOwners }

/-- `_mutate_task` -/
def mutateTask (host : Host) (identity : TaskIdentity) (snapshot : SourceSnapshot) (lease : Option TransitionLease)
    (now : Int) : Tx Error Ledger Unit := do
  Tx.query fun l => requireCurrentTransitionLease l lease identity.repositoryId now
  Tx.write (recordSource snapshot)
  let worktreeKey ← Tx.check (canonicalWorktreeKey host identity.worktree)
  Tx.query fun l => refuse (ownedByAnother l identity worktreeKey)
    (.state "an active task already owns the branch or worktree")
  Tx.query fun l => refuse ((l.task? identity.taskId).any (·.identity ≠ identity))
    (.state "task identity does not match replayed input")
  Tx.query fun l => refuse (l.task? identity.taskId).isSome (.state "task has already been admitted")
  Tx.write (insertTask identity worktreeKey)

def soleSnapshot : List SourceSnapshot → Except Error SourceSnapshot
  | [snapshot] => .ok snapshot
  | _ => .error (.state "a runnable task must have exactly one source snapshot")

def admitTask (host : Host) (identity : TaskIdentity) (snapshots : List SourceSnapshot) (lease : Option TransitionLease)
    (now : Int) : Tx Error Ledger Unit := do
  Tx.check (validateTaskIdentity host identity)
  let snapshot ← Tx.check (soleSnapshot snapshots)
  Tx.check (validateSourceSnapshot snapshot)
  Tx.check (refuse (snapshot.sourceId ≠ identity.sourceId ∨ snapshot.repositoryId ≠ identity.repositoryId)
    (.state "task identity does not match its source snapshot"))
  mutateTask host identity snapshot lease now

/-! ## The transition log -/

/-- `_ALLOWED_TRANSITIONS` -/
def allowedTransitions : TaskState → List TaskState
  | .queued => [.planning, .blocked]
  | .planning => [.planReview, .blocked]
  | .planReview => [.planning, .implementing, .blocked]
  | .implementing => [.diffReview, .blocked]
  | .diffReview => [.implementing, .readyForOwner, .blocked]
  | .readyForOwner => []
  | .blocked => [.queued, .planning, .planReview, .implementing, .diffReview]

/-- `_transition_is_allowed` -/
def transitionIsAllowed (current next : TaskState) (blockedFrom : Option TaskState) : Bool :=
  next ∈ allowedTransitions current && (current ≠ .blocked || blockedFrom == some next)

/-- The transition events of a task, oldest first. -/
def Ledger.eventsOf (l : Ledger) (taskId : String) : List EventRow := l.events.rows.filter fun e => e.taskId = taskId

/-- `SELECT COALESCE(MAX(sequence), 0) + 1 FROM transition_events WHERE task_id = ?` -/
def nextSequence (l : Ledger) (taskId : String) : Nat := ((l.eventsOf taskId).map (·.sequence)).max?.getD 0 + 1

/-- `SELECT 1 FROM transition_events WHERE task_id = ? AND evidence_fingerprint = ?` -/
def evidenceCommitted (l : Ledger) (taskId evidence : String) : Bool :=
  (l.eventsOf taskId).any fun e => e.evidenceFingerprint = evidence

/-- What `UPDATE tasks SET state = ?, blocked_from_state = ? WHERE task_id = ? AND state = ?` does to a row. -/
def TaskRow.moved (taskId : String) (fromState toState : TaskState) (r : TaskRow) : TaskRow :=
  if r.identity.taskId = taskId ∧ r.state = fromState then
    { r with state := toState, blockedFromState := if toState = .blocked then some fromState else none }
  else r

theorem TaskRow.moved_identity (taskId : String) (fromState toState : TaskState) (r : TaskRow) :
    (r.moved taskId fromState toState).identity = r.identity := by
  unfold moved; split <;> rfl

theorem TaskRow.moved_worktreeKey (taskId : String) (fromState toState : TaskState) (r : TaskRow) :
    (r.moved taskId fromState toState).worktreeKey = r.worktreeKey := by
  unfold moved; split <;> rfl

/-- The task update and the event of one transition. -/
def recordTransition (taskId : String) (fromState toState : TaskState) (evidence : String) (l : Ledger) :
    Except Error Ledger := do
  refuse (fromState = toState) .integrity
  let events ← demand (l.events.insert? ⟨taskId, nextSequence l taskId, fromState, toState, evidence⟩) .integrity
  return { l with
    tasks := l.tasks.update (TaskRow.moved taskId fromState toState) fun a b => by
      simp [TaskRow.clash, TaskRow.moved_identity]
    events }

/-- The updates that close the open blockers and next actions of a task that leaves `blocked`. -/
def resolveBlockers (taskId evidence : String) (l : Ledger) : Ledger :=
  { l with
    blockers := l.blockers.update
      (fun r => if r.taskId = taskId ∧ r.resolutionFingerprint = none then
        { r with resolutionFingerprint := some evidence } else r) fun a b => by
      dsimp only [BlockerRow.clash]; split <;> split <;> rfl
    nextActions := l.nextActions.update
      (fun r => if r.taskId = taskId ∧ r.resolutionFingerprint = none then
        { r with resolutionFingerprint := some evidence } else r) fun a b => by
      dsimp only [NextActionRow.clash]; split <;> split <;> rfl }

/-- `GateOutcome` -/
inductive GateOutcome where
  | pass | pending | blocked
deriving DecidableEq

/-- The extra demands of `_commit_transition` on the step to `ready-for-owner`; `decision` is what the
aggregate gate decision returned. -/
def requireFinalGate (expectedState nextState : TaskState) (candidateValidated : Bool)
    (decision : Except Error GateOutcome) : Except Error Unit :=
  if expectedState = .diffReview ∧ nextState = .readyForOwner then do
    refuse (candidateValidated = false) (.state "ready-for-owner requires live candidate validation")
    let outcome ← decision
    refuse (outcome ≠ .pass) (.state "ready-for-owner requires persisted aggregate PASS gate evidence")
  else .ok ()

/-- `_commit_transition` -/
def commitTransition (host : Host) (identity : TaskIdentity) (expectedState nextState : TaskState)
    (evidence : String) (lease : Option TransitionLease) (now : Int) (candidateValidated : Bool)
    (decision : Except Error GateOutcome) : Tx Error Ledger Unit := do
  Tx.query fun l => requireCurrentTransitionLease l lease identity.repositoryId now
  let _ ← Tx.query fun l => requireMatchingTask host l identity (some expectedState)
  Tx.check (requireFinalGate expectedState nextState candidateValidated decision)
  let blockedFrom ← Tx.query fun l => .ok ((l.task? identity.taskId).bind (·.blockedFromState))
  Tx.check (refuse (transitionIsAllowed expectedState nextState blockedFrom = false)
    (.state "task transition is invalid, regressive, or skips blocked recovery"))
  Tx.query fun l => refuse (evidenceCommitted l identity.taskId evidence)
    (.state "task transition evidence has already been committed")
  Tx.write fun l => .ok (if expectedState = .blocked then resolveBlockers identity.taskId evidence l else l)
  Tx.write (recordTransition identity.taskId expectedState nextState evidence)

def transitionTask (host : Host) (identity : TaskIdentity) (expectedState nextState : TaskState) (evidence : String)
    (lease : Option TransitionLease) (now : Int) (decision : Except Error GateOutcome) : Tx Error Ledger Unit := do
  Tx.check (validateTaskIdentity host identity)
  Tx.check (requireFingerprint evidence)
  Tx.check (refuse (expectedState = .diffReview ∧ nextState = .readyForOwner)
    (.state "ready-for-owner requires the candidate-bound final transition"))
  commitTransition host identity expectedState nextState evidence lease now false decision

/-- `_transition_ready_for_owner`; `candidateEvidence` is what the binding checks and the live candidate
validation returned. -/
def transitionReadyForOwner (host : Host) (identity : TaskIdentity) (evidence : String) (lease : Option TransitionLease)
    (now : Int) (candidateEvidence : Except Error Unit) (decision : Except Error GateOutcome) : Tx Error Ledger Unit := do
  Tx.check (validateTaskIdentity host identity)
  Tx.check (requireFingerprint evidence)
  Tx.check candidateEvidence
  commitTransition host identity .diffReview .readyForOwner evidence lease now true decision

end Roundwright.State
