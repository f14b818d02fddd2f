/-
The task ledger: the tables every subsystem reads before it writes. Sources, tasks and their
ownership, the transition log, the lease, the candidate seals and the runtime bindings, with the two
guards that open almost every transaction (`requireMatchingTask`, `requireCurrentTransitionLease`).

`Ledger.Extends` is what the rest of the program may do to the ledger between two calls: admit
tasks, move task states, seals, leases and runtime bindings, and never touch the identity of a task
or of a source once it is recorded.
-/
import Roundwright.Identity
import Roundwright.Lib.Table
import Roundwright.Lib.Transaction

namespace Roundwright.State

open Lib

/-! ## Rows -/

/-- `LIFECYCLE_STATES` -/
inductive TaskState where
  | queued | planning | planReview | implementing | diffReview | readyForOwner | blocked
deriving DecidableEq

/-- `TaskIdentity`: what binds a task to its sole source snapshot. -/
structure TaskIdentity where
  taskId : String
  sourceId : String
  repositoryId : String
  branch : String
  worktree : String
  baseSha : String
deriving DecidableEq

/-- `source_snapshots` -/
structure SourceRow where
  sourceId : String
  repositoryId : String
  sourceDigest : String

def SourceRow.clash (a b : SourceRow) : Bool :=
  a.sourceId == b.sourceId || (a.repositoryId == b.repositoryId && a.sourceDigest == b.sourceDigest)

/-- `tasks` -/
structure TaskRow where
  identity : TaskIdentity
  state : TaskState
  blockedFromState : Option TaskState
  worktreeKey : String
deriving DecidableEq

def TaskRow.clash (a b : TaskRow) : Bool := a.identity.taskId == b.identity.taskId

/-- `task_branch_ownership` and `task_worktree_ownership`: who owns a branch or a worktree key. -/
structure OwnerRow where
  resource : String
  taskId : String

def OwnerRow.clash (a b : OwnerRow) : Bool := a.resource == b.resource || a.taskId == b.taskId

/-- `transition_events` -/
structure EventRow where
  taskId : String
  sequence : Nat
  fromState : TaskState
  toState : TaskState
  evidenceFingerprint : String

def EventRow.clash (a b : EventRow) : Bool :=
  a.taskId == b.taskId && (a.sequence == b.sequence || a.evidenceFingerprint == b.evidenceFingerprint)

/-- `BLOCKER_CLASSES` -/
inductive BlockerClass where
  | evidenceAmbiguous | evidenceIncomplete | identityMismatch | policyDenied
deriving DecidableEq

/-- `NEXT_ACTION_KINDS` -/
inductive NextActionKind where
  | provideEvidence | reconcileIdentity | resolvePolicy | reviewPlan | ownerReview

/-- `blockers` -/
structure BlockerRow where
  taskId : String
  blockerClass : BlockerClass
  evidenceFingerprint : String
  resolutionFingerprint : Option String

def BlockerRow.clash (a b : BlockerRow) : Bool :=
  a.taskId == b.taskId && a.blockerClass == b.blockerClass

/-- `next_actions` -/
structure NextActionRow where
  taskId : String
  actionKind : NextActionKind
  evidenceFingerprint : String
  resolutionFingerprint : Option String

def NextActionRow.clash (a b : NextActionRow) : Bool := a.taskId == b.taskId

/-- `TransitionLease`, and a row of `transition_leases`. -/
structure TransitionLease where
  repositoryId : String
  stateIdentity : String
  owner : String
  generation : Int
  expiresAt : Int
deriving DecidableEq

/-- The scope column is the primary key and admits one value, so any two lease rows clash. -/
def TransitionLease.clash (_ _ : TransitionLease) : Bool := true

theorem TransitionLease.clash_map (f : TransitionLease → TransitionLease) (a b : TransitionLease) :
    (f a).clash (f b) = a.clash b := rfl

/-- `candidate_seals` -/
structure SealRow where
  taskId : String
  baseSha : String
  candidateSha : String
  stateIdentity : String
deriving DecidableEq

def SealRow.clash (a b : SealRow) : Bool := a.taskId == b.taskId

/-- `runtime_configuration_bindings` -/
structure RuntimeBindingRow where
  taskId : String
  schemaVersion : String
  resolvedDigest : String
  workerProfileIdentity : String
  supervisorProfileIdentities : String
deriving DecidableEq

def RuntimeBindingRow.clash (a b : RuntimeBindingRow) : Bool := a.taskId == b.taskId

/-- The tables shared by the subsystems. -/
structure Ledger where
  sources : Table SourceRow.clash
  tasks : Table TaskRow.clash
  branchOwners : Table OwnerRow.clash
  worktreeOwners : Table OwnerRow.clash
  events : Table EventRow.clash
  blockers : Table BlockerRow.clash
  nextActions : Table NextActionRow.clash
  leases : Table TransitionLease.clash
  leaseGeneration : Option Int
  stateIdentity : Option String
  seals : Table SealRow.clash
  runtimeBindings : Table RuntimeBindingRow.clash

namespace Ledger

/-- A database just initialised: no rows, the lease counter at the value migration 7 leaves, and a
state identity. -/
def initial (stateIdentity : String) : Ledger where
  sources := .empty
  tasks := .empty
  branchOwners := .empty
  worktreeOwners := .empty
  events := .empty
  blockers := .empty
  nextActions := .empty
  leases := .empty
  leaseGeneration := some 2
  stateIdentity := some stateIdentity
  seals := .empty
  runtimeBindings := .empty

/-! ## Lookups -/

def source? (l : Ledger) (sourceId : String) : Option SourceRow :=
  l.sources.rows.find? fun r => r.sourceId = sourceId

def task? (l : Ledger) (taskId : String) : Option TaskRow :=
  l.tasks.rows.find? fun r => r.identity.taskId = taskId

def branchOwner? (l : Ledger) (branch : String) : Option String :=
  (l.branchOwners.rows.find? fun r => r.resource = branch).map (·.taskId)

def worktreeOwner? (l : Ledger) (worktreeKey : String) : Option String :=
  (l.worktreeOwners.rows.find? fun r => r.resource = worktreeKey).map (·.taskId)

def seal? (l : Ledger) (taskId : String) : Option SealRow :=
  l.seals.rows.find? fun r => r.taskId = taskId

def runtimeBinding? (l : Ledger) (taskId : String) : Option RuntimeBindingRow :=
  l.runtimeBindings.rows.find? fun r => r.taskId = taskId

/-- `SELECT source_digest FROM tasks JOIN source_snapshots …` -/
def sourceDigest? (l : Ledger) (taskId : String) : Option String := do
  let task ← l.task? taskId
  let source ← l.source? task.identity.sourceId
  return source.sourceDigest

theorem task?_eq_some {l : Ledger} {taskId : String} {r : TaskRow} :
    l.task? taskId = some r ↔ r ∈ l.tasks.rows ∧ r.identity.taskId = taskId :=
  Table.find?_key (g := fun r : TaskRow => r.identity.taskId) fun a b h => by simp [TaskRow.clash, h]

end Ledger

/-! ## Guards -/

/-- A character of Unicode category `Cc`. -/
def isControl (c : Char) : Bool := c.toNat < 32 || (127 ≤ c.toNat && c.toNat < 160)

/-- `_require_worktree` -/
def requireWorktree (value : String) : Except Error Unit :=
  refuse (value = "" ∨ value.toList.any isControl) (.state "task worktree is invalid")

/-- `_canonical_worktree_key` -/
def canonicalWorktreeKey (host : Host) (value : String) : Except Error String := do
  requireWorktree value
  demand (host.canonicalWorktreeKey value) (.state "task worktree must be an absolute path")

/-- `_require_matching_task`, with the state it returns. -/
def requireMatchingTask (host : Host) (l : Ledger) (identity : TaskIdentity)
    (expectedState : Option TaskState) : Except Error TaskState := do
  let row ← demand (l.task? identity.taskId) (.state "task identity does not match committed state")
  refuse (row.identity ≠ identity) (.state "task identity does not match committed state")
  let key ← canonicalWorktreeKey host identity.worktree
  refuse (row.worktreeKey ≠ key) (.state "task worktree ownership is not current")
  refuse (l.branchOwner? identity.branch ≠ some identity.taskId ∨
    l.worktreeOwner? row.worktreeKey ≠ some identity.taskId) (.state "task ownership is not current")
  refuse (expectedState.any (· ≠ row.state)) (.state "task state does not match the requested transition")
  return row.state

/-- `_require_current_transition_lease`; `now` is the wall clock in whole seconds. -/
def requireCurrentTransitionLease (l : Ledger) (lease : Option TransitionLease) (repositoryId : String)
    (now : Int) : Except Error Unit := do
  let lease ← demand lease (.state "a current transition lease is required")
  refuse (l.leases.rows.head? ≠ some lease) (.state "transition lease ownership has drifted")
  refuse (lease.repositoryId ≠ repositoryId) (.state "transition lease does not match the task repository")
  refuse (l.stateIdentity ≠ some lease.stateIdentity) (.state "transition lease state identity has drifted")
  refuse (lease.expiresAt ≤ now) (.state "transition lease is stale and requires owner recovery")

theorem requireMatchingTask_ok {host : Host} {l : Ledger} {identity : TaskIdentity} {expectedState : Option TaskState}
    {state : TaskState} :
    requireMatchingTask host l identity expectedState = .ok state ↔
      ∃ row, l.task? identity.taskId = some row ∧ row.identity = identity ∧ row.state = state ∧
        canonicalWorktreeKey host identity.worktree = .ok row.worktreeKey ∧
        l.branchOwner? identity.branch = some identity.taskId ∧
        l.worktreeOwner? row.worktreeKey = some identity.taskId ∧
        (∀ s, expectedState = some s → row.state = s) := by
  simp only [requireMatchingTask, bind_eq_ok, exists_unit, refuse_eq_ok, demand_eq_ok, pure_eq_ok, not_or, not_not]
  constructor
  · rintro ⟨row, hrow, hid, key, hkey, hk, ⟨hb, hw⟩, hs, rfl⟩
    refine ⟨row, hrow, hid, rfl, by rw [hk]; exact hkey, hb, hw, ?_⟩
    rintro s rfl
    simp only [Option.any_some, decide_eq_true_eq, not_not] at hs
    exact hs.symm
  · rintro ⟨row, hrow, hid, rfl, hkey, hb, hw, hs⟩
    refine ⟨row, hrow, hid, row.worktreeKey, hkey, rfl, ⟨hb, hw⟩, ?_, rfl⟩
    cases expectedState with
    | none => simp
    | some s => simp [hs s rfl]

/-! ## What the program may do to the ledger between two calls -/

/-- Identities and ownership recorded in `l` stand unchanged in `l'`. -/
structure Ledger.Extends (l l' : Ledger) : Prop where
  tasks : ∀ taskId r, l.task? taskId = some r →
    ∃ r', l'.task? taskId = some r' ∧ r'.identity = r.identity ∧ r'.worktreeKey = r.worktreeKey
  sources : ∀ sourceId r, l.source? sourceId = some r → l'.source? sourceId = some r
  branches : ∀ branch owner, l.branchOwner? branch = some owner → l'.branchOwner? branch = some owner
  worktrees : ∀ key owner, l.worktreeOwner? key = some owner → l'.worktreeOwner? key = some owner

namespace Ledger.Extends

theorem refl (l : Ledger) : l.Extends l :=
  ⟨fun _ r h => ⟨r, h, rfl, rfl⟩, fun _ _ h => h, fun _ _ h => h, fun _ _ h => h⟩

theorem trans {a b c : Ledger} (h₁ : a.Extends b) (h₂ : b.Extends c) : a.Extends c := by
  refine ⟨fun t r h => ?_, fun s r h => h₂.sources s r (h₁.sources s r h),
    fun b o h => h₂.branches b o (h₁.branches b o h), fun k o h => h₂.worktrees k o (h₁.worktrees k o h)⟩
  obtain ⟨r', h', hi, hk⟩ := h₁.tasks t r h
  obtain ⟨r'', h'', hi', hk'⟩ := h₂.tasks t r' h'
  exact ⟨r'', h'', hi'.trans hi, hk'.trans hk⟩

/-- The source a task is bound to stays the same. -/
theorem sourceDigest? {l l' : Ledger} (h : l.Extends l') {taskId digest : String}
    (hd : l.sourceDigest? taskId = some digest) : l'.sourceDigest? taskId = some digest := by
  unfold Ledger.sourceDigest? at hd ⊢
  obtain ⟨r, hr, hd⟩ := Option.bind_eq_some_iff.1 hd
  obtain ⟨src, hsrc, hd⟩ := Option.bind_eq_some_iff.1 hd
  obtain ⟨r', hr', hi, -⟩ := h.tasks _ _ hr
  refine Option.bind_eq_some_iff.2 ⟨r', hr', Option.bind_eq_some_iff.2 ⟨src, ?_, hd⟩⟩
  rw [hi]; exact h.sources _ _ hsrc

theorem matchingTask {host : Host} {l l' : Ledger} (h : l.Extends l') {identity : TaskIdentity} {s : TaskState}
    (hm : requireMatchingTask host l identity none = .ok s) :
    ∃ s', requireMatchingTask host l' identity none = .ok s' := by
  obtain ⟨row, hrow, hid, -, hkey, hb, hw, -⟩ := requireMatchingTask_ok.1 hm
  obtain ⟨row', hrow', hid', hk'⟩ := h.tasks _ _ hrow
  refine ⟨row'.state, requireMatchingTask_ok.2 ⟨row', hrow', hid'.trans hid, rfl, ?_, h.branches _ _ hb, ?_, by simp⟩⟩
  · rw [hk']; exact hkey
  · rw [hk']; exact h.worktrees _ _ hw

end Ledger.Extends

end Roundwright.State
