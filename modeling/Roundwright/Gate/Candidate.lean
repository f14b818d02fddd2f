/-
The candidate of a task: sealing the HEAD of its worktree, binding evidence to the sealed candidate,
and removing both when the worktree has drifted.

A call is a program of several transactions, each committed on its own; what Git, the file system
and the clock answer while it runs is a `GitView`, and the calls are modelled for every view.
-/
import Roundwright.Gate.Store
import Roundwright.State.Lease

namespace Roundwright.Gate

open Lib State

/-! ## What a caller presents and what the host answers -/

/-- `GitEntrypointControl`: the candidate binding it holds, and whether its dependency control permits
the Git entrypoint at its own time. -/
structure GitEntrypointControl where
  repository : String
  taskId : String
  candidateSha : String
  permitted : Bool

structure WorktreeBinding where
  taskId : String
  repositoryId : String
  branch : String
  worktree : String
  baseSha : String
  stateIdentity : String
  gitEntrypointControl : Option GitEntrypointControl

abbrev CandidateSeal := SealRow

/-- The answers of one call's surroundings: `path` is the normal form of a path text,
`validatedWorktreePath` and `resolve` are what the two resolutions of a worktree path give,
`revalidated` is what `revalidate_worktree` finds in Git after its checks against the database,
`dirty` and `head` are the status and the HEAD commit, and the rest are clock readings. -/
structure GitView where
  path : String → String
  validatedWorktreePath : String → Except Error String
  resolve : String → Except Error String
  revalidated : Except Error Unit
  dirty : Except Error Bool
  head : Except Error String
  verifiedAt : Int
  invalidatedAt : Int
  committedAt : Int
  recordedAt : Int

/-! ## Guards -/

def Error.isGitIdentity : Error → Bool
  | .gitIdentity _ => true
  | _ => false

/-- `_require_current_lease` on what the caller passed for a lease. -/
def requireLease (l : Ledger) (lease : Option TransitionLease) (repositoryId : String) (now : Int) :
    Except Error Unit := do
  let lease ← demand lease (.gitIdentity "a current transition lease is required")
  requireCurrentLease l lease repositoryId now

/-- `_verify_lease` -/
def verifyLease (l : Ledger) (lease : Option TransitionLease) (repositoryId : String) (now : Int) :
    Except Error Unit := do
  let lease ← demand lease (.gitIdentity "a current transition lease is required")
  let observed ← clock now
  requireCurrentLease l lease repositoryId observed

def requireLeaseState (lease : Option TransitionLease) (binding : WorktreeBinding) : Except Error Unit :=
  refuse (lease.map (·.stateIdentity) ≠ some binding.stateIdentity) (.gitIdentity "candidate state identity has drifted")

/-- `_require_git_entrypoint_control` -/
def requireGitEntrypointControl (control : GitEntrypointControl) (binding : WorktreeBinding) : Except Error Unit := do
  refuse (control.repository ≠ binding.repositoryId ∨ control.taskId ≠ binding.taskId ∨
    control.candidateSha ≠ binding.baseSha) (.gitIdentity "git entrypoint control does not match task identity")
  refuse (control.permitted = false) (.gitIdentity "git entrypoint preflight blocked execution")

/-- `_require_task_binding` -/
def requireTaskBinding (view : GitView) (l : Ledger) (binding : WorktreeBinding) (worktree : String) :
    Except Error Unit := do
  let row ← demand (l.task? binding.taskId) (.gitIdentity "task worktree ownership does not match committed state")
  refuse (row.identity.repositoryId ≠ binding.repositoryId ∨ row.identity.branch ≠ binding.branch ∨
    row.identity.baseSha ≠ binding.baseSha) (.gitIdentity "task worktree ownership does not match committed state")
  let recorded ← view.resolve row.identity.worktree
  refuse (recorded ≠ worktree) (.gitIdentity "task worktree path does not match committed task identity")

/-- `revalidate_worktree` -/
def revalidateWorktree (view : GitView) (l : Ledger) (binding : WorktreeBinding) (control : GitEntrypointControl) :
    Except Error WorktreeBinding := do
  requireGitEntrypointControl control binding
  let worktree ← view.validatedWorktreePath binding.worktree
  requireTaskBinding view l binding worktree
  let stateIdentity ← stateIdentityOf l
  refuse (binding.stateIdentity ≠ stateIdentity) (.gitIdentity "task worktree state identity has drifted")
  view.revalidated
  return { binding with worktree := worktree }

/-- What `_revalidate_live_candidate_binding` checks before it looks at Git, with the control it uses. -/
def requireLeasedBinding (view : GitView) (l : Ledger) (binding : WorktreeBinding) (lease : Option TransitionLease)
    (control : Option GitEntrypointControl) : Except Error GitEntrypointControl := do
  verifyLease l lease binding.repositoryId view.verifiedAt
  let worktree ← view.validatedWorktreePath binding.worktree
  requireTaskBinding view l binding worktree
  requireLeaseState lease binding
  demand (control <|> binding.gitEntrypointControl)
    (.gitIdentity "candidate worktree Git entrypoint control is unavailable")

/-! ## Transactions -/

def invalidateBody (binding : WorktreeBinding) (lease : Option TransitionLease) (now : Int) : Tx Error Store Unit := do
  Tx.query fun s => requireLease s.ledger lease binding.repositoryId now
  Tx.check (requireLeaseState lease binding)
  Tx.write fun s => .ok ((s.deleteEvidence binding.taskId).deleteSeal binding.taskId)

/-- The evidence of another seal of the task is deleted, the evidence of this very seal stays. -/
def Store.deleteMoved (s : Store) (row : CandidateSeal) : Store :=
  if (s.ledger.seal? row.taskId).any (· ≠ row) then s.deleteEvidence row.taskId else s

def sealBody (repositoryId : String) (lease : Option TransitionLease) (now : Int) (row : CandidateSeal) :
    Tx Error Store Unit := do
  Tx.query fun s => requireLease s.ledger lease repositoryId now
  Tx.write fun s => .ok ((s.deleteMoved row).upsertSeal row)

def bindBody (repositoryId : String) (lease : Option TransitionLease) (now : Int) (row : CandidateSeal)
    (evidenceFingerprint : String) : Tx Error Store Unit := do
  Tx.query fun s => requireLease s.ledger lease repositoryId now
  Tx.query fun s => refuse (s.ledger.seal? row.taskId ≠ some row) (.gitIdentity "candidate seal is no longer current")
  Tx.write fun s => .ok (s.insertCandidateEvidence ⟨row.taskId, row.candidateSha, evidenceFingerprint⟩)

/-! ## Calls -/

/-- `_invalidate_candidate` -/
def invalidateCandidate (binding : WorktreeBinding) (lease : Option TransitionLease) (now : Int) :
    Tx Error Store Unit :=
  transaction (invalidateBody binding lease now)

/-- `_revalidate_live_candidate_binding` -/
def revalidateLiveCandidateBinding (view : GitView) (binding : WorktreeBinding) (lease : Option TransitionLease)
    (control : Option GitEntrypointControl) : Tx Error Store WorktreeBinding := do
  let active ← Tx.query fun s => requireLeasedBinding view s.ledger binding lease control
  Tx.onError (Tx.query fun s => revalidateWorktree view s.ledger binding active) Error.isGitIdentity
    (invalidateCandidate binding lease view.invalidatedAt)

/-- `_invalidate_candidate(…); raise …` when the worktree no longer shows the candidate. -/
def rejectDrift (drifted : Bool) (binding : WorktreeBinding) (lease : Option TransitionLease) (now : Int)
    (message : String) : Tx Error Store Unit :=
  if drifted then invalidateCandidate binding lease now >>= fun _ => Tx.check (.error (.gitIdentity message))
  else pure ()

/-- `seal_candidate` -/
def sealCandidate (view : GitView) (binding : WorktreeBinding) (control : GitEntrypointControl)
    (lease : Option TransitionLease) : Tx Error Store CandidateSeal := do
  Tx.check (requireGitEntrypointControl control binding)
  let verified ← revalidateLiveCandidateBinding view binding lease (some control)
  let dirty ← Tx.check view.dirty
  rejectDrift dirty verified lease view.invalidatedAt "candidate worktree is dirty"
  let candidate ← Tx.check view.head
  let row : CandidateSeal := ⟨verified.taskId, verified.baseSha, candidate, verified.stateIdentity⟩
  transaction (sealBody binding.repositoryId lease view.committedAt row)
  return row

/-- `_require_live_candidate` -/
def requireLiveCandidate (view : GitView) (binding : WorktreeBinding) (row : CandidateSeal)
    (lease : Option TransitionLease) : Tx Error Store Unit := do
  let verified ← revalidateLiveCandidateBinding view binding lease none
  Tx.check (refuse (verified.taskId ≠ row.taskId ∨ verified.baseSha ≠ row.baseSha ∨
    verified.stateIdentity ≠ row.stateIdentity) (.gitIdentity "candidate seal identity has drifted"))
  let dirty ← Tx.check view.dirty
  rejectDrift dirty verified lease view.invalidatedAt "candidate worktree is dirty"
  let head ← Tx.check view.head
  rejectDrift (head ≠ row.candidateSha) verified lease view.invalidatedAt
    "candidate head moved and candidate sealing is required"

/-- `bind_candidate_evidence` -/
def bindCandidateEvidence (view : GitView) (binding : WorktreeBinding) (row : CandidateSeal)
    (evidenceFingerprint : String) (lease : Option TransitionLease) : Tx Error Store Unit := do
  Tx.check (refuse (isHex 64 evidenceFingerprint = false) (.gitIdentity "candidate evidence fingerprint is invalid"))
  requireLiveCandidate view binding row lease
  transaction (bindBody binding.repositoryId lease view.committedAt row evidenceFingerprint)

end Roundwright.Gate
