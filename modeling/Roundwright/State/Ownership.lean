/-
Branch and worktree ownership as a migration leaves it: `_backfill_task_ownership` completes and
`_validate_task_ownership` checks it. A ledger whose ownership is valid is left alone.
-/
import Roundwright.State.Ledger

namespace Roundwright.State

open Lib

/-! ## The backfill -/

/-- `UPDATE tasks SET worktree_key = ? WHERE task_id = ?` -/
def TaskRow.rekey (taskId key : String) (r : TaskRow) : TaskRow :=
  if r.identity.taskId = taskId then { r with worktreeKey := key } else r

theorem TaskRow.rekey_identity (taskId key : String) (r : TaskRow) : (r.rekey taskId key).identity = r.identity := by
  unfold rekey; split <;> rfl

theorem TaskRow.rekey_clash (taskId key : String) (a b : TaskRow) :
    (a.rekey taskId key).clash (b.rekey taskId key) = a.clash b := by
  simp only [TaskRow.clash, TaskRow.rekey_identity]

/-- `INSERT … ON CONFLICT(branch) DO UPDATE SET task_id = excluded.task_id` -/
def reserveBranch (owners : Table OwnerRow.clash) (branch taskId : String) : Option (Table OwnerRow.clash) :=
  if ∃ r ∈ owners.rows, r.resource = branch then
    owners.update? fun r => if r.resource = branch then { r with taskId } else r
  else owners.insert? ⟨branch, taskId⟩

/-- The reservation of a task's worktree key: inserted, moved, or already there. -/
def reserveWorktree (owners : Table OwnerRow.clash) (key taskId : String) : Option (Table OwnerRow.clash) :=
  match owners.rows.find? fun r => r.taskId = taskId with
  | none => owners.insert? ⟨key, taskId⟩
  | some r =>
    if r.resource ≠ key then owners.update? fun r => if r.taskId = taskId then { r with resource := key } else r
    else some owners

/-- One pass of the loop of `_backfill_task_ownership`, on a schema with both ownership tables. -/
def backfillTask (host : Host) (l : Ledger) (task : TaskRow) : Except Error Ledger := do
  let taskId := task.identity.taskId
  refuse ((l.branchOwner? task.identity.branch).any (· ≠ taskId)) (.state "active task branch ownership is ambiguous")
  let branchOwners ← demand (reserveBranch l.branchOwners task.identity.branch taskId) .integrity
  let key ← canonicalWorktreeKey host task.identity.worktree
  refuse ((l.worktreeOwner? key).any (· ≠ taskId)) (.state "active task worktree ownership is ambiguous")
  let tasks := l.tasks.update (TaskRow.rekey taskId key) (TaskRow.rekey_clash taskId key)
  let worktreeOwners ← demand (reserveWorktree l.worktreeOwners key taskId) .integrity
  return { l with branchOwners, tasks, worktreeOwners }

/-- `_backfill_task_ownership` -/
def backfillTaskOwnership (host : Host) (l : Ledger) : Except Error Ledger :=
  (sortBy (·.identity.taskId) l.tasks.rows).foldlM (backfillTask host) l

/-! ## The check -/

/-- One pass of the loop of `_validate_task_ownership`. -/
def validateTask (host : Host) (l : Ledger) (task : TaskRow) : Except Error Unit := do
  let key ← canonicalWorktreeKey host task.identity.worktree
  refuse (task.worktreeKey ≠ key) (.state "task worktree ownership is invalid")
  refuse (l.branchOwner? task.identity.branch ≠ some task.identity.taskId) (.state "task branch ownership is invalid")
  refuse (l.worktreeOwner? task.worktreeKey ≠ some task.identity.taskId) (.state "task worktree ownership is invalid")

/-- `_validate_task_ownership` -/
def validateTaskOwnership (host : Host) (l : Ledger) : Except Error Unit := do
  refuse (l.branchOwners.rows.length ≠ l.tasks.rows.length) (.state "task branch ownership is incomplete")
  refuse (l.worktreeOwners.rows.length ≠ l.tasks.rows.length) (.state "task worktree ownership is incomplete")
  checkAll (validateTask host l) (sortBy (·.identity.taskId) l.tasks.rows)

theorem validateTaskOwnership_task {host : Host} {l : Ledger} {u : Unit} (h : validateTaskOwnership host l = .ok u)
    {task : TaskRow} (ht : task ∈ l.tasks.rows) : validateTask host l task = .ok () := by
  simp only [validateTaskOwnership, bind_eq_ok, exists_unit] at h
  exact checkAll_eq_ok.1 h.2.2 task (mem_sortBy.2 ht)

section Backfill

variable {host : Host} {l : Ledger} {task : TaskRow}

/-- A reservation that is there is left alone. -/
theorem reserveBranch_of_owner {owners : Table OwnerRow.clash} {branch taskId : String}
    (h : (owners.rows.find? fun r => r.resource = branch).map (·.taskId) = some taskId) :
    reserveBranch owners branch taskId = some owners := by
  obtain ⟨r, hr, rfl⟩ := Option.map_eq_some_iff.1 h
  obtain ⟨hmem, rfl⟩ := (Table.find?_key (g := fun r : OwnerRow => r.resource) fun a b hk => by simp [OwnerRow.clash, hk]).1 hr
  rw [reserveBranch, if_pos ⟨r, hmem, rfl⟩]
  refine Table.update?_of_fixed fun q hq => ?_
  split
  · rename_i heq
    rw [Table.eq_of_key (g := fun r : OwnerRow => r.resource) (fun a b hk => by simp [OwnerRow.clash, hk]) hq hmem heq]
  · rfl

theorem reserveWorktree_of_owner {owners : Table OwnerRow.clash} {key taskId : String}
    (h : (owners.rows.find? fun r => r.resource = key).map (·.taskId) = some taskId) :
    reserveWorktree owners key taskId = some owners := by
  obtain ⟨r, hr, rfl⟩ := Option.map_eq_some_iff.1 h
  obtain ⟨hmem, rfl⟩ := (Table.find?_key (g := fun r : OwnerRow => r.resource) fun a b hk => by simp [OwnerRow.clash, hk]).1 hr
  have hfind : owners.rows.find? (fun q => q.taskId = r.taskId) = some r :=
    (Table.find?_key (g := fun r : OwnerRow => r.taskId) fun a b hk => by simp [OwnerRow.clash, hk]).2 ⟨hmem, rfl⟩
  simp only [reserveWorktree, hfind]
  exact if_neg (not_not.2 rfl)

theorem backfillTask_valid (ht : task ∈ l.tasks.rows) (h : validateTask host l task = .ok ()) :
    backfillTask host l task = .ok l := by
  simp only [validateTask, bind_eq_ok, exists_unit, refuse_eq_ok, not_not] at h
  obtain ⟨key, hkey, rfl, hbranch, hworktree⟩ := h
  have htasks : l.tasks.update (TaskRow.rekey task.identity.taskId task.worktreeKey)
      (TaskRow.rekey_clash task.identity.taskId task.worktreeKey) = l.tasks := by
    refine Table.ext ?_
    rw [Table.update_rows]
    conv_rhs => rw [← List.map_id' l.tasks.rows]
    refine List.map_congr_left fun r hr => ?_
    unfold TaskRow.rekey
    split
    · rename_i hid
      rw [Table.eq_of_key (g := fun r : TaskRow => r.identity.taskId) (fun a b hk => by simp [TaskRow.clash, hk]) hr ht hid]
    · rfl
  simp only [backfillTask, hbranch, hworktree, hkey, reserveBranch_of_owner hbranch, reserveWorktree_of_owner hworktree,
    htasks, demand, ok_bind]
  rw [refuse_of_not (by simp), ok_bind, refuse_of_not (by simp), ok_bind]
  rfl

theorem backfillTaskOwnership_valid {u : Unit} (h : validateTaskOwnership host l = .ok u) :
    backfillTaskOwnership host l = .ok l := by
  refine foldlM_fixed fun task htask => ?_
  have hmem : task ∈ l.tasks.rows := mem_sortBy.1 htask
  exact backfillTask_valid hmem (validateTaskOwnership_task h hmem)

end Backfill

end Roundwright.State
