/-
Denial scopes over whole runs. In every run of the recording operations and of the owner's commands, over
attempt admissions, candidate seals and runtime bindings that stay as they are, a scope is open exactly
when the last decision on each of its denials is a clearance; the decisions on a denial alternate and are
chained; and no command is used twice.

The invariant is that every record is still admitted and every decision is still derived from its command:
commands and grants are only added, so what was derived once is derived again.
-/
import Roundwright.Recovery.Denial

namespace Roundwright.Recovery

open Lib State

variable {host : Host}

/-! ## Histories -/

def DecisionKind.other : DecisionKind → DecisionKind
  | .clear => .revoke
  | .revoke => .clear

/-- The decisions are numbered from `expected` on, name their predecessors, and alternate from `kind` on. -/
def Chained : Nat → Option Digest → DecisionKind → List DecisionRow → Prop
  | _, _, _, [] => True
  | expected, predecessor, kind, row :: rest =>
    row.sequence = expected ∧ row.decision.sequence = expected ∧ row.decision.predecessorDigest = predecessor ∧
      row.decision.kind = kind ∧ Chained (expected + 1) (some row.decisionDigest) kind.other rest

/-- The kind of the decision that may follow. -/
def nextKind (kind : DecisionKind) (rows : List DecisionRow) : DecisionKind :=
  match rows.getLast? with
  | some last => last.decision.kind.other
  | none => kind

theorem Chained.append {row : DecisionRow} : ∀ {rows : List DecisionRow} {expected : Nat} {predecessor : Option Digest}
    {kind : DecisionKind}, Chained expected predecessor kind rows → row.sequence = expected + rows.length →
    row.decision.sequence = expected + rows.length →
    row.decision.predecessorDigest = (rows.getLast?.map (·.decisionDigest)).or predecessor →
    row.decision.kind = nextKind kind rows → Chained expected predecessor kind (rows ++ [row])
  | [], expected, predecessor, kind, _, hseq, hdseq, hpred, hkind => by
    simp only [List.length_nil, Nat.add_zero] at hseq hdseq
    exact ⟨hseq, hdseq, hpred, hkind, trivial⟩
  | head :: rest, expected, predecessor, kind, ⟨h₁, h₂, h₃, h₄, h₅⟩, hseq, hdseq, hpred, hkind => by
    rw [List.length_cons] at hseq hdseq
    refine ⟨h₁, h₂, h₃, h₄, Chained.append h₅ (by omega) (by omega) ?_ ?_⟩
    · rw [hpred, List.getLast?_cons]
      cases rest.getLast? <;> rfl
    · rw [hkind]
      unfold nextKind
      rw [List.getLast?_cons]
      cases rest.getLast? with
      | none => simp [h₄]
      | some last => rfl

/-- The decision is of the record, and its command gives the same receipt again. -/
structure Derived (host : Host) (s : Store) (taskId : String) (recordDigest : Digest) (binding : FailureBinding)
    (row : DecisionRow) : Prop where
  ofRecord : row.decision.recordDigest = recordDigest
  ofBinding : row.decision.binding = binding
  digest : row.decisionDigest = host.digestValue row.decision.payload
  receipt : denialCommandReceipt host s taskId recordDigest binding row.decision.denialCommand.commandId row.decision.kind
    (if row.decision.kind = .revoke then row.decision.predecessorDigest else none) = .ok row.decision.denialCommand

variable {recordDigest : Digest}

theorem readHistory_ok {s : Store} {taskId : String} {binding : FailureBinding} {u : Unit} :
    ∀ {rows : List DecisionRow} {expected : Nat} {predecessor : Option Digest} {cleared : Bool},
    readHistory host s taskId recordDigest binding expected predecessor cleared rows = .ok u ↔
      Chained expected predecessor (if cleared then .revoke else .clear) rows ∧
        ∀ row ∈ rows, Derived host s taskId recordDigest binding row
  | [], expected, predecessor, cleared => by simp [readHistory, Chained]
  | row :: rest, expected, predecessor, cleared => by
    simp only [readHistory, Chained, bind_eq_ok, exists_unit, refuse_eq_ok, not_not, List.forall_mem_cons, readHistory_ok]
    have hkind : ¬ (decide (row.decision.kind = .clear) = cleared) ↔
        row.decision.kind = if cleared then DecisionKind.revoke else .clear := by
      cases hk : row.decision.kind <;> cases cleared <;> simp
    have hother : ∀ k : DecisionKind, (if decide (k = .clear) = true then DecisionKind.revoke else .clear) = k.other := by
      intro k
      cases k <;> rfl
    rw [hother]
    constructor
    · rintro ⟨hseq, ⟨hrecord, hbinding, hdseq, hpred, hdigest⟩, receipt, hreceipt, heq, hturn, hrest, hderived⟩
      have hk := hkind.1 hturn
      refine ⟨⟨hseq, hdseq.trans hseq, hpred, hk, hk ▸ hrest⟩, ⟨hrecord, hbinding, hdigest, ?_⟩, hderived⟩
      rw [hpred, heq]
      rw [heq] at hreceipt
      exact hreceipt
    · rintro ⟨⟨hseq, hdseq, hpred, hk, hrest⟩, ⟨hrecord, hbinding, hdigest, hreceipt⟩, hderived⟩
      refine ⟨hseq, ⟨hrecord, hbinding, hdseq.trans hseq.symm, hpred, hdigest⟩, row.decision.denialCommand, ?_, rfl,
        hkind.2 hk, hk ▸ hrest, hderived⟩
      rw [← hpred]
      exact hreceipt

/-! ## What stays -/

variable {taskId : String}

theorem CommandRow.commandId_key : Table.IsKey CommandRow.clash (·.commandId) := by
  intro a b h
  simp [CommandRow.clash, show a.commandId = b.commandId from h]

theorem GrantRow.grantId_key : Table.IsKey GrantRow.clash (·.grantId) := by
  intro a b h
  simp [GrantRow.clash, show a.grantId = b.grantId from h]

/-- The attempt admissions of the task, its candidate seal and its runtime binding are as before, and no
command or grant of the owner is withdrawn. -/
structure Keeps (host : Host) (taskId : String) (s s' : Store) : Prop where
  task : (s'.ledger.task? taskId).map (·.identity) = (s.ledger.task? taskId).map (·.identity)
  candidateSeal : s'.ledger.seal? taskId = s.ledger.seal? taskId
  admission : ∀ identity : TaskIdentity, identity.taskId = taskId → ∀ binding,
    requireAttemptAdmission host s' identity binding = requireAttemptAdmission host s identity binding
  commands : ∀ kind, (s.commands kind).rows ⊆ (s'.commands kind).rows
  grants : ∀ kind, (s.grants kind).rows ⊆ (s'.grants kind).rows

theorem Keeps.ofTables {s : Store} (records : Table RecordRow.clash) (decisions : Table DecisionRow.clash) :
    Keeps host taskId s { s with failureRecords := records, decisions := decisions } where
  task := rfl
  candidateSeal := rfl
  admission _ _ _ := rfl
  commands kind := by cases kind <;> exact List.Subset.refl _
  grants kind := by cases kind <;> exact List.Subset.refl _

section Keeps

variable {s s' : Store}

theorem Keeps.command? (h : Keeps host taskId s s') {kind : DecisionKind} {commandId : String} {command : CommandRow}
    (hc : s.command? kind commandId = some command) : s'.command? kind commandId = some command := by
  obtain ⟨hmem, hid⟩ := (Table.find?_key CommandRow.commandId_key).1 hc
  exact (Table.find?_key CommandRow.commandId_key).2 ⟨h.commands kind hmem, hid⟩

theorem Keeps.grant? (h : Keeps host taskId s s') {kind : DecisionKind} {grantId : String} {grant : GrantRow}
    (hg : s.grant? kind grantId = some grant) : s'.grant? kind grantId = some grant := by
  obtain ⟨hmem, hid⟩ := (Table.find?_key GrantRow.grantId_key).1 hg
  exact (Table.find?_key GrantRow.grantId_key).2 ⟨h.grants kind hmem, hid⟩

theorem Keeps.task? (h : Keeps host taskId s s') {task : TaskRow} (ht : s.ledger.task? taskId = some task) :
    ∃ task', s'.ledger.task? taskId = some task' ∧ task'.identity = task.identity := by
  have hmap := h.task
  rw [ht, Option.map_some, Option.map_eq_some_iff] at hmap
  exact hmap

/-- A receipt that was derived is derived again. -/
theorem Keeps.receipt (h : Keeps host taskId s s') {recordDigest : Digest} {binding : FailureBinding}
    {commandId : String} {kind : DecisionKind} {clearance : Option Digest} {receipt : DenialReceipt}
    (hr : denialCommandReceipt host s taskId recordDigest binding commandId kind clearance = .ok receipt) :
    denialCommandReceipt host s' taskId recordDigest binding commandId kind clearance = .ok receipt := by
  simp only [denialCommandReceipt, bind_eq_ok, exists_unit, refuse_eq_ok, demand_eq_ok, not_not, pure_eq_ok] at hr ⊢
  obtain ⟨hclear, command, hc, grant, hg, sealed, hs, task, ht, hmatch, rfl⟩ := hr
  obtain rfl : command.taskId = taskId := hmatch.1
  obtain ⟨task', ht', hid⟩ := h.task? ht
  refine ⟨hclear, command, h.command? hc, grant, h.grant? hg, sealed, h.candidateSeal.trans hs, task', ht', ?_, rfl⟩
  rw [hid]
  exact hmatch

theorem Derived.keep (h : Keeps host taskId s s') {recordDigest : Digest} {binding : FailureBinding} {row : DecisionRow}
    (hd : Derived host s taskId recordDigest binding row) : Derived host s' taskId recordDigest binding row :=
  ⟨hd.ofRecord, hd.ofBinding, hd.digest, h.receipt hd.receipt⟩

end Keeps

/-! ## What a call can do -/

theorem DecisionRow.sequence_key : Table.IsKey DecisionRow.clash fun r => (r.taskId, r.recordDigest, r.sequence) := by
  intro a b h
  obtain ⟨h₁, h₂, h₃⟩ : a.taskId = b.taskId ∧ a.recordDigest = b.recordDigest ∧ a.sequence = b.sequence := by simpa using h
  simp [DecisionRow.clash, h₁, h₂, h₃]

theorem DecisionRow.command_key : Table.IsKey DecisionRow.clash fun r => (r.taskId, r.commandKind, r.commandId) := by
  intro a b h
  obtain ⟨h₁, h₂, h₃⟩ : a.taskId = b.taskId ∧ a.commandKind = b.commandKind ∧ a.commandId = b.commandId := by simpa using h
  simp [DecisionRow.clash, h₁, h₂, h₃]

/-- What a successful call has written: nothing, one admitted record, or one decision that its command makes
on a record that can be cleared. -/
inductive DenialEffect (host : Host) (s s' : Store) : Prop where
  | same (unchanged : s' = s)
  | recorded (task : TaskRow) (record : FailureRecord)
    (current : s.ledger.task? task.identity.taskId = some task) (schema : record.recordSchema = .v3)
    (admitted : requireAttemptAdmission host s task.identity record.binding = .ok ())
    (inserted : s.failureRecords.insert? ⟨record.digest host, task.identity.taskId, record⟩ = some s'.failureRecords)
    (frame : s' = { s with failureRecords := s'.failureRecords })
  | decided (task : TaskRow) (decision : Decision) (commandId : String) (requested : Option Digest)
    (current : s.ledger.task? task.identity.taskId = some task)
    (clearable : requireClearanceRecord host s task.identity decision.recordDigest decision.binding = .ok ())
    (next : nextDecision host s task.identity decision.kind decision.recordDigest decision.binding commandId requested =
      .ok decision)
    (inserted : s.decisions.insert? (decisionRow host task.identity.taskId commandId decision) = some s'.decisions)
    (frame : s' = { s with decisions := s'.decisions })

variable {s s' : Store}

theorem recordFailure_effect {identity : TaskIdentity} {record : FailureRecord} {digest : Digest}
    (h : recordFailure host identity record s = (.ok digest, s')) : DenialEffect host s s' := by
  simp only [recordFailure, Tx.query_bind, Tx.check_bind, Tx.write_bind, Tx.pure_ok, exists_unit, refuse_eq_ok, not_not] at h
  obtain ⟨state, hmatch, -, hschema, hadmitted, s₁, hwrite, -, rfl⟩ := h
  obtain ⟨task, htask, rfl, -⟩ := requireMatchingTask_ok.1 hmatch
  split at hwrite
  · simp only [bind_eq_ok, demand_eq_ok, pure_eq_ok] at hwrite
    obtain ⟨failureRecords, hinsert, rfl⟩ := hwrite
    exact .recorded task record htask hschema hadmitted hinsert rfl
  · simp only [bind_eq_ok, pure_eq_ok] at hwrite
    obtain ⟨-, -, rfl⟩ := hwrite
    exact .same rfl

variable {requested : Option Digest}

theorem nextDecision_ok {s : Store} {identity : TaskIdentity} {kind : DecisionKind} {binding : FailureBinding}
    {commandId : String} {decision : Decision}
    (h : nextDecision host s identity kind recordDigest binding commandId requested = .ok decision) :
    let history := s.decisionsOf identity.taskId recordDigest
    decision.kind = kind ∧ decision.recordDigest = recordDigest ∧ decision.binding = binding ∧
      decision.kind = nextKind .clear history ∧ decision.predecessorDigest = history.getLast?.map (·.decisionDigest) ∧
      decision.sequence = history.length + 1 ∧
      denialCommandReceipt host s identity.taskId recordDigest binding commandId kind
        (if kind = .revoke then decision.predecessorDigest else none) = .ok decision.denialCommand := by
  simp only [nextDecision, decisionHistory, bind_eq_ok, exists_unit, refuse_eq_ok, pure_eq_ok] at h
  obtain ⟨history, ⟨-, rfl⟩, hturn, -, receipt, hreceipt, rfl⟩ := h
  refine ⟨rfl, rfl, rfl, ?_, rfl, rfl, hreceipt⟩
  unfold nextKind
  cases hlast : (s.decisionsOf identity.taskId recordDigest).getLast? with
  | none =>
    rw [hlast] at hturn
    cases kind <;> simp at hturn ⊢
  | some last =>
    rw [hlast] at hturn
    cases hk : last.decision.kind <;> cases kind <;> simp [hk, DecisionKind.other] at hturn ⊢

theorem appendClearanceDecision_ok {identity : TaskIdentity} {kind : DecisionKind} {binding : FailureBinding}
    {commandId : String} {digest : Digest}
    (h : appendClearanceDecision host identity kind recordDigest binding commandId requested s = (.ok digest, s')) :
    ∃ decision, nextDecision host s identity kind recordDigest binding commandId requested = .ok decision ∧
      ((s.decisions.insert? (decisionRow host identity.taskId commandId decision) = some s'.decisions ∧
          s' = { s with decisions := s'.decisions }) ∨
        (s' = s ∧ ∃ row ∈ s.decisions.rows, row.taskId = identity.taskId ∧ row.recordDigest = recordDigest ∧
          row.decision = decision)) := by
  simp only [appendClearanceDecision, Tx.query_bind, Tx.write_bind, Tx.pure_ok] at h
  obtain ⟨decision, hnext, s₁, hwrite, -, rfl⟩ := h
  refine ⟨decision, hnext, ?_⟩
  split at hwrite
  · simp only [bind_eq_ok, demand_eq_ok, pure_eq_ok] at hwrite
    obtain ⟨decisions, hinsert, rfl⟩ := hwrite
    exact .inl ⟨hinsert, rfl⟩
  · rename_i existing hfound
    simp only [bind_eq_ok, exists_unit, refuse_eq_ok, not_or, not_not, pure_eq_ok] at hwrite
    obtain ⟨hsame, rfl⟩ := hwrite
    exact .inr ⟨rfl, existing, List.mem_of_find?_eq_some hfound, hsame⟩

theorem appendClearanceDecision_effect {task : TaskRow} {kind : DecisionKind} {binding : FailureBinding}
    {commandId : String} {digest : Digest} (htask : s.ledger.task? task.identity.taskId = some task)
    (hrecord : requireClearanceRecord host s task.identity recordDigest binding = .ok ())
    (h : appendClearanceDecision host task.identity kind recordDigest binding commandId requested s = (.ok digest, s')) :
    DenialEffect host s s' := by
  obtain ⟨decision, hnext, ⟨hinsert, hframe⟩ | ⟨rfl, -⟩⟩ := appendClearanceDecision_ok h
  · obtain ⟨rfl, rfl, rfl, -⟩ := nextDecision_ok hnext
    exact .decided task decision commandId requested htask hrecord hnext hinsert hframe
  · exact .same rfl

theorem recordClearance_effect {identity : TaskIdentity} {request : Clearance} {digest : Digest}
    (h : recordClearance host identity request s = (.ok digest, s')) : DenialEffect host s s' := by
  simp only [recordClearance, Tx.query_bind, exists_unit] at h
  obtain ⟨state, hmatch, hrecord, happend⟩ := h
  obtain ⟨task, htask, rfl, -⟩ := requireMatchingTask_ok.1 hmatch
  exact appendClearanceDecision_effect htask hrecord happend

theorem recordClearanceRevocation_effect {identity : TaskIdentity} {request : ClearanceRevocation} {digest : Digest}
    (h : recordClearanceRevocation host identity request s = (.ok digest, s')) : DenialEffect host s s' := by
  simp only [recordClearanceRevocation, Tx.query_bind, exists_unit] at h
  obtain ⟨state, hmatch, row, -, hrecord, happend⟩ := h
  obtain ⟨task, htask, rfl, -⟩ := requireMatchingTask_ok.1 hmatch
  exact appendClearanceDecision_effect htask hrecord happend

theorem transaction_effect {s : Store} {x : Except Error Unit} {body : Tx Error Store Digest}
    (h : ∀ digest s', body s = (.ok digest, s') → DenialEffect host s s') :
    DenialEffect host s ((Tx.check x >>= fun _ => transaction body) s).2 := by
  cases x with
  | error e => exact .same rfl
  | ok u =>
    show DenialEffect host s (transaction body s).2
    rcases transaction_cases body s with ⟨digest, s', hb, ht⟩ | ⟨e, -, ht⟩ <;> rw [ht]
    · exact h digest s' hb
    · exact .same rfl

theorem transaction_returned {x : Except Error Unit} {body : Tx Error Store Digest} {digest : Digest}
    (h : (Tx.check x >>= fun _ => transaction body) s = (.ok digest, s')) : body s = (.ok digest, s') := by
  obtain ⟨-, -, h⟩ := Tx.check_bind.1 h
  exact transaction_ok.1 h

theorem DenialCall.effect (c : DenialCall) (s : Store) : DenialEffect host s (c.run host s).2 := by
  cases c with
  | failure identity record observed => exact transaction_effect fun _ _ => recordFailure_effect
  | clearance identity request observed => exact transaction_effect fun _ _ => recordClearance_effect
  | revocation identity request observed => exact transaction_effect fun _ _ => recordClearanceRevocation_effect

theorem DenialCall.owner (host : Host) (c : DenialCall) (s : Store) :
    (c.run host s).2.clearanceGrants = s.clearanceGrants ∧
    (c.run host s).2.clearanceCommands = s.clearanceCommands ∧ (c.run host s).2.revocationGrants = s.revocationGrants ∧
    (c.run host s).2.revocationCommands = s.revocationCommands := by
  have h : DenialEffect host s (c.run host s).2 := c.effect s
  generalize (c.run host s).2 = s' at h
  cases h with
  | same hsame => rw [hsame]; exact ⟨rfl, rfl, rfl, rfl⟩
  | recorded _ _ _ _ _ _ hframe => rw [hframe]; exact ⟨rfl, rfl, rfl, rfl⟩
  | decided _ _ _ _ _ _ _ _ hframe => rw [hframe]; exact ⟨rfl, rfl, rfl, rfl⟩

/-! ## The invariant -/

/-- Every record of the task is admitted still, and every decision is derived still from the command it
names. -/
structure Sound (host : Host) (taskId : String) (s : Store) : Prop where
  records : ∀ row ∈ s.failureRecords.rows, row.taskId = taskId → row.recordDigest = row.record.digest host ∧
    row.record.recordSchema = .v3 ∧ ∃ task, s.ledger.task? taskId = some task ∧ task.identity.taskId = taskId ∧
      requireAttemptAdmission host s task.identity row.record.binding = .ok ()
  decisions : ∀ row ∈ s.decisions.rows, row.taskId = taskId → row.commandKind = row.decision.kind ∧
    row.commandId = row.decision.denialCommand.commandId ∧
    ∃ record, s.record? taskId row.recordDigest = some record ∧ Derived host s taskId row.recordDigest record.binding row
  chained : ∀ recordDigest, Chained 1 none .clear (s.decisionsOf taskId recordDigest)

theorem Chained.sequence_lt {row : DecisionRow} : ∀ {rows : List DecisionRow} {expected : Nat}
    {predecessor : Option Digest} {kind : DecisionKind}, Chained expected predecessor kind rows → row ∈ rows →
      row.sequence < expected + rows.length ∧ row.decision.sequence < expected + rows.length
  | head :: rest, expected, predecessor, kind, ⟨h₁, h₂, _, _, h₅⟩, hmem => by
    rw [List.length_cons]
    rcases List.mem_cons.1 hmem with rfl | hmem
    · omega
    · have := h₅.sequence_lt hmem
      omega

theorem Store.mem_decisionsOf {s : Store} {row : DecisionRow} :
    row ∈ s.decisionsOf taskId recordDigest ↔ row ∈ s.decisions.rows ∧ row.taskId = taskId ∧ row.recordDigest = recordDigest := by
  simp [Store.decisionsOf]

theorem Store.decisionsOf_append_other {row : DecisionRow} (hrows : s'.decisions.rows = s.decisions.rows ++ [row])
    (h : ¬ (row.taskId = taskId ∧ row.recordDigest = recordDigest)) :
    s'.decisionsOf taskId recordDigest = s.decisionsOf taskId recordDigest := by
  unfold Store.decisionsOf
  rw [hrows, filter_append_none fun a ha => ?_]
  rw [List.mem_singleton.1 ha]
  exact decide_eq_false h

theorem Store.decisionsOf_append_last {row : DecisionRow} (hrows : s'.decisions.rows = s.decisions.rows ++ [row])
    (hlast : ∀ old ∈ s.decisionsOf row.taskId row.recordDigest, old.sequence < row.sequence) :
    s'.decisionsOf row.taskId row.recordDigest = s.decisionsOf row.taskId row.recordDigest ++ [row] := by
  unfold Store.decisionsOf
  rw [hrows, List.filter_append]
  have hnew : [row].filter (fun r => decide (r.taskId = row.taskId ∧ r.recordDigest = row.recordDigest)) = [row] := by simp
  rw [hnew]
  refine sortBy_append_last ?_ fun a ha => hlast a (mem_sortBy.2 ha)
  -- within one history the sequence numbers are the key
  refine List.pairwise_map.2 (List.Pairwise.imp_of_mem ?_ ((s.decisions.keys_pairwise DecisionRow.sequence_key).filter _))
  intro a b ha hb hne hseq
  have ha := (List.mem_filter.1 ha).2
  have hb := (List.mem_filter.1 hb).2
  simp only [decide_eq_true_eq] at ha hb
  exact hne (by rw [ha.1, ha.2, hb.1, hb.2, hseq])

/-! ## Steps -/

/-- A call of an operation, on any task, or anything else that keeps the admissions of the task and leaves
the records and the decisions alone: the owner's commands come in this way. -/
inductive DenialStep (host : Host) (taskId : String) (s : Store) : Store → Prop where
  | call (c : DenialCall) : DenialStep host taskId s (c.run host s).2
  | other {s' : Store} (keeps : Keeps host taskId s s') (records : s'.failureRecords = s.failureRecords)
    (decisions : s'.decisions = s.decisions) : DenialStep host taskId s s'

section Step

variable {s s' : Store}

theorem Sound.other (h : Sound host taskId s) (hkeep : Keeps host taskId s s')
    (hrecords : s'.failureRecords = s.failureRecords) (hdecisions : s'.decisions = s.decisions) : Sound host taskId s' := by
  refine ⟨fun row hrow htask => ?_, fun row hrow htask => ?_, fun recordDigest => ?_⟩
  · rw [hrecords] at hrow
    obtain ⟨hdigest, hschema, task, ht, hid, hadmitted⟩ := h.records row hrow htask
    obtain ⟨task', ht', hid'⟩ := hkeep.task? ht
    refine ⟨hdigest, hschema, task', ht', hid' ▸ hid, ?_⟩
    rw [hid', hkeep.admission _ hid]
    exact hadmitted
  · rw [hdecisions] at hrow
    obtain ⟨hkind, hcommand, record, hrecord, hderived⟩ := h.decisions row hrow htask
    refine ⟨hkind, hcommand, record, ?_, hderived.keep hkeep⟩
    unfold Store.record?
    rw [hrecords]
    exact hrecord
  · unfold Store.decisionsOf
    rw [hdecisions]
    exact h.chained recordDigest

theorem Sound.recorded (h : Sound host taskId s) {task : TaskRow} {record : FailureRecord}
    (htask : s.ledger.task? task.identity.taskId = some task) (hschema : record.recordSchema = .v3)
    (hadmitted : requireAttemptAdmission host s task.identity record.binding = .ok ())
    (hinsert : s.failureRecords.insert? ⟨record.digest host, task.identity.taskId, record⟩ = some s'.failureRecords)
    (hframe : s' = { s with failureRecords := s'.failureRecords }) : Sound host taskId s' := by
  obtain ⟨-, hrows⟩ := Table.insert?_eq_some.1 hinsert
  have hkeep : Keeps host taskId s s' := by
    rw [hframe]
    exact Keeps.ofTables s'.failureRecords s.decisions
  have hledger : s'.ledger = s.ledger := by rw [hframe]
  have hdecisions : s'.decisions = s.decisions := by rw [hframe]
  have hadmission : ∀ identity binding,
      requireAttemptAdmission host s' identity binding = requireAttemptAdmission host s identity binding := by
    intro identity binding
    rw [hframe]
    rfl
  refine ⟨fun row hrow hid => ?_, fun row hrow hid => ?_, fun recordDigest => ?_⟩
  · rw [hledger]
    simp only [hadmission]
    rw [hrows, List.mem_append, List.mem_singleton] at hrow
    rcases hrow with hrow | rfl
    · exact h.records row hrow hid
    · exact ⟨rfl, hschema, task, hid ▸ htask, hid, hadmitted⟩
  · rw [hdecisions] at hrow
    obtain ⟨hkind, hcommand, found, hfound, hderived⟩ := h.decisions row hrow hid
    refine ⟨hkind, hcommand, found, ?_, hderived.keep hkeep⟩
    obtain ⟨old, hold, rfl⟩ := Option.map_eq_some_iff.1 hfound
    unfold Store.record?
    rw [hrows, find?_append_some hold]
    rfl
  · unfold Store.decisionsOf
    rw [hdecisions]
    exact h.chained recordDigest

theorem requireClearanceRecord_ok {identity : TaskIdentity} {recordDigest : Digest} {binding : FailureBinding}
    (h : requireClearanceRecord host s identity recordDigest binding = .ok ()) :
    ∃ record, s.record? identity.taskId recordDigest = some record ∧ record.binding = binding := by
  simp only [requireClearanceRecord, bind_eq_ok, exists_unit, demand_eq_ok, refuse_eq_ok, not_not] at h
  obtain ⟨-, record, hrecord, ⟨-, hbinding, -⟩, -⟩ := h
  exact ⟨record, hrecord, hbinding⟩

theorem denialCommandReceipt_commandId {recordDigest : Digest} {binding : FailureBinding} {commandId : String}
    {kind : DecisionKind} {clearance : Option Digest} {receipt : DenialReceipt}
    (h : denialCommandReceipt host s taskId recordDigest binding commandId kind clearance = .ok receipt) :
    receipt.commandId = commandId := by
  simp only [denialCommandReceipt, bind_eq_ok, pure_eq_ok] at h
  obtain ⟨-, -, -, -, -, -, -, -, -, -, -, -, rfl⟩ := h
  rfl

theorem Sound.decided (h : Sound host taskId s) {task : TaskRow} {decision : Decision} {commandId : String}
    {requested : Option Digest}
    (hclear : requireClearanceRecord host s task.identity decision.recordDigest decision.binding = .ok ())
    (hnext : nextDecision host s task.identity decision.kind decision.recordDigest decision.binding commandId requested =
      .ok decision)
    (hinsert : s.decisions.insert? (decisionRow host task.identity.taskId commandId decision) = some s'.decisions)
    (hframe : s' = { s with decisions := s'.decisions }) : Sound host taskId s' := by
  obtain ⟨-, hrows⟩ := Table.insert?_eq_some.1 hinsert
  have hkeep : Keeps host taskId s s' := by
    rw [hframe]
    exact Keeps.ofTables s.failureRecords s'.decisions
  obtain ⟨-, -, -, hkind, hpred, hseq, hreceipt⟩ := nextDecision_ok hnext
  have hrecord? : ∀ recordDigest, s'.record? taskId recordDigest = s.record? taskId recordDigest := by
    intro recordDigest
    rw [hframe]
    rfl
  -- the new decision is the only row to look at
  refine ⟨fun row hrow hid => ?_, fun row hrow hid => ?_, fun recordDigest => ?_⟩
  · rw [hframe] at hrow ⊢
    exact h.records row hrow hid
  · rw [hrecord?]
    rw [hrows, List.mem_append, List.mem_singleton] at hrow
    rcases hrow with hrow | rfl
    · obtain ⟨hkind, hcommand, found, hfound, hderived⟩ := h.decisions row hrow hid
      exact ⟨hkind, hcommand, found, hfound, hderived.keep hkeep⟩
    · obtain rfl : task.identity.taskId = taskId := hid
      obtain ⟨record, hfound, hbinding⟩ := requireClearanceRecord_ok hclear
      refine ⟨rfl, (denialCommandReceipt_commandId hreceipt).symm, record, hfound, rfl, hbinding.symm, rfl, ?_⟩
      rw [hbinding]
      have hcommand := denialCommandReceipt_commandId hreceipt
      show denialCommandReceipt host s' _ decision.recordDigest _ decision.denialCommand.commandId _ _ = _
      rw [hcommand]
      exact hkeep.receipt hreceipt
  · by_cases hrow : task.identity.taskId = taskId ∧ decision.recordDigest = recordDigest
    · obtain ⟨rfl, rfl⟩ := hrow
      have hchain := h.chained decision.recordDigest
      have hlength : 1 + (s.decisionsOf task.identity.taskId decision.recordDigest).length = decision.sequence := by
        rw [hseq, Nat.add_comm]
      rw [show s'.decisionsOf task.identity.taskId decision.recordDigest = _ from
        Store.decisionsOf_append_last hrows fun old hold => by
          have := (hchain.sequence_lt hold).1
          rw [hlength] at this
          exact this]
      exact hchain.append hlength.symm hlength.symm (by rw [Option.or_none]; exact hpred) hkind
    · rw [Store.decisionsOf_append_other hrows hrow]
      exact h.chained recordDigest

theorem Sound.effect (h : Sound host taskId s) (heff : DenialEffect host s s') : Sound host taskId s' := by
  cases heff with
  | same hsame => rwa [hsame]
  | recorded task record htask hschema hadmitted hinsert hframe => exact h.recorded htask hschema hadmitted hinsert hframe
  | decided task decision commandId requested htask hclear hnext hinsert hframe => exact h.decided hclear hnext hinsert hframe

theorem Sound.step (h : Sound host taskId s) (hstep : DenialStep host taskId s s') : Sound host taskId s' := by
  cases hstep with
  | call c => exact h.effect (c.effect s)
  | other hkeep hrecords hdecisions => exact h.other hkeep hrecords hdecisions

end Step

theorem Sound.of_empty {s : Store} (hrecords : ∀ row ∈ s.failureRecords.rows, row.taskId ≠ taskId)
    (hdecisions : ∀ row ∈ s.decisions.rows, row.taskId ≠ taskId) : Sound host taskId s := by
  refine ⟨fun row hrow hid => absurd hid (hrecords row hrow), fun row hrow hid => absurd hid (hdecisions row hrow), ?_⟩
  intro recordDigest
  have hnone : s.decisionsOf taskId recordDigest = [] := by
    rw [List.eq_nil_iff_forall_not_mem]
    intro row hrow
    obtain ⟨hmem, hid, -⟩ := Store.mem_decisionsOf.1 hrow
    exact hdecisions row hmem hid
  rw [hnone]
  trivial

/-! ## Scopes and commands -/

section Reads

variable {s : Store}

theorem Store.record?_of_mem {row : RecordRow} (hrow : row ∈ s.failureRecords.rows) :
    s.record? row.taskId row.recordDigest = some row.record := by
  have hkey : Table.IsKey RecordRow.clash fun r => (r.taskId, r.recordDigest) := by
    intro a b h
    simp [RecordRow.clash, show a.recordDigest = b.recordDigest from (Prod.mk.inj h).2]
  have hfound := (Table.find?_key hkey).2 ⟨hrow, rfl⟩
  simp only [Prod.mk.injEq] at hfound
  unfold Store.record?
  rw [hfound]
  rfl

/-- The history of a record is read without complaint. -/
theorem Sound.history (h : Sound host taskId s) {row : RecordRow} (hrow : row ∈ s.failureRecords.rows)
    (hid : row.taskId = taskId) : decisionHistory host s taskId row.recordDigest row.record.binding =
      .ok (s.decisionsOf taskId row.recordDigest) := by
  have hread : readHistory host s taskId row.recordDigest row.record.binding 1 none false
      (s.decisionsOf taskId row.recordDigest) = .ok () := by
    refine readHistory_ok.2 ⟨h.chained row.recordDigest, fun d hd => ?_⟩
    obtain ⟨hmem, htask, hdigest⟩ := Store.mem_decisionsOf.1 hd
    obtain ⟨-, -, record, hrecord, hderived⟩ := h.decisions d hmem htask
    have hsame : s.record? taskId row.recordDigest = some row.record := hid ▸ Store.record?_of_mem hrow
    rw [hdigest, hsame, Option.some.injEq] at hrecord
    rw [hrecord, ← hdigest]
    exact hderived
  unfold decisionHistory
  rw [hread]
  rfl

theorem Sound.recordOpen (h : Sound host taskId s) {row : RecordRow} (hrow : row ∈ s.failureRecords.rows)
    (hid : row.taskId = taskId) {scope : String} : requireRecordOpen host s taskId scope row = .ok () ↔
      (row.record.action = .stopScope → row.record.binding.authorityScope.val = scope →
        (s.decisionsOf taskId row.recordDigest).getLast?.map (·.decision.kind) = some .clear) := by
  obtain ⟨hdigest, -, task, htask, -, hadmitted⟩ := h.records row hrow hid
  unfold requireRecordOpen
  rw [refuse_of_not (not_not.2 hdigest.symm), ok_bind, row.record.compatible, ok_bind]
  split
  · rename_i hother
    refine ⟨fun _ hstop hscope => ?_, fun _ => rfl⟩
    rcases hother with hother | hother
    · exact absurd hstop hother
    · exact absurd hscope hother
  · rename_i hstop
    simp only [ne_eq, not_or, not_not] at hstop
    rw [htask, show demand (some task) _ = .ok task from rfl, ok_bind, hadmitted, ok_bind, h.history hrow hid, ok_bind,
      refuse_eq_ok, not_not]
    exact ⟨fun hlast _ _ => hlast, fun hlast => hlast hstop.1 hstop.2⟩

theorem Sound.scopeOpen (h : Sound host taskId s) (scope : String) : requireScopeOpen host s taskId scope = .ok () ↔
    ∀ row ∈ s.failureRecords.rows, row.taskId = taskId → row.record.action = .stopScope →
      row.record.binding.authorityScope.val = scope →
        (s.decisionsOf taskId row.recordDigest).getLast?.map (·.decision.kind) = some .clear := by
  unfold requireScopeOpen
  simp only [checkAll_eq_ok, List.mem_filter, decide_eq_true_eq]
  constructor
  · intro hall row hrow hid
    exact (h.recordOpen hrow hid).1 (hall row ⟨hrow, hid⟩)
  · rintro hall row ⟨hrow, hid⟩
    exact (h.recordOpen hrow hid).2 (hall row hrow hid)

theorem Sound.command_once (h : Sound host taskId s) {a b : DecisionRow} (ha : a ∈ s.decisions.rows)
    (hb : b ∈ s.decisions.rows) (hta : a.taskId = taskId) (htb : b.taskId = taskId)
    (hkind : a.decision.kind = b.decision.kind)
    (hcommand : a.decision.denialCommand.commandId = b.decision.denialCommand.commandId) : a = b := by
  obtain ⟨hka, hca, -⟩ := h.decisions a ha hta
  obtain ⟨hkb, hcb, -⟩ := h.decisions b hb htb
  refine Table.eq_of_key DecisionRow.command_key ha hb ?_
  rw [hta, htb, hka, hkb, hca, hcb, hkind, hcommand]

/-- A command that has made a decision makes no other. -/
theorem Sound.append_fresh (h : Sound host taskId s) {s' : Store} {identity : TaskIdentity} {kind : DecisionKind}
    {recordDigest : Digest} {binding : FailureBinding} {commandId : String} {requested : Option Digest}
    {digest : Digest} (hid : identity.taskId = taskId)
    (happend : appendClearanceDecision host identity kind recordDigest binding commandId requested s = (.ok digest, s'))
    {row : DecisionRow} (hrow : row ∈ s.decisions.rows) (htask : row.taskId = taskId) (hkind : row.decision.kind = kind) :
    row.decision.denialCommand.commandId ≠ commandId := by
  obtain ⟨hcommandKind, hcommandId, -⟩ := h.decisions row hrow htask
  obtain ⟨decision, hnext, ⟨hinsert, -⟩ | ⟨-, old, hold, hot, hor, hod⟩⟩ := appendClearanceDecision_ok happend
  · intro hsame
    obtain ⟨hdkind, -⟩ := nextDecision_ok hnext
    have hfree := (Table.insert?_eq_some.1 hinsert).1 row hrow
    rw [DecisionRow.command_key row (decisionRow host identity.taskId commandId decision)] at hfree
    · cases hfree
    · simp only [decisionRow, htask, hcommandKind, hcommandId, hkind, hsame, hid, hdkind]
  · -- the decision there already would be the one after the last of its own history
    subst hid
    obtain ⟨-, -, -, -, -, hseq, -⟩ := nextDecision_ok hnext
    have hmem := Store.mem_decisionsOf.2 ⟨hold, hot, hor⟩
    obtain ⟨-, hlt⟩ := (h.chained recordDigest).sequence_lt hmem
    rw [hod] at hlt
    omega

end Reads

/-- A scope is open exactly when the last decision on each of its denials is a clearance; the decisions on a
denial alternate from a clearance on, are numbered from one and name their predecessors; no command is the
basis of two decisions, and a clearance or a revocation that succeeds cites a command that has made none. -/
theorem scope_open_iff_cleared {s₀ s : Store} (hrecords : ∀ row ∈ s₀.failureRecords.rows, row.taskId ≠ taskId)
    (hdecisions : ∀ row ∈ s₀.decisions.rows, row.taskId ≠ taskId)
    (hrun : Relation.ReflTransGen (DenialStep host taskId) s₀ s) :
    (∀ scope, requireScopeOpen host s taskId scope = .ok () ↔
      ∀ row ∈ s.failureRecords.rows, row.taskId = taskId → row.record.action = .stopScope →
        row.record.binding.authorityScope.val = scope →
          (s.decisionsOf taskId row.recordDigest).getLast?.map (·.decision.kind) = some .clear) ∧
    (∀ recordDigest, Chained 1 none .clear (s.decisionsOf taskId recordDigest)) ∧
    (∀ a ∈ s.decisions.rows, ∀ b ∈ s.decisions.rows, a.taskId = taskId → b.taskId = taskId →
      a.decision.kind = b.decision.kind → a.decision.denialCommand.commandId = b.decision.denialCommand.commandId → a = b) ∧
    (∀ identity request observed digest s', identity.taskId = taskId →
      (DenialCall.clearance identity request observed).run host s = (.ok digest, s') →
        ∀ row ∈ s.decisions.rows, row.taskId = taskId → row.decision.kind = .clear →
          row.decision.denialCommand.commandId ≠ request.commandId.val) ∧
    (∀ identity request observed digest s', identity.taskId = taskId →
      (DenialCall.revocation identity request observed).run host s = (.ok digest, s') →
        ∀ row ∈ s.decisions.rows, row.taskId = taskId → row.decision.kind = .revoke →
          row.decision.denialCommand.commandId ≠ request.commandId.val) := by
  have h : Sound host taskId s := run_induction (fun _ _ hstep hs => hs.step hstep) hrun (Sound.of_empty hrecords hdecisions)
  refine ⟨h.scopeOpen, h.chained, fun a ha b hb hta htb => h.command_once ha hb hta htb, ?_, ?_⟩
  · intro identity request observed digest s' hid hcall row hrow htask hkind
    have hbody := transaction_returned hcall
    simp only [recordClearance, Tx.query_bind, exists_unit] at hbody
    obtain ⟨_, _, _, happend⟩ := hbody
    exact h.append_fresh hid happend hrow htask hkind
  · intro identity request observed digest s' hid hcall row hrow htask hkind
    have hbody := transaction_returned hcall
    simp only [recordClearanceRevocation, Tx.query_bind, exists_unit] at hbody
    obtain ⟨_, _, _, _, _, happend⟩ := hbody
    exact h.append_fresh hid happend hrow htask hkind

namespace Sample

/-- The host denies what the attempt does. -/
def denial : RecordFields := ⟨binding, .hostSecurityDenial, .verifiedHost, false, .stopScope, true, .verified, .v3,
    true, some binding⟩
def denialRecord : FailureRecord := ⟨denial, by decide⟩
def denialDigest : Digest := denialRecord.digest .sample

def grant (kind : DecisionKind) : GrantRow :=
  ⟨"grant", "ythdelmar68", "task", "repository", candidate.text, "state", "scope", denialDigest,
    denialAuthorityDigest .sample kind "ythdelmar68" "task" "repository" candidate.text "state" "scope" denialDigest⟩

def command (commandId : String) (clearance : Option Digest) : CommandRow :=
  ⟨commandId, "task", "repository", denialDigest, clearance, "grant", candidate.text, "state", "scope", denialDigest,
    (Hex.ofNat 64 10).text, (Hex.ofNat 64 11).text, (Hex.ofNat 64 12).text, commandId⟩

/-- The commands and grants the owner has given. -/
def withCommands (s : Store) (clearanceGrants : Table GrantRow.clash) (clearanceCommands : Table CommandRow.clash)
    (revocationGrants : Table GrantRow.clash) (revocationCommands : Table CommandRow.clash) : Store :=
  { s with clearanceGrants, clearanceCommands, revocationGrants, revocationCommands }

def denied : Store := ((DenialCall.failure identity denialRecord 1).run .sample admitted).2

def first : Name := ⟨"first", by decide⟩
def second : Name := ⟨"second", by decide⟩
def revoking : Name := ⟨"revoking", by decide⟩

def clearanceCommands : Table CommandRow.clash := ⟨[command "first" none, command "second" none], by decide⟩

/-- The owner gives two commands to clear the denial. -/
def commanded : Store := withCommands denied ⟨[grant .clear], by simp⟩ clearanceCommands .empty .empty

def cleared : Store := ((DenialCall.clearance identity ⟨denialDigest, binding, first⟩ 2).run .sample commanded).2

def clearance : Digest := (cleared.decisions.rows.head?.map (·.decisionDigest)).getD denialDigest

/-- The owner gives a command to revoke the clearance. -/
def revocable : Store :=
  withCommands cleared ⟨[grant .clear], by simp⟩ clearanceCommands ⟨[grant .revoke], by simp⟩
    ⟨[command "revoking" (some clearance)], by simp⟩

def revoked : Store := ((DenialCall.revocation identity ⟨clearance, binding, revoking⟩ 3).run .sample revocable).2

def reopened : Store := ((DenialCall.clearance identity ⟨denialDigest, binding, second⟩ 4).run .sample revoked).2

theorem withCommands_step {s : Store} {clearanceGrants revocationGrants : Table GrantRow.clash}
    {clearanceCommands revocationCommands : Table CommandRow.clash}
    (hg : s.clearanceGrants.rows ⊆ clearanceGrants.rows ∧ s.revocationGrants.rows ⊆ revocationGrants.rows)
    (hc : s.clearanceCommands.rows ⊆ clearanceCommands.rows ∧ s.revocationCommands.rows ⊆ revocationCommands.rows) :
    DenialStep .sample "task" s (withCommands s clearanceGrants clearanceCommands revocationGrants revocationCommands) := by
  refine .other ⟨rfl, rfl, fun _ _ _ => rfl, fun kind => ?_, fun kind => ?_⟩ rfl rfl
  · cases kind
    · exact hc.1
    · exact hc.2
  · cases kind
    · exact hg.1
    · exact hg.2

theorem revoked_run : Relation.ReflTransGen (DenialStep .sample "task") admitted revoked := by
  have hdenied := DenialCall.owner .sample (.failure identity denialRecord 1) admitted
  have hcommanded : DenialStep .sample "task" denied commanded := by
    refine withCommands_step ?_ ?_
    · rw [denied, hdenied.1, hdenied.2.2.1]
      exact ⟨List.nil_subset _, List.nil_subset _⟩
    · rw [denied, hdenied.2.1, hdenied.2.2.2]
      exact ⟨List.nil_subset _, List.nil_subset _⟩
  have hcleared := DenialCall.owner .sample (.clearance identity ⟨denialDigest, binding, first⟩ 2) commanded
  have hrevocable : DenialStep .sample "task" cleared revocable := by
    refine withCommands_step ?_ ?_
    · rw [cleared, hcleared.1, hcleared.2.2.1]
      exact ⟨List.Subset.refl _, List.nil_subset _⟩
    · rw [cleared, hcleared.2.1, hcleared.2.2.2]
      exact ⟨List.Subset.refl _, List.nil_subset _⟩
  have hfirst : DenialStep .sample "task" admitted denied := by
    rw [denied]
    exact .call _
  have hsecond : DenialStep .sample "task" commanded cleared := by
    rw [cleared]
    exact .call _
  rw [revoked]
  exact .tail (.tail (.tail (.tail (.single hfirst) hcommanded) hsecond) hrevocable) (.call _)

theorem reopened_run : Relation.ReflTransGen (DenialStep .sample "task") admitted reopened := by
  rw [reopened]
  exact revoked_run.tail (.call _)

/-- The denial after the revocation, and the decisions after the second clearance, in one evaluation. -/
theorem history :
    (revoked.failureRecords.rows.map (fun r => (r.recordDigest, r.taskId, r.record.action,
        r.record.binding.authorityScope.val, (revoked.decisionsOf "task" r.recordDigest).getLast?.map (·.decision.kind))) =
      [(denialDigest, "task", .stopScope, "scope", some .revoke)]) ∧
    reopened.decisions.rows.map (fun r => (r.sequence, r.decision.kind, r.commandId)) =
      [(1, .clear, "first"), (2, .revoke, "revoking"), (3, .clear, "second")] ∧
    ∀ row ∈ reopened.failureRecords.rows,
      (reopened.decisionsOf "task" row.recordDigest).getLast?.map (·.decision.kind) = some .clear := by
  decide +kernel

end Sample

open Sample in
/-- A denial is cleared, the clearance revoked, and the scope opened again by a second command. -/
theorem scope_open_iff_cleared_reopened :
    reopened.decisions.rows.map (fun r => (r.sequence, r.decision.kind, r.commandId)) =
      [(1, .clear, "first"), (2, .revoke, "revoking"), (3, .clear, "second")] ∧
    requireScopeOpen .sample revoked "task" "scope" ≠ .ok () ∧
    requireScopeOpen .sample reopened "task" "scope" = .ok () ∧
    ∀ recordDigest, Chained 1 none .clear (reopened.decisionsOf "task" recordDigest) := by
  have hempty : ∀ row ∈ admitted.failureRecords.rows, row.taskId ≠ "task" := by decide +kernel
  have hnone : ∀ row ∈ admitted.decisions.rows, row.taskId ≠ "task" := by decide +kernel
  obtain ⟨hopen, hchain, -⟩ := scope_open_iff_cleared hempty hnone reopened_run
  obtain ⟨hshut, -⟩ := scope_open_iff_cleared hempty hnone revoked_run
  have hscope : requireScopeOpen .sample reopened "task" "scope" = .ok () := by
    rw [hopen "scope"]
    intro row hrow _ _ _
    exact history.2.2 row hrow
  refine ⟨history.2.1, fun hok => ?_, hscope, by assumption⟩
  have hmem : (denialDigest, "task", RecoveryAction.stopScope, "scope", some DecisionKind.revoke) ∈
      revoked.failureRecords.rows.map fun r => (r.recordDigest, r.taskId, r.record.action,
        r.record.binding.authorityScope.val, (revoked.decisionsOf "task" r.recordDigest).getLast?.map (·.decision.kind)) := by
    rw [history.1]
    exact List.mem_singleton_self _
  obtain ⟨row, hrow, heq⟩ := List.mem_map.1 hmem
  simp only [Prod.mk.injEq] at heq
  obtain ⟨-, htask, hstop, hscope', hkind⟩ := heq
  have hclear := (hshut "scope").1 hok row hrow htask hstop hscope'
  rw [hclear] at hkind
  cases hkind

end Roundwright.Recovery
