/-
The state machine of a provider attempt. Fourteen operations act on the row of an attempt, its session
checkpoint, its dispatch claim, its recovery outcome and its objective; what a committed call has done to
these five tables is one of the cases of `Effect`.
-/
import Roundwright.Provider.Recover

namespace Roundwright.Provider

open Lib State Recovery

/-! ## Calls -/

/-- A call of the provider operations, with the lease it presents and the time it observes. -/
inductive Call where
  | prepare (identity : TaskIdentity) (c : RecoveryContext) (request : PrepareRequest) (lease : Option TransitionLease)
      (observed : Int)
  | claim (role : FailureRole) (identity : TaskIdentity) (c : RecoveryContext) (attemptId : String)
    (lease : Option TransitionLease) (observed : Int)
  | session (identity : TaskIdentity) (c : RecoveryContext) (attemptId sessionIdentity : String)
    (lease : Option TransitionLease) (observed : Int)
  | turn (identity : TaskIdentity) (c : RecoveryContext) (attemptId sessionIdentity turnIdentity : String)
    (lease : Option TransitionLease) (observed : Int)
  | completed (identity : TaskIdentity) (c : RecoveryContext)
    (attemptId outputPointer evidence outputFingerprint : String) (lease : Option TransitionLease) (observed : Int)
  | invalid (identity : TaskIdentity) (c : RecoveryContext)
    (attemptId outputPointer outputFingerprint reasonFingerprint : String) (lease : Option TransitionLease) (observed : Int)
  | accept (identity : TaskIdentity) (c : RecoveryContext) (attemptId reviewIdentity : String)
    (lease : Option TransitionLease) (observed : Int)
  | invalidate (identity : TaskIdentity) (c : RecoveryContext) (attemptId : String) (lease : Option TransitionLease) (observed : Int)
  | terminate (identity : TaskIdentity) (c : RecoveryContext) (f : TerminalFailure) (lease : Option TransitionLease) (observed : Int)
  | denyScope (identity : TaskIdentity) (c : RecoveryContext) (attemptId sessionIdentity : String)
    (lease : Option TransitionLease) (observed : Int)
  | blockAccounting (identity : TaskIdentity) (c : RecoveryContext) (attemptId : String)
      (lease : Option TransitionLease) (observed : Int)
  | blockSession (identity : TaskIdentity) (c : RecoveryContext) (attemptId : String) (lease : Option TransitionLease)
      (observed : Int)
  | recover (identity : TaskIdentity) (c : RecoveryContext) (request : RecoverRequest) (lease : Option TransitionLease)
      (observed : Int)

inductive Answer where
  | attempt (row : AttemptRow)
  | recovery (projection : RecoveryProjection)

/-- A claim is made for a Worker or for a Supervisor. -/
def Call.run (host : Host) : Call → Tx Error Store Answer
  | .prepare identity c request lease observed => Answer.attempt <$> prepareAttempt host identity c request lease observed
  | .claim role identity c attemptId lease observed => Answer.attempt <$> claimDispatch host role identity c attemptId lease observed
  | .session identity c attemptId sessionIdentity lease observed =>
    Answer.attempt <$> recordSessionIdentity host identity c attemptId sessionIdentity lease observed
  | .turn identity c attemptId sessionIdentity turnIdentity lease observed =>
    Answer.attempt <$> recordExternalTurn host identity c attemptId sessionIdentity turnIdentity lease observed
  | .completed identity c attemptId outputPointer evidence outputFingerprint lease observed =>
    Answer.attempt <$> recordCompletedOutput host identity c attemptId outputPointer evidence outputFingerprint lease observed
  | .invalid identity c attemptId outputPointer outputFingerprint reasonFingerprint lease observed =>
    Answer.attempt <$> recordInvalidOutput host identity c attemptId outputPointer outputFingerprint reasonFingerprint lease observed
  | .accept identity c attemptId reviewIdentity lease observed =>
    Answer.attempt <$> acceptSupervisorReview host identity c attemptId reviewIdentity lease observed
  | .invalidate identity c attemptId lease observed =>
    Answer.attempt <$> invalidateSupervisorAttempt host identity c attemptId lease observed
  | .terminate identity c f lease observed => Answer.attempt <$> recordSupervisorTerminalFailure host identity c f lease observed
  | .denyScope identity c attemptId sessionIdentity lease observed =>
    Answer.attempt <$> recordSupervisorScopeDenial host identity c attemptId sessionIdentity lease observed
  | .blockAccounting identity c attemptId lease observed =>
    Answer.recovery <$> recordSupervisorAccountingBlocker host identity c attemptId lease observed
  | .blockSession identity c attemptId lease observed =>
    Answer.recovery <$> blockSessionWithoutTurn host identity c attemptId lease observed
  | .recover identity c request lease observed => Answer.recovery <$> recoverAttempt host identity c request lease observed

/-! ## Attempts by their identity -/

variable {host : Host} {s s' : Store}

theorem AttemptRow.attemptId_key : Table.IsKey AttemptRow.clash (·.attemptId) := by
  intro a b h
  simp [AttemptRow.clash, show a.attemptId = b.attemptId from h]

variable {attemptId : String}

variable {row : AttemptRow}

theorem providerAttempt?_eq_some :
    s.providerAttempt? attemptId = some row ↔ row ∈ s.providerAttempts.rows ∧ row.attemptId = attemptId :=
  Table.find?_key AttemptRow.attemptId_key

variable {taskId attemptId : String}

/-- A row found in the task is found by its identity alone. -/
theorem taskAttempt?_eq_some :
    (s.providerAttempts.rows.find? fun r => r.taskId = taskId ∧ r.attemptId = attemptId) = some row ↔
      s.providerAttempt? attemptId = some row ∧ row.taskId = taskId := by
  rw [providerAttempt?_eq_some]
  constructor
  · intro h
    have hsel := List.find?_some h
    simp only [decide_eq_true_eq] at hsel
    exact ⟨⟨List.mem_of_find?_eq_some h, hsel.2⟩, hsel.1⟩
  · rintro ⟨⟨hmem, hid⟩, htask⟩
    have hkey : Table.IsKey AttemptRow.clash fun r : AttemptRow => (r.taskId, r.attemptId) := by
      intro a b h
      exact AttemptRow.attemptId_key a b (Prod.mk.inj h).2
    have hfound := (Table.find?_key (t := s.providerAttempts) hkey (k := (taskId, attemptId))).2 ⟨hmem, by rw [hid, htask]⟩
    simpa only [Prod.mk.injEq] using hfound

theorem attemptRow_ok :
    attemptRow s taskId attemptId = .ok row ↔ s.providerAttempt? attemptId = some row ∧ row.taskId = taskId := by
  rw [attemptRow, demand_eq_ok, taskAttempt?_eq_some]

/-- One attempt has another row, and nothing else has changed in the table. -/
structure Moved (s s' : Store) (row row' : AttemptRow) : Prop where
  found : s.providerAttempt? row.attemptId = some row
  attemptId : row'.attemptId = row.attemptId
  rows : s'.providerAttempts.rows = s.providerAttempts.rows.map fun r => if r.attemptId = row.attemptId then row' else r
  wellFormed : row.wellFormed = true → row'.wellFormed = true

namespace Moved

variable {row row' : AttemptRow}

theorem attempt? (h : Moved s s' row row') : s'.providerAttempt? row.attemptId = some row' := by
  obtain ⟨hmem, -⟩ := providerAttempt?_eq_some.1 h.found
  refine providerAttempt?_eq_some.2 ⟨?_, h.attemptId⟩
  rw [h.rows]
  exact List.mem_map.2 ⟨row, hmem, if_pos rfl⟩

theorem attempt?_other (h : Moved s s' row row') {attemptId : String} (hne : attemptId ≠ row.attemptId) :
    s'.providerAttempt? attemptId = s.providerAttempt? attemptId := by
  unfold Store.providerAttempt?
  rw [h.rows, find?_map_key (g := fun r : AttemptRow => r.attemptId) fun a => by split <;> simp_all [h.attemptId]]
  cases hfind : s.providerAttempts.rows.find? fun r => r.attemptId = attemptId with
  | none => rfl
  | some other =>
    have hid : other.attemptId = attemptId := by simpa using List.find?_some hfind
    rw [Option.map_some, if_neg (by rw [hid]; exact hne)]

/-- Nothing has changed. -/
theorem same (found : s.providerAttempt? row.attemptId = some row) (h : s'.providerAttempts = s.providerAttempts) :
    Moved s s' row row := by
  refine ⟨found, rfl, ?_, id⟩
  rw [h]
  refine ((List.map_congr_left fun r hr => ?_).trans (List.map_id' _)).symm
  obtain ⟨hmem, -⟩ := providerAttempt?_eq_some.1 found
  by_cases heq : r.attemptId = row.attemptId
  · rw [if_pos heq, Table.eq_of_key AttemptRow.attemptId_key hr hmem heq]
  · rw [if_neg heq]

theorem congr {s₁ s₂ : Store} (h : Moved s₁ s₂ row row') (hs : s.providerAttempts = s₁.providerAttempts)
    (hs' : s'.providerAttempts = s₂.providerAttempts) : Moved s s' row row' := by
  obtain ⟨hfound, hid, hrows, hwellFormed⟩ := h
  refine ⟨?_, hid, by rw [hs', hs, hrows], hwellFormed⟩
  unfold Store.providerAttempt? at hfound ⊢
  rw [hs]
  exact hfound

theorem trans {s₁ : Store} {row₁ : AttemptRow} (h : Moved s s₁ row row₁) (h' : Moved s₁ s' row₁ row') : Moved s s' row row' := by
  refine ⟨h.found, h'.attemptId.trans h.attemptId, ?_, fun hrow => h'.wellFormed (h.wellFormed hrow)⟩
  rw [h'.rows, h.rows, List.map_map]
  refine List.map_congr_left fun r _ => ?_
  rw [Function.comp_apply, h.attemptId]
  by_cases heq : r.attemptId = row.attemptId
  · rw [if_pos heq, if_pos h.attemptId, if_pos heq]
  · rw [if_neg heq, if_neg heq]

end Moved

/-- An UPDATE of the row that was read. -/
theorem updateAttempt_ok {f : AttemptRow → AttemptRow} (h : updateAttempt attemptId f s = .ok s')
    (found : s.providerAttempt? attemptId = some row) (hid : ∀ r, (f r).attemptId = r.attemptId) :
    Moved s s' row (f row) ∧ s' = { s with providerAttempts := s'.providerAttempts } := by
  simp only [updateAttempt, bind_eq_ok, exists_unit, refuse_eq_ok, demand_eq_ok, pure_eq_ok] at h
  obtain ⟨hcheck, attempts, hupdate, rfl⟩ := h
  obtain ⟨hmem, hrow⟩ := providerAttempt?_eq_some.1 found
  subst hrow
  refine ⟨⟨found, hid row, ?_, fun _ => ?_⟩, rfl⟩
  · show attempts.rows = _
    rw [Table.update?_rows hupdate]
    refine List.map_congr_left fun r hr => ?_
    by_cases heq : r.attemptId = row.attemptId
    · rw [if_pos heq, if_pos heq, Table.eq_of_key AttemptRow.attemptId_key hr hmem heq]
    · rw [if_neg heq, if_neg heq]
  · by_contra hbad
    refine hcheck (List.any_eq_true.2 ⟨row, hmem, ?_⟩)
    simpa using hbad

/-! ## What a committed call has done -/

/-- The tables of the machine. -/
structure Tables where
  attempts : Table AttemptRow.clash
  sessions : Table SessionCheckpointRow.clash
  claims : Table ClaimRow.clash
  outcomes : Table OutcomeRow.clash
  objectives : Table ObjectiveRow.clash

def tables (s : Store) : Tables :=
  ⟨s.providerAttempts, s.sessionCheckpoints, s.dispatchClaims, s.recoveryOutcomes, s.objectives⟩

/-- The outcome of an attempt is written, or is the one that is there. -/
def Persisted (s s' : Store) (attemptId : String) (outcome : Outcome) : Prop :=
  (s.recoveryOutcome? attemptId = none ∧ s'.recoveryOutcomes.rows = s.recoveryOutcomes.rows ++ [⟨attemptId, outcome⟩]) ∨
    (s.recoveryOutcome? attemptId = some outcome ∧ s'.recoveryOutcomes = s.recoveryOutcomes)

/-- The objectives are those before, or the active one of the attempt is cancelled. -/
def Ended (s s' : Store) (taskId attemptId reasonDigest : String) : Prop :=
  s'.objectives = s.objectives ∨ ∃ o, s.objectiveOf? taskId attemptId = some o ∧ o.state = .active ∧
    s'.objectives = (setObjective o.objectiveId (.cancelled reasonDigest) s).objectives

inductive Effect (host : Host) (s s' : Store) : Call → Prop where
  | quiet {call : Call} (same : tables s' = tables s) : Effect host s s' call
  | prepared {identity c request lease observed} (number : Nat) (p : Preparation)
    (absent : s.providerAttempt? request.attemptId = none)
    (wellFormed : (preparedRow identity.taskId number request p).wellFormed = true)
    (rows : s'.providerAttempts.rows = s.providerAttempts.rows ++ [preparedRow identity.taskId number request p])
    (frame : tables s' = { tables s with attempts := s'.providerAttempts }) :
    Effect host s s' (.prepare identity c request lease observed)
  | claimed {role identity c attemptId lease observed} (row : AttemptRow)
    (found : s.providerAttempt? attemptId = some row) (untouched : row.untouched = true)
    (rows : s'.dispatchClaims.rows = s.dispatchClaims.rows ++ [⟨attemptId, identity.taskId, row.inputFingerprint⟩])
    (frame : tables s' = { tables s with claims := s'.dispatchClaims }) :
    Effect host s s' (.claim role identity c attemptId lease observed)
  | opened {identity c attemptId session lease observed} (row : AttemptRow) (state : row.state = .prepared)
    (was : row.sessionIdentity = none ∨ row.sessionIdentity = some session)
    (moved : Moved s s' row { row with sessionIdentity := some session })
    (rows : ∃ new, s'.sessionCheckpoints.rows = s.sessionCheckpoints.rows ++ new)
    (frame : tables s' = { tables s with attempts := s'.providerAttempts, sessions := s'.sessionCheckpoints }) :
    Effect host s s' (.session identity c attemptId session lease observed)
  | dispatched {identity c attemptId session turn lease observed} (row : AttemptRow) (state : row.state = .prepared)
    (opened : row.sessionIdentity = some session)
    (checkpointed : ∃ r ∈ s.sessionCheckpoints.rows, r.attemptId = row.attemptId ∧ r.sessionIdentity = session)
    (moved : Moved s s' row { row with externalTurnIdentity := some turn, state := .dispatched })
    (frame : tables s' = { tables s with attempts := s'.providerAttempts }) :
    Effect host s s' (.turn identity c attemptId session turn lease observed)
  | completed {identity c attemptId pointer evidence output lease observed} (row : AttemptRow)
    (state : row.state = .dispatched)
      (moved : Moved s s' row { row with outputPointer := some pointer, completionEvidenceFingerprint := some evidence, state := .completed })
    (frame : tables s' = { tables s with attempts := s'.providerAttempts }) :
    Effect host s s' (.completed identity c attemptId pointer evidence output lease observed)
  | rejected {identity c attemptId pointer output reason lease observed} (row : AttemptRow)
    (state : row.state = .dispatched) (moved : Moved s s' row { row with outputPointer := some pointer, state := .ambiguous })
    (frame : tables s' = { tables s with attempts := s'.providerAttempts }) :
    Effect host s s' (.invalid identity c attemptId pointer output reason lease observed)
  | accepted {identity c attemptId review lease observed} (row : AttemptRow) (role : row.role = .supervisor)
    (state : row.state = .completed)
    (moved : Moved s s' row { row with acceptedReviewIdentity := some review, state := .accepted })
    (frame : tables s' = { tables s with attempts := s'.providerAttempts }) :
    Effect host s s' (.accept identity c attemptId review lease observed)
  | settled {call : Call} (row : AttemptRow) (state : AttemptState) (outcome : Outcome) (role : row.role = .supervisor)
    (unaccepted : row.state ≠ .accepted)
    (settles : state = .invalidated ∨ (state = .blocked ∧ (row.state = .prepared ∨ row.state = .dispatched)))
    (moved : Moved s s' row { row with state }) (persisted : Persisted s s' row.attemptId outcome)
    (frame : tables s' = { tables s with attempts := s'.providerAttempts, outcomes := s'.recoveryOutcomes }) :
    Effect host s s' call
  | recovered {identity c request lease observed} (row : AttemptRow) (d : RecoveryDecision)
    (task : row.taskId = identity.taskId) (attempt : row.attemptId = request.attemptId)
    (decision : recoveryDecision host s identity c row request.verifiedEvidence request.maxAttempts observed = .ok d)
    (moved : Moved s s' row { row.revalidated with state := d.next.getD row.revalidated.state })
    (persisted : (d.blocker = none ∧ s'.recoveryOutcomes = s.recoveryOutcomes) ∨
      (d.blocker ≠ none ∧ Persisted s s' row.attemptId ⟨d.action, d.blocker⟩))
    (ended : s'.objectives = s.objectives ∨ (row.role = .worker ∧ terminalWorkerAbandonment d.action d.blocker = true ∧
      Ended s s' identity.taskId row.attemptId (recoveryReason host row.attemptId d.action d.blocker)))
    (frame : tables s' = { tables s with
      attempts := s'.providerAttempts, outcomes := s'.recoveryOutcomes, objectives := s'.objectives }) :
    Effect host s s' (.recover identity c request lease observed)

/-! ### The statements -/

variable {c : RecoveryContext}

theorem persistContext_frame (h : persistContext attemptId c s = .ok s') : s' = { s with contexts := s'.contexts } := by
  unfold persistContext at h
  split at h
  · simp only [bind_eq_ok, demand_eq_ok, pure_eq_ok] at h
    obtain ⟨-, -, contexts, -, rfl⟩ := h
    rfl
  · simp only [bind_eq_ok, pure_eq_ok] at h
    obtain ⟨-, -, rfl⟩ := h
    rfl

variable {observed : Int}

/-- The attempt was read from the store as it was before, and only its context may be new. -/
theorem authorizeAttempt_ok {identity : TaskIdentity} {scope : Option String} {lease : Option TransitionLease}
    {sealed : String} {s₁ : Store}
    (h : authorizeAttempt host identity c attemptId scope lease observed s = (.ok (row, sealed), s₁)) :
    s₁ = { s with contexts := s₁.contexts } ∧ s.providerAttempt? attemptId = some row ∧ row.taskId = identity.taskId := by
  simp only [authorizeAttempt, Tx.query_bind, Tx.write_bind, Tx.pure_ok, exists_unit, Prod.mk.injEq] at h
  obtain ⟨-, _, -, -, s₂, hcontext, row', hrow, _, -, ⟨rfl, rfl⟩, rfl⟩ := h
  have hframe := persistContext_frame hcontext
  obtain ⟨hfound, htask⟩ := attemptRow_ok.1 hrow
  refine ⟨hframe, ?_, htask⟩
  rw [hframe] at hfound
  exact hfound

/-- What follows the authorization runs on a store that differs in its contexts alone. -/
theorem authorized_bind {α : Type} {identity : TaskIdentity} {scope : Option String} {lease : Option TransitionLease}
    {a : α} {f : AttemptRow × String → Tx Error Store α}
    (h : (authorizeAttempt host identity c attemptId scope lease observed >>= f) s = (.ok a, s')) :
    ∃ row sealed s₁, s₁ = { s with contexts := s₁.contexts } ∧ s.providerAttempt? attemptId = some row ∧
      s₁.providerAttempt? attemptId = some row ∧ f (row, sealed) s₁ = (.ok a, s') := by
  obtain ⟨⟨row, sealed⟩, s₁, hauthorized, h⟩ := Tx.bind_ok.1 h
  obtain ⟨hframe, hfound, -⟩ := authorizeAttempt_ok hauthorized
  exact ⟨row, sealed, s₁, hframe, hfound, by rw [hframe]; exact hfound, h⟩

theorem insertEvent_frame {action : RecoveryAction}
    (h : insertEvent taskId attemptId action observed s = .ok s') : s' = { s with recoveryEvents := s'.recoveryEvents } := by
  simp only [insertEvent, bind_eq_ok, pure_eq_ok] at h
  obtain ⟨-, -, rfl⟩ := h
  rfl

variable {outcome : Outcome}

theorem persistRecoveryOutcome_ok (h : persistRecoveryOutcome attemptId outcome observed s = .ok s') :
    s' = { s with recoveryOutcomes := s'.recoveryOutcomes } ∧ Persisted s s' attemptId outcome := by
  unfold persistRecoveryOutcome at h
  split at h
  · rename_i hnone
    simp only [bind_eq_ok, demand_eq_ok, pure_eq_ok] at h
    obtain ⟨-, -, outcomes, hinsert, rfl⟩ := h
    exact ⟨rfl, .inl ⟨hnone, (Table.insert?_eq_some.1 hinsert).2⟩⟩
  · rename_i existing hsome
    simp only [bind_eq_ok, exists_unit, refuse_eq_ok, not_not, pure_eq_ok] at h
    obtain ⟨rfl, rfl⟩ := h
    exact ⟨rfl, .inr ⟨hsome, rfl⟩⟩

theorem checkpoint_frame {taskId attemptId authorization : String} {role : ProviderRole} {phase : CheckpointPhase}
    (h : checkpoint host taskId role phase attemptId c authorization observed s = .ok s') :
    s' = { s with checkpoints := s'.checkpoints } := by
  simp only [checkpoint, bind_eq_ok, demand_eq_ok, pure_eq_ok] at h
  obtain ⟨-, -, checkpoints, -, rfl⟩ := h
  rfl

theorem persistFailureAdmission_frame {identity : TaskIdentity} {session : String} {create : Bool}
    (h : persistFailureAdmission host identity row c session create s = .ok s') :
    s' = { s with failureAdmissions := s'.failureAdmissions } := by
  unfold persistFailureAdmission at h
  split at h
  · cases h
    rfl
  · simp only [bind_eq_ok, demand_eq_ok] at h
    obtain ⟨_, -, _, -, h⟩ := h
    split at h
    · simp only [bind_eq_ok, demand_eq_ok, pure_eq_ok] at h
      obtain ⟨_, -, rfl⟩ := h
      rfl
    · split at h
      · simp only [bind_eq_ok, demand_eq_ok, pure_eq_ok] at h
        obtain ⟨_, -, rfl⟩ := h
        rfl
      · simp only [bind_eq_ok, pure_eq_ok] at h
        obtain ⟨-, -, rfl⟩ := h
        rfl

theorem reserveSupervisorCoordinate_frame {taskId attemptId profile : String} {position : AccountingPosition}
    {coordinate : Option (Int × Int)} (h : reserveSupervisorCoordinate taskId attemptId profile position s coordinate = .ok s') :
    s' = { s with coordinates := s'.coordinates } := by
  unfold reserveSupervisorCoordinate at h
  split at h
  · cases h
    rfl
  · unfold reserveCoordinate at h
    split at h
    · simp only [bind_eq_ok, pure_eq_ok] at h
      obtain ⟨-, -, -, -, rfl⟩ := h
      rfl
    · simp only [bind_eq_ok, demand_eq_ok, pure_eq_ok] at h
      obtain ⟨-, -, -, -, -, -, -, -, _, -, rfl⟩ := h
      rfl

theorem recordRuntimeBinding_frame {taskId : String} {binding : RuntimeBinding}
    (h : recordRuntimeBinding taskId binding s = .ok s') :
    s' = { s with ledger := s'.ledger, reviewPolicies := s'.reviewPolicies } := by
  simp only [recordRuntimeBinding, bind_eq_ok] at h
  obtain ⟨s₁, hcolumns, h⟩ := h
  have hframe : s₁ = { s with ledger := s₁.ledger } := by
    unfold recordBindingColumns at hcolumns
    split at hcolumns
    · simp only [bind_eq_ok, demand_eq_ok, pure_eq_ok] at hcolumns
      obtain ⟨_, -, rfl⟩ := hcolumns
      rfl
    · simp only [bind_eq_ok, pure_eq_ok] at hcolumns
      obtain ⟨-, -, rfl⟩ := hcolumns
      rfl
  split at h
  · split at h
    · simp only [bind_eq_ok, demand_eq_ok, pure_eq_ok] at h
      obtain ⟨_, -, rfl⟩ := h
      rw [hframe]
    · simp only [bind_eq_ok, pure_eq_ok] at h
      obtain ⟨-, -, rfl⟩ := h
      rw [hframe]
  · cases h
    rw [hframe]

theorem recordFailure_frame {identity : TaskIdentity} {record : FailureRecord} {digest : Digest}
    (h : recordFailure host identity record s = (.ok digest, s')) : s' = { s with failureRecords := s'.failureRecords } := by
  simp only [recordFailure, Tx.query_bind, Tx.check_bind, Tx.write_bind, Tx.pure_ok, exists_unit] at h
  obtain ⟨_, -, -, -, -, s₁, hwrite, -, rfl⟩ := h
  split at hwrite
  · simp only [bind_eq_ok, demand_eq_ok, pure_eq_ok] at hwrite
    obtain ⟨_, -, rfl⟩ := hwrite
    rfl
  · simp only [bind_eq_ok, pure_eq_ok] at hwrite
    obtain ⟨-, -, rfl⟩ := hwrite
    rfl

theorem recordSupervisorFailure_frame {identity : TaskIdentity} {session : String} {failure : CodexFailure} {u : Unit}
    (h : recordSupervisorFailure host identity c row session failure observed s = (.ok u, s')) :
    s' = { s with failureRecords := s'.failureRecords } := by
  simp only [recordSupervisorFailure, Tx.check_bind, exists_unit] at h
  obtain ⟨binding, -, record, -, -, h⟩ := h
  obtain ⟨digest, s₁, hrecord, hpure⟩ := Tx.bind_ok.1 h
  obtain ⟨-, rfl⟩ := Tx.pure_ok.1 hpure
  exact recordFailure_frame hrecord

theorem persistCompletionOutput_frame {attemptId output message : String}
    (h : persistCompletionOutput attemptId output message s = .ok s') :
    s' = { s with completionOutputs := s'.completionOutputs } := by
  unfold persistCompletionOutput at h
  split at h
  · simp only [bind_eq_ok, demand_eq_ok, pure_eq_ok] at h
    obtain ⟨_, -, rfl⟩ := h
    rfl
  · simp only [bind_eq_ok, pure_eq_ok] at h
    obtain ⟨-, -, rfl⟩ := h
    rfl

variable {returned : AttemptRow}

/-! ### The transactions -/

section Transactions

variable {identity : TaskIdentity} {c : RecoveryContext} {lease : Option TransitionLease} {observed : Int}

variable {replayed : Option AttemptRow}

theorem prepare_effect {request : PrepareRequest} {p : Preparation}
    (h : prepare host identity c request p lease observed s = (.ok replayed, s')) :
    Effect host s s' (.prepare identity c request lease observed) := by
  simp only [prepare, Tx.query_bind, Tx.write_bind, exists_unit] at h
  obtain ⟨-, _, -, -, -, s₁, hbinding, -, existing, hexisting, h⟩ := h
  have hframe₁ := recordRuntimeBinding_frame hbinding
  have htables₁ : tables s₁ = tables s := by
    rw [hframe₁]
    rfl
  cases existing with
  | some row =>
    -- a replay writes the context and the coordinate at most
    simp only [replayPreparation, Tx.query_bind, Tx.check_bind, Tx.write_bind, Tx.pure_ok, exists_unit] at h
    obtain ⟨s₂, hcontext, _, -, -, s₃, hreserve, -, rfl⟩ := h
    have hframe₂ := persistContext_frame hcontext
    have hframe₃ := reserveSupervisorCoordinate_frame hreserve
    refine .quiet ?_
    rw [← htables₁, hframe₃, hframe₂]
    rfl
  | none =>
    simp only [freshPreparation, Tx.write_bind, Tx.pure_ok] at h
    obtain ⟨s₂, hinsert, s₃, hreserve, s₄, hcontext, s₅, hhealth, s₆, hcheckpoint, -, rfl⟩ := h
    simp only [insertAttempt, bind_eq_ok, exists_unit, refuse_eq_ok, Bool.not_eq_false, demand_eq_ok, pure_eq_ok] at hinsert
    obtain ⟨-, hwellFormed, attempts, hinsert, rfl⟩ := hinsert
    obtain ⟨hclash, hrows⟩ := Table.insert?_eq_some.1 hinsert
    have hframe₃ := reserveSupervisorCoordinate_frame hreserve
    have hframe₄ := persistContext_frame hcontext
    have hframe₅ : s₅ = { s₄ with healthAuthorizations := s₅.healthAuthorizations, healthSeals := s₅.healthSeals } := by
      simp only [persistHealthAuthorization, bind_eq_ok, demand_eq_ok, pure_eq_ok] at hhealth
      obtain ⟨-, -, -, -, _, -, _, -, rfl⟩ := hhealth
      rfl
    have hframe₆ := checkpoint_frame hcheckpoint
    have hattempts : s₆.providerAttempts = attempts := by rw [hframe₆, hframe₅, hframe₄, hframe₃]
    have hbefore : s₁.providerAttempts = s.providerAttempts := congrArg Tables.attempts htables₁
    refine .prepared (nextAttemptNumber s₁ identity.taskId request.role) p ?_ hwellFormed ?_ ?_
    · refine Option.eq_none_iff_forall_not_mem.2 fun row hrow => ?_
      obtain ⟨hmem, hid⟩ := providerAttempt?_eq_some.1 hrow
      have := hclash row (by rw [hbefore]; exact hmem)
      rw [AttemptRow.attemptId_key row _ hid] at this
      cases this
    · rw [hattempts, hrows, hbefore]
    · rw [hattempts, ← htables₁, hframe₆, hframe₅, hframe₄, hframe₃]
      rfl

variable {u : Unit} {attemptId : String}

theorem claim_effect {role : FailureRole} (h : claim host role identity c attemptId lease observed s = (.ok u, s')) :
    Effect host s s' (.claim role identity c attemptId lease observed) := by
  obtain ⟨row, sealed, s₁, hframe₁, hfound, -, h⟩ := authorized_bind h
  simp only [Tx.query_bind, Tx.check_bind, Tx.write_bind, Tx.write_ok, exists_unit, refuse_eq_ok, bind_eq_ok,
    demand_eq_ok, pure_eq_ok, not_or, not_not, Bool.not_eq_false] at h
  obtain ⟨⟨-, huntouched⟩, -, -, s₂, ⟨claims, hinsert, rfl⟩, _, -, hadmission⟩ := h
  have hframe₃ := persistFailureAdmission_frame hadmission
  refine .claimed row hfound huntouched ?_ ?_
  · rw [hframe₃]
    refine (Table.insert?_eq_some.1 hinsert).2.trans ?_
    rw [hframe₁]
  · rw [hframe₃, hframe₁]
    rfl

theorem recordSession_effect {attemptId session : String}
    (h : recordSession host identity c attemptId session lease observed s = (.ok u, s')) :
    Effect host s s' (.session identity c attemptId session lease observed) := by
  obtain ⟨row, sealed, s₁, hframe₁, hfound, hfound₁, h⟩ := authorized_bind h
  obtain ⟨-, hid⟩ := providerAttempt?_eq_some.1 hfound
  simp only [Tx.query_bind, Tx.check_bind, Tx.write_bind, Tx.write_ok, exists_unit, refuse_eq_ok, not_not] at h
  obtain ⟨hstate, hwas, -, s₂, hupdate, s₃, hadmission, hcheckpoint⟩ := h
  have hmoved : Moved s₁ s₂ row { row with sessionIdentity := some session } ∧
      s₂ = { s₁ with providerAttempts := s₂.providerAttempts } ∧
        (row.sessionIdentity = none ∨ row.sessionIdentity = some session) := by
    cases hsession : row.sessionIdentity with
    | none =>
      rw [if_pos hsession] at hupdate
      obtain ⟨hmoved, hframe⟩ := updateAttempt_ok hupdate hfound₁ fun _ => rfl
      exact ⟨hmoved, hframe, .inl rfl⟩
    | some old =>
      rw [if_neg (by rw [hsession]; simp)] at hupdate
      cases hupdate
      have hold : old = session := by simpa [hsession] using hwas
      have hsame : { row with sessionIdentity := some session } = row := by rw [← hold, ← hsession]
      refine ⟨?_, rfl, .inr (by rw [hold])⟩
      rw [hsame]
      exact .same (by rw [hid]; exact hfound₁) rfl
  obtain ⟨hmoved, hframe₂, hwas⟩ := hmoved
  have hframe₃ := persistFailureAdmission_frame hadmission
  have hcheckpointed : s' = { s₃ with sessionCheckpoints := s'.sessionCheckpoints } ∧
      ∃ new, s'.sessionCheckpoints.rows = s₃.sessionCheckpoints.rows ++ new := by
    unfold persistSessionCheckpoint at hcheckpoint
    split at hcheckpoint
    · simp only [bind_eq_ok, demand_eq_ok, pure_eq_ok] at hcheckpoint
      obtain ⟨-, -, _, hinsert, rfl⟩ := hcheckpoint
      exact ⟨rfl, _, (Table.insert?_eq_some.1 hinsert).2⟩
    · simp only [bind_eq_ok, pure_eq_ok] at hcheckpoint
      obtain ⟨-, -, rfl⟩ := hcheckpoint
      exact ⟨rfl, [], (List.append_nil _).symm⟩
  obtain ⟨hframe₄, new, hnew⟩ := hcheckpointed
  refine .opened row hstate hwas ?_ ⟨new, ?_⟩ ?_
  · refine hmoved.congr (by rw [hframe₁]) ?_
    rw [hframe₄, hframe₃]
  · rw [hnew, hframe₃, hframe₂, hframe₁]
  · rw [hframe₄, hframe₃, hframe₂, hframe₁]
    rfl

theorem recordTurn_effect {attemptId session turn : String}
    (h : recordTurn host identity c attemptId session turn lease observed s = (.ok replayed, s')) :
    Effect host s s' (.turn identity c attemptId session turn lease observed) := by
  obtain ⟨row, sealed, s₁, hframe₁, hfound, hfound₁, h⟩ := authorized_bind h
  obtain ⟨-, hid⟩ := providerAttempt?_eq_some.1 hfound
  have htables₁ : tables s₁ = tables s := by rw [hframe₁]; rfl
  dsimp only at h
  split at h
  · simp only [Tx.query_bind, Tx.pure_ok, exists_unit] at h
    obtain ⟨-, -, rfl⟩ := h
    exact .quiet htables₁
  · simp only [Tx.query_bind, Tx.check_bind, Tx.write_bind, Tx.pure_ok, exists_unit, refuse_eq_ok, not_or, not_not] at h
    obtain ⟨⟨hstate, hsession⟩, hcheckpoint, s₂, hupdate, s₃, hafter, -, rfl⟩ := h
    obtain ⟨hmoved, hframe₂⟩ := updateAttempt_ok hupdate hfound₁ fun _ => rfl
    have hframe₃ := checkpoint_frame hafter
    refine .dispatched row hstate hsession ?_ (hmoved.congr (by rw [hframe₁]) (by rw [hframe₃])) ?_
    · simp only [requireSessionCheckpoint, refuse_eq_ok, not_not] at hcheckpoint
      have hsessions : s₁.sessionCheckpoints = s.sessionCheckpoints := congrArg Tables.sessions htables₁
      have hmem := List.mem_of_find?_eq_some hcheckpoint
      rw [hsessions] at hmem
      exact ⟨_, hmem, hid.symm, rfl⟩
    · rw [hframe₃, hframe₂, hframe₁]
      rfl

theorem completeOutput_effect {attemptId pointer evidence output : String}
    (h : completeOutput host identity c attemptId pointer evidence output lease observed s = (.ok u, s')) :
    Effect host s s' (.completed identity c attemptId pointer evidence output lease observed) := by
  obtain ⟨row, sealed, s₁, hframe₁, hfound, hfound₁, h⟩ := authorized_bind h
  dsimp only at h
  split at h
  · simp only [Tx.check_bind, Tx.write_ok, exists_unit] at h
    obtain ⟨-, hpersist⟩ := h
    have hframe₂ := persistCompletionOutput_frame hpersist
    refine .quiet ?_
    rw [hframe₂, hframe₁]
    rfl
  · simp only [Tx.query_bind, Tx.check_bind, Tx.write_bind, Tx.write_ok, exists_unit, refuse_eq_ok, not_not] at h
    obtain ⟨hstate, -, s₂, hupdate, hpersist⟩ := h
    obtain ⟨hmoved, hframe₂⟩ := updateAttempt_ok hupdate hfound₁ fun _ => rfl
    have hframe₃ := persistCompletionOutput_frame hpersist
    refine .completed row hstate (hmoved.congr (by rw [hframe₁]) (by rw [hframe₃])) ?_
    rw [hframe₃, hframe₂, hframe₁]
    rfl

theorem invalidOutput_effect {attemptId pointer output reason : String}
    (h : invalidOutput host identity c attemptId pointer output reason lease observed s = (.ok replayed, s')) :
    Effect host s s' (.invalid identity c attemptId pointer output reason lease observed) := by
  obtain ⟨row, sealed, s₁, hframe₁, hfound, hfound₁, h⟩ := authorized_bind h
  obtain ⟨existing, hexisting, h⟩ := Tx.query_bind.1 h
  split at h
  · obtain ⟨-, rfl⟩ := Tx.pure_ok.1 h
    exact .quiet (by rw [hframe₁]; rfl)
  · simp only [Tx.check_bind, Tx.write_bind, Tx.pure_ok, exists_unit, refuse_eq_ok, not_not, bind_eq_ok, demand_eq_ok,
      pure_eq_ok] at h
    obtain ⟨-, hstate, s₂, hupdate, -, s₃, ⟨outputs, -, rfl⟩, -, rfl⟩ := h
    obtain ⟨hmoved, hframe₂⟩ := updateAttempt_ok hupdate hfound₁ fun _ => rfl
    refine .rejected row hstate (hmoved.congr (by rw [hframe₁]) rfl) ?_
    rw [hframe₂, hframe₁]
    rfl

theorem accept_effect {attemptId review : String}
    (h : accept host identity c attemptId review lease observed s = (.ok replayed, s')) :
    Effect host s s' (.accept identity c attemptId review lease observed) := by
  obtain ⟨row, sealed, s₁, hframe₁, hfound, hfound₁, h⟩ := authorized_bind h
  obtain ⟨-, -, h⟩ := Tx.query_bind.1 h
  split at h
  · simp only [Tx.query_bind, Tx.pure_ok, exists_unit] at h
    obtain ⟨-, -, rfl⟩ := h
    exact .quiet (by rw [hframe₁]; rfl)
  · simp only [Tx.check_bind, Tx.write_bind, Tx.pure_ok, exists_unit, refuse_eq_ok, not_or, not_not, bind_eq_ok,
      demand_eq_ok, pure_eq_ok] at h
    obtain ⟨⟨hrole, hstate⟩, -, s₂, hupdate, s₃, ⟨reviews, -, rfl⟩, -, rfl⟩ := h
    obtain ⟨hmoved, hframe₂⟩ := updateAttempt_ok hupdate hfound₁ fun _ => rfl
    refine .accepted row hrole hstate (hmoved.congr (by rw [hframe₁]) rfl) ?_
    rw [hframe₂, hframe₁]
    rfl

theorem recordOutcome_ok
    (h : recordOutcome taskId attemptId outcome observed s = (.ok u, s')) :
    s' = { s with recoveryOutcomes := s'.recoveryOutcomes, recoveryEvents := s'.recoveryEvents } ∧
    Persisted s s' attemptId outcome := by
  simp only [recordOutcome, Tx.write_bind, Tx.write_ok] at h
  obtain ⟨s₁, houtcome, hevent⟩ := h
  obtain ⟨hframe₁, hpersisted⟩ := persistRecoveryOutcome_ok houtcome
  have hframe₂ := insertEvent_frame hevent
  refine ⟨by rw [hframe₂, hframe₁], ?_⟩
  rw [hframe₂]
  exact hpersisted

/-- A settlement moves the attempt and records its outcome. -/
theorem settle_ok {state : AttemptState} {row : AttemptRow}
    (h : settle taskId attemptId state outcome observed s = (.ok u, s')) (found : s.providerAttempt? attemptId = some row) :
    Moved s s' row { row with state } ∧ Persisted s s' row.attemptId outcome ∧
      tables s' = { tables s with attempts := s'.providerAttempts, outcomes := s'.recoveryOutcomes } := by
  simp only [settle, Tx.write_bind] at h
  obtain ⟨s₁, hupdate, h⟩ := h
  obtain ⟨hmoved, hframe₁⟩ := updateAttempt_ok hupdate found fun _ => rfl
  obtain ⟨hframe₂, hpersisted⟩ := recordOutcome_ok h
  obtain ⟨-, hid⟩ := providerAttempt?_eq_some.1 found
  refine ⟨hmoved.congr rfl (by rw [hframe₂]), ?_, ?_⟩
  · rw [hframe₁, ← hid] at hpersisted
    exact hpersisted
  · rw [hframe₂, hframe₁]
    rfl

/-- The settlement of an attempt that was authorized in the same transaction. -/
theorem settled_effect {call : Call} {s₁ : Store} {state : AttemptState}
    {row : AttemptRow} (h : settle taskId attemptId state outcome observed s₁ = (.ok u, s'))
    (found : s.providerAttempt? attemptId = some row) (role : row.role = .supervisor)
    (unaccepted : row.state ≠ .accepted)
    (settles : state = .invalidated ∨ (state = .blocked ∧ (row.state = .prepared ∨ row.state = .dispatched)))
    (same : tables s₁ = tables s) : Effect host s s' call := by
  have hattempts : s₁.providerAttempts = s.providerAttempts := congrArg Tables.attempts same
  have houtcomes : s₁.recoveryOutcomes = s.recoveryOutcomes := congrArg Tables.outcomes same
  have hfound₁ : s₁.providerAttempt? attemptId = some row := by
    unfold Store.providerAttempt? at found ⊢
    rw [hattempts]
    exact found
  obtain ⟨hmoved, hpersisted, hframe⟩ := settle_ok h hfound₁
  refine .settled row state outcome role unaccepted settles (hmoved.congr hattempts.symm rfl) ?_ (by rw [hframe, same])
  unfold Persisted Store.recoveryOutcome? at hpersisted ⊢
  rw [houtcomes] at hpersisted
  exact hpersisted

theorem invalidate_effect (h : invalidate host identity c attemptId lease observed s = (.ok returned, s')) :
    Effect host s s' (.invalidate identity c attemptId lease observed) := by
  obtain ⟨row, sealed, s₁, hframe₁, hfound, -, h⟩ := authorized_bind h
  obtain ⟨-, hid⟩ := providerAttempt?_eq_some.1 hfound
  have htables₁ : tables s₁ = tables s := by rw [hframe₁]; rfl
  simp only [Tx.check_bind, exists_unit, refuse_eq_ok, not_not] at h
  obtain ⟨hrole, h⟩ := h
  split at h
  · obtain ⟨-, rfl⟩ := Tx.pure_ok.1 h
    exact .quiet htables₁
  · rename_i hunaccepted
    split at h
    · rename_i hinvalidated
      obtain ⟨_, s₂, hrecord, hpure⟩ := Tx.bind_ok.1 h
      obtain ⟨-, rfl⟩ := Tx.pure_ok.1 hpure
      obtain ⟨hframe₂, hpersisted⟩ := recordOutcome_ok hrecord
      have hsame : { row with state := AttemptState.invalidated } = row := by rw [← hinvalidated]
      refine .settled row .invalidated ⟨.freshSupervisorSession, some "partial-supervisor-review"⟩ hrole hunaccepted
        (.inl rfl) ?_ ?_ ?_
      · rw [hsame]
        exact .same (by rw [hid]; exact hfound) (by rw [hframe₂, hframe₁])
      · rw [hframe₁, ← hid] at hpersisted
        exact hpersisted
      · rw [hframe₂, hframe₁]
        rfl
    · obtain ⟨_, s₂, hsettle, hpure⟩ := Tx.bind_ok.1 h
      obtain ⟨-, rfl⟩ := Tx.pure_ok.1 hpure
      exact settled_effect hsettle hfound hrole hunaccepted (.inl rfl) htables₁

theorem terminate_effect {f : TerminalFailure}
    (h : terminate host identity c f lease observed s = (.ok returned, s')) :
    Effect host s s' (.terminate identity c f lease observed) := by
  obtain ⟨row, sealed, s₁, hframe₁, hfound, hfound₁, h⟩ := authorized_bind h
  obtain ⟨-, hid⟩ := providerAttempt?_eq_some.1 hfound
  simp only [Tx.query_bind, Tx.check_bind, exists_unit, refuse_eq_ok, not_not] at h
  obtain ⟨hrole, -, session, -, _, -, -, -, -, h⟩ := h
  split at h
  · simp only [Tx.query_bind, Tx.pure_ok, exists_unit] at h
    obtain ⟨-, -, rfl⟩ := h
    exact .quiet (by rw [hframe₁]; rfl)
  · simp only [Tx.query_bind, Tx.check_bind, Tx.write_bind, exists_unit, refuse_eq_ok, not_not] at h
    obtain ⟨hstate, -, s₂, hupdate, h⟩ := h
    obtain ⟨_, s₃, hfailure, h⟩ := Tx.bind_ok.1 h
    obtain ⟨_, s₄, hrecord, hpure⟩ := Tx.bind_ok.1 h
    obtain ⟨-, rfl⟩ := Tx.pure_ok.1 hpure
    obtain ⟨hmoved, hframe₂⟩ := updateAttempt_ok hupdate hfound₁ fun _ => rfl
    have hframe₃ := recordSupervisorFailure_frame hfailure
    obtain ⟨hframe₄, hpersisted⟩ := recordOutcome_ok hrecord
    have hunaccepted : row.state ≠ .accepted := by
      rw [hstate]
      split <;> decide
    refine .settled row .invalidated (terminalFailureOutcome f.failure f.category) hrole hunaccepted (.inl rfl)
      (hmoved.congr (by rw [hframe₁]) ?_) ?_ ?_
    · rw [hframe₄, hframe₃]
    · rw [hframe₃, hframe₂, hframe₁, ← hid] at hpersisted
      exact hpersisted
    · rw [hframe₄, hframe₃, hframe₂, hframe₁]
      rfl

theorem denyScope_effect {attemptId session : String}
    (h : denyScope host identity c attemptId session lease observed s = (.ok returned, s')) :
    Effect host s s' (.denyScope identity c attemptId session lease observed) := by
  obtain ⟨row, sealed, s₁, hframe₁, hfound, -, h⟩ := authorized_bind h
  simp only [Tx.query_bind, Tx.check_bind, exists_unit, refuse_eq_ok, not_not] at h
  obtain ⟨hrole, -, _, -, -, h⟩ := h
  split at h
  · simp only [Tx.query_bind, Tx.pure_ok, exists_unit] at h
    obtain ⟨-, -, rfl⟩ := h
    exact .quiet (by rw [hframe₁]; rfl)
  · simp only [Tx.check_bind, exists_unit, refuse_eq_ok, not_and_or, not_not] at h
    obtain ⟨hstate, h⟩ := h
    obtain ⟨_, s₂, hfailure, h⟩ := Tx.bind_ok.1 h
    obtain ⟨_, s₃, hsettle, hpure⟩ := Tx.bind_ok.1 h
    obtain ⟨-, rfl⟩ := Tx.pure_ok.1 hpure
    have hframe₂ := recordSupervisorFailure_frame hfailure
    refine settled_effect hsettle hfound hrole ?_ (.inr ⟨rfl, hstate⟩) (by rw [hframe₂, hframe₁]; rfl)
    rcases hstate with hstate | hstate <;> rw [hstate] <;> decide

variable {returned : RecoveryProjection}

theorem blockAccounting_effect (h : blockAccounting host identity c attemptId lease observed s = (.ok returned, s')) :
    Effect host s s' (.blockAccounting identity c attemptId lease observed) := by
  obtain ⟨row, sealed, s₁, hframe₁, hfound, -, h⟩ := authorized_bind h
  simp only [Tx.check_bind, exists_unit, refuse_eq_ok, not_or, not_not] at h
  obtain ⟨⟨hrole, -⟩, h⟩ := h
  split at h
  · simp only [Tx.query_bind, Tx.pure_ok, exists_unit] at h
    obtain ⟨-, -, rfl⟩ := h
    exact .quiet (by rw [hframe₁]; rfl)
  · simp only [Tx.query_bind, Tx.check_bind, exists_unit, refuse_eq_ok, not_not] at h
    obtain ⟨hstate, -, h⟩ := h
    obtain ⟨_, s₂, hsettle, hpure⟩ := Tx.bind_ok.1 h
    obtain ⟨-, rfl⟩ := Tx.pure_ok.1 hpure
    exact settled_effect hsettle hfound hrole (by rw [hstate]; decide) (.inr ⟨rfl, .inr hstate⟩) (by rw [hframe₁]; rfl)

theorem blockSession_effect (h : blockSession host identity c attemptId lease observed s = (.ok returned, s')) :
    Effect host s s' (.blockSession identity c attemptId lease observed) := by
  obtain ⟨row, sealed, s₁, hframe₁, hfound, -, h⟩ := authorized_bind h
  simp only [Tx.query_bind, Tx.check_bind, exists_unit, refuse_eq_ok, not_not] at h
  obtain ⟨hrole, session, -, -, -, h⟩ := h
  split at h
  · simp only [Tx.query_bind, Tx.pure_ok, exists_unit] at h
    obtain ⟨-, -, rfl⟩ := h
    exact .quiet (by rw [hframe₁]; rfl)
  · simp only [Tx.check_bind, exists_unit, refuse_eq_ok, not_not] at h
    obtain ⟨hstate, h⟩ := h
    obtain ⟨_, s₂, hsettle, hpure⟩ := Tx.bind_ok.1 h
    obtain ⟨-, rfl⟩ := Tx.pure_ok.1 hpure
    exact settled_effect hsettle hfound hrole (by rw [hstate]; decide) (.inr ⟨rfl, .inl hstate⟩) (by rw [hframe₁]; rfl)

theorem cancelObjectiveForRecovery_ok {taskId attemptId reason : String} {returned : Option ObjectiveRow}
    (h : cancelObjectiveForRecovery taskId attemptId reason s = (.ok returned, s')) :
    s' = { s with objectives := s'.objectives } ∧ Ended s s' taskId attemptId reason := by
  simp only [cancelObjectiveForRecovery, Tx.query_bind, exists_unit] at h
  obtain ⟨-, objective, hobjective, h⟩ := h
  cases objective with
  | none =>
    obtain ⟨-, rfl⟩ := Tx.pure_ok.1 h
    exact ⟨rfl, .inl rfl⟩
  | some row =>
    dsimp only at h
    cases hstate : row.state with
    | completed result =>
      simp only [hstate, Tx.pure_ok] at h
      obtain ⟨-, rfl⟩ := h
      exact ⟨rfl, .inl rfl⟩
    | cancelled old =>
      simp only [hstate, Tx.check_bind, Tx.pure_ok] at h
      obtain ⟨-, -, -, rfl⟩ := h
      exact ⟨rfl, .inl rfl⟩
    | active =>
      simp only [hstate, Tx.write_bind, Tx.pure_ok, Except.ok.injEq] at h
      obtain ⟨_, rfl, -, rfl⟩ := h
      exact ⟨rfl, .inr ⟨row, Except.ok.inj hobjective, hstate, rfl⟩⟩

theorem staleUnvalidatedDiffReview_ok {taskId : String} {row : AttemptRow}
    (h : staleUnvalidatedDiffReview taskId row.attemptId s = (.ok u, s'))
    (found : s.providerAttempt? row.attemptId = some row) (hstale : row.revalidates = true) :
    Moved s s' row row.revalidated ∧ s' = { s with providerAttempts := s'.providerAttempts, acceptedReviews := s'.acceptedReviews,
                                                    diffReviews := s'.diffReviews } := by
  simp only [staleUnvalidatedDiffReview, Tx.write_bind, Tx.write_ok, Except.ok.injEq] at h
  obtain ⟨s₁, rfl, s₂, hupdate, rfl⟩ := h
  have haccepted : row.state = .accepted := by
    simp only [AttemptRow.revalidates, decide_eq_true_eq] at hstale
    exact hstale.1
  obtain ⟨hmoved, hframe⟩ := updateAttempt_ok hupdate found fun r => by split <;> rfl
  have hrow : row.revalidated = { row with state := .invalidated, acceptedReviewIdentity := none } := by
    rw [AttemptRow.revalidated, if_pos hstale]
  rw [if_pos haccepted] at hmoved
  refine ⟨?_, ?_⟩
  · rw [hrow]
    exact hmoved.congr rfl rfl
  · rw [hframe]

/-- The statements of a recovery, one after the other. -/
theorem applyDecision_steps {row returned : AttemptRow} {d : RecoveryDecision}
    (h : applyDecision host identity row d observed s = (.ok returned, s')) :
    returned = { row.revalidated with state := d.next.getD row.revalidated.state } ∧ ∃ s₁ s₂ s₃ s₄,
      Tx.when (row.revalidates = true) (staleUnvalidatedDiffReview identity.taskId row.attemptId) s = (.ok (), s₁) ∧
      Tx.when (d.next.getD row.revalidated.state ≠ row.revalidated.state)
        (Tx.write (updateAttempt row.attemptId fun r => { r with state := d.next.getD row.revalidated.state })) s₁ = (.ok (), s₂) ∧
      Tx.when (d.blocker ≠ none) (Tx.write (persistRecoveryOutcome row.attemptId ⟨d.action, d.blocker⟩ observed)) s₂ = (.ok (), s₃) ∧
      Tx.when (row.role = .worker ∧ terminalWorkerAbandonment d.action d.blocker = true)
        ((fun _ => ()) <$> cancelObjectiveForRecovery identity.taskId row.attemptId
          (recoveryReason host row.attemptId d.action d.blocker)) s₃ = (.ok (), s₄) ∧
      insertEvent identity.taskId row.attemptId d.action observed s₄ = .ok s' := by
  obtain ⟨_, s₁, hstale, h⟩ := Tx.bind_ok.1 h
  obtain ⟨_, s₂, hupdate, h⟩ := Tx.bind_ok.1 h
  obtain ⟨_, s₃, houtcome, h⟩ := Tx.bind_ok.1 h
  obtain ⟨_, s₄, hcancel, h⟩ := Tx.bind_ok.1 h
  obtain ⟨s₅, hevent, hpure⟩ := Tx.write_bind.1 h
  obtain ⟨rfl, rfl⟩ := Tx.pure_ok.1 hpure
  exact ⟨rfl, s₁, s₂, s₃, s₄, hstale, hupdate, houtcome, hcancel, hevent⟩

/-- What a recovery writes for its decision. -/
theorem applyDecision_ok {row returned : AttemptRow} {d : RecoveryDecision}
    (h : applyDecision host identity row d observed s = (.ok returned, s')) (found : s.providerAttempt? row.attemptId = some row) :
    returned = { row.revalidated with state := d.next.getD row.revalidated.state } ∧ Moved s s' row returned ∧
      ((d.blocker = none ∧ s'.recoveryOutcomes = s.recoveryOutcomes) ∨
        (d.blocker ≠ none ∧ Persisted s s' row.attemptId ⟨d.action, d.blocker⟩)) ∧
      (s'.objectives = s.objectives ∨ (row.role = .worker ∧ terminalWorkerAbandonment d.action d.blocker = true ∧
        Ended s s' identity.taskId row.attemptId (recoveryReason host row.attemptId d.action d.blocker))) ∧
      tables s' = { tables s with attempts := s'.providerAttempts, outcomes := s'.recoveryOutcomes, objectives :=
        s'.objectives } := by
  obtain ⟨rfl, s₁, s₂, s₃, s₄, hstale, hupdate, houtcome, hcancel, hevent⟩ := applyDecision_steps h
  have hmoved₁ : Moved s s₁ row row.revalidated ∧
      s₁ = { s with providerAttempts := s₁.providerAttempts, acceptedReviews := s₁.acceptedReviews,
                    diffReviews := s₁.diffReviews } := by
    rcases Tx.when_ok.1 hstale with ⟨hstale, h⟩ | ⟨hfresh, rfl⟩
    · exact staleUnvalidatedDiffReview_ok h found hstale
    · rw [AttemptRow.revalidated, if_neg hfresh]
      exact ⟨.same found rfl, rfl⟩
  obtain ⟨hmoved₁, hframe₁⟩ := hmoved₁
  have hmoved₂ : Moved s₁ s₂ row.revalidated { row.revalidated with state := d.next.getD row.revalidated.state } ∧
      s₂ = { s₁ with providerAttempts := s₂.providerAttempts } := by
    have hfound₁ : s₁.providerAttempt? row.attemptId = some row.revalidated := hmoved₁.attempt?
    rcases Tx.when_ok.1 hupdate with ⟨-, h⟩ | ⟨hsame, rfl⟩
    · obtain ⟨hmoved, hframe⟩ := updateAttempt_ok (Tx.write_ok.1 h) hfound₁ fun _ => rfl
      exact ⟨hmoved, hframe⟩
    · rw [not_not] at hsame
      rw [hsame]
      refine ⟨.same ?_ rfl, rfl⟩
      rw [hmoved₁.attemptId]
      exact hfound₁
  obtain ⟨hmoved₂, hframe₂⟩ := hmoved₂
  have houtcome : s₃ = { s₂ with recoveryOutcomes := s₃.recoveryOutcomes } ∧
      ((d.blocker = none ∧ s₃.recoveryOutcomes = s₂.recoveryOutcomes) ∨
        (d.blocker ≠ none ∧ Persisted s₂ s₃ row.attemptId ⟨d.action, d.blocker⟩)) := by
    rcases Tx.when_ok.1 houtcome with ⟨hblocker, h⟩ | ⟨hnone, rfl⟩
    · obtain ⟨hframe, hpersisted⟩ := persistRecoveryOutcome_ok (Tx.write_ok.1 h)
      exact ⟨hframe, .inr ⟨hblocker, hpersisted⟩⟩
    · exact ⟨rfl, .inl ⟨not_not.1 hnone, rfl⟩⟩
  obtain ⟨hframe₃, hpersisted⟩ := houtcome
  have hended : s₄ = { s₃ with objectives := s₄.objectives } ∧ (s₄.objectives = s₃.objectives ∨ (row.role = .worker ∧
      terminalWorkerAbandonment d.action d.blocker = true ∧
      Ended s₃ s₄ identity.taskId row.attemptId (recoveryReason host row.attemptId d.action d.blocker))) := by
    rcases Tx.when_ok.1 hcancel with ⟨⟨hworker, hterminal⟩, h⟩ | ⟨-, rfl⟩
    · obtain ⟨objective, hcancel, -⟩ := Tx.map_ok.1 h
      obtain ⟨hframe, hended⟩ := cancelObjectiveForRecovery_ok hcancel
      exact ⟨hframe, .inr ⟨hworker, hterminal, hended⟩⟩
    · exact ⟨rfl, .inl rfl⟩
  obtain ⟨hframe₄, hended⟩ := hended
  have hframe₅ := insertEvent_frame hevent
  -- the two moves compose, and the later writes leave the attempts
  refine ⟨rfl, (hmoved₁.trans hmoved₂).congr rfl ?_, ?_, ?_, ?_⟩
  · rw [hframe₅, hframe₄, hframe₃]
  · rw [hframe₅, hframe₄]
    rw [hframe₂, hframe₁] at hpersisted
    exact hpersisted
  · rw [hframe₅]
    rw [hframe₃, hframe₂, hframe₁] at hended
    exact hended
  · rw [hframe₅, hframe₄, hframe₃, hframe₂, hframe₁]
    rfl

/-- The decision a recovery has reached, and the row it reports. -/
theorem recover_ok {request : RecoverRequest} (h : recover host identity c request lease observed s = (.ok returned, s')) :
    ∃ row d, s.providerAttempt? request.attemptId = some row ∧ row.taskId = identity.taskId ∧
      recoveryDecision host s identity c row request.verifiedEvidence request.maxAttempts observed = .ok d ∧
      ∃ row', applyDecision host identity row d observed s = (.ok row', s') ∧ returned = projection row' d.action d.blocker := by
  simp only [recover, Tx.query_bind, exists_unit] at h
  obtain ⟨-, _, -, row, hrow, d, hdecision, h⟩ := h
  obtain ⟨row', s₁, happly, hpure⟩ := Tx.bind_ok.1 h
  obtain ⟨rfl, rfl⟩ := Tx.pure_ok.1 hpure
  obtain ⟨hfound, htask⟩ := attemptRow_ok.1 hrow
  exact ⟨row, d, hfound, htask, hdecision, row', happly, rfl⟩

theorem recover_effect {request : RecoverRequest} (h : recover host identity c request lease observed s = (.ok returned, s')) :
    Effect host s s' (.recover identity c request lease observed) := by
  obtain ⟨row, d, hfound, htask, hdecision, row', happly, -⟩ := recover_ok h
  obtain ⟨-, hid⟩ := providerAttempt?_eq_some.1 hfound
  obtain ⟨rfl, hmoved, hpersisted, hended, hframe⟩ := applyDecision_ok happly (by rw [hid]; exact hfound)
  exact .recovered row d htask hid hdecision hmoved hpersisted hended hframe

end Transactions

theorem Call.effect (call : Call) : Tx.Atomic (Effect host · · call) (call.run host) := by
  have hread : ∀ (replayed : Option AttemptRow) (read : Store → Except Error AttemptRow) (s : Store),
      (orRead replayed read s).2 = s := by
    intro replayed read s
    cases replayed <;> rfl
  -- call by call: the transaction body has one of the effects, the checks around it have none
  cases call with
  | prepare identity c request lease observed =>
    refine .map (.check_bind fun p _ => .bind_read (.mapError (.transaction fun s a s' h => ?_)) fun _ _ => hread _ _ _)
    exact prepare_effect h
  | claim role identity c attemptId lease observed =>
    refine .map (.check_bind fun _ _ => .check_bind fun _ _ =>
      .bind_read (.mapError (.transaction fun s a s' h => ?_)) fun _ _ => rfl)
    exact claim_effect h
  | session identity c attemptId sessionIdentity lease observed =>
    refine .map (.check_bind fun _ _ => .check_bind fun _ _ => .check_bind fun _ _ =>
      .bind_read (.mapError (.transaction fun s a s' h => ?_)) fun _ _ => rfl)
    exact recordSession_effect h
  | turn identity c attemptId sessionIdentity turnIdentity lease observed =>
    refine .map (.check_bind fun _ _ => .check_bind fun _ _ => .check_bind fun _ _ => .check_bind fun _ _ =>
      .bind_read (.mapError (.transaction fun s a s' h => ?_)) fun _ _ => hread _ _ _)
    exact recordTurn_effect h
  | completed identity c attemptId pointer evidence output lease observed =>
    refine .map (.check_bind fun _ _ => .check_bind fun _ _ => .check_bind fun _ _ => .check_bind fun _ _ =>
      .check_bind fun _ _ => .bind_read (.transaction fun s a s' h => ?_) fun _ _ => rfl)
    exact completeOutput_effect h
  | invalid identity c attemptId pointer output reason lease observed =>
    refine .map (.check_bind fun _ _ => .check_bind fun _ _ => .check_bind fun _ _ => .check_bind fun _ _ =>
      .check_bind fun _ _ => .bind_read (.transaction fun s a s' h => ?_) fun _ _ => hread _ _ _)
    exact invalidOutput_effect h
  | accept identity c attemptId review lease observed =>
    refine .map (.check_bind fun _ _ => .check_bind fun _ _ => .check_bind fun _ _ =>
      .bind_read (.mapError (.transaction fun s a s' h => ?_)) fun _ _ => hread _ _ _)
    exact accept_effect h
  | invalidate identity c attemptId lease observed =>
    refine .map (.check_bind fun _ _ => .check_bind fun _ _ => .transaction fun s a s' h => ?_)
    exact invalidate_effect h
  | terminate identity c f lease observed =>
    refine .map (.check_bind fun _ _ => .check_bind fun _ _ => .transaction fun s a s' h => ?_)
    exact terminate_effect h
  | denyScope identity c attemptId session lease observed =>
    refine .map (.check_bind fun _ _ => .check_bind fun _ _ => .check_bind fun _ _ => .transaction fun s a s' h => ?_)
    exact denyScope_effect h
  | blockAccounting identity c attemptId lease observed =>
    refine .map (.check_bind fun _ _ => .check_bind fun _ _ => .transaction fun s a s' h => ?_)
    exact blockAccounting_effect h
  | blockSession identity c attemptId lease observed =>
    refine .map (.check_bind fun _ _ => .check_bind fun _ _ => .transaction fun s a s' h => ?_)
    exact blockSession_effect h
  | recover identity c request lease observed =>
    refine .map (.check_bind fun _ _ => .check_bind fun _ _ => .check_bind fun _ _ => .transaction fun s a s' h => ?_)
    exact recover_effect h

/-! ## A Worker attempt to run the calls on -/

namespace Sample

def digest (n : Nat) : Digest := .sha256 (.ofNat 64 n)
def text (n : Nat) : String := (Hex.ofNat 64 n).text

def runtime : RuntimeBinding where
  resolvedDigest := digest 1
  workerProfileIdentity := digest 2
  supervisorProfileIdentities := [digest 3]
  reviewCompleteRounds := 0
  reviewMaxRounds := 0
  reviewMaxSupervisorAttemptsPerRound := 0
  reviewOnFinalFindings := ""
  reviewPolicyDigest := ""
  profiles := by decide
  reviewPolicy := by decide

def identity : TaskIdentity := Recovery.Sample.identity
def lease : TransitionLease := ⟨"repository", "state", "owner", 1, 100⟩

/-- A task and a lease, and no attempt yet. -/
def start : Store :=
  let ledger : Ledger := { Recovery.Sample.ledger with leases := ⟨[lease], by decide⟩, runtimeBindings := .empty }
  { Store.initial (.initial (.initial ledger fun _ _ => .ok ()) .empty) with ledger := ledger }

def receipt (role : ProviderRole) (ordinal : Nat) (profile : Digest) : HealthReceipt :=
  ⟨.ofNat 40 1, none, "case", digest 4, ordinal, runtime, role, profile, digest 5, true, 0, 100⟩

def context (role : ProviderRole) (ordinal : Nat) (profile : Digest) : RecoveryContext :=
  ⟨"task", text 1, text 2, text 3, text 4, none, none, text 5, text 6, runtime, some (Hex.ofNat 40 1).text, some "case",
    some (receipt role ordinal profile)⟩

def worker : RecoveryContext := context .worker 1 (digest 2)

def request : PrepareRequest := ⟨"attempt", .worker, "process", 50, text 7, none, 0, 0, none, none⟩

/-- A store that a call has led to. Its equation is kept, for the kernel would evaluate the call to find it again. -/
def After (call : Call) (s : Store) : Type := { s' : Store // s' = (call.run .sample s).2 }

def prepared : After (.prepare identity worker request (some lease) 10) start := ⟨_, rfl⟩
def opened : After (.session identity worker "attempt" "session" (some lease) 10) prepared.1 := ⟨_, rfl⟩
def dispatched : After (.turn identity worker "attempt" "session" "turn" (some lease) 10) opened.1 := ⟨_, rfl⟩
def completed : After (.completed identity worker "attempt" "output" (text 8) (text 9) (some lease) 10) dispatched.1 := ⟨_, rfl⟩

/-- The context of another deployment. -/
def drifted : RecoveryContext := { worker with deploymentFingerprint := text 10 }

/-- A recovery of the attempt. -/
def recovery (c : RecoveryContext) (evidence : Option String) (maxAttempts : Int) : Tx Error Store RecoveryProjection :=
  recoverAttempt .sample identity c ⟨"attempt", evidence, maxAttempts⟩ (some lease) 10

/-- What a recovery has answered. -/
def answered (x : Except Error RecoveryProjection × Store) : Option (ProviderRole × RecoveryAction × Option String) :=
  match x.1 with
  | .ok p => some (p.role, p.nextAction, p.blocker)
  | .error _ => none

theorem answered_eq_some {x : Except Error RecoveryProjection × Store} {role : ProviderRole} {action : RecoveryAction}
    {blocker : Option String} (h : answered x = some (role, action, blocker)) :
    ∃ p, x = (.ok p, x.2) ∧ p.role = role ∧ p.nextAction = action ∧ p.blocker = blocker := by
  obtain ⟨_ | p, s⟩ := x
  · cases h
  · cases h
    exact ⟨p, rfl, rfl, rfl, rfl⟩

def conflicts (x : Except Error RecoveryProjection × Store) : Bool :=
  match x.1 with
  | .error (.providerRecovery message) => message == "recovery outcome conflicts with committed state"
  | _ => false

/-- What the attempt and its recoveries come to: one evaluation for all of them, since they share the stores. -/
theorem course :
    (opened.1.providerAttempt? "attempt").map (·.sessionIdentity) = some (some "session") ∧
    (prepared.1.providerAttempt? "attempt").map (·.completionEvidenceFingerprint) = some none ∧
    answered (recovery worker none 1 prepared.1) = some (.worker, .blockedRetryLimit, some "retry-limit-reached") ∧
    answered (recovery drifted none 3 completed.1) = some (.worker, .blockedIdentityDrift, some "identity-drift") ∧
    answered (recovery worker (some (text 8)) 3 (recovery drifted none 3 completed.1).2) =
    some (.worker, .consumeVerifiedOutput, none) ∧
    answered (recovery worker none 3 completed.1) = some (.worker, .blockedAmbiguousTurn, some "completion-evidence-unverified") ∧
    conflicts (recovery drifted none 3 (recovery worker none 3 completed.1).2) = true ∧
    contextMatches completed.1 identity "attempt" drifted = false ∧
    (completed.1.recoveryOutcome? "attempt").isNone = true ∧
    (completed.1.objectiveOf? "task" "attempt").isNone = true ∧
    (completed.1.providerAttempt? "attempt").map (·.state) = some .completed := by
  decide +kernel

end Sample

end Roundwright.Provider
