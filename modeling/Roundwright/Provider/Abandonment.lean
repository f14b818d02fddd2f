/-
A Worker attempt that recovery has abandoned. The transaction of the abandonment stores its outcome and cancels
the active objective of the attempt, and from then on the attempt has no output to consume: it is blocked or
ambiguous without completion evidence, which no later call changes.

The abandonment of an attempt that holds completion evidence is not final. Only a recovery under a context that is
not the persisted one reaches it, and the evidence it leaves behind is consumed by a later recovery under the
right context. In every run that has no such call, what was abandoned stays abandoned.
-/
import Roundwright.Provider.Advance

namespace Roundwright.Provider

open Lib State Recovery

variable {host : Host} {s s' : Store}

/-! ## The operations on objectives -/

/-- A call of the objective operations; `terminal` is `complete_objective` or `cancel_objective`. -/
inductive ObjectiveCall where
  | start (identity : TaskIdentity) (objective : WorkerObjective) (lease : Option TransitionLease) (now : Int)
  | terminal (identity : TaskIdentity) (objective : WorkerObjective) (ending : Ending) (lease : Option TransitionLease) (now : Int)
  | cancelForAttempt (identity : TaskIdentity) (attemptId reasonDigest : String) (lease : Option TransitionLease) (now : Int)

def ObjectiveCall.run (host : Host) : ObjectiveCall → Tx Error Store (Option ObjectiveRow)
  | .start identity objective lease now => some <$> startObjective host identity objective lease now
  | .terminal identity objective ending lease now => some <$> terminalObjective host identity objective ending lease now
  | .cancelForAttempt identity attemptId reasonDigest lease now =>
    cancelObjectiveForProviderAttempt host identity attemptId reasonDigest lease now

/-- What a committed call has done to the objectives. -/
inductive ObjectiveEffect (s s' : Store) : ObjectiveCall → Prop where
  | quiet {call : ObjectiveCall} (same : tables s' = tables s) : ObjectiveEffect s s' call
  | started {identity objective lease now}
    (rows : s'.objectives.rows = s.objectives.rows ++ [⟨objective.objectiveId, objective.identity, .active⟩])
    (frame : tables s' = { tables s with objectives := s'.objectives }) : ObjectiveEffect s s' (.start identity objective lease now)
  | ended {identity objective ending lease now}
    (set : s'.objectives = (setObjective objective.objectiveId ending.state s).objectives)
    (frame : tables s' = { tables s with objectives := s'.objectives }) :
    ObjectiveEffect s s' (.terminal identity objective ending lease now)
  | cancelled {identity attemptId reason lease now}
    (abandoned : requireAbandonment s identity.taskId attemptId reason = .ok ())
      (ended : Ended s s' identity.taskId attemptId reason) (frame : tables s' = { tables s with objectives := s'.objectives }) :
    ObjectiveEffect s s' (.cancelForAttempt identity attemptId reason lease now)

section ObjectiveTransactions

variable {identity : TaskIdentity} {lease : Option TransitionLease} {now : Int}

theorem beginObjective_effect {objective : WorkerObjective} {returned : ObjectiveRow}
    (h : beginObjective host identity objective lease now s = (.ok returned, s')) :
    ObjectiveEffect s s' (.start identity objective lease now) := by
  simp only [beginObjective, Tx.query_bind, Tx.check_bind, exists_unit] at h
  obtain ⟨-, _, -, -, existing, -, h⟩ := h
  cases existing with
  | none =>
    simp only [Tx.write_bind, Tx.pure_ok, bind_eq_ok, demand_eq_ok, pure_eq_ok] at h
    obtain ⟨_, ⟨objectives, hinsert, rfl⟩, -, rfl⟩ := h
    exact .started (Table.insert?_eq_some.1 hinsert).2 rfl
  | some row =>
    simp only [Tx.check_bind, Tx.pure_ok, exists_unit] at h
    obtain ⟨-, -, rfl⟩ := h
    exact .quiet rfl

theorem endObjective_effect {objective : WorkerObjective} {ending : Ending} {returned : ObjectiveRow}
    (h : endObjective host identity objective ending lease now s = (.ok returned, s')) :
    ObjectiveEffect s s' (.terminal identity objective ending lease now) := by
  simp only [endObjective, Tx.query_bind, Tx.check_bind, exists_unit] at h
  obtain ⟨-, _, -, row, -, -, h⟩ := h
  cases hstate : row.state with
  | active =>
    simp only [hstate, Tx.query_bind, Tx.write_bind, Tx.pure_ok, exists_unit, Except.ok.injEq] at h
    obtain ⟨-, _, rfl, -, rfl⟩ := h
    exact .ended rfl rfl
  | completed result =>
    cases ending with
    | complete _ =>
      simp only [hstate, Tx.check_bind, Tx.query_bind, Tx.pure_ok, exists_unit] at h
      obtain ⟨-, -, -, rfl⟩ := h
      exact .quiet rfl
    | cancel _ =>
      simp only [hstate] at h
      cases h
  | cancelled reason =>
    cases ending with
    | complete _ =>
      simp only [hstate] at h
      cases h
    | cancel _ =>
      simp only [hstate, Tx.check_bind, Tx.query_bind, Tx.pure_ok, exists_unit] at h
      obtain ⟨-, -, -, rfl⟩ := h
      exact .quiet rfl

theorem ObjectiveCall.effect (call : ObjectiveCall) : Tx.Atomic (ObjectiveEffect · · call) (call.run host) := by
  cases call with
  | start identity objective lease now =>
    refine .map (.check_bind fun _ _ => .check_bind fun _ _ => .mapError (.transaction fun s a s' h => ?_))
    exact beginObjective_effect h
  | terminal identity objective ending lease now =>
    refine .map (.check_bind fun _ _ => .check_bind fun _ _ => .check_bind fun _ _ => .transaction fun s a s' h => ?_)
    exact endObjective_effect h
  | cancelForAttempt identity attemptId reason lease now =>
    refine .transaction fun s a s' h => ?_
    simp only [Tx.query_bind, exists_unit] at h
    obtain ⟨-, hcancel⟩ := h
    have habandoned : requireAbandonment s identity.taskId attemptId reason = .ok () := by
      simp only [cancelObjectiveForRecovery, Tx.query_bind, exists_unit] at hcancel
      exact hcancel.1
    obtain ⟨hframe, hended⟩ := cancelObjectiveForRecovery_ok hcancel
    exact .cancelled habandoned hended (by rw [hframe]; rfl)

end ObjectiveTransactions

/-! ## What recovery decides for a Worker -/

/-- The outcome that keeps the output of an attempt for its verification. -/
def unverified : Outcome := ⟨.blockedAmbiguousTurn, some "completion-evidence-unverified"⟩

def Outcome.terminal (o : Outcome) : Bool := terminalWorkerAbandonment o.action o.blocker

/-- What holds of the row of a Worker and of its outcome. -/
structure WorkerKept (s : Store) (row : AttemptRow) : Prop where
  live : row.state ≠ .accepted ∧ row.state ≠ .invalidated
  unsettled : row.state = .prepared ∨ row.state = .dispatched → s.recoveryOutcome? row.attemptId = none
  recoverable : row.completionEvidenceFingerprint ≠ none → ∀ o, s.recoveryOutcome? row.attemptId = some o → o = unverified
  terminal : row.completionEvidenceFingerprint = none → ∀ o, s.recoveryOutcome? row.attemptId = some o → o.terminal = true

/-- The attempt is at its end, blocked or ambiguous, and its outcome says so. -/
structure Abandons (s : Store) (row : AttemptRow) (d : RecoveryDecision) : Prop where
  terminal : terminalWorkerAbandonment d.action d.blocker = true
  state : d.next.getD row.state = .blocked ∨ d.next.getD row.state = .ambiguous
  outcome : d.blocker ≠ none ∨ s.recoveryOutcome? row.attemptId = some ⟨d.action, d.blocker⟩

/-- Recovery waits for a Worker that was not dispatched, looks at its completion evidence, or abandons it. -/
inductive WorkerDecision (s : Store) (row : AttemptRow) (drifted : Prop) (d : RecoveryDecision) : Prop where
  | waits (state : row.state = .prepared) (action : d.action = .retry ∨ d.action = .resumeSameSession)
    (blocker : d.blocker = none) (next : d.next = none)
  | verifies (evidence : row.completionEvidenceFingerprint ≠ none) (matched : ¬ drifted) (verified : Bool)
    (decision : d = evidenceDecision row verified)
  | abandons (evidence : row.completionEvidenceFingerprint = none ∨ drifted) (abandons : Abandons s row d)

theorem abandonmentState_cases (row : AttemptRow) : abandonmentState row = .blocked ∨ abandonmentState row = .ambiguous := by
  unfold abandonmentState
  split
  · exact .inr rfl
  · exact .inl rfl

variable {row : AttemptRow} {o : Outcome}

/-- A stored outcome is reported again, and the attempt stays. -/
theorem Abandons.stored (h : s.recoveryOutcome? row.attemptId = some o) (hterminal : o.terminal = true)
    (hstate : row.state = .blocked ∨ row.state = .ambiguous) : Abandons s row o.decision :=
  ⟨hterminal, hstate, .inr h⟩

variable {drifted : Prop}

variable {maxAttempts observed : Int}

theorem preparedDecision_worker (hrole : row.role = .worker)
    (hstate : row.state = .prepared) (hevidence : row.completionEvidenceFingerprint = none) :
    WorkerDecision s row drifted (preparedDecision s row maxAttempts observed) := by
  unfold preparedDecision
  split
  · unfold staleDecision
    split
    · rw [hrole]
      exact .abandons (.inl hevidence) ⟨rfl, .inl rfl, .inl nofun⟩
    · exact .waits hstate (.inr rfl) rfl rfl
  · split
    · exact .abandons (.inl hevidence) ⟨rfl, .inl rfl, .inl nofun⟩
    · exact .waits hstate (.inl rfl) rfl rfl

variable {d : RecoveryDecision} {verified : Option String}

theorem recoveryOutcome_worker
    (h : recoveryOutcome s row verified maxAttempts observed = .ok d) (matched : ¬ drifted) (hrole : row.role = .worker)
    (hsound : Sound row) (hkept : WorkerKept s row) : WorkerDecision s row drifted d := by
  unfold recoveryOutcome at h
  -- by the state; a Worker with evidence waits for its verification
  cases hstate : row.state with
  | accepted => exact absurd hstate hkept.live.1
  | invalidated => exact absurd hstate hkept.live.2
  | completed =>
    simp only [hstate] at h
    split at h
    · exact .verifies ‹_› matched _ (Except.ok.inj h).symm
    · cases h
  | ambiguous =>
    simp only [hstate] at h
    split at h
    · exact .verifies ‹_› matched _ (Except.ok.inj h).symm
    · rename_i hevidence
      rw [not_not] at hevidence
      rw [← Except.ok.inj h]
      cases hstored : s.recoveryOutcome? row.attemptId with
      | none => exact .abandons (.inl hevidence) ⟨rfl, .inr hstate, .inl (Option.some_ne_none _)⟩
      | some o => exact .abandons (.inl hevidence) (.stored hstored (hkept.terminal hevidence o hstored) (.inr hstate))
  | blocked =>
    simp only [hstate, demand_eq_ok, Option.map_eq_some_iff] at h
    obtain ⟨o, hstored, rfl⟩ := h
    have hevidence : row.completionEvidenceFingerprint = none := by
      by_contra hevidence
      have hstates := (hsound.output (hsound.evidence hevidence)).2
      rw [hstate] at hstates
      simp at hstates
    exact .abandons (.inl hevidence) (.stored hstored (hkept.terminal hevidence o hstored) (.inl hstate))
  | prepared =>
    simp only [hstate] at h
    rw [← Except.ok.inj h]
    exact preparedDecision_worker hrole hstate (hsound.prepared hstate).2.2
  | dispatched =>
    simp only [hstate, Except.ok.injEq] at h
    have hevidence := (hsound.dispatched hstate).2.2
    rw [← h]
    unfold staleDecision
    split
    · rw [hrole]
      exact .abandons (.inl hevidence) ⟨rfl, .inl rfl, .inl (Option.some_ne_none _)⟩
    · exact .abandons (.inl hevidence) ⟨rfl, .inr rfl, .inl (Option.some_ne_none _)⟩

variable {identity : TaskIdentity} {c : RecoveryContext}

theorem recoveryDecision_worker
    (h : recoveryDecision host s identity c row verified maxAttempts observed = .ok d) (hrole : row.role = .worker)
    (hsound : Sound row) (hkept : WorkerKept s row) :
    WorkerDecision s row (contextMatches s identity row.attemptId c = false) d := by
  unfold recoveryDecision at h
  split at h
  · rename_i hmatch
    simp only [matchedDecision, bind_eq_ok] at h
    obtain ⟨-, -, sealed, -, -, -, -, -, h⟩ := h
    split at h
    · rename_i hprepared
      cases h
      exact .abandons (.inl (hsound.prepared hprepared.1).2.2) ⟨rfl, abandonmentState_cases row, .inl (Option.some_ne_none _)⟩
    · exact recoveryOutcome_worker h (by rw [hmatch]; decide) hrole hsound hkept
  · rename_i hdrift
    cases h
    exact .abandons (.inr (by simpa using hdrift)) ⟨rfl, abandonmentState_cases row, .inl (Option.some_ne_none _)⟩

/-! ## Outcomes -/

theorem recoveryOutcome?_congr (h : s'.recoveryOutcomes = s.recoveryOutcomes) (attemptId : String) :
    s'.recoveryOutcome? attemptId = s.recoveryOutcome? attemptId := by
  unfold Store.recoveryOutcome?
  rw [h]

variable {attemptId : String}

theorem Persisted.outcome? (h : Persisted s s' attemptId o) : s'.recoveryOutcome? attemptId = some o := by
  rcases h with ⟨hnone, hrows⟩ | ⟨hsome, hsame⟩
  · unfold Store.recoveryOutcome? at hnone ⊢
    rw [Option.map_eq_none_iff, find?_key_none] at hnone
    rw [hrows, find?_append_self hnone rfl]
    rfl
  · rw [recoveryOutcome?_congr hsame]
    exact hsome

theorem Persisted.outcome?_other {attemptId other : String} (h : Persisted s s' attemptId o) (hne : other ≠ attemptId) :
    s'.recoveryOutcome? other = s.recoveryOutcome? other := by
  rcases h with ⟨-, hrows⟩ | ⟨-, hsame⟩
  · unfold Store.recoveryOutcome?
    rw [hrows, find?_append_ne (Ne.symm hne)]
  · exact recoveryOutcome?_congr hsame other

/-- An outcome that is there stays. -/
theorem Persisted.kept {attemptId other : String} {o old : Outcome} (h : Persisted s s' attemptId o)
    (hold : s.recoveryOutcome? other = some old) : s'.recoveryOutcome? other = some old := by
  by_cases hid : other = attemptId
  · subst hid
    rcases h with ⟨hnone, -⟩ | ⟨-, hsame⟩
    · rw [hnone] at hold
      cases hold
    · rw [recoveryOutcome?_congr hsame]
      exact hold
  · rw [h.outcome?_other hid]
    exact hold

/-! ## Abandoned attempts -/

/-- The row of an abandoned attempt. -/
structure Abandoned (s : Store) (attemptId : String) (row : AttemptRow) : Prop where
  found : s.providerAttempt? attemptId = some row
  role : row.role = .worker
  state : row.state = .blocked ∨ row.state = .ambiguous
  evidence : row.completionEvidenceFingerprint = none
  outcome : ∃ o, s.recoveryOutcome? attemptId = some o ∧ o.terminal = true

theorem Abandoned.congr (h : Abandoned s attemptId row)
    (hfound : s'.providerAttempt? attemptId = some row) (houtcome : ∀ o, s.recoveryOutcome? attemptId = some o →
      s'.recoveryOutcome? attemptId = some o) : Abandoned s' attemptId row := by
  obtain ⟨o, ho, hterminal⟩ := h.outcome
  exact ⟨hfound, h.role, h.state, h.evidence, o, houtcome o ho, hterminal⟩

theorem Abandoned.decision
    (h : Abandoned s attemptId row)
    (hdecision : recoveryDecision host s identity c row verified maxAttempts observed = .ok d) :
    Abandons s row d := by
  obtain ⟨o, ho, hterminal⟩ := h.outcome
  obtain ⟨-, hid⟩ := providerAttempt?_eq_some.1 h.found
  rw [← hid] at ho
  unfold recoveryDecision at hdecision
  split at hdecision
  · simp only [matchedDecision, bind_eq_ok] at hdecision
    obtain ⟨-, -, sealed, -, -, -, -, -, hdecision⟩ := hdecision
    have hprepared : row.state ≠ .prepared := by
      intro hprepared
      rcases h.state with hstate | hstate <;> rw [hprepared] at hstate <;> cases hstate
    rw [if_neg fun hunavailable => hprepared hunavailable.1] at hdecision
    unfold recoveryOutcome at hdecision
    rcases h.state with hstate | hstate
    · simp only [hstate, ho, Option.map_some] at hdecision
      cases hdecision
      exact .stored ho hterminal (.inl hstate)
    · simp only [hstate, ho, h.evidence, ne_eq, not_true, if_false, Option.map_some, Option.getD_some] at hdecision
      cases hdecision
      exact .stored ho hterminal (.inr hstate)
  · cases hdecision
    exact ⟨rfl, abandonmentState_cases row, .inl (Option.some_ne_none _)⟩

theorem AttemptRow.revalidated_of_unaccepted (h : row.state ≠ .accepted) : row.revalidated = row := by
  refine if_neg ?_
  simp [AttemptRow.revalidates, h]

variable {call : Call}

/-- The attempt an effect moves was open, or of a Supervisor, or was recovered. -/
theorem Abandoned.effect (h : Abandoned s attemptId row)
    (heffect : Effect host s s' call) : ∃ row', Abandoned s' attemptId row' := by
  have hsame : s'.providerAttempts = s.providerAttempts → s'.recoveryOutcomes = s.recoveryOutcomes →
      ∃ row', Abandoned s' attemptId row' := by
    intro hattempts houtcomes
    refine ⟨row, h.congr ?_ fun o ho => (recoveryOutcome?_congr houtcomes attemptId).trans ho⟩
    unfold Store.providerAttempt?
    rw [hattempts]
    exact h.found
  have hother : ∀ {r r' : AttemptRow}, Moved s s' r r' → r ≠ row →
      (∀ o, s.recoveryOutcome? attemptId = some o → s'.recoveryOutcome? attemptId = some o) →
      ∃ row', Abandoned s' attemptId row' := by
    intro r r' hmoved hne houtcome
    refine ⟨row, h.congr ?_ houtcome⟩
    rw [hmoved.attempt?_other]
    · exact h.found
    · rintro rfl
      exact hne (Option.some.inj (hmoved.found.symm.trans h.found))
  have hopen : ∀ state : AttemptState, (state = .prepared ∨ state = .dispatched) → row.state ≠ state := by
    intro state hstate hrow
    rcases hstate with rfl | rfl <;> rcases h.state with hs | hs <;> rw [hrow] at hs <;> cases hs
  have hworker : row.role ≠ .supervisor := by
    rw [h.role]
    nofun
  have houtcomes : ∀ {t : Tables}, tables s' = t → t.outcomes = s.recoveryOutcomes →
      ∀ o, s.recoveryOutcome? attemptId = some o → s'.recoveryOutcome? attemptId = some o := by
    intro t ht hframe o ho
    rw [recoveryOutcome?_congr ((congrArg Tables.outcomes ht).trans hframe)]
    exact ho
  -- this row is neither open nor a Supervisor's, so only a recovery can move it
  cases heffect with
  | quiet same => exact hsame (congrArg Tables.attempts same) (congrArg Tables.outcomes same)
  | prepared number p absent wellFormed rows frame =>
    refine ⟨row, h.congr ?_ (houtcomes frame rfl)⟩
    unfold Store.providerAttempt?
    rw [rows]
    exact find?_append_some h.found
  | claimed r found untouched rows frame => exact hsame (congrArg Tables.attempts frame) (congrArg Tables.outcomes frame)
  | opened r state was moved rows frame =>
    exact hother moved (by rintro rfl; exact hopen _ (.inl rfl) state) (houtcomes frame rfl)
  | dispatched r state opened checkpointed moved frame =>
    exact hother moved (by rintro rfl; exact hopen _ (.inl rfl) state) (houtcomes frame rfl)
  | completed r state moved frame =>
    exact hother moved (by rintro rfl; exact hopen _ (.inr rfl) state) (houtcomes frame rfl)
  | rejected r state moved frame =>
    exact hother moved (by rintro rfl; exact hopen _ (.inr rfl) state) (houtcomes frame rfl)
  | accepted r role state moved frame =>
    exact hother moved (by rintro rfl; exact hworker role) (houtcomes frame rfl)
  | settled r state outcome role unaccepted settles moved persisted frame =>
    exact hother moved (by rintro rfl; exact hworker role) fun o ho => persisted.kept ho
  | recovered r d task attempt decision moved persisted ended frame =>
    have hkept : ∀ o, s.recoveryOutcome? attemptId = some o → s'.recoveryOutcome? attemptId = some o := by
      intro o ho
      rcases persisted with ⟨-, hsame⟩ | ⟨-, hpersisted⟩
      · rw [recoveryOutcome?_congr hsame]
        exact ho
      · exact hpersisted.kept ho
    by_cases hid : r = row
    · subst hid
      have hunaccepted : r.state ≠ .accepted := by
        intro haccepted
        rcases h.state with hs | hs <;> rw [haccepted] at hs <;> cases hs
      rw [r.revalidated_of_unaccepted hunaccepted] at moved
      obtain ⟨-, hfound⟩ := providerAttempt?_eq_some.1 h.found
      obtain ⟨o, ho, hterminal⟩ := h.outcome
      refine ⟨{ r with state := d.next.getD r.state }, ?_, h.role, (h.decision decision).state, h.evidence, o, hkept o ho, hterminal⟩
      rw [← hfound]
      exact moved.attempt?
    · exact hother moved hid hkept

/-! ## Worker rows along a run -/

/-- A recovery under another context than the persisted one leaves the completion evidence of a Worker alone. -/
def Careful (s : Store) : Call → Prop
  | .recover identity c request _ _ => ∀ row, s.providerAttempt? request.attemptId = some row → row.role = .worker →
    row.completionEvidenceFingerprint ≠ none → contextMatches s identity request.attemptId c = true
  | _ => True

/-- What holds of the attempts in every run of careful calls. -/
structure Followed (s : Store) : Prop where
  sound : ∀ r ∈ s.providerAttempts.rows, Sound r
  workers : ∀ r ∈ s.providerAttempts.rows, r.role = .worker → WorkerKept s r
  outcomes : ∀ attemptId, s.recoveryOutcome? attemptId ≠ none → s.providerAttempt? attemptId ≠ none

theorem WorkerKept.congr (h : WorkerKept s row)
    (houtcome : s'.recoveryOutcome? row.attemptId = s.recoveryOutcome? row.attemptId) : WorkerKept s' row :=
  ⟨h.live, fun hstate => houtcome.trans (h.unsettled hstate), fun he o ho => h.recoverable he o (houtcome ▸ ho),
    fun he o ho => h.terminal he o (houtcome ▸ ho)⟩

/-- A row whose attempt has no outcome. -/
theorem WorkerKept.fresh (hlive : row.state ≠ .accepted ∧ row.state ≠ .invalidated)
    (houtcome : s.recoveryOutcome? row.attemptId = none) : WorkerKept s row := by
  refine ⟨hlive, fun _ => houtcome, ?_, ?_⟩ <;> intro _ o ho <;> rw [houtcome] at ho <;> cases ho

theorem Evolves.sound (h : Evolves s s') : ∀ r ∈ s'.providerAttempts.rows, Sound r := by
  intro b hb
  have hfound := providerAttempt?_eq_some.2 ⟨hb, rfl⟩
  cases hbefore : s.providerAttempt? b.attemptId with
  | none => exact (h.new _ b hbefore hfound).1
  | some a =>
    obtain ⟨b', hb', hrow⟩ := h.kept _ a hbefore
    rw [hfound] at hb'
    cases hb'
    exact hrow.sound

theorem Effect.outcomes (h : Effect host s s' call) :
    s'.recoveryOutcomes = s.recoveryOutcomes ∨
      ∃ row o, s.providerAttempt? row.attemptId = some row ∧ Persisted s s' row.attemptId o := by
  cases h with
  | quiet same => exact .inl (congrArg Tables.outcomes same)
  | prepared number p absent wellFormed rows frame => exact .inl (congrArg Tables.outcomes frame)
  | claimed row found untouched rows frame => exact .inl (congrArg Tables.outcomes frame)
  | opened row state was moved rows frame => exact .inl (congrArg Tables.outcomes frame)
  | dispatched row state opened checkpointed moved frame => exact .inl (congrArg Tables.outcomes frame)
  | completed row state moved frame => exact .inl (congrArg Tables.outcomes frame)
  | rejected row state moved frame => exact .inl (congrArg Tables.outcomes frame)
  | accepted row role state moved frame => exact .inl (congrArg Tables.outcomes frame)
  | settled row state outcome role unaccepted settles moved persisted frame => exact .inr ⟨row, outcome, moved.found, persisted⟩
  | recovered row d task attempt decision moved persisted ended frame =>
    rcases persisted with ⟨-, hsame⟩ | ⟨-, hpersisted⟩
    · exact .inl hsame
    · exact .inr ⟨row, _, moved.found, hpersisted⟩

/-- The attempts that have outcomes are stored, and stay so. -/
theorem Effect.outcomes_found (h : Effect host s s' call) (hevolves : Evolves s s')
    (houtcomes : ∀ attemptId, s.recoveryOutcome? attemptId ≠ none → s.providerAttempt? attemptId ≠ none)
    (attemptId : String) (hsome : s'.recoveryOutcome? attemptId ≠ none) : s'.providerAttempt? attemptId ≠ none := by
  have hbefore : s.providerAttempt? attemptId ≠ none := by
    rcases h.outcomes with hsame | ⟨row, o, hfound, hpersisted⟩
    · rw [recoveryOutcome?_congr hsame] at hsome
      exact houtcomes attemptId hsome
    · by_cases hid : attemptId = row.attemptId
      · rw [hid, hfound]
        nofun
      · rw [hpersisted.outcome?_other hid] at hsome
        exact houtcomes attemptId hsome
  obtain ⟨a, ha⟩ := Option.ne_none_iff_exists'.1 hbefore
  obtain ⟨b, hb, -⟩ := hevolves.kept attemptId a ha
  rw [hb]
  nofun

/-- A decision leaves the outcomes of the other attempts alone. -/
theorem outcome?_others {id : String} {settles blocks : Prop}
    (h : (settles ∧ s'.recoveryOutcomes = s.recoveryOutcomes) ∨ (blocks ∧ Persisted s s' id o)) (attemptId : String)
    (hne : attemptId ≠ id) :
    s'.recoveryOutcome? attemptId = s.recoveryOutcome? attemptId := by
  rcases h with ⟨-, hsame⟩ | ⟨-, hpersisted⟩
  · exact recoveryOutcome?_congr hsame attemptId
  · exact hpersisted.outcome?_other hne

/-- One attempt has moved, and the others have kept their rows. -/
theorem Moved.each {row row' : AttemptRow} {K : AttemptRow → Prop} (h : Moved s s' row row') (hrow : K row')
    (hothers : ∀ r ∈ s.providerAttempts.rows, r.attemptId ≠ row.attemptId → K r) : ∀ r ∈ s'.providerAttempts.rows, K r := by
  intro b hb
  have hfound := providerAttempt?_eq_some.2 ⟨hb, rfl⟩
  by_cases hid : b.attemptId = row.attemptId
  · rw [hid, h.attempt?] at hfound
    cases hfound
    exact hrow
  · rw [h.attempt?_other hid] at hfound
    exact hothers b (providerAttempt?_eq_some.1 hfound).1 hid

/-- One attempt has moved, and the others have kept their rows and outcomes. -/
theorem Moved.workers {row row' : AttemptRow} (h : Moved s s' row row')
    (hworkers : ∀ r ∈ s.providerAttempts.rows, r.role = .worker → WorkerKept s r)
    (hrow : row'.role = .worker → WorkerKept s' row')
    (houtcomes : ∀ attemptId, attemptId ≠ row.attemptId → s'.recoveryOutcome? attemptId = s.recoveryOutcome? attemptId) :
    ∀ r ∈ s'.providerAttempts.rows, r.role = .worker → WorkerKept s' r :=
  h.each hrow fun r hr hid hrole => (hworkers r hr hrole).congr (houtcomes r.attemptId hid)

theorem WorkerKept.recovered (h : WorkerKept s row) (hsound : Sound row)
    (hdecision : WorkerDecision s row drifted d) (hcareful : row.completionEvidenceFingerprint ≠ none → ¬ drifted)
    (hpersisted : (d.blocker = none ∧ s'.recoveryOutcomes = s.recoveryOutcomes) ∨
      (d.blocker ≠ none ∧ Persisted s s' row.attemptId ⟨d.action, d.blocker⟩)) :
    WorkerKept s' { row with state := d.next.getD row.state } := by
  cases hdecision with
  | waits state action blocker next =>
    rw [next]
    rcases hpersisted with ⟨-, hsame⟩ | ⟨hblocker, -⟩
    · exact h.congr (recoveryOutcome?_congr hsame row.attemptId)
    · exact absurd blocker hblocker
  | verifies evidence matched verified decision =>
    subst decision
    -- completion evidence leaves a Worker completed or ambiguous, whatever is found of it
    have hstate : (evidenceDecision row verified).next.getD row.state = .completed ∨
        (evidenceDecision row verified).next.getD row.state = .ambiguous := by
      have hstates := (hsound.output (hsound.evidence evidence)).2
      have hrow : row.state = .completed ∨ row.state = .ambiguous := by
        rcases hstates with hstate | hstate | hstate | hstate
        · exact .inl hstate
        · exact absurd hstate h.live.1
        · exact .inr hstate
        · exact absurd hstate h.live.2
      cases verified <;> rcases hrow with hrow | hrow <;> simp [evidenceDecision, hrow]
    have houtcome : ∀ o, s'.recoveryOutcome? row.attemptId = some o → o = unverified := by
      intro o ho
      rcases hpersisted with ⟨-, hsame⟩ | ⟨hblocker, hpersisted⟩
      · rw [recoveryOutcome?_congr hsame] at ho
        exact h.recoverable evidence o ho
      · cases verified with
        | true => exact absurd rfl hblocker
        | false =>
          rw [hpersisted.outcome?] at ho
          exact (Option.some.inj ho).symm
    refine ⟨?_, fun hopen => ?_, fun _ => houtcome, fun hnone => absurd hnone evidence⟩
    · rcases hstate with hstate | hstate <;> rw [hstate] <;> exact ⟨nofun, nofun⟩
    · rcases hstate with hstate | hstate <;> rw [hstate] at hopen <;> simp at hopen
  | abandons evidence abandons =>
    have hnone : row.completionEvidenceFingerprint = none := by
      by_contra hsome
      exact hcareful hsome (evidence.resolve_left hsome)
    have houtcome : s'.recoveryOutcome? row.attemptId = some ⟨d.action, d.blocker⟩ := by
      rcases hpersisted with ⟨hblocker, hsame⟩ | ⟨-, hpersisted⟩
      · rw [recoveryOutcome?_congr hsame]
        exact abandons.outcome.resolve_left fun h => h hblocker
      · exact hpersisted.outcome?
    refine ⟨?_, fun hopen => ?_, fun hsome => absurd hnone hsome, fun _ o ho => ?_⟩
    · rcases abandons.state with hstate | hstate <;> rw [hstate] <;> exact ⟨nofun, nofun⟩
    · rcases abandons.state with hstate | hstate <;> rw [hstate] at hopen <;> simp at hopen
    · rw [houtcome] at ho
      cases ho
      exact abandons.terminal

theorem Effect.followed (h : Effect host s s' call) (hcareful : Careful s call) (hf : Followed s) : Followed s' := by
  have hevolves := h.evolves hf.sound
  have hsound : ∀ {row row' : AttemptRow}, Moved s s' row row' → Sound row := fun hm =>
    hf.sound _ (providerAttempt?_eq_some.1 hm.found).1
  have hkept : ∀ {row row' : AttemptRow}, Moved s s' row row' → row.role = .worker → WorkerKept s row := fun hm =>
    hf.workers _ (providerAttempt?_eq_some.1 hm.found).1
  have hsame : ∀ {t : Tables}, tables s' = t → t.outcomes = s.recoveryOutcomes → ∀ attemptId,
      s'.recoveryOutcome? attemptId = s.recoveryOutcome? attemptId := fun ht hframe =>
    recoveryOutcome?_congr ((congrArg Tables.outcomes ht).trans hframe)
  refine ⟨hevolves.sound, ?_, h.outcomes_found hevolves hf.outcomes⟩
  -- the row that moves is fresh, or a recovery moves it with care
  cases h with
  | quiet same =>
    intro r hr hrole
    rw [show s'.providerAttempts = s.providerAttempts from congrArg Tables.attempts same] at hr
    exact (hf.workers r hr hrole).congr (hsame same rfl _)
  | @prepared identity c request lease observed number p absent wellFormed rows frame =>
    intro r hr hrole
    rw [rows, List.mem_append, List.mem_singleton] at hr
    rcases hr with hr | rfl
    · exact (hf.workers r hr hrole).congr (hsame frame rfl _)
    · refine .fresh ⟨nofun, nofun⟩ ((hsame frame rfl _).trans ?_)
      by_contra hsome
      exact hf.outcomes request.attemptId hsome absent
  | claimed row found untouched rows frame =>
    intro r hr hrole
    rw [show s'.providerAttempts = s.providerAttempts from congrArg Tables.attempts frame] at hr
    exact (hf.workers r hr hrole).congr (hsame frame rfl _)
  | opened row state was moved rows frame =>
    refine moved.workers hf.workers (fun hrole => ?_) fun _ _ => hsame frame rfl _
    exact .fresh ((hkept moved hrole).live) ((hsame frame rfl _).trans ((hkept moved hrole).unsettled (.inl state)))
  | dispatched row state opened checkpointed moved frame =>
    refine moved.workers hf.workers (fun hrole => ?_) fun _ _ => hsame frame rfl _
    exact .fresh ⟨nofun, nofun⟩ ((hsame frame rfl _).trans ((hkept moved hrole).unsettled (.inl state)))
  | completed row state moved frame =>
    refine moved.workers hf.workers (fun hrole => ?_) fun _ _ => hsame frame rfl _
    exact .fresh ⟨nofun, nofun⟩ ((hsame frame rfl _).trans ((hkept moved hrole).unsettled (.inr state)))
  | rejected row state moved frame =>
    refine moved.workers hf.workers (fun hrole => ?_) fun _ _ => hsame frame rfl _
    exact .fresh ⟨nofun, nofun⟩ ((hsame frame rfl _).trans ((hkept moved hrole).unsettled (.inr state)))
  | accepted row role state moved frame =>
    refine moved.workers hf.workers (fun hrole => ?_) fun _ _ => hsame frame rfl _
    exact nomatch role.symm.trans hrole
  | settled row state outcome role unaccepted settles moved persisted frame =>
    refine moved.workers hf.workers (fun hrole => ?_) fun _ hne => persisted.outcome?_other hne
    exact nomatch role.symm.trans hrole
  | recovered row d task attempt decision moved persisted ended frame =>
    refine moved.workers hf.workers (fun hrole => ?_) (outcome?_others persisted)
    have hworker : row.role = .worker := by
      rw [← hrole]
      unfold AttemptRow.revalidated
      split <;> rfl
    rw [row.revalidated_of_unaccepted (hkept moved hworker).live.1]
    refine (hkept moved hworker).recovered (hsound moved)
      (recoveryDecision_worker decision hworker (hsound moved) (hkept moved hworker)) (fun hsome => ?_) persisted
    rw [attempt, hcareful row (attempt ▸ moved.found) hworker hsome]
    nofun

/-! ## What an abandonment leaves behind -/

/-- A decision that abandons an attempt without completion evidence. -/
theorem Abandoned.of_abandons (hrole : row.role = .worker)
    (hevidence : row.completionEvidenceFingerprint = none) (h : Abandons s row d)
    (hmoved : Moved s s' row { row with state := d.next.getD row.state })
    (hpersisted : (d.blocker = none ∧ s'.recoveryOutcomes = s.recoveryOutcomes) ∨
      (d.blocker ≠ none ∧ Persisted s s' row.attemptId ⟨d.action, d.blocker⟩)) :
    Abandoned s' row.attemptId { row with state := d.next.getD row.state } := by
  refine ⟨hmoved.attempt?, hrole, h.state, hevidence, ⟨d.action, d.blocker⟩, ?_, h.terminal⟩
  rcases hpersisted with ⟨hblocker, hsame⟩ | ⟨-, hpersisted⟩
  · rw [recoveryOutcome?_congr hsame]
    exact h.outcome.resolve_left fun hne => hne hblocker
  · exact hpersisted.outcome?

theorem evidenceDecision_not_terminal (row : AttemptRow) (verified : Bool) :
    terminalWorkerAbandonment (evidenceDecision row verified).action (evidenceDecision row verified).blocker = false := by
  cases verified <;> rfl

theorem WorkerDecision.abandoned (h : WorkerDecision s row drifted d)
    (hcareful : row.completionEvidenceFingerprint ≠ none → ¬ drifted)
    (hterminal : terminalWorkerAbandonment d.action d.blocker = true) :
    row.completionEvidenceFingerprint = none ∧ Abandons s row d := by
  cases h with
  | waits state action blocker next =>
    rcases action with haction | haction <;> simp [terminalWorkerAbandonment, haction] at hterminal
  | verifies evidence matched verified decision =>
    rw [decision, evidenceDecision_not_terminal] at hterminal
    cases hterminal
  | abandons evidence abandons =>
    refine ⟨?_, abandons⟩
    by_contra hsome
    exact hcareful hsome (evidence.resolve_left hsome)

theorem recoverAttempt_ok {request : RecoverRequest} {lease : Option TransitionLease}
    {observed : Int} {p : RecoveryProjection} (h : recoverAttempt host identity c request lease observed s = (.ok p, s')) :
    recover host identity c request lease observed s = (.ok p, s') := by
  simp only [recoverAttempt, Tx.check_bind, exists_unit] at h
  obtain ⟨-, -, h⟩ := h
  obtain ⟨_, -, h⟩ := Tx.check_bind.1 h
  exact transaction_ok.1 h

section Recovered

variable {identity : TaskIdentity} {c : RecoveryContext} {request : RecoverRequest} {lease : Option TransitionLease}
  {observed : Int} {p : RecoveryProjection}

theorem recoverAttempt_abandons (h : recoverAttempt host identity c request lease observed s = (.ok p, s'))
    (hcareful : Careful s (.recover identity c request lease observed)) (hf : Followed s) (hrole : p.role = .worker)
    (hterminal : terminalWorkerAbandonment p.nextAction p.blocker = true) : ∃ row, Abandoned s' request.attemptId row := by
  obtain ⟨row, d, hfound, htask, hdecision, row', happly, rfl⟩ := recover_ok (recoverAttempt_ok h)
  obtain ⟨hmem, hid⟩ := providerAttempt?_eq_some.1 hfound
  obtain ⟨rfl, hmoved, hpersisted, -, -⟩ := applyDecision_ok happly (by rw [hid]; exact hfound)
  have hworker : row.role = .worker := by
    rw [← hrole]
    show row.role = row.revalidated.role
    unfold AttemptRow.revalidated
    split <;> rfl
  have hkept := hf.workers row hmem hworker
  rw [row.revalidated_of_unaccepted hkept.live.1] at hmoved
  obtain ⟨hevidence, habandons⟩ := (recoveryDecision_worker hdecision hworker (hf.sound row hmem) hkept).abandoned
    (fun hsome => by rw [hid, hcareful row hfound hworker hsome]; nofun) hterminal
  rw [← hid]
  exact ⟨_, .of_abandons hworker hevidence habandons hmoved hpersisted⟩

theorem Abandoned.recovery (habandoned : Abandoned s request.attemptId row)
    (h : recoverAttempt host identity c request lease observed s = (.ok p, s')) :
    terminalWorkerAbandonment p.nextAction p.blocker = true := by
  obtain ⟨row', d, hfound, -, hdecision, _, -, rfl⟩ := recover_ok (recoverAttempt_ok h)
  rw [habandoned.found] at hfound
  cases hfound
  exact (habandoned.decision hdecision).terminal

end Recovered

/-! ## Cancelled objectives -/

theorem ObjectiveRow.objectiveId_key : Table.IsKey ObjectiveRow.clash (·.objectiveId) := by
  intro a b h
  simp [ObjectiveRow.clash, show a.objectiveId = b.objectiveId from h]

theorem Ended.cancelled {taskId attemptId reason reason' : String} {o : ObjectiveRow}
    (h : Ended s s' taskId attemptId reason) (ho : o ∈ s'.objectives.rows) (hstate : o.state = .cancelled reason') :
    o ∈ s.objectives.rows ∨ o.identity.providerAttemptId = attemptId := by
  rcases h with hsame | ⟨old, hold, -, hset⟩
  · rw [hsame] at ho
    exact .inl ho
  · rw [hset, setObjective, Table.update_rows, List.mem_map] at ho
    obtain ⟨r, hr, rfl⟩ := ho
    split
    · rename_i hid
      have hfound := List.find?_some hold
      simp only [decide_eq_true_eq] at hfound
      rw [Table.eq_of_key ObjectiveRow.objectiveId_key hr (List.mem_of_find?_eq_some hold) hid]
      exact .inr hfound.2
    · exact .inl hr

/-- Every cancelled objective belongs to an abandoned attempt. -/
def CancelledAbandoned (s : Store) : Prop :=
  ∀ o ∈ s.objectives.rows, ∀ reason, o.state = .cancelled reason → ∃ row, Abandoned s o.identity.providerAttemptId row

/-- Where the recovery of an attempt may be cancelled without one, its completion evidence is gone for good. -/
theorem requireAbandonment_abandoned {taskId attemptId reason : String}
    (h : requireAbandonment s taskId attemptId reason = .ok ()) (hf : Followed s) : ∃ row, Abandoned s attemptId row := by
  simp only [requireAbandonment, bind_eq_ok, exists_unit, refuse_eq_ok, demand_eq_ok, not_or, not_and_or, not_not] at h
  obtain ⟨-, row, hfound, o, ho, ⟨hrole, hstate, haction, -⟩, hrecoverable⟩ := h
  obtain ⟨hfound, -⟩ := taskAttempt?_eq_some.1 hfound
  obtain ⟨hmem, hid⟩ := providerAttempt?_eq_some.1 hfound
  have hkept := hf.workers row hmem hrole
  have hevidence : row.completionEvidenceFingerprint = none := by
    by_contra hsome
    have hstates := (hf.sound row hmem).output ((hf.sound row hmem).evidence hsome)
    have hunverified := hkept.recoverable hsome o (hid ▸ ho)
    rcases hrecoverable with hambiguous | hother
    · rcases hstate with hblocked | hambiguous'
      · rw [hblocked] at hstates
        simp at hstates
      · exact hambiguous hambiguous'
    · exact hother hunverified
  exact ⟨row, hfound, hrole, hstate, hevidence, o, ho, hkept.terminal hevidence o (hid ▸ ho)⟩

theorem Abandoned.of_tables (h : Abandoned s attemptId row)
    (hattempts : s'.providerAttempts = s.providerAttempts) (houtcomes : s'.recoveryOutcomes = s.recoveryOutcomes) :
    Abandoned s' attemptId row := by
  refine h.congr ?_ fun o ho => (recoveryOutcome?_congr houtcomes attemptId).trans ho
  unfold Store.providerAttempt?
  rw [hattempts]
  exact h.found

theorem Followed.of_tables (h : Followed s) (hattempts : s'.providerAttempts = s.providerAttempts)
    (houtcomes : s'.recoveryOutcomes = s.recoveryOutcomes) : Followed s' := by
  refine ⟨fun r hr => h.sound r (hattempts ▸ hr), fun r hr hrole => ?_, fun attemptId hsome => ?_⟩
  · exact (h.workers r (hattempts ▸ hr) hrole).congr (recoveryOutcome?_congr houtcomes r.attemptId)
  · rw [recoveryOutcome?_congr houtcomes] at hsome
    unfold Store.providerAttempt?
    rw [hattempts]
    exact h.outcomes attemptId hsome

theorem CancelledAbandoned.effect (h : CancelledAbandoned s) (heffect : Effect host s s' call)
    (hcareful : Careful s call) (hf : Followed s) : CancelledAbandoned s' := by
  have hkept : ∀ {o : ObjectiveRow} {reason : String}, o ∈ s.objectives.rows → o.state = .cancelled reason →
      ∃ row, Abandoned s' o.identity.providerAttemptId row := by
    intro o reason ho hstate
    obtain ⟨row, habandoned⟩ := h o ho reason hstate
    exact habandoned.effect heffect
  have hsame : s'.objectives = s.objectives → CancelledAbandoned s' := by
    intro hobjectives o ho reason hstate
    exact hkept (hobjectives ▸ ho) hstate
  cases heffect with
  | quiet same => exact hsame (congrArg Tables.objectives same)
  | prepared number p absent wellFormed rows frame => exact hsame (congrArg Tables.objectives frame)
  | claimed row found untouched rows frame => exact hsame (congrArg Tables.objectives frame)
  | opened row state was moved rows frame => exact hsame (congrArg Tables.objectives frame)
  | dispatched row state opened checkpointed moved frame => exact hsame (congrArg Tables.objectives frame)
  | completed row state moved frame => exact hsame (congrArg Tables.objectives frame)
  | rejected row state moved frame => exact hsame (congrArg Tables.objectives frame)
  | accepted row role state moved frame => exact hsame (congrArg Tables.objectives frame)
  | settled row state outcome role unaccepted settles moved persisted frame => exact hsame (congrArg Tables.objectives frame)
  | recovered row d task attempt decision moved persisted ended frame =>
    rcases ended with hobjectives | ⟨hrole, hterminal, hended⟩
    · exact hsame hobjectives
    · intro o ho reason hstate
      rcases hended.cancelled ho hstate with hbefore | hattempt
      · exact hkept hbefore hstate
      · obtain ⟨hmem, -⟩ := providerAttempt?_eq_some.1 moved.found
        have hworker := hf.workers row hmem hrole
        rw [row.revalidated_of_unaccepted hworker.live.1] at moved
        obtain ⟨hevidence, habandons⟩ := (recoveryDecision_worker decision hrole (hf.sound row hmem) hworker).abandoned
          (fun hsome => by rw [attempt, hcareful row (attempt ▸ moved.found) hrole hsome]; nofun) hterminal
        rw [hattempt]
        exact ⟨_, .of_abandons hrole hevidence habandons moved persisted⟩

/-! ## Runs -/

inductive Act where
  | provider (call : Call)
  | objective (call : ObjectiveCall)

/-- A step of a run: a permitted call, or anything that leaves the attempts with their outcomes and objectives alone. -/
inductive WorkerStep (host : Host) (permits : Store → Act → Prop) (s s' : Store) : Prop where
  | provider (call : Call) (permitted : permits s (.provider call)) (ran : s' = (call.run host s).2)
  | objective (call : ObjectiveCall) (permitted : permits s (.objective call)) (ran : s' = (call.run host s).2)
  | aside (same : tables s' = tables s)

def WorkerRun (host : Host) (permits : Store → Act → Prop) : Store → Store → Prop := Relation.ReflTransGen (WorkerStep host permits)

/-- The calls of a run in which recovery respects completion evidence; `cancel_objective` may be excluded too. -/
def Respectful (cancels : Prop) (s : Store) : Act → Prop
  | .provider call => Careful s call
  | .objective (.terminal _ _ (.cancel _) _ _) => cancels
  | .objective _ => True

/-- A database without attempts and objectives. -/
structure Unused (s : Store) : Prop where
  attempts : s.providerAttempts.rows = []
  outcomes : s.recoveryOutcomes.rows = []
  objectives : s.objectives.rows = []

theorem Unused.followed (h : Unused s) : Followed s := by
  have hnone : ∀ r, r ∉ s.providerAttempts.rows := fun r => by rw [h.attempts]; exact List.not_mem_nil
  refine ⟨fun r hr => absurd hr (hnone r), fun r hr => absurd hr (hnone r), fun attemptId hsome => absurd ?_ hsome⟩
  unfold Store.recoveryOutcome?
  rw [h.outcomes]
  rfl

section Runs

variable {cancels : Prop}

theorem ObjectiveEffect.frame {call : ObjectiveCall} (h : ObjectiveEffect s s' call) :
    s'.providerAttempts = s.providerAttempts ∧ s'.recoveryOutcomes = s.recoveryOutcomes := by
  cases h with
  | quiet same => exact ⟨congrArg Tables.attempts same, congrArg Tables.outcomes same⟩
  | started rows frame => exact ⟨congrArg Tables.attempts frame, congrArg Tables.outcomes frame⟩
  | ended set frame => exact ⟨congrArg Tables.attempts frame, congrArg Tables.outcomes frame⟩
  | cancelled abandoned ended frame => exact ⟨congrArg Tables.attempts frame, congrArg Tables.outcomes frame⟩

variable {permits : Store → Act → Prop}

/-- A step leaves the tables alone, or has one of the effects of its call. -/
theorem WorkerStep.cases (h : WorkerStep host permits s s') :
    tables s' = tables s ∨ (∃ call, permits s (.provider call) ∧ Effect host s s' call) ∨
      ∃ call, permits s (.objective call) ∧ ObjectiveEffect s s' call := by
  cases h with
  | provider call permitted ran =>
    rcases call.effect s with hsame | heffect
    · exact .inl (by rw [ran, hsame])
    · exact .inr (.inl ⟨call, permitted, ran ▸ heffect⟩)
  | objective call permitted ran =>
    rcases call.effect s with hsame | heffect
    · exact .inl (by rw [ran, hsame])
    · exact .inr (.inr ⟨call, permitted, ran ▸ heffect⟩)
  | aside same => exact .inl same

theorem WorkerStep.recovered {request : RecoverRequest}
    {lease : Option TransitionLease} {observed : Int} {p : RecoveryProjection}
    (h : recoverAttempt host identity c request lease observed s = (.ok p, s'))
    (permitted : permits s (.provider (.recover identity c request lease observed))) : WorkerStep host permits s s' := by
  refine .provider (.recover identity c request lease observed) permitted ?_
  have hrun : (Call.recover identity c request lease observed).run host s = (.ok (.recovery p), s') :=
    Tx.map_ok.2 ⟨p, h, rfl⟩
  rw [hrun]

theorem WorkerStep.followed (h : WorkerStep host (Respectful cancels) s s') (hf : Followed s) : Followed s' := by
  rcases h.cases with hsame | ⟨call, hcareful, heffect⟩ | ⟨call, -, heffect⟩
  · exact hf.of_tables (congrArg Tables.attempts hsame) (congrArg Tables.outcomes hsame)
  · exact heffect.followed hcareful hf
  · exact hf.of_tables heffect.frame.1 heffect.frame.2

theorem WorkerStep.abandoned (h : WorkerStep host permits s s') {attemptId : String}
    (habandoned : ∃ row, Abandoned s attemptId row) : ∃ row, Abandoned s' attemptId row := by
  obtain ⟨row, habandoned⟩ := habandoned
  rcases h.cases with hsame | ⟨call, -, heffect⟩ | ⟨call, -, heffect⟩
  · exact ⟨row, habandoned.of_tables (congrArg Tables.attempts hsame) (congrArg Tables.outcomes hsame)⟩
  · exact habandoned.effect heffect
  · exact ⟨row, habandoned.of_tables heffect.frame.1 heffect.frame.2⟩

theorem CancelledAbandoned.objective {call : ObjectiveCall} (h : CancelledAbandoned s)
    (heffect : ObjectiveEffect s s' call) (hallowed : Respectful False s (.objective call)) (hf : Followed s) :
    CancelledAbandoned s' := by
  obtain ⟨hattempts, houtcomes⟩ := heffect.frame
  have hkept : ∀ {o : ObjectiveRow} {reason : String}, o ∈ s.objectives.rows → o.state = .cancelled reason →
      ∃ row, Abandoned s' o.identity.providerAttemptId row := by
    intro o reason ho hstate
    obtain ⟨row, habandoned⟩ := h o ho reason hstate
    exact ⟨row, habandoned.of_tables hattempts houtcomes⟩
  intro o ho reason hstate
  cases heffect with
  | quiet same =>
    have hobjectives : s'.objectives = s.objectives := congrArg Tables.objectives same
    exact hkept (hobjectives ▸ ho) hstate
  | started rows frame =>
    rw [rows, List.mem_append, List.mem_singleton] at ho
    rcases ho with ho | rfl
    · exact hkept ho hstate
    · cases hstate
  | @ended identity objective ending lease now set frame =>
    cases ending with
    | cancel _ => exact hallowed.elim
    | complete result =>
      rw [set, setObjective, Table.update_rows, List.mem_map] at ho
      obtain ⟨r, hr, rfl⟩ := ho
      split at hstate
      · cases hstate
      · rename_i hne
        rw [if_neg hne]
        exact hkept hr hstate
  | cancelled abandoned ended frame =>
    rcases ended.cancelled ho hstate with hbefore | hattempt
    · exact hkept hbefore hstate
    · obtain ⟨row, hrow⟩ := requireAbandonment_abandoned abandoned hf
      rw [hattempt]
      exact ⟨row, hrow.of_tables hattempts houtcomes⟩

theorem WorkerStep.objectives (h : WorkerStep host (Respectful False) s s') (hf : Followed s) (ho : CancelledAbandoned s) :
    CancelledAbandoned s' := by
  rcases h.cases with hsame | ⟨call, hcareful, heffect⟩ | ⟨call, hallowed, heffect⟩
  · intro o hmem reason hstate
    have hobjectives : s'.objectives = s.objectives := congrArg Tables.objectives hsame
    obtain ⟨row, habandoned⟩ := ho o (hobjectives ▸ hmem) reason hstate
    exact ⟨row, habandoned.of_tables (congrArg Tables.attempts hsame) (congrArg Tables.outcomes hsame)⟩
  · exact ho.effect heffect hcareful hf
  · exact ho.objective heffect hallowed hf

/-! ## The end of a Worker attempt -/

/-- Recovery has nothing left to go on with. -/
structure Final (host : Host) (s : Store) (attemptId : String) : Prop where
  state : ∀ row, s.providerAttempt? attemptId = some row → row.state ≠ .completed
  recovery : ∀ identity c request lease observed p s', request.attemptId = attemptId →
    recoverAttempt host identity c request lease observed s = (.ok p, s') →
    p.nextAction ≠ .consumeVerifiedOutput ∧ p.nextAction ≠ .resumeSameSession ∧ p.nextAction ≠ .retry

/-- The output of an attempt waits for its consumption. -/
def AttemptRow.consumable (row : AttemptRow) : Prop :=
  (row.state = .completed ∨ row.state = .ambiguous) ∧ row.completionEvidenceFingerprint ≠ none

/-- No cancelled objective belongs to an attempt with output to consume. -/
def CancelledSpent (s : Store) : Prop :=
  ∀ o ∈ s.objectives.rows, ∀ reason, o.state = .cancelled reason →
    ∀ row, s.providerAttempt? o.identity.providerAttemptId = some row → ¬ row.consumable

theorem CancelledAbandoned.spent (h : CancelledAbandoned s) : CancelledSpent s := by
  intro o ho reason hstate row hfound hconsumable
  obtain ⟨row', habandoned⟩ := h o ho reason hstate
  rw [habandoned.found] at hfound
  cases hfound
  exact hconsumable.2 habandoned.evidence

theorem Abandoned.final {attemptId : String} (h : Abandoned s attemptId row) : Final host s attemptId := by
  refine ⟨fun row' hfound hcompleted => ?_, fun identity c request lease observed p s' hid hrecovered => ?_⟩
  · rw [h.found] at hfound
    cases hfound
    rcases h.state with hstate | hstate <;> rw [hcompleted] at hstate <;> cases hstate
  · subst hid
    have hterminal := h.recovery hrecovered
    refine ⟨?_, ?_, ?_⟩ <;> intro haction <;> simp [terminalWorkerAbandonment, haction] at hterminal

/-- Worker abandonment is final. From a database without attempts let steps lead to `s`, where the recovery of a Worker
attempt answers with an abandonment, and let any more lead to `u`. If no recovery of the run presents another
context than the persisted one for a Worker that holds completion evidence, then the attempt is not completed in
`u` and no recovery of it answers with its output, its session or a retry. If the run has no `cancel_objective`
either, no cancelled objective belongs to an attempt with output to consume. -/
theorem worker_abandonment_final {start s t u : Store} {identity : TaskIdentity} {c : RecoveryContext}
    {request : RecoverRequest} {lease : Option TransitionLease} {observed : Int} {p : RecoveryProjection}
    (unused : Unused start) (before : WorkerRun host (Respectful cancels) start s)
    (careful : Careful s (.recover identity c request lease observed))
    (recovered : recoverAttempt host identity c request lease observed s = (.ok p, t)) (worker : p.role = .worker)
    (abandoned : terminalWorkerAbandonment p.nextAction p.blocker = true) (after : WorkerRun host (Respectful cancels) t u) :
    Final host u request.attemptId ∧ (¬ cancels → CancelledSpent u) := by
  have hs : Followed s := run_induction (fun _ _ hstep => hstep.followed) before unused.followed
  have habandoned : ∃ row, Abandoned u request.attemptId row :=
    run_induction (P := fun s => ∃ row, Abandoned s request.attemptId row) (fun _ _ hstep => hstep.abandoned) after
      (recoverAttempt_abandons recovered careful hs worker abandoned)
  obtain ⟨row, hrow⟩ := habandoned
  refine ⟨hrow.final, fun hcancels => ?_⟩
  rw [eq_false hcancels] at before after
  have hall : WorkerRun host (Respectful False) start u := (before.tail (.recovered recovered careful)).trans after
  have hnone : CancelledAbandoned start := by
    intro o ho
    rw [unused.objectives] at ho
    cases ho
  have hkept : Followed u ∧ CancelledAbandoned u :=
    run_induction (P := fun s => Followed s ∧ CancelledAbandoned s)
      (fun _ _ hstep h => ⟨hstep.followed h.1, hstep.objectives h.1 h.2⟩) hall ⟨unused.followed, hnone⟩
  exact hkept.2.spent

end Runs

namespace Sample

theorem unused_start : Unused start := ⟨rfl, rfl, rfl⟩

/-- The calls of the sample, under any permission that they have. -/
theorem worker_run_completed : WorkerRun .sample (fun _ _ => True) start completed.1 :=
  .tail (.tail (.tail (.single (.provider _ trivial prepared.2)) (.provider _ trivial opened.2))
    (.provider _ trivial dispatched.2)) (.provider _ trivial completed.2)

end Sample

theorem worker_abandonment_final_limited :
    let t := (Sample.recovery Sample.worker none 1 Sample.prepared.1).2
    Final .sample t "attempt" ∧ CancelledSpent t := by
  obtain ⟨-, hevidence, hlimited, -⟩ := Sample.course
  obtain ⟨p, hrecovered, hrole, haction, hblocker⟩ := Sample.answered_eq_some hlimited
  have hrun : WorkerRun .sample (Respectful False) Sample.start Sample.prepared.1 :=
    .single (.provider (.prepare Sample.identity Sample.worker Sample.request (some Sample.lease) 10) trivial Sample.prepared.2)
  have hcareful : Careful Sample.prepared.1
      (.recover Sample.identity Sample.worker ⟨"attempt", none, 1⟩ (some Sample.lease) 10) := by
    intro row hfound _ hsome
    rw [hfound] at hevidence
    exact absurd (Option.some.inj hevidence) hsome
  have hfinal := worker_abandonment_final Sample.unused_start hrun hcareful hrecovered hrole (by rw [haction, hblocker]; rfl) .refl
  exact ⟨hfinal.1, hfinal.2 not_false⟩

/-- The output of a completed attempt that was abandoned for another deployment is consumed after all. -/
theorem worker_abandonment_consumed :
    ¬ ∀ (start s t u : Store) (identity : TaskIdentity) (c : RecoveryContext) (request : RecoverRequest)
      (lease : Option TransitionLease) (observed : Int) (p : RecoveryProjection), Unused start →
      WorkerRun .sample (fun _ _ => True) start s → recoverAttempt .sample identity c request lease observed s = (.ok p, t) →
      p.role = .worker → terminalWorkerAbandonment p.nextAction p.blocker = true → WorkerRun .sample (fun _ _ => True) t u →
      Final .sample u request.attemptId ∧ CancelledSpent u := by
  intro hclaim
  obtain ⟨-, -, -, hdrifted, hconsumed, -⟩ := Sample.course
  obtain ⟨p, hrecovered, hrole, haction, hblocker⟩ := Sample.answered_eq_some hdrifted
  obtain ⟨p', hagain, -, haction', -⟩ := Sample.answered_eq_some hconsumed
  have hfinal := (hclaim Sample.start Sample.completed.1 _ _ Sample.identity Sample.drifted ⟨"attempt", none, 3⟩
    (some Sample.lease) 10 p Sample.unused_start Sample.worker_run_completed hrecovered hrole
      (by rw [haction, hblocker]; rfl) .refl).1
  have hother := hfinal.recovery Sample.identity Sample.worker ⟨"attempt", some (Sample.text 8), 3⟩
    (some Sample.lease) 10 p' _ rfl hagain
  exact hother.1 haction'

end Roundwright.Provider
