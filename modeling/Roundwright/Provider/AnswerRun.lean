/-
Recovery over whole runs. What `Recoverable` says of a row is kept by every provider operation, by the operations on
objectives and by the reviews that accept an attempt or withdraw its acceptance, so recovery answers for every
attempt a run leads to, wherever the state before the call lets it.
-/
import Roundwright.Provider.Answer

namespace Roundwright.Provider

open Lib State Recovery

variable {host : Host} {s s' : Store}

/-! ## Runs -/

/-- What holds of the attempts in every run. -/
structure Runnable (s : Store) : Prop where
  rows : ∀ r ∈ s.providerAttempts.rows, Recoverable s r
  outcomes : ∀ attemptId, s.recoveryOutcome? attemptId ≠ none → s.providerAttempt? attemptId ≠ none

variable {row : AttemptRow}

theorem Recoverable.congr (h : Recoverable s row)
    (houtcome : s'.recoveryOutcome? row.attemptId = s.recoveryOutcome? row.attemptId) : Recoverable s' row :=
  ⟨h.wellFormed, h.sound, fun hstate => houtcome.trans (h.unsettled hstate),
    fun hstate => by rw [houtcome]; exact h.blocked hstate, h.worker, fun hrole o ho => h.outcome hrole o (houtcome ▸ ho)⟩

/-- A row whose attempt has no outcome and is not at rest. -/
theorem Recoverable.fresh (hwellFormed : row.wellFormed = true) (hsound : Sound row)
    (hblocked : row.state ≠ .blocked) (hworker : row.role = .worker → row.state ≠ .accepted ∧ row.state ≠ .invalidated)
    (houtcome : s.recoveryOutcome? row.attemptId = none) : Recoverable s row := by
  refine ⟨hwellFormed, hsound, fun _ => houtcome, fun h => absurd h hblocked, hworker, fun _ o ho => ?_⟩
  rw [houtcome] at ho
  cases ho

/-- One attempt has moved, and the others have kept their rows and outcomes. -/
theorem Moved.recoverable {row row' : AttemptRow} (h : Moved s s' row row')
    (hrows : ∀ r ∈ s.providerAttempts.rows, Recoverable s r) (hrow : Recoverable s' row')
    (houtcomes : ∀ attemptId, attemptId ≠ row.attemptId → s'.recoveryOutcome? attemptId = s.recoveryOutcome? attemptId) :
    ∀ r ∈ s'.providerAttempts.rows, Recoverable s' r :=
  h.each hrow fun r hr hid => (hrows r hr).congr (houtcomes r.attemptId hid)

theorem recoveryDecision_cases {identity : TaskIdentity} {c : RecoveryContext} {verified : Option String}
    {maxAttempts observed : Int} {d : RecoveryDecision} (h : Recoverable s row)
    (hdecision : recoveryDecision host s identity c row verified maxAttempts observed = .ok d) :
    d = identityDrift row ∨ Verdict s row (verified = row.completionEvidenceFingerprint) d := by
  unfold recoveryDecision at hdecision
  split at hdecision
  · right
    simp only [matchedDecision, bind_eq_ok] at hdecision
    obtain ⟨-, -, sealed, -, -, -, -, -, hdecision⟩ := hdecision
    split at hdecision
    · rename_i hprepared
      cases hdecision
      have hblocked : abandonmentState row = .blocked := if_neg (not_not.2 (h.sound.prepared hprepared.1).1)
      refine .stops (.fresh h (.inl hprepared.1) rfl (Option.some_ne_none _) (.inl hblocked) fun _ => ?_)
      exact (by decide : Outcome.cancels ⟨.blockedAmbiguousTurn, some "session-checkpoint-unavailable"⟩)
    · obtain ⟨d', hd', hverdict⟩ := recoveryOutcome_verdict verified maxAttempts observed h
      rw [hdecision, Except.ok.injEq] at hd'
      rw [hd']
      exact hverdict
  · left
    exact (Except.ok.inj hdecision).symm

/-- The row of an attempt after its recovery. -/
theorem Recoverable.recovered {d : RecoveryDecision} {verified : Bool} (h : Recoverable s row)
    (hdecision : d = identityDrift row ∨ Verdict s row verified d) (hmoved : Moved s s' row (row.after d))
    (hsound : Sound (row.after d)) (hpersisted : (d.blocker = none ∧ s'.recoveryOutcomes = s.recoveryOutcomes) ∨
      (d.blocker ≠ none ∧ Persisted s s' row.attemptId ⟨d.action, d.blocker⟩)) : Recoverable s' (row.after d) := by
  have hwellFormed := hmoved.wellFormed h.wellFormed
  have hstored : (d.blocker ≠ none ∨ s.recoveryOutcome? row.attemptId = some ⟨d.action, d.blocker⟩) →
      s'.recoveryOutcome? (row.after d).attemptId = some ⟨d.action, d.blocker⟩ := by
    intro hstored
    rw [row.after_attemptId]
    rcases hpersisted with ⟨hblocker, hsame⟩ | ⟨-, hpersisted⟩
    · rw [recoveryOutcome?_congr hsame]
      exact hstored.resolve_left fun hne => hne hblocker
    · exact hpersisted.outcome?
  have hevidence : (row.after d).completionEvidenceFingerprint = row.completionEvidenceFingerprint := by
    obtain ⟨state, review, hafter⟩ := row.after_eq d
    rw [hafter]
  -- an attempt at rest, with its outcome
  have hrest : ((row.after d).state = .blocked ∨ (row.after d).state = .invalidated ∨ (row.after d).state = .ambiguous) →
      s'.recoveryOutcome? (row.after d).attemptId = some ⟨d.action, d.blocker⟩ →
      (row.role = .worker → (row.after d).state ≠ .invalidated ∧ Outcome.cancels ⟨d.action, d.blocker⟩) →
      Recoverable s' (row.after d) := by
    intro hstate houtcome hworker
    refine ⟨hwellFormed, hsound, fun hopen => ?_,
      fun _ => by rw [houtcome]; exact Option.some_ne_none _, fun hrole => ⟨?_, ?_⟩, fun hrole o ho => ?_⟩
    · rcases hstate with hstate | hstate | hstate <;> rw [hstate] at hopen <;> simp at hopen
    · rcases hstate with hstate | hstate | hstate <;> rw [hstate] <;> decide
    · exact (hworker ((row.after_role d).symm.trans hrole)).1
    · rw [houtcome] at ho
      cases ho
      exact .inl (hworker ((row.after_role d).symm.trans hrole)).2
  rcases hdecision with rfl | hverdict
  · have hstate : (row.after (identityDrift row)).state = abandonmentState row := rfl
    refine hrest ?_ (hstored (.inl (Option.some_ne_none _))) fun _ => ⟨?_, (by decide : driftOutcome.cancels)⟩
    · rw [hstate]
      exact (abandonmentState_cases row).imp_right .inr
    · rw [hstate]
      rcases abandonmentState_cases row with hcase | hcase <;> rw [hcase] <;> decide
  · cases hverdict with
    | waits state blocker next action =>
      have hrow : row.after d = row := AttemptRow.after_self (by rw [state]; decide) (by rw [next]; rfl)
      rw [hrow]
      rcases hpersisted with ⟨-, hsame⟩ | ⟨hsome, -⟩
      · exact h.congr (recoveryOutcome?_congr hsame _)
      · exact absurd blocker hsome
    | reviewed state fresh decision =>
      subst decision
      have hrow : row.after ⟨.acceptedReview, none, none⟩ = row := by
        rw [AttemptRow.after, AttemptRow.revalidated, if_neg (by rw [fresh]; decide)]
        rfl
      rw [hrow]
      rcases hpersisted with ⟨-, hsame⟩ | ⟨hsome, -⟩
      · exact h.congr (recoveryOutcome?_congr hsame _)
      · exact absurd rfl hsome
    | verifies evidence state decision =>
      subst decision
      have hunaccepted : row.state ≠ .accepted := by
        rcases state with hstate | hstate <;> rw [hstate] <;> decide
      have hnext : (row.after (evidenceDecision row verified)).state = .completed ∨
          (row.after (evidenceDecision row verified)).state = .ambiguous := by
        rw [row.after_of_unaccepted hunaccepted]
        cases verified <;> rcases state with hstate | hstate <;> simp [evidenceDecision, hstate]
      refine ⟨hwellFormed, hsound, fun hopen => ?_, fun hblocked => ?_, fun _ => ?_, fun hrole o ho => ?_⟩
      · rcases hnext with hnext | hnext <;> rw [hnext] at hopen <;> simp at hopen
      · rcases hnext with hnext | hnext <;> rw [hnext] at hblocked <;> cases hblocked
      · rcases hnext with hnext | hnext <;> rw [hnext] <;> exact ⟨by decide, by decide⟩
      · rw [hevidence]
        rcases hpersisted with ⟨-, hsame⟩ | ⟨hsome, hpersisted⟩
        · rw [row.after_attemptId, recoveryOutcome?_congr hsame] at ho
          exact h.outcome ((row.after_role _).symm.trans hrole) o ho
        · cases verified with
          | true => exact absurd rfl hsome
          | false =>
            rw [row.after_attemptId, hpersisted.outcome?] at ho
            exact .inr ⟨(Option.some.inj ho).symm, evidence⟩
    | stops stops =>
      refine hrest (stops.rests.imp_right (Or.imp_right And.left)) (hstored stops.stored) fun hrole => ?_
      obtain ⟨-, hstate, hcancels⟩ := stops.worker hrole
      refine ⟨?_, hcancels⟩
      rcases hstate with hstate | hstate <;> rw [hstate] <;> decide

theorem Effect.runnable {call : Call} (h : Effect host s s' call) (hr : Runnable s) : Runnable s' := by
  have hevolves := h.evolves fun r hrow => (hr.rows r hrow).sound
  have hkept : ∀ {row row' : AttemptRow}, Moved s s' row row' → Recoverable s row := fun hm =>
    hr.rows _ (providerAttempt?_eq_some.1 hm.found).1
  have hsound : ∀ {row row' : AttemptRow}, Moved s s' row row' → Sound row' := fun hm =>
    hevolves.sound _ (providerAttempt?_eq_some.1 hm.attempt?).1
  have hsame : ∀ {t : Tables}, tables s' = t → t.outcomes = s.recoveryOutcomes → ∀ attemptId,
      s'.recoveryOutcome? attemptId = s.recoveryOutcome? attemptId := fun ht hframe =>
    recoveryOutcome?_congr ((congrArg Tables.outcomes ht).trans hframe)
  refine ⟨?_, h.outcomes_found hevolves hr.outcomes⟩
  -- the row that moves is judged by its next state; the others keep row and outcome
  cases h with
  | quiet same =>
    intro r hrow
    rw [show s'.providerAttempts = s.providerAttempts from congrArg Tables.attempts same] at hrow
    exact (hr.rows r hrow).congr (hsame same rfl _)
  | @prepared identity c request lease observed number p absent wellFormed rows frame =>
    intro r hrow
    rw [rows, List.mem_append, List.mem_singleton] at hrow
    rcases hrow with hrow | rfl
    · exact (hr.rows r hrow).congr (hsame frame rfl _)
    · refine .fresh wellFormed (preparedRow_sound _ _ _ _) nofun (fun _ => ⟨nofun, nofun⟩) ((hsame frame rfl _).trans ?_)
      by_contra hsome
      exact hr.outcomes request.attemptId hsome absent
  | claimed row found untouched rows frame =>
    intro r hrow
    rw [show s'.providerAttempts = s.providerAttempts from congrArg Tables.attempts frame] at hrow
    exact (hr.rows r hrow).congr (hsame frame rfl _)
  | opened row state was moved rows frame =>
    refine moved.recoverable hr.rows ?_ fun _ _ => hsame frame rfl _
    refine .fresh (moved.wellFormed (hkept moved).wellFormed) (hsound moved) (fun hblocked => ?_) (hkept moved).worker
      ((hsame frame rfl _).trans ((hkept moved).unsettled (.inl state)))
    exact nomatch state.symm.trans hblocked
  | dispatched row state opened checkpointed moved frame =>
    refine moved.recoverable hr.rows ?_ fun _ _ => hsame frame rfl _
    exact .fresh (moved.wellFormed (hkept moved).wellFormed) (hsound moved) nofun (fun _ => ⟨nofun, nofun⟩)
      ((hsame frame rfl _).trans ((hkept moved).unsettled (.inl state)))
  | completed row state moved frame =>
    refine moved.recoverable hr.rows ?_ fun _ _ => hsame frame rfl _
    exact .fresh (moved.wellFormed (hkept moved).wellFormed) (hsound moved) nofun (fun _ => ⟨nofun, nofun⟩)
      ((hsame frame rfl _).trans ((hkept moved).unsettled (.inr state)))
  | rejected row state moved frame =>
    refine moved.recoverable hr.rows ?_ fun _ _ => hsame frame rfl _
    exact .fresh (moved.wellFormed (hkept moved).wellFormed) (hsound moved) nofun (fun _ => ⟨nofun, nofun⟩)
      ((hsame frame rfl _).trans ((hkept moved).unsettled (.inr state)))
  | accepted row role state moved frame =>
    refine moved.recoverable hr.rows ?_ fun _ _ => hsame frame rfl _
    refine ⟨moved.wellFormed (hkept moved).wellFormed, hsound moved, nofun, nofun, fun hrole => ?_, fun hrole => ?_⟩
    · exact nomatch role.symm.trans hrole
    · exact nomatch role.symm.trans hrole
  | settled row state outcome role unaccepted settles moved persisted frame =>
    refine moved.recoverable hr.rows ?_ fun _ hne => persisted.outcome?_other hne
    refine ⟨moved.wellFormed (hkept moved).wellFormed, hsound moved, fun hopen => ?_, fun _ => ?_, fun hrole => ?_, fun hrole => ?_⟩
    · rcases settles with rfl | ⟨rfl, -⟩ <;> rcases hopen with hopen | hopen <;> cases hopen
    · rw [persisted.outcome?]
      nofun
    · exact nomatch role.symm.trans hrole
    · exact nomatch role.symm.trans hrole
  | recovered row d task attempt decision moved persisted ended frame =>
    refine moved.recoverable hr.rows ?_ (outcome?_others persisted)
    exact (hkept moved).recovered (recoveryDecision_cases (hkept moved) decision) moved (hsound moved) persisted

/-- What a review does to the attempt of its Supervisor: `_accept_diff_pass` and `_accept_pass_atomically` accept it,
and `_stale_diff_review_acceptance` and `record_candidate_verification` withdraw the acceptance. -/
inductive ReviewEffect (s s' : Store) : Prop where
  | accepts (row : AttemptRow) (review : String) (role : row.role = .supervisor) (state : row.state = .completed)
    (moved : Moved s s' row { row with acceptedReviewIdentity := some review, state := .accepted })
    (frame : tables s' = { tables s with attempts := s'.providerAttempts })
  | withdraws (row : AttemptRow) (state : row.state = .accepted)
    (moved : Moved s s' row { row with state := .invalidated, acceptedReviewIdentity := none })
    (frame : tables s' = { tables s with attempts := s'.providerAttempts })

/-- A step of the attempts: a call of the provider or objective operations, a review, or anything that leaves the
tables. -/
inductive ReviewedStep (host : Host) (s s' : Store) : Prop where
  | call (step : WorkerStep host (fun _ _ => True) s s')
  | review (effect : ReviewEffect s s')

def ReviewedRun (host : Host) : Store → Store → Prop := Relation.ReflTransGen (ReviewedStep host)

theorem Runnable.of_tables (h : Runnable s) (hattempts : s'.providerAttempts = s.providerAttempts)
    (houtcomes : s'.recoveryOutcomes = s.recoveryOutcomes) : Runnable s' := by
  refine ⟨fun r hrow => ?_, fun attemptId hsome => ?_⟩
  · rw [hattempts] at hrow
    exact (h.rows r hrow).congr (recoveryOutcome?_congr houtcomes _)
  · rw [recoveryOutcome?_congr houtcomes] at hsome
    unfold Store.providerAttempt?
    rw [hattempts]
    exact h.outcomes attemptId hsome

/-- A Supervisor has moved, and no outcome has changed. -/
theorem Runnable.of_moved {row row' : AttemptRow} (h : Runnable s) (hm : Moved s s' row row')
    (hrow : Recoverable s' row') (houtcomes : s'.recoveryOutcomes = s.recoveryOutcomes) : Runnable s' := by
  refine ⟨hm.recoverable h.rows hrow fun _ _ => recoveryOutcome?_congr houtcomes _, fun attemptId hsome => ?_⟩
  rw [recoveryOutcome?_congr houtcomes] at hsome
  by_cases hid : attemptId = row.attemptId
  · rw [hid, hm.attempt?]
    nofun
  · rw [hm.attempt?_other hid]
    exact h.outcomes attemptId hsome

theorem ReviewEffect.runnable (h : ReviewEffect s s') (hr : Runnable s) : Runnable s' := by
  cases h with
  | accepts row review role state moved frame =>
    have hrow := hr.rows row (providerAttempt?_eq_some.1 moved.found).1
    refine hr.of_moved moved ⟨moved.wellFormed hrow.wellFormed, ?_, nofun, nofun, fun hrole => ?_, fun hrole => ?_⟩
      (congrArg Tables.outcomes frame)
    · exact (RowStep.accepted (s := s) hrow.sound).sound
    · exact nomatch role.symm.trans hrole
    · exact nomatch role.symm.trans hrole
  | withdraws row state moved frame =>
    have hrow := hr.rows row (providerAttempt?_eq_some.1 moved.found).1
    have hworker : row.role ≠ .worker := fun hrole => (hrow.worker hrole).1 state
    refine hr.of_moved moved ⟨moved.wellFormed hrow.wellFormed, ?_, nofun, nofun, fun hrole => absurd hrole hworker,
      fun hrole => absurd hrole hworker⟩ (congrArg Tables.outcomes frame)
    exact (RowStep.restate (s := s) hrow.sound (show MovesTo row .invalidated from trivial)).sound

theorem ReviewedStep.runnable (h : ReviewedStep host s s') (hr : Runnable s) : Runnable s' := by
  cases h with
  | call step =>
    rcases step.cases with hsame | ⟨call, -, heffect⟩ | ⟨call, -, heffect⟩
    · exact hr.of_tables (congrArg Tables.attempts hsame) (congrArg Tables.outcomes hsame)
    · exact heffect.runnable hr
    · exact hr.of_tables heffect.frame.1 heffect.frame.2
  | review effect => exact effect.runnable hr

theorem Unused.runnable (h : Unused s) : Runnable s := by
  refine ⟨fun r hr => ?_, fun attemptId hsome => absurd ?_ hsome⟩
  · rw [h.attempts] at hr
    cases hr
  · unfold Store.recoveryOutcome?
    rw [h.outcomes]
    rfl

/-- Recovery answers and is idempotent. In every run from a database without attempts, a well-formed call of
`recover_attempt` for an attempt of the run returns a projection and a second one returns the same and changes nothing,
wherever the state before the call is settleable. -/
theorem recovery_answers {start s : Store} {identity : TaskIdentity} {c : RecoveryContext} {request : RecoverRequest}
    {lease : Option TransitionLease} {observed : Int} {row : AttemptRow} (unused : Unused start)
    (run : ReviewedRun host start s) (presented : Presented host s identity c request lease observed row)
    (settleable : Settleable host s identity c request observed row) : Answers host s identity c request lease observed := by
  have hrunnable : Runnable s := run_induction (fun _ _ hstep => hstep.runnable) run unused.runnable
  exact (hrunnable.rows row (providerAttempt?_eq_some.1 presented.found).1).answers presented settleable

/-- A call that has answered was well formed, and is after it. -/
theorem Presented.of_recovered {identity : TaskIdentity} {c : RecoveryContext} {request : RecoverRequest}
    {lease : Option TransitionLease} {observed : Int} {p : RecoveryProjection}
    (h : recoverAttempt host identity c request lease observed s = (.ok p, s')) :
    ∃ row row', Presented host s identity c request lease observed row ∧ row.role = p.role ∧
      Presented host s' identity c request lease observed row' ∧ s'.contexts = s.contexts := by
  obtain ⟨row, d, hfound, howner, hdecision, row', happly, rfl⟩ := recover_ok (recoverAttempt_ok h)
  obtain ⟨-, hid⟩ := providerAttempt?_eq_some.1 hfound
  obtain ⟨rfl, -⟩ := applyDecision_left happly (by rw [hid]; exact hfound)
  simp only [recoverAttempt, Tx.check_bind, exists_unit, requireToken, refuse_eq_ok, not_lt, Bool.not_eq_false] at h
  obtain ⟨htoken, hlimit, h⟩ := h
  obtain ⟨_, hevidence, h⟩ := Tx.check_bind.1 h
  have hrecover := transaction_ok.1 h
  simp only [recover, Tx.query_bind, exists_unit] at hrecover
  obtain ⟨hlease, task, htask, -⟩ := hrecover
  have hpresented : Presented host s identity c request lease observed row := by
    refine ⟨htoken, hlimit, fun evidence hsome => ?_, hlease, ⟨task, htask⟩, hfound, howner, fun hmatch => ?_⟩
    · rw [hsome] at hevidence
      simpa [requireFingerprint] using hevidence
    · rw [recoveryDecision, if_pos (by rw [hid]; exact hmatch)] at hdecision
      simp only [matchedDecision, bind_eq_ok] at hdecision
      obtain ⟨_, hcontext, sealed, hhealth, -⟩ := hdecision
      rw [hid] at hhealth
      exact ⟨hcontext, sealed, hhealth⟩
  obtain ⟨hframe, -, -⟩ := applyDecision_frame happly
  exact ⟨row, row.after d, hpresented, (row.after_role d).symm, hpresented.again happly, by rw [hframe]⟩

namespace Sample

theorem reviewed_run {s : Store} (h : WorkerRun .sample (fun _ _ => True) start s) : ReviewedRun .sample start s := by
  induction h with
  | refl => exact .refl
  | tail _ hstep ih => exact ih.tail (.call hstep)

end Sample

theorem recovery_answers_drifted :
    Answers .sample Sample.completed.1 Sample.identity Sample.drifted ⟨"attempt", none, 3⟩ (some Sample.lease) 10 := by
  obtain ⟨-, -, -, hdrifted, -, -, -, hmatch, hstored, hobjective, hstate⟩ := Sample.course
  rw [Option.isNone_iff_eq_none] at hstored hobjective
  obtain ⟨p, hrecovered, -, -, -⟩ := Sample.answered_eq_some hdrifted
  obtain ⟨row, -, hpresented, -⟩ := Presented.of_recovered hrecovered
  have hid : row.attemptId = "attempt" := (providerAttempt?_eq_some.1 hpresented.found).2
  have htask : row.taskId = "task" := hpresented.owner
  have hcompleted : row.state = .completed := by
    rw [hpresented.found] at hstate
    exact Option.some.inj hstate
  refine recovery_answers Sample.unused_start (Sample.reviewed_run Sample.worker_run_completed) hpresented ?_
  have hdrift : contextMatches Sample.completed.1 Sample.identity row.attemptId Sample.drifted = false := by
    rw [hid]
    exact hmatch
  refine ⟨⟨by decide, by decide⟩, fun _ => ⟨.inl (by rw [hid]; exact hstored), fun h => ?_⟩, ?_, ?_, ?_,
    fun _ _ => ⟨by rw [hid]; decide, fun o ho => ?_⟩⟩
  · exact nomatch hcompleted.symm.trans h
  · rw [hdrift]
    nofun
  · rw [hdrift]
    nofun
  · rw [hdrift]
    nofun
  · rw [hid, htask, hobjective] at ho
    cases ho

/-- A completed Worker is recovered without evidence, and then under the context of another deployment. -/
theorem recovery_conflicts :
    ¬ ∀ (start s : Store) (identity : TaskIdentity) (c : RecoveryContext) (request : RecoverRequest)
      (lease : Option TransitionLease) (observed : Int) (row : AttemptRow), Unused start → ReviewedRun .sample start s →
      Presented .sample s identity c request lease observed row → Answers .sample s identity c request lease observed := by
  intro hclaim
  obtain ⟨-, -, -, -, -, hunverified, hconflicts, hmatch, -⟩ := Sample.course
  obtain ⟨p, hrecovered, -, -, -⟩ := Sample.answered_eq_some hunverified
  obtain ⟨-, row, -, -, hpresented, hcontexts⟩ := Presented.of_recovered hrecovered
  have hmatch' := (contextMatches_congr hcontexts "attempt").trans hmatch
  have hrun : ReviewedRun .sample Sample.start (Sample.recovery Sample.worker none 3 Sample.completed.1).2 :=
    (Sample.reviewed_run Sample.worker_run_completed).tail (.call (.recovered hrecovered trivial))
  obtain ⟨p', s', hanswered, -⟩ := hclaim Sample.start (Sample.recovery Sample.worker none 3 Sample.completed.1).2
    Sample.identity Sample.drifted ⟨"attempt", none, 3⟩ (some Sample.lease) 10 row Sample.unused_start hrun
    { hpresented with context := fun h => by rw [hmatch'] at h; cases h }
  have hconflict : Sample.conflicts (.ok p', s') = true := by
    rw [← hanswered]
    exact hconflicts
  cases hconflict

end Roundwright.Provider
