/-
The transaction of a recovery, where it goes through: the UPDATE of the row breaks no constraint, the outcome is
not there yet or is the same, the objective of a Worker can end, and the clock fits the columns it is written to.
-/
import Roundwright.Provider.Abandonment

namespace Roundwright.Provider

open Lib State Recovery

variable {host : Host} {s s' : Store}

/-! ## Statements that go through -/

/-- `b` is `a` in another state, and may have lost its accepted review. -/
structure Loosened (a b : AttemptRow) : Prop where
  attemptId : b.attemptId = a.attemptId
  taskId : b.taskId = a.taskId
  role : b.role = a.role
  attemptNumber : b.attemptNumber = a.attemptNumber
  turn : b.externalTurnIdentity = a.externalTurnIdentity
  review : b.acceptedReviewIdentity = a.acceptedReviewIdentity ∨ b.acceptedReviewIdentity = none

theorem Loosened.refl (a : AttemptRow) : Loosened a a := ⟨rfl, rfl, rfl, rfl, rfl, .inl rfl⟩

/-- Rows that were apart stay apart. -/
theorem Loosened.clash {a a' b b' : AttemptRow} (ha : Loosened a a') (hb : Loosened b b') (h : AttemptRow.clash a' b' = true) :
    AttemptRow.clash a b = true := by
  simp only [AttemptRow.clash, ha.attemptId, hb.attemptId, ha.taskId, hb.taskId, ha.role, hb.role, ha.attemptNumber,
    hb.attemptNumber, ha.turn, hb.turn, Bool.or_eq_true, Bool.and_eq_true, beq_iff_eq] at h ⊢
  rcases h with hid | ⟨htask, hrole | ⟨hsome, hsame⟩⟩
  · exact .inl hid
  · exact .inr ⟨htask, .inl hrole⟩
  · refine .inr ⟨htask, .inr ?_⟩
    rcases ha.review with hreview | hreview
    · rcases hb.review with hreview' | hreview'
      · rw [hreview] at hsome
        rw [hreview, hreview'] at hsame
        exact ⟨hsome, hsame⟩
      · rw [hsame, hreview'] at hsome
        cases hsome
    · rw [hreview] at hsome
      cases hsome

theorem updateAttempt_succeeds (attemptId : String) {f : AttemptRow → AttemptRow}
    (hwellFormed : ∀ r, s.providerAttempt? attemptId = some r → (f r).wellFormed = true) (hf : ∀ r, Loosened r (f r)) :
    ∃ s', updateAttempt attemptId f s = .ok s' := by
  have hcheck : ¬ (s.providerAttempts.rows.any fun r => r.attemptId = attemptId ∧ (f r).wellFormed = false) = true := by
    rw [List.any_eq_true]
    rintro ⟨r, hr, hbad⟩
    simp only [Bool.decide_and, Bool.and_eq_true, decide_eq_true_eq] at hbad
    rw [hwellFormed r (providerAttempt?_eq_some.2 ⟨hr, hbad.1⟩)] at hbad
    cases hbad.2
  have hloosened : ∀ r : AttemptRow, Loosened r (if r.attemptId = attemptId then f r else r) := by
    intro r
    split
    · exact hf r
    · exact .refl r
  obtain ⟨attempts, hattempts⟩ := s.providerAttempts.update?_of_apart
    (f := fun r => if r.attemptId = attemptId then f r else r) fun a b => (hloosened a).clash (hloosened b)
  refine ⟨{ s with providerAttempts := attempts }, ?_⟩
  simp only [updateAttempt, bind_eq_ok, exists_unit, refuse_eq_ok, demand_eq_ok, pure_eq_ok]
  exact ⟨hcheck, attempts, hattempts, rfl⟩

/-- The clock of a call fits the columns it is written to. -/
def ClockFits (observed : Int) : Prop := 0 < observed ∧ observed < 2 ^ 63

variable {observed : Int}

theorem requirePositive_ok (h : ClockFits observed) : requirePositive observed = .ok () := by
  simp only [requirePositive, requireStorable, bind_eq_ok, exists_unit, refuse_eq_ok]
  obtain ⟨hpos, hfits⟩ := h
  exact ⟨by omega, by omega⟩

theorem insertEvent_succeeds (taskId attemptId : String) (action : RecoveryAction) (h : ClockFits observed) :
    ∃ s', insertEvent taskId attemptId action observed s = .ok s' := by
  simp only [insertEvent, requirePositive_ok h]
  exact ⟨_, rfl⟩

/-- The outcome is not there yet, or is the one to be stored. -/
def Compatible (s : Store) (attemptId : String) (o : Outcome) : Prop :=
  s.recoveryOutcome? attemptId = none ∨ s.recoveryOutcome? attemptId = some o

theorem persistRecoveryOutcome_succeeds {attemptId : String} {o : Outcome} (hclock : ClockFits observed)
    (h : Compatible s attemptId o) : ∃ s', persistRecoveryOutcome attemptId o observed s = .ok s' := by
  unfold persistRecoveryOutcome
  rcases h with hnone | hsome
  · have hrows : ∀ r ∈ s.recoveryOutcomes.rows, OutcomeRow.clash r ⟨attemptId, o⟩ = false := by
      intro r hr
      unfold Store.recoveryOutcome? at hnone
      rw [Option.map_eq_none_iff, find?_key_none] at hnone
      simpa [OutcomeRow.clash] using hnone r hr
    obtain ⟨outcomes, houtcomes⟩ := Table.insert?_of_apart hrows
    refine ⟨{ s with recoveryOutcomes := outcomes }, ?_⟩
    simp only [hnone, requirePositive_ok hclock, ok_bind, bind_eq_ok, demand_eq_ok, pure_eq_ok]
    exact ⟨outcomes, houtcomes, rfl⟩
  · refine ⟨s, ?_⟩
    simp only [hsome, bind_eq_ok, exists_unit, refuse_eq_ok, pure_eq_ok, ne_eq, not_true, not_false_eq_true, and_self]

/-- An outcome an objective may be cancelled for. -/
def Outcome.cancels (o : Outcome) : Prop :=
  o.action ∈ [RecoveryAction.blockedStaleWorker, .blockedAmbiguousTurn, .blockedIdentityDrift, .blockedRetryLimit] ∧
    o.blocker.any isToken = true ∧ o ≠ unverified

instance : DecidablePred Outcome.cancels := fun o => inferInstanceAs (Decidable (_ ∧ _ ∧ o ≠ unverified))

/-- The objective of an attempt is not cancelled, or is cancelled for this reason. -/
def CancelledFor (s : Store) (taskId attemptId reason : String) : Prop :=
  ∀ o, s.objectiveOf? taskId attemptId = some o → ∀ old, o.state = .cancelled old → old = reason

variable {row : AttemptRow}

theorem requireAbandonment_ok {o : Outcome} (reason : String) (hfound : s.providerAttempt? row.attemptId = some row)
    (hrole : row.role = .worker) (hstate : row.state = .blocked ∨ row.state = .ambiguous)
    (houtcome : s.recoveryOutcome? row.attemptId = some o) (hcancels : o.cancels)
    (htoken : isToken row.attemptId = true) (hreason : isHex 64 reason = true) :
    requireAbandonment s row.taskId row.attemptId reason = .ok () := by
  simp only [requireAbandonment, bind_eq_ok, exists_unit, refuse_eq_ok, demand_eq_ok]
  obtain ⟨haction, hblocker, hverified⟩ := hcancels
  refine ⟨by simp [htoken, hreason], row, taskAttempt?_eq_some.2 ⟨hfound, rfl⟩, o, houtcome, ?_, fun h => hverified h.2⟩
  rintro (hother | ⟨hblocked, hambiguous⟩ | haction' | hblocker')
  · exact hother hrole
  · exact hstate.elim hblocked hambiguous
  · exact haction' haction
  · exact hblocker' hblocker

theorem cancelObjectiveForRecovery_succeeds {taskId attemptId reason : String}
    (habandoned : requireAbandonment s taskId attemptId reason = .ok ()) (hcancelled : CancelledFor s taskId attemptId reason) :
    ∃ o s', cancelObjectiveForRecovery taskId attemptId reason s = (.ok o, s') := by
  simp only [cancelObjectiveForRecovery, Tx.query_bind, exists_unit]
  cases hobjective : s.objectiveOf? taskId attemptId with
  | none => exact ⟨none, s, habandoned, none, rfl, rfl⟩
  | some row =>
    cases hstate : row.state with
    | completed result =>
      refine ⟨some row, s, habandoned, some row, rfl, ?_⟩
      simp only [hstate]
      rfl
    | cancelled old =>
      refine ⟨some row, s, habandoned, some row, rfl, ?_⟩
      simp only [hstate, Tx.check_bind, exists_unit, refuse_eq_ok, not_not]
      exact ⟨hcancelled row hobjective old hstate, rfl⟩
    | active =>
      refine ⟨some { row with state := .cancelled reason }, setObjective row.objectiveId (.cancelled reason) s,
        habandoned, some row, rfl, ?_⟩
      simp only [hstate, Tx.write_bind]
      exact ⟨_, rfl, rfl⟩

theorem cancelObjectiveForRecovery_settles {taskId attemptId reason : String} {returned : Option ObjectiveRow}
    (h : cancelObjectiveForRecovery taskId attemptId reason s = (.ok returned, s')) :
    CancelledFor s' taskId attemptId reason ∧ ∀ o, s'.objectiveOf? taskId attemptId = some o → o.state ≠ .active := by
  simp only [cancelObjectiveForRecovery, Tx.query_bind, exists_unit] at h
  obtain ⟨-, objective, hobjective, h⟩ := h
  rw [Except.ok.injEq] at hobjective
  -- an ended objective keeps its state; an active one is cancelled for the reason
  cases objective with
  | none =>
    obtain ⟨-, rfl⟩ := Tx.pure_ok.1 h
    refine ⟨fun o ho => ?_, fun o ho => ?_⟩ <;> rw [hobjective] at ho <;> cases ho
  | some row =>
    dsimp only at h
    cases hstate : row.state with
    | completed result =>
      simp only [hstate, Tx.pure_ok] at h
      obtain ⟨-, rfl⟩ := h
      refine ⟨fun o ho old hold => ?_, fun o ho hactive => ?_⟩ <;> rw [hobjective] at ho <;> cases ho
      · rw [hstate] at hold
        cases hold
      · rw [hstate] at hactive
        cases hactive
    | cancelled old =>
      simp only [hstate, Tx.check_bind, Tx.pure_ok, exists_unit, refuse_eq_ok, not_not] at h
      obtain ⟨rfl, -, rfl⟩ := h
      refine ⟨fun o ho old' hold => ?_, fun o ho hactive => ?_⟩ <;> rw [hobjective] at ho <;> cases ho
      · rw [hstate] at hold
        cases hold
        rfl
      · rw [hstate] at hactive
        cases hactive
    | active =>
      simp only [hstate, Tx.write_bind, Tx.pure_ok, Except.ok.injEq] at h
      obtain ⟨_, rfl, -, rfl⟩ := h
      have hset : ∀ o, Store.objectiveOf? (setObjective row.objectiveId (.cancelled reason) s) taskId attemptId = some o →
          o.state = .cancelled reason := by
        intro o ho
        have hmem := List.mem_of_find?_eq_some ho
        have hsel := List.find?_some ho
        rw [setObjective, Table.update_rows, List.mem_map] at hmem
        obtain ⟨r, hr, rfl⟩ := hmem
        have hrow : r = row := by
          have hkey : Table.IsKey ObjectiveRow.clash fun r : ObjectiveRow => r.identity.providerAttemptId := by
            intro a b hab
            simp [ObjectiveRow.clash, show a.identity.providerAttemptId = b.identity.providerAttemptId from hab]
          refine Table.eq_of_key hkey hr (List.mem_of_find?_eq_some hobjective) ?_
          have hsel' := List.find?_some hobjective
          simp only [decide_eq_true_eq] at hsel hsel'
          rw [hsel'.2, ← hsel.2]
          split <;> rfl
        rw [hrow, if_pos rfl]
      refine ⟨fun o ho old hold => ?_, fun o ho hactive => ?_⟩
      · rw [hset o ho] at hold
        cases hold
        rfl
      · rw [hset o ho] at hactive
        cases hactive

/-! ## A decision that goes through -/

/-- The row a decision leaves. -/
def AttemptRow.after (row : AttemptRow) (d : RecoveryDecision) : AttemptRow :=
  { row.revalidated with state := d.next.getD row.revalidated.state }

/-- A decision leaves everything but the state and the accepted review. -/
theorem AttemptRow.after_eq (row : AttemptRow) (d : RecoveryDecision) : ∃ state review,
    row.after d = { row with state := state, acceptedReviewIdentity := review } := by
  unfold AttemptRow.after AttemptRow.revalidated
  split
  · exact ⟨_, _, rfl⟩
  · exact ⟨_, _, rfl⟩

theorem AttemptRow.after_attemptId (row : AttemptRow) (d : RecoveryDecision) : (row.after d).attemptId = row.attemptId := by
  obtain ⟨state, review, h⟩ := row.after_eq d
  rw [h]

theorem AttemptRow.after_taskId (row : AttemptRow) (d : RecoveryDecision) : (row.after d).taskId = row.taskId := by
  obtain ⟨state, review, h⟩ := row.after_eq d
  rw [h]

theorem AttemptRow.after_role (row : AttemptRow) (d : RecoveryDecision) : (row.after d).role = row.role := by
  obtain ⟨state, review, h⟩ := row.after_eq d
  rw [h]

/-- What the transaction of a recovery needs to go through with its decision. -/
structure Applies (host : Host) (s : Store) (row : AttemptRow) (d : RecoveryDecision) (observed : Int) : Prop where
  clock : ClockFits observed
  wellFormed : (row.after d).wellFormed = true
  outcome : d.blocker ≠ none → Compatible s row.attemptId ⟨d.action, d.blocker⟩
  worker : row.role = .worker → terminalWorkerAbandonment d.action d.blocker = true → isToken row.attemptId = true ∧
    ((row.after d).state = .blocked ∨ (row.after d).state = .ambiguous) ∧ Outcome.cancels ⟨d.action, d.blocker⟩ ∧
    CancelledFor s row.taskId row.attemptId (recoveryReason host row.attemptId d.action d.blocker)

theorem AttemptRow.revalidated_wellFormed (h : row.wellFormed = true) : row.revalidated.wellFormed = true := by
  unfold AttemptRow.revalidated
  split
  · simp only [AttemptRow.wellFormed, Bool.and_eq_true] at h ⊢
    cases hturn : row.externalTurnIdentity with
    | none => simp_all
    | some turn => simp_all
  · exact h

theorem staleUnvalidatedDiffReview_succeeds (taskId : String) (hfound : s.providerAttempt? row.attemptId = some row)
    (hwellFormed : row.wellFormed = true) (hstale : row.revalidates = true) :
    ∃ s', staleUnvalidatedDiffReview taskId row.attemptId s = (.ok (), s') := by
  have haccepted : row.state = .accepted := by
    simp only [AttemptRow.revalidates, decide_eq_true_eq] at hstale
    exact hstale.1
  have hrow : row.revalidated = { row with state := .invalidated, acceptedReviewIdentity := none } := if_pos hstale
  let s₁ : Store := { s with acceptedReviews := s.acceptedReviews.keep fun r => r.review.attemptId ≠ row.attemptId }
  obtain ⟨s₂, hs₂⟩ := updateAttempt_succeeds (s := s₁) row.attemptId
    (f := fun r => if r.state = .accepted then { r with state := .invalidated, acceptedReviewIdentity := none } else r)
    (fun r hr => by
      cases hfound.symm.trans hr
      rw [if_pos haccepted, ← hrow]
      exact AttemptRow.revalidated_wellFormed hwellFormed)
    (fun r => by
      split
      · exact ⟨rfl, rfl, rfl, rfl, rfl, .inr rfl⟩
      · exact .refl r)
  simp only [staleUnvalidatedDiffReview, Tx.write_bind, Tx.write_ok, Except.ok.injEq]
  exact ⟨_, s₁, rfl, s₂, hs₂, rfl⟩

section Steps

variable {row : AttemptRow} {observed : Int}

/-- The review of the attempt goes stale. -/
theorem stale_step (taskId : String) (hfound : s.providerAttempt? row.attemptId = some row) (hwellFormed : row.wellFormed = true) :
    ∃ s₁, Tx.when (row.revalidates = true) (staleUnvalidatedDiffReview taskId row.attemptId) s = (.ok (), s₁) ∧
      s₁.providerAttempt? row.attemptId = some row.revalidated ∧ s₁.recoveryOutcomes = s.recoveryOutcomes ∧
      s₁.objectives = s.objectives := by
  by_cases hstale : row.revalidates = true
  · obtain ⟨s₁, hs₁⟩ := staleUnvalidatedDiffReview_succeeds taskId hfound hwellFormed hstale
    obtain ⟨hmoved, hframe⟩ := staleUnvalidatedDiffReview_ok hs₁ hfound hstale
    exact ⟨s₁, Tx.when_ok.2 (.inl ⟨hstale, hs₁⟩), hmoved.attempt?, by rw [hframe], by rw [hframe]⟩
  · refine ⟨s, Tx.when_ok.2 (.inr ⟨hstale, rfl⟩), ?_, rfl, rfl⟩
    rw [AttemptRow.revalidated, if_neg hstale]
    exact hfound

/-- The attempt moves to its new state. -/
theorem state_step {row : AttemptRow} {attemptId : String} {next : AttemptState}
    (hfound : s.providerAttempt? attemptId = some row) (hwellFormed : { row with state := next }.wellFormed = true) :
    ∃ s₂, Tx.when (next ≠ row.state) (Tx.write (updateAttempt attemptId fun r => { r with state := next })) s = (.ok (), s₂) ∧
      s₂.providerAttempt? attemptId = some { row with state := next } ∧ s₂.recoveryOutcomes = s.recoveryOutcomes ∧
      s₂.objectives = s.objectives := by
  by_cases hnext : next ≠ row.state
  · obtain ⟨s₂, hs₂⟩ := updateAttempt_succeeds attemptId (f := fun r => { r with state := next })
      (fun r hr => by
        cases hfound.symm.trans hr
        exact hwellFormed)
      (fun r => ⟨rfl, rfl, rfl, rfl, rfl, .inl rfl⟩)
    obtain ⟨hmoved, hframe⟩ := updateAttempt_ok hs₂ hfound fun _ => rfl
    obtain ⟨-, hid⟩ := providerAttempt?_eq_some.1 hfound
    refine ⟨s₂, Tx.when_ok.2 (.inl ⟨hnext, Tx.write_ok.2 hs₂⟩), ?_, by rw [hframe], by rw [hframe]⟩
    rw [← hid]
    exact hmoved.attempt?
  · refine ⟨s, Tx.when_ok.2 (.inr ⟨hnext, rfl⟩), ?_, rfl, rfl⟩
    rw [not_not.1 hnext]
    exact hfound

theorem outcome_step (attemptId : String) {o : Outcome} (hclock : ClockFits observed)
    (h : o.blocker ≠ none → Compatible s attemptId o) :
    ∃ s₃, Tx.when (o.blocker ≠ none) (Tx.write (persistRecoveryOutcome attemptId o observed)) s = (.ok (), s₃) ∧
      s₃.providerAttempts = s.providerAttempts ∧ s₃.objectives = s.objectives ∧
      (o.blocker ≠ none → s₃.recoveryOutcome? attemptId = some o) := by
  by_cases hblocker : o.blocker ≠ none
  · obtain ⟨s₃, hs₃⟩ := persistRecoveryOutcome_succeeds hclock (h hblocker)
    obtain ⟨hframe, hpersisted⟩ := persistRecoveryOutcome_ok hs₃
    exact ⟨s₃, Tx.when_ok.2 (.inl ⟨hblocker, Tx.write_ok.2 hs₃⟩), by rw [hframe], by rw [hframe], fun _ => hpersisted.outcome?⟩
  · exact ⟨s, Tx.when_ok.2 (.inr ⟨hblocker, rfl⟩), rfl, rfl, fun h => absurd h hblocker⟩

end Steps

theorem recoveryReason_isHex (attemptId : String) (action : RecoveryAction) (blocker : Option String) :
    isHex 64 (recoveryReason host attemptId action blocker) = true :=
  Hex.isHex_text _

theorem applyDecision_succeeds {identity : TaskIdentity} {d : RecoveryDecision}
    (hfound : s.providerAttempt? row.attemptId = some row) (htask : row.taskId = identity.taskId)
    (hwellFormed : row.wellFormed = true) (h : Applies host s row d observed) : ∃ s',
    applyDecision host identity row d observed s = (.ok (row.after d), s') := by
  obtain ⟨s₁, hs₁, hfound₁, houtcomes₁, hobjectives₁⟩ := stale_step identity.taskId hfound hwellFormed
  obtain ⟨s₂, hs₂, hfound₂, houtcomes₂, hobjectives₂⟩ := state_step hfound₁ h.wellFormed
  obtain ⟨s₃, hs₃, hattempts₃, hobjectives₃, houtcome₃⟩ :=
    outcome_step (s := s₂) row.attemptId (o := ⟨d.action, d.blocker⟩) h.clock fun hblocker => by
      rw [Compatible, recoveryOutcome?_congr (houtcomes₂.trans houtcomes₁)]
      exact h.outcome hblocker
  have hobjectives : s₃.objectives = s.objectives := (hobjectives₃.trans hobjectives₂).trans hobjectives₁
  have hfound₃ : s₃.providerAttempt? (row.after d).attemptId = some (row.after d) := by
    rw [row.after_attemptId]
    unfold Store.providerAttempt?
    rw [hattempts₃]
    exact hfound₂
  obtain ⟨s₄, hs₄⟩ : ∃ s₄, Tx.when (row.role = .worker ∧ terminalWorkerAbandonment d.action d.blocker = true)
      ((fun _ => ()) <$> cancelObjectiveForRecovery identity.taskId row.attemptId
        (recoveryReason host row.attemptId d.action d.blocker)) s₃ = (.ok (), s₄) := by
    by_cases hworker : row.role = .worker ∧ terminalWorkerAbandonment d.action d.blocker = true
    · obtain ⟨htoken, hstate, hcancels, hcancelled⟩ := h.worker hworker.1 hworker.2
      have hblocker : d.blocker ≠ none := by
        intro hnone
        have hany : d.blocker.any isToken = true := hcancels.2.1
        rw [hnone] at hany
        cases hany
      have habandoned := requireAbandonment_ok (recoveryReason host row.attemptId d.action d.blocker) hfound₃
        ((row.after_role d).trans hworker.1) hstate (by rw [row.after_attemptId]; exact houtcome₃ hblocker) hcancels
        (by rw [row.after_attemptId]; exact htoken) (recoveryReason_isHex _ _ _)
      rw [row.after_attemptId, row.after_taskId, htask] at habandoned
      rw [htask] at hcancelled
      obtain ⟨o, s₄, hs₄⟩ := cancelObjectiveForRecovery_succeeds habandoned (by
        unfold CancelledFor Store.objectiveOf? at hcancelled ⊢
        rw [hobjectives]
        exact hcancelled)
      exact ⟨s₄, Tx.when_ok.2 (.inl ⟨hworker, Tx.map_ok.2 ⟨o, hs₄, rfl⟩⟩)⟩
    · exact ⟨s₃, Tx.when_ok.2 (.inr ⟨hworker, rfl⟩)⟩
  obtain ⟨s₅, hs₅⟩ := insertEvent_succeeds (s := s₄) identity.taskId row.attemptId d.action h.clock
  refine ⟨s₅, Tx.bind_ok.2 ⟨(), s₁, hs₁, Tx.bind_ok.2 ⟨(), s₂, hs₂, Tx.bind_ok.2 ⟨(), s₃, hs₃, Tx.bind_ok.2 ⟨(), s₄, hs₄, ?_⟩⟩⟩⟩⟩
  exact Tx.write_bind.2 ⟨s₅, hs₅, rfl⟩

end Roundwright.Provider
