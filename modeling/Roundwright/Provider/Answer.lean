/-
What recovery answers. Over every row a run can lead to, `recover_attempt` has a decision for each state; whether
the transaction goes through with it depends on the outcome that is stored already, on the constraints of the
row and on the objective of a Worker. Where it does, a second call answers the same and writes nothing but its
event.
-/
import Roundwright.Provider.Apply

namespace Roundwright.Provider

open Lib State Recovery

variable {host : Host} {s s' : Store}

/-! ## Decisions over the rows of a run -/

/-- What holds of the row of an attempt and of its outcome in every run. -/
structure Recoverable (s : Store) (row : AttemptRow) : Prop where
  wellFormed : row.wellFormed = true
  sound : Sound row
  unsettled : row.state = .prepared ∨ row.state = .dispatched → s.recoveryOutcome? row.attemptId = none
  blocked : row.state = .blocked → s.recoveryOutcome? row.attemptId ≠ none
  worker : row.role = .worker → row.state ≠ .accepted ∧ row.state ≠ .invalidated
  outcome : row.role = .worker → ∀ o, s.recoveryOutcome? row.attemptId = some o →
    o.cancels ∨ (o = unverified ∧ row.completionEvidenceFingerprint ≠ none)

variable {row : AttemptRow}

/-- The CHECKs of a row, one by one. -/
theorem wellFormed_iff : row.wellFormed = true ↔
    (row.externalTurnIdentity = none → row.state = .prepared ∨ row.state = .blocked ∨ row.state = .invalidated) ∧
    (row.externalTurnIdentity ≠ none → row.state ≠ .prepared) ∧
    (row.state = .completed ∨ row.state = .accepted → row.outputPointer ≠ none ∧ row.completionEvidenceFingerprint ≠ none) ∧
    (row.acceptedReviewIdentity ≠ none → row.role = .supervisor ∧ row.state = .accepted) ∧ 0 < row.processLeaseExpiresAt := by
  unfold AttemptRow.wellFormed
  cases row.externalTurnIdentity <;>
    simp only [Bool.and_eq_true, decide_eq_true_eq, and_assoc, ne_eq, reduceCtorEq, not_true, not_false_eq_true, forall_const,
      false_implies, true_and]

/-- An attempt without an accepted review may stop. -/
theorem wellFormed_restate {state : AttemptState} (h : row.wellFormed = true)
    (hreview : row.acceptedReviewIdentity = none)
    (hstate : state = .blocked ∨ state = .invalidated ∨ (state = .ambiguous ∧ row.externalTurnIdentity ≠ none)) :
    { row with state }.wellFormed = true := by
  rw [wellFormed_iff] at h ⊢
  obtain ⟨-, -, -, -, hlease⟩ := h
  refine ⟨fun hturn => ?_, fun _ => ?_, fun houtput => ?_, fun h => absurd hreview h, hlease⟩
  · rcases hstate with rfl | rfl | ⟨rfl, hsome⟩
    · exact .inr (.inl rfl)
    · exact .inr (.inr rfl)
    · exact absurd hturn hsome
  · rcases hstate with rfl | rfl | ⟨rfl, -⟩ <;> nofun
  · rcases hstate with rfl | rfl | ⟨rfl, -⟩ <;> rcases houtput with h | h <;> cases h

theorem Recoverable.unreviewed (h : Recoverable s row) (hstate : row.state ≠ .accepted) :
    row.acceptedReviewIdentity = none := by
  by_contra hsome
  exact hstate ((wellFormed_iff.1 h.wellFormed).2.2.2.1 hsome).2

/-- The outcome of an accepted review of a diff that went stale. -/
def revalidation : Outcome := ⟨.freshSupervisorSession, some "candidate-review-revalidation-required"⟩

/-- A decision after which the attempt rests: its outcome answers for it from then on. -/
structure Stops (s : Store) (row : AttemptRow) (d : RecoveryDecision) : Prop where
  rests : (row.after d).state = .blocked ∨ (row.after d).state = .invalidated ∨
    ((row.after d).state = .ambiguous ∧ row.completionEvidenceFingerprint = none)
  wellFormed : (row.after d).wellFormed = true
  stored : d.blocker ≠ none ∨ s.recoveryOutcome? row.attemptId = some ⟨d.action, d.blocker⟩
  compatible : (row.revalidates = true ∧ ⟨d.action, d.blocker⟩ = revalidation) ∨ Compatible s row.attemptId ⟨d.action, d.blocker⟩
  worker : row.role = .worker → row.completionEvidenceFingerprint = none ∧
    ((row.after d).state = .blocked ∨ (row.after d).state = .ambiguous) ∧ Outcome.cancels ⟨d.action, d.blocker⟩

/-- What recovery decides under the persisted context. -/
inductive Verdict (s : Store) (row : AttemptRow) (verified : Bool) (d : RecoveryDecision) : Prop where
  | waits (state : row.state = .prepared) (blocker : d.blocker = none) (next : d.next = none)
    (action : d.action = .retry ∨ d.action = .resumeSameSession)
  | reviewed (state : row.state = .accepted) (fresh : row.revalidates = false) (decision : d = ⟨.acceptedReview, none, none⟩)
  | verifies (evidence : row.completionEvidenceFingerprint ≠ none)
    (state : row.state = .completed ∨ row.state = .ambiguous) (decision : d = evidenceDecision row verified)
  | stops (stops : Stops s row d)

theorem AttemptRow.after_of_unaccepted (h : row.state ≠ .accepted) (d : RecoveryDecision) :
    row.after d = { row with state := d.next.getD row.state } := by
  rw [AttemptRow.after, row.revalidated_of_unaccepted h]

variable {d : RecoveryDecision}

/-- A decision for an attempt that had not stopped. -/
theorem Stops.fresh {state : AttemptState} (h : Recoverable s row)
    (hopen : row.state = .prepared ∨ row.state = .dispatched) (hnext : d.next = some state)
    (hblocker : d.blocker ≠ none) (hstate : state = .blocked ∨ (state = .invalidated ∧ row.role ≠ .worker) ∨
      (state = .ambiguous ∧ row.externalTurnIdentity ≠ none))
    (hcancels : row.role = .worker → Outcome.cancels ⟨d.action, d.blocker⟩) : Stops s row d := by
  have hunaccepted : row.state ≠ .accepted := by
    rcases hopen with hopen | hopen <;> rw [hopen] <;> nofun
  have hevidence : row.completionEvidenceFingerprint = none := by
    rcases hopen with hopen | hopen
    · exact (h.sound.prepared hopen).2.2
    · exact (h.sound.dispatched hopen).2.2
  have hafter : row.after d = { row with state } := by
    rw [row.after_of_unaccepted hunaccepted, hnext]
    rfl
  refine ⟨?_, ?_, .inl hblocker, .inr (.inl (h.unsettled hopen)), fun hrole => ⟨hevidence, ?_, hcancels hrole⟩⟩
  · rw [hafter]
    exact hstate.imp_right (Or.imp And.left fun h => ⟨h.1, hevidence⟩)
  · rw [hafter]
    exact wellFormed_restate h.wellFormed (h.unreviewed hunaccepted) (hstate.imp_right (Or.imp And.left id))
  · rw [hafter]
    rcases hstate with hstate | ⟨-, hnot⟩ | ⟨hstate, -⟩
    · exact .inl hstate
    · exact absurd hrole hnot
    · exact .inr hstate

/-- A decision for an attempt that had stopped: the stored one, or the default of its state. -/
theorem Stops.again (h : Recoverable s row) (hnext : d.next = none)
    (hstate : row.state = .blocked ∨ row.state = .invalidated ∨
    (row.state = .ambiguous ∧ row.completionEvidenceFingerprint = none))
    (houtcome : s.recoveryOutcome? row.attemptId = some ⟨d.action, d.blocker⟩ ∨
      (s.recoveryOutcome? row.attemptId = none ∧ d.blocker ≠ none ∧
        (row.role = .worker → Outcome.cancels ⟨d.action, d.blocker⟩))) :
    Stops s row d := by
  have hunaccepted : row.state ≠ .accepted := by
    rcases hstate with hstate | hstate | ⟨hstate, -⟩ <;> rw [hstate] <;> nofun
  have hafter : row.after d = row := by
    rw [row.after_of_unaccepted hunaccepted, hnext]
    rfl
  have hevidence : row.role = .worker → row.completionEvidenceFingerprint = none := by
    intro hrole
    by_contra hsome
    rcases hstate with hstate | hstate | ⟨-, hnone⟩
    · have houtput := (h.sound.output (h.sound.evidence hsome)).2
      rw [hstate] at houtput
      simp at houtput
    · exact (h.worker hrole).2 hstate
    · exact hsome hnone
  refine ⟨hafter.symm ▸ hstate, hafter.symm ▸ h.wellFormed, ?_, ?_, fun hrole => ⟨hevidence hrole, ?_, ?_⟩⟩
  · exact houtcome.symm.imp (fun h => h.2.1) id
  · exact .inr (houtcome.symm.imp And.left id)
  · rw [hafter]
    rcases hstate with hstate | hstate | ⟨hstate, -⟩
    · exact .inl hstate
    · exact absurd hstate (h.worker hrole).2
    · exact .inr hstate
  · rcases houtcome with hstored | ⟨-, -, hcancels⟩
    · rcases h.outcome hrole _ hstored with hcancels | ⟨-, hsome⟩
      · exact hcancels
      · exact absurd (hevidence hrole) hsome
    · exact hcancels hrole

theorem staleDecision_stops {observed : Int} (h : Recoverable s row)
    (hopen : row.state = .prepared ∨ row.state = .dispatched) (hstale : staleDecision row observed = some d) : Stops s row d := by
  unfold staleDecision at hstale
  split at hstale
  · cases hrole : row.role with
    | worker =>
      simp only [hrole, Option.some.injEq] at hstale
      subst hstale
      exact .fresh h hopen rfl nofun (.inl rfl) fun _ => by decide
    | supervisor =>
      simp only [hrole, Option.some.injEq] at hstale
      subst hstale
      exact .fresh h hopen rfl nofun (.inr (.inl ⟨rfl, by rw [hrole]; nofun⟩)) fun h => by rw [hrole] at h; cases h
    | planning =>
      simp only [hrole] at hstale
      cases hstale
    | aggregation =>
      simp only [hrole] at hstale
      cases hstale
  · cases hstale

theorem preparedDecision_verdict {maxAttempts observed : Int} {verified : Bool} (h : Recoverable s row)
    (hstate : row.state = .prepared) : Verdict s row verified (preparedDecision s row maxAttempts observed) := by
  unfold preparedDecision
  split
  · cases hstale : staleDecision row observed with
    | none => exact .waits hstate rfl rfl (.inr rfl)
    | some d => exact .stops (staleDecision_stops h (.inl hstate) hstale)
  · split
    · exact .stops (.fresh h (.inl hstate) rfl nofun (.inl rfl) fun _ => by decide)
    · exact .waits hstate rfl rfl (.inl rfl)

theorem recoveryOutcome_verdict (verified : Option String) (maxAttempts observed : Int) (h : Recoverable s row) :
    ∃ d, recoveryOutcome s row verified maxAttempts observed = .ok d ∧
      Verdict s row (verified = row.completionEvidenceFingerprint) d := by
  unfold recoveryOutcome
  cases hstate : row.state with
  | accepted =>
    by_cases hdiff : pointerStartsWith row.outputPointer "diff-review:" = true
    · have hrevalidates : row.revalidates = true := by
        simp only [AttemptRow.revalidates, decide_eq_true_eq]
        exact ⟨hstate, hdiff⟩
      have hrole : row.role ≠ .worker := fun hrole => (h.worker hrole).1 hstate
      refine ⟨_, if_pos hdiff, .stops ⟨.inr (.inl rfl), ?_, .inl (Option.some_ne_none _), .inl ⟨hrevalidates, rfl⟩, fun h => absurd h hrole⟩⟩
      refine wellFormed_restate (AttemptRow.revalidated_wellFormed h.wellFormed) ?_ (.inr (.inl rfl))
      rw [AttemptRow.revalidated, if_pos hrevalidates]
    · refine ⟨_, if_neg hdiff, .reviewed hstate ?_ rfl⟩
      simp [AttemptRow.revalidates, hdiff]
  | completed =>
    have hevidence := ((wellFormed_iff.1 h.wellFormed).2.2.1 (.inl hstate)).2
    exact ⟨_, if_pos hevidence, .verifies hevidence (.inl hstate) rfl⟩
  | ambiguous =>
    by_cases hevidence : row.completionEvidenceFingerprint ≠ none
    · exact ⟨_, if_pos hevidence, .verifies hevidence (.inr hstate) rfl⟩
    · have hrest := And.intro hstate (not_not.1 hevidence)
      refine ⟨_, if_neg hevidence, .stops ?_⟩
      cases hstored : s.recoveryOutcome? row.attemptId with
      | none => exact .again h rfl (.inr (.inr hrest)) (.inr ⟨hstored, Option.some_ne_none _, fun _ => by decide⟩)
      | some o => exact .again h rfl (.inr (.inr hrest)) (.inl hstored)
  | blocked =>
    obtain ⟨o, hstored⟩ := Option.ne_none_iff_exists'.1 (h.blocked hstate)
    refine ⟨o.decision, ?_, .stops (.again h rfl (.inl hstate) (.inl hstored))⟩
    simp only [hstored, Option.map_some]
    rfl
  | invalidated =>
    refine ⟨_, rfl, .stops ?_⟩
    cases hstored : s.recoveryOutcome? row.attemptId with
    | none => exact .again h rfl (.inr (.inl hstate)) (.inr ⟨hstored, Option.some_ne_none _, fun hrole => absurd hstate (h.worker hrole).2⟩)
    | some o => exact .again h rfl (.inr (.inl hstate)) (.inl hstored)
  | prepared => exact ⟨_, rfl, preparedDecision_verdict h hstate⟩
  | dispatched =>
    refine ⟨_, rfl, .stops ?_⟩
    cases hstale : staleDecision row observed with
    | none =>
      exact .fresh h (.inr hstate) rfl (Option.some_ne_none _) (.inr (.inr ⟨rfl, (h.sound.dispatched hstate).1⟩)) fun _ => by decide
    | some d => exact staleDecision_stops h (.inr hstate) hstale

variable {sealed : String}

/-! ## One call -/

section Call

variable {identity : TaskIdentity} {c : RecoveryContext} {row : AttemptRow} {verified : Option String} {maxAttempts observed : Int}
  {d : RecoveryDecision}

/-- The persisted context is presented, its health authorization lives, and the accepted review of the attempt is in
order. -/
structure Admitted (host : Host) (s : Store) (identity : TaskIdentity) (c : RecoveryContext) (row : AttemptRow)
    (observed : Int) (sealed : String) : Prop where
  context : validateContext host identity c = .ok ()
  health : requirePersistedHealthAuthorization host s row.attemptId c row.role row.selectedProfileIdentity observed = .ok sealed
  kind : acceptedReviewKind s identity row ≠ .invalid
  review : acceptedReviewKind s identity row = .generic → row.state = .accepted →
    requireAcceptedSupervisorReview s identity row c = .ok ()

/-- The session of a prepared attempt has no checkpoint of the presented context. -/
def Unavailable (host : Host) (s : Store) (identity : TaskIdentity) (c : RecoveryContext) (row : AttemptRow)
    (sealed : String) : Prop :=
  row.state = .prepared ∧ (row.sessionIdentity.any fun session =>
    s.sessionCheckpoint? row.attemptId ≠
      some ⟨row.attemptId, identity.taskId, session, c.values.checkpointFingerprint host sealed⟩) = true

instance (sealed : String) : Decidable (Unavailable host s identity c row sealed) := inferInstanceAs (Decidable (_ ∧ _))

theorem matchedDecision_eq (h : Admitted host s identity c row observed sealed) :
    matchedDecision host s identity c row verified maxAttempts observed =
      if Unavailable host s identity c row sealed then
        .ok ⟨.blockedAmbiguousTurn, some "session-checkpoint-unavailable", some (abandonmentState row)⟩
      else recoveryOutcome s row verified maxAttempts observed := by
  have hreview : (if acceptedReviewKind s identity row = .generic ∧ row.state = .accepted then
      requireAcceptedSupervisorReview s identity row c else .ok ()) = .ok () := by
    split
    · rename_i hgeneric
      exact h.review hgeneric.1 hgeneric.2
    · rfl
  simp only [matchedDecision, h.context, h.health, hreview, ok_bind, refuse_of_not h.kind]
  by_cases hcheckpoint : Unavailable host s identity c row sealed
  · rw [if_pos hcheckpoint]
    exact if_pos hcheckpoint
  · rw [if_neg hcheckpoint]
    exact if_neg hcheckpoint

theorem matchedDecision_verdict (verified : Option String) (maxAttempts : Int) (h : Recoverable s row)
    (hadmitted : Admitted host s identity c row observed sealed) :
    ∃ d, matchedDecision host s identity c row verified maxAttempts observed = .ok d ∧
      Verdict s row (verified = row.completionEvidenceFingerprint) d := by
  rw [matchedDecision_eq hadmitted]
  split
  · rename_i hcheckpoint
    have hturn := (h.sound.prepared hcheckpoint.1).1
    have hblocked : abandonmentState row = .blocked := if_neg (not_not.2 hturn)
    refine ⟨_, rfl, .stops (.fresh h (.inl hcheckpoint.1) rfl nofun (.inl hblocked) fun _ => ?_)⟩
    exact (by decide : Outcome.cancels ⟨.blockedAmbiguousTurn, some "session-checkpoint-unavailable"⟩)
  · exact recoveryOutcome_verdict verified maxAttempts observed h

variable {row' : AttemptRow}

/-- A recovery writes to six tables, and to the reviews only where one goes stale. -/
theorem applyDecision_frame (h : applyDecision host identity row d observed s = (.ok row', s')) :
    s' = { s with providerAttempts := s'.providerAttempts, acceptedReviews := s'.acceptedReviews, diffReviews := s'.diffReviews,
                  recoveryOutcomes := s'.recoveryOutcomes, objectives := s'.objectives, recoveryEvents := s'.recoveryEvents } ∧
      (row.revalidates = false → s'.acceptedReviews = s.acceptedReviews) ∧
      ∃ g : DiffReviewRow → DiffReviewRow, (∀ r, (g r).providerAttemptId = r.providerAttemptId ∧ (g r).taskId = r.taskId ∧
        (g r).diffReviewAttemptId = r.diffReviewAttemptId) ∧ s'.diffReviews = s.diffReviews.map g := by
  obtain ⟨-, s₁, s₂, s₃, s₄, hstale, hupdate, houtcome, hcancel, hevent⟩ := applyDecision_steps h
  have hframe₅ := insertEvent_frame hevent
  have hframe₄ : s₄ = { s₃ with objectives := s₄.objectives } := by
    rcases Tx.when_ok.1 hcancel with ⟨-, h⟩ | ⟨-, rfl⟩
    · obtain ⟨objective, hcancel, -⟩ := Tx.map_ok.1 h
      exact (cancelObjectiveForRecovery_ok hcancel).1
    · rfl
  have hframe₃ : s₃ = { s₂ with recoveryOutcomes := s₃.recoveryOutcomes } := by
    rcases Tx.when_ok.1 houtcome with ⟨-, h⟩ | ⟨-, rfl⟩
    · exact (persistRecoveryOutcome_ok (Tx.write_ok.1 h)).1
    · rfl
  have hframe₂ : s₂ = { s₁ with providerAttempts := s₂.providerAttempts } := by
    rcases Tx.when_ok.1 hupdate with ⟨-, h⟩ | ⟨-, rfl⟩
    · simp only [Tx.write_ok, updateAttempt, bind_eq_ok, demand_eq_ok, pure_eq_ok] at h
      obtain ⟨-, -, attempts, -, rfl⟩ := h
      rfl
    · rfl
  have hframe₁ : s₁ = { s with providerAttempts := s₁.providerAttempts, acceptedReviews := s₁.acceptedReviews,
                               diffReviews := s₁.diffReviews } ∧
      (row.revalidates = false → s₁.acceptedReviews = s.acceptedReviews) ∧
      ∃ g : DiffReviewRow → DiffReviewRow, (∀ r, (g r).providerAttemptId = r.providerAttemptId ∧ (g r).taskId = r.taskId ∧
        (g r).diffReviewAttemptId = r.diffReviewAttemptId) ∧ s₁.diffReviews = s.diffReviews.map g := by
    rcases Tx.when_ok.1 hstale with ⟨hrevalidates, h⟩ | ⟨-, rfl⟩
    · simp only [staleUnvalidatedDiffReview, Tx.write_bind, Tx.write_ok, Except.ok.injEq, updateAttempt, bind_eq_ok,
        demand_eq_ok, pure_eq_ok] at h
      obtain ⟨_, rfl, _, ⟨-, -, attempts, -, rfl⟩, rfl⟩ := h
      refine ⟨rfl, fun hfresh => ?_, _, fun r => ?_, rfl⟩
      · rw [hrevalidates] at hfresh
        cases hfresh
      · split <;> exact ⟨rfl, rfl, rfl⟩
    · exact ⟨rfl, fun _ => rfl, id, fun r => ⟨rfl, rfl, rfl⟩, (List.map_id _).symm⟩
  obtain ⟨hframe₁, haccepted, g, hg, hdiff⟩ := hframe₁
  -- the five writes touch five different tables
  refine ⟨?_, fun hfresh => ?_, g, hg, ?_⟩
  · rw [hframe₅, hframe₄, hframe₃, hframe₂, hframe₁]
  · rw [hframe₅, hframe₄, hframe₃, hframe₂]
    exact haccepted hfresh
  · rw [hframe₅, hframe₄, hframe₃, hframe₂]
    exact hdiff

/-- After an abandonment the objective of the attempt has ended, and was cancelled for no other reason. -/
theorem applyDecision_settles (h : applyDecision host identity row d observed s = (.ok row', s'))
    (hrole : row.role = .worker) (hterminal : terminalWorkerAbandonment d.action d.blocker = true) :
    CancelledFor s' identity.taskId row.attemptId (recoveryReason host row.attemptId d.action d.blocker) ∧
      ∀ o, s'.objectiveOf? identity.taskId row.attemptId = some o → o.state ≠ .active := by
  obtain ⟨-, s₁, s₂, s₃, s₄, -, -, -, hcancel, hevent⟩ := applyDecision_steps h
  have hframe := insertEvent_frame hevent
  rcases Tx.when_ok.1 hcancel with ⟨-, hrun⟩ | ⟨hnot, -⟩
  · obtain ⟨objective, hcancel, -⟩ := Tx.map_ok.1 hrun
    have hsettles := cancelObjectiveForRecovery_settles hcancel
    rw [hframe]
    exact hsettles
  · exact absurd ⟨hrole, hterminal⟩ hnot

theorem acceptedReviewKind_congr {g : DiffReviewRow → DiffReviewRow} (hplan : s'.planReviews = s.planReviews)
    (hg : ∀ r, (g r).providerAttemptId = r.providerAttemptId ∧ (g r).taskId = r.taskId ∧
      (g r).diffReviewAttemptId = r.diffReviewAttemptId)
    (hdiff : s'.diffReviews = s.diffReviews.map g) (row : AttemptRow) :
    acceptedReviewKind s' identity row = acceptedReviewKind s identity row := by
  have hfind : s'.diffReviews.find? (fun r => r.providerAttemptId = row.attemptId ∧ r.taskId = identity.taskId) =
      (s.diffReviews.find? fun r => r.providerAttemptId = row.attemptId ∧ r.taskId = identity.taskId).map g := by
    rw [hdiff, List.find?_map]
    congr 2
    funext r
    simp only [Function.comp_apply, (hg r).1, (hg r).2.1]
  unfold acceptedReviewKind
  rw [hplan, hfind]
  cases s.diffReviews.find? fun r => r.providerAttemptId = row.attemptId ∧ r.taskId = identity.taskId with
  | none => rfl
  | some diff =>
    cases s.planReviews.find? fun r => r.providerAttemptId = row.attemptId ∧ r.taskId = identity.taskId with
    | none => simp only [Option.map_some, (hg diff).2.2]
    | some plan => rfl

theorem acceptedReviewKind_unaccepted (hkind : acceptedReviewKind s identity row ≠ .invalid)
    (hid : row'.attemptId = row.attemptId) (hrole : row'.role = row.role)
    (hpointer : row'.outputPointer = row.outputPointer) (hstate : row'.state ≠ .accepted) :
    acceptedReviewKind s identity row' ≠ .invalid := by
  have hfor : ∀ start reviewId, row'.acceptedFor start reviewId = true := by
    intro start reviewId
    simp [AttemptRow.acceptedFor, hstate]
  unfold acceptedReviewKind at hkind ⊢
  rw [hrole, hid, hpointer]
  split
  · nofun
  · rename_i hsupervisor
    rw [if_neg hsupervisor] at hkind
    split
    · rename_i hp hd
      rw [hp, hd] at hkind
      exact absurd rfl hkind
    · rw [if_pos (hfor _ _)]
      nofun
    · rw [if_pos (hfor _ _)]
      nofun
    · rename_i hp hd
      rw [hp, hd] at hkind
      exact hkind

/-- A decision that leaves the row it is made for. -/
theorem AttemptRow.after_self (hstate : row.state ≠ .accepted)
    (hnext : d.next.getD row.state = row.state) : row.after d = row := by
  rw [row.after_of_unaccepted hstate, hnext]

/-- The row of the attempt after a call, with the outcome that is stored then. -/
structure Left (s s' : Store) (row : AttemptRow) (d : RecoveryDecision) : Prop where
  found : s'.providerAttempt? row.attemptId = some (row.after d)
  moved : Moved s s' row (row.after d)
  outcome : d.blocker ≠ none ∨ s.recoveryOutcome? row.attemptId = some ⟨d.action, d.blocker⟩ →
    s'.recoveryOutcome? row.attemptId = some ⟨d.action, d.blocker⟩

theorem applyDecision_left (h : applyDecision host identity row d observed s = (.ok row', s'))
    (hfound : s.providerAttempt? row.attemptId = some row) : row' = row.after d ∧ Left s s' row d := by
  obtain ⟨rfl, hmoved, hpersisted, -, -⟩ := applyDecision_ok h hfound
  refine ⟨rfl, hmoved.attempt?, hmoved, fun hstored => ?_⟩
  rcases hpersisted with ⟨hblocker, hsame⟩ | ⟨-, hpersisted⟩
  · rw [recoveryOutcome?_congr hsame]
    exact hstored.resolve_left fun hne => hne hblocker
  · exact hpersisted.outcome?

/-- An attempt at rest reports what is stored for it. -/
theorem recoveryOutcome_stored {o : Outcome} (hstored : s.recoveryOutcome? row.attemptId = some o)
    (hstate : row.state = .blocked ∨ row.state = .invalidated ∨
    (row.state = .ambiguous ∧ row.completionEvidenceFingerprint = none)) :
    recoveryOutcome s row verified maxAttempts observed = .ok o.decision := by
  unfold recoveryOutcome
  rcases hstate with hstate | hstate | ⟨hstate, hevidence⟩
  · simp only [hstate, hstored, Option.map_some]
    rfl
  · simp only [hstate, hstored, Option.map_some, Option.getD_some]
  · simp only [hstate, hevidence, hstored, ne_eq, not_true, if_false, Option.map_some, Option.getD_some]

/-- The next recovery under the persisted context has the same answer and leaves the row. -/
theorem recoveryOutcome_again (maxAttempts observed : Int)
    (hverdict : Verdict s row (verified = row.completionEvidenceFingerprint) d) (hleft : Left s s' row d)
    (hdecision : row.state = .prepared → d.blocker = none → recoveryOutcome s row verified maxAttempts observed = .ok d) :
    ∃ d', recoveryOutcome s' (row.after d) verified maxAttempts observed = .ok d' ∧ d'.action = d.action ∧
    d'.blocker = d.blocker ∧
      (row.after d).after d' = row.after d := by
  -- each verdict leaves the row where the next one is the same
  cases hverdict with
  | waits state blocker next action =>
    have hunaccepted : row.state ≠ .accepted := by rw [state]; decide
    have hrow : row.after d = row := AttemptRow.after_self hunaccepted (by rw [next]; rfl)
    refine ⟨d, ?_, rfl, rfl, by rw [hrow, hrow]⟩
    have hrows : s'.providerAttempts.rows = s.providerAttempts.rows := by
      rw [hleft.moved.rows, hrow]
      exact (Moved.same hleft.moved.found rfl).rows.symm
    rw [hrow, ← hdecision state blocker]
    simp only [recoveryOutcome, state, preparedDecision, hrows]
  | reviewed state fresh decision =>
    subst decision
    have hrow : row.after ⟨.acceptedReview, none, none⟩ = row := by
      rw [AttemptRow.after, AttemptRow.revalidated, if_neg (by rw [fresh]; decide)]
      rfl
    have hpointer : ¬ pointerStartsWith row.outputPointer "diff-review:" = true := by
      intro hdiff
      simp [AttemptRow.revalidates, state, hdiff] at fresh
    refine ⟨_, ?_, rfl, rfl, by rw [hrow, hrow]⟩
    rw [hrow]
    simp only [recoveryOutcome, state]
    exact if_neg hpointer
  | verifies evidence state decision =>
    subst decision
    have hunaccepted : row.state ≠ .accepted := by
      rcases state with hstate | hstate <;> rw [hstate] <;> decide
    rw [row.after_of_unaccepted hunaccepted]
    by_cases hverified : verified = row.completionEvidenceFingerprint
    · have hnext : (evidenceDecision row (verified = row.completionEvidenceFingerprint)).next.getD row.state = .completed := by
        rcases state with hstate | hstate <;> simp [evidenceDecision, hverified, hstate]
      rw [hnext]
      refine ⟨⟨.consumeVerifiedOutput, none, none⟩, ?_, ?_, ?_, AttemptRow.after_self (by simp) rfl⟩
      · simp [recoveryOutcome, evidence, evidenceDecision, hverified]
      · simp [evidenceDecision, hverified]
      · simp [evidenceDecision, hverified]
    · have hnext : (evidenceDecision row (verified = row.completionEvidenceFingerprint)).next.getD row.state = .ambiguous := by
        rcases state with hstate | hstate <;> simp [evidenceDecision, hverified, hstate]
      rw [hnext]
      refine ⟨⟨.blockedAmbiguousTurn, some "completion-evidence-unverified", none⟩, ?_, ?_, ?_, AttemptRow.after_self
        (by simp) rfl⟩
      · simp [recoveryOutcome, evidence, evidenceDecision, hverified]
      · simp [evidenceDecision, hverified]
      · simp [evidenceDecision, hverified]
  | stops stops =>
    have hevidence : (row.after d).completionEvidenceFingerprint = row.completionEvidenceFingerprint := by
      obtain ⟨state, review, h⟩ := row.after_eq d
      rw [h]
    have hstored := hleft.outcome stops.stored
    rw [← row.after_attemptId d] at hstored
    refine ⟨_, recoveryOutcome_stored hstored (by rw [hevidence]; exact stops.rests), rfl, rfl, AttemptRow.after_self ?_ rfl⟩
    rcases stops.rests with hstate | hstate | ⟨hstate, -⟩ <;> rw [hstate] <;> decide

theorem contextMatches_congr (h : s'.contexts = s.contexts) (attemptId : String) :
    contextMatches s' identity attemptId c = contextMatches s identity attemptId c := by
  unfold contextMatches Store.context?
  rw [h]

theorem Admitted.again (h : Admitted host s identity c row observed sealed)
    (hverdict : Verdict s row (verified = row.completionEvidenceFingerprint) d)
    (happly : applyDecision host identity row d observed s = (.ok row', s')) :
    Admitted host s' identity c (row.after d) observed sealed := by
  obtain ⟨hframe, haccepted, g, hg, hdiff⟩ := applyDecision_frame happly
  obtain ⟨state, review, hafter⟩ := row.after_eq d
  have hstate : (row.after d).state ≠ .accepted ∨ (row.after d = row ∧ row.revalidates = false) := by
    cases hverdict with
    | waits state blocker next action =>
      left
      rw [AttemptRow.after_self (by rw [state]; decide) (by rw [next]; rfl), state]
      decide
    | reviewed state fresh decision =>
      right
      subst decision
      refine ⟨?_, fresh⟩
      rw [AttemptRow.after, AttemptRow.revalidated, if_neg (by rw [fresh]; decide)]
      rfl
    | verifies evidence state decision =>
      left
      subst decision
      have hunaccepted : row.state ≠ .accepted := by
        rcases state with hstate | hstate <;> rw [hstate] <;> decide
      rw [row.after_of_unaccepted hunaccepted]
      cases decide (verified = row.completionEvidenceFingerprint) <;> rcases state with hstate | hstate <;>
        simp [evidenceDecision, hstate]
    | stops stops =>
      left
      rcases stops.rests with hstate | hstate | ⟨hstate, -⟩ <;> rw [hstate] <;> decide
  refine ⟨h.context, ?_, ?_, fun hgeneric hrowAccepted => ?_⟩
  · rw [hafter, ← h.health, hframe]
    rfl
  · rw [acceptedReviewKind_congr (by rw [hframe]) hg hdiff]
    rcases hstate with hunaccepted | ⟨hrow, -⟩
    · exact acceptedReviewKind_unaccepted h.kind (by rw [hafter]) (by rw [hafter]) (by rw [hafter]) hunaccepted
    · rw [hrow]
      exact h.kind
  · obtain ⟨hrow, hfresh⟩ := hstate.resolve_left fun hne => hne hrowAccepted
    rw [acceptedReviewKind_congr (by rw [hframe]) hg hdiff, hrow] at hgeneric
    rw [hrow] at hrowAccepted ⊢
    rw [← h.review hgeneric hrowAccepted]
    unfold requireAcceptedSupervisorReview
    rw [haccepted hfresh]

/-! ### Answers -/

variable {request : RecoverRequest} {lease : Option TransitionLease}

/-- A well-formed call under a current lease, for an attempt of the task; the context is another one than the persisted
one, or its health authorization lives. -/
structure Presented (host : Host) (s : Store) (identity : TaskIdentity) (c : RecoveryContext) (request : RecoverRequest)
    (lease : Option TransitionLease) (observed : Int) (row : AttemptRow) : Prop where
  token : isName request.attemptId = true
  limit : 1 ≤ request.maxAttempts
  evidence : ∀ evidence, request.verifiedEvidence = some evidence → isHex 64 evidence = true
  lease : Gate.requireLease s.ledger lease identity.repositoryId observed = .ok ()
  task : ∃ found, requireMatchingTask host s.ledger identity none = .ok found
  found : s.providerAttempt? request.attemptId = some row
  owner : row.taskId = identity.taskId
  context : contextMatches s identity request.attemptId c = true → validateContext host identity c = .ok () ∧
    ∃ sealed, requirePersistedHealthAuthorization host s request.attemptId c row.role row.selectedProfileIdentity
      observed = .ok sealed

/-- Recovery answers, with the drift of a context that is not the persisted one, and a second call answers the same and
leaves the attempts, their outcomes and their objectives. -/
def Answers (host : Host) (s : Store) (identity : TaskIdentity) (c : RecoveryContext) (request : RecoverRequest)
    (lease : Option TransitionLease) (observed : Int) : Prop :=
  ∃ p s', recoverAttempt host identity c request lease observed s = (.ok p, s') ∧
    (contextMatches s identity request.attemptId c = false → p.nextAction = .blockedIdentityDrift) ∧
    ∃ s'', recoverAttempt host identity c request lease observed s' = (.ok p, s'') ∧
      s''.providerAttempts = s'.providerAttempts ∧ s''.recoveryOutcomes = s'.recoveryOutcomes ∧ s''.objectives = s'.objectives

def driftOutcome : Outcome := ⟨.blockedIdentityDrift, some "identity-drift"⟩

/-- A prepared attempt that is retried or resumed: it is below the limit, or its session has its checkpoint and its
lease lives. -/
structure Waiting (host : Host) (s : Store) (identity : TaskIdentity) (c : RecoveryContext) (request : RecoverRequest)
    (observed : Int) (row : AttemptRow) : Prop where
  state : row.state = .prepared
  checkpoint : ∀ sealed, requirePersistedHealthAuthorization host s row.attemptId c row.role row.selectedProfileIdentity
    observed = .ok sealed →
    ¬ Unavailable host s identity c row sealed
  limit : row.sessionIdentity = none →
    ((s.providerAttempts.rows.filter fun r => r.taskId = row.taskId ∧ r.role = row.role).length : Int) < request.maxAttempts
  lease : row.sessionIdentity ≠ none → observed < row.processLeaseExpiresAt

/-- The state before a call lets it answer: no other outcome is stored, no constraint is in the way, the accepted review
is in order, and the objective of a Worker that is abandoned can end. -/
structure Settleable (host : Host) (s : Store) (identity : TaskIdentity) (c : RecoveryContext)
    (request : RecoverRequest) (observed : Int) (row : AttemptRow) : Prop where
  clock : ClockFits observed
  drift : contextMatches s identity row.attemptId c = false → Compatible s row.attemptId driftOutcome ∧
    (row.state = .accepted → pointerStartsWith row.outputPointer "diff-review:" = true)
  unverified : contextMatches s identity row.attemptId c = true → row.state = .completed ∨ row.state = .ambiguous →
    row.completionEvidenceFingerprint ≠ none → request.verifiedEvidence ≠ row.completionEvidenceFingerprint →
    Compatible s row.attemptId Provider.unverified
  stale : contextMatches s identity row.attemptId c = true → row.revalidates = true → Compatible s row.attemptId revalidation
  review : contextMatches s identity row.attemptId c = true → acceptedReviewKind s identity row ≠ .invalid ∧
    (acceptedReviewKind s identity row = .generic → row.state = .accepted →
      requireAcceptedSupervisorReview s identity row c = .ok ())
  worker : row.role = .worker → contextMatches s identity row.attemptId c = false ∨ (row.completionEvidenceFingerprint = none ∧
      ¬ Waiting host s identity c request observed row) →
    isToken row.attemptId = true ∧ ∀ o, s.objectiveOf? row.taskId row.attemptId = some o →
      ∀ reason, o.state = .cancelled reason →
      ∃ outcome, s.recoveryOutcome? row.attemptId = some outcome ∧
        reason = recoveryReason host row.attemptId outcome.action outcome.blocker

theorem recoverAttempt_of_decision (hp : Presented host s identity c request lease observed row)
    (hdecision : recoveryDecision host s identity c row request.verifiedEvidence request.maxAttempts observed = .ok d)
    (happly : applyDecision host identity row d observed s = (.ok row', s')) :
    recoverAttempt host identity c request lease observed s = (.ok (projection row' d.action d.blocker), s') := by
  obtain ⟨found, htask⟩ := hp.task
  have hevidence : (request.verifiedEvidence.forM fun evidence => requireFingerprint evidence
    "verified completion evidence") = .ok () := by
    cases hverified : request.verifiedEvidence with
    | none => rfl
    | some evidence => exact refuse_of_not (by simp [hp.evidence evidence hverified])
  have hrun : recover host identity c request lease observed s = (.ok (projection row' d.action d.blocker), s') := by
    simp only [recover, Tx.query_bind, exists_unit]
    refine ⟨hp.lease, found, htask, row, attemptRow_ok.2 ⟨hp.found, hp.owner⟩, d, hdecision, ?_⟩
    exact Tx.bind_ok.2 ⟨row', s', happly, rfl⟩
  refine Tx.check_bind.2 ⟨(), refuse_of_not (by simp [hp.token]), Tx.check_bind.2 ⟨(), refuse_of_not ?_, ?_⟩⟩
  · have := hp.limit
    omega
  · exact Tx.check_bind.2 ⟨(), hevidence, transaction_ok.2 hrun⟩

theorem abandonmentState_wellFormed (h : row.wellFormed = true) (hreview : row.acceptedReviewIdentity = none) :
    { row with state := abandonmentState row }.wellFormed = true := by
  refine wellFormed_restate h hreview ?_
  unfold abandonmentState
  split
  · exact .inr (.inr ⟨rfl, ‹_›⟩)
  · exact .inl rfl

theorem identityDrift_applies (h : Recoverable s row) (hs : Settleable host s identity c request observed row)
    (hdrift : contextMatches s identity row.attemptId c = false) : Applies host s row (identityDrift row) observed := by
  obtain ⟨hcompatible, haccepted⟩ := hs.drift hdrift
  refine ⟨hs.clock, ?_, fun _ => hcompatible, fun hrole _ => ?_⟩
  · by_cases hstate : row.state = .accepted
    · have hrevalidates : row.revalidates = true := by
        simp only [AttemptRow.revalidates, decide_eq_true_eq]
        exact ⟨hstate, haccepted hstate⟩
      have hrow : row.revalidated = { row with state := .invalidated, acceptedReviewIdentity := none } := if_pos hrevalidates
      have hwellFormed := AttemptRow.revalidated_wellFormed h.wellFormed
      rw [AttemptRow.after, hrow]
      rw [hrow] at hwellFormed
      exact abandonmentState_wellFormed hwellFormed rfl
    · rw [row.after_of_unaccepted hstate]
      exact abandonmentState_wellFormed h.wellFormed (h.unreviewed hstate)
  · obtain ⟨htoken, hobjective⟩ := hs.worker hrole (.inl hdrift)
    refine ⟨htoken, ?_, (by decide : driftOutcome.cancels), fun o ho old hold => ?_⟩
    · rw [row.after_of_unaccepted (h.worker hrole).1]
      exact abandonmentState_cases row
    · obtain ⟨outcome, hstored, rfl⟩ := hobjective o ho old hold
      rcases hcompatible with hnone | hsome
      · rw [hnone] at hstored
        cases hstored
      · rw [hsome] at hstored
        cases hstored
        rfl

/-- The states completion evidence leaves an attempt in. -/
theorem evidenceDecision_wellFormed (h : Recoverable s row) (hevidence : row.completionEvidenceFingerprint ≠ none)
    (hstate : row.state = .completed ∨ row.state = .ambiguous) (verified : Bool) :
    (row.after (evidenceDecision row verified)).wellFormed = true := by
  have hpointer := h.sound.evidence hevidence
  have hturn := (h.sound.output hpointer).1
  have hunaccepted : row.state ≠ .accepted := by
    rcases hstate with hstate | hstate <;> rw [hstate] <;> decide
  have hreview := h.unreviewed hunaccepted
  have hlease := (wellFormed_iff.1 h.wellFormed).2.2.2.2
  rw [row.after_of_unaccepted hunaccepted]
  cases verified with
  | true =>
    have hnext : (evidenceDecision row true).next.getD row.state = .completed := by
      rcases hstate with hstate | hstate <;> simp [evidenceDecision, hstate]
    rw [hnext, wellFormed_iff]
    exact ⟨fun hnone => absurd hnone hturn, fun _ => (by intro hprepared; cases hprepared),
      fun _ => ⟨hpointer, hevidence⟩, fun h => absurd hreview h, hlease⟩
  | false =>
    have hnext : (evidenceDecision row false).next.getD row.state = .ambiguous := by
      rcases hstate with hstate | hstate <;> simp [evidenceDecision, hstate]
    rw [hnext]
    exact wellFormed_restate h.wellFormed hreview (.inr (.inr ⟨rfl, hturn⟩))

theorem Stops.not_waiting (stops : Stops s row d) (h : Recoverable s row)
    (hadmitted : Admitted host s identity c row observed sealed)
    (hdecision : matchedDecision host s identity c row request.verifiedEvidence request.maxAttempts observed = .ok d) :
    ¬ Waiting host s identity c request observed row := by
  intro hwaiting
  rw [matchedDecision_eq hadmitted, if_neg (hwaiting.checkpoint sealed hadmitted.health), recoveryOutcome,
    hwaiting.state, Except.ok.injEq] at hdecision
  have hblocker : d.blocker = none := by
    rw [← hdecision, preparedDecision]
    split
    · rename_i hsession
      rw [staleDecision, if_neg (not_le.2 (hwaiting.lease hsession))]
      rfl
    · rename_i hsession
      rw [if_neg (not_le.2 (hwaiting.limit (not_not.1 hsession)))]
  rcases stops.stored with hsome | hstored
  · exact hsome hblocker
  · rw [h.unsettled (.inl hwaiting.state)] at hstored
    cases hstored

theorem Verdict.applies (h : Recoverable s row) (hs : Settleable host s identity c request observed row)
    (hadmitted : Admitted host s identity c row observed sealed)
    (hmatch : contextMatches s identity row.attemptId c = true)
    (hdecision : matchedDecision host s identity c row request.verifiedEvidence request.maxAttempts observed = .ok d)
    (hverdict : Verdict s row (request.verifiedEvidence = row.completionEvidenceFingerprint) d) :
    Applies host s row d observed := by
  cases hverdict with
  | waits state blocker next action =>
    have hrow : row.after d = row := AttemptRow.after_self (by rw [state]; decide) (by rw [next]; rfl)
    refine ⟨hs.clock, by rw [hrow]; exact h.wellFormed, fun hsome => absurd blocker hsome, fun _ hterminal => ?_⟩
    rcases action with haction | haction <;> simp [terminalWorkerAbandonment, haction] at hterminal
  | reviewed state fresh decision =>
    subst decision
    have hrow : row.after ⟨.acceptedReview, none, none⟩ = row := by
      rw [AttemptRow.after, AttemptRow.revalidated, if_neg (by rw [fresh]; decide)]
      rfl
    exact ⟨hs.clock, by rw [hrow]; exact h.wellFormed, fun hsome => absurd rfl hsome, fun _ hterminal => (by cases hterminal)⟩
  | verifies evidence state decision =>
    subst decision
    refine ⟨hs.clock, evidenceDecision_wellFormed h evidence state _, fun hblocker => ?_, fun _ hterminal => ?_⟩
    · by_cases hverified : request.verifiedEvidence = row.completionEvidenceFingerprint
      · simp [evidenceDecision, hverified] at hblocker
      · have hcompatible := hs.unverified hmatch state evidence hverified
        simpa [evidenceDecision, hverified, Provider.unverified] using hcompatible
    · rw [evidenceDecision_not_terminal] at hterminal
      cases hterminal
  | stops stops =>
    refine ⟨hs.clock, stops.wellFormed, fun _ => ?_, fun hrole _ => ?_⟩
    · rcases stops.compatible with ⟨hrevalidates, hsame⟩ | hcompatible
      · rw [hsame]
        exact hs.stale hmatch hrevalidates
      · exact hcompatible
    · obtain ⟨hevidence, hstate, hcancels⟩ := stops.worker hrole
      obtain ⟨htoken, hobjective⟩ := hs.worker hrole (.inr ⟨hevidence, stops.not_waiting h hadmitted hdecision⟩)
      refine ⟨htoken, hstate, hcancels, fun o ho old hold => ?_⟩
      obtain ⟨outcome, hstored, rfl⟩ := hobjective o ho old hold
      rcases stops.compatible with ⟨hrevalidates, -⟩ | hnone | hsome
      · simp only [AttemptRow.revalidates, decide_eq_true_eq] at hrevalidates
        exact absurd hrevalidates.1 (h.worker hrole).1
      · rw [hnone] at hstored
        cases hstored
      · rw [hsome] at hstored
        cases hstored
        rfl

/-- The next decision has the same answer and leaves the row. -/
structure Again (host : Host) (s' : Store) (identity : TaskIdentity) (c : RecoveryContext) (row' : AttemptRow)
    (request : RecoverRequest) (observed : Int) (d d' : RecoveryDecision) : Prop where
  decision : recoveryDecision host s' identity c row' request.verifiedEvidence request.maxAttempts observed = .ok d'
  action : d'.action = d.action
  blocker : d'.blocker = d.blocker
  leaves : row'.after d' = row'

theorem identityDrift_again (request : RecoverRequest)
    (happly : applyDecision host identity row (identityDrift row) observed s = (.ok row', s'))
    (hdrift : contextMatches s identity row.attemptId c = false) :
    ∃ d', Again host s' identity c (row.after (identityDrift row)) request observed (identityDrift row) d' := by
  obtain ⟨state, review, hafter⟩ := row.after_eq (identityDrift row)
  obtain ⟨hframe, -, -⟩ := applyDecision_frame happly
  have hstate : (row.after (identityDrift row)).state = abandonmentState row := rfl
  have habandonment : abandonmentState (row.after (identityDrift row)) = abandonmentState row := by
    rw [hafter]
    rfl
  refine ⟨identityDrift (row.after (identityDrift row)), ?_, rfl, rfl, AttemptRow.after_self ?_ ?_⟩
  · have hstill : contextMatches s' identity (row.after (identityDrift row)).attemptId c = false := by
      rw [row.after_attemptId, contextMatches_congr (by rw [hframe])]
      exact hdrift
    exact if_neg (by rw [hstill]; nofun)
  · rw [hstate]
    rcases abandonmentState_cases row with hcase | hcase <;> rw [hcase] <;> nofun
  · rw [hstate]
    exact habandonment

section

variable (happly : applyDecision host identity row d observed s = (.ok row', s'))

include happly

theorem Verdict.again (hadmitted : Admitted host s identity c row observed sealed)
    (hfound : s.providerAttempt? row.attemptId = some row) (hmatch : contextMatches s identity row.attemptId c = true)
    (hdecision : matchedDecision host s identity c row request.verifiedEvidence request.maxAttempts observed = .ok d)
    (hverdict : Verdict s row (request.verifiedEvidence = row.completionEvidenceFingerprint) d) : ∃ d',
    Again host s' identity c (row.after d) request observed d d' := by
  obtain ⟨hframe, -, -⟩ := applyDecision_frame happly
  obtain ⟨-, hleft⟩ := applyDecision_left happly hfound
  have hstill : contextMatches s' identity (row.after d).attemptId c = true := by
    rw [row.after_attemptId, contextMatches_congr (by rw [hframe])]
    exact hmatch
  have hagain := hadmitted.again hverdict happly
  rw [matchedDecision_eq hadmitted] at hdecision
  have havailable : ¬ Unavailable host s' identity c (row.after d) sealed := by
    rintro ⟨hprepared, hcheckpoint⟩
    cases hverdict with
    | waits state blocker next action =>
      -- the attempt waits as it was, and its checkpoint was there
      have hrow : row.after d = row := AttemptRow.after_self (by rw [state]; decide) (by rw [next]; rfl)
      rw [hrow] at hprepared hcheckpoint
      have hbefore : Unavailable host s identity c row sealed := by
        refine ⟨hprepared, ?_⟩
        rw [hframe] at hcheckpoint
        exact hcheckpoint
      rw [if_pos hbefore, Except.ok.injEq] at hdecision
      rw [← hdecision] at blocker
      cases blocker
    | reviewed state fresh decision =>
      subst decision
      rw [AttemptRow.after, AttemptRow.revalidated, if_neg (by rw [fresh]; decide)] at hprepared
      cases state.symm.trans hprepared
    | verifies evidence state decision =>
      subst decision
      have hunaccepted : row.state ≠ .accepted := by
        rcases state with hstate | hstate <;> rw [hstate] <;> decide
      rw [row.after_of_unaccepted hunaccepted] at hprepared
      revert hprepared
      cases decide (request.verifiedEvidence = row.completionEvidenceFingerprint) <;>
        rcases state with hstate | hstate <;> simp [evidenceDecision, hstate]
    | stops stops =>
      rcases stops.rests with hstate | hstate | ⟨hstate, -⟩ <;> rw [hprepared] at hstate <;> cases hstate
  obtain ⟨d', hd', haction, hblocker, hleaves⟩ := recoveryOutcome_again request.maxAttempts observed
    hverdict hleft fun hprepared hnone => by
      split at hdecision
      · cases hdecision
        cases hnone
      · exact hdecision
  refine ⟨d', ?_, haction, hblocker, hleaves⟩
  rw [recoveryDecision, if_pos hstill, matchedDecision_eq hagain, if_neg havailable]
  exact hd'

/-- The same call is well formed after it has gone through. -/
theorem Presented.again (hp : Presented host s identity c request lease observed row) :
    Presented host s' identity c request lease observed (row.after d) := by
  obtain ⟨-, hid⟩ := providerAttempt?_eq_some.1 hp.found
  obtain ⟨-, hleft⟩ := applyDecision_left happly (by rw [hid]; exact hp.found)
  obtain ⟨hframe, -, -⟩ := applyDecision_frame happly
  obtain ⟨state, review, hafter⟩ := row.after_eq d
  have hledger : s'.ledger = s.ledger := by rw [hframe]
  refine ⟨hp.token, hp.limit, hp.evidence, by rw [hledger]; exact hp.lease, by rw [hledger]; exact hp.task, ?_, ?_, fun hmatch => ?_⟩
  · rw [← hid]
    exact hleft.found
  · rw [row.after_taskId]
    exact hp.owner
  · rw [contextMatches_congr (by rw [hframe])] at hmatch
    obtain ⟨hcontext, sealed, hhealth⟩ := hp.context hmatch
    refine ⟨hcontext, sealed, ?_⟩
    rw [hafter, ← hhealth, hframe]
    rfl

/-- What went through once goes through again. -/
theorem Applies.again {d' : RecoveryDecision} (h : Applies host s row d observed)
    (hfound : s.providerAttempt? row.attemptId = some row) (howner : row.taskId = identity.taskId)
    (hagain : Again host s' identity c (row.after d) request observed d d') :
    Applies host s' (row.after d) d' observed := by
  obtain ⟨-, hleft⟩ := applyDecision_left happly hfound
  refine ⟨h.clock, by rw [hagain.leaves]; exact h.wellFormed, fun hblocker => .inr ?_, fun hrole hterminal => ?_⟩
  · rw [hagain.blocker] at hblocker
    rw [row.after_attemptId, hagain.action, hagain.blocker]
    exact hleft.outcome (.inl hblocker)
  · rw [row.after_role] at hrole
    rw [hagain.action, hagain.blocker] at hterminal ⊢
    obtain ⟨htoken, hstate, hcancels, -⟩ := h.worker hrole hterminal
    rw [hagain.leaves, row.after_attemptId, row.after_taskId, howner]
    exact ⟨htoken, hstate, hcancels, (applyDecision_settles happly hrole hterminal).1⟩

/-- A call that goes through is answered the same once more. -/
theorem Again.answers {d' : RecoveryDecision} (hp : Presented host s identity c request lease observed row)
    (hdecision : recoveryDecision host s identity c row request.verifiedEvidence request.maxAttempts observed = .ok d)
    (happlies : Applies host s row d observed) (hagain : Again host s' identity c (row.after d) request observed d d')
    (hdrift : contextMatches s identity request.attemptId c = false → d.action = .blockedIdentityDrift) :
    Answers host s identity c request lease observed := by
  obtain ⟨-, hid⟩ := providerAttempt?_eq_some.1 hp.found
  have hfound : s.providerAttempt? row.attemptId = some row := by rw [hid]; exact hp.found
  obtain ⟨rfl, hleft⟩ := applyDecision_left happly hfound
  have hp' := hp.again happly
  have hfound' : s'.providerAttempt? (row.after d).attemptId = some (row.after d) := by
    rw [row.after_attemptId]
    exact hleft.found
  have happlies' := happlies.again happly hfound hp.owner hagain
  obtain ⟨s'', happly'⟩ := applyDecision_succeeds hfound' hp'.owner
    (by rw [← hagain.leaves]; exact happlies'.wellFormed) happlies'
  rw [hagain.leaves] at happly'
  refine ⟨_, s', recoverAttempt_of_decision hp hdecision happly, hdrift, s'', ?_, ?_⟩
  · have hrun := recoverAttempt_of_decision hp' hagain.decision happly'
    rw [hagain.action, hagain.blocker] at hrun
    exact hrun
  · obtain ⟨-, hmoved, hpersisted, hended, -⟩ := applyDecision_ok happly' hfound'
    refine ⟨?_, ?_, ?_⟩
    · exact Table.ext (hmoved.rows.trans (Moved.same hfound' rfl).rows.symm)
    · rcases hpersisted with ⟨-, hsame⟩ | ⟨hblocker, ⟨hnone, -⟩ | ⟨-, hsame⟩⟩
      · exact hsame
      · rw [hagain.blocker] at hblocker
        rw [row.after_attemptId, hleft.outcome (.inl hblocker)] at hnone
        cases hnone
      · exact hsame
    · rcases hended with hsame | ⟨hrole, hterminal, hsame | ⟨o, ho, hactive, -⟩⟩
      · exact hsame
      · exact hsame
      · rw [row.after_role] at hrole
        rw [hagain.action, hagain.blocker] at hterminal
        rw [row.after_attemptId] at ho
        exact absurd hactive ((applyDecision_settles happly hrole hterminal).2 o ho)

end

/-- Recovery answers wherever the state before the call lets it. -/
theorem Recoverable.answers (h : Recoverable s row) (hp : Presented host s identity c request lease observed row)
    (hs : Settleable host s identity c request observed row) : Answers host s identity c request lease observed := by
  obtain ⟨-, hid⟩ := providerAttempt?_eq_some.1 hp.found
  have hfound : s.providerAttempt? row.attemptId = some row := by rw [hid]; exact hp.found
  cases hmatch : contextMatches s identity row.attemptId c with
  | false =>
    have happlies := identityDrift_applies h hs hmatch
    obtain ⟨s', happly⟩ := applyDecision_succeeds hfound hp.owner h.wellFormed happlies
    obtain ⟨d', hagain⟩ := identityDrift_again request happly hmatch
    exact hagain.answers happly hp (if_neg (by rw [hmatch]; nofun)) happlies fun _ => rfl
  | true =>
    obtain ⟨hcontext, sealed, hhealth⟩ := hp.context (by rw [← hid]; exact hmatch)
    obtain ⟨hkind, hreview⟩ := hs.review hmatch
    have hadmitted : Admitted host s identity c row observed sealed := ⟨hcontext, by rw [hid]; exact hhealth, hkind, hreview⟩
    obtain ⟨d, hdecision, hverdict⟩ := matchedDecision_verdict request.verifiedEvidence request.maxAttempts h hadmitted
    have happlies := hverdict.applies h hs hadmitted hmatch hdecision
    obtain ⟨s', happly⟩ := applyDecision_succeeds hfound hp.owner h.wellFormed happlies
    obtain ⟨d', hagain⟩ := hverdict.again happly hadmitted hfound hmatch hdecision
    refine hagain.answers happly hp (by rw [recoveryDecision, if_pos hmatch]; exact hdecision) happlies fun hdrift => ?_
    rw [← hid, hmatch] at hdrift
    cases hdrift

end Call

end Roundwright.Provider
