/-
Candidate movement. The validator discards a graph of another binding, so an activation under a new
binding should not depend on the version that is current. It does not, exactly as long as that version
still verifies: `activate` replays it first, against the seals its tasks have now.
-/
import Roundwright.Dependency.ActivationFrame

namespace Roundwright.Dependency

open Lib State

/-! ## Activation without a current version -/

/-- The store with no current version, everything else as it is. -/
def Store.withoutCurrent (s : Store) : Store := { s with graphCurrent := none }

section Movement

variable {host : Host} {s s' : Store} {proposal : DependencyProposal} {binding : DependencyGraphBinding}
  {version : Token} {subset : AffectedSubset} {derived : TaskIdentity} {active : GraphSnapshot}

theorem WF.withoutCurrent (h : WF host s) : WF host s.withoutCurrent := by
  have hg : Grows s s.withoutCurrent := ⟨.refl _, fun _ r hr => ⟨r.state, hr, fun _ => rfl⟩,
    fun _ _ _ => ⟨fun _ hq => hq, rfl, fun _ _ _ => rfl⟩, fun _ _ _ _ => ⟨rfl, rfl, rfl, rfl, rfl⟩, fun _ => .refl,
    fun _ _ hr => ⟨hr, rfl⟩, fun _ _ hr => ⟨hr, rfl, rfl, rfl⟩, fun _ _ hr => hr⟩
  exact h.of_same hg rfl rfl rfl rfl rfl

theorem activationEvidence_withoutCurrent (h : WF host s) :
    activationEvidence host s.withoutCurrent proposal binding = activationEvidence host s proposal binding := by
  simp only [activationEvidence, h.verifies, h.withoutCurrent.verifies]
  rfl

theorem planActivation_moved (hne : active.binding ≠ some binding) :
    planActivation host s.withoutCurrent proposal subset binding derived .empty =
      planActivation host s proposal subset binding derived active := by
  have hvalidate : ∀ provenance, validate host proposal subset binding .empty provenance =
      validate host proposal subset binding active provenance := fun provenance => by
    rw [← validate_under host proposal subset binding active, GraphSnapshot.under_of_ne hne]
  have hnext : ∀ edges, nextSnapshot .empty subset edges proposal.proposalId binding =
      nextSnapshot active subset edges proposal.proposalId binding := fun edges => by
    rw [← nextSnapshot_under active, GraphSnapshot.under_of_ne hne]
  have hempty : GraphSnapshot.empty.binding ≠ some binding := by simp [GraphSnapshot.binding, GraphSnapshot.empty]
  simp only [planActivation, hvalidate, hnext, if_neg hne, if_neg hempty]
  rfl

theorem writeActivation_withoutCurrent (host : Host) (version : Token) (binding : DependencyGraphBinding)
    (w : Option GraphWrite) (d : DecisionRow) (s : Store) :
    writeActivation host version binding w d s.withoutCurrent =
      (writeActivation host version binding w d s).map fun s' =>
        { s' with graphCurrent := w.map fun _ => version } := by
  cases w with
  | none =>
    simp only [writeActivation, ok_bind]
    rw [show s.withoutCurrent.graphDecisions = s.graphDecisions from rfl]
    cases insertRow s.graphDecisions d <;> rfl
  | some w =>
    have hsame : writeVersion host version binding w s.withoutCurrent = writeVersion host version binding w s := rfl
    simp only [writeActivation, hsame]
    cases hv : writeVersion host version binding w s with
    | error e => rfl
    | ok s₁ =>
      have hcur := (writeVersion_ok hv).current
      rw [ok_bind, Option.map_some, ← hcur]
      cases insertRow s₁.graphDecisions d <;> rfl

/-- Once its evidence and the current graph are read, `activate` replays the decision or takes one. -/
theorem activate_eq (hev : activationEvidence host s proposal binding = .ok (subset, derived))
    (hcur : readCurrent host s = .ok active) :
    activate host proposal binding version s =
      match s.decision? proposal.proposalId with
      | some row => (rewrap (replayDecision host proposal subset binding version row) activationError, s)
      | none => match planActivation host s proposal subset binding derived active with
        | .error e => (.error (activationError e), s)
        | .ok (validation, w) =>
          let row := decisionRow host proposal subset binding version validation w
          match writeActivation host version binding w row s with
          | .error e => (.error (activationError e), s)
          | .ok s' => (.ok ⟨row.proposalId, row.decision, row.reasonCode, row.decisionDigest, row.graphVersionId⟩, s') := by
  have hbody : activateBody host proposal binding version s = (match s.decision? proposal.proposalId with
      | some row => Tx.check (replayDecision host proposal subset binding version row)
      | none => decideActivation host proposal subset binding version derived active) s := by
    rw [activateBody, Tx.run_query_bind, hev]
    dsimp only
    rw [Tx.run_query_bind, hcur]
    dsimp only
    exact Tx.run_query_bind _ _ s
  simp only [activate, transaction, hbody]
  cases s.decision? proposal.proposalId with
  | some row =>
    simp only [Tx.check]
    cases replayDecision host proposal subset binding version row <;> rfl
  | none =>
    simp only [decideActivation, Tx.run_query_bind, Tx.run_write_bind]
    cases planActivation host s proposal subset binding derived active with
    | error e => rfl
    | ok r =>
      dsimp only
      cases writeActivation host version binding r.2 (decisionRow host proposal subset binding version r.1 r.2) s <;> rfl

/-! ## Starting over -/

/-- `activate` takes the decision and writes the rows it would with no version current, and a version
it writes follows none. -/
structure StartsOver (host : Host) (s : Store) (proposal : DependencyProposal) (binding : DependencyGraphBinding)
    (version : Token) : Prop where
  same : ∃ current, activate host proposal binding version s.withoutCurrent =
    ((activate host proposal binding version s).1, { (activate host proposal binding version s).2 with graphCurrent := current })
  first : ∀ row, (activate host proposal binding version s).2.version? version = some row → row.predecessor = none

theorem StartsOver.result (h : StartsOver host s proposal binding version) :
    (activate host proposal binding version s.withoutCurrent).1 = (activate host proposal binding version s).1 := by
  obtain ⟨current, hsame⟩ := h.same
  rw [hsame]

/-- Over a graph of another binding an activation starts over. -/
theorem activate_moved (hwf : WF host s) (hg : GraphWF host s)
    (hev : activationEvidence host s proposal binding = .ok (subset, derived)) (hcur : readCurrent host s = .ok active)
    (hne : active.binding ≠ some binding) (hfresh : s.version? version = none) :
    StartsOver host s proposal binding version := by
  have hev' : activationEvidence host s.withoutCurrent proposal binding = .ok (subset, derived) := by
    rw [activationEvidence_withoutCurrent hwf, hev]
  have hempty : readCurrent host s.withoutCurrent = .ok .empty := rfl
  have hreal : activate host proposal binding version s = _ := activate_eq hev hcur
  have hover : activate host proposal binding version s.withoutCurrent = _ := activate_eq hev' hempty
  have hdecision : s.withoutCurrent.decision? proposal.proposalId = s.decision? proposal.proposalId := rfl
  rw [hdecision, planActivation_moved hne] at hover
  have hsame : ∃ current, activate host proposal binding version s.withoutCurrent =
      ((activate host proposal binding version s).1,
        { (activate host proposal binding version s).2 with graphCurrent := current }) := by
    rw [hreal, hover]
    cases s.decision? proposal.proposalId with
    | some row => exact ⟨none, rfl⟩
    | none =>
      cases planActivation host s proposal subset binding derived active with
      | error e => exact ⟨none, rfl⟩
      | ok r =>
        dsimp only
        rw [writeActivation_withoutCurrent]
        cases writeActivation host version binding r.2 (decisionRow host proposal subset binding version r.1 r.2) s with
        | error e => exact ⟨none, rfl⟩
        | ok s' => exact ⟨r.2.map fun _ => version, rfl⟩
  -- a decision that is there now was not there before, so this call wrote it
  refine ⟨hsame, fun row hrow => ?_⟩
  rcases hact : activate host proposal binding version s with ⟨e | a, s'⟩
  · rw [hact, activate_error hact, hfresh] at hrow
    cases hrow
  · rw [hact] at hrow
    rcases activateBody_cases (activate_ok.1 hact) with
      ⟨_, _, _, _, -, -, -, -, rfl⟩ | ⟨subset', derived', active', validation, w, hnew, -⟩
    · rw [hfresh] at hrow
      cases hrow
    · cases w with
      | none =>
        obtain ⟨s₁, hw, -, -, hf⟩ := writeActivation_ok hnew.written
        obtain ⟨-, rfl⟩ | ⟨_, hsome, -⟩ := hw
        · have hv : s'.graphVersions = s₁.graphVersions := by rw [hf]
          rw [Store.version?, hv, ← Store.version?, hfresh] at hrow
          cases hrow
        · cases hsome
      | some w =>
        have hcur' := hnew.current
        rw [hcur, Except.ok.injEq] at hcur'
        rw [hnew.adds.version?, Option.some.injEq] at hrow
        rw [← hrow]
        refine ((hnew.recorded hg).1).trans ?_
        rw [GraphSnapshot.predecessorUnder, ← hcur', GraphSnapshot.under_of_ne hne]
        rfl

/-! ### Errors that are not drift of the current version -/

theorem replayDecision_error {row : DecisionRow} {e : Error}
    (h : replayDecision host proposal subset binding version row = .error e) : activationError e ≠ graphDrifted := by
  simp only [replayDecision, bind_eq_error, refuse_eq_error, pure, Except.pure, reduceCtorEq, and_false, exists_false,
    or_false] at h
  obtain ⟨-, rfl⟩ | ⟨_, -, ⟨-, rfl⟩ | ⟨_, -, -, rfl⟩⟩ := h
  all_goals simp [activationError, graphDrifted]

theorem planActivation_error {e : Error} (hbound : binding.requireSubset subset = .ok ())
    (hscope : requireReviewScope s derived.taskId = .ok ())
    (h : planActivation host s proposal subset binding derived .empty = .error e) : activationError e ≠ graphDrifted := by
  have hbase : replacementBaseline .empty subset binding = .ok .empty :=
    if_pos (by simp [GraphSnapshot.binding, GraphSnapshot.empty])
  simp only [planActivation, bind_eq_error, trustedProvenance, refuse_eq_error, pure, Except.pure, reduceCtorEq,
    and_false, exists_false, or_false] at h
  obtain ⟨-, rfl⟩ | ⟨provenance, -, h⟩ := h
  · simp [activationError, graphDrifted]
  · obtain hv | ⟨v, -, hs | ⟨_, -, h⟩⟩ := h
    · simp only [validate, hbound, ok_bind] at hv
      split at hv
      · rw [show (if GraphSnapshot.empty.binding ≠ none ∧ GraphSnapshot.empty.binding ≠ some binding then
          GraphSnapshot.empty else .empty) = .empty from if_neg (fun hc => hc.1 rfl), hbase] at hv
        cases hv
      · cases hv
    · rw [hscope] at hs
      cases hs
    · split at h
      · rw [bind_eq_error] at h
        obtain h | ⟨_, -, h⟩ := h
        · simp only [nextSnapshot, hbase, ok_bind, GraphSnapshot.new] at h
          split at h
          · cases h
          · obtain rfl := Except.error.inj h
            simp [activationError, graphDrifted]
        · cases h
      · cases h

theorem writeActivation_error {w : Option GraphWrite} {d : DecisionRow} {e : Error}
    (h : writeActivation host version binding w d s = .error e) : e = .integrity := by
  have hinsert : ∀ {ρ : Type} {clash : ρ → ρ → Bool} {t : Table clash} {r : ρ}, insertRow t r = .error e → e = .integrity :=
    fun h => (demand_eq_error.1 h).2.symm
  have hinserts : ∀ {ρ : Type} {clash : ρ → ρ → Bool} {t : Table clash} {rs : List ρ},
      insertRows t rs = .error e → e = .integrity := fun h => (demand_eq_error.1 h).2.symm
  have hdecision : ∀ {s₁ : Store}, (do
      let graphDecisions ← insertRow s₁.graphDecisions d
      return { s₁ with graphDecisions } : Except Error Store) = .error e → e = .integrity := fun h => by
    obtain h | ⟨_, -, h⟩ := bind_eq_error.1 h
    · exact hinsert h
    · cases h
  cases w with
  | none => exact hdecision h
  | some w =>
    obtain h | ⟨_, -, h⟩ := bind_eq_error.1 h
    · simp only [writeVersion, bind_eq_error, pure, Except.pure, reduceCtorEq, and_false, exists_false, or_false] at h
      obtain h | ⟨_, -, h | ⟨_, -, h⟩⟩ := h
      · exact hinsert h
      · exact hinserts h
      · exact hinserts h
    · exact hdecision h

theorem activate_withoutCurrent_ne_drifted (hwf : WF host s)
    (hev : activationEvidence host s proposal binding = .ok (subset, derived))
    (hscope : requireReviewScope s derived.taskId = .ok ()) :
    (activate host proposal binding version s.withoutCurrent).1 ≠ .error graphDrifted := by
  obtain ⟨attempt, hacc⟩ := activationEvidence_ok hev
  rw [← activationEvidence_withoutCurrent hwf] at hev
  have hempty : readCurrent host s.withoutCurrent = .ok .empty := rfl
  rw [activate_eq hev hempty]
  cases s.withoutCurrent.decision? proposal.proposalId with
  | some row =>
    cases hr : replayDecision host proposal subset binding version row with
    | ok a => simp [rewrap, hr]
    | error e => simpa [rewrap, hr] using replayDecision_error hr
  | none =>
    cases hp : planActivation host s.withoutCurrent proposal subset binding derived .empty with
    | error e => simpa using planActivation_error hacc.bound hscope hp
    | ok r =>
      dsimp only
      cases hw : writeActivation host version binding r.2 (decisionRow host proposal subset binding version r.1 r.2)
          s.withoutCurrent with
      | error e =>
        rw [writeActivation_error hw]
        simp [activationError, graphDrifted]
      | ok s' => simp

end Movement

/-- A moved candidate starts a new aggregate exactly while the old version still verifies: once a seal
behind the current version or one of its predecessors has moved, every activation raises. -/
theorem moved_candidate_starts_over_iff {host : Host} {s : Store} (h : Reachable host s) {current : Token}
    {row : VersionRow} (hcur : s.graphCurrent = some current) (hrow : s.version? current = some row)
    {proposal : DependencyProposal} {binding : DependencyGraphBinding} (hne : row.binding ≠ binding)
    {subset : AffectedSubset} {derived : TaskIdentity}
    (hev : activationEvidence host s proposal binding = .ok (subset, derived))
    (hscope : requireReviewScope s derived.taskId = .ok ()) {version : Token} (hfresh : s.version? version = none) :
    (StartsOver host s proposal binding version ↔ SealsCurrent s current) ∧
    (¬ SealsCurrent s current → activate host proposal binding version s = (.error graphDrifted, s)) := by
  obtain ⟨chain, built, hw⟩ := h.graphWf.written current row hrow
  obtain ⟨hok, herr⟩ := verifyVersion_written h.wf hw
  have hread : readCurrent host s = verifyVersion host s current := by rw [readCurrent, hcur]
  have hdrifted : ¬ SealsCurrent s current → activate host proposal binding version s = (.error graphDrifted, s) := by
    intro hseals
    have hbody : activateBody host proposal binding version s = (.error graphDrifted, s) := by
      rw [activateBody, Tx.run_query_bind, hev]
      dsimp only
      rw [Tx.run_query_bind, hread, herr hseals]
    simp only [activate, transaction, hbody]
    rfl
  refine ⟨⟨fun hover => ?_, fun hseals => ?_⟩, hdrifted⟩
  · by_contra hseals
    have hresult := hover.result
    rw [hdrifted hseals] at hresult
    exact activate_withoutCurrent_ne_drifted h.wf hev hscope hresult
  · have hactive := hread.trans (hok hseals)
    exact activate_moved h.wf h.graphWf hev hactive (by simpa [GraphSnapshot.binding, GraphSnapshot.sealedAs] using hne) hfresh

namespace Sample

/-- A binding that differs from the one of the first version in its validator. -/
def otherBinding : DependencyGraphBinding := { graphBinding 1 with validatorDigest := digest 99 }

/-- The seal of the first task moves to a second candidate. -/
def resealed : Store := { activated with ledger := ledger 2 }

/-- A new attempt of the task, accepted at the second candidate. -/
def moved : Store := runAll (dispatch main 2 a2 n2 (some a1) session2 ++ [accept main 2 p2 a2 session2]) resealed

theorem extends_withSeals (l : State.Ledger) (seals : Lib.Table State.SealRow.clash) : l.Extends { l with seals } :=
  ⟨fun _ r h => ⟨r, h, rfl, rfl⟩, fun _ _ h => h, fun _ _ h => h, fun _ _ h => h⟩

theorem ledger_extends (candidate candidate' : Nat) : (ledger candidate).Extends (ledger candidate') :=
  extends_withSeals (ledger candidate) (ledger candidate').seals

theorem scope_withLedger (s : Store) (l : State.Ledger) : ({ s with ledger := l } : Store).scope = s.scope := rfl

theorem runAll_environment (calls : List Call) {s : Store} (h : Reachable .sample s) :
    (runAll calls s).ledger = s.ledger ∧ (runAll calls s).scope = s.scope := by
  induction calls generalizing s with
  | nil => exact ⟨rfl, rfl⟩
  | cons c rest ih =>
    obtain ⟨hledger, hscope⟩ := (c.effect h.wf.readable).environment
    obtain ⟨hledger', hscope'⟩ := ih (h.run (.single (.call c s)))
    exact ⟨hledger'.trans hledger, hscope'.trans hscope⟩

theorem activated_environment : activated.ledger = ledger 1 ∧ activated.scope = fun _ _ => .ok () := by
  obtain ⟨hledger, hscope⟩ := runAll_environment (dispatch main 1 a1 n1 none session1 ++ [accept main 1 p1 a1 session1])
    (reachable 1 [])
  obtain ⟨hledger', hscope'⟩ := (Call.effect (reachable 1 _).wf.readable
    (.activate (proposal main p1 a1) (graphBinding 1) v1)).environment
  exact ⟨hledger'.trans hledger, hscope'.trans hscope⟩

theorem resealed_reachable : Reachable .sample resealed := by
  have hext : activated.ledger.Extends (ledger 2) := activated_environment.1 ▸ ledger_extends 1 2
  exact activated_reachable.run (.single (.environment activated (ledger 2) activated.scope hext))

theorem moved_reachable : Reachable .sample moved := resealed_reachable.run (runAll_run _ _)

theorem moved_scope : moved.scope = fun _ _ => .ok () :=
  (runAll_environment _ resealed_reachable).2.trans ((scope_withLedger activated (ledger 2)).trans activated_environment.2)

theorem bothAccepted_scope : bothAccepted.scope = fun _ _ => .ok () :=
  (runAll_environment _ activated_reachable).2.trans activated_environment.2

theorem course :
    (bothAccepted.graphCurrent = some v1 ∧ (bothAccepted.version? v1).map (·.binding) = some (graphBinding 1) ∧
      verifyVersion .sample bothAccepted v1 ≠ .error graphDrifted ∧
      (activationEvidence .sample bothAccepted (proposal other p2 a2) otherBinding).isOk ∧ bothAccepted.version? v2 = none) ∧
    moved.graphCurrent = some v1 ∧ (moved.version? v1).map (·.binding) = some (graphBinding 1) ∧ graphBinding 1 ≠ graphBinding 2 ∧
      (activationEvidence .sample moved (proposal main p2 a2) (graphBinding 2)).toOption.map (·.2) = some main.identity ∧
      moved.version? v2 = none ∧ (activate .sample (proposal main p2 a2) (graphBinding 2) v2 moved).1 = .error graphDrifted ∧
      (activate .sample (proposal main p2 a2) (graphBinding 2) v2 moved.withoutCurrent).1.toOption.map
        (·.decision) = some .accepted := by
  decide +kernel

end Sample

open Sample in
/-- The proposal of a second task under another binding starts over, the first version being intact. -/
theorem moved_candidate_starts_over_other_task :
    SealsCurrent bothAccepted v1 ∧
    StartsOver .sample bothAccepted (proposal other p2 a2) otherBinding v2 := by
  obtain ⟨hcur, hbinding, hok, hev, hfresh⟩ := course.1
  obtain ⟨row, hrow, hb⟩ := Option.map_eq_some_iff.1 hbinding
  have hseals := sealsCurrent_of_verifies bothAccepted_reachable hrow hok
  cases hev' : activationEvidence .sample bothAccepted (proposal other p2 a2)
      otherBinding with
  | error e => rw [hev'] at hev; cases hev
  | ok r =>
    have hne : row.binding ≠ otherBinding := by rw [hb]; decide +kernel
    have hiff := moved_candidate_starts_over_iff bothAccepted_reachable hcur hrow hne hev'
      (by rw [requireReviewScope, bothAccepted_scope]) hfresh
    exact ⟨hseals, hiff.1.2 hseals⟩

open Sample in
/-- The seal of the task behind the current version has moved with its candidate: the proposal accepted
at the new candidate cannot be activated, though it would be if no version were current. -/
theorem moved_seal_blocks_activation :
    Reachable .sample moved ∧ moved.graphCurrent = some v1 ∧
    (moved.version? v1).map (·.binding) = some (graphBinding 1) ∧
    graphBinding 1 ≠ graphBinding 2 ∧
    (activationEvidence .sample moved (proposal main p2 a2)
      (graphBinding 2)).toOption.map (·.2) = some main.identity ∧
    requireReviewScope moved main.identity.taskId = .ok () ∧ moved.version? v2 = none ∧
    (activate .sample (proposal main p2 a2) (graphBinding 2) v2
      moved).1 = .error graphDrifted ∧
    (activate .sample (proposal main p2 a2) (graphBinding 2) v2
      moved.withoutCurrent).1.toOption.map (·.decision) = some .accepted ∧
    ¬ StartsOver .sample moved (proposal main p2 a2) (graphBinding 2) v2 := by
  obtain ⟨hcur, hbinding, hne, hev, hfresh, hreal, hover⟩ := course.2
  refine ⟨moved_reachable, hcur, hbinding, hne, hev,
    by rw [requireReviewScope, moved_scope], hfresh, hreal, hover, fun hstarts => ?_⟩
  have hresult := hstarts.result.trans hreal
  rw [hresult] at hover
  cases hover

end Roundwright.Dependency
