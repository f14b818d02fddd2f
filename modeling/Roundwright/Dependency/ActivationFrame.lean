/-
What an activation leaves alone. A call of `activate` that raises changes nothing, one that does not
accept adds only its decision, one that accepts under the current binding replaces the part of one
task, and a decided proposal is never decided again.
-/
import Roundwright.Dependency.GraphStore

namespace Roundwright.Dependency

open Lib State

/-! ## The other tasks -/

/-- An edge of a stored version that touches a member of a task. -/
def Store.Touches (s : Store) (version taskId : Token) (e : GraphEdge) : Prop :=
  s.Holds version taskId e.subjectMemberId ∨ s.Holds version taskId e.objectMemberId

/-- Every task but one has the same members and the same edges in two stored versions. -/
structure SameElsewhere (s : Store) (version : Token) (s' : Store) (version' : Token) (taskId : Token) : Prop where
  members : ∀ m, m.taskId ≠ taskId → (m ∈ s'.graphMembersOf version' ↔ m ∈ s.graphMembersOf version)
  edges : ∀ e other, other ≠ taskId →
    (e ∈ s'.graphEdgesOf version' ∧ s'.Touches version' other e ↔ e ∈ s.graphEdgesOf version ∧ s.Touches version other e)

section Frame

variable {host : Host} {s s' : Store} {proposal : DependencyProposal} {binding : DependencyGraphBinding}
  {version : Token} {subset : AffectedSubset} {derived : TaskIdentity} {active : GraphSnapshot} {validation : GraphValidation}

/-- The next graph differs from the active one only in the part of the subset's task. -/
theorem nextSnapshot_elsewhere {stored : DependencyProposal → Prop} {kept : List GraphEdge} {built : GraphSnapshot}
    (hactive : Coherent stored (active.under binding)) (hv : Validated proposal subset binding kept validation)
    (h : nextSnapshot active subset validation.edges proposal.proposalId binding = .ok built) :
    (∀ m : GraphMember, m.taskId ≠ subset.taskId → (m ∈ built.members ↔ m ∈ (active.under binding).members)) ∧
    ∀ e other, other ≠ subset.taskId →
      (e ∈ built.edges ∧ (e.subjectMemberId ∈ built.idsOf other ∨ e.objectMemberId ∈ built.idsOf other) ↔
        e ∈ (active.under binding).edges ∧ (e.subjectMemberId ∈ (active.under binding).idsOf other ∨
          e.objectMemberId ∈ (active.under binding).idsOf other)) := by
  refine ⟨fun m hm => ?_, fun e other hother => ?_⟩
  · rw [nextSnapshot_mem_members h, AffectedSubset.graphMembers, List.mem_map]
    constructor
    · rintro (⟨hold, -⟩ | ⟨a, -, rfl⟩)
      · exact hold
      · exact absurd rfl hm
    · intro hold
      exact .inl ⟨hold, hm⟩
  · rw [nextSnapshot_idsOf_other h hother, nextSnapshot_idsOf_other h hother, nextSnapshot_mem_edges h,
      GraphSnapshot.mem_keptEdges]
    refine and_congr_left fun htouch => ⟨?_, fun he => ?_⟩
    · rintro (⟨he, -⟩ | hnew)
      · exact he
      · -- a new edge lies in the activated task
        have hself : e.subjectMemberId ∈ built.idsOf subset.taskId ∧ e.objectMemberId ∈ built.idsOf subset.taskId :=
          ⟨(nextSnapshot_idsOf_self h).2 (hv.endpoints hnew).1, (nextSnapshot_idsOf_self h).2 (hv.endpoints hnew).2⟩
        rcases htouch with ht | ht
        · exact absurd (GraphSnapshot.idsOf_unique ((nextSnapshot_idsOf_other h hother).2 ht) hself.1) hother
        · exact absurd (GraphSnapshot.idsOf_unique ((nextSnapshot_idsOf_other h hother).2 ht) hself.2) hother
    · -- an edge that touches another task lies in it
      obtain ⟨owner, hs, ho⟩ := hactive.owned e he
      have howner : owner = other := by
        rcases htouch with ht | ht
        · exact GraphSnapshot.idsOf_unique hs ht
        · exact GraphSnapshot.idsOf_unique ho ht
      subst howner
      exact .inl ⟨he, fun hcon => hother (GraphSnapshot.idsOf_unique hs hcon),
        fun hcon => hother (GraphSnapshot.idsOf_unique ho hcon)⟩

/-- A version written over the current one under the same binding keeps the other tasks. -/
theorem Activates.elsewhere {w : GraphWrite}
    (h : Activates host s proposal binding version subset derived active validation (some w) s') (hwf : WF host s)
    (hg : GraphWF host s) {current : Token} {row : VersionRow} (hcur : s.graphCurrent = some current)
    (hrow : s.version? current = some row) (hb : row.binding = binding) :
    SameElsewhere s current s' version subset.taskId := by
  obtain ⟨-, attempt, hrec⟩ := h.recorded hg
  obtain ⟨chain', hw'⟩ := h.writes hg hwf
  rcases hg.readCurrent hwf h.current with ⟨hnone, -⟩ | ⟨current', row', chain, built, hcur', hw, -, rfl⟩
  · rw [hnone] at hcur; cases hcur
  · rw [hcur, Option.some.injEq] at hcur'
    subst hcur'
    have hrow' := hw.stored
    rw [hrow, Option.some.injEq] at hrow'
    subst hrow' hb
    have hcoherent : Coherent (fun p => readProposal host s p.proposalId = .ok p)
        ((built.sealedAs current row.binding).under row.binding) := by
      rw [GraphSnapshot.sealedAs_under]
      exact ⟨hw.coherent.owned, hw.coherent.parts⟩
    obtain ⟨hmembers, hedges⟩ := nextSnapshot_elsewhere hcoherent hrec.valid (by rw [← nextSnapshot_under]; exact hrec.next)
    rw [GraphSnapshot.sealedAs_under] at hmembers hedges
    refine ⟨fun m hm => ?_, fun e other hother => ?_⟩
    · rw [hw'.members, hw.members]; exact hmembers m hm
    · rw [Store.Touches, Store.Touches, hw'.holds_iff, hw'.holds_iff, hw.holds_iff, hw.holds_iff, hw'.edges, hw.edges]
      exact hedges e other hother

/-! ## Returned calls -/

theorem activate_decided {result : GraphActivation} (h : activate host proposal binding version s = (.ok result, s')) :
    ∃ d, s'.decision? proposal.proposalId = some d ∧
      result = ⟨d.proposalId, d.decision, d.reasonCode, d.decisionDigest, d.graphVersionId⟩ := by
  rcases activateBody_cases (activate_ok.1 h) with
    ⟨_, _, _, row, -, -, hrow, hreplay, rfl⟩ | ⟨subset, derived, active, validation, w, hact, rfl⟩
  · exact ⟨row, hrow, (replayDecision_ok hreplay).1⟩
  · obtain ⟨s₁, -, -, hrows, -⟩ := writeActivation_ok hact.written
    refine ⟨decisionRow host proposal subset binding version validation w, ?_, rfl⟩
    have hfree : ∀ r ∈ s.graphDecisions.rows, r.proposalId ≠ proposal.proposalId := by
      simpa [Store.decision?] using hact.undecided
    simp only [Store.decision?, hrows]
    exact find?_append_self (g := fun r : DecisionRow => r.proposalId) hfree rfl

/-- An activation that raises leaves the store as it was. -/
theorem activate_error {e : Error} (h : activate host proposal binding version s = (.error e, s')) : s' = s := by
  rcases transaction_cases (activateBody host proposal binding version) s with ⟨a, s₁, -, ht⟩ | ⟨e', -, ht⟩
  · simp [activate, ht, rewrap] at h
  · simp only [activate, ht, Prod.mk.injEq] at h
    exact h.2.symm

theorem activate_of_decided {d : DecisionRow} (hd : s.decision? proposal.proposalId = some d) :
    (∃ e, activate host proposal binding version s = (.error e, s)) ∨
    activate host proposal binding version s =
      (.ok ⟨d.proposalId, d.decision, d.reasonCode, d.decisionDigest, d.graphVersionId⟩, s) := by
  rcases hact : activate host proposal binding version s with ⟨e | result, s₁⟩
  · exact .inl ⟨e, by rw [activate_error hact]⟩
  · rcases activateBody_cases (activate_ok.1 hact) with
      ⟨_, _, _, row, -, -, hrow, hreplay, rfl⟩ | ⟨_, _, _, _, _, hact, -⟩
    · rw [hd, Option.some.injEq] at hrow
      subst hrow
      exact .inr (by rw [(replayDecision_ok hreplay).1])
    · rw [hact.undecided] at hd
      cases hd

theorem activate_not_accepted {a : GraphActivation} (h : activate host proposal binding version s = (.ok a, s'))
    (hdec : a.decision ≠ .accepted) :
    (s.decision? proposal.proposalId ≠ none ∧ s' = s) ∨
    (s.decision? proposal.proposalId = none ∧ ∃ d, d.proposalId = proposal.proposalId ∧
      s'.graphDecisions.rows = s.graphDecisions.rows ++ [d] ∧ s' = { s with graphDecisions := s'.graphDecisions }) := by
  rcases activateBody_cases (activate_ok.1 h) with
    ⟨_, _, _, d, -, -, hd, -, rfl⟩ | ⟨subset, derived, active, validation, w, hact, rfl⟩
  · exact .inl ⟨by rw [hd]; simp, rfl⟩
  · obtain ⟨-, ⟨hacc, -⟩ | ⟨-, rfl⟩⟩ := planActivation_ok hact.plan
    · exact absurd hacc hdec
    · obtain ⟨s₁, hw, -, hrows, hf⟩ := writeActivation_ok hact.written
      obtain ⟨-, rfl⟩ | ⟨_, hsome, -⟩ := hw
      · exact .inr ⟨hact.undecided, _, rfl, hrows, hf⟩
      · cases hsome

/-- An acceptance under a new version was decided by this call. -/
theorem activate_new_version (hg : GraphWF host s) {a : GraphActivation}
    (h : activate host proposal binding version s = (.ok a, s')) (hdec : a.decision = .accepted)
    (hfresh : s.version? version = none) :
    ∃ subset derived active validation w,
      Activates host s proposal binding version subset derived active validation (some w) s' := by
  rcases activateBody_cases (activate_ok.1 h) with
    ⟨_, _, _, d, -, -, hd, hreplay, -⟩ | ⟨subset, derived, active, validation, w, hact, rfl⟩
  · -- a replayed acceptance names a version that is stored
    obtain ⟨rfl, hversion⟩ := replayDecision_ok hreplay
    obtain ⟨stored, hstored⟩ := hg.decisions d (Store.decision?_eq_some.1 hd).1 version (hversion hdec)
    rw [hfresh] at hstored
    cases hstored
  · obtain ⟨-, ⟨-, built, -, rfl⟩ | ⟨hnot, -⟩⟩ := planActivation_ok hact.plan
    · exact ⟨subset, derived, active, validation, _, hact⟩
    · exact absurd hdec hnot

theorem DurablyAccepted.task {attempt : AttemptRow} (h : DurablyAccepted host s proposal binding attempt subset derived) :
    subset.taskId = attempt.taskId :=
  Subtype.ext (h.dispatched.subsetTask.trans h.dispatched.attemptTask.symm)

end Frame

/-- What one call of `activate` can do, and what every later one can. It raises and changes nothing; or
it does not accept and adds at most its decision; or it writes a new version, which under the binding
of the current one has the members and edges of every other task unchanged. Once a proposal is decided,
every later call for it raises or answers the same, and writes nothing. -/
theorem activation_frame {host : Host} {s : Store} (h : Reachable host s) (proposal : DependencyProposal)
    (binding : DependencyGraphBinding) (version : Token) :
    (∀ e s', activate host proposal binding version s = (.error e, s') → s' = s) ∧
    (∀ a s', activate host proposal binding version s = (.ok a, s') →
      (a.decision ≠ .accepted →
        (s.decision? proposal.proposalId ≠ none ∧ s' = s) ∨
        (s.decision? proposal.proposalId = none ∧ ∃ d, d.proposalId = proposal.proposalId ∧
          s'.graphDecisions.rows = s.graphDecisions.rows ++ [d] ∧ s' = { s with graphDecisions := s'.graphDecisions })) ∧
      (a.decision = .accepted → s.version? version = none →
        ∀ current row, s.graphCurrent = some current → s.version? current = some row → row.binding = binding →
        ∃ attempt, s.attempt? proposal.attemptId = some attempt ∧ s'.graphCurrent = some version ∧
          SameElsewhere s current s' version attempt.taskId) ∧
      ∀ s₂, Run host s' s₂ → ∀ proposal' binding' version', proposal'.proposalId = proposal.proposalId →
        (∃ e, activate host proposal' binding' version' s₂ = (.error e, s₂)) ∨
        activate host proposal' binding' version' s₂ = (.ok a, s₂)) := by
  -- an error leaves the store, another decision the graph, an acceptance the other tasks
  refine ⟨fun e s' hact => activate_error hact, fun a s' hact => ⟨activate_not_accepted hact, ?_, ?_⟩⟩
  · intro hdec hfresh current row hcur hrow hb
    obtain ⟨subset, derived, active, validation, w, hnew⟩ := activate_new_version h.graphWf hact hdec hfresh
    obtain ⟨attempt, hev⟩ := activationEvidence_ok hnew.evidence
    refine ⟨attempt, (readAttempt_ok.1 hev.readsAttempt).1, hnew.adds.current, ?_⟩
    rw [← hev.task]
    exact hnew.elsewhere h.wf h.graphWf hcur hrow hb
  · intro s₂ hrun proposal' binding' version' hid
    obtain ⟨d, hd, rfl⟩ := activate_decided hact
    have hrun' : (Call.activate proposal binding version).run host s = s' := by rw [Call.run, hact]
    have hstep : Step host s ((Call.activate proposal binding version).run host s) := .call _ s
    have hwf := hstep.wf h.wf
    rw [hrun'] at hwf
    have hlater := (hrun.grows hwf).decisions _ _ hd
    rw [← hid] at hlater
    exact activate_of_decided hlater

namespace Sample

/-- The proposal of a second task, accepted while the version of the first is current. -/
def bothAccepted : Store := runAll (dispatch other 1 a2 n2 none session2 ++ [accept other 1 p2 a2 session2]) activated

theorem bothAccepted_reachable : Reachable .sample bothAccepted := activated_reachable.run (runAll_run _ _)

end Sample

open Sample in
/-- The second task activates next to the first, and activating it again answers the same. -/
theorem activation_frame_second_task :
    ∃ a s', activate .sample (proposal other p2 a2) (graphBinding 1) v2
        bothAccepted = (.ok a, s') ∧ a.decision = .accepted ∧
      SameElsewhere bothAccepted v1 s' v2 other.task ∧
      (s'.graphMembersOf v2).map (·.memberId) =
        [main.first.memberId, other.first.memberId, other.second.memberId, main.second.memberId] ∧
      ((∃ e, activate .sample (proposal other p2 a2) (graphBinding 1) v2 s' =
          (.error e, s')) ∨
        activate .sample (proposal other p2 a2) (graphBinding 1) v2 s' = (.ok a, s')) := by
  obtain ⟨⟨result, s'⟩, hact⟩ : ∃ r, r = activate .sample (proposal other p2 a2)
      (graphBinding 1) v2 bothAccepted := ⟨_, rfl⟩
  have hfacts : (activate .sample (proposal other p2 a2) (graphBinding 1) v2
        bothAccepted).1.toOption.map (·.decision) = some .accepted ∧
      ((activate .sample (proposal other p2 a2) (graphBinding 1) v2
        bothAccepted).2.graphMembersOf v2).map (·.memberId) =
        [main.first.memberId, other.first.memberId, other.second.memberId, main.second.memberId] ∧
      bothAccepted.version? v2 = none ∧ bothAccepted.graphCurrent = some v1 ∧
      (bothAccepted.version? v1).map (·.binding) = some (graphBinding 1) ∧
      (bothAccepted.attempt? a2).map (·.taskId) = some other.task := by decide +kernel
  obtain ⟨hdec, hmembers, hfresh, hcur, hbinding, htask⟩ := hfacts
  rw [← hact] at hdec hmembers
  cases result with
  | error e => cases hdec
  | ok a =>
    obtain ⟨-, hframe⟩ := activation_frame bothAccepted_reachable (proposal other p2 a2)
      (graphBinding 1) v2
    obtain ⟨-, helse, hagain⟩ := hframe a s' hact.symm
    have hacc : a.decision = .accepted := Option.some.inj hdec
    obtain ⟨row, hrow, hb⟩ := Option.map_eq_some_iff.1 hbinding
    obtain ⟨attempt, hattempt, -, hsame⟩ := helse hacc hfresh v1 row hcur hrow hb
    obtain ⟨attempt', hattempt', ht⟩ := Option.map_eq_some_iff.1 htask
    obtain rfl : attempt' = attempt := Option.some.inj (hattempt'.symm.trans hattempt)
    rw [ht] at hsame
    exact ⟨a, s', hact.symm, hacc, hsame, hmembers, hagain s' .refl _ _ _ rfl⟩

end Roundwright.Dependency
