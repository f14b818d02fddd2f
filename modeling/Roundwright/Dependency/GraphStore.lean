/-
The graph store over whole runs: every version ever written is well formed, a version verifies to the
graph its activation built for as long as the seals behind it stand, and an activation touches nothing
but the part of the task it activates.
-/
import Roundwright.Dependency.GraphInvariant

namespace Roundwright.Dependency

open Lib State

/-! ## Well-formed versions -/

/-- The member ids a task holds in a stored version. -/
def Store.Holds (s : Store) (version taskId memberId : Token) : Prop :=
  ∃ m ∈ s.graphMembersOf version, m.taskId = taskId ∧ m.memberId = memberId

/-- A stored version, read off its member and edge rows. -/
structure WellFormedVersion (host : Host) (s : Store) (version : Token) : Prop where
  acyclic : Acyclic ((s.graphEdgesOf version).map (·.pair))
  pairs : ((s.graphEdgesOf version).map (·.pair)).Nodup
  memberIds : ((s.graphMembersOf version).map (·.memberId)).Nodup
  endpoints : ∀ e ∈ s.graphEdgesOf version, ∃ taskId,
    s.Holds version taskId e.subjectMemberId ∧ s.Holds version taskId e.objectMemberId
  oneProposal : ∀ m ∈ s.graphMembersOf version, ∃ p, readProposal host s p.proposalId = .ok p ∧
    (∀ id, id ∈ proposedMembers p ↔ s.Holds version m.taskId id) ∧
    ∀ e ∈ s.graphEdgesOf version, s.Holds version m.taskId e.subjectMemberId → e.proposalId = p.proposalId

section Written

variable {host : Host} {s s' : Store} {version : Token} {row : VersionRow} {built : GraphSnapshot} {chain : List Token}

theorem Written.members (h : Written host s chain version row built) : s.graphMembersOf version = built.members := by
  cases h with
  | first _ h => exact h.members
  | next _ _ _ _ h => exact h.members

theorem Written.edges (h : Written host s chain version row built) : s.graphEdgesOf version = built.edges := by
  cases h with
  | first _ h => exact h.edges
  | next _ _ _ _ h => exact h.edges

theorem Written.holds_iff (h : Written host s chain version row built) {taskId id : Token} :
    s.Holds version taskId id ↔ id ∈ built.idsOf taskId := by
  rw [Store.Holds, h.members, GraphSnapshot.mem_idsOf]

theorem Written.wellFormed (h : Written host s chain version row built) : WellFormedVersion host s version := by
  have hcanonical := h.canonical
  have hcoherent := h.coherent
  refine ⟨?_, ?_, ?_, fun e he => ?_, fun m hm => ?_⟩
  · rw [h.edges]; exact hcanonical.acyclic
  · rw [h.edges]; exact hcanonical.pairs
  · rw [h.members]; exact built.memberIds
  · rw [h.edges] at he
    obtain ⟨taskId, hs, ho⟩ := hcoherent.owned e he
    exact ⟨taskId, h.holds_iff.2 hs, h.holds_iff.2 ho⟩
  · rw [h.members] at hm
    obtain ⟨p, hp, hids, hedges⟩ := hcoherent.parts m hm
    refine ⟨p, hp, fun id => ?_, fun e he hs => ?_⟩
    · rw [h.holds_iff]; exact hids id
    · rw [h.edges] at he
      exact hedges e he (h.holds_iff.1 hs)

end Written

/-- Whatever calls are made on the two stores, every graph version is well formed. -/
theorem graph_versions_well_formed {host : Host} {s : Store} (h : Reachable host s) {row : VersionRow}
    (hrow : row ∈ s.graphVersions.rows) : WellFormedVersion host s row.graphVersionId := by
  obtain ⟨chain, built, hw⟩ := h.graphWf.written row.graphVersionId row (Store.version?_eq_some.2 ⟨hrow, rfl⟩)
  exact hw.wellFormed

namespace Sample

def v1 : Token := ⟨"v1", by decide⟩
def v2 : Token := ⟨"v2", by decide⟩

def graphBinding (candidate : Nat) : DependencyGraphBinding :=
  ⟨sha candidate, digest 1, digest 2, validatorDigest .sample⟩

/-- One accepted proposal, activated as the first version. -/
def activated : Store := (Call.activate (proposal main p1 a1) (graphBinding 1) v1).run .sample accepted

theorem activated_reachable : Reachable .sample activated :=
  (reachable 1 _).run (.single (.call _ _))

end Sample

open Sample in
theorem graph_versions_well_formed_activated :
    activated.graphVersions.rows.map (·.graphVersionId) = [v1] ∧
    (activated.graphEdgesOf v1).map (·.pair) = [(main.first.memberId, main.second.memberId)] ∧
    WellFormedVersion .sample activated v1 := by
  have hfacts : activated.graphVersions.rows.map (·.graphVersionId) = [v1] ∧
      (activated.graphEdgesOf v1).map (·.pair) = [(main.first.memberId, main.second.memberId)] := by
    decide +kernel
  obtain ⟨hids, hpairs⟩ := hfacts
  have hmem : v1 ∈ activated.graphVersions.rows.map (·.graphVersionId) := by rw [hids]; simp
  obtain ⟨row, hrow, hid⟩ := List.mem_map.1 hmem
  have hwf := graph_versions_well_formed activated_reachable hrow
  rw [hid] at hwf
  exact ⟨hids, hpairs, hwf⟩

variable {built : GraphSnapshot} {row : VersionRow}

/-! ## The writer and the verifier -/

section Builds

variable {host : Host} {s s' : Store} {proposal : DependencyProposal} {binding : DependencyGraphBinding}
  {version : Token} {subset : AffectedSubset} {derived : TaskIdentity} {active : GraphSnapshot} {validation : GraphValidation}

theorem Activates.returns {w : Option GraphWrite}
    (h : Activates host s proposal binding version subset derived active validation w s') :
    activate host proposal binding version s = (.ok ⟨proposal.proposalId, validation.decision, validation.reasonCode,
      (decisionRow host proposal subset binding version validation w).decisionDigest, w.map fun _ => version⟩, s') := by
  have hbody : activateBody host proposal binding version s = (.ok ⟨proposal.proposalId, validation.decision,
      validation.reasonCode, (decisionRow host proposal subset binding version validation w).decisionDigest,
      w.map fun _ => version⟩, s') := by
    simp only [activateBody, Tx.query_bind, Prod.exists, Except.ok.injEq, exists_eq_left']
    refine ⟨subset, derived, h.evidence, active, h.current, ?_⟩
    simp only [h.undecided, decideActivation, Tx.query_bind, Tx.write_bind, Tx.pure_ok, Prod.exists]
    exact ⟨validation, w, h.plan, s', h.written, rfl, rfl⟩
  simp only [activate, transaction_ok.2 hbody, rewrap]

/-- A call of `activate` that accepts its proposal, builds `snapshot` and writes it as `version`. -/
structure Builds (host : Host) (s : Store) (proposal : DependencyProposal) (binding : DependencyGraphBinding)
    (version : Token) (snapshot : GraphSnapshot) (s' : Store) : Prop where
  fresh : s.version? version = none
  returns : ∃ reason digest,
    activate host proposal binding version s = (.ok ⟨proposal.proposalId, .accepted, reason, digest, some version⟩, s')
  builds : ∃ subset derived active validation predecessor,
    activationEvidence host s proposal binding = .ok (subset, derived) ∧ readCurrent host s = .ok active ∧
    planActivation host s proposal subset binding derived active = .ok (validation, some ⟨snapshot, predecessor⟩)

theorem Activates.builds {w : GraphWrite}
    (h : Activates host s proposal binding version subset derived active validation (some w) s') :
    Builds host s proposal binding version w.snapshot s' := by
  obtain ⟨-, ⟨hacc, -⟩ | ⟨-, hnone⟩⟩ := planActivation_ok h.plan
  · have hret := h.returns
    rw [hacc] at hret
    exact ⟨h.adds.fresh, ⟨_, _, hret⟩, subset, derived, active, validation, w.predecessor, h.evidence, h.current, h.plan⟩
  · cases hnone

/-- What `activate` returned, as its body did. -/
theorem activate_ok {result : GraphActivation} :
    activate host proposal binding version s = (.ok result, s') ↔
      activateBody host proposal binding version s = (.ok result, s') := by
  rw [← transaction_ok, activate]
  rcases transaction (activateBody host proposal binding version) s with ⟨e | a, s₁⟩ <;> simp [rewrap]

theorem replayDecision_ok {row : DecisionRow} {result : GraphActivation}
    (h : replayDecision host proposal subset binding version row = .ok result) :
    result = ⟨row.proposalId, row.decision, row.reasonCode, row.decisionDigest, row.graphVersionId⟩ ∧
      (row.decision = .accepted → row.graphVersionId = some version) := by
  simp only [replayDecision, bind_eq_ok, exists_unit, refuse_eq_ok, not_and, not_not, pure_eq_ok] at h
  exact ⟨h.2.2.2.symm, h.2.1⟩

/-- A version that was built was written by a new decision. -/
theorem Builds.activates (h : Builds host s proposal binding version built s') (hg : GraphWF host s) :
    ∃ subset derived active validation predecessor,
      Activates host s proposal binding version subset derived active validation (some ⟨built, predecessor⟩) s' := by
  obtain ⟨reason, digest, hret⟩ := h.returns
  obtain ⟨subset, derived, active, validation, predecessor, hev, hcur, hplan⟩ := h.builds
  rcases activateBody_cases (activate_ok.1 hret) with
    ⟨_, _, _, row, -, -, hrow, hreplay, -⟩ | ⟨subset', derived', active', validation', w, hact, -⟩
  · -- a replay would name a version that is stored
    obtain ⟨hresult, hversion⟩ := replayDecision_ok hreplay
    simp only [GraphActivation.mk.injEq] at hresult
    obtain ⟨stored, hstored⟩ := hg.decisions row (Store.decision?_eq_some.1 hrow).1 version (hversion hresult.2.1.symm)
    rw [h.fresh] at hstored
    cases hstored
  · have hev' := hact.evidence
    rw [hev, Except.ok.injEq, Prod.mk.injEq] at hev'
    obtain ⟨rfl, rfl⟩ := hev'
    have hcur' := hact.current
    rw [hcur, Except.ok.injEq] at hcur'
    subst hcur'
    have hplan' := hact.plan
    rw [hplan, Except.ok.injEq, Prod.mk.injEq] at hplan'
    obtain ⟨rfl, rfl⟩ := hplan'
    exact ⟨_, _, _, _, _, hact⟩

theorem Builds.step (h : Builds host s proposal binding version built s') : Step host s s' := by
  obtain ⟨reason, digest, hret⟩ := h.returns
  have hrun : (Call.activate proposal binding version).run host s = s' := by rw [Call.run, hret]
  exact hrun ▸ .call _ s

/-- Every stored version was written by an activation in the past of the store. -/
theorem Run.writer (hr : Run host s s') (hwf : WF host s ∧ GraphWF host s) (hnone : s.version? version = none)
    (hrow : s'.version? version = some row) :
    ∃ s₀ s₁ proposal binding built chain, Run host s s₀ ∧ Builds host s₀ proposal binding version built s₁ ∧
      Run host s₁ s' ∧ row.binding = binding ∧ Written host s₁ chain version row built := by
  induction hr with
  | refl => rw [hnone] at hrow; cases hrow
  | @tail a b hpre hlast ih =>
    have hwfa := run_induction (P := fun s => WF host s ∧ GraphWF host s) (fun _ _ hs => hs.graphWf) hpre hwf
    cases ha : a.version? version with
    | some row' =>
      -- the version was there before the last step
      have hkept := ((hlast.grows hwfa.1).versions version row' ha).1
      rw [hkept, Option.some.injEq] at hrow
      subst hrow
      obtain ⟨s₀, s₁, p, binding, built, chain, h₀, hb, h₁, hrest⟩ := ih ha
      exact ⟨s₀, s₁, p, binding, built, chain, h₀, hb, h₁.tail hlast, hrest⟩
    | none =>
      -- the last step is the activation that wrote it
      have hsame : b.graphVersions ≠ a.graphVersions := fun heq => by
        rw [Store.version?, heq] at hrow
        rw [Store.version?, hrow] at ha
        cases ha
      rcases hlast.effect hwfa.1.readable with he | ⟨ledger, scope, hext, rfl⟩
      · cases he with
        | none => exact absurd rfl hsame
        | prepares he => exact absurd (by rw [he.frame]) hsame
        | claims he => exact absurd (by rw [he.frame]) hsame
        | ends he => exact absurd (by rw [he.frame]) hsame
        | accepts he => exact absurd (by rw [he.frame]) hsame
        | @activates proposal binding v subset derived active validation w _ he =>
          cases w with
          | none =>
            obtain ⟨s₁, hw, -, -, hf⟩ := writeActivation_ok he.written
            obtain ⟨-, rfl⟩ | ⟨_, hsome, -⟩ := hw
            · exact absurd (by rw [hf]) hsame
            · cases hsome
          | some w =>
            by_cases hv : version = v
            · subst hv
              rw [he.adds.version?, Option.some.injEq] at hrow
              subst hrow
              obtain ⟨chain, hw⟩ := he.writes hwfa.2 hwfa.1
              exact ⟨a, b, proposal, binding, w.snapshot, chain, hpre, he.builds, .refl, rfl, hw⟩
            · rw [he.adds.version?_old hv, ha] at hrow
              cases hrow
      · exact absurd rfl hsame

/-- The seals along a written version are looked up in the ledger alone. -/
theorem Written.sealsCurrent_congr {chain : List Token}
    (h : Written host s chain version row built) (hg : Grows s s') (hl : s'.ledger = s.ledger) :
    SealsCurrent s' version ↔ SealsCurrent s version := by
  rw [(h.grows hg).sealsCurrent_iff, h.sealsCurrent_iff]
  induction h with
  | first _ h =>
    simp only [List.mem_singleton, forall_eq, (h.grows hg).sealed_iff, h.sealed_iff, hl]
  | next _ _ _ _ h ih =>
    have hself := (h.grows hg).sealed_iff
    rw [hl, ← h.sealed_iff] at hself
    simp only [List.forall_mem_cons] at ih ⊢
    rw [hself, ih]

theorem Call.verifyVersion (hwf : WF host s) (hg : GraphWF host s) (hrow : s.version? version = some row)
    (c : Call) : verifyVersion host (c.run host s) version = verifyVersion host s version := by
  have he := c.effect hwf.readable
  have hwf' := he.wf hwf
  obtain ⟨chain, built, hw⟩ := hg.written version row hrow
  obtain ⟨hok, herr⟩ := verifyVersion_written hwf hw
  obtain ⟨hok', herr'⟩ := verifyVersion_written hwf' (hw.grows he.grows)
  have hseals := hw.sealsCurrent_congr he.grows he.environment.1
  by_cases hs : SealsCurrent s version
  · rw [hok hs, hok' (hseals.2 hs)]
  · rw [herr hs, herr' (mt hseals.1 hs)]

theorem verifyVersion_calls (hwf : WF host s) (hg : GraphWF host s)
    (hrow : s.version? version = some row) (calls : List Call) :
    verifyVersion host (calls.foldl (fun s c => c.run host s) s) version = verifyVersion host s version := by
  induction calls generalizing s with
  | nil => rfl
  | cons c rest ih =>
    have hstep : Step host s (c.run host s) := .call c s
    obtain ⟨hwf', hg'⟩ := hstep.graphWf ⟨hwf, hg⟩
    have hrow' := (((c.effect hwf.readable).grows).versions version row hrow).1
    rw [List.foldl_cons, ih hwf' hg' hrow', c.verifyVersion hwf hg hrow]

end Builds

/-- Writer and verifier agree. In every reachable store the current version, while the seals behind it
and its predecessors stand, reads as the graph the activation in its past built; a version built now
verifies to that graph after any further run, under the same proviso; and no calls on the two stores
change what the verifier says about a stored version. -/
theorem written_graph_reads_back {host : Host} {s : Store} (h : Reachable host s) :
    (∀ version, s.graphCurrent = some version → SealsCurrent s version →
      ∃ s₀ s₁ proposal binding built, Reachable host s₀ ∧ Builds host s₀ proposal binding version built s₁ ∧
        Run host s₁ s ∧ readCurrent host s = .ok (built.sealedAs version binding)) ∧
    (∀ proposal binding version built s₁ s₂, Builds host s proposal binding version built s₁ → Run host s₁ s₂ →
      SealsCurrent s₂ version → verifyVersion host s₂ version = .ok (built.sealedAs version binding)) ∧
    (∀ version row, s.version? version = some row → ∀ calls : List Call,
      verifyVersion host (calls.foldl (fun s c => c.run host s) s) version = verifyVersion host s version) := by
  refine ⟨fun version hcur hseals => ?_, fun proposal binding version built s₁ s₂ hb hrun hseals => ?_,
    fun version row hrow calls => verifyVersion_calls h.wf h.graphWf hrow calls⟩
  · obtain ⟨row, hrow⟩ := h.graphWf.current version hcur
    obtain ⟨ledger, scope, hr⟩ := h
    have hinit : WF host (.initial ledger scope) ∧ GraphWF host (.initial ledger scope) :=
      ⟨.initial host ledger scope, .initial host ledger scope⟩
    obtain ⟨s₀, s₁, proposal, binding, built, chain, h₀, hb, h₁, rfl, hw⟩ := hr.writer hinit rfl hrow
    have hwf₁ := Run.wf (h₀.tail hb.step) hinit.1
    refine ⟨s₀, s₁, proposal, row.binding, built, ⟨ledger, scope, h₀⟩, hb, h₁, ?_⟩
    rw [readCurrent, hcur]
    exact (verifyVersion_written (h₁.wf hwf₁) (hw.grows (h₁.grows hwf₁))).1 hseals
  · obtain ⟨subset, derived, active, validation, predecessor, hact⟩ := hb.activates h.graphWf
    obtain ⟨chain, hw⟩ := hact.writes h.graphWf h.wf
    have hwf₁ := (Effect.activates hact).wf h.wf
    exact (verifyVersion_written (hrun.wf hwf₁) (hw.grows (hrun.grows hwf₁))).1 hseals

theorem sealsCurrent_of_verifies {host : Host} {s : Store} (h : Reachable host s) {version : Token}
    (hrow : s.version? version = some row) (hok : verifyVersion host s version ≠ .error graphDrifted) :
    SealsCurrent s version := by
  obtain ⟨chain, built, hw⟩ := h.graphWf.written version row hrow
  by_contra hseals
  exact hok ((verifyVersion_written h.wf hw).2 hseals)

open Sample in
theorem written_graph_reads_back_activated :
    activated.graphCurrent = some v1 ∧ SealsCurrent activated v1 ∧
    ∃ s₀ s₁ proposal binding built, Reachable .sample s₀ ∧ Builds .sample s₀ proposal binding v1 built s₁ ∧
      Run .sample s₁ activated ∧ readCurrent .sample activated = .ok (built.sealedAs v1 binding) := by
  have hfacts : activated.graphCurrent = some v1 ∧ (activated.version? v1).isSome ∧
      verifyVersion .sample activated v1 ≠ .error graphDrifted := by decide +kernel
  obtain ⟨hcur, hstored, hok⟩ := hfacts
  obtain ⟨row, hrow⟩ := Option.isSome_iff_exists.1 hstored
  have hseals := sealsCurrent_of_verifies activated_reachable hrow hok
  exact ⟨hcur, hseals, (written_graph_reads_back activated_reachable).1 v1 hcur hseals⟩

end Roundwright.Dependency
