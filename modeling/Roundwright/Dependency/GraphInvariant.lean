/-
The invariant of the graph tables: every stored version was written by an activation whose evidence is
still on record, and no row names a version that is not stored. From it come the four results about
the graph store: every version is well formed, the verifier reads back what the writer built, a moved
candidate starts over exactly while the old version still verifies, and an activation touches only the
task it is about.
-/
import Roundwright.Dependency.Version

namespace Roundwright.Dependency

open Lib State

/-! ## Activations taken apart -/

section Activation

variable {host : Host} {s s' : Store} {proposal : DependencyProposal} {binding : DependencyGraphBinding}
  {version : Token} {subset : AffectedSubset} {derived : TaskIdentity} {active : GraphSnapshot} {validation : GraphValidation}
  {w : Option GraphWrite}

/-- The evidence an activation has checked. -/
structure DurablyAccepted (host : Host) (s : Store) (proposal : DependencyProposal) (binding : DependencyGraphBinding)
    (attempt : AttemptRow) (subset : AffectedSubset) (derived : TaskIdentity) : Prop where
  readsAttempt : readAttempt host s proposal.attemptId = .ok (attempt, subset)
  readsProposal : readProposal host s proposal.proposalId = .ok proposal
  accepted : attempt.state = .accepted
  bound : binding.requireSubset subset = .ok ()
  dispatched : Dispatched host s attempt subset (binding.review attempt.profileIdentity) derived
  sealCurrent : SealCurrent s.ledger derived binding.candidateSha binding.configurationDigest
  notSuperseded : s.successor? proposal.attemptId = none

theorem activationEvidence_ok (h : activationEvidence host s proposal binding = .ok (subset, derived)) :
    ∃ attempt, DurablyAccepted host s proposal binding attempt subset derived := by
  simp only [activationEvidence, bind_eq_ok, Prod.exists, exists_unit, refuse_eq_ok, not_or, not_not, rewrap_eq_ok,
    pure_eq_ok, Prod.mk.injEq] at h
  obtain ⟨attempt, subset', hread, stored, hstored, ⟨rfl, hacc⟩, hbound, derived', hauth, -, hsucc, rfl, rfl⟩ := h
  obtain ⟨hdispatched, hseal⟩ := dispatched_of_authenticated hacc hauth
  exact ⟨attempt, hread, hstored, hacc, hbound, hdispatched, hseal, hsucc⟩

/-- The version an activation under a binding follows. -/
def GraphSnapshot.predecessorUnder (active : GraphSnapshot) (binding : DependencyGraphBinding) : Option Token :=
  (active.under binding).graphVersionId

theorem GraphSnapshot.predecessorUnder_eq (active : GraphSnapshot) (binding : DependencyGraphBinding) :
    (if active.binding = some binding then active.graphVersionId else none) = active.predecessorUnder binding := by
  unfold predecessorUnder under
  split <;> rfl

/-- A plan is the validator's decision, with the next graph exactly when it accepts. -/
theorem planActivation_ok (h : planActivation host s proposal subset binding derived active = .ok (validation, w)) :
    (∃ provenance, trustedProvenance host s subset binding proposal.attemptId = .ok provenance ∧
      validate host proposal subset binding active provenance = .ok validation) ∧
    ((validation.decision = .accepted ∧ ∃ built,
        nextSnapshot active subset validation.edges proposal.proposalId binding = .ok built ∧
        w = some ⟨built, active.predecessorUnder binding⟩) ∨
      (validation.decision ≠ .accepted ∧ w = none)) := by
  simp only [planActivation, bind_eq_ok, exists_unit] at h
  obtain ⟨provenance, hprov, v, hv, -, h⟩ := h
  split at h
  · rename_i hacc
    simp only [bind_eq_ok, pure_eq_ok, Prod.mk.injEq] at h
    obtain ⟨built, hbuilt, rfl, rfl⟩ := h
    exact ⟨⟨provenance, hprov, hv⟩, .inl ⟨hacc, built, hbuilt, by rw [GraphSnapshot.predecessorUnder_eq]⟩⟩
  · rename_i hacc
    simp only [pure_eq_ok, Prod.mk.injEq] at h
    obtain ⟨rfl, rfl⟩ := h
    exact ⟨⟨provenance, hprov, hv⟩, .inr ⟨hacc, rfl⟩⟩

end Activation

/-! ## The invariant -/

structure GraphWF (host : Host) (s : Store) : Prop where
  written : ∀ version row, s.version? version = some row → ∃ chain built, Written host s chain version row built
  current : ∀ version, s.graphCurrent = some version → ∃ row, s.version? version = some row
  members : ∀ r ∈ s.graphMembers.rows, ∃ row, s.version? r.graphVersionId = some row
  edges : ∀ r ∈ s.graphEdges.rows, ∃ row, s.version? r.graphVersionId = some row
  decisions : ∀ r ∈ s.graphDecisions.rows, ∀ version, r.graphVersionId = some version →
    ∃ row, s.version? version = some row

theorem GraphWF.initial (host : Host) (ledger : Ledger) (scope : String → String → Except Error Unit) :
    GraphWF host (.initial ledger scope) where
  written := fun _ _ h => by cases h
  current := fun _ h => by cases h
  members := fun _ h => by cases h
  edges := fun _ h => by cases h
  decisions := fun _ h => by cases h

section Invariant

variable {host : Host} {s s' : Store} {proposal : DependencyProposal} {binding : DependencyGraphBinding}
  {version : Token} {subset : AffectedSubset} {derived : TaskIdentity} {active : GraphSnapshot} {validation : GraphValidation}

/-- A step that leaves the graph tables alone keeps their invariant. -/
theorem GraphWF.of_same (h : GraphWF host s) (hg : Grows s s') (hversions : s'.graphVersions = s.graphVersions)
    (hmembers : s'.graphMembers = s.graphMembers) (hedges : s'.graphEdges = s.graphEdges)
    (hcurrent : s'.graphCurrent = s.graphCurrent)
    (hdecisions : ∀ r ∈ s'.graphDecisions.rows, r ∈ s.graphDecisions.rows ∨ r.graphVersionId = none) :
    GraphWF host s' := by
  have hversion : ∀ v, s'.version? v = s.version? v := fun v => by simp only [Store.version?, hversions]
  refine ⟨fun v row hrow => ?_, fun v hv => ?_, fun r hr => ?_, fun r hr => ?_, fun r hr v hv => ?_⟩
  · rw [hversion] at hrow
    obtain ⟨chain, built, hw⟩ := h.written v row hrow
    exact ⟨chain, built, hw.grows hg⟩
  · rw [hversion]; exact h.current v (hcurrent ▸ hv)
  · rw [hversion]; exact h.members r (hmembers ▸ hr)
  · rw [hversion]; exact h.edges r (hedges ▸ hr)
  · rw [hversion]
    rcases hdecisions r hr with hold | hnone
    · exact h.decisions r hold v hv
    · rw [hnone] at hv; cases hv

theorem GraphWF.readCurrent (h : GraphWF host s) (hwf : WF host s) (hr : readCurrent host s = .ok active) :
    (s.graphCurrent = none ∧ active = .empty) ∨
    ∃ current row chain built, s.graphCurrent = some current ∧ Written host s chain current row built ∧
      SealsCurrent s current ∧ active = built.sealedAs current row.binding := by
  unfold Dependency.readCurrent at hr
  split at hr
  · rename_i hnone
    exact .inl ⟨hnone, (Except.ok.inj hr).symm⟩
  · rename_i current hcurrent
    obtain ⟨row, hrow⟩ := h.current current hcurrent
    obtain ⟨chain, built, hw⟩ := h.written current row hrow
    obtain ⟨hok, herr⟩ := verifyVersion_written hwf hw
    by_cases hseals : SealsCurrent s current
    · rw [hok hseals] at hr
      exact .inr ⟨current, row, chain, built, hcurrent, hw, hseals, (Except.ok.inj hr).symm⟩
    · rw [herr hseals] at hr
      cases hr

/-- The row of the version an activation writes. -/
def GraphWrite.row (host : Host) (version : Token) (binding : DependencyGraphBinding) (w : GraphWrite) : VersionRow :=
  ⟨version, w.predecessor, w.snapshot.proposalSetDigest host, binding, w.snapshot.graphDigest host⟩

/-- An accepted activation adds one version and its decision, and no row of another version. -/
structure AddsVersion (host : Host) (s : Store) (version : Token) (binding : DependencyGraphBinding) (w : GraphWrite)
    (d : DecisionRow) (s' : Store) : Prop where
  fresh : s.version? version = none
  versions : s'.graphVersions.rows = s.graphVersions.rows ++ [w.row host version binding]
  members : s'.graphMembers.rows = s.graphMembers.rows ++ w.snapshot.members.map (⟨version, ·⟩)
  edges : s'.graphEdges.rows = s.graphEdges.rows ++ w.snapshot.edges.map (⟨version, ·⟩)
  decisions : s'.graphDecisions.rows = s.graphDecisions.rows ++ [d]
  current : s'.graphCurrent = some version

theorem Activates.adds {w : GraphWrite}
    (h : Activates host s proposal binding version subset derived active validation (some w) s') :
    AddsVersion host s version binding w (decisionRow host proposal subset binding version validation (some w)) s' := by
  obtain ⟨s₁, hw, -, hrows, hf⟩ := writeActivation_ok h.written
  obtain ⟨hnone, -⟩ | ⟨w', hsome, hw⟩ := hw
  · cases hnone
  · obtain rfl := Option.some.inj hsome
    refine ⟨?_, ?_, ?_, ?_, hrows, ?_⟩
    · simpa [Store.version?] using hw.fresh
    · rw [hf]; exact hw.versions
    · rw [hf]; exact hw.members
    · rw [hf]; exact hw.edges
    · rw [hf]; exact hw.current

variable {w : GraphWrite} {d : DecisionRow}

theorem AddsVersion.version? (h : AddsVersion host s version binding w d s') :
    s'.version? version = some (w.row host version binding) := by
  have hfresh : ∀ r ∈ s.graphVersions.rows, r.graphVersionId ≠ version := by simpa [Store.version?] using h.fresh
  simp only [Store.version?, h.versions]
  exact find?_append_self (g := fun r : VersionRow => r.graphVersionId) hfresh rfl

theorem AddsVersion.version?_old (h : AddsVersion host s version binding w d s') {v : Token} (hne : v ≠ version) :
    s'.version? v = s.version? v := by
  simp only [Store.version?, h.versions]
  exact find?_append_ne (g := fun r : VersionRow => r.graphVersionId) (Ne.symm hne)

/-- The new version holds exactly the members and edges that were built, under its one decision. -/
theorem AddsVersion.reads (h : AddsVersion host s version binding w d s') (hg : GraphWF host s)
    (hd : d.graphVersionId = some version) :
    s'.graphMembersOf version = w.snapshot.members ∧ s'.graphEdgesOf version = w.snapshot.edges ∧
    s'.decisionsOf version = [d] := by
  have hfree : ∀ {v : Token}, (∃ row, s.version? v = some row) → v ≠ version := by
    rintro v ⟨row, hrow⟩ rfl
    rw [h.fresh] at hrow
    cases hrow
  refine ⟨?_, ?_, ?_⟩
  · simp only [Store.graphMembersOf, h.members]
    rw [filter_append_all (fun r hr => decide_eq_false (hfree (hg.members r hr))) (by simp), List.map_map]
    exact List.map_id _
  · simp only [Store.graphEdgesOf, h.edges]
    rw [filter_append_all (fun r hr => decide_eq_false (hfree (hg.edges r hr))) (by simp), List.map_map]
    exact List.map_id _
  · simp only [Store.decisionsOf, h.decisions]
    exact filter_append_all (fun r hr => decide_eq_false fun heq => hfree (hg.decisions r hr version heq) rfl) (by simp [hd])

/-- The version an accepted activation writes is recorded over the graph it started from. -/
theorem Activates.recorded (h : Activates host s proposal binding version subset derived active validation (some w) s')
    (hg : GraphWF host s) :
    w.predecessor = active.predecessorUnder binding ∧ ∃ attempt, Recorded host s' version (w.row host version binding)
      (active.under binding) attempt subset proposal derived validation w.snapshot := by
  have hgrows := h.grows
  have hadds := h.adds
  obtain ⟨hm, he, hd⟩ := hadds.reads hg rfl
  obtain ⟨attempt, hev⟩ := activationEvidence_ok h.evidence
  obtain ⟨⟨provenance, hprov, hval⟩, ⟨hacc, built, hnext, hw⟩ | ⟨-, hw⟩⟩ := planActivation_ok h.plan
  · obtain rfl := Option.some.inj hw
    have hended : attempt.state ≠ .prepared := by rw [hev.accepted]; decide
    obtain ⟨hr, hintact⟩ := readAttempt_ok.1 hev.readsAttempt
    have hid := (Store.attempt?_eq_some.1 hr).2
    refine ⟨rfl, attempt, hadds.version?, hm, he, rfl, rfl, hd, hgrows.readAttempt hev.readsAttempt hended,
      hev.accepted, hgrows.readProposal hev.readsProposal, hev.dispatched.grows hgrows (by rw [hid]; exact hr) hended, ?_, hacc, ?_⟩
    · refine ⟨provenance, ?_, ?_⟩
      · rw [trustedProvenance_grows hgrows hr hintact]; exact hprov
      · rw [show (GraphWrite.row host version binding _).binding = binding from rfl, validate_under]; exact hval
    · rw [show (GraphWrite.row host version binding _).binding = binding from rfl, nextSnapshot_under]; exact hnext
  · cases hw

/-- An accepted activation writes a version along the chain of the current one, or a first version. -/
theorem Activates.writes (h : Activates host s proposal binding version subset derived active validation (some w) s')
    (hg : GraphWF host s) (hwf : WF host s) :
    ∃ chain, Written host s' chain version (w.row host version binding) w.snapshot := by
  have hgrows := h.grows
  have hfresh := h.adds.fresh
  obtain ⟨hpred, attempt, hrec⟩ := h.recorded hg
  rcases hg.readCurrent hwf h.current with ⟨-, rfl⟩ | ⟨current, row, chain, built, -, hw, -, rfl⟩
  · rw [GraphSnapshot.empty_under] at hrec
    refine ⟨[], .first (hpred.trans ?_) hrec⟩
    rw [GraphSnapshot.predecessorUnder, GraphSnapshot.empty_under]; rfl
  · by_cases hb : row.binding = binding
    · subst hb
      rw [GraphSnapshot.sealedAs_under] at hrec
      refine ⟨current :: chain, .next (hw.grows hgrows) (hpred.trans ?_) rfl (fun hmem => ?_) hrec⟩
      · rw [GraphSnapshot.predecessorUnder, GraphSnapshot.sealedAs_under]; rfl
      · obtain ⟨r, hr, hid⟩ := List.mem_map.1 (hw.chain_stored version hmem)
        rw [Store.version?_eq_some.2 ⟨hr, hid⟩] at hfresh
        cases hfresh
    · have hne : (built.sealedAs current row.binding).binding ≠ some binding := by
        simpa [GraphSnapshot.binding, GraphSnapshot.sealedAs] using hb
      rw [GraphSnapshot.under_of_ne hne] at hrec
      refine ⟨[], .first (hpred.trans ?_) hrec⟩
      rw [GraphSnapshot.predecessorUnder, GraphSnapshot.under_of_ne hne]; rfl

theorem Activates.graphWf {w : Option GraphWrite}
    (h : Activates host s proposal binding version subset derived active validation w s') (hg : GraphWF host s)
    (hwf : WF host s) : GraphWF host s' := by
  have hgrows := h.grows
  -- without a version nothing of the graph is written
  cases w with
  | none =>
    obtain ⟨s₁, hw, -, hrows, hf⟩ := writeActivation_ok h.written
    obtain ⟨-, rfl⟩ | ⟨_, hsome, -⟩ := hw
    · refine hg.of_same hgrows (by rw [hf]) (by rw [hf]) (by rw [hf]) (by rw [hf]) fun r hr => ?_
      rw [hrows, List.mem_append, List.mem_singleton] at hr
      exact hr.imp_right fun hnew => by rw [hnew]; rfl
    · cases hsome
  | some w =>
    have hadds := h.adds
    have hold : ∀ {v : Token}, (∃ row, s.version? v = some row) → ∃ row, s'.version? v = some row := by
      rintro v ⟨row, hrow⟩
      exact ⟨row, (hgrows.versions v row hrow).1⟩
    have hnew : ∃ row, s'.version? version = some row := ⟨_, hadds.version?⟩
    refine ⟨fun v row hrow => ?_, fun v hv => ?_, fun r hr => ?_, fun r hr => ?_, fun r hr v hv => ?_⟩
    · by_cases hv : v = version
      · subst hv
        rw [hadds.version?, Option.some.injEq] at hrow
        subst hrow
        obtain ⟨chain, hw⟩ := h.writes hg hwf
        exact ⟨chain, w.snapshot, hw⟩
      · rw [hadds.version?_old hv] at hrow
        obtain ⟨chain, built, hw⟩ := hg.written v row hrow
        exact ⟨chain, built, hw.grows hgrows⟩
    · rw [hadds.current, Option.some.injEq] at hv
      exact hv ▸ hnew
    · rw [hadds.members, List.mem_append, List.mem_map] at hr
      obtain hr | ⟨m, -, rfl⟩ := hr
      · exact hold (hg.members r hr)
      · exact hnew
    · rw [hadds.edges, List.mem_append, List.mem_map] at hr
      obtain hr | ⟨e, -, rfl⟩ := hr
      · exact hold (hg.edges r hr)
      · exact hnew
    · rw [hadds.decisions, List.mem_append, List.mem_singleton] at hr
      obtain hr | rfl := hr
      · exact hold (hg.decisions r hr v hv)
      · exact Option.some.inj hv ▸ hnew

theorem Effect.graphWf (he : Effect host s s') (h : GraphWF host s) (hwf : WF host s) : GraphWF host s' := by
  have hg := he.grows
  -- only an activation writes to the graph tables
  have hframe : s'.graphVersions = s.graphVersions → s'.graphMembers = s.graphMembers → s'.graphEdges = s.graphEdges →
      s'.graphCurrent = s.graphCurrent → s'.graphDecisions = s.graphDecisions → GraphWF host s' :=
    fun hv hm he hc hd => h.of_same hg hv hm he hc fun r hr => .inl (hd ▸ hr)
  cases he with
  | none => exact h
  | prepares he => exact hframe (by rw [he.frame]) (by rw [he.frame]) (by rw [he.frame]) (by rw [he.frame]) (by rw [he.frame])
  | claims he => exact hframe (by rw [he.frame]) (by rw [he.frame]) (by rw [he.frame]) (by rw [he.frame]) (by rw [he.frame])
  | ends he => exact hframe (by rw [he.frame]) (by rw [he.frame]) (by rw [he.frame]) (by rw [he.frame]) (by rw [he.frame])
  | accepts he => exact hframe (by rw [he.frame]) (by rw [he.frame]) (by rw [he.frame]) (by rw [he.frame]) (by rw [he.frame])
  | activates he => exact he.graphWf h hwf

theorem Step.graphWf (h : Step host s s') (hw : WF host s ∧ GraphWF host s) : WF host s' ∧ GraphWF host s' := by
  refine ⟨h.wf hw.1, ?_⟩
  have hg := h.grows hw.1
  rcases h.effect hw.1.readable with he | ⟨ledger, scope, hext, rfl⟩
  · exact he.graphWf hw.2 hw.1
  · exact hw.2.of_same hg rfl rfl rfl rfl fun r hr => .inl hr

theorem Reachable.graphWf (h : Reachable host s) : GraphWF host s := by
  obtain ⟨ledger, scope, hr⟩ := h
  exact (run_induction (P := fun s => WF host s ∧ GraphWF host s) (fun _ _ hs => hs.graphWf) hr
    ⟨.initial host ledger scope, .initial host ledger scope⟩).2

end Invariant

end Roundwright.Dependency
