/-
What no call ever takes back. `Grows s s'` is a preorder on stores: records of an attempt stay, an
attempt leaves the prepared state at most once, everything recorded about an ended attempt is frozen,
claims only move forward, and proposals, graph versions and decisions stay as written. Every effect
grows the store; the reads that succeed on ended attempts keep succeeding.
-/
import Roundwright.Dependency.Effect

namespace Roundwright.Dependency

open Lib State

/-! ## The preorder -/

/-- The subset and the trusted relations of an attempt read the same. -/
structure SameRecord (s s' : Store) (row : AttemptRow) : Prop where
  subset : ∀ r, s.subset? row.snapshotId = some r → s'.subset? row.snapshotId = some r
  members : s'.membersOf row.snapshotId = s.membersOf row.snapshotId
  trusted : ∀ candidate policy configuration,
    s'.trustedOf row.snapshotId row.attemptId candidate policy configuration =
      s.trustedOf row.snapshotId row.attemptId candidate policy configuration

/-- The claim, the admission, the proposals, the outcome and the accepted result of an attempt read the same. -/
structure SameEvidence (s s' : Store) (id : Token) : Prop where
  claim : s'.claim? id = s.claim? id
  admission : s'.admission? id = s.admission? id
  proposals : s'.proposalsOf id = s.proposalsOf id
  outcome : s'.outcome? id = s.outcome? id
  result : s'.acceptedResult? id = s.acceptedResult? id

structure Grows (s s' : Store) : Prop where
  ledger : s.ledger.Extends s'.ledger
  attempts : ∀ id r, s.attempt? id = some r →
    ∃ state, s'.attempt? id = some { r with state } ∧ (r.state ≠ .prepared → state = r.state)
  records : ∀ id r, s.attempt? id = some r → SameRecord s s' r
  evidence : ∀ id r, s.attempt? id = some r → r.state ≠ .prepared → SameEvidence s s' id
  claims : ∀ id, Relation.ReflTransGen DispatchClaim.Moves (s.claim? id) (s'.claim? id)
  proposals : ∀ id r, s.proposal? id = some r → s'.proposal? id = some r ∧ s'.edgesOf id = s.edgesOf id
  versions : ∀ v r, s.version? v = some r → s'.version? v = some r ∧ s'.graphMembersOf v = s.graphMembersOf v ∧
    s'.graphEdgesOf v = s.graphEdgesOf v ∧ s'.decisionsOf v = s.decisionsOf v
  decisions : ∀ id r, s.decision? id = some r → s'.decision? id = some r

theorem SameRecord.refl (s : Store) (row : AttemptRow) : SameRecord s s row :=
  ⟨fun _ h => h, rfl, fun _ _ _ => rfl⟩

variable {row : AttemptRow}

theorem SameRecord.trans {a b c : Store} (h : SameRecord a b row) (h' : SameRecord b c row) :
    SameRecord a c row :=
  ⟨fun r hr => h'.subset r (h.subset r hr), h'.members.trans h.members,
    fun x y z => (h'.trusted x y z).trans (h.trusted x y z)⟩

theorem SameEvidence.refl (s : Store) (id : Token) : SameEvidence s s id := ⟨rfl, rfl, rfl, rfl, rfl⟩

theorem SameEvidence.trans {a b c : Store} {id : Token} (h : SameEvidence a b id) (h' : SameEvidence b c id) :
    SameEvidence a c id :=
  ⟨h'.claim.trans h.claim, h'.admission.trans h.admission, h'.proposals.trans h.proposals,
    h'.outcome.trans h.outcome, h'.result.trans h.result⟩

namespace Grows

theorem refl (s : Store) : Grows s s where
  ledger := .refl _
  attempts := fun _ r h => ⟨r.state, h, fun _ => rfl⟩
  records := fun _ r _ => .refl s r
  evidence := fun id _ _ _ => .refl s id
  claims := fun _ => .refl
  proposals := fun _ _ h => ⟨h, rfl⟩
  versions := fun _ _ h => ⟨h, rfl, rfl, rfl⟩
  decisions := fun _ _ h => h

theorem trans {a b c : Store} (h : Grows a b) (h' : Grows b c) : Grows a c where
  ledger := h.ledger.trans h'.ledger
  attempts := fun id r hr => by
    obtain ⟨st, hst, hkeep⟩ := h.attempts id r hr
    obtain ⟨st', hst', hkeep'⟩ := h'.attempts id _ hst
    refine ⟨st', hst', fun hended => ?_⟩
    rw [← hkeep hended]
    exact hkeep' (by rw [hkeep hended]; exact hended)
  records := fun id r hr => by
    obtain ⟨st, hst, -⟩ := h.attempts id r hr
    have hrec := h'.records id _ hst
    exact (h.records id r hr).trans ⟨hrec.subset, hrec.members, hrec.trusted⟩
  evidence := fun id r hr hended => by
    obtain ⟨st, hst, hkeep⟩ := h.attempts id r hr
    exact (h.evidence id r hr hended).trans (h'.evidence id _ hst (by rw [hkeep hended]; exact hended))
  claims := fun id => (h.claims id).trans (h'.claims id)
  proposals := fun id r hr => by
    obtain ⟨hp, he⟩ := h.proposals id r hr
    obtain ⟨hp', he'⟩ := h'.proposals id r hp
    exact ⟨hp', he'.trans he⟩
  versions := fun v r hr => by
    obtain ⟨hv, hm, he, hd⟩ := h.versions v r hr
    obtain ⟨hv', hm', he', hd'⟩ := h'.versions v r hv
    exact ⟨hv', hm'.trans hm, he'.trans he, hd'.trans hd⟩
  decisions := fun id r hr => h'.decisions id r (h.decisions id r hr)

theorem ended {s s' : Store} (h : Grows s s') {id : Token} {r : AttemptRow} (hr : s.attempt? id = some r)
    (hs : r.state ≠ .prepared) : s'.attempt? id = some r := by
  obtain ⟨st, hst, hkeep⟩ := h.attempts id r hr
  rw [hst, hkeep hs]

end Grows

variable {subset : AffectedSubset}

/-! ## Every effect grows the store -/

section Effects

variable {host : Host} {s s' : Store}

theorem Prepares.grows (h : Prepares host s row s') : Grows s s' := by
  have hattempt : ∀ id r, s.attempt? id = some r → s'.attempt? id = some r := fun id r hr => by
    simp only [Store.attempt?, h.attempts]
    exact find?_append_some hr
  have hclaims : ∀ id, s'.claim? id = s.claim? id := fun id => by rw [h.frame]; rfl
  refine ⟨?_, fun id r hr => ⟨r.state, hattempt id r hr, fun _ => rfl⟩, fun id r hr => ?_, fun id r hr _ => ?_,
    fun id => by rw [hclaims], fun id r hr => ?_, fun v r hr => ?_, fun id r hr => ?_⟩
  · rw [h.frame]; exact .refl _
  · obtain ⟨hid, hsnap⟩ := h.fresh r (Store.attempt?_eq_some.1 hr).1
    obtain ⟨newSubsets, hsubsets, -⟩ := h.subsets
    obtain ⟨newMembers, hmembers, hnewMembers⟩ := h.members
    obtain ⟨newTrusted, htrusted, hnewTrusted⟩ := h.trusted
    refine ⟨fun q hq => ?_, ?_, fun _ _ _ => ?_⟩
    · simp only [Store.subset?, hsubsets]
      exact find?_append_some hq
    · simp only [Store.membersOf, hmembers]
      rw [filter_append_none fun q hq => by simpa [hnewMembers q hq] using Ne.symm hsnap]
    · simp only [Store.trustedOf, htrusted]
      rw [filter_append_none fun q hq => by simp [(hnewTrusted q hq).1, Ne.symm hid]]
  · rw [h.frame]; exact ⟨rfl, rfl, rfl, rfl, rfl⟩
  · rw [h.frame]; exact ⟨hr, rfl⟩
  · rw [h.frame]; exact ⟨hr, rfl, rfl, rfl⟩
  · rw [h.frame]; exact hr

theorem Claims.grows {id : Token} (h : Claims s id s') : Grows s s' := by
  have hattempt : ∀ other, s'.attempt? other = s.attempt? other := fun other => by rw [h.frame]; rfl
  refine ⟨?_, fun other r hr => ⟨r.state, by rw [hattempt]; exact hr, fun _ => rfl⟩, fun other r _ => ?_,
    fun other r hr hended => ?_, fun other => ?_, fun p r hr => ?_, fun v r hr => ?_, fun p r hr => ?_⟩
  · rw [h.frame]; exact .refl _
  · rw [h.frame]; exact ⟨fun _ hq => hq, rfl, fun _ _ _ => rfl⟩
  · have hne : other ≠ id := by
      rintro rfl
      obtain ⟨r', hr', hprepared⟩ := h.prepared
      rw [hr', Option.some.injEq] at hr
      exact hended (hr ▸ hprepared)
    obtain ⟨hclaim, hadmission⟩ := h.others other hne
    refine ⟨hclaim, hadmission, ?_, ?_, ?_⟩
    all_goals rw [h.frame]; rfl
  · by_cases hne : other = id
    · subst hne; exact .single h.moves
    · rw [(h.others other hne).1]
  · rw [h.frame]; exact ⟨hr, rfl⟩
  · rw [h.frame]; exact ⟨hr, rfl, rfl, rfl⟩
  · rw [h.frame]; exact hr

/-! ### Settling -/

theorem AttemptRow.settle_attemptId (id : Token) (state : AttemptState) (r : AttemptRow) :
    (r.settle id state).attemptId = r.attemptId := by
  unfold AttemptRow.settle; split <;> rfl

namespace Settles

variable {id : Token} {outcome : Outcome}

section

variable (h : Settles s id outcome s')

include h

theorem attempt? (other : Token) : s'.attempt? other = (s.attempt? other).map (AttemptRow.settle id outcome.kind.state) := by
  simp only [Store.attempt?, h.attempts]
  exact find?_map_key (AttemptRow.settle_attemptId id _) other

theorem attempt_self {r : AttemptRow} (hr : s.attempt? id = some r) :
    s'.attempt? id = some { r with state := outcome.kind.state } := by
  rw [h.attempt?, hr, Option.map_some, AttemptRow.settle, if_pos (Store.attempt?_eq_some.1 hr).2]

theorem attempt_other {other : Token} (hne : other ≠ id) : s'.attempt? other = s.attempt? other := by
  rw [h.attempt?]
  cases hr : s.attempt? other with
  | none => rfl
  | some r =>
    have hid := (Store.attempt?_eq_some.1 hr).2
    rw [Option.map_some, AttemptRow.settle, if_neg (by rw [hid]; exact hne)]

theorem outcome_self : s'.outcome? id = some outcome := by
  simp only [Store.outcome?, h.outcomes]
  rw [find?_append_self (g := fun r : OutcomeRow => r.attemptId) h.fresh rfl]; rfl

theorem outcome_other {other : Token} (hne : other ≠ id) : s'.outcome? other = s.outcome? other := by
  simp only [Store.outcome?, h.outcomes]
  rw [find?_append_ne (g := fun r : OutcomeRow => r.attemptId) (Ne.symm hne)]

/-- The settled attempt was prepared, so every ended attempt is another one. -/
theorem ne_of_ended {other : Token} {r : AttemptRow} (hr : s.attempt? other = some r) (hended : r.state ≠ .prepared) :
    other ≠ id := by
  rintro rfl
  obtain ⟨r', hr', hprepared⟩ := h.prepared
  rw [hr', Option.some.injEq] at hr
  exact hended (hr ▸ hprepared)

theorem attempts_grow (other : Token) (r : AttemptRow) (hr : s.attempt? other = some r) :
    ∃ state, s'.attempt? other = some { r with state } ∧ (r.state ≠ .prepared → state = r.state) := by
  by_cases hne : other = id
  · subst hne
    exact ⟨_, h.attempt_self hr, fun hended => absurd rfl (h.ne_of_ended hr hended)⟩
  · exact ⟨r.state, by rw [h.attempt_other hne]; exact hr, fun _ => rfl⟩

end

end Settles

theorem Ends.grows {id : Token} {outcome : Outcome} (h : Ends s id outcome s') : Grows s s' := by
  refine ⟨?_, h.attempts_grow, fun other r _ => ?_, fun other r hr hended => ?_, fun other => ?_,
    fun p r hr => ?_, fun v r hr => ?_, fun p r hr => ?_⟩
  · rw [h.frame]; exact .refl _
  · rw [h.frame]; exact ⟨fun _ hq => hq, rfl, fun _ _ _ => rfl⟩
  · have hout := h.outcome_other (h.ne_of_ended hr hended)
    refine ⟨?_, ?_, ?_, hout, ?_⟩
    all_goals rw [h.frame]; rfl
  · rw [h.frame]; exact .refl
  · rw [h.frame]; exact ⟨hr, rfl⟩
  · rw [h.frame]; exact ⟨hr, rfl, rfl, rfl⟩
  · rw [h.frame]; exact hr

theorem Accepts.grows {proposal : DependencyProposal} {session turn : OpaqueIdentity}
    (h : Accepts host s proposal session turn s') : Grows s s' := by
  refine ⟨?_, h.attempts_grow, fun other r _ => ?_, fun other r hr hended => ?_, fun other => ?_,
    fun p r hr => ⟨?_, ?_⟩, fun v r hr => ?_, fun p r hr => ?_⟩
  · rw [h.frame]; exact .refl _
  · rw [h.frame]; exact ⟨fun _ hq => hq, rfl, fun _ _ _ => rfl⟩
  · have hne := h.ne_of_ended hr hended
    refine ⟨?_, ?_, ?_, h.outcome_other hne, h.others other hne⟩
    · rw [h.frame]; rfl
    · rw [h.frame]; rfl
    · simp only [Store.proposalsOf, h.proposals]
      exact filter_append_none fun q hq => by
        rw [List.mem_singleton.1 hq]
        exact decide_eq_false (Ne.symm hne)
  · rw [h.frame]; exact .refl
  · simp only [Store.proposal?, h.proposals]
    exact find?_append_some hr
  · have hne : p ≠ proposal.proposalId := by
      rintro rfl
      rw [h.unused] at hr; cases hr
    simp only [Store.edgesOf, h.edges]
    refine filter_append_none fun q hq => ?_
    simp only [proposalEdgeRows, List.mem_mapIdx] at hq
    obtain ⟨i, hi, rfl⟩ := hq
    exact decide_eq_false (Ne.symm hne)
  · rw [h.frame]; exact ⟨hr, rfl, rfl, rfl⟩
  · rw [h.frame]; exact hr

variable {binding : DependencyGraphBinding}

theorem WritesVersion.grows {version : Token} {w : GraphWrite} (h : WritesVersion host version binding w s s') : Grows s s' := by
  refine ⟨?_, fun id r hr => ⟨r.state, ?_, fun _ => rfl⟩, fun id r _ => ?_, fun id r _ _ => ?_, fun id => ?_,
    fun p r hr => ?_, fun v r hr => ?_, fun p r hr => ?_⟩
  · rw [h.frame]; exact .refl _
  · rw [h.frame]; exact hr
  · rw [h.frame]; exact ⟨fun _ hq => hq, rfl, fun _ _ _ => rfl⟩
  · rw [h.frame]; exact ⟨rfl, rfl, rfl, rfl, rfl⟩
  · rw [h.frame]; exact .refl
  · rw [h.frame]; exact ⟨hr, rfl⟩
  · have hne : version ≠ v := by
      obtain ⟨hmem, rfl⟩ := Store.version?_eq_some.1 hr
      exact (h.fresh r hmem).symm
    refine ⟨?_, ?_, ?_, by rw [h.frame]; rfl⟩
    · simp only [Store.version?, h.versions]
      exact find?_append_some hr
    · simp only [Store.graphMembersOf, h.members]
      rw [filter_append_none fun q hq => by
        obtain ⟨m, -, rfl⟩ := List.mem_map.1 hq; exact decide_eq_false hne]
    · simp only [Store.graphEdgesOf, h.edges]
      rw [filter_append_none fun q hq => by
        obtain ⟨e, -, rfl⟩ := List.mem_map.1 hq; exact decide_eq_false hne]
  · rw [h.frame]; exact hr

/-- A decision that names no stored version changes no version. -/
theorem decision_grows {d : DecisionRow} (hrows : s'.graphDecisions.rows = s.graphDecisions.rows ++ [d])
    (hd : ∀ v r, s.version? v = some r → d.graphVersionId ≠ some v) (hf : s' = { s with graphDecisions := s'.graphDecisions }) :
    Grows s s' := by
  refine ⟨?_, fun id r hr => ⟨r.state, ?_, fun _ => rfl⟩, fun id r _ => ?_, fun id r _ _ => ?_, fun id => ?_,
    fun p r hr => ?_, fun v r hr => ?_, fun p r hr => ?_⟩
  · rw [hf]; exact .refl _
  · rw [hf]; exact hr
  · rw [hf]; exact ⟨fun _ hq => hq, rfl, fun _ _ _ => rfl⟩
  · rw [hf]; exact ⟨rfl, rfl, rfl, rfl, rfl⟩
  · rw [hf]; exact .refl
  · rw [hf]; exact ⟨hr, rfl⟩
  · refine ⟨by rw [hf]; exact hr, by rw [hf]; rfl, by rw [hf]; rfl, ?_⟩
    simp only [Store.decisionsOf, hrows]
    refine filter_append_none fun q hq => ?_
    rw [List.mem_singleton.1 hq]
    exact decide_eq_false (hd v r hr)
  · simp only [Store.decision?, hrows]
    exact find?_append_some hr

theorem WritesVersion.decided {version : Token} {w : GraphWrite} (h : WritesVersion host version binding w s s')
    (decisions : Table DecisionRow.clash) :
    WritesVersion host version binding w { s with graphDecisions := decisions } { s' with graphDecisions := decisions } :=
  ⟨h.fresh, h.versions, h.members, h.edges, h.current, by rw [h.frame]⟩

theorem Activates.grows {proposal : DependencyProposal} {version : Token}
    {derived : TaskIdentity} {active : GraphSnapshot} {validation : GraphValidation} {w : Option GraphWrite}
    (h : Activates host s proposal binding version subset derived active validation w s') :
    Grows s s' := by
  obtain ⟨s₁, hw, -, hrows, hf⟩ := writeActivation_ok h.written
  rcases hw with ⟨rfl, rfl⟩ | ⟨w, rfl, hw⟩
  · exact decision_grows hrows (fun v r _ => by simp [decisionRow]) hf
  · have hdecided : Grows s { s with graphDecisions := s'.graphDecisions } := by
      refine decision_grows hrows (fun v r hr heq => ?_) rfl
      obtain ⟨hmem, hv⟩ := Store.version?_eq_some.1 hr
      simp only [decisionRow, Option.map_some, Option.some.injEq] at heq
      exact hw.fresh r hmem (hv.trans heq.symm)
    rw [hf]
    exact hdecided.trans (hw.decided s'.graphDecisions).grows

theorem Grows.environment {ledger : Ledger} (hext : s.ledger.Extends ledger) (scope : String → String → Except Error Unit) :
    Grows s { s with ledger, scope } :=
  ⟨hext, fun _ r hr => ⟨r.state, hr, fun _ => rfl⟩, fun _ _ _ => ⟨fun _ hq => hq, rfl, fun _ _ _ => rfl⟩,
    fun _ _ _ _ => ⟨rfl, rfl, rfl, rfl, rfl⟩, fun _ => .refl, fun _ _ hr => ⟨hr, rfl⟩,
    fun _ _ hr => ⟨hr, rfl, rfl, rfl⟩, fun _ _ hr => hr⟩

theorem Effect.grows (h : Effect host s s') : Grows s s' := by
  cases h with
  | none => exact .refl s
  | prepares h => exact h.grows
  | claims h => exact h.grows
  | ends h => exact h.grows
  | accepts h => exact h.grows
  | activates h => exact h.grows

end Effects

/-! ## Reads that keep succeeding -/

section Reads

variable {host : Host} {s s' : Store}

variable {id : Token}

theorem Grows.readProposal (h : Grows s s') {p : DependencyProposal} (hp : Dependency.readProposal host s id = .ok p) :
    Dependency.readProposal host s' id = .ok p := by
  simp only [Dependency.readProposal, bind_eq_ok, demand_eq_ok] at hp
  obtain ⟨row, hrow, hrest⟩ := hp
  obtain ⟨hrow', hedges⟩ := h.proposals id row hrow
  simp only [Dependency.readProposal, bind_eq_ok, demand_eq_ok, storedEdges, hedges]
  exact ⟨row, hrow', hrest⟩

theorem Grows.readSubset (h : Grows s s') {row : AttemptRow} (hrec : SameRecord s s' row) {subset : AffectedSubset}
    (hs : Dependency.readSubset host s row.snapshotId = .ok subset) :
    Dependency.readSubset host s' row.snapshotId = .ok subset := by
  simp only [Dependency.readSubset, bind_eq_ok, demand_eq_ok, rewrap_eq_ok, exists_unit, refuse_eq_ok, not_not,
    pure_eq_ok] at hs ⊢
  obtain ⟨r, hr, sub, hnew, hdigest, hsource, rfl⟩ := hs
  refine ⟨r, hrec.subset r hr, sub, ?_, ?_, h.ledger.sourceDigest? hsource, rfl⟩
  · rw [hrec.members]; exact hnew
  · rw [hrec.members]; exact hdigest

theorem SameRecord.readSourceOwnedRelations {row : AttemptRow} (hrec : SameRecord s s' row) {subset : AffectedSubset}
    (hsnap : subset.snapshotId = row.snapshotId) :
    Dependency.readSourceOwnedRelations host s' subset row.attemptId =
      Dependency.readSourceOwnedRelations host s subset row.attemptId := by
  simp only [Dependency.readSourceOwnedRelations, hsnap, hrec.trusted]

theorem readSubset_snapshotId {subset : AffectedSubset} (h : readSubset host s id = .ok subset) :
    subset.snapshotId = id := by
  simp only [Dependency.readSubset, bind_eq_ok, demand_eq_ok, rewrap_eq_ok, pure_eq_ok] at h
  obtain ⟨r, hr, sub, hnew, -, -, -, -, rfl⟩ := h
  have hid : r.snapshotId = id := by simpa using List.find?_some hr
  unfold AffectedSubset.new at hnew
  split at hnew
  · cases hnew
  · split at hnew
    · obtain rfl := Except.ok.inj hnew
      exact hid
    · cases hnew

theorem Grows.checkTerminalEvidence (h : Grows s s') {row : AttemptRow}
    (hproposals : s'.proposalsOf row.attemptId = s.proposalsOf row.attemptId)
    (houtcome : s'.outcome? row.attemptId = s.outcome? row.attemptId)
    (hev : Dependency.checkTerminalEvidence host s row = .ok ()) : Dependency.checkTerminalEvidence host s' row = .ok () := by
  unfold Dependency.checkTerminalEvidence at hev ⊢
  rw [hproposals, houtcome]
  cases hstate : row.state with
  | prepared => simpa only [hstate] using hev
  | invalid => simpa only [hstate] using hev
  | blocked => simpa only [hstate] using hev
  | accepted =>
    simp only [hstate] at hev ⊢
    split at hev
    · rename_i q hq
      simp only [bind_eq_ok] at hev ⊢
      obtain ⟨p, hp, hout⟩ := hev
      exact ⟨p, h.readProposal hp, hout⟩
    · cases hev

/-- An attempt that read back still does, in whatever state its evidence now fits. -/
theorem Grows.intact_as (h : Grows s s') {row : AttemptRow} (hr : s.attempt? id = some row) {subset : AffectedSubset}
    (hi : AttemptIntact host s row subset) {state : AttemptState}
    (hev : Dependency.checkTerminalEvidence host s' { row with state } = .ok ()) :
    AttemptIntact host s' { row with state } subset := by
  have hrec := h.records id row hr
  refine ⟨h.readSubset hrec hi.stored, hi.task, hi.configuration, ?_, hev⟩
  rw [hrec.readSourceOwnedRelations (readSubset_snapshotId hi.stored)]
  exact hi.input

/-- An attempt whose proposals and outcome stand reads back as before. -/
theorem Grows.intact (h : Grows s s') {row : AttemptRow} (hr : s.attempt? id = some row) {subset : AffectedSubset}
    (hproposals : s'.proposalsOf row.attemptId = s.proposalsOf row.attemptId)
    (houtcome : s'.outcome? row.attemptId = s.outcome? row.attemptId) (hi : AttemptIntact host s row subset) :
    AttemptIntact host s' row subset :=
  h.intact_as hr hi (h.checkTerminalEvidence hproposals houtcome hi.evidence)

/-- An ended attempt reads back the same for ever. -/
theorem Grows.readAttempt (h : Grows s s') {row : AttemptRow} {subset : AffectedSubset}
    (hr : Dependency.readAttempt host s id = .ok (row, subset)) (hended : row.state ≠ .prepared) :
    Dependency.readAttempt host s' id = .ok (row, subset) := by
  obtain ⟨hrow, hi⟩ := readAttempt_ok.1 hr
  have hev := h.evidence id row hrow hended
  have hid := (Store.attempt?_eq_some.1 hrow).2
  exact readAttempt_ok.2 ⟨h.ended hrow hended, h.intact hrow (by rw [hid]; exact hev.proposals)
    (by rw [hid]; exact hev.outcome) hi⟩

end Reads

end Roundwright.Dependency
