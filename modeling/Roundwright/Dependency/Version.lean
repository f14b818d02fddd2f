/-
Written graph versions and their replay. `Recorded` says what the rows of one version still prove
about the activation that wrote it, `Written` strings these records along the predecessors of a
version. A written version reads back as the graph that was built, and `_verify_accepted_version`
accepts it exactly as long as the seals of the tasks along its chain are the ones it was written under.
-/
import Roundwright.Dependency.Invariant
import Roundwright.Dependency.Snapshot

namespace Roundwright.Dependency

open Lib State

/-! ## The dispatch of an accepted attempt -/

/-- What `_require_authenticated_dispatch` checks about an accepted attempt, the seal apart. -/
structure Dispatched (host : Host) (s : Store) (attempt : AttemptRow) (subset : AffectedSubset)
    (binding : DependencyReviewBinding) (identity : TaskIdentity) : Prop where
  task : ∃ row, s.ledger.task? attempt.taskId = some row ∧ row.identity = identity
  current : ∃ state, requireMatchingTask host s.ledger identity none = .ok state
  bound : binding.requireSubset subset = .ok ()
  subsetTask : subset.taskId.val = identity.taskId
  attemptTask : attempt.taskId.val = identity.taskId
  profile : attempt.profileIdentity = binding.profileIdentity
  configuration : attempt.configurationDigest = binding.configurationDigest
  admission : ∃ session turn, s.claim? attempt.attemptId = some (.turnDispatched session turn) ∧
    s.admission? attempt.attemptId = some (expectedAdmission identity.taskId binding session.val attempt.attemptId)
  result : ∃ outcome, s.outcome? attempt.attemptId = some outcome ∧ outcome.kind = .accepted ∧
    requireAcceptedResultDispatch s attempt.attemptId outcome.outputDigest = .ok ()

section Dispatch

variable {host : Host} {s s' : Store} {attempt : AttemptRow} {subset : AffectedSubset}
  {binding : DependencyReviewBinding} {identity : TaskIdentity}

def sealDrifted : Error := .dependencyReview "dependency review current authority is unavailable or has drifted"

/-- With everything else in place, the seal decides. -/
theorem Dispatched.authenticated (h : Dispatched host s attempt subset binding identity)
    (hacc : attempt.state = .accepted) (message : String) :
    requireAuthenticatedDispatch host s attempt subset binding none true message =
      if SealCurrent s.ledger identity binding.candidateSha binding.configurationDigest then .ok identity
      else .error sealDrifted := by
  obtain ⟨row, hrow, hid⟩ := h.task
  rw [h.attemptTask] at hrow
  obtain ⟨state, hstate⟩ := h.current
  obtain ⟨session, turn, hclaim, hadm⟩ := h.admission
  obtain ⟨outcome, hout, hkind, hres⟩ := h.result
  have hauth : requireCurrentAuthority host s identity subset binding =
      if SealCurrent s.ledger identity binding.candidateSha binding.configurationDigest then .ok () else .error sealDrifted := by
    simp only [requireCurrentAuthority, hstate, ok_bind, h.bound, h.subsetTask, refuse]
    split <;> simp_all [sealDrifted]
  by_cases hseal : SealCurrent s.ledger identity binding.candidateSha binding.configurationDigest
  · rw [if_pos hseal] at hauth ⊢
    simp [requireAuthenticatedDispatch, hrow, hid, hauth, h.bound, h.attemptTask, h.profile, h.configuration, hclaim,
      hadm, DispatchClaim.isTurn, admittedSession, requireAcceptedEvidence, hacc, hout, hkind, hres, demand, refuse, rewrap,
      pure, Except.pure]
  · rw [if_neg hseal] at hauth ⊢
    simp [requireAuthenticatedDispatch, h.attemptTask, hrow, hid, hauth, demand, refuse]

/-- A successful authentication checked everything. -/
theorem dispatched_of_authenticated {message : String} (hacc : attempt.state = .accepted)
    (h : requireAuthenticatedDispatch host s attempt subset binding none true message = .ok identity) :
    Dispatched host s attempt subset binding identity ∧
      SealCurrent s.ledger identity binding.candidateSha binding.configurationDigest := by
  simp only [requireAuthenticatedDispatch, requireCurrentAuthority, bind_eq_ok, exists_unit, demand_eq_ok, refuse_eq_ok,
    not_or, not_not, true_and, pure_eq_ok] at h
  obtain ⟨row, hrow, -, ⟨state, hstate, hbound, hseal, hsubset⟩, -, ⟨htask, hprofile, hconf⟩, claim, hclaim,
    ⟨hturn, hadm⟩, hev, rfl⟩ := h
  refine ⟨⟨⟨row, hrow, rfl⟩, ⟨state, hstate⟩, hbound, hsubset, htask, hprofile, hconf, ?_, ?_⟩, hseal⟩
  · cases claim with
    | preDispatch => simp [DispatchClaim.isTurn] at hturn
    | sessionOpened => simp [DispatchClaim.isTurn] at hturn
    | turnDispatched session turn => exact ⟨session, turn, hclaim, hadm⟩
  · simp only [requireAcceptedEvidence, hacc, bind_eq_ok, exists_unit, demand_eq_ok, refuse_eq_ok, not_not,
      rewrap_eq_ok] at hev
    exact hev

/-- The dispatch of an ended attempt is frozen with it. -/
theorem Dispatched.grows (h : Dispatched host s attempt subset binding identity) (hg : Grows s s')
    (hr : s.attempt? attempt.attemptId = some attempt) (hended : attempt.state ≠ .prepared) :
    Dispatched host s' attempt subset binding identity := by
  have hev := hg.evidence _ _ hr hended
  obtain ⟨row, hrow, hid⟩ := h.task
  obtain ⟨row', hrow', hid', -⟩ := hg.ledger.tasks _ _ hrow
  obtain ⟨state, hstate⟩ := h.current
  refine ⟨⟨row', hrow', hid'.trans hid⟩, hg.ledger.matchingTask hstate, h.bound, h.subsetTask, h.attemptTask, h.profile,
    h.configuration, ?_, ?_⟩
  · rw [hev.claim, hev.admission]; exact h.admission
  · simp only [requireAcceptedResultDispatch, hev.claim, hev.outcome, hev.result]
    exact h.result

end Dispatch

/-! ## The record of one version -/

/-- What the rows of a version prove about the activation that wrote it over `prior`. -/
structure Recorded (host : Host) (s : Store) (version : Token) (row : VersionRow) (prior : GraphSnapshot)
    (attempt : AttemptRow) (subset : AffectedSubset) (proposal : DependencyProposal) (identity : TaskIdentity)
    (validation : GraphValidation) (built : GraphSnapshot) : Prop where
  stored : s.version? version = some row
  members : s.graphMembersOf version = built.members
  edges : s.graphEdgesOf version = built.edges
  setDigest : built.proposalSetDigest host = row.proposalSetDigest
  digest : built.graphDigest host = row.graphDigest
  decisions : s.decisionsOf version =
    [decisionRow host proposal subset row.binding version validation (some ⟨built, row.predecessor⟩)]
  readsAttempt : readAttempt host s proposal.attemptId = .ok (attempt, subset)
  accepted : attempt.state = .accepted
  readsProposal : readProposal host s proposal.proposalId = .ok proposal
  dispatched : Dispatched host s attempt subset (row.binding.review attempt.profileIdentity) identity
  validated : ∃ provenance, trustedProvenance host s subset row.binding proposal.attemptId = .ok provenance ∧
    validate host proposal subset row.binding prior provenance = .ok validation
  decision : validation.decision = .accepted
  next : nextSnapshot prior subset validation.edges proposal.proposalId row.binding = .ok built

/-- A version with the records of all its predecessors; the list names them, nearest first. -/
inductive Written (host : Host) (s : Store) : List Token → Token → VersionRow → GraphSnapshot → Prop
  | first {version : Token} {row : VersionRow} {attempt : AttemptRow} {subset : AffectedSubset}
    {proposal : DependencyProposal} {identity : TaskIdentity} {validation : GraphValidation} {built : GraphSnapshot}
    (hp : row.predecessor = none)
    (h : Recorded host s version row .empty attempt subset proposal identity validation built) :
    Written host s [] version row built
  | next {chain : List Token} {previous version : Token} {priorRow row : VersionRow} {prior : GraphSnapshot}
    {attempt : AttemptRow} {subset : AffectedSubset} {proposal : DependencyProposal} {identity : TaskIdentity}
    {validation : GraphValidation} {built : GraphSnapshot} (hw : Written host s chain previous priorRow prior)
    (hp : row.predecessor = some previous) (hb : priorRow.binding = row.binding) (hfresh : version ∉ previous :: chain)
    (h : Recorded host s version row (prior.sealedAs previous row.binding) attempt subset proposal identity validation built) :
    Written host s (previous :: chain) version row built

section Records

variable {host : Host} {s s' : Store} {version : Token} {row : VersionRow} {prior built : GraphSnapshot}
  {attempt : AttemptRow} {subset : AffectedSubset} {proposal : DependencyProposal} {identity : TaskIdentity}
  {validation : GraphValidation}

theorem Recorded.attemptId (h : Recorded host s version row prior attempt subset proposal identity validation built) :
    attempt.attemptId = proposal.attemptId :=
  (Store.attempt?_eq_some.1 (readAttempt_ok.1 h.readsAttempt).1).2

theorem Recorded.ended (h : Recorded host s version row prior attempt subset proposal identity validation built) :
    attempt.state ≠ .prepared := by
  rw [h.accepted]; decide

theorem trustedProvenance_grows (hg : Grows s s') {id : Token} (hr : s.attempt? id = some attempt)
    (hi : AttemptIntact host s attempt subset) (binding : DependencyGraphBinding) :
    trustedProvenance host s' subset binding id = trustedProvenance host s subset binding id := by
  have hrec := hg.records id attempt hr
  have hid := (Store.attempt?_eq_some.1 hr).2
  have hsnap := readSubset_snapshotId hi.stored
  subst hid
  simp only [trustedProvenance, hsnap, hrec.trusted]

theorem Recorded.grows (h : Recorded host s version row prior attempt subset proposal identity validation built)
    (hg : Grows s s') : Recorded host s' version row prior attempt subset proposal identity validation built := by
  obtain ⟨hv, hm, he, hd⟩ := hg.versions version row h.stored
  obtain ⟨hr, hi⟩ := readAttempt_ok.1 h.readsAttempt
  refine ⟨hv, hm.trans h.members, he.trans h.edges, h.setDigest, h.digest, hd.trans h.decisions,
    hg.readAttempt h.readsAttempt h.ended, h.accepted, hg.readProposal h.readsProposal,
    h.dispatched.grows hg (by rw [h.attemptId]; exact hr) h.ended, ?_, h.decision, h.next⟩
  rw [trustedProvenance_grows hg hr hi]
  exact h.validated

variable {chain : List Token}

theorem Written.grows (h : Written host s chain version row built) (hg : Grows s s') :
    Written host s' chain version row built := by
  induction h with
  | first hp h => exact .first hp (h.grows hg)
  | next _ hp hb hfresh h ih => exact .next ih hp hb hfresh (h.grows hg)

theorem Written.stored (h : Written host s chain version row built) : s.version? version = some row := by
  cases h with
  | first _ h => exact h.stored
  | next _ _ _ _ h => exact h.stored

theorem Recorded.valid (h : Recorded host s version row prior attempt subset proposal identity validation built) :
    Validated proposal subset row.binding ((prior.under row.binding).keptEdges subset.taskId) validation := by
  obtain ⟨provenance, -, hv⟩ := h.validated
  exact validate_accepted hv h.decision

theorem GraphSnapshot.sealedAs_under (g : GraphSnapshot) (version : Token) (binding : DependencyGraphBinding) :
    (g.sealedAs version binding).under binding = g.sealedAs version binding := GraphSnapshot.under_of_eq rfl

theorem GraphSnapshot.empty_under (binding : DependencyGraphBinding) : GraphSnapshot.empty.under binding = .empty :=
  GraphSnapshot.under_of_ne (by simp [GraphSnapshot.binding, GraphSnapshot.empty])

theorem Written.canonical (h : Written host s chain version row built) : Canonical built := by
  induction h with
  | first _ h =>
    refine nextSnapshot_canonical ?_ h.valid h.next
    rw [GraphSnapshot.empty_under]
    exact .empty
  | next _ _ _ _ h ih =>
    refine nextSnapshot_canonical ?_ h.valid h.next
    rw [GraphSnapshot.sealedAs_under]
    exact ⟨ih.members, ih.edges, ih.pairs, ih.proposalIds, ih.acyclic⟩

/-- Every task's part of a written graph comes from one stored proposal. -/
theorem Written.coherent (h : Written host s chain version row built) :
    Coherent (fun p => readProposal host s p.proposalId = .ok p) built := by
  induction h with
  | first _ h =>
    refine nextSnapshot_coherent ?_ h.readsProposal h.valid h.next
    rw [GraphSnapshot.empty_under]
    exact .empty _
  | next _ _ _ _ h ih =>
    refine nextSnapshot_coherent ?_ h.readsProposal h.valid h.next
    rw [GraphSnapshot.sealedAs_under]
    exact ⟨ih.owned, ih.parts⟩

/-! ## Reading back -/

theorem pairKey_le_of_orderKey {a b : GraphEdge} (h : a.orderKey ≤ b.orderKey) : pairKey a.pair ≤ pairKey b.pair := by
  by_contra hcon
  refine absurd h (not_le.2 ?_)
  rw [not_le] at hcon
  simp only [pairKey, GraphEdge.pair, GraphEdge.orderKey, List.cons_lt_cons_iff, List.not_lt_nil, and_false, or_false] at hcon ⊢
  tauto

theorem readVersion_recorded (hc : Canonical built)
    (h : Recorded host s version row prior attempt subset proposal identity validation built) :
    readVersion host s version = .ok (built.sealedAs version row.binding, row.predecessor) := by
  have hmembers : sortBy (·.memberId) (s.graphMembersOf version) = built.members := by
    rw [h.members]; exact sortBy_eq_self hc.members
  have hedges : sortBy (fun e => pairKey e.pair) (s.graphEdgesOf version) = built.edges := by
    rw [h.edges]; exact sortBy_eq_self (hc.edges.imp pairKey_le_of_orderKey)
  have hnew : GraphSnapshot.new (some (version, row.binding)) built.members built.edges
      (sortBy id (built.edges.map (·.proposalId)).dedup) = .ok (built.sealedAs version row.binding) :=
    GraphSnapshot.new_eq_ok.2 ⟨rfl, rfl, rfl, hc.proposalIds⟩
  have hcycle : hasCycleEdges (built.sealedAs version row.binding).edges = false := hasCycle_eq_false.2 hc.acyclic
  have hset : (built.sealedAs version row.binding).proposalSetDigest host = row.proposalSetDigest := h.setDigest
  have hdig : (built.sealedAs version row.binding).graphDigest host = row.graphDigest := h.digest
  simp only [readVersion, h.stored, demand, ok_bind, hmembers, hedges, hnew, hset, hdig, hcycle]
  rw [refuse_of_not (by simp)]
  rfl

/-! ## The replay -/

/-- The seal of the task behind a recorded version is the one the version was written under. -/
def VersionSealed (s : Store) (version : Token) : Prop :=
  ∀ row, s.version? version = some row → ∀ d ∈ s.decisionsOf version, ∀ attempt, s.attempt? d.attemptId = some attempt →
    ∀ task, s.ledger.task? attempt.taskId = some task →
      SealCurrent s.ledger task.identity row.binding.candidateSha row.binding.configurationDigest

theorem Recorded.sealed_iff (h : Recorded host s version row prior attempt subset proposal identity validation built) :
    VersionSealed s version ↔ SealCurrent s.ledger identity row.binding.candidateSha row.binding.configurationDigest := by
  obtain ⟨task, htask, hid⟩ := h.dispatched.task
  obtain ⟨hattempt, -⟩ := readAttempt_ok.1 h.readsAttempt
  constructor
  · intro hs
    rw [← hid]
    exact hs row h.stored _ (by rw [h.decisions]; exact List.mem_singleton.2 rfl) attempt hattempt task htask
  · intro hs row' hrow' d hd attempt' hattempt' task' htask'
    rw [h.stored, Option.some.injEq] at hrow'
    rw [h.decisions, List.mem_singleton] at hd
    subst hrow' hd
    rw [show (decisionRow host proposal subset row.binding version validation _).attemptId =
      proposal.attemptId from rfl, hattempt, Option.some.injEq] at hattempt'
    subst hattempt'
    rw [htask, Option.some.injEq] at htask'
    subst htask'
    rw [hid]; exact hs

/-- Replaying a recorded transition gives the written graph while the seal stands, and drift once it moved. -/
theorem verifyTransition_recorded (hwf : WF host s) (hc : Canonical built)
    (h : Recorded host s version row prior attempt subset proposal identity validation built) :
    (VersionSealed s version → verifyTransition host s version (built.sealedAs version row.binding) row.predecessor prior =
      .ok (built.sealedAs version row.binding)) ∧
    (¬ VersionSealed s version →
      verifyTransition host s version (built.sealedAs version row.binding) row.predecessor prior = .error graphDrifted) := by
  obtain ⟨provenance, hprov, hval⟩ := h.validated
  have hvalid := h.valid
  have hauth := h.dispatched.authenticated h.accepted "dependency review graph evidence is unavailable"
  have hnext := h.next
  -- the decision row is used only through its columns
  obtain ⟨d, hd⟩ : ∃ d, d = decisionRow host proposal subset row.binding version validation (some ⟨built, row.predecessor⟩) :=
    ⟨_, rfl⟩
  have hdec : soleDecision s version = .ok d := by simp only [soleDecision, h.decisions, hd]
  have hattempt : d.attemptId = proposal.attemptId := by rw [hd]; rfl
  have hproposal : d.proposalId = proposal.proposalId := by rw [hd]; rfl
  have hev : readEvidence host s d.attemptId d.proposalId = .ok (attempt, subset, proposal) := by
    rw [hattempt, hproposal]
    simp only [readEvidence, h.readsAttempt, ok_bind, h.readsProposal, hwf.verifies attempt.taskId]
    rfl
  have hdecided : ¬ (d.decision ≠ .accepted ∨ d.reasonCode.val ≠ "graph-valid") := by
    rw [hd]; simp [decisionRow, h.decision, hvalid.reason]
  have hfits : ¬ (proposal.attemptId ≠ d.attemptId ∨ attempt.state ≠ .accepted ∨ d.subsetDigest ≠ subset.contentDigest host ∨
      d.binding ≠ row.binding) := by
    rw [hd]; simp [decisionRow, h.accepted]
  have hbinding : demand (built.sealedAs version row.binding).binding graphDrifted = .ok row.binding := rfl
  have hdigest : decisionDigest host validation proposal subset row.binding (some version) row.predecessor
      (some ((built.sealedAs version row.binding).graphDigest host)) = d.decisionDigest := by rw [hd]; rfl
  have hnew : (built.sealedAs version row.binding).edges.filter (fun e => e.proposalId = d.proposalId) = validation.edges := by
    have hedges := nextSnapshot_newEdges hc hvalid h.next
    rw [hproposal]; exact hedges
  rw [← hproposal] at hnext
  rw [← hattempt] at hprov
  rw [h.sealed_iff]
  constructor
  · intro hseal
    rw [if_pos (by exact hseal)] at hauth
    simp only [verifyTransition, hdec, ok_bind, refuse_of_not hdecided, hev, rewrap, hbinding, hauth,
      refuse_of_not hfits, hprov, hval, hnew, hdigest]
    rw [refuse_of_not (by simp [h.decision]), ok_bind, refuse_of_not (by simp), ok_bind, hnext, ok_bind,
      refuse_of_not (by simp [GraphSnapshot.sealedAs]), ok_bind]
    rfl
  · intro hseal
    rw [if_neg (by exact hseal)] at hauth
    simp only [verifyTransition, hdec, ok_bind, refuse_of_not hdecided, hev, rewrap, hbinding, hauth, sealDrifted,
      reviewAsDrift, error_bind]

/-! ## The replay along the predecessors -/

/-- The version a version was written over. -/
def Store.Follows (s : Store) (version previous : Token) : Prop :=
  ∃ row, s.version? version = some row ∧ row.predecessor = some previous

/-- The seals behind a version and all its predecessors still stand. -/
def SealsCurrent (s : Store) (version : Token) : Prop :=
  ∀ u, Relation.ReflTransGen s.Follows version u → VersionSealed s u

section

variable (h : Written host s chain version row built)

include h

theorem Written.predecessors {u : Token} : Relation.ReflTransGen s.Follows version u ↔ u ∈ version :: chain := by
  induction h with
  | first hp h =>
    rw [Relation.ReflTransGen.cases_head_iff, List.mem_singleton]
    constructor
    · rintro (rfl | ⟨p, ⟨row, hrow, hpred⟩, -⟩)
      · rfl
      · rw [h.stored, Option.some.injEq] at hrow
        rw [← hrow, hp] at hpred
        cases hpred
    · rintro rfl
      exact .inl rfl
  | next _ hp _ _ h ih =>
    rw [Relation.ReflTransGen.cases_head_iff, List.mem_cons, ← ih]
    constructor
    · rintro (rfl | ⟨p, ⟨row, hrow, hpred⟩, hrest⟩)
      · exact .inl rfl
      · rw [h.stored, Option.some.injEq] at hrow
        rw [← hrow, hp, Option.some.injEq] at hpred
        exact .inr (hpred ▸ hrest)
    · rintro (rfl | hrest)
      · exact .inl rfl
      · exact .inr ⟨_, ⟨_, h.stored, hp⟩, hrest⟩

theorem Written.sealsCurrent_iff : SealsCurrent s version ↔ ∀ u ∈ version :: chain, VersionSealed s u :=
  forall_congr' fun _ => imp_congr_left h.predecessors

theorem Written.chain_stored : ∀ u ∈ version :: chain, u ∈ s.graphVersions.rows.map (·.graphVersionId) := by
  have hself : ∀ {v : Token} {r : VersionRow}, s.version? v = some r → v ∈ s.graphVersions.rows.map (·.graphVersionId) := by
    intro v r hr
    obtain ⟨hmem, hid⟩ := Store.version?_eq_some.1 hr
    exact List.mem_map.2 ⟨r, hmem, hid⟩
  induction h with
  | first _ h => simpa using hself h.stored
  | next _ _ _ _ h ih => exact List.forall_mem_cons.2 ⟨hself h.stored, ih⟩

theorem Written.chain_nodup : (version :: chain).Nodup := by
  induction h with
  | first => simp
  | next _ _ _ hfresh _ ih => exact List.nodup_cons.2 ⟨hfresh, ih⟩

/-- One more than the stored versions is enough fuel. -/
theorem Written.chain_length : chain.length < s.graphVersions.rows.length + 1 := by
  have hle := (List.subperm_of_subset h.chain_nodup h.chain_stored).length_le
  simp only [List.length_cons, List.length_map] at hle
  omega

end

theorem verifyAcceptedVersion_written (hwf : WF host s) (h : Written host s chain version row built) :
    ∀ (fuel : Nat) (seen : List Token), chain.length < fuel → (∀ u ∈ version :: chain, u ∉ seen) →
      ((∀ u ∈ version :: chain, VersionSealed s u) →
        verifyAcceptedVersion host s fuel version seen = .ok (built.sealedAs version row.binding)) ∧
      ((¬ ∀ u ∈ version :: chain, VersionSealed s u) →
        verifyAcceptedVersion host s fuel version seen = .error graphDrifted) := by
  have hc := h.canonical
  induction h with
  | @first version row _ _ _ _ _ built hp h =>
    intro fuel seen hfuel hseen
    obtain ⟨fuel, rfl⟩ := Nat.exists_eq_succ_of_ne_zero (Nat.ne_zero_of_lt hfuel)
    have hverify := verifyTransition_recorded hwf hc h
    have hstep : verifyAcceptedVersion host s (fuel + 1) version seen =
        verifyTransition host s version (built.sealedAs version row.binding) row.predecessor .empty := by
      simp only [verifyAcceptedVersion, refuse_of_not (hseen version List.mem_cons_self), readVersion_recorded hc h, ok_bind, hp]
    rw [hstep]
    simpa using hverify
  | @next chain previous version priorRow row prior _ _ _ _ _ built hw hp hb _ h ih =>
    intro fuel seen hfuel hseen
    obtain ⟨fuel, rfl⟩ := Nat.exists_eq_succ_of_ne_zero (Nat.ne_zero_of_lt hfuel)
    have hverify := verifyTransition_recorded hwf hc h
    have hnodup := (Written.next hw hp hb ‹_› h).chain_nodup
    obtain ⟨hok, herr⟩ := ih hw.canonical fuel (version :: seen) (by simpa using hfuel) fun u hu => by
      rw [List.mem_cons, not_or]
      exact ⟨fun heq => (List.nodup_cons.1 hnodup).1 (heq ▸ hu), hseen u (List.mem_cons_of_mem _ hu)⟩
    have hread := readVersion_recorded hc h
    by_cases hchain : ∀ u ∈ previous :: chain, VersionSealed s u
    · have hstep : verifyAcceptedVersion host s (fuel + 1) version seen =
          verifyTransition host s version (built.sealedAs version row.binding) row.predecessor
            (prior.sealedAs previous row.binding) := by
        simp only [verifyAcceptedVersion, refuse_of_not (hseen version List.mem_cons_self), hread, ok_bind, hp, hok hchain, hb]
        rw [refuse_of_not (by simp [GraphSnapshot.binding, GraphSnapshot.sealedAs]), ok_bind]
      rw [hstep, List.forall_mem_cons]
      exact ⟨fun hall => hverify.1 hall.1, fun hnot => hverify.2 fun hself => hnot ⟨hself, hchain⟩⟩
    · refine ⟨fun hall => absurd (List.forall_mem_cons.1 hall).2 hchain, fun _ => ?_⟩
      simp only [verifyAcceptedVersion, refuse_of_not (hseen version List.mem_cons_self), hread, ok_bind, hp,
        herr hchain, error_bind]

/-- Writer and verifier agree: a written version verifies to the graph that was built, for as long as
the seals along its predecessors stand, and is reported as drifted otherwise. -/
theorem verifyVersion_written (hwf : WF host s) (h : Written host s chain version row built) :
    (SealsCurrent s version → verifyVersion host s version = .ok (built.sealedAs version row.binding)) ∧
    (¬ SealsCurrent s version → verifyVersion host s version = .error graphDrifted) := by
  rw [h.sealsCurrent_iff]
  exact verifyAcceptedVersion_written hwf h _ [] h.chain_length (by simp)

end Records

end Roundwright.Dependency
