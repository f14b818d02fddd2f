/-
What one call can do to the dependency tables. `Call` lists the operations of the two stores, `Step`
is one serialized call or a change the rest of the program makes to the ledger, and `Effect` is the
abstract transition system: which rows a call may add or change, and what it has checked before it
does. Every call is an effect (`Call.effect`); the invariants are derived from the effects and never
from the text of an operation.
-/
import Roundwright.Dependency.Activation

namespace Roundwright.Dependency

open Lib State

/-! ## Calls -/

/-- One call on the dependency-review store or the graph store, with its arguments. -/
inductive Call where
  | startAttempt (subset : AffectedSubset) (attemptId : Token) (binding : DependencyReviewBinding)
      (relations : List SourceOwnedRelation) (supersedes : Option Token)
  | claimPreDispatch (attemptId : Token) (taskIdentity : Option TaskIdentity) (binding : Option DependencyReviewBinding)
  | claimSession (attemptId : Token) (session : OpaqueIdentity) (taskIdentity : Option TaskIdentity)
      (binding : Option DependencyReviewBinding)
  | claimTurn (attemptId : Token) (session turn : OpaqueIdentity)
  | acceptProposal (proposal : DependencyProposal) (binding : DependencyReviewBinding)
      (taskIdentity : Option TaskIdentity) (observedSession observedTurn : Option OpaqueIdentity)
      (observedOutput : Option Digest)
  | recordInvalid (attemptId : Token) (outputDigest : Digest) (reasonCode ownerRoute : Reason)
      (taskIdentity : Option TaskIdentity) (binding : Option DependencyReviewBinding)
  | recordBlocked (attemptId : Token) (outputDigest : Digest) (reasonCode ownerRoute : Reason)
      (taskIdentity : Option TaskIdentity) (binding : Option DependencyReviewBinding)
  | recordScopeDenied (attemptId : Token) (outputDigest : Digest) (taskIdentity : TaskIdentity)
      (binding : DependencyReviewBinding)
  | recoverDispatchClaim (attemptId : Token) (outputDigest : Digest) (subset : AffectedSubset)
      (binding : DependencyReviewBinding) (inputDigest : Digest) (supersedes : Option Token)
      (taskIdentity : Option TaskIdentity)
  | activate (proposal : DependencyProposal) (binding : DependencyGraphBinding) (version : Token)

/-- The store after a call; a call that raises is rolled back. -/
def Call.run (host : Host) : Call → Store → Store
  | .startAttempt subset attemptId binding relations supersedes, s =>
    (transaction (Dependency.startAttempt host subset attemptId binding relations supersedes) s).2
  | .claimPreDispatch attemptId taskIdentity binding, s =>
    (transaction (Dependency.claimPreDispatch host attemptId taskIdentity binding) s).2
  | .claimSession attemptId session taskIdentity binding, s =>
    (transaction (Dependency.claimSession host attemptId session taskIdentity binding) s).2
  | .claimTurn attemptId session turn, s => (transaction (Dependency.claimTurn host attemptId session turn) s).2
  | .acceptProposal proposal binding taskIdentity session turn output, s =>
    (transaction (Dependency.acceptProposal host proposal binding taskIdentity session turn output) s).2
  | .recordInvalid attemptId output reason route taskIdentity binding, s =>
    (transaction (Dependency.recordInvalid host attemptId output reason route taskIdentity binding) s).2
  | .recordBlocked attemptId output reason route taskIdentity binding, s =>
    (transaction (Dependency.recordBlocked host attemptId output reason route taskIdentity binding) s).2
  | .recordScopeDenied attemptId output taskIdentity binding, s =>
    (transaction (Dependency.recordScopeDenied host attemptId output taskIdentity binding) s).2
  | .recoverDispatchClaim attemptId output subset binding input supersedes taskIdentity, s =>
    (transaction (Dependency.recoverDispatchClaim host attemptId output subset binding input supersedes taskIdentity) s).2
  | .activate proposal binding version, s => (Dependency.activate host proposal binding version s).2

/-- One serialized call by any client, or a change to the ledger and the recovery records between calls. -/
inductive Step (host : Host) : Store → Store → Prop
  | call (c : Call) (s : Store) : Step host s (c.run host s)
  | environment (s : Store) (ledger : Ledger) (scope : String → String → Except Error Unit)
      (h : s.ledger.Extends ledger) : Step host s { s with ledger, scope }

/-- Any number of steps. -/
abbrev Run (host : Host) : Store → Store → Prop := Relation.ReflTransGen (Step host)

/-- A store some run reaches from empty dependency tables. -/
def Reachable (host : Host) (s : Store) : Prop := ∃ ledger scope, Run host (.initial ledger scope) s

/-! ## Lookups by key -/

namespace Store

variable {s : Store}

theorem attempt?_eq_some {id : Token} {r : AttemptRow} :
    s.attempt? id = some r ↔ r ∈ s.attempts.rows ∧ r.attemptId = id :=
  Table.find?_key (g := fun r : AttemptRow => r.attemptId) fun a b h => by simp [AttemptRow.clash, h]

theorem attempt_eq {a b : AttemptRow} (ha : a ∈ s.attempts.rows) (hb : b ∈ s.attempts.rows)
    (h : a.attemptId = b.attemptId) : a = b :=
  Option.some.inj ((attempt?_eq_some.2 ⟨ha, h⟩).symm.trans (attempt?_eq_some.2 ⟨hb, rfl⟩))

theorem proposal?_eq_some {id : Token} {r : ProposalRow} :
    s.proposal? id = some r ↔ r ∈ s.proposals.rows ∧ r.proposalId = id :=
  Table.find?_key (g := fun r : ProposalRow => r.proposalId) fun a b h => by simp [ProposalRow.clash, h]

theorem version?_eq_some {id : Token} {r : VersionRow} :
    s.version? id = some r ↔ r ∈ s.graphVersions.rows ∧ r.graphVersionId = id :=
  Table.find?_key (g := fun r : VersionRow => r.graphVersionId) fun a b h => by simp [VersionRow.clash, h]

theorem decision?_eq_some {id : Token} {r : DecisionRow} :
    s.decision? id = some r ↔ r ∈ s.graphDecisions.rows ∧ r.proposalId = id :=
  Table.find?_key (g := fun r : DecisionRow => r.proposalId) fun a b h => by simp [DecisionRow.clash, h]

theorem mem_attemptsOf {taskId : Token} {r : AttemptRow} :
    r ∈ s.attemptsOf taskId ↔ r ∈ s.attempts.rows ∧ r.taskId = taskId := by
  simp [attemptsOf]

end Store

/-! ## What a read has checked -/

/-- What `_read_attempt` checks about the row it found. -/
structure AttemptIntact (host : Host) (s : Store) (row : AttemptRow) (subset : AffectedSubset) : Prop where
  stored : readSubset host s row.snapshotId = .ok subset
  task : row.taskId = subset.taskId
  configuration : row.configurationDigest = subset.configurationDigest
  input : ∃ relations, readSourceOwnedRelations host s subset row.attemptId = .ok relations ∧
    row.inputDigest = host.digestValue (modelInput host subset row.attemptId row.profileIdentity relations)
  evidence : checkTerminalEvidence host s row = .ok ()

variable {id : Token}

variable {host : Host} {s : Store} {subset : AffectedSubset}

theorem readAttempt_ok {row : AttemptRow} :
    readAttempt host s id = .ok (row, subset) ↔ s.attempt? id = some row ∧ AttemptIntact host s row subset := by
  simp only [readAttempt, bind_eq_ok, exists_unit, demand_eq_ok, refuse_eq_ok, pure_eq_ok, not_or, not_not]
  constructor
  · rintro ⟨r, hr, sub, hsub, ⟨htask, hconf⟩, rel, hrel, hin, hev, heq⟩
    obtain ⟨rfl, rfl⟩ := Prod.mk.inj heq
    obtain rfl := (Store.attempt?_eq_some.1 hr).2
    exact ⟨hr, hsub, htask, hconf, ⟨rel, hrel, hin⟩, hev⟩
  · rintro ⟨hr, hsub, htask, hconf, ⟨rel, hrel, hin⟩, hev⟩
    obtain rfl := (Store.attempt?_eq_some.1 hr).2
    exact ⟨row, hr, subset, hsub, ⟨htask, hconf⟩, rel, hrel, hin, hev, rfl⟩

theorem readAttempts_ok {host : Host} {s : Store} : ∀ {ids : List Token},
    readAttempts host s ids = .ok () ↔ ∀ id ∈ ids, ∃ x, readAttempt host s id = .ok x
  | [] => by simp [readAttempts]
  | id :: rest => by simp [readAttempts, bind_eq_ok, @readAttempts_ok host s rest]

theorem verifyTaskLineage_reads {host : Host} {s : Store} {taskId : Token}
    (h : verifyTaskLineage host s taskId = .ok ()) {r : AttemptRow} (hr : r ∈ s.attemptsOf taskId) : ∃ x,
    readAttempt host s r.attemptId = .ok x := by
  have hmem : r ∈ sortBy (·.attemptId) (s.attemptsOf taskId) := mem_sortBy.2 hr
  dsimp only [verifyTaskLineage] at h
  split at h
  · rename_i hnil; rw [hnil] at hmem; cases hmem
  · split at h
    · simp only [bind_eq_ok, exists_unit, refuse_eq_ok, not_or, not_not] at h
      obtain ⟨pairs, -, claims, -, -, ⟨⟨-, hall⟩, -⟩, hread⟩ := h
      exact readAttempts_ok.1 hread _ (hall r hmem)
    · cases h

/-! ## Effects -/

/-- One move of a dispatch claim. -/
inductive DispatchClaim.Moves : Option DispatchClaim → Option DispatchClaim → Prop
  | prepare : Moves none (some .preDispatch)
  | openFirst (session : OpaqueIdentity) : Moves none (some (.sessionOpened session))
  | openPrepared (session : OpaqueIdentity) : Moves (some .preDispatch) (some (.sessionOpened session))
  | dispatch (session turn : OpaqueIdentity) :
    Moves (some (.sessionOpened session)) (some (.turnDispatched session turn))

/-- The state an outcome leaves its attempt in. -/
def OutcomeKind.state : OutcomeKind → AttemptState
  | .accepted => .accepted
  | .invalid => .invalid
  | .blocked => .blocked

/-- The successor row of an attempt, when it supersedes one. -/
def successorRow (r : AttemptRow) : Option SuccessorRow := r.supersedesAttemptId.map (⟨·, r.attemptId⟩)

def Store.Prepared (s : Store) (id : Token) : Prop := ∃ r, s.attempt? id = some r ∧ r.state = .prepared

/-- A new attempt, with its subset, its successor row and its trusted relations. -/
structure Prepares (host : Host) (s : Store) (row : AttemptRow) (s' : Store) : Prop where
  state : row.state = .prepared
  fresh : ∀ r ∈ s.attempts.rows, r.attemptId ≠ row.attemptId ∧ r.snapshotId ≠ row.snapshotId
  quiet : ∀ r ∈ s.attemptsOf row.taskId, r.state ≠ .prepared
  root : row.supersedesAttemptId = none → s.attemptsOf row.taskId = []
  follows : ∀ p, row.supersedesAttemptId = some p →
    (∃ r ∈ s.attemptsOf row.taskId, r.attemptId = p) ∧ ∀ q ∈ s.successors.rows, q.predecessor ≠ p
  subsets : ∃ new, s'.subsets.rows = s.subsets.rows ++ new ∧ ∀ r ∈ new, r.snapshotId = row.snapshotId
  members : ∃ new, s'.subsetMembers.rows = s.subsetMembers.rows ++ new ∧ ∀ r ∈ new, r.snapshotId = row.snapshotId
  trusted : ∃ new, s'.trustedRelations.rows = s.trustedRelations.rows ++ new ∧
    ∀ r ∈ new, r.attemptId = row.attemptId ∧ r.provenance.Valid host
  attempts : s'.attempts.rows = s.attempts.rows ++ [row]
  successors : s'.successors.rows = s.successors.rows ++ (successorRow row).toList
  readable : ∃ subset, AttemptIntact host s' row subset
  frame : s' = { s with
    subsets := s'.subsets, subsetMembers := s'.subsetMembers, trustedRelations := s'.trustedRelations
    attempts := s'.attempts, successors := s'.successors }

/-- The claim of a prepared attempt moves on. -/
structure Claims (s : Store) (id : Token) (s' : Store) : Prop where
  prepared : s.Prepared id
  moves : DispatchClaim.Moves (s.claim? id) (s'.claim? id)
  others : ∀ other, other ≠ id → s'.claim? other = s.claim? other ∧ s'.admission? other = s.admission? other
  frame : s' = { s with claims := s'.claims, admissions := s'.admissions }

/-- A prepared attempt gets its outcome and the state the outcome stands for. -/
structure Settles (s : Store) (id : Token) (outcome : Outcome) (s' : Store) : Prop where
  prepared : s.Prepared id
  fresh : ∀ r ∈ s.outcomes.rows, r.attemptId ≠ id
  outcomes : s'.outcomes.rows = s.outcomes.rows ++ [⟨id, outcome⟩]
  attempts : s'.attempts.rows = s.attempts.rows.map (AttemptRow.settle id outcome.kind.state)

/-- The attempt ends without a proposal. -/
structure Ends (s : Store) (id : Token) (outcome : Outcome) (s' : Store) : Prop extends Settles s id outcome s' where
  kind : outcome.kind ≠ .accepted
  frame : s' = { s with outcomes := s'.outcomes, attempts := s'.attempts }

/-- The attempt is accepted with the proposal its turn produced. -/
structure Accepts (host : Host) (s : Store) (proposal : DependencyProposal) (session turn : OpaqueIdentity)
    (s' : Store) : Prop extends Settles s proposal.attemptId (acceptedOutcome host proposal) s' where
  claimed : s.claim? proposal.attemptId = some (.turnDispatched session turn)
  unused : s.proposal? proposal.proposalId = none
  first : s.proposalsOf proposal.attemptId = []
  proposals : s'.proposals.rows = s.proposals.rows ++ [proposalRow host proposal]
  edges : s'.proposalEdges.rows = s.proposalEdges.rows ++ proposalEdgeRows proposal
  stored : storedEdges s' proposal.proposalId = proposalEdgeRows proposal
  result : s'.acceptedResult? proposal.attemptId = some (session, turn, proposal.proposalDigest host)
  others : ∀ other, other ≠ proposal.attemptId → s'.acceptedResult? other = s.acceptedResult? other
  frame : s' = { s with
    proposals := s'.proposals, proposalEdges := s'.proposalEdges, outcomes := s'.outcomes
    acceptedResults := s'.acceptedResults, attempts := s'.attempts }

/-- A proposal not decided before is decided, and written when it is accepted. -/
structure Activates (host : Host) (s : Store) (proposal : DependencyProposal) (binding : DependencyGraphBinding)
    (version : Token) (subset : AffectedSubset) (derived : TaskIdentity) (active : GraphSnapshot)
    (validation : GraphValidation) (w : Option GraphWrite) (s' : Store) : Prop where
  evidence : activationEvidence host s proposal binding = .ok (subset, derived)
  current : readCurrent host s = .ok active
  undecided : s.decision? proposal.proposalId = none
  plan : planActivation host s proposal subset binding derived active = .ok (validation, w)
  written : writeActivation host version binding w
    (decisionRow host proposal subset binding version validation w) s = .ok s'

/-- The abstract transitions of the dependency tables; none of them writes to the ledger. -/
inductive Effect (host : Host) (s : Store) : Store → Prop
  | none : Effect host s s
  | prepares {row : AttemptRow} {s' : Store} (h : Prepares host s row s') : Effect host s s'
  | claims {id : Token} {s' : Store} (h : Claims s id s') : Effect host s s'
  | ends {id : Token} {outcome : Outcome} {s' : Store} (h : Ends s id outcome s') : Effect host s s'
  | accepts {proposal : DependencyProposal} {session turn : OpaqueIdentity} {s' : Store}
    (h : Accepts host s proposal session turn s') : Effect host s s'
  | activates {proposal : DependencyProposal} {binding : DependencyGraphBinding} {version : Token}
    {subset : AffectedSubset} {derived : TaskIdentity} {active : GraphSnapshot} {validation : GraphValidation}
    {w : Option GraphWrite} {s' : Store}
    (h : Activates host s proposal binding version subset derived active validation w s') : Effect host s s'

/-! ## Writes taken apart -/

theorem insertRow_ok {ρ : Type} {clash : ρ → ρ → Bool} {t t' : Table clash} {r : ρ} :
    insertRow t r = .ok t' ↔ (∀ a ∈ t.rows, clash a r = false) ∧ t'.rows = t.rows ++ [r] := by
  simp only [insertRow, demand_eq_ok, Table.insert?_eq_some]

theorem insertRows_ok {ρ : Type} {clash : ρ → ρ → Bool} {t t' : Table clash} {rs : List ρ}
    (h : insertRows t rs = .ok t') : t'.rows = t.rows ++ rs := by
  simp only [insertRows, demand_eq_ok] at h
  exact Table.insertAll?_rows h

variable {s s' : Store}

theorem recordSubset_ok (h : recordSubset host subset s = .ok s') :
    (∃ new, s'.subsets.rows = s.subsets.rows ++ new ∧ ∀ r ∈ new, r.snapshotId = subset.snapshotId) ∧
    (∃ new, s'.subsetMembers.rows = s.subsetMembers.rows ++ new ∧ ∀ r ∈ new, r.snapshotId = subset.snapshotId) ∧
    s' = { s with subsets := s'.subsets, subsetMembers := s'.subsetMembers } ∧
    (s.subset? subset.snapshotId ≠ none → s' = s) := by
  unfold recordSubset at h
  split at h
  · rename_i hnone
    simp only [bind_eq_ok, pure_eq_ok, insertRow_ok] at h
    obtain ⟨subsets, ⟨-, hs⟩, members, hm, rfl⟩ := h
    refine ⟨⟨_, hs, ?_⟩, ⟨_, insertRows_ok hm, ?_⟩, rfl, fun hne => absurd hnone hne⟩
    · intro r hr; rw [List.mem_singleton.1 hr]; rfl
    · intro r hr; obtain ⟨m, -, rfl⟩ := List.mem_map.1 hr; rfl
  · simp only [bind_eq_ok, pure_eq_ok, exists_unit, refuse_eq_ok] at h
    obtain ⟨-, rfl⟩ := h
    exact ⟨⟨[], by simp, by simp⟩, ⟨[], by simp, by simp⟩, rfl, fun _ => rfl⟩

theorem insertAttempt_ok {row : AttemptRow} (h : insertAttempt row s = .ok s') :
    (∀ r ∈ s.attempts.rows, r.attemptId ≠ row.attemptId ∧ r.snapshotId ≠ row.snapshotId) ∧
    (∀ p, row.supersedesAttemptId = some p → ∀ q ∈ s.successors.rows, q.predecessor ≠ p) ∧
    s'.attempts.rows = s.attempts.rows ++ [row] ∧
    s'.successors.rows = s.successors.rows ++ (successorRow row).toList ∧
    s' = { s with attempts := s'.attempts, successors := s'.successors } := by
  have hclash : ∀ r : AttemptRow, r.clash row = false → r.attemptId ≠ row.attemptId ∧ r.snapshotId ≠ row.snapshotId := by
    intro r hr
    simp only [AttemptRow.clash, Bool.or_eq_false_iff, beq_eq_false_iff_ne] at hr
    exact hr.1
  simp only [insertAttempt, bind_eq_ok, insertRow_ok] at h
  obtain ⟨attempts, ⟨hfresh, ha⟩, h⟩ := h
  refine ⟨fun r hr => hclash r (hfresh r hr), ?_⟩
  cases hsup : row.supersedesAttemptId with
  | none =>
    simp only [hsup, pure_eq_ok] at h
    subst h
    exact ⟨by simp, ha, by simp [successorRow, hsup], rfl⟩
  | some p =>
    simp only [hsup, bind_eq_ok, exists_unit, refuse_eq_ok, insertRow_ok, pure_eq_ok] at h
    obtain ⟨-, successors, ⟨hnew, hs⟩, rfl⟩ := h
    refine ⟨?_, ha, by simp [successorRow, hsup, hs], rfl⟩
    rintro _ ⟨rfl⟩ q hq
    have := hnew q hq
    simp only [SuccessorRow.clash, Bool.or_eq_false_iff, beq_eq_false_iff_ne] at this
    exact this.1

variable {binding : DependencyGraphBinding}

theorem persistSourceRelation_ok
    {relation : SourceOwnedRelation} (h : persistSourceRelation host subset binding id relation s = .ok s') :
    (∃ new, s'.trustedRelations.rows = s.trustedRelations.rows ++ new ∧
      ∀ r ∈ new, r.attemptId = id ∧ r.provenance.Valid host) ∧
    s' = { s with trustedRelations := s'.trustedRelations } := by
  simp only [persistSourceRelation, bind_eq_ok, exists_unit, pure_eq_ok] at h
  obtain ⟨-, provenance, hp, -, rfl⟩ := h
  refine ⟨?_, rfl⟩
  cases hins : s.trustedRelations.insert? ⟨subset.snapshotId, id, provenance⟩ with
  | none => exact ⟨[], by simp, by simp⟩
  | some t =>
    refine ⟨_, (Table.insert?_eq_some.1 hins).2, ?_⟩
    intro r hr
    rw [List.mem_singleton.1 hr]
    exact ⟨rfl, TrustedEdgeProvenance.ofRelation_valid hp⟩

/-- The loop over the relations only adds trusted rows of this attempt. -/
theorem persistSourceOwnedRelations_ok :
    ∀ {relations : List SourceOwnedRelation} {s s' : Store},
      persistSourceOwnedRelations host subset id relations s = .ok s' →
        (∃ new, s'.trustedRelations.rows = s.trustedRelations.rows ++ new ∧
        ∀ r ∈ new, r.attemptId = id ∧ r.provenance.Valid host) ∧
      s' = { s with trustedRelations := s'.trustedRelations }
  | [], s, s', h => by
    obtain rfl : s = s' := by simpa [persistSourceOwnedRelations] using h
    exact ⟨⟨[], by simp, by simp⟩, rfl⟩
  | relation :: rest, s, s', h => by
    simp only [persistSourceOwnedRelations, bind_eq_ok] at h
    obtain ⟨s₁, h₁, h⟩ := h
    obtain ⟨⟨new₁, hr₁, hn₁⟩, hf₁⟩ := persistSourceRelation_ok h₁
    obtain ⟨⟨new₂, hr₂, hn₂⟩, hf₂⟩ := persistSourceOwnedRelations_ok h
    refine ⟨⟨new₁ ++ new₂, by rw [hr₂, hr₁, List.append_assoc], ?_⟩, by rw [hf₂, hf₁]⟩
    intro r hr
    rcases List.mem_append.1 hr with hr | hr
    · exact hn₁ r hr
    · exact hn₂ r hr

/-! ### Claims and admissions -/

theorem setClaim_other {id other : Token} (h : other ≠ id) (claim : DispatchClaim) (s : Store) :
    (setClaim id claim s).claim? other = s.claim? other := by
  have hkey : ∀ r : ClaimRow, (r.advance id claim).attemptId = r.attemptId := fun r => by
    unfold ClaimRow.advance; split <;> rfl
  simp only [Store.claim?, setClaim, Table.update_rows, find?_map_key hkey, Option.map_map]
  cases hf : s.claims.rows.find? fun r => r.attemptId = other with
  | none => rfl
  | some r =>
    have hr : r.attemptId = other := by simpa using List.find?_some hf
    simp [ClaimRow.advance, hr, h]

theorem setClaim_self {old : DispatchClaim} (h : s.claim? id = some old) (claim : DispatchClaim) :
    (setClaim id claim s).claim? id = some claim := by
  have hkey : ∀ r : ClaimRow, (r.advance id claim).attemptId = r.attemptId := fun r => by
    unfold ClaimRow.advance; split <;> rfl
  simp only [Store.claim?, Option.map_eq_some_iff] at h
  obtain ⟨r, hf, -⟩ := h
  have hr : r.attemptId = id := by simpa using List.find?_some hf
  simp only [Store.claim?, setClaim, Table.update_rows, find?_map_key hkey, hf]
  simp [ClaimRow.advance, hr]

theorem insertClaim_ok {claim : DispatchClaim} (h : insertClaim id claim s = .ok s') :
    s'.claim? id = some claim ∧ (∀ other, other ≠ id → s'.claim? other = s.claim? other) ∧
    s' = { s with claims := s'.claims } := by
  simp only [insertClaim, bind_eq_ok, insertRow_ok, pure_eq_ok] at h
  obtain ⟨claims, ⟨hfresh, hrows⟩, rfl⟩ := h
  have hnew : ∀ r ∈ s.claims.rows, r.attemptId ≠ id := fun r hr => by
    have := hfresh r hr
    simpa only [ClaimRow.clash, beq_eq_false_iff_ne] using this
  refine ⟨?_, fun other hne => ?_, rfl⟩
  · simp only [Store.claim?, hrows]
    rw [find?_append_self (g := fun r : ClaimRow => r.attemptId) hnew rfl]; rfl
  · simp only [Store.claim?, hrows]
    rw [find?_append_ne (g := fun r : ClaimRow => r.attemptId) (Ne.symm hne)]

/-- An admission written for one attempt leaves the admissions of the others. -/
def AdmitsOnly (s : Store) (id : Token) (s' : Store) : Prop :=
  (∀ other, other ≠ id → s'.admission? other = s.admission? other) ∧ s' = { s with admissions := s'.admissions }

theorem recordAdmission_ok {admission : Admission} (h : recordAdmission id admission s = .ok s') : AdmitsOnly s id s' := by
  unfold recordAdmission at h
  split at h
  · simp only [bind_eq_ok, insertRow_ok, pure_eq_ok] at h
    obtain ⟨admissions, ⟨-, hrows⟩, rfl⟩ := h
    refine ⟨fun other hne => ?_, rfl⟩
    simp only [Store.admission?, hrows]
    rw [find?_append_ne (g := fun r : AdmissionRow => r.attemptId) (Ne.symm hne)]
  · simp only [bind_eq_ok, exists_unit, refuse_eq_ok, pure_eq_ok] at h
    obtain ⟨-, rfl⟩ := h
    exact ⟨fun _ _ => rfl, rfl⟩

theorem setAdmissionSession_ok {old new : String} (h : setAdmissionSession id old new s = .ok s') : AdmitsOnly s id s' := by
  simp only [setAdmissionSession, bind_eq_ok, demand_eq_ok, pure_eq_ok] at h
  obtain ⟨admissions, hupd, rfl⟩ := h
  refine ⟨fun other hne => ?_, rfl⟩
  simp only [Store.admission?, Table.update?_rows hupd]
  rw [find?_map_key (g := fun r : AdmissionRow => r.attemptId) (fun r => by split <;> rfl)]
  cases hf : s.admissions.rows.find? fun r => r.attemptId = other with
  | none => rfl
  | some r =>
    have hr : r.attemptId = other := by simpa using List.find?_some hf
    simp [hr, hne]

variable {binding : Option DependencyReviewBinding}

theorem admitPreDispatch_ok {taskIdentity : Option TaskIdentity}
    (h : admitPreDispatch host id taskIdentity binding s = .ok s') :
    AdmitsOnly s id s' := by
  unfold admitPreDispatch at h
  split at h
  · exact recordAdmission_ok h
  · obtain rfl := Except.ok.inj h
    exact ⟨fun _ _ => rfl, rfl⟩

variable {session : OpaqueIdentity}

theorem admitSession_ok {taskIdentity : Option TaskIdentity}
    (h : admitSession host id session taskIdentity binding s = .ok s') :
    AdmitsOnly s id s' := by
  unfold admitSession at h
  split at h
  · dsimp only at h
    split at h
    · exact setAdmissionSession_ok h
    · exact recordAdmission_ok h
  · obtain rfl := Except.ok.inj h
    exact ⟨fun _ _ => rfl, rfl⟩

/-- A claim that moves, then an admission of the same attempt. -/
theorem Claims.of_admits {s m s₂ : Store} (hp : s.Prepared id) (hmove : DispatchClaim.Moves (s.claim? id) (m.claim? id))
    (hother : ∀ other, other ≠ id → m.claim? other = s.claim? other) (hf : m = { s with claims := m.claims })
    (ha : AdmitsOnly m id s₂) : Claims s id s₂ := by
  obtain ⟨hadm, hf₂⟩ := ha
  have hclaims : s₂.claims = m.claims := by rw [hf₂]
  have hadmissions : m.admissions = s.admissions := by rw [hf]
  have hclaim : ∀ other, s₂.claim? other = m.claim? other := fun other => by simp only [Store.claim?, hclaims]
  refine ⟨hp, by rw [hclaim]; exact hmove, fun other hne => ⟨by rw [hclaim]; exact hother other hne, ?_⟩, ?_⟩
  · rw [hadm other hne]; simp only [Store.admission?, hadmissions]
  · rw [hf₂, hf]

/-! ### Graph versions -/

/-- The rows of a new version. -/
structure WritesVersion (host : Host) (version : Token) (binding : DependencyGraphBinding) (w : GraphWrite) (s s' : Store) :
    Prop where
  fresh : ∀ r ∈ s.graphVersions.rows, r.graphVersionId ≠ version
  versions : s'.graphVersions.rows = s.graphVersions.rows ++
    [⟨version, w.predecessor, w.snapshot.proposalSetDigest host, binding, w.snapshot.graphDigest host⟩]
  members : s'.graphMembers.rows = s.graphMembers.rows ++ w.snapshot.members.map (⟨version, ·⟩)
  edges : s'.graphEdges.rows = s.graphEdges.rows ++ w.snapshot.edges.map (⟨version, ·⟩)
  current : s'.graphCurrent = some version
  frame : s' = { s with
    graphVersions := s'.graphVersions, graphMembers := s'.graphMembers, graphEdges := s'.graphEdges
    graphCurrent := s'.graphCurrent }

theorem writeVersion_ok {host : Host} {version : Token} {binding : DependencyGraphBinding} {w : GraphWrite}
    (h : writeVersion host version binding w s = .ok s') : WritesVersion host version binding w s s' := by
  simp only [writeVersion, bind_eq_ok, insertRow_ok, pure_eq_ok] at h
  obtain ⟨versions, ⟨hfresh, hv⟩, members, hm, edges, he, rfl⟩ := h
  refine ⟨fun r hr => ?_, hv, insertRows_ok hm, insertRows_ok he, rfl, rfl⟩
  have := hfresh r hr
  simpa only [VersionRow.clash, beq_eq_false_iff_ne] using this

/-- The decision row of an activation, after the version it wrote, if any. -/
theorem writeActivation_ok {host : Host} {version : Token} {binding : DependencyGraphBinding} {w : Option GraphWrite}
    {d : DecisionRow} (h : writeActivation host version binding w d s = .ok s') :
    ∃ s₁, (w = none ∧ s₁ = s ∨ ∃ w', w = some w' ∧ WritesVersion host version binding w' s s₁) ∧
      (∀ r ∈ s.graphDecisions.rows, r.clash d = false) ∧
      s'.graphDecisions.rows = s.graphDecisions.rows ++ [d] ∧ s' = { s₁ with graphDecisions := s'.graphDecisions } := by
  cases w with
  | none =>
    simp only [writeActivation, bind_eq_ok, Except.ok.injEq, exists_eq_left', insertRow_ok, pure_eq_ok] at h
    obtain ⟨decisions, ⟨hfresh, hrows⟩, rfl⟩ := h
    exact ⟨s, .inl ⟨rfl, rfl⟩, hfresh, hrows, rfl⟩
  | some w =>
    simp only [writeActivation, bind_eq_ok, insertRow_ok, pure_eq_ok] at h
    obtain ⟨s₁, hw, decisions, ⟨hfresh, hrows⟩, rfl⟩ := h
    have hw := writeVersion_ok hw
    have hdec : s₁.graphDecisions = s.graphDecisions := by rw [hw.frame]
    rw [hdec] at hfresh hrows
    exact ⟨s₁, .inr ⟨w, rfl, hw⟩, hfresh, hrows, rfl⟩

variable {observedSession observedTurn : Option OpaqueIdentity}

/-! ## Operations taken apart -/

section Operations

variable {host : Host} {s s' : Store}

variable {id : Token} {binding : DependencyReviewBinding}

/-- Preparing an attempt: an attempt that exists is left as it is, a new one is written and read back. -/
theorem startAttempt_effect (hwf : ∀ id r, s.attempt? id = some r → ∃ subset, AttemptIntact host s r subset)
    {relations : List SourceOwnedRelation} {supersedes : Option Token}
    {result : DependencyReviewAttempt}
    (h : startAttempt host subset id binding relations supersedes s = (.ok result, s')) : Effect host s s' := by
  simp only [startAttempt, Tx.query_bind, Tx.check_bind, Tx.write_bind, exists_unit, refuse_eq_ok, Except.ok.injEq,
    not_not] at h
  obtain ⟨-, -, -, -, s₁, hsub, existing, rfl, -, hreread, hcompeting, hsup, h⟩ := h
  obtain ⟨hsubsets, hmembers, hframe₁, hkept⟩ := recordSubset_ok hsub
  have hattempts : s₁.attempts = s.attempts := by rw [hframe₁]
  simp only [Tx.bind_ok, Tx.pure_ok, exists_unit] at h
  obtain ⟨s₂, hprep, -, rfl⟩ := h
  cases hex : s₁.attempt? id with
  | some stored =>
    simp only [hex, prepareAttempt, Tx.check_bind, Tx.query_bind, Tx.check_ok, exists_unit, refuse_eq_ok, not_not] at hprep
    obtain ⟨hstored, -, -, -, rfl⟩ := hprep
    have hsnap : stored.snapshotId = subset.snapshotId := congrArg AttemptRow.snapshotId hstored
    have hex' : s.attempt? id = some stored := by rw [← hex, Store.attempt?, Store.attempt?, hattempts]
    obtain ⟨sub, hsub'⟩ := hwf id stored hex'
    have hsome : s.subset? subset.snapshotId ≠ none := by
      have := hsub'.stored
      simp only [readSubset, bind_eq_ok, demand_eq_ok, hsnap] at this
      obtain ⟨row, hrow, -⟩ := this
      simp [hrow]
    rw [hkept hsome]
    exact .none
  | none =>
    have hno : ∀ r ∈ s₁.attempts.rows, r.attemptId ≠ id := by simpa [Store.attempt?] using hex
    simp only [hex, prepareAttempt, Tx.write_bind, Tx.query_ok] at hprep
    obtain ⟨s₃, hins, s₄, hpersist, hverify, rfl⟩ := hprep
    obtain ⟨hfresh, hfollow, hrows, hsucc, hframe₃⟩ := insertAttempt_ok hins
    obtain ⟨htrusted, hframe₄⟩ := persistSourceOwnedRelations_ok hpersist
    generalize hrow : attemptRow host subset id binding (sortBy (·.relationDigest host) relations) supersedes = row at *
    have hid : row.attemptId = id := by rw [← hrow]; rfl
    have htask : row.taskId = subset.taskId := by rw [← hrow]; rfl
    have hsnap : row.snapshotId = subset.snapshotId := by rw [← hrow]; rfl
    have hsupersedes : row.supersedesAttemptId = supersedes := by rw [← hrow]; rfl
    have hattempts₄ : s₄.attempts = s₃.attempts := by rw [hframe₄]
    have hsucc₁ : s₁.successors = s.successors := by rw [hframe₁]
    have hof : ∀ t, s₁.attemptsOf t = s.attemptsOf t := fun t => by simp only [Store.attemptsOf, hattempts]
    have hrows₄ : s₄.attempts.rows = s.attempts.rows ++ [row] := by rw [hattempts₄, hrows, hattempts]
    refine Effect.prepares (?_ : Prepares host s row _)
    refine ⟨by rw [← hrow]; rfl, by rw [← hattempts]; exact hfresh, ?_, ?_, ?_, ?_, ?_, ?_, hrows₄, ?_, ?_, ?_⟩
    · -- a prepared attempt of the task would compete with the new one
      intro r hr hprepared
      rw [htask, ← hof] at hr
      exact hcompeting ⟨r, hr, hprepared, hno r (Store.mem_attemptsOf.1 hr).1⟩
    · intro hnone
      rw [hsupersedes] at hnone
      subst hnone
      simp only [requireSupersession, hex, refuse_eq_ok, true_and, not_not] at hsup
      rw [htask, ← hof]; exact hsup
    · intro p hp
      refine ⟨?_, by rw [← hsucc₁]; exact hfollow p hp⟩
      rw [hsupersedes] at hp
      subst hp
      simp only [requireSupersession, bind_eq_ok, Prod.exists, exists_unit, refuse_eq_ok, not_or, not_not] at hsup
      obtain ⟨r, _, hread, ⟨hrt, -⟩, -⟩ := hsup
      obtain ⟨hmem, hrp⟩ := Store.attempt?_eq_some.1 (readAttempt_ok.1 hread).1
      exact ⟨r, by rw [htask, ← hof]; exact Store.mem_attemptsOf.2 ⟨hmem, hrt⟩, hrp⟩
    · have : s₄.subsets = s₁.subsets := by rw [hframe₄, hframe₃]
      rw [this, hsnap]; exact hsubsets
    · have : s₄.subsetMembers = s₁.subsetMembers := by rw [hframe₄, hframe₃]
      rw [this, hsnap]; exact hmembers
    · have : s₃.trustedRelations = s.trustedRelations := by rw [hframe₃, hframe₁]
      rw [← this]; exact htrusted
    · have : s₄.successors = s₃.successors := by rw [hframe₄]
      rw [this, hsucc, hsucc₁]
    · have hmem : row ∈ s₄.attempts.rows := by rw [hrows₄]; simp
      obtain ⟨⟨r, sub⟩, hread⟩ := verifyTaskLineage_reads hverify (Store.mem_attemptsOf.2 ⟨hmem, htask⟩)
      obtain ⟨hr, hintact⟩ := readAttempt_ok.1 hread
      rw [Store.attempt?_eq_some.2 ⟨hmem, rfl⟩] at hr
      obtain rfl := Option.some.inj hr
      exact ⟨sub, hintact⟩
    · rw [hframe₄, hframe₃, hframe₁]

/-! ### Claims -/

variable {taskIdentity : Option TaskIdentity}

theorem claimPreDispatch_effect
    {binding : Option DependencyReviewBinding} (h : claimPreDispatch host id taskIdentity binding s = (.ok (), s')) :
    Effect host s s' := by
  simp only [claimPreDispatch, Tx.query_bind, Tx.check_bind, Tx.write_bind, Tx.write_ok, Prod.exists, exists_unit,
    refuse_eq_ok, not_or, not_not] at h
  obtain ⟨-, row, subset, hread, -, ⟨hstate, hnone⟩, s₁, hins, hadm⟩ := h
  obtain ⟨hself, hother, hf⟩ := insertClaim_ok hins
  refine .claims (.of_admits ⟨row, (readAttempt_ok.1 hread).1, hstate⟩ ?_ hother hf (admitPreDispatch_ok hadm))
  rw [hnone, hself]
  exact .prepare

theorem openSession_ok {session : OpaqueIdentity} (h : openSession id session s = .ok s') :
    DispatchClaim.Moves (s.claim? id) (s'.claim? id) ∧ (∀ other, other ≠ id → s'.claim? other = s.claim? other) ∧
    s' = { s with claims := s'.claims } := by
  unfold openSession at h
  split at h
  · rename_i hnone
    obtain ⟨hself, hother, hf⟩ := insertClaim_ok h
    refine ⟨?_, hother, hf⟩
    rw [hnone, hself]
    exact .openFirst session
  · rename_i hpre
    obtain rfl := Except.ok.inj h
    refine ⟨?_, fun other hne => setClaim_other hne _ s, rfl⟩
    rw [setClaim_self hpre, hpre]
    exact .openPrepared session
  · cases h

theorem claimSession_effect {session : OpaqueIdentity} {binding : Option DependencyReviewBinding}
    (h : claimSession host id session taskIdentity binding s = (.ok (), s')) :
    Effect host s s' := by
  simp only [claimSession, Tx.query_bind, Tx.check_bind, Tx.write_bind, Tx.write_ok, Prod.exists, exists_unit,
    refuse_eq_ok, not_not] at h
  obtain ⟨-, row, subset, hread, -, hstate, s₁, hopen, hadm⟩ := h
  obtain ⟨hmove, hother, hf⟩ := openSession_ok hopen
  exact .claims (.of_admits ⟨row, (readAttempt_ok.1 hread).1, hstate⟩ hmove hother hf (admitSession_ok hadm))

theorem claimTurn_effect {session turn : OpaqueIdentity} (h : claimTurn host id session turn s = (.ok (), s')) :
    Effect host s s' := by
  simp only [claimTurn, Tx.query_bind, Tx.write_ok, Prod.exists, exists_unit, refuse_eq_ok, not_or, not_not,
    Except.ok.injEq] at h
  obtain ⟨row, subset, hread, ⟨hstate, hclaim⟩, rfl⟩ := h
  refine .claims (.of_admits (m := setClaim id (.turnDispatched session turn) s)
    ⟨row, (readAttempt_ok.1 hread).1, hstate⟩ ?_ (fun other hne => setClaim_other hne _ s) rfl ⟨fun _ _ => rfl, rfl⟩)
  rw [setClaim_self hclaim, hclaim]
  exact .dispatch session turn

/-! ### Ending an attempt -/

theorem insertOutcome_ok {outcome : Outcome} (h : insertOutcome id outcome s = .ok s') :
    (∀ r ∈ s.outcomes.rows, r.attemptId ≠ id) ∧ s'.outcomes.rows = s.outcomes.rows ++ [⟨id, outcome⟩] ∧
    s' = { s with outcomes := s'.outcomes } := by
  simp only [insertOutcome, bind_eq_ok, insertRow_ok, pure_eq_ok] at h
  obtain ⟨outcomes, ⟨hfresh, hrows⟩, rfl⟩ := h
  refine ⟨fun r hr => ?_, hrows, rfl⟩
  have := hfresh r hr
  simpa only [OutcomeRow.clash, beq_eq_false_iff_ne] using this

/-- An outcome written for a prepared attempt, then its state. -/
theorem Ends.of_outcome {s₁ : Store} {outcome : Outcome} (hp : s.Prepared id) (hk : outcome.kind ≠ .accepted)
    (h : insertOutcome id outcome s = .ok s₁) : Ends s id outcome (setAttemptState id outcome.kind.state s₁) := by
  obtain ⟨hfresh, hrows, hf⟩ := insertOutcome_ok h
  have hattempts : s₁.attempts = s.attempts := by rw [hf]
  refine ⟨⟨hp, hfresh, hrows, ?_⟩, hk, ?_⟩
  · simp only [setAttemptState, Table.update_rows, hattempts]
  · rw [hf]; rfl

variable {output : Digest}

theorem recordTerminal_effect {kind : OutcomeKind} (hk : kind ≠ .accepted) {label : String} {reason route : Reason}
    {binding : Option DependencyReviewBinding}
    (h : recordTerminal host kind kind.state label id output reason route taskIdentity binding s = (.ok (), s')) :
    Effect host s s' := by
  simp only [recordTerminal, Tx.query_bind, Tx.check_bind, Tx.write_ok, Prod.exists, exists_unit, refuse_eq_ok] at h
  obtain ⟨-, row, subset, hread, -, hstate, -, hsettle⟩ := h
  unfold settleTerminal at hsettle
  split at hsettle
  · simp only [bind_eq_ok, exists_unit, pure_eq_ok] at hsettle
    obtain ⟨-, rfl⟩ := hsettle
    exact .none
  · rename_i hne
    simp only [bind_eq_ok, exists_unit, pure_eq_ok] at hsettle
    obtain ⟨-, s₁, hins, rfl⟩ := hsettle
    have hprepared : row.state = .prepared := by
      by_contra hcon
      exact hstate ⟨hcon, hne⟩
    exact .ends (Ends.of_outcome ⟨row, (readAttempt_ok.1 hread).1, hprepared⟩ hk hins)

theorem recordScopeDenied_effect {taskIdentity : TaskIdentity}
    (h : recordScopeDenied host id output taskIdentity binding s = (.ok (), s')) :
    Effect host s s' := by
  simp only [recordScopeDenied, Tx.query_bind, Tx.write_ok, Prod.exists, exists_unit] at h
  obtain ⟨row, subset, hread, -, -, hsettle⟩ := h
  unfold settleScopeDenied at hsettle
  split at hsettle
  · rename_i hprepared
    simp only [bind_eq_ok, pure_eq_ok] at hsettle
    obtain ⟨s₁, hins, rfl⟩ := hsettle
    exact .ends (Ends.of_outcome ⟨row, (readAttempt_ok.1 hread).1, hprepared.1⟩ (by simp [scopeStopped]) hins)
  · simp only [bind_eq_ok, exists_unit, pure_eq_ok] at hsettle
    obtain ⟨-, rfl⟩ := hsettle
    exact .none

/-- Recovery either changes nothing or ends the attempt as uncertain. -/
theorem recoverDispatchClaim_cases {subset : AffectedSubset} {input : Digest} {supersedes : Option Token}
    {blocked : Bool} (h : recoverDispatchClaim host id output subset binding input supersedes taskIdentity s = (.ok blocked, s')) :
    (blocked = false ∧ s' = s) ∨ (blocked = true ∧ Ends s id (uncertainTurn output) s') := by
  simp only [recoverDispatchClaim, Tx.query_bind, Tx.check_bind, Prod.exists, exists_unit, Except.ok.injEq,
    exists_eq_left'] at h
  obtain ⟨row, stored, hread, -, -, -, -, hblock⟩ := h
  unfold blockInFlight at hblock
  split at hblock
  · rw [Tx.pure_ok] at hblock
    exact .inl ⟨hblock.1.symm, hblock.2.symm⟩
  · rename_i hflight
    simp only [Tx.write_bind, Tx.pure_ok, Except.ok.injEq, exists_eq_left'] at hblock
    obtain ⟨s₁, hins, rfl, rfl⟩ := hblock
    rw [not_or, not_not] at hflight
    exact .inr ⟨rfl, Ends.of_outcome ⟨row, (readAttempt_ok.1 hread).1, hflight.2⟩ (by simp [uncertainTurn]) hins⟩

/-! ### Accepting -/

theorem bindAcceptedResultDispatch_ok {session turn : OpaqueIdentity}
    (h : bindAcceptedResultDispatch id output session turn s = .ok s') :
    s.claim? id = some (.turnDispatched session turn) ∧ s'.acceptedResult? id = some (session, turn, output) ∧
    (∀ other, other ≠ id → s'.acceptedResult? other = s.acceptedResult? other) ∧
    s' = { s with acceptedResults := s'.acceptedResults } := by
  unfold bindAcceptedResultDispatch at h
  split at h
  · rename_i claimSession claimTurn hclaim
    simp only [bind_eq_ok, exists_unit, refuse_eq_ok, not_not, Prod.mk.injEq] at h
    obtain ⟨⟨rfl, rfl⟩, h⟩ := h
    refine ⟨hclaim, ?_⟩
    split at h
    · simp only [bind_eq_ok, insertRow_ok, pure_eq_ok] at h
      obtain ⟨results, ⟨hfresh, hrows⟩, rfl⟩ := h
      have hnew : ∀ r ∈ s.acceptedResults.rows, r.attemptId ≠ id := fun r hr => by
        have := hfresh r hr
        simp only [AcceptedResultRow.clash, Bool.or_eq_false_iff, beq_eq_false_iff_ne] at this
        exact this.1
      refine ⟨?_, fun other hne => ?_, rfl⟩
      · simp only [Store.acceptedResult?, hrows]
        rw [find?_append_self (g := fun r : AcceptedResultRow => r.attemptId) hnew rfl]; rfl
      · simp only [Store.acceptedResult?, hrows]
        rw [find?_append_ne (g := fun r : AcceptedResultRow => r.attemptId) (Ne.symm hne)]
    · rename_i existing hexisting
      simp only [bind_eq_ok, exists_unit, refuse_eq_ok, not_not, pure_eq_ok] at h
      obtain ⟨rfl, rfl⟩ := h
      exact ⟨hexisting, fun _ _ => rfl, rfl⟩
  · cases h

variable {proposal : DependencyProposal}

theorem insertProposal_ok (h : insertProposal host proposal s = .ok s') :
    s.proposal? proposal.proposalId = none ∧ s.proposalsOf proposal.attemptId = [] ∧
    s'.proposals.rows = s.proposals.rows ++ [proposalRow host proposal] ∧
    s'.proposalEdges.rows = s.proposalEdges.rows ++ proposalEdgeRows proposal ∧
    s' = { s with proposals := s'.proposals, proposalEdges := s'.proposalEdges } := by
  simp only [insertProposal, bind_eq_ok, exists_unit, refuse_eq_ok, not_or, not_not, insertRow_ok, pure_eq_ok] at h
  obtain ⟨⟨hnone, -⟩, hfirst, proposals, ⟨-, hrows⟩, edges, hedges, rfl⟩ := h
  exact ⟨hnone, hfirst, hrows, insertRows_ok hedges, rfl⟩

theorem recordAcceptance_ok {observedSession observedTurn : Option OpaqueIdentity} {observedOutput : Option Digest}
    (hp : s.Prepared proposal.attemptId)
    (h : recordAcceptance host proposal observedSession observedTurn observedOutput s = (.ok (), s')) :
    ∃ session turn, Accepts host s proposal session turn s' := by
  simp only [recordAcceptance, Tx.query_bind, Tx.check_bind, Tx.write_bind, Tx.query_ok, Prod.exists, exists_unit,
    refuse_eq_ok, not_not, Except.ok.injEq, exists_eq_left'] at h
  obtain ⟨session, turn, -, s₁, hprop, hedges, s₂, hout, s₃, hbind, -, rfl⟩ := h
  obtain ⟨hunused, hfirst, hproposals, hrows, hf₁⟩ := insertProposal_ok hprop
  obtain ⟨hfresh, houtcomes, hf₂⟩ := insertOutcome_ok hout
  obtain ⟨hclaim, hresult, hothers, hf₃⟩ := bindAcceptedResultDispatch_ok hbind
  have hproposals₃ : s₃.proposals = s₁.proposals := by rw [hf₃, hf₂]
  have hedges₃ : s₃.proposalEdges = s₁.proposalEdges := by rw [hf₃, hf₂]
  have houtcomes₃ : s₃.outcomes = s₂.outcomes := by rw [hf₃]
  have houtcomes₁ : s₁.outcomes = s.outcomes := by rw [hf₁]
  have hattempts₃ : s₃.attempts = s.attempts := by rw [hf₃, hf₂, hf₁]
  have hclaims₂ : s₂.claims = s.claims := by rw [hf₂, hf₁]
  have hresults₂ : s₂.acceptedResults = s.acceptedResults := by rw [hf₂, hf₁]
  simp only [verifyProposalEdges, refuse_eq_ok, not_not] at hedges
  refine ⟨session, turn, ⟨⟨hp, ?_, ?_, ?_⟩, ?_, hunused, hfirst, ?_, ?_, ?_, hresult, ?_, ?_⟩⟩
  · rw [← houtcomes₁]; exact hfresh
  · show s₃.outcomes.rows = _
    rw [houtcomes₃, houtcomes, houtcomes₁]
  · simp only [setAttemptState, Table.update_rows, hattempts₃]; rfl
  · rw [← hclaim]; simp only [Store.claim?, hclaims₂]
  · show s₃.proposals.rows = _
    rw [hproposals₃, hproposals]
  · show s₃.proposalEdges.rows = _
    rw [hedges₃, hrows]
  · rw [← hedges]
    simp only [storedEdges, Store.edgesOf, setAttemptState, hedges₃]
  · intro other hne
    show s₃.acceptedResult? other = _
    rw [hothers other hne]
    simp only [Store.acceptedResult?, hresults₂]
  · rw [hf₃, hf₂, hf₁]; rfl

theorem acceptProposal_effect {observedSession observedTurn : Option OpaqueIdentity} {observedOutput : Option Digest}
    {digest : Digest} (h : acceptProposal host proposal binding taskIdentity observedSession observedTurn observedOutput s =
      (.ok digest, s')) : Effect host s s' := by
  simp only [acceptProposal, Tx.query_bind, Tx.check_bind, Prod.exists, exists_unit, refuse_eq_ok, not_or] at h
  obtain ⟨-, attempt, subset, hread, derived, -, -, ⟨hstate, -⟩, -, -, -, h⟩ := h
  simp only [Tx.bind_ok, Tx.pure_ok, exists_unit] at h
  obtain ⟨s₁, hsettle, -, rfl⟩ := h
  by_cases hacc : attempt.state = .accepted
  · rw [hacc] at hsettle
    simp only [settleAcceptance, Tx.query_ok] at hsettle
    rw [← hsettle.2]
    exact .none
  · have hprepared : attempt.state = .prepared := by
      by_contra hcon
      exact hstate ⟨hcon, hacc⟩
    rw [hprepared] at hsettle
    obtain ⟨session, turn, hacc⟩ := recordAcceptance_ok ⟨attempt, (readAttempt_ok.1 hread).1, hprepared⟩ hsettle
    exact .accepts hacc

/-! ### Activating -/

/-- An activation that returns either replays a decision or takes a new one. -/
theorem activateBody_cases {binding : DependencyGraphBinding} {version : Token} {result : GraphActivation}
    (h : activateBody host proposal binding version s = (.ok result, s')) :
    (∃ subset derived active row, activationEvidence host s proposal binding = .ok (subset, derived) ∧
      readCurrent host s = .ok active ∧ s.decision? proposal.proposalId = some row ∧
      replayDecision host proposal subset binding version row = .ok result ∧ s' = s) ∨ (∃ subset derived active validation w,
      Activates host s proposal binding version subset derived active validation w s' ∧
      result = ⟨proposal.proposalId, validation.decision, validation.reasonCode,
        (decisionRow host proposal subset binding version validation w).decisionDigest, w.map fun _ => version⟩) := by
  simp only [activateBody, Tx.query_bind, Prod.exists, Except.ok.injEq, exists_eq_left'] at h
  obtain ⟨subset, derived, hev, active, hcur, h⟩ := h
  cases hdec : s.decision? proposal.proposalId with
  | some row =>
    simp only [hdec, Tx.check_ok] at h
    exact .inl ⟨subset, derived, active, row, hev, hcur, rfl, h.1, h.2.symm⟩
  | none =>
    simp only [hdec, decideActivation, Tx.query_bind, Tx.write_bind, Tx.pure_ok, Prod.exists] at h
    obtain ⟨validation, w, hplan, s₁, hwrite, rfl, rfl⟩ := h
    exact .inr ⟨subset, derived, active, validation, w, ⟨hev, hcur, hdec, hplan, hwrite⟩, rfl⟩

theorem activateBody_effect {binding : DependencyGraphBinding} {version : Token} {result : GraphActivation}
    (h : activateBody host proposal binding version s = (.ok result, s')) :
    Effect host s s' := by
  rcases activateBody_cases h with ⟨_, _, _, _, -, -, -, -, rfl⟩ | ⟨_, _, _, _, _, hact, -⟩
  · exact .none
  · exact .activates hact

end Operations

/-! ## Every step is an effect -/

theorem transaction_effect {host : Host} {α : Type} {body : Tx Error Store α} {s : Store}
    (h : ∀ a s', body s = (.ok a, s') → Effect host s s') : Effect host s (transaction body s).2 := by
  rcases transaction_cases body s with ⟨a, s', hb, ht⟩ | ⟨e, -, ht⟩
  · rw [ht]; exact h a s' hb
  · rw [ht]; exact .none

theorem Call.effect {host : Host} {s : Store}
    (hwf : ∀ id r, s.attempt? id = some r → ∃ subset, AttemptIntact host s r subset) (c : Call) :
    Effect host s (c.run host s) := by
  cases c with
  | startAttempt => exact transaction_effect fun _ _ h => startAttempt_effect hwf h
  | claimPreDispatch => exact transaction_effect fun _ _ h => claimPreDispatch_effect h
  | claimSession => exact transaction_effect fun _ _ h => claimSession_effect h
  | claimTurn => exact transaction_effect fun _ _ h => claimTurn_effect h
  | acceptProposal => exact transaction_effect fun _ _ h => acceptProposal_effect h
  | recordInvalid => exact transaction_effect fun _ _ h => recordTerminal_effect (by decide : OutcomeKind.invalid ≠ .accepted) h
  | recordBlocked => exact transaction_effect fun _ _ h => recordTerminal_effect (by decide : OutcomeKind.blocked ≠ .accepted) h
  | recordScopeDenied => exact transaction_effect fun _ _ h => recordScopeDenied_effect h
  | recoverDispatchClaim =>
    refine transaction_effect fun _ _ h => ?_
    rcases recoverDispatchClaim_cases h with ⟨-, rfl⟩ | ⟨-, hends⟩
    · exact .none
    · exact .ends hends
  | activate => exact transaction_effect fun _ _ h => activateBody_effect h

/-- The operations refine the abstract transitions, on stores whose attempts read back. -/
theorem Step.effect {host : Host} (hwf : ∀ id r, s.attempt? id = some r → ∃ subset, AttemptIntact host s r subset)
    (h : Step host s s') :
    Effect host s s' ∨ ∃ ledger scope, s.ledger.Extends ledger ∧ s' = { s with ledger, scope } := by
  cases h with
  | call c => exact .inl (c.effect hwf)
  | environment _ ledger scope hext => exact .inr ⟨ledger, scope, hext, rfl⟩

/-- An effect leaves the ledger and the recovery records alone. -/
theorem Effect.environment {host : Host} (h : Effect host s s') : s'.ledger = s.ledger ∧ s'.scope = s.scope := by
  cases h with
  | none => exact ⟨rfl, rfl⟩
  | prepares h => rw [h.frame]; exact ⟨rfl, rfl⟩
  | claims h => rw [h.frame]; exact ⟨rfl, rfl⟩
  | ends h => rw [h.frame]; exact ⟨rfl, rfl⟩
  | accepts h => rw [h.frame]; exact ⟨rfl, rfl⟩
  | activates h =>
    obtain ⟨s₁, hw, -, -, hf⟩ := writeActivation_ok h.written
    rcases hw with ⟨rfl, rfl⟩ | ⟨w, rfl, hw⟩
    · rw [hf]; exact ⟨rfl, rfl⟩
    · rw [hf, hw.frame]; exact ⟨rfl, rfl⟩

end Roundwright.Dependency
