/-
The invariant of the dependency-review tables and what it gives: the attempts of every task form one
retry lineage that always verifies, and every attempt runs at most one native turn, whose result is
accepted at most once and never after the turn was declared uncertain.
-/
import Roundwright.Dependency.Growth
import Roundwright.Dependency.Lineage

namespace Roundwright.Dependency

open Lib State

/-! ## The invariant -/

/-- What an accepted attempt has on record: its one proposal, with the turn that produced it. -/
structure AcceptedRecord (host : Host) (s : Store) (id : Token) (proposal : DependencyProposal)
    (session turn : OpaqueIdentity) : Prop where
  attempt : proposal.attemptId = id
  claim : s.claim? id = some (.turnDispatched session turn)
  proposals : s.proposalsOf id = [proposalRow host proposal]
  outcome : s.outcome? id = some (acceptedOutcome host proposal)
  result : s.acceptedResult? id = some (session, turn, proposal.proposalDigest host)

structure WF (host : Host) (s : Store) : Prop where
  readable : ∀ id r, s.attempt? id = some r → ∃ subset, AttemptIntact host s r subset
  lineage : ∀ taskId, Lineage (s.attemptsOf taskId)
  successors : s.successors.rows = s.attempts.rows.filterMap successorRow
  accepted : ∀ id r, s.attempt? id = some r → r.state = .accepted →
    ∃ proposal session turn, AcceptedRecord host s id proposal session turn
  trusted : ∀ r ∈ s.trustedRelations.rows, r.provenance.Valid host

theorem WF.initial (host : Host) (ledger : Ledger) (scope : String → String → Except Error Unit) :
    WF host (.initial ledger scope) where
  readable := fun _ _ h => by cases h
  lineage := fun _ => .nil
  successors := rfl
  accepted := fun _ _ h => by cases h
  trusted := fun _ h => by cases h

variable {host : Host}

theorem WF.reads {s : Store} (h : WF host s) :
    ∀ r ∈ s.attempts.rows, ∃ x, readAttempt host s r.attemptId = .ok x := by
  intro r hr
  have hfind : s.attempt? r.attemptId = some r := Store.attempt?_eq_some.2 ⟨hr, rfl⟩
  obtain ⟨subset, hi⟩ := h.readable r.attemptId r hfind
  exact ⟨_, readAttempt_ok.2 ⟨hfind, hi⟩⟩

theorem WF.verifies {s : Store} (h : WF host s) (taskId : Token) :
    verifyTaskLineage host s taskId = .ok () :=
  verifyTaskLineage_ok h.lineage h.successors h.reads taskId

variable {r : AttemptRow}

section Steps

variable {host : Host} {s s' : Store}

variable {id : Token}

theorem AcceptedRecord.grows {proposal : DependencyProposal} {session turn : OpaqueIdentity}
    (h : AcceptedRecord host s id proposal session turn) (hev : SameEvidence s s' id) :
    AcceptedRecord host s' id proposal session turn :=
  ⟨h.attempt, hev.claim.trans h.claim, hev.proposals.trans h.proposals, hev.outcome.trans h.outcome,
    hev.result.trans h.result⟩

theorem WF.accepted_grows (h : WF host s) (hg : Grows s s') (hr : s.attempt? id = some r)
    (hacc : r.state = .accepted) : ∃ proposal session turn, AcceptedRecord host s' id proposal session turn := by
  obtain ⟨proposal, session, turn, hrec⟩ := h.accepted id r hr hacc
  exact ⟨proposal, session, turn, hrec.grows (hg.evidence id r hr (by rw [hacc]; decide))⟩

/-- A step that leaves attempts, proposals and outcomes alone keeps the invariant. -/
theorem WF.of_same (h : WF host s) (hg : Grows s s') (hattempts : s'.attempts = s.attempts)
    (hsuccessors : s'.successors = s.successors) (hproposals : s'.proposals = s.proposals)
    (houtcomes : s'.outcomes = s.outcomes) (htrusted : s'.trustedRelations = s.trustedRelations) : WF host s' := by
  have hattempt : ∀ id, s'.attempt? id = s.attempt? id := fun id => by simp only [Store.attempt?, hattempts]
  refine ⟨fun id r hr => ?_, fun t => ?_, ?_, fun id r hr hacc => ?_, ?_⟩
  · rw [hattempt] at hr
    obtain ⟨subset, hi⟩ := h.readable id r hr
    refine ⟨subset, hg.intact hr ?_ ?_ hi⟩
    · simp only [Store.proposalsOf, hproposals]
    · simp only [Store.outcome?, houtcomes]
  · simp only [Store.attemptsOf, hattempts]
    exact h.lineage t
  · rw [hsuccessors, hattempts, h.successors]
  · rw [hattempt] at hr
    exact h.accepted_grows hg hr hacc
  · rw [htrusted]; exact h.trusted

theorem Prepares.wf {row : AttemptRow} (he : Prepares host s row s') (h : WF host s) : WF host s' := by
  have hg := he.grows
  have hcases : ∀ id r, s'.attempt? id = some r → s.attempt? id = some r ∨ r = row := fun id r hr => by
    obtain ⟨hmem, hid⟩ := Store.attempt?_eq_some.1 hr
    rw [he.attempts, List.mem_append, List.mem_singleton] at hmem
    exact hmem.imp_left fun hmem => Store.attempt?_eq_some.2 ⟨hmem, hid⟩
  refine ⟨fun id r hr => ?_, fun t => ?_, ?_, fun id r hr hacc => ?_, fun r hr => ?_⟩
  · rcases hcases id r hr with hold | rfl
    · obtain ⟨subset, hi⟩ := h.readable id r hold
      refine ⟨subset, hg.intact hold ?_ ?_ hi⟩
      all_goals rw [he.frame]; rfl
    · exact he.readable
  · have hof : s'.attemptsOf t = s.attemptsOf t ++ if row.taskId = t then [row] else [] := by
      simp only [Store.attemptsOf, he.attempts, List.filter_append]
      split <;> simp [*]
    rw [hof]
    split
    · rename_i ht
      subst ht
      refine (h.lineage row.taskId).append he.quiet ?_
      cases hsup : row.supersedesAttemptId with
      | none => rw [he.root hsup]; rfl
      | some p =>
        -- the predecessor has no successor row, so nobody follows it and it is the last attempt
        obtain ⟨⟨a, ha, rfl⟩, hfree⟩ := he.follows p hsup
        refine ((h.lineage row.taskId).linked.last_of_not_followed ha fun b hb hb' => ?_).symm
        have hrow : successorRow b = some ⟨a.attemptId, b.attemptId⟩ := by simp [successorRow, hb']
        refine hfree ⟨a.attemptId, b.attemptId⟩ ?_ rfl
        rw [h.successors, List.mem_filterMap]
        exact ⟨b, (Store.mem_attemptsOf.1 hb).1, hrow⟩
    · rw [List.append_nil]; exact h.lineage t
  · rw [he.successors, he.attempts, h.successors, List.filterMap_append]
    congr 1
  · rcases hcases id r hr with hold | rfl
    · exact h.accepted_grows hg hold hacc
    · rw [he.state] at hacc; cases hacc
  · obtain ⟨new, htrusted, hvalid⟩ := he.trusted
    rw [htrusted, List.mem_append] at hr
    exact hr.elim (h.trusted r) fun hnew => (hvalid r hnew).2

theorem OutcomeKind.state_ne_prepared (kind : OutcomeKind) : kind.state ≠ .prepared := by cases kind <;> decide

/-- Settling keeps the invariant once the new evidence fits the new state. -/
theorem Settles.wf {outcome : Outcome} (he : Settles s id outcome s') (hg : Grows s s') (h : WF host s)
    (hsuccessors : s'.successors = s.successors) (htrusted : s'.trustedRelations = s.trustedRelations)
    (hproposals : ∀ other, other ≠ id → s'.proposalsOf other = s.proposalsOf other)
    (hev : ∀ r, s.attempt? id = some r → checkTerminalEvidence host s' { r with state := outcome.kind.state } = .ok ())
    (hacc : outcome.kind = .accepted → ∃ proposal session turn, AcceptedRecord host s' id proposal session turn) :
    WF host s' := by
  have hcases : ∀ other r, s'.attempt? other = some r → (other ≠ id ∧ s.attempt? other = some r) ∨
      (other = id ∧ ∃ r₀, s.attempt? id = some r₀ ∧ r = { r₀ with state := outcome.kind.state }) := fun other r hr => by
    by_cases hne : other = id
    · subst hne
      obtain ⟨r₀, hr₀, -⟩ := he.prepared
      rw [he.attempt_self hr₀, Option.some.injEq] at hr
      exact .inr ⟨rfl, r₀, hr₀, hr.symm⟩
    · rw [he.attempt_other hne] at hr
      exact .inl ⟨hne, hr⟩
  -- the settled row changes its state only; the others are untouched
  refine ⟨fun other r hr => ?_, fun t => ?_, ?_, fun other r hr hstate => ?_, ?_⟩
  · rcases hcases other r hr with ⟨hne, hold⟩ | ⟨rfl, r₀, hr₀, rfl⟩
    · obtain ⟨subset, hi⟩ := h.readable other r hold
      have hid := (Store.attempt?_eq_some.1 hold).2
      exact ⟨subset, hg.intact hold (by rw [hid]; exact hproposals other hne)
        (by rw [hid]; exact he.outcome_other hne) hi⟩
    · obtain ⟨subset, hi⟩ := h.readable other r₀ hr₀
      exact ⟨subset, hg.intact_as hr₀ hi (hev r₀ hr₀)⟩
  · have hof : s'.attemptsOf t = (s.attemptsOf t).map (AttemptRow.settle id outcome.kind.state) := by
      simp only [Store.attemptsOf, he.attempts, List.filter_map]
      congr 1
      refine List.filter_congr fun r _ => ?_
      simp only [Function.comp, AttemptRow.settle]
      split <;> rfl
    rw [hof]
    exact (h.lineage t).settle id outcome.kind.state_ne_prepared
  · rw [hsuccessors, h.successors, he.attempts, List.filterMap_map]
    refine List.filterMap_congr fun r _ => ?_
    simp only [Function.comp, successorRow, AttemptRow.settle]
    split <;> rfl
  · rcases hcases other r hr with ⟨-, hold⟩ | ⟨rfl, r₀, -, rfl⟩
    · exact h.accepted_grows hg hold hstate
    · refine hacc ?_
      revert hstate
      cases outcome.kind <;> simp [OutcomeKind.state]
  · rw [htrusted]; exact h.trusted

theorem WF.prepared_proposals (h : WF host s) (hr : s.attempt? id = some r)
    (hstate : r.state = .prepared) : s.proposalsOf id = [] := by
  obtain ⟨subset, hi⟩ := h.readable id r hr
  have hev := hi.evidence
  simp only [checkTerminalEvidence, hstate, refuse_eq_ok, not_or, not_not] at hev
  rw [(Store.attempt?_eq_some.1 hr).2] at hev
  exact hev.1

theorem Ends.wf {outcome : Outcome} (he : Ends s id outcome s') (h : WF host s) : WF host s' := by
  refine he.toSettles.wf he.grows h (by rw [he.frame]) (by rw [he.frame]) (fun other _ => by rw [he.frame]; rfl)
    (fun r hr => ?_) fun hacc => absurd hacc he.kind
  obtain ⟨r', hr', hprepared⟩ := he.prepared
  rw [hr', Option.some.injEq] at hr
  subst hr
  have hid := (Store.attempt?_eq_some.1 hr').2
  have hnone : s'.proposalsOf id = [] := by
    rw [← h.prepared_proposals hr' hprepared, he.frame]; rfl
  have hkind := he.kind
  have hout := he.outcome_self
  cases hk : outcome.kind with
  | accepted => exact absurd hk hkind
  | invalid => simp [checkTerminalEvidence, OutcomeKind.state, hid, hnone, hout, hk]
  | blocked => simp [checkTerminalEvidence, OutcomeKind.state, hid, hnone, hout, hk]

/-! ### Acceptance -/

theorem readProposal_stored {proposal : DependencyProposal}
    (hrow : s.proposal? proposal.proposalId = some (proposalRow host proposal))
    (hedges : storedEdges s proposal.proposalId = proposalEdgeRows proposal) :
    readProposal host s proposal.proposalId = .ok proposal := by
  have hordinals : (proposalEdgeRows proposal).map (·.ordinal) = List.range (proposalEdgeRows proposal).length :=
    List.ext_getElem (by simp) (by simp [proposalEdgeRows])
  have hstored : (proposalEdgeRows proposal).map (·.edge) = proposal.edges :=
    List.ext_getElem (by simp [proposalEdgeRows]) (by simp [proposalEdgeRows])
  have hnew : DependencyProposal.new (proposalRow host proposal).toProposalFields proposal.edges = .ok proposal :=
    DependencyProposal.new_eq_ok.2 ⟨rfl, rfl⟩
  simp only [readProposal, bind_eq_ok, demand_eq_ok, rewrap_eq_ok, exists_unit, refuse_eq_ok, not_not, pure_eq_ok, hedges]
  refine ⟨_, hrow, hordinals, proposal, ?_, rfl, rfl⟩
  rw [hstored]; exact hnew

theorem Accepts.proposal_self {proposal : DependencyProposal} {session turn : OpaqueIdentity}
    (he : Accepts host s proposal session turn s') : s'.proposal? proposal.proposalId = some (proposalRow host proposal) := by
  have hfree : ∀ r ∈ s.proposals.rows, r.proposalId ≠ proposal.proposalId := by simpa [Store.proposal?] using he.unused
  simp only [Store.proposal?, he.proposals]
  exact find?_append_self (g := fun r : ProposalRow => r.proposalId) hfree rfl

theorem Accepts.record {proposal : DependencyProposal} {session turn : OpaqueIdentity}
    (he : Accepts host s proposal session turn s') : AcceptedRecord host s' proposal.attemptId proposal session turn := by
  refine ⟨rfl, ?_, ?_, he.outcome_self, he.result⟩
  · rw [← he.claimed, he.frame]; rfl
  · have hfree : ∀ r ∈ s.proposals.rows, r.attemptId ≠ proposal.attemptId := by simpa [Store.proposalsOf] using he.first
    simp only [Store.proposalsOf, he.proposals]
    refine filter_append_all (fun r hr => decide_eq_false (hfree r hr)) fun r hr => ?_
    rw [List.mem_singleton.1 hr]
    exact decide_eq_true rfl

theorem Accepts.wf {proposal : DependencyProposal} {session turn : OpaqueIdentity}
    (he : Accepts host s proposal session turn s') (h : WF host s) : WF host s' := by
  have hrec := he.record
  refine he.toSettles.wf he.grows h (by rw [he.frame]) (by rw [he.frame]) (fun other hne => ?_) (fun r hr => ?_)
    fun _ => ⟨proposal, session, turn, hrec⟩
  · simp only [Store.proposalsOf, he.proposals]
    refine filter_append_none fun q hq => ?_
    rw [List.mem_singleton.1 hq]
    exact decide_eq_false (Ne.symm hne)
  · have hid := (Store.attempt?_eq_some.1 hr).2
    have hread := readProposal_stored he.proposal_self he.stored
    simp only [checkTerminalEvidence, acceptedOutcome, OutcomeKind.state, hid, hrec.proposals, hrec.outcome]
    rw [show (proposalRow host proposal).proposalId = proposal.proposalId from rfl, hread]
    simp [refuse]

theorem Effect.wf (he : Effect host s s') (h : WF host s) : WF host s' := by
  have hg := he.grows
  cases he with
  | none => exact h
  | prepares he => exact he.wf h
  | claims he =>
    exact h.of_same hg (by rw [he.frame]) (by rw [he.frame]) (by rw [he.frame]) (by rw [he.frame]) (by rw [he.frame])
  | ends he => exact he.wf h
  | accepts he => exact he.wf h
  | activates he =>
    obtain ⟨s₁, hw, -, -, hf⟩ := writeActivation_ok he.written
    rcases hw with ⟨rfl, rfl⟩ | ⟨w, rfl, hw⟩
    · exact h.of_same hg (by rw [hf]) (by rw [hf]) (by rw [hf]) (by rw [hf]) (by rw [hf])
    · rw [hw.frame] at hf
      exact h.of_same hg (by rw [hf]) (by rw [hf]) (by rw [hf]) (by rw [hf]) (by rw [hf])

end Steps

/-! ## Runs -/

section Runs

variable {host : Host} {s s' : Store}

theorem Step.grows (h : Step host s s') (hw : WF host s) : Grows s s' := by
  rcases h.effect hw.readable with he | ⟨ledger, scope, hext, rfl⟩
  · exact he.grows
  · exact .environment hext scope

theorem Step.wf (h : Step host s s') (hw : WF host s) : WF host s' := by
  have hg := h.grows hw
  rcases h.effect hw.readable with he | ⟨ledger, scope, hext, rfl⟩
  · exact he.wf hw
  · exact hw.of_same hg rfl rfl rfl rfl rfl

theorem Run.wf (h : Run host s s') (hw : WF host s) : WF host s' :=
  run_induction (P := WF host) (fun _ _ hs => hs.wf) h hw

theorem Run.grows (h : Run host s s') (hw : WF host s) : Grows s s' :=
  run_relates (P := WF host) (fun _ _ hs => hs.wf) (fun _ _ hs => hs.grows) Grows.refl (fun _ _ _ => Grows.trans) h hw

theorem Reachable.wf (h : Reachable host s) : WF host s := by
  obtain ⟨ledger, scope, hr⟩ := h
  exact hr.wf (.initial host ledger scope)

theorem Reachable.run (h : Reachable host s) (hr : Run host s s') : Reachable host s' := by
  obtain ⟨ledger, scope, h₀⟩ := h
  exact ⟨ledger, scope, h₀.trans hr⟩

end Runs

/-! ## Runs to evaluate

Two tasks with a sealed candidate each. A task has a subset of two members, one explicit relation
between them and the proposal that repeats it. -/

namespace Sample

def digest (n : Nat) : Digest := .sha256 (.ofNat 64 n)

def sha (n : Nat) : Sha := .ofNat 40 n

structure Party where
  task : Token
  identity : TaskIdentity
  first : AffectedMember
  second : AffectedMember
  sorted : [first, second].Pairwise fun a b => a.memberId < b.memberId
  fingerprints : ([first, second].map (·.memberFingerprint)).Nodup

theorem task_isToken : isToken "task" = true := by decide

def main : Party where
  task := ⟨"task", task_isToken⟩
  identity := ⟨"task", "source", "repository", "branch", "/w", (sha 0).text⟩
  first := ⟨⟨"first", by decide⟩, digest 11, digest 12⟩
  second := ⟨⟨"second", by decide⟩, digest 13, digest 14⟩
  sorted := by decide +kernel
  fingerprints := by decide +kernel

def other : Party where
  task := ⟨"other", by decide⟩
  identity := ⟨"other", "source", "repository", "branch2", "/x", (sha 0).text⟩
  first := ⟨⟨"left", by decide⟩, digest 15, digest 16⟩
  second := ⟨⟨"right", by decide⟩, digest 17, digest 18⟩
  sorted := by decide +kernel
  fingerprints := by decide +kernel

/-- The two tasks; the main one is sealed at a candidate that can move. -/
def ledger (candidate : Nat) : Ledger := { Ledger.initial "state" with
  sources := ⟨[⟨"source", "repository", (Hex.ofNat 64 7).text⟩], List.pairwise_singleton _ _⟩
  tasks := ⟨[⟨main.identity, .implementing, none, "/w"⟩, ⟨other.identity, .implementing, none, "/x"⟩], by decide⟩
  branchOwners := ⟨[⟨"branch", "task"⟩, ⟨"branch2", "other"⟩], by decide⟩
  worktreeOwners := ⟨[⟨"/w", "task"⟩, ⟨"/x", "other"⟩], by decide⟩
  seals := ⟨[⟨"task", (sha 0).text, (sha candidate).text, "state"⟩, ⟨"other", (sha 0).text, (sha 1).text, "state"⟩],
    List.pairwise_pair.2 rfl⟩
  runtimeBindings := ⟨[⟨"task", "roundwright-runtime/v1", (digest 2).text, "", ""⟩,
    ⟨"other", "roundwright-runtime/v1", (digest 2).text, "", ""⟩], List.pairwise_pair.2 rfl⟩ }

def store (candidate : Nat) : Store := .initial (ledger candidate) fun _ _ => .ok ()

variable (p : Party) (candidate : Nat)

def subset (snapshotId : Token) : AffectedSubset where
  snapshotId := snapshotId
  taskId := p.task
  sourceDigest := Hex.ofNat 64 7
  candidateSha := sha candidate
  policyDigest := digest 1
  configurationDigest := digest 2
  boundaryDigest := digest 3
  creationReason := ⟨"reason", by decide⟩
  members := [p.first, p.second]
  nonempty := by simp
  sorted := p.sorted
  fingerprints := p.fingerprints

def reviewBinding : DependencyReviewBinding := ⟨sha candidate, digest 1, digest 2, digest 4⟩

theorem Party.distinct : p.first.memberId ≠ p.second.memberId := (List.pairwise_pair.1 p.sorted).ne

def relation : SourceOwnedRelation :=
  ⟨.explicit, .dependsOn, p.first.memberId, p.second.memberId, digest 5, .high, digest 6, EdgeKind.explicit_ne, p.distinct⟩

def edge : ProposedEdge :=
  ⟨.explicit, .dependsOn, p.first.memberId, p.second.memberId, digest 5, .high, digest 6,
    some ((relation p).relationDigest .sample), p.distinct, by simp⟩

def proposal (proposalId attemptId : Token) : DependencyProposal where
  proposalId := proposalId
  attemptId := attemptId
  requestedDisposition := .autoActivate
  ownerRoute := ⟨"not-required", by decide⟩
  edges := [edge p]
  nonempty := by simp
  distinct := by simp
  routed := ⟨by simp [edge], by simp⟩

def a1 : Token := ⟨"a1", by decide⟩
def a2 : Token := ⟨"a2", by decide⟩
def n1 : Token := ⟨"n1", by decide⟩
def n2 : Token := ⟨"n2", by decide⟩
def p1 : Token := ⟨"p1", by decide⟩
def p2 : Token := ⟨"p2", by decide⟩
def session1 : OpaqueIdentity := ⟨"s1", by decide⟩
def session2 : OpaqueIdentity := ⟨"s2", by decide⟩
def turn1 : OpaqueIdentity := ⟨"t1", by decide⟩

/-- An attempt from its preparation to the dispatch of its turn. -/
def dispatch (attemptId snapshotId : Token) (supersedes : Option Token) (session : OpaqueIdentity) : List Call :=
  [.startAttempt (subset p candidate snapshotId) attemptId (reviewBinding candidate) [relation p] supersedes,
    .claimPreDispatch attemptId (some p.identity) (some (reviewBinding candidate)),
    .claimSession attemptId session (some p.identity) (some (reviewBinding candidate)),
    .claimTurn attemptId session turn1]

/-- The acceptance of the proposal the turn produced. -/
def accept (proposalId attemptId : Token) (session : OpaqueIdentity) : Call :=
  .acceptProposal (proposal p proposalId attemptId) (reviewBinding candidate) none (some session) (some turn1)
    (some ((proposal p proposalId attemptId).proposalDigest .sample))

def runAll (calls : List Call) (s : Store) : Store := calls.foldl (fun s c => c.run .sample s) s

theorem runAll_run (calls : List Call) (s : Store) : Run .sample s (runAll calls s) :=
  run_foldl (fun s c => .single (.call c s)) calls s

theorem reachable (calls : List Call) : Reachable .sample (runAll calls (store candidate)) :=
  ⟨_, _, runAll_run calls _⟩

end Sample

/-! ## The retry lineage -/

/-- The attempts of a task, oldest first, are one linear chain, and its links are the successor rows. -/
structure RetryChain (s : Store) (taskId : Token) : Prop where
  root : s.attemptsOf taskId ≠ [] → ∃! r, r ∈ s.attemptsOf taskId ∧ r.supersedesAttemptId = none
  linear : (s.attemptsOf taskId).IsChain fun a b => b.supersedesAttemptId = some a.attemptId
  oneSuccessor : ∀ a ∈ s.attemptsOf taskId, ∀ b ∈ s.attempts.rows, ∀ c ∈ s.attempts.rows,
    b.supersedesAttemptId = some a.attemptId → c.supersedesAttemptId = some a.attemptId → b = c
  successorRows : ∀ p c, (⟨p, c⟩ ∈ s.successors.rows ∧ ∃ r ∈ s.attemptsOf taskId, r.attemptId = p ∨ r.attemptId = c) ↔
    ∃ a b, [a, b] <:+: s.attemptsOf taskId ∧ a.attemptId = p ∧ b.attemptId = c
  onePrepared : ∀ r ∈ s.attemptsOf taskId, r.state = .prepared → (s.attemptsOf taskId).getLast? = some r
  ended : ∀ r ∈ (s.attemptsOf taskId).dropLast, r.state ≠ .prepared

theorem WF.retryChain {s : Store} (h : WF host s) (taskId : Token) : RetryChain s taskId := by
  have hlin := h.lineage taskId
  have hids := attemptIds_nodup (s := s) taskId
  -- an attempt that supersedes one of the task belongs to the task
  have htask : ∀ b ∈ s.attempts.rows, ∀ p, b.supersedesAttemptId = some p → ∀ a ∈ s.attemptsOf taskId,
      a.attemptId = p → b ∈ s.attemptsOf taskId := by
    intro b hb p hp a ha hap
    obtain ⟨a', ha', hid⟩ := (h.lineage b.taskId).linked.parent_mem (Store.mem_attemptsOf.2 ⟨hb, rfl⟩) hp
    obtain ⟨hamem, hat⟩ := Store.mem_attemptsOf.1 ha
    obtain ⟨hamem', hat'⟩ := Store.mem_attemptsOf.1 ha'
    have hkey : a' = a := Store.attempt_eq hamem' hamem (hid.trans hap.symm)
    exact Store.mem_attemptsOf.2 ⟨hb, by rw [← hat', hkey, hat]⟩
  have hrow : ∀ p c, (⟨p, c⟩ : SuccessorRow) ∈ s.successors.rows ↔
      ∃ b ∈ s.attempts.rows, b.supersedesAttemptId = some p ∧ b.attemptId = c := by
    intro p c
    simp only [h.successors, List.mem_filterMap, successorRow, Option.map_eq_some_iff, SuccessorRow.mk.injEq]
    constructor
    · rintro ⟨b, hb, q, hq, rfl, hc⟩
      exact ⟨b, hb, hq, hc⟩
    · rintro ⟨b, hb, hp, hc⟩
      exact ⟨b, hb, p, hp, rfl, hc⟩
  refine ⟨fun hne => ?_, hlin.linked.isChain, fun a ha b hb c hc hba hca => ?_, fun p c => ⟨?_, ?_⟩, fun r hr hp => ?_,
    hlin.ended⟩
  · obtain ⟨a, rest, hl⟩ := List.exists_cons_of_ne_nil hne
    rw [hl] at hlin hids ⊢
    have hroot := hlin.root hids
    have hiff : ∀ r, r ∈ a :: rest ∧ r.supersedesAttemptId = none ↔ r = a := fun r => by
      rw [← List.mem_singleton (b := a), ← hroot, List.mem_filter, decide_eq_true_eq]
    exact ⟨a, (hiff a).2 rfl, fun r hr => (hiff r).1 hr⟩
  · have hmem : ∀ x ∈ s.attempts.rows, x.supersedesAttemptId = some a.attemptId → x ∈ s.attemptsOf taskId :=
      fun x hx hxp => htask x hx _ hxp a ha rfl
    exact List.inj_on_of_nodup_map (hlin.linked.parents_nodup hids) (hmem b hb hba) (hmem c hc hca) (hba.trans hca.symm)
  · rintro ⟨hpc, r, hr, hend⟩
    obtain ⟨b, hb, hp, rfl⟩ := (hrow p c).1 hpc
    have hbt : b ∈ s.attemptsOf taskId := by
      rcases hend with rfl | hid
      · exact htask b hb _ hp r hr rfl
      · have hkey : r = b := Store.attempt_eq (Store.mem_attemptsOf.1 hr).1 hb hid
        exact hkey ▸ hr
    obtain ⟨a, hadjacent, hid⟩ := hlin.linked.after hbt hp
    exact ⟨a, b, hadjacent, hid, rfl⟩
  · rintro ⟨a, b, hadjacent, rfl, rfl⟩
    have hlink := List.isChain_pair.1 ( List.IsChain.infix hlin.linked.isChain hadjacent)
    have hb : b ∈ s.attemptsOf taskId := hadjacent.subset (by simp)
    exact ⟨(hrow _ _).2 ⟨b, (Store.mem_attemptsOf.1 hb).1, hlink, rfl⟩, b, hb, .inr rfl⟩
  · have hne : s.attemptsOf taskId ≠ [] := List.ne_nil_of_mem hr
    rw [← List.dropLast_append_getLast hne, List.mem_append, List.mem_singleton] at hr
    rw [List.getLast?_eq_some_getLast hne, hr.resolve_left fun hd => hlin.ended r hd hp]

/-- Whatever calls any clients make and however they interleave, the attempts of a task are one linear
retry chain and its verification passes. -/
theorem retry_lineage_linear {host : Host} {s : Store} (h : Reachable host s) (taskId : Token) :
    RetryChain s taskId ∧ verifyTaskLineage host s taskId = .ok () :=
  ⟨h.wf.retryChain taskId, h.wf.verifies taskId⟩

/-- A blocked attempt and its retry. -/
def Sample.retried : Store := runAll (dispatch main 1 a1 n1 none session1 ++
  [.recordBlocked a1 (digest 9) ⟨"stopped", by decide⟩ ⟨"owner-review", ownerReview_isReason⟩ none none] ++
  dispatch main 1 a2 n2 (some a1) session2) (store 1)

open Sample in
theorem retry_lineage_linear_retried :
    (retried.attemptsOf main.task).map (fun r => (r.attemptId, r.state)) =
      [(a1, .blocked), (a2, .prepared)] ∧
    RetryChain retried main.task ∧ verifyTaskLineage .sample retried main.task = .ok () :=
  ⟨by decide +kernel, retry_lineage_linear (reachable 1 _) main.task⟩

/-! ## One native turn for each attempt -/

namespace DispatchClaim

def session? : DispatchClaim → Option OpaqueIdentity
  | .preDispatch => none
  | .sessionOpened session => some session
  | .turnDispatched session _ => some session

def turn? : DispatchClaim → Option OpaqueIdentity
  | .turnDispatched _ turn => some turn
  | _ => none

theorem Moves.session {a b : Option DispatchClaim} (h : Moves a b) {x : OpaqueIdentity} (hx : a.bind session? = some x) :
    b.bind session? = some x := by
  cases h with
  | prepare => cases hx
  | openFirst => cases hx
  | openPrepared => cases hx
  | dispatch => exact hx

theorem Moves.turn {a b : Option DispatchClaim} (h : Moves a b) {x : OpaqueIdentity} (hx : a.bind turn? = some x) :
    b.bind turn? = some x := by
  cases h with
  | prepare => cases hx
  | openFirst => cases hx
  | openPrepared => cases hx
  | dispatch => cases hx

end DispatchClaim

/-- The state, the outcome and the proposal of an attempt are the same in both stores. -/
structure AttemptFrozen (s s' : Store) (id : Token) (r : AttemptRow) : Prop where
  attempt : s'.attempt? id = some r
  outcome : s'.outcome? id = s.outcome? id
  proposals : s'.proposalsOf id = s.proposalsOf id
  edges : ∀ p ∈ s.proposalsOf id, s'.edgesOf p.proposalId = s.edgesOf p.proposalId

theorem Grows.frozen {s s' : Store} (h : Grows s s') {id : Token} (hr : s.attempt? id = some r)
    (hs : r.state ≠ .prepared) : AttemptFrozen s s' id r := by
  have hev := h.evidence id r hr hs
  refine ⟨h.ended hr hs, hev.outcome, hev.proposals, fun p hp => ?_⟩
  exact (h.proposals p.proposalId p (Store.proposal?_eq_some.2 ⟨(List.mem_filter.1 hp).1, rfl⟩)).2

/-- An attempt that was blocked is never accepted by a later call. -/
theorem not_accepted_of_blocked {s : Store} {proposal : DependencyProposal}
    (hr : s.attempt? proposal.attemptId = some r) (hblocked : r.state = .blocked) (binding : DependencyReviewBinding)
    (taskIdentity : Option TaskIdentity) (session turn : Option OpaqueIdentity) (output : Option Digest) (digest : Digest) :
    (transaction (acceptProposal host proposal binding taskIdentity session turn output) s).1 ≠ .ok digest := by
  intro hok
  rcases transaction_cases (acceptProposal host proposal binding taskIdentity session turn output) s with
    ⟨a, s', hb, ht⟩ | ⟨e, -, ht⟩
  · simp only [acceptProposal, Tx.query_bind, Tx.check_bind, Prod.exists, exists_unit, refuse_eq_ok, not_or] at hb
    obtain ⟨-, attempt, subset, hread, derived, -, -, ⟨hstate, -⟩, -⟩ := hb
    rw [(readAttempt_ok.1 hread).1, Option.some.injEq] at hr
    rw [hr, hblocked] at hstate
    exact hstate (by decide)
  · rw [ht] at hok; cases hok

/-- From every reachable store, for every attempt: over any further run the dispatch claim only moves
pre-dispatch, session-opened, turn-dispatched with identities that are never replaced, and an attempt
that has ended is frozen; an accepted attempt has the one turn, the one proposal and the result row
that belong together; and after a recovery returned `True` nothing accepts the attempt any more. -/
theorem one_turn_per_attempt {host : Host} {s : Store} (h : Reachable host s) (id : Token) :
    (∀ s', Run host s s' →
      Relation.ReflTransGen DispatchClaim.Moves (s.claim? id) (s'.claim? id) ∧
      (∀ session, (s.claim? id).bind DispatchClaim.session? = some session →
        (s'.claim? id).bind DispatchClaim.session? = some session) ∧
      (∀ turn, (s.claim? id).bind DispatchClaim.turn? = some turn →
        (s'.claim? id).bind DispatchClaim.turn? = some turn) ∧
      (∀ r, s.attempt? id = some r → r.state ≠ .prepared → AttemptFrozen s s' id r)) ∧
    (∀ r, s.attempt? id = some r → r.state = .accepted →
      ∃ proposal session turn, AcceptedRecord host s id proposal session turn) ∧
    (∀ output subset binding input supersedes taskIdentity s₁,
      transaction (recoverDispatchClaim host id output subset binding input supersedes taskIdentity) s = (.ok true, s₁) →
      ∀ s₂, Run host s₁ s₂ →
        (∀ r, s₂.attempt? id = some r → r.state ≠ .accepted) ∧
        ∀ proposal : DependencyProposal, proposal.attemptId = id → ∀ binding taskIdentity session turn output digest,
          (transaction (acceptProposal host proposal binding taskIdentity session turn output) s₂).1 ≠ .ok digest) := by
  -- the session and the turn stay by induction on the run
  refine ⟨fun s' hr => ?_, h.wf.accepted id, ?_⟩
  · have hg := hr.grows h.wf
    have hmoves := hg.claims id
    refine ⟨hmoves, fun session hx => ?_, fun turn hx => ?_, fun r hr hs => hg.frozen hr hs⟩
    · exact run_induction (P := fun c => c.bind DispatchClaim.session? = some session) (fun _ _ hm => hm.session) hmoves hx
    · exact run_induction (P := fun c => c.bind DispatchClaim.turn? = some turn) (fun _ _ hm => hm.turn) hmoves hx
  · intro output subset binding input supersedes taskIdentity s₁ hrec s₂ hrun
    obtain ⟨hfalse, -⟩ | ⟨-, hends⟩ := recoverDispatchClaim_cases (transaction_ok.1 hrec)
    · cases hfalse
    · obtain ⟨r, hr, -⟩ := hends.prepared
      have hblocked := hends.attempt_self hr
      have hlater := (hrun.grows (hends.wf h.wf)).ended hblocked (by simp [uncertainTurn, OutcomeKind.state])
      refine ⟨fun r' hr' hacc => ?_, fun proposal hid binding taskIdentity session turn output digest => ?_⟩
      · rw [hlater, Option.some.injEq] at hr'
        rw [← hr'] at hacc
        simp [uncertainTurn, OutcomeKind.state] at hacc
      · subst hid
        exact not_accepted_of_blocked hlater rfl binding taskIdentity session turn output digest

/-- One accepted attempt. -/
def Sample.accepted : Store := runAll (dispatch main 1 a1 n1 none session1 ++ [accept main 1 p1 a1 session1]) (store 1)

open Sample in
theorem one_turn_per_attempt_accepted :
    (accepted.attempt? a1).map (·.state) = some .accepted ∧
    ∃ proposal session turn, AcceptedRecord .sample accepted a1 proposal session turn := by
  have hstate : (accepted.attempt? a1).map (·.state) = some .accepted := by decide +kernel
  obtain ⟨r, hr, hacc⟩ := Option.map_eq_some_iff.1 hstate
  exact ⟨hstate, (one_turn_per_attempt (reachable 1 _) a1).2.1 r hr hacc⟩

end Roundwright.Dependency
