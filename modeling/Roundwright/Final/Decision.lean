/-
The aggregate gate decision over the persisted evidence. `decide_gates` groups the evidence of a candidate by gate and
passes when every gate of the registry has accepted evidence; `_decision_from_connection` reads seal, obligations of
accepted reviews, context and evidence of a task from the database and adds the dependency graph of a task with more
than one source. A decision that passes is spelled out in `Cleared`.
-/
import Roundwright.Gate.Recording
import Roundwright.Recovery.Admission
import Roundwright.State.TransitionLog
import Mathlib.Data.Prod.Lex
import Mathlib.Data.String.Basic

namespace Roundwright.Final

open Lib State Gate

/-! ## Obligations of accepted reviews -/

inductive ReviewItemKind where
  | passFollowUp | finding
deriving DecidableEq

inductive ReviewItemSource where
  | acceptedReview | supervisorFinding
deriving DecidableEq

inductive VerificationState where
  | pending | verified | waived
deriving DecidableEq

inductive ReviewItemDisposition where
  | pending | resolved | waived
deriving DecidableEq

/-- `review_item_records`, with the columns that the decision and the constraints read. -/
structure ReviewItemRow where
  itemId : String
  taskId : String
  reviewIdentity : String
  candidateSha : String
  kind : ReviewItemKind
  source : ReviewItemSource
  sourceAttemptId : String
  contentDigest : String
  destination : String
  blocking : Bool
  verification : VerificationState
  disposition : ReviewItemDisposition

namespace ReviewItemRow

def clash (a b : ReviewItemRow) : Bool :=
  a.itemId == b.itemId || (a.taskId == b.taskId && a.candidateSha == b.candidateSha && a.reviewIdentity ==
    b.reviewIdentity && a.kind == b.kind && a.contentDigest == b.contentDigest)

/-- A blocking follow-up of an accepted review that is pending. -/
def pendingFollowUp (r : ReviewItemRow) : Bool :=
  r.kind = .passFollowUp ∧ r.source = .acceptedReview ∧ r.blocking = true ∧ r.disposition = .pending

/-- The row reads as `owner_blocker_state_receipt` wants it. -/
def wellFormed (r : ReviewItemRow) : Bool :=
  isToken r.itemId && isHex 40 r.candidateSha && isToken r.sourceAttemptId && isHex 64 r.contentDigest &&
    isToken r.destination && r.verification = .pending

end ReviewItemRow

/-- `_state_identity`: a UUID in its canonical text. -/
def isStateIdentity (text : String) : Bool :=
  let groups := text.toList.splitOn '-'
  groups.map (·.length) = [8, 4, 4, 4, 12] && groups.all (·.all isLowerHex)

/-- `unresolved_final_gate_blockers`, the answer of `owner_blocker_state_receipt`. -/
def unresolvedFinalGateBlockers (l : Ledger) (items : Table ReviewItemRow.clash) (taskId candidateSha : String) :
    Except Error Bool := do
  refuse (isToken taskId = false ∨ isHex 40 candidateSha = false) (.reviewLifecycle "owner blocker state scope is invalid")
  let invalid : Error := .reviewLifecycle "owner blocker state lacks the exact current candidate seal"
  let sealed ← demand (l.seal? taskId) invalid
  let task ← demand (l.task? taskId) invalid
  refuse (sealed.candidateSha ≠ candidateSha ∨ isStateIdentity sealed.stateIdentity = false ∨
    isToken task.identity.repositoryId = false) invalid
  let rows := items.rows.filter fun r => r.taskId = taskId ∧ r.pendingFollowUp
  refuse (rows.any fun r => r.wellFormed = false) (.reviewLifecycle "owner blocker state is invalid")
  return rows ≠ []

/-! ## The decision over evidence -/

structure GateResult where
  gateKey : String
  outcome : GateOutcome
  reason : String

structure GateDecision where
  outcome : GateOutcome
  results : List GateResult

/-- A decision that is blocked for one reason. -/
def GateDecision.blockedBy (gateKey reason : String) : GateDecision := ⟨.blocked, [⟨gateKey, .blocked, reason⟩]⟩

/-- `permits_phase_two_local_na` of the registry. -/
def permitsPhaseTwoLocalNa : GateKey → Bool
  | .dependencyGraph | .githubTrace | .publicIdentifier | .liveProof | .externalCi => true
  | _ => false

/-- `_justified_na` -/
def justifiedNa (e : GateEvidence) : Bool :=
  (e.changedBoundary.any fun text => text.toList.any fun c => ¬ isSpace c) &&
    (e.reason.any fun text => text.toList.any fun c => ¬ isSpace c)

/-- `_is_well_formed` -/
def isWellFormedEntry (e : GateEvidence) : Bool := isWellFormed e && evidenceOutcomes.any fun o => o.value = e.outcome

/-- The part of `_decide_requirement` about the one outcome of all entries. -/
def decideOutcome (context : GateContext) (key : GateKey) (entries : List GateEvidence) (outcome : String) : GateOutcome × String :=
  if outcome = EvidenceOutcome.pass.value then
    if key = .dependencyGraph ∧ 1 < context.sourceCount ∧
        ¬ (context.dependencyGraphVersionId.any isGateToken ∧ context.dependencyGraphDecisionDigest.any isGraphDigest) then
      (.blocked, "accepted graph decision is unavailable")
    else (.pass, "accepted")
  else if outcome = EvidenceOutcome.notApplicable.value then
    if permitsPhaseTwoLocalNa key = false then (.blocked, "not applicable is unsupported for this gate")
    else if context.sourceCount ≠ 1 ∨ context.isolatedLocalTask = false then
      (.blocked, "not applicable requires the isolated single-source local boundary")
    else if entries.any fun e => justifiedNa e = false then (.blocked, "not applicable is not auditable")
    else (.pass, "accepted isolated-local not applicable")
  else if outcome = EvidenceOutcome.pending.value ∨
    outcome = EvidenceOutcome.stale.value then (.pending, "evidence is pending or stale")
  else if outcome = EvidenceOutcome.findings.value then (.blocked, "findings remain")
  else (.blocked, "unknown or blocked evidence")

/-- `_decide_requirement` -/
def decideRequirement (context : GateContext) (key : GateKey) (entries : List GateEvidence) : GateOutcome × String :=
  if entries.any fun e => e.taskId ≠ context.taskId ∨
    e.candidateSha ≠ context.candidateSha then (.blocked, "candidate identity mismatch")
  else if entries.any fun e => isWellFormedEntry e = false then (.blocked, "invalid structured evidence")
  else if entries.any fun e => e.followUps.any fun f => f.resolved = false then (.blocked, "unresolved follow-up remains")
  else
    match (entries.map (·.outcome)).dedup with
    | [outcome] => decideOutcome context key entries outcome
    | _ => (.blocked, "conflicting evidence")

/-- The entries of one gate. -/
def entriesOf (key : GateKey) (evidence : List GateEvidence) : List GateEvidence := evidence.filter fun e => e.gateKey = key.value

/-- The result of one gate of the registry. -/
def gateResult (context : GateContext) (evidence : List GateEvidence) (key : GateKey) : GateResult :=
  if entriesOf key evidence = [] then ⟨key.value, .pending, "missing evidence"⟩
  else
    let (outcome, reason) := decideRequirement context key (entriesOf key evidence)
    ⟨key.value, outcome, reason⟩

/-- The outcome of all results. -/
def aggregate (results : List GateResult) : GateOutcome :=
  if results.any fun r => r.outcome = .blocked then .blocked
  else if results.any fun r => r.outcome = .pending then .pending
  else .pass

/-- `decide_gates` -/
def decideGates (context : GateContext) (evidence : List GateEvidence) : GateDecision :=
  if isWellFormedContext context = false then .blockedBy "context" "invalid gate context"
  else
    let results := gateRegistry.map (gateResult context evidence) ++
      if evidence.any fun e => gateRegistry.all fun key => key.value ≠ e.gateKey then
        [⟨"unsupported", .blocked, "unsupported gate evidence"⟩] else []
    ⟨aggregate results, results⟩

/-! ## The decision over the database -/

/-- `RuntimeBinding` of the columns of a context, when its constructor takes them. -/
def runtimeBinding? (v : TrustedValues) : Option RuntimeBinding := do
  guard (v.configurationSchemaVersion = RuntimeBinding.schemaVersion)
  let resolvedDigest ← Digest.ofText? v.configurationDigest
  let workerProfileIdentity ← Digest.ofText? v.workerProfileIdentity
  let texts ← Recovery.jsonTexts? v.supervisorProfileIdentities
  let supervisorProfileIdentities ← texts.mapM Digest.ofText?
  if profiles : supervisorProfileIdentities ≠ [] ∧ supervisorProfileIdentities.Nodup then
    if reviewPolicy : (v.reviewCompleteRounds = 0 ∧ v.reviewMaxRounds = 0 ∧ v.reviewMaxSupervisorAttemptsPerRound = 0 ∧
          v.reviewOnFinalFindings = "" ∧ v.reviewPolicyDigest = "") ∨
        (1 ≤ v.reviewCompleteRounds ∧ v.reviewCompleteRounds ≤ v.reviewMaxRounds ∧
          v.reviewMaxSupervisorAttemptsPerRound = supervisorProfileIdentities.length ∧
          v.reviewOnFinalFindings = "worker-final-repair-then-merge" ∧ isHex 64 v.reviewPolicyDigest = true) then
      return ⟨resolvedDigest, workerProfileIdentity, supervisorProfileIdentities, v.reviewCompleteRounds,
        v.reviewMaxRounds, v.reviewMaxSupervisorAttemptsPerRound, v.reviewOnFinalFindings, v.reviewPolicyDigest,
          profiles, reviewPolicy⟩
    else none
  else none

/-- `value or None` -/
def orNone (text : String) : Option String := if text = "" then none else some text

/-- `_read_gate_context` -/
def readGateContext (s : Gate.Store) (taskId candidateSha : String) : Option GateContext := do
  let row ← s.gateContext? taskId candidateSha
  let v := row.values
  guard (0 < v.sourceCount ∧ isHex 64 v.trusted.policyDigest = true ∧ isHex 64 v.trusted.receiptFingerprint = true)
  let runtime ← runtimeBinding? v.trusted
  guard (v.trusted.selectedSupervisorProfileIdentity ∈ runtime.supervisorProfileIdentities.map (·.text))
  return ⟨taskId, candidateSha, v.sourceCount, v.isolatedLocalTask, v.trusted.policyDigest,
    v.trusted.receiptFingerprint, runtime, v.trusted.selectedSupervisorProfileIdentity, none,
      orNone v.dependencyGraphVersionId, orNone v.dependencyGraphDecisionDigest⟩

def GateEvidenceRow.evidence (r : GateEvidenceRow) : GateEvidence :=
  ⟨r.key.taskId, r.key.candidateSha, r.key.gateKey.value, r.body.outcome.value, r.key.evaluatorId, r.body.evaluatedAt,
    r.key.evidenceFingerprint, r.body.changedBoundary, r.body.reason, r.body.followUps⟩

/-- The evidence of a candidate that is bound to it, in the order of the query. -/
def boundRows (s : Gate.Store) (taskId candidateSha : String) : List GateEvidenceRow :=
  sortBy (fun r => toLex (r.key.gateKey.value, toLex (r.key.evaluatorId, r.key.evidenceFingerprint)))
    (s.gateEvidence.rows.filter fun r => r.key.taskId = taskId ∧ r.key.candidateSha = candidateSha ∧
      s.candidateEvidence.rows.any fun c => c.taskId = taskId ∧ c.candidateSha = candidateSha ∧
        c.evidenceFingerprint = r.key.evidenceFingerprint)

def boundEvidence (s : Gate.Store) (taskId candidateSha : String) : List GateEvidence :=
  (boundRows s taskId candidateSha).map GateEvidenceRow.evidence

/-- The last part of `_decision_from_connection`: the decision over the evidence, and the dependency graph of a task
with more than one source. -/
def evidenceDecision (host : Host) (s : Gate.Store) (taskId candidateSha : String) (context : GateContext) :
    Except Error GateDecision :=
  let evidence := boundEvidence s taskId candidateSha
  let decision := decideGates context evidence
  if decision.outcome = .pass ∧ 1 < context.sourceCount then
    match evidence.find? fun e => e.gateKey = GateKey.dependencyGraph.value ∧ e.outcome = EvidenceOutcome.pass.value with
    | none => .ok (.blockedBy "dependency-graph" "accepted graph decision is unavailable")
    | some e =>
      match requireCurrentDependencyGraph host s.toStore taskId candidateSha context e.evidenceFingerprint with
      | .ok () => .ok decision
      | .error (.gate _) => .ok (.blockedBy "dependency-graph" "accepted graph decision is stale")
      | .error e => .error e
  else .ok decision

/-- The part of `_decision_from_connection` after the obligations. -/
def contextDecision (host : Host) (s : Gate.Store) (taskId candidateSha : String) : Except Error GateDecision :=
  match readGateContext s taskId candidateSha with
  | none => .ok (.blockedBy "context" "gate context is unavailable")
  | some context =>
    match terminalDependencyBinding host s.toStore taskId with
    | .error (.gate _) => .ok (.blockedBy "context" "affected source subset is unavailable or stale")
    | .error e => .error e
    | .ok (terminal, sourceCount) =>
      if (s.gateContext? taskId candidateSha).map (·.terminalDependencyBinding) ≠ some terminal ∨
          context.sourceCount ≠ sourceCount then
        .ok (.blockedBy "context" "terminal dependency-review binding is stale")
      else evidenceDecision host s taskId candidateSha context

/-- `_decision_from_connection` -/
def decisionFromConnection (host : Host) (s : Gate.Store) (items : Table ReviewItemRow.clash) (identity : TaskIdentity) :
    Except Error GateDecision :=
  let stale : GateDecision := .blockedBy "context" "candidate seal is unavailable or stale"
  match s.ledger.seal? identity.taskId, s.ledger.leases.rows.head? with
  | some sealed, some lease =>
    if sealed.baseSha ≠ identity.baseSha ∨ sealed.stateIdentity ≠ lease.stateIdentity then .ok stale
    else do
      let pending ← unresolvedFinalGateBlockers s.ledger items identity.taskId sealed.candidateSha
      if pending then .ok (.blockedBy "review-items" "unresolved PASS follow-up remains")
      else contextDecision host s identity.taskId sealed.candidateSha
  | _, _ => .ok stale

/-! ## What a passing decision has seen -/

/-- The evidence of one gate is accepted: it belongs to the candidate of the context, nothing of it is open, and it all
passes or all is not applicable to an isolated task of one source. -/
structure Satisfied (context : GateContext) (key : GateKey) (entries : List GateEvidence) : Prop where
  present : entries ≠ []
  candidate : ∀ e ∈ entries, e.taskId = context.taskId ∧ e.candidateSha = context.candidateSha
  formed : ∀ e ∈ entries, isWellFormedEntry e = true
  resolved : ∀ e ∈ entries, ∀ f ∈ e.followUps, f.resolved = true
  outcome : (∀ e ∈ entries, e.outcome = EvidenceOutcome.pass.value) ∨
    (permitsPhaseTwoLocalNa key = true ∧ context.sourceCount = 1 ∧ context.isolatedLocalTask = true ∧
      ∀ e ∈ entries, e.outcome = EvidenceOutcome.notApplicable.value ∧ justifiedNa e = true)

variable {context : GateContext}

theorem decideOutcome_pass {key : GateKey} {entries : List GateEvidence} {outcome reason : String}
    (h : decideOutcome context key entries outcome = (.pass, reason)) :
    outcome = EvidenceOutcome.pass.value ∨ (outcome = EvidenceOutcome.notApplicable.value ∧ permitsPhaseTwoLocalNa key = true ∧
      context.sourceCount = 1 ∧ context.isolatedLocalTask = true ∧ ∀ e ∈ entries, justifiedNa e = true) := by
  unfold decideOutcome at h
  split at h
  · exact .inl ‹_›
  · split at h
    · rename_i houtcome
      right
      split at h
      · cases h
      · rename_i hpermits
        split at h
        · cases h
        · rename_i hboundary
          split at h
          · cases h
          · rename_i hjustified
            rw [not_or, not_not, Bool.not_eq_false] at hboundary
            refine ⟨houtcome, by simpa using hpermits, hboundary.1, hboundary.2, fun e he => ?_⟩
            by_contra hbad
            exact hjustified (List.any_eq_true.2 ⟨e, he, by simpa using hbad⟩)
    · split at h
      · cases h
      · split at h <;> cases h

theorem decideRequirement_pass {key : GateKey} {entries : List GateEvidence} {reason : String}
    (h : decideRequirement context key entries = (.pass, reason)) (hpresent : entries ≠ []) : Satisfied context key entries := by
  unfold decideRequirement at h
  split at h
  · cases h
  · rename_i hcandidate
    split at h
    · cases h
    · rename_i hformed
      split at h
      · cases h
      · rename_i hresolved
        split at h
        · rename_i outcome hdedup
          have houtcome : ∀ e ∈ entries, e.outcome = outcome := by
            intro e he
            have hmem : e.outcome ∈ (entries.map (·.outcome)).dedup := List.mem_dedup.2 (List.mem_map_of_mem he)
            rw [hdedup, List.mem_singleton] at hmem
            exact hmem
          simp only [List.any_eq_true, decide_eq_true_eq, not_exists, not_and, not_or, not_not,
            Bool.not_eq_false] at hcandidate hformed hresolved
          refine ⟨hpresent, hcandidate, hformed, hresolved, ?_⟩
          rcases decideOutcome_pass h with hpass | ⟨hna, hpermits, hcount, hisolated, hjustified⟩
          · exact .inl fun e he => (houtcome e he).trans hpass
          · exact .inr ⟨hpermits, hcount, hisolated, fun e he => ⟨(houtcome e he).trans hna, hjustified e he⟩⟩
        · cases h

theorem mem_gateRegistry (key : GateKey) : key ∈ gateRegistry := by
  cases key <;> decide

theorem aggregate_pass {results : List GateResult} (h : aggregate results = .pass) : ∀ r ∈ results, r.outcome = .pass := by
  intro r hr
  unfold aggregate at h
  split at h
  · cases h
  · rename_i hblocked
    split at h
    · cases h
    · rename_i hpending
      simp only [List.any_eq_true, decide_eq_true_eq, not_exists, not_and] at hblocked hpending
      cases hout : r.outcome with
      | pass => rfl
      | pending => exact absurd hout (hpending r hr)
      | blocked => exact absurd hout (hblocked r hr)

theorem decideGates_pass {evidence : List GateEvidence} (h : (decideGates context evidence).outcome = .pass)
    (key : GateKey) : Satisfied context key (entriesOf key evidence) := by
  unfold decideGates at h
  split at h
  · cases h
  · have hresult := aggregate_pass h (gateResult context evidence key)
      (List.mem_append_left _ (List.mem_map_of_mem (mem_gateRegistry key)))
    unfold gateResult at hresult
    split at hresult
    · cases hresult
    · rename_i hpresent
      have hpass : decideRequirement context key (entriesOf key evidence) =
          (.pass, (decideRequirement context key (entriesOf key evidence)).2) := Prod.ext hresult rfl
      exact decideRequirement_pass hpass hpresent

/-- The context and the evidence name the current version of the graph and the decision that accepted it. -/
structure NamesCurrentGraph (host : Host) (s : Dependency.Store) (candidateSha : String) (context : GateContext)
    (evidenceFingerprint : String) : Prop where
  version : ∃ current, Dependency.readCurrent host s = .ok current ∧
    current.graphVersionId.map (·.val) = context.dependencyGraphVersionId
  decision : ∃ version digest decided, context.dependencyGraphVersionId = some version ∧
    context.dependencyGraphDecisionDigest = some digest ∧ currentDecision? s version = some (candidateSha, .accepted, decided) ∧
    graphFingerprint decided.text = graphFingerprint digest ∧ evidenceFingerprint = graphFingerprint digest

variable {taskId candidateSha : String}

theorem requireCurrentDependencyGraph_names {host : Host} {s : Dependency.Store} {evidenceFingerprint : String}
    (h : requireCurrentDependencyGraph host s taskId candidateSha context evidenceFingerprint = .ok ()) :
    NamesCurrentGraph host s candidateSha context evidenceFingerprint := by
  simp only [requireCurrentDependencyGraph, bind_eq_ok, exists_unit, refuse_eq_ok, demand_eq_ok, rewrap_eq_ok, not_or,
    not_not, Option.filter_eq_some_iff] at h
  obtain ⟨-, version, ⟨hversion, -⟩, digest, ⟨hdigest, -⟩, current, hcurrent, terminal, -, ⟨hnames, -, -⟩,
    ⟨decided, decision, decisionDigest⟩, hdecision, hdecided, haccepted, hfingerprint, hevidence⟩ := h
  subst hdecided haccepted
  exact ⟨⟨current, hcurrent, hnames.trans hversion.symm⟩, version, digest, decisionDigest, hversion, hdigest, hdecision,
    hfingerprint, hevidence⟩

/-- Everything a passing decision of a task has seen, under the lease of the repository. -/
structure Cleared (host : Host) (s : Gate.Store) (items : Table ReviewItemRow.clash) (identity : TaskIdentity)
    (lease : TransitionLease) (sealed : SealRow) (context : GateContext) : Prop where
  candidate : s.ledger.seal? identity.taskId = some sealed
  base : sealed.baseSha = identity.baseSha
  current : sealed.stateIdentity = lease.stateIdentity
  followUps : ∀ r ∈ items.rows, r.taskId = identity.taskId → r.pendingFollowUp = false
  read : readGateContext s identity.taskId sealed.candidateSha = some context
  sources : ∃ terminal count, terminalDependencyBinding host s.toStore identity.taskId = .ok (terminal, count) ∧
    context.sourceCount = count ∧ (s.gateContext? identity.taskId sealed.candidateSha).map
      (·.terminalDependencyBinding) = some terminal
  gates : ∀ key, Satisfied context key (entriesOf key (boundEvidence s identity.taskId sealed.candidateSha))
  graph : 1 < context.sourceCount → ∃ e ∈ entriesOf .dependencyGraph
    (boundEvidence s identity.taskId sealed.candidateSha), e.outcome = EvidenceOutcome.pass.value ∧
      NamesCurrentGraph host s.toStore sealed.candidateSha context e.evidenceFingerprint

theorem unresolvedFinalGateBlockers_none {l : Ledger} {items : Table ReviewItemRow.clash}
    (h : unresolvedFinalGateBlockers l items taskId candidateSha = .ok false) :
    ∀ r ∈ items.rows, r.taskId = taskId → r.pendingFollowUp = false := by
  simp only [unresolvedFinalGateBlockers, bind_eq_ok, pure_eq_ok] at h
  obtain ⟨-, -, sealed, -, task, -, -, -, -, -, hrows⟩ := h
  intro r hr htask
  have hnone : (items.rows.filter fun r => r.taskId = taskId ∧ r.pendingFollowUp) = [] := by simpa using hrows
  rw [List.filter_eq_nil_iff] at hnone
  simpa [htask] using hnone r hr

theorem evidenceDecision_pass {host : Host} {s : Gate.Store} {d : GateDecision}
    (h : evidenceDecision host s taskId candidateSha context = .ok d) (hpass : d.outcome = .pass) :
    (∀ key, Satisfied context key (entriesOf key (boundEvidence s taskId candidateSha))) ∧
      (1 < context.sourceCount → ∃ e ∈ entriesOf .dependencyGraph (boundEvidence s taskId candidateSha),
        e.outcome = EvidenceOutcome.pass.value ∧ NamesCurrentGraph host s.toStore candidateSha context e.evidenceFingerprint) := by
  unfold evidenceDecision at h
  dsimp only at h
  split at h
  · rename_i hmany
    split at h
    · cases h
      cases hpass
    · rename_i e hfound
      split at h
      · rename_i hgraph
        cases h
        refine ⟨decideGates_pass hmany.1, fun _ => ⟨e, ?_, ?_, requireCurrentDependencyGraph_names hgraph⟩⟩
        all_goals have hsel := List.find?_some hfound
        all_goals simp only [decide_eq_true_eq] at hsel
        · exact List.mem_filter.2 ⟨List.mem_of_find?_eq_some hfound, by simpa using hsel.1⟩
        · exact hsel.2
      · cases h
        cases hpass
      · cases h
  · rename_i hsingle
    cases h
    refine ⟨decideGates_pass hpass, fun hmany => absurd ⟨hpass, hmany⟩ hsingle⟩

theorem decisionFromConnection_pass {host : Host} {s : Gate.Store} {items : Table ReviewItemRow.clash}
    {identity : TaskIdentity} {lease : TransitionLease} {d : GateDecision}
    (h : decisionFromConnection host s items identity = .ok d) (hpass : d.outcome = .pass)
    (hlease : s.ledger.leases.rows.head? = some lease) : ∃ sealed context, Cleared host s items identity lease sealed context := by
  unfold decisionFromConnection at h
  cases hseal : s.ledger.seal? identity.taskId with
  | none =>
    rw [hseal] at h
    cases h
    cases hpass
  | some sealed =>
    rw [hseal, hlease] at h
    dsimp only at h
    split at h
    · cases h
      cases hpass
    · rename_i hcurrent
      rw [not_or, not_not, not_not] at hcurrent
      obtain ⟨pending, hpending, h⟩ := bind_eq_ok.1 h
      split at h
      · cases h
        cases hpass
      · rename_i hnone
        rw [Bool.not_eq_true] at hnone
        subst hnone
        unfold contextDecision at h
        split at h
        · cases h
          cases hpass
        · rename_i context hcontext
          split at h
          · cases h
            cases hpass
          · cases h
          · rename_i terminal count hterminal
            split at h
            · cases h
              cases hpass
            · rename_i hbinding
              rw [not_or, not_not, not_not] at hbinding
              obtain ⟨hgates, hgraph⟩ := evidenceDecision_pass h hpass
              exact ⟨sealed, context, hseal, hcurrent.1, hcurrent.2, unresolvedFinalGateBlockers_none hpending,
                hcontext, ⟨terminal, count, hterminal, hbinding.2, hbinding.1⟩, hgates, hgraph⟩

end Roundwright.Final
