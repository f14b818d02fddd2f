/-
`decide_gates` over whatever its caller passes. The annotations of the records are not enforced, so a field can hold any
value and an item of the tuple need not be a `GateEvidence`; `Dynamic.decideGates` decides over such values, and on
records of the annotated types it is `decideGates`. The aggregate is free of the order of the evidence, and more
evidence never opens a gate.
-/
import Roundwright.Final.Decision

namespace Roundwright.Final.Dynamic

open Lib State Gate

/-! ## What a caller can pass -/

/-- A field of a record, as far as the checks tell values apart. A member of a `StrEnum` is its text. -/
inductive Scalar where
  | none
  | bool (b : Bool)
  | int (n : Int)
  | text (s : String)
  | other (object : Nat)
deriving DecidableEq

namespace Scalar

/-- `isinstance(value, str)` with a condition on the text. -/
def isText (p : String → Bool) : Scalar → Bool
  | .text s => p s
  | _ => false

/-- `type(value) is int` with a condition on the number. -/
def isInt (p : Int → Bool) : Scalar → Bool
  | .int n => p n
  | _ => false

/-- `type(value) is bool` -/
def isBool : Scalar → Bool
  | .bool _ => true
  | _ => false

/-- `value is None or` the condition on the text. -/
def isNoneOr (p : String → Bool) : Scalar → Bool
  | .none => true
  | v => v.isText p

end Scalar

structure FollowUpFields where
  identifier : Scalar
  resolved : Scalar
  resolutionFingerprint : Scalar

inductive FollowUpItem where
  | followUp (f : FollowUpFields)
  | other (object : Nat)

inductive FollowUpsField where
  | tuple (items : List FollowUpItem)
  | other (object : Nat)

structure EvidenceFields where
  taskId : Scalar
  candidateSha : Scalar
  gateKey : Scalar
  outcome : Scalar
  evaluatorId : Scalar
  evaluatedAt : Scalar
  evidenceFingerprint : Scalar
  changedBoundary : Scalar
  reason : Scalar
  followUps : FollowUpsField

inductive EvidenceItem where
  | gateEvidence (e : EvidenceFields)
  | other (object : Nat)

inductive EvidenceArgument where
  | tuple (items : List EvidenceItem)
  | other (object : Nat)

/-- The fields of a `GateContext` that the decision reads. The binding is `none` when it is no `RuntimeBinding`. -/
structure ContextFields where
  taskId : Scalar
  candidateSha : Scalar
  sourceCount : Scalar
  isolatedLocalTask : Scalar
  policyDigest : Scalar
  receiptFingerprint : Scalar
  runtimeBinding : Option RuntimeBinding
  selectedSupervisorProfileIdentity : Scalar
  dependencyGraphVersionId : Scalar
  dependencyGraphDecisionDigest : Scalar

inductive ContextArgument where
  | gateContext (c : ContextFields)
  | other (object : Nat)

/-! ## The checks -/

/-- `_is_well_formed_context` -/
def ContextFields.isWellFormed (c : ContextFields) : Bool :=
  c.taskId.isText isGateToken && c.candidateSha.isText (isHex 40) && c.sourceCount.isInt (0 < ·) &&
    c.isolatedLocalTask.isBool && c.policyDigest.isText (isHex 64) && c.receiptFingerprint.isText (isHex 64) &&
    (c.runtimeBinding.any fun b => c.selectedSupervisorProfileIdentity.isText
      (· ∈ b.supervisorProfileIdentities.map (·.text))) &&
    c.dependencyGraphVersionId.isNoneOr isGateToken && c.dependencyGraphDecisionDigest.isNoneOr isGraphDigest

/-- The loop of `_follow_ups_are_valid` over the items, with the identifiers seen. -/
def followUpsLoop (identifiers : List String) : List FollowUpItem → Bool
  | [] => true
  | .other _ :: _ => false
  | .followUp f :: rest =>
    match f.identifier, f.resolved with
    | .text identifier, .bool resolved =>
      isGateToken identifier && (identifier ∉ identifiers) && (resolved == f.resolutionFingerprint.isText (isHex 64)) &&
        followUpsLoop (identifiers ++ [identifier]) rest
    | _, _ => false

/-- `_follow_ups_are_valid` -/
def FollowUpsField.isValid : FollowUpsField → Bool
  | .tuple items => followUpsLoop [] items
  | .other _ => false

/-- `not follow_up.resolved` for one of them; the check before has made them booleans. -/
def FollowUpsField.unresolved : FollowUpsField → Bool
  | .tuple items => items.any fun
    | .followUp f => f.resolved = .bool false
    | .other _ => false
  | .other _ => false

/-- `_is_well_formed` -/
def EvidenceFields.isWellFormed (e : EvidenceFields) : Bool :=
  e.taskId.isText isGateToken && e.candidateSha.isText (isHex 40) && e.gateKey.isText (fun _ => true) &&
    e.outcome.isText (fun outcome => evidenceOutcomes.any fun o => o.value = outcome) && e.evaluatorId.isText isGateToken &&
    e.evaluatedAt.isInt (0 < ·) && e.evidenceFingerprint.isText (isHex 64) && e.changedBoundary.isNoneOr (fun _ => true) &&
    e.reason.isNoneOr (fun _ => true) && e.followUps.isValid

/-- `_justified_na` -/
def EvidenceFields.justifiedNa (e : EvidenceFields) : Bool :=
  e.changedBoundary.isText (fun text => text.toList.any fun ch => ¬ isSpace ch) &&
    e.reason.isText (fun text => text.toList.any fun ch => ¬ isSpace ch)

/-! ## The decision -/

/-- The element of a set that has one. -/
def sole? (outcomes : List Scalar) : Option Scalar :=
  match outcomes.dedup with
  | [outcome] => some outcome
  | _ => none

/-- The part of `_decide_requirement` about the one outcome of all entries. -/
def decideOutcome (context : ContextFields) (key : GateKey) (entries : List EvidenceFields) (outcome : Scalar) :
    GateOutcome × String :=
  if outcome = .text EvidenceOutcome.pass.value then
    if key = .dependencyGraph ∧ context.sourceCount.isInt (1 < ·) ∧
        (context.dependencyGraphVersionId.isText isGateToken = false ∨
          context.dependencyGraphDecisionDigest.isText isGraphDigest = false) then
      (.blocked, "accepted graph decision is unavailable")
    else (.pass, "accepted")
  else if outcome = .text EvidenceOutcome.notApplicable.value then
    if permitsPhaseTwoLocalNa key = false then (.blocked, "not applicable is unsupported for this gate")
    else if context.sourceCount ≠ .int 1 ∨ context.isolatedLocalTask ≠ .bool true then
      (.blocked, "not applicable requires the isolated single-source local boundary")
    else if entries.any fun e => e.justifiedNa = false then (.blocked, "not applicable is not auditable")
    else (.pass, "accepted isolated-local not applicable")
  else if outcome = .text EvidenceOutcome.pending.value ∨ outcome = .text EvidenceOutcome.stale.value then
    (.pending, "evidence is pending or stale")
  else if outcome = .text EvidenceOutcome.findings.value then (.blocked, "findings remain")
  else (.blocked, "unknown or blocked evidence")

/-- `_decide_requirement` -/
def decideRequirement (context : ContextFields) (key : GateKey) (entries : List EvidenceFields) : GateOutcome × String :=
  if entries.any fun e => e.taskId ≠ context.taskId ∨
    e.candidateSha ≠ context.candidateSha then (.blocked, "candidate identity mismatch")
  else if entries.any fun e => e.isWellFormed = false then (.blocked, "invalid structured evidence")
  else if entries.any fun e => e.followUps.unresolved then (.blocked, "unresolved follow-up remains")
  else
    match sole? (entries.map (·.outcome)) with
    | some outcome => decideOutcome context key entries outcome
    | none => (.blocked, "conflicting evidence")

/-- The item when it is evidence of the gate. -/
def EvidenceItem.entryFor (key : GateKey) : EvidenceItem → Option EvidenceFields
  | .gateEvidence e => if e.gateKey = .text key.value then some e else none
  | .other _ => none

/-- The entries of one gate. -/
def entriesOf (key : GateKey) (evidence : List EvidenceItem) : List EvidenceFields := evidence.filterMap (·.entryFor key)

def EvidenceItem.unsupported : EvidenceItem → Bool
  | .gateEvidence e => e.gateKey.isText fun text => gateRegistry.all fun key => key.value ≠ text
  | .other _ => false

def EvidenceItem.malformed : EvidenceItem → Bool
  | .gateEvidence e => ! e.gateKey.isText fun _ => true
  | .other _ => true

/-- The result of one gate of the registry. -/
def gateResult (context : ContextFields) (evidence : List EvidenceItem) (key : GateKey) : GateResult :=
  if entriesOf key evidence = [] then ⟨key.value, .pending, "missing evidence"⟩
  else
    let (outcome, reason) := decideRequirement context key (entriesOf key evidence)
    ⟨key.value, outcome, reason⟩

/-- The results over well-formed arguments. -/
def gateResults (context : ContextFields) (evidence : List EvidenceItem) : List GateResult :=
  gateRegistry.map (gateResult context evidence) ++
    (if evidence.any (·.unsupported) then [⟨"unsupported", .blocked, "unsupported gate evidence"⟩] else []) ++
    if evidence.any (·.malformed) then [⟨"malformed", .blocked, "invalid structured evidence"⟩] else []

/-- `decide_gates` -/
def decideGates : ContextArgument → EvidenceArgument → GateDecision
  | .other _, _ => .blockedBy "context" "invalid gate context"
  | .gateContext context, argument =>
    if context.isWellFormed = false then .blockedBy "context" "invalid gate context"
    else
      match argument with
      | .other _ => .blockedBy "evidence" "invalid evidence container"
      | .tuple evidence => ⟨aggregate (gateResults context evidence), gateResults context evidence⟩

/-! ## One gate -/

theorem sole?_eq_some {outcomes : List Scalar} {outcome : Scalar} :
    sole? outcomes = some outcome ↔ outcomes ≠ [] ∧ ∀ o ∈ outcomes, o = outcome := by
  have hmem : ∀ {l : List Scalar}, outcomes.dedup = l → ∀ o, o ∈ outcomes ↔ o ∈ l := fun h o => by rw [← h, List.mem_dedup]
  unfold sole?
  split
  · rename_i only hdedup
    rw [Option.some.injEq]
    constructor
    · rintro rfl
      refine ⟨fun hnil => ?_, fun o ho => List.mem_singleton.1 ((hmem hdedup o).1 ho)⟩
      rw [hnil] at hdedup
      cases hdedup
    · rintro ⟨-, hall⟩
      exact hall only ((hmem hdedup only).2 (List.mem_singleton.2 rfl))
  · rename_i hmany
    refine ⟨fun h => (by cases h), fun ⟨hne, hall⟩ => ?_⟩
    -- all of them one outcome, the set is a singleton
    obtain ⟨o, rest, rfl⟩ := List.exists_cons_of_ne_nil hne
    have hdedup : (o :: rest).dedup = [outcome] := by
      refine List.perm_singleton.1 ((List.perm_ext_iff_of_nodup (List.nodup_dedup _) (List.nodup_singleton _)).2 fun a => ?_)
      rw [List.mem_dedup, List.mem_singleton]
      refine ⟨hall a, ?_⟩
      rintro rfl
      rw [← hall o List.mem_cons_self]
      exact List.mem_cons_self
    exact absurd hdedup (hmany outcome)

/-- Nothing in the entries blocks by itself, and they agree on an outcome. -/
structure Admitted (context : ContextFields) (entries : List EvidenceFields) (outcome : Scalar) : Prop where
  present : entries ≠ []
  candidate : ∀ e ∈ entries, e.taskId = context.taskId ∧ e.candidateSha = context.candidateSha
  formed : ∀ e ∈ entries, e.isWellFormed = true
  resolved : ∀ e ∈ entries, e.followUps.unresolved = false
  agreed : ∀ e ∈ entries, e.outcome = outcome

section Requirement

variable {context : ContextFields} {key : GateKey} {entries more : List EvidenceFields} {outcome : Scalar}

theorem Admitted.mono (h : Admitted context more outcome) (hsub : entries ⊆ more) (hne : entries ≠ []) :
    Admitted context entries outcome where
  present := hne
  candidate := fun e he => h.candidate e (hsub he)
  formed := fun e he => h.formed e (hsub he)
  resolved := fun e he => h.resolved e (hsub he)
  agreed := fun e he => h.agreed e (hsub he)

theorem sole?_outcomes : sole? (entries.map (·.outcome)) = some outcome ↔ entries ≠ [] ∧ ∀ e ∈ entries, e.outcome = outcome := by
  rw [sole?_eq_some, ne_eq, List.map_eq_nil_iff, List.forall_mem_map]

theorem Admitted.decided (h : Admitted context entries outcome) :
    decideRequirement context key entries = decideOutcome context key entries outcome := by
  unfold decideRequirement
  rw [if_neg, if_neg, if_neg, sole?_outcomes.2 ⟨h.present, h.agreed⟩]
  · simp only [List.any_eq_true, not_exists, not_and, Bool.not_eq_true]
    exact h.resolved
  · simp only [List.any_eq_true, decide_eq_true_eq, not_exists, not_and, Bool.not_eq_false]
    exact h.formed
  · simp only [List.any_eq_true, decide_eq_true_eq, not_exists, not_and, not_or, not_not]
    exact h.candidate

/-- A gate that is not blocked has entries that agree. -/
theorem admitted_of_not_blocked (h : (decideRequirement context key entries).1 ≠ .blocked) (hne : entries ≠ []) :
    ∃ outcome, Admitted context entries outcome := by
  unfold decideRequirement at h
  split at h
  · exact absurd rfl h
  · rename_i hcandidate
    split at h
    · exact absurd rfl h
    · rename_i hformed
      split at h
      · exact absurd rfl h
      · rename_i hresolved
        split at h
        · rename_i outcome hsole
          simp only [List.any_eq_true, decide_eq_true_eq, not_exists, not_and, not_or, not_not, Bool.not_eq_false,
            Bool.not_eq_true] at hcandidate hformed hresolved
          exact ⟨outcome, hne, hcandidate, hformed, hresolved, (sole?_outcomes.1 hsole).2⟩
        · exact absurd rfl h

theorem decideOutcome_congr (h : (entries.any fun e => e.justifiedNa = false) = more.any fun e => e.justifiedNa = false) :
    decideOutcome context key entries outcome = decideOutcome context key more outcome := by
  unfold decideOutcome
  rw [h]

theorem decideOutcome_grows (hsub : entries ⊆ more) : (decideOutcome context key more outcome).1 = .blocked ∨
    decideOutcome context key more outcome = decideOutcome context key entries outcome := by
  by_cases hmore : (more.any fun e => e.justifiedNa = false) = true
  · by_cases hentries : (entries.any fun e => e.justifiedNa = false) = true
    · exact .inr (decideOutcome_congr (hmore.trans hentries.symm))
    · -- an unjustified entry is new
      unfold decideOutcome
      rw [if_pos hmore]
      split
      · exact .inr rfl
      · split
        · left
          split
          · rfl
          · split <;> rfl
        · exact .inr rfl
  · have hentries : ¬ (entries.any fun e => e.justifiedNa = false) = true := by
      simp only [List.any_eq_true, not_exists, not_and] at hmore ⊢
      exact fun e he => hmore e (hsub he)
    rw [Bool.not_eq_true] at hmore hentries
    exact .inr (decideOutcome_congr (hmore.trans hentries.symm))

/-- More entries block a gate or leave its outcome. -/
theorem decideRequirement_grows (hsub : entries ⊆ more) (hne : entries ≠ []) :
    (decideRequirement context key more).1 = .blocked ∨
    (decideRequirement context key more).1 = (decideRequirement context key entries).1 := by
  by_cases hblocked : (decideRequirement context key more).1 = .blocked
  · exact .inl hblocked
  · have hmore : more ≠ [] := by
      rintro rfl
      exact hne (List.subset_nil.1 hsub)
    obtain ⟨outcome, hadmitted⟩ := admitted_of_not_blocked hblocked hmore
    rw [hadmitted.decided, (hadmitted.mono hsub hne).decided]
    exact (decideOutcome_grows hsub).imp_right fun h => by rw [h]

theorem decideRequirement_perm (h : entries.Perm more) : decideRequirement context key entries = decideRequirement
    context key more := by
  have hsole : sole? (entries.map (·.outcome)) = sole? (more.map (·.outcome)) := by
    refine Option.ext fun outcome => ?_
    simp only [sole?_outcomes, ne_eq, h.mem_iff]
    rw [show entries = [] ↔ more = [] from ⟨fun hnil => (hnil ▸ h).symm.eq_nil, fun hnil => (hnil ▸ h).eq_nil⟩]
  unfold decideRequirement
  rw [h.any_eq, h.any_eq, h.any_eq, hsole]
  split
  · rfl
  · split
    · rfl
    · split
      · rfl
      · split
        · exact decideOutcome_congr h.any_eq
        · rfl

theorem decideOutcome_pass : (decideOutcome context key entries outcome).1 = .pass ↔
    (outcome = .text EvidenceOutcome.pass.value ∧ (key = .dependencyGraph → context.sourceCount.isInt (1 < ·) = true →
      context.dependencyGraphVersionId.isText isGateToken = true ∧
        context.dependencyGraphDecisionDigest.isText isGraphDigest = true)) ∨
    (outcome = .text EvidenceOutcome.notApplicable.value ∧ permitsPhaseTwoLocalNa key = true ∧ context.sourceCount = .int 1 ∧
      context.isolatedLocalTask = .bool true ∧ ∀ e ∈ entries, e.justifiedNa = true) := by
  unfold decideOutcome
  split
  · rename_i hpass
    subst hpass
    have hother : Scalar.text EvidenceOutcome.pass.value ≠ .text EvidenceOutcome.notApplicable.value := by decide
    split
    · rename_i hgraph
      refine ⟨fun h => (by cases h), ?_⟩
      rintro (⟨-, h⟩ | ⟨h, -⟩)
      · have := h hgraph.1 hgraph.2.1
        simp [this] at hgraph
      · exact absurd h hother
    · rename_i hgraph
      refine ⟨fun _ => .inl ⟨rfl, fun hkey hcount => ?_⟩, fun _ => rfl⟩
      by_contra hbad
      refine hgraph ⟨hkey, hcount, ?_⟩
      rwa [not_and_or, Bool.not_eq_true, Bool.not_eq_true] at hbad
  · rename_i hpass
    split
    · rename_i hna
      have hiff : (permitsPhaseTwoLocalNa key = true ∧ context.sourceCount = .int 1 ∧
          context.isolatedLocalTask = .bool true ∧ ∀ e ∈ entries, e.justifiedNa = true) ↔
          ¬ permitsPhaseTwoLocalNa key = false ∧ ¬ (context.sourceCount ≠ .int 1 ∨ context.isolatedLocalTask ≠ .bool true) ∧
            ¬ (entries.any fun e => e.justifiedNa = false) = true := by
        simp [not_or, and_assoc]
      refine Iff.trans (Iff.trans ?_ hiff.symm) ((and_iff_right hna).symm.trans (or_iff_right fun h => hpass h.1).symm)
      split
      · rename_i h
        exact ⟨fun h => (by cases h), fun hall => absurd h hall.1⟩
      · rename_i hpermits
        split
        · rename_i h
          exact ⟨fun h => (by cases h), fun hall => absurd h hall.2.1⟩
        · rename_i hboundary
          split
          · rename_i h
            exact ⟨fun h => (by cases h), fun hall => absurd h hall.2.2⟩
          · rename_i hjustified
            exact ⟨fun _ => ⟨hpermits, hboundary, hjustified⟩, fun _ => rfl⟩
    · rename_i hna
      refine ⟨fun h => ?_, ?_⟩
      · split at h
        · cases h
        · split at h <;> cases h
      · rintro (⟨h, -⟩ | ⟨h, -⟩)
        · exact absurd h hpass
        · exact absurd h hna

end Requirement

/-! ## All gates -/

variable {key : GateKey}

theorem mem_entriesOf {evidence : List EvidenceItem} {e : EvidenceFields} :
    e ∈ entriesOf key evidence ↔ .gateEvidence e ∈ evidence ∧ e.gateKey = .text key.value := by
  unfold entriesOf
  rw [List.mem_filterMap]
  constructor
  · rintro ⟨item, hitem, hentry⟩
    cases item with
    | gateEvidence f =>
      simp only [EvidenceItem.entryFor, Option.ite_none_right_eq_some, Option.some.injEq] at hentry
      obtain ⟨hkey, rfl⟩ := hentry
      exact ⟨hitem, hkey⟩
    | other _ => cases hentry
  · rintro ⟨hitem, hkey⟩
    exact ⟨.gateEvidence e, hitem, by simp [EvidenceItem.entryFor, hkey]⟩

theorem aggregate_blocked {results : List GateResult} : aggregate results = .blocked ↔ ∃ r ∈ results, r.outcome = .blocked := by
  have hany : (results.any fun r => r.outcome = .blocked) = true ↔ ∃ r ∈ results, r.outcome = .blocked := by simp
  rw [← hany]
  unfold aggregate
  split
  · rename_i hblocked
    exact ⟨fun _ => hblocked, fun _ => rfl⟩
  · rename_i hblocked
    refine ⟨fun h => ?_, fun h => absurd h hblocked⟩
    split at h <;> cases h

theorem aggregate_pass_iff {results : List GateResult} : aggregate results = .pass ↔ ∀ r ∈ results, r.outcome = .pass := by
  refine ⟨aggregate_pass, fun h => ?_⟩
  unfold aggregate
  rw [if_neg, if_neg]
  all_goals
    simp only [List.any_eq_true, decide_eq_true_eq, not_exists, not_and]
    intro r hr hout
    rw [h r hr] at hout
    cases hout

theorem value_injective : Function.Injective GateKey.value := by
  have hnodup : (gateRegistry.map GateKey.value).Nodup := by decide
  exact fun a b h => List.inj_on_of_nodup_map hnodup (mem_gateRegistry a) (mem_gateRegistry b) h

theorem value_ne {text : String} (h : text ∉ gateRegistry.map GateKey.value) (key : GateKey) : text ≠ key.value := by
  rintro rfl
  exact h (List.mem_map_of_mem (mem_gateRegistry key))

section Results

variable {context : ContextFields} {evidence : List EvidenceItem}

theorem mem_gateResults {r : GateResult} : r ∈ gateResults context evidence ↔
    (∃ key, gateResult context evidence key = r) ∨
    (evidence.any (·.unsupported) = true ∧ r = ⟨"unsupported", .blocked, "unsupported gate evidence"⟩) ∨
    (evidence.any (·.malformed) = true ∧ r = ⟨"malformed", .blocked, "invalid structured evidence"⟩) := by
  unfold gateResults
  rw [List.mem_append, List.mem_append, List.mem_map, or_assoc]
  refine or_congr ⟨fun ⟨key, _, h⟩ => ⟨key, h⟩, fun ⟨key, h⟩ => ⟨key, mem_gateRegistry key, h⟩⟩ (or_congr ?_ ?_)
  all_goals
    split
    · rename_i hany
      simp [hany]
    · rename_i hany
      simp [hany]

@[simp] theorem gateResult_gateKey (key : GateKey) : (gateResult context evidence key).gateKey = key.value := by
  unfold gateResult
  split <;> rfl

theorem gateResult_outcome (h : entriesOf key evidence ≠ []) :
    (gateResult context evidence key).outcome = (decideRequirement context key (entriesOf key evidence)).1 := by
  unfold gateResult
  rw [if_neg h]

/-- The result of a gate under its key. -/
theorem outcome_of_key {r : GateResult} (hr : r ∈ gateResults context evidence) (hkey : r.gateKey = key.value) :
    r = gateResult context evidence key := by
  rcases mem_gateResults.1 hr with ⟨other, rfl⟩ | ⟨-, rfl⟩ | ⟨-, rfl⟩
  · rw [gateResult_gateKey] at hkey
    rw [value_injective hkey]
  · exact absurd hkey (value_ne (by decide) key)
  · exact absurd hkey (value_ne (by decide) key)

theorem gateResults_perm {permuted : List EvidenceItem} (h : evidence.Perm permuted) :
    gateResults context permuted = gateResults context evidence := by
  have hresult : gateResult context permuted = gateResult context evidence := by
    funext key
    have hentries : (entriesOf key permuted).Perm (entriesOf key evidence) := h.symm.filterMap _
    unfold gateResult
    rw [decideRequirement_perm hentries]
    by_cases hnil : entriesOf key evidence = []
    · rw [hnil] at hentries
      rw [if_pos hentries.eq_nil, if_pos hnil]
    · rw [if_neg hnil, if_neg fun hpermuted => hnil (by rw [hpermuted] at hentries; exact hentries.symm.eq_nil)]
  unfold gateResults
  rw [hresult, h.symm.any_eq, h.symm.any_eq]

variable (more : List EvidenceItem)

theorem entriesOf_append_subset (key : GateKey) : entriesOf key evidence ⊆ entriesOf key (evidence ++ more) := by
  intro e he
  rw [mem_entriesOf] at he ⊢
  exact ⟨List.mem_append_left _ he.1, he.2⟩

/-- More evidence blocks a gate that has some, or leaves its outcome. -/
theorem gateResult_grows {key : GateKey} (h : entriesOf key evidence ≠ []) :
    (gateResult context (evidence ++ more) key).outcome = .blocked ∨
      (gateResult context (evidence ++ more) key).outcome = (gateResult context evidence key).outcome := by
  have hsub : entriesOf key evidence ⊆ entriesOf key (evidence ++ more) := entriesOf_append_subset more key
  have hmore : entriesOf key (evidence ++ more) ≠ [] := by
    intro hnil
    rw [hnil] at hsub
    exact h (List.subset_nil.1 hsub)
  rw [gateResult_outcome h, gateResult_outcome hmore]
  exact decideRequirement_grows hsub h

theorem gateResults_blocked (h : ∃ r ∈ gateResults context evidence, r.outcome = .blocked) :
    ∃ r ∈ gateResults context (evidence ++ more), r.outcome = .blocked := by
  obtain ⟨r, hr, hblocked⟩ := h
  rcases mem_gateResults.1 hr with ⟨key, rfl⟩ | ⟨hany, rfl⟩ | ⟨hany, rfl⟩
  · refine ⟨_, mem_gateResults.2 (.inl ⟨key, rfl⟩), ?_⟩
    have hentries : entriesOf key evidence ≠ [] := by
      intro hnil
      unfold gateResult at hblocked
      rw [if_pos hnil] at hblocked
      cases hblocked
    exact (gateResult_grows more hentries).elim id fun h => h.trans hblocked
  · exact ⟨_, mem_gateResults.2 (.inr (.inl ⟨by rw [List.any_append, hany, Bool.true_or], rfl⟩)), rfl⟩
  · exact ⟨_, mem_gateResults.2 (.inr (.inr ⟨by rw [List.any_append, hany, Bool.true_or], rfl⟩)), rfl⟩

end Results

/-! ## What passes -/

/-- An item that the decision accepts as evidence of some gate. -/
structure Sound (context : ContextFields) (e : EvidenceFields) : Prop where
  formed : e.isWellFormed = true
  registered : ∃ key : GateKey, e.gateKey = .text key.value
  task : e.taskId = context.taskId
  candidate : e.candidateSha = context.candidateSha
  resolved : e.followUps.unresolved = false

/-- The context is well formed, every item is sound, and every gate has evidence that all passes or is all not
applicable to an isolated task of one source. -/
structure Accepted (context : ContextFields) (evidence : List EvidenceItem) : Prop where
  formed : context.isWellFormed = true
  sound : ∀ item ∈ evidence, ∃ e, item = .gateEvidence e ∧ Sound context e
  present : ∀ key : GateKey, ∃ e, .gateEvidence e ∈ evidence ∧ e.gateKey = .text key.value
  agreed : ∀ key : GateKey,
    ((∀ e, .gateEvidence e ∈ evidence → e.gateKey = .text key.value → e.outcome = .text EvidenceOutcome.pass.value) ∧
      (key = .dependencyGraph → context.sourceCount.isInt (1 < ·) = true →
        context.dependencyGraphVersionId ≠ .none ∧ context.dependencyGraphDecisionDigest ≠ .none)) ∨
    (permitsPhaseTwoLocalNa key = true ∧ context.sourceCount = .int 1 ∧ context.isolatedLocalTask = .bool true ∧
      ∀ e, .gateEvidence e ∈ evidence → e.gateKey = .text key.value →
        e.outcome = .text EvidenceOutcome.notApplicable.value ∧ e.justifiedNa = true)

theorem Scalar.isNoneOr_text {p : String → Bool} {v : Scalar} (h : v.isNoneOr p = true) : v.isText p = true ↔ v ≠ .none := by
  cases v with
  | none => simp [Scalar.isText]
  | _ => simpa [Scalar.isNoneOr] using h

theorem ContextFields.graph_present {context : ContextFields} (h : context.isWellFormed = true) :
    (context.dependencyGraphVersionId.isText isGateToken = true ∧
    context.dependencyGraphDecisionDigest.isText isGraphDigest = true) ↔
      context.dependencyGraphVersionId ≠ .none ∧ context.dependencyGraphDecisionDigest ≠ .none := by
  unfold ContextFields.isWellFormed at h
  rw [Bool.and_eq_true, Bool.and_eq_true] at h
  rw [Scalar.isNoneOr_text h.1.2, Scalar.isNoneOr_text h.2]

section Passes

variable {context : ContextFields} {evidence : List EvidenceItem}

theorem gateResult_pass {key : GateKey} : (gateResult context evidence key).outcome = .pass ↔
    ∃ outcome, Admitted context (entriesOf key evidence) outcome ∧
      (decideOutcome context key (entriesOf key evidence) outcome).1 = .pass := by
  by_cases hnil : entriesOf key evidence = []
  · refine ⟨fun h => ?_, fun ⟨_, hadmitted, _⟩ => absurd hnil hadmitted.present⟩
    unfold gateResult at h
    rw [if_pos hnil] at h
    cases h
  · rw [gateResult_outcome hnil]
    constructor
    · intro h
      have hopen : (decideRequirement context key (entriesOf key evidence)).1 ≠ .blocked := by
        rw [h]
        decide
      obtain ⟨outcome, hadmitted⟩ := admitted_of_not_blocked hopen hnil
      exact ⟨outcome, hadmitted, hadmitted.decided ▸ h⟩
    · rintro ⟨outcome, hadmitted, h⟩
      rw [hadmitted.decided]
      exact h

theorem Scalar.exists_text {v : Scalar} (h : v.isText (fun _ => true) = true) : ∃ text, v = .text text := by
  cases v with
  | text s => exact ⟨s, rfl⟩
  | _ => cases h

/-- Items that are neither malformed nor unsupported are evidence of a registered gate. -/
theorem registered_iff {item : EvidenceItem} : (item.unsupported = false ∧ item.malformed = false) ↔
    ∃ e, item = .gateEvidence e ∧ ∃ key : GateKey, e.gateKey = .text key.value := by
  cases item with
  | other _ => simp [EvidenceItem.malformed]
  | gateEvidence e =>
    constructor
    · rintro ⟨hsupported, hformed⟩
      refine ⟨e, rfl, ?_⟩
      simp only [EvidenceItem.malformed, Bool.not_eq_false'] at hformed
      obtain ⟨text, htext⟩ := Scalar.exists_text hformed
      simp only [EvidenceItem.unsupported, htext, Scalar.isText, List.all_eq_false, decide_eq_true_eq, not_not] at hsupported
      obtain ⟨key, -, rfl⟩ := hsupported
      exact ⟨key, htext⟩
    · rintro ⟨f, heq, key, hkey⟩
      obtain rfl := EvidenceItem.gateEvidence.inj heq
      simp only [EvidenceItem.unsupported, EvidenceItem.malformed, hkey, Scalar.isText, List.all_eq_false,
        decide_eq_true_eq, not_not, Bool.not_true, and_true]
      exact ⟨key, mem_gateRegistry key, rfl⟩

theorem gateResults_pass (hformed : context.isWellFormed = true) :
    (∀ r ∈ gateResults context evidence, r.outcome = .pass) ↔ Accepted context evidence := by
  -- the three kinds of results are read off one by one, and put together again
  constructor
  · intro h
    have hgate : ∀ key, ∃ outcome, Admitted context (entriesOf key evidence) outcome ∧
        (decideOutcome context key (entriesOf key evidence) outcome).1 = .pass :=
      fun key => gateResult_pass.1 (h _ (mem_gateResults.2 (.inl ⟨key, rfl⟩)))
    have hclean : ∀ item ∈ evidence, item.unsupported = false ∧ item.malformed = false := by
      intro item hitem
      constructor
      · by_contra hbad
        rw [Bool.not_eq_false] at hbad
        cases h _ (mem_gateResults.2 (.inr (.inl ⟨List.any_eq_true.2 ⟨item, hitem, hbad⟩, rfl⟩)))
      · by_contra hbad
        rw [Bool.not_eq_false] at hbad
        cases h _ (mem_gateResults.2 (.inr (.inr ⟨List.any_eq_true.2 ⟨item, hitem, hbad⟩, rfl⟩)))
    refine ⟨hformed, fun item hitem => ?_, fun key => ?_, fun key => ?_⟩
    · obtain ⟨e, rfl, key, hkey⟩ := registered_iff.1 (hclean item hitem)
      obtain ⟨outcome, hadmitted, -⟩ := hgate key
      have he := mem_entriesOf.2 ⟨hitem, hkey⟩
      exact ⟨e, rfl, hadmitted.formed e he, ⟨key, hkey⟩, (hadmitted.candidate e he).1, (hadmitted.candidate e he).2,
        hadmitted.resolved e he⟩
    · obtain ⟨outcome, hadmitted, -⟩ := hgate key
      obtain ⟨e, he⟩ := List.exists_mem_of_ne_nil _ hadmitted.present
      exact ⟨e, mem_entriesOf.1 he⟩
    · obtain ⟨outcome, hadmitted, hpass⟩ := hgate key
      rcases decideOutcome_pass.1 hpass with ⟨rfl, hgraph⟩ | ⟨rfl, hpermits, hcount, hisolated, hjustified⟩
      · refine .inl ⟨fun e he hkey => hadmitted.agreed e (mem_entriesOf.2 ⟨he, hkey⟩), fun hkey hmany => ?_⟩
        exact (ContextFields.graph_present hformed).1 (hgraph hkey hmany)
      · exact .inr ⟨hpermits, hcount, hisolated, fun e he hkey =>
          ⟨hadmitted.agreed e (mem_entriesOf.2 ⟨he, hkey⟩), hjustified e (mem_entriesOf.2 ⟨he, hkey⟩)⟩⟩
  · intro h r hr
    have hsound : ∀ {key e}, e ∈ entriesOf key evidence → Sound context e := by
      intro key e he
      obtain ⟨f, heq, hf⟩ := h.sound _ (mem_entriesOf.1 he).1
      exact EvidenceItem.gateEvidence.inj heq ▸ hf
    rcases mem_gateResults.1 hr with ⟨key, rfl⟩ | ⟨hany, -⟩ | ⟨hany, -⟩
    · have hadmitted : ∀ outcome, (∀ e ∈ entriesOf key evidence, e.outcome = outcome) →
          Admitted context (entriesOf key evidence) outcome := by
        intro outcome hagreed
        obtain ⟨e, he⟩ := h.present key
        exact ⟨List.ne_nil_of_mem (mem_entriesOf.2 he), fun e he => ⟨(hsound he).task, (hsound he).candidate⟩,
          fun e he => (hsound he).formed, fun e he => (hsound he).resolved, hagreed⟩
      refine gateResult_pass.2 ?_
      rcases h.agreed key with ⟨hall, hgraph⟩ | ⟨hpermits, hcount, hisolated, hall⟩
      · refine ⟨_, hadmitted _ fun e he => hall e (mem_entriesOf.1 he).1 (mem_entriesOf.1 he).2,
          decideOutcome_pass.2 (.inl ⟨rfl, fun hkey hmany => ?_⟩)⟩
        exact (ContextFields.graph_present hformed).2 (hgraph hkey hmany)
      · refine ⟨_, hadmitted _ fun e he => (hall e (mem_entriesOf.1 he).1 (mem_entriesOf.1 he).2).1,
          decideOutcome_pass.2 (.inr ⟨rfl, hpermits, hcount, hisolated, fun e he => ?_⟩)⟩
        exact (hall e (mem_entriesOf.1 he).1 (mem_entriesOf.1 he).2).2
    all_goals
      obtain ⟨item, hitem, hbad⟩ := List.any_eq_true.1 hany
      obtain ⟨e, heq, hs⟩ := h.sound item hitem
      have hclean := registered_iff.2 ⟨e, heq, hs.registered⟩
      simp_all

end Passes

/-- Whatever the caller passes: the order of the evidence is free, more evidence never lifts a block nor opens a gate
that has evidence, and the decision passes exactly over accepted evidence. -/
theorem decide_gates_fail_closed (context : ContextArgument) (evidence : List EvidenceItem) :
    (∀ permuted, evidence.Perm permuted → decideGates context (.tuple permuted) = decideGates context (.tuple evidence)) ∧
    ((decideGates context (.tuple evidence)).outcome = .blocked →
      ∀ more, (decideGates context (.tuple (evidence ++ more))).outcome = .blocked) ∧
    (∀ key : GateKey, (∃ e, .gateEvidence e ∈ evidence ∧ e.gateKey = .text key.value) →
      (∀ r ∈ (decideGates context (.tuple evidence)).results, r.gateKey = key.value → r.outcome ≠ .pass) →
      ∀ more, ∀ r ∈ (decideGates context (.tuple (evidence ++ more))).results, r.gateKey = key.value → r.outcome ≠ .pass) ∧
    ((decideGates context (.tuple evidence)).outcome = .pass ↔ ∃ c, context = .gateContext c ∧ Accepted c evidence) := by
  have hinvalid : ∀ {results : List GateResult}, results = [⟨"context", .blocked, "invalid gate context"⟩] →
      ∀ r ∈ results, r.outcome ≠ .pass := by
    rintro _ rfl r hr
    rw [List.mem_singleton.1 hr]
    decide
  -- only a well-formed context reaches the gates
  cases context with
  | other object =>
    refine ⟨fun _ _ => rfl, fun _ _ => rfl, fun key _ _ more r hr _ => hinvalid rfl r hr, fun h => (by cases h), ?_⟩
    rintro ⟨c, heq, -⟩
    cases heq
  | gateContext c =>
    by_cases hformed : c.isWellFormed = true
    · have hdecide : ∀ items, decideGates (.gateContext c)
        (.tuple items) = ⟨aggregate (gateResults c items), gateResults c items⟩ := by
        intro items
        simp only [decideGates, hformed, Bool.true_eq_false, if_false]
      simp only [hdecide]
      refine ⟨fun permuted h => ?_, fun h more => ?_, fun key hkey h more r hr hrkey => ?_, ?_⟩
      · rw [gateResults_perm h]
      · rw [aggregate_blocked] at h ⊢
        exact gateResults_blocked more h
      · obtain ⟨e, he⟩ := hkey
        have hentries := List.ne_nil_of_mem (mem_entriesOf.2 he)
        rw [outcome_of_key hr hrkey]
        rcases @gateResult_grows c evidence more key hentries with hblocked | hsame
        · rw [hblocked]
          decide
        · rw [hsame]
          exact h _ (mem_gateResults.2 (.inl ⟨key, rfl⟩)) (gateResult_gateKey key)
      · rw [aggregate_pass_iff, gateResults_pass hformed]
        refine ⟨fun h => ⟨c, rfl, h⟩, ?_⟩
        rintro ⟨d, heq, h⟩
        exact ContextArgument.gateContext.inj heq ▸ h
    · have hdecide : ∀ argument, decideGates (.gateContext c) argument = .blockedBy "context" "invalid gate context" := by
        intro argument
        simp only [decideGates, Bool.eq_false_iff.2 hformed, if_true]
      simp only [hdecide, implies_true, true_and]
      refine ⟨fun _ _ => rfl, fun key _ _ _ r hr _ => hinvalid rfl r hr, fun h => (by cases h), ?_⟩
      rintro ⟨d, heq, h⟩
      obtain rfl := ContextArgument.gateContext.inj heq
      exact absurd h.formed hformed

/-! ## Records of the annotated types -/

/-- An optional text as a field. -/
def Scalar.ofOption : Option String → Scalar
  | .none => .none
  | .some s => .text s

def FollowUpFields.of (f : FollowUp) : FollowUpFields := ⟨.text f.identifier, .bool f.resolved, .ofOption f.resolutionFingerprint⟩

def EvidenceFields.of (e : GateEvidence) : EvidenceFields :=
  ⟨.text e.taskId, .text e.candidateSha, .text e.gateKey, .text e.outcome, .text e.evaluatorId, .int e.evaluatedAt,
    .text e.evidenceFingerprint, .ofOption e.changedBoundary, .ofOption e.reason,
      .tuple (e.followUps.map fun f => .followUp (.of f))⟩

def ContextFields.of (c : GateContext) : ContextFields :=
  ⟨.text c.taskId, .text c.candidateSha, .int c.sourceCount, .bool c.isolatedLocalTask, .text c.policyDigest,
    .text c.receiptFingerprint, some c.runtimeBinding, .text c.selectedSupervisorProfileIdentity,
      .ofOption c.dependencyGraphVersionId,
    .ofOption c.dependencyGraphDecisionDigest⟩

@[simp] theorem Scalar.isText_ofOption (p : String → Bool) (o : Option String) : (Scalar.ofOption o).isText p = o.any p := by
  cases o <;> rfl

@[simp] theorem Scalar.isNoneOr_ofOption (p : String → Bool) (o : Option String) : (Scalar.ofOption o).isNoneOr p = o.all p := by
  cases o <;> rfl

theorem ContextFields.isWellFormed_of (c : GateContext) : (ContextFields.of c).isWellFormed = isWellFormedContext c := by
  simp [ContextFields.isWellFormed, ContextFields.of, isWellFormedContext, Scalar.isText, Scalar.isInt, Scalar.isBool]

theorem followUpsLoop_of : ∀ (followUps : List FollowUp) (seen : List String),
    followUpsLoop seen (followUps.map fun f => .followUp (.of f)) = true ↔
      (∀ f ∈ followUps, f.identifier ∉ seen) ∧ followUpsAreValid followUps = true
  | [], seen => by simp [followUpsLoop, followUpsAreValid]
  | f :: rest, seen => by
    have ih := followUpsLoop_of rest (seen ++ [f.identifier])
    simp only [List.map_cons, followUpsLoop, FollowUpFields.of, Bool.and_eq_true] at ih ⊢
    rw [ih]
    simp only [followUpsAreValid, List.map_cons, List.nodup_cons, List.all_cons, Bool.and_eq_true, decide_eq_true_eq,
      Scalar.isText_ofOption, List.mem_append, List.mem_singleton, not_or, List.forall_mem_cons, List.mem_map, not_exists, not_and]
    constructor
    · rintro ⟨⟨⟨htoken, hnew⟩, hresolved⟩, hseen, hnodup, hall⟩
      exact ⟨⟨hnew, fun g hg => (hseen g hg).1⟩, ⟨fun g hg => (hseen g hg).2, hnodup⟩, ⟨htoken, hresolved⟩, hall⟩
    · rintro ⟨⟨hnew, hseen⟩, ⟨hfresh, hnodup⟩, ⟨htoken, hresolved⟩, hall⟩
      exact ⟨⟨⟨htoken, hnew⟩, hresolved⟩, fun g hg => ⟨hseen g hg, hfresh g hg⟩, hnodup, hall⟩

theorem EvidenceFields.isWellFormed_of (e : GateEvidence) : (EvidenceFields.of e).isWellFormed = isWellFormedEntry e := by
  have hfollow : (EvidenceFields.of e).followUps.isValid = followUpsAreValid e.followUps := by
    rw [Bool.eq_iff_iff]
    exact (followUpsLoop_of e.followUps []).trans (by simp)
  have hoption : ∀ o : Option String, (o.all fun _ => true) = true := by
    intro o
    cases o <;> rfl
  unfold EvidenceFields.isWellFormed isWellFormedEntry Gate.isWellFormed
  rw [hfollow]
  simp only [EvidenceFields.of, Scalar.isText, Scalar.isInt, Scalar.isNoneOr_ofOption, hoption, Bool.and_true]
  ac_rfl

theorem EvidenceFields.unresolved_of (e : GateEvidence) :
    (EvidenceFields.of e).followUps.unresolved = e.followUps.any fun f => f.resolved = false := by
  simp only [EvidenceFields.of, FollowUpsField.unresolved, List.any_map, FollowUpFields.of]
  congr 1
  funext f
  simp

theorem EvidenceFields.justifiedNa_of (e : GateEvidence) : (EvidenceFields.of e).justifiedNa = Final.justifiedNa e := by
  simp [EvidenceFields.justifiedNa, Final.justifiedNa, EvidenceFields.of]

section Typed

variable (c : GateContext) (key : GateKey) (entries : List GateEvidence)

theorem decideOutcome_of (outcome : String) :
    decideOutcome (.of c) key (entries.map .of) (.text outcome) = Final.decideOutcome c key entries outcome := by
  have hjustified : ((entries.map EvidenceFields.of).any fun e => e.justifiedNa = false) =
      entries.any fun e => Final.justifiedNa e = false := by
    rw [List.any_map]
    congr 1
    funext e
    rw [Function.comp_apply, EvidenceFields.justifiedNa_of]
  unfold decideOutcome Final.decideOutcome
  rw [hjustified]
  simp only [ContextFields.of, Scalar.text.injEq, Scalar.int.injEq, Scalar.bool.injEq, Scalar.isInt,
    Scalar.isText_ofOption, ne_eq, decide_eq_true_eq, not_and_or, Bool.not_eq_true]

theorem decideRequirement_of : decideRequirement (.of c) key (entries.map .of) = Final.decideRequirement c key entries := by
  have hdedup : ((entries.map EvidenceFields.of).map (·.outcome)).dedup = (entries.map (·.outcome)).dedup.map Scalar.text := by
    rw [← List.dedup_map_of_injective fun _ _ h => Scalar.text.inj h, List.map_map, List.map_map]
    rfl
  unfold decideRequirement Final.decideRequirement sole?
  rw [hdedup]
  simp only [List.any_map, Function.comp_def, EvidenceFields.isWellFormed_of, EvidenceFields.unresolved_of]
  simp only [EvidenceFields.of, ContextFields.of, ne_eq, Scalar.text.injEq]
  generalize (entries.map (·.outcome)).dedup = outcomes
  split
  · rfl
  · split
    · rfl
    · split
      · rfl
      · rcases outcomes with _ | ⟨outcome, _ | ⟨other, rest⟩⟩
        · rfl
        · exact decideOutcome_of c key entries outcome
        · rfl

/-- Over records of the annotated types the decision is `decideGates`. -/
theorem decideGates_of (evidence : List GateEvidence) :
    decideGates (.gateContext (.of c)) (.tuple (evidence.map fun e => .gateEvidence (.of e))) = Final.decideGates c evidence := by
  have hentries : ∀ key, entriesOf key (evidence.map fun e => .gateEvidence (.of e)) = (Final.entriesOf key evidence).map .of := by
    intro key
    unfold entriesOf Final.entriesOf
    rw [List.filterMap_map, ← List.filterMap_eq_filter, List.map_filterMap]
    refine List.filterMap_congr fun e _ => ?_
    by_cases hkey : e.gateKey = key.value
    · simp [EvidenceItem.entryFor, EvidenceFields.of, hkey, Option.guard]
    · simp [EvidenceItem.entryFor, EvidenceFields.of, hkey, Option.guard]
  have hresult : gateResult (.of c) (evidence.map fun e => .gateEvidence (.of e)) = Final.gateResult c evidence := by
    funext key
    unfold gateResult Final.gateResult
    rw [hentries, decideRequirement_of]
    simp only [List.map_eq_nil_iff]
  unfold decideGates Final.decideGates gateResults
  simp only [ContextFields.isWellFormed_of, hresult]
  have hmalformed : ((evidence.map fun e => EvidenceItem.gateEvidence (.of e)).any (·.malformed)) = false := by
    rw [List.any_map, List.any_eq_false]
    intro e _
    simp [EvidenceItem.malformed, EvidenceFields.of, Scalar.isText]
  have hunsupported : ((evidence.map fun e => EvidenceItem.gateEvidence (.of e)).any (·.unsupported)) =
      evidence.any fun e => gateRegistry.all fun key => key.value ≠ e.gateKey := by
    rw [List.any_map]
    rfl
  rw [hmalformed, hunsupported]
  split
  · rfl
  · simp

end Typed

end Roundwright.Final.Dynamic
