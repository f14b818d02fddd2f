/-
The bounded sequence of Supervisor attempts that a diff review may run through, and the coordinates its entries reserve.
The validation sorts the entries and asks for the earlier formats of every position; the ledger accepts one step at a
time. The two agree exactly on the sequences that repeat no position and leave none out.
-/
import Roundwright.Provider.Coordinate

namespace Roundwright.Provider

open Lib State

/-! ## Steps of the ledger -/

theorem Coordinate.first_iff {c : Coordinate} :
    coordinateTransitionIsValid none c = true ↔ 0 ≤ c.epoch ∧ 1 ≤ c.round ∧ c.logical = 1 ∧ c.physical = 0 := by
  rw [coordinateTransitionIsValid]
  by_cases hout : c.epoch < 0 ∨ c.round < 1 ∨ c.logical < 1 ∨ ¬ (0 ≤ c.physical ∧ c.physical ≤ 2)
  · rw [if_pos hout]
    simp only [Bool.false_eq_true, false_iff]
    omega
  · rw [if_neg hout, decide_eq_true_eq]

/-- Within a round, the next format of a profile or the first of the next profile. -/
theorem Coordinate.next_iff {a b : Coordinate} (hepoch : b.epoch = a.epoch) (hround : b.round = a.round) :
    a.Next b ↔ 0 ≤ b.epoch ∧ 1 ≤ b.round ∧ 1 ≤ b.logical ∧ (0 ≤ b.physical ∧ b.physical ≤ 2) ∧
      ((b.logical = a.logical ∧ b.physical = a.physical + 1) ∨ (b.logical = a.logical + 1 ∧ b.physical = 0)) := by
  rw [Coordinate.Next, coordinateTransitionIsValid]
  by_cases hout : b.epoch < 0 ∨ b.round < 1 ∨ b.logical < 1 ∨ ¬ (0 ≤ b.physical ∧ b.physical ≤ 2)
  · rw [if_pos hout]
    simp only [Bool.false_eq_true, false_iff]
    omega
  · rw [if_neg hout, if_pos ⟨hepoch, hround⟩, decide_eq_true_eq]
    omega

/-! ## Entries -/

/-- The values that bind a sealed execution, and a host, to one instance: `ExecutionInstanceBinding`,
`TrustedExecutionHostInputs`. -/
structure ExecutionInstance where
  repositoryIdentity : String
  taskIdentity : String
  candidateSha : String
  instanceReceiptDigest : String
  hostIdentity : String
  deploymentIdentity : String
  authorityEpoch : Int
  replacementFence : String
deriving DecidableEq

inductive RoleExecutionSeam where
  | worker | supervisor | dependencyReview | recoveryAdvisor | ownerIntentInterpreter
deriving DecidableEq

structure ProviderProfile where
  model : String
  reasoningEffort : String
  name : Option String
deriving DecidableEq

/-- `ProviderHealthAuditIdentity`, with the profile identity that its property gives. -/
structure ProviderHealthAuditIdentity where
  profile : ProviderProfile
  profileIdentity : Digest
deriving DecidableEq

/-- `SealedRoleExecution`; `providerProfile` is that of its contract. -/
structure SealedRoleExecution where
  seam : RoleExecutionSeam
  providerProfile : ProviderProfile
  executionBinding : ExecutionInstance
deriving DecidableEq

/-- `CompletionDeadline` -/
structure CompletionDeadline where
  applicationTimeoutMs : Nat
  hostTimeoutMs : Nat
  headroomMs : Nat
deriving DecidableEq

/-- `PRODUCTION_COMPLETION_POLICY.deadline()`; no other policy can be constructed. -/
def productionDeadline : CompletionDeadline := ⟨100000, 600000, 500⟩

/-- A native backend: whether `open_fresh_session` can be called, and the deadline of one that the Harness provides. -/
structure NativeCodexSupervisorBackend where
  opensFreshSession : Bool
  harnessCompletion : Option CompletionDeadline
deriving DecidableEq

structure DiffReviewSelection where
  providerAttemptId : String
  withinRoundAttempt : Nat
  logicalProfilePosition : Nat
  physicalFormatOutputOrdinal : Nat
  within : 1 ≤ withinRoundAttempt
  ordinal : physicalFormatOutputOrdinal ≤ 2
  agrees : logicalProfilePosition ≠ 0 → logicalProfilePosition = withinRoundAttempt
deriving DecidableEq

/-- `resolved_logical_profile_position` -/
def DiffReviewSelection.resolved (s : DiffReviewSelection) : Nat :=
  if s.logicalProfilePosition ≠ 0 then s.logicalProfilePosition else s.withinRoundAttempt

theorem DiffReviewSelection.resolved_pos (s : DiffReviewSelection) : 1 ≤ s.resolved := by
  unfold resolved
  split
  · omega
  · exact s.within

/-- `_matching_supervisor_admission` -/
def matchingSupervisorAdmission (execution : SealedRoleExecution) (audit : ProviderHealthAuditIdentity) : Bool :=
  execution.seam = .supervisor && execution.providerProfile = audit.profile

/-- `_matching_execution_host` -/
def matchingExecutionHost (execution : SealedRoleExecution) (executionHost : ExecutionInstance) : Bool :=
  executionHost = execution.executionBinding

structure DiffReviewSequenceEntry where
  selection : DiffReviewSelection
  advisoryExecution : SealedRoleExecution
  recovery : RecoveryContext
  audit : ProviderHealthAuditIdentity
  backend : NativeCodexSupervisorBackend
  executionHost : ExecutionInstance
  admitted : matchingSupervisorAdmission advisoryExecution audit = true
  callable : backend.opensFreshSession = true
deriving DecidableEq

/-- The position of an entry: its profile, then its format. -/
def DiffReviewSequenceEntry.position (e : DiffReviewSequenceEntry) : Nat ×ₗ Nat :=
  toLex (e.selection.resolved, e.selection.physicalFormatOutputOrdinal)

/-! ## The runner -/

/-- `DurableDiffReviewRunner`. The dependency binding is written as the repository, the task and the candidate that it
names. -/
structure DurableDiffReviewRunner where
  identity : TaskIdentity
  recovery : RecoveryContext
  sealedCandidateSha : String
  dependencyBinding : String × String × String
  audit : ProviderHealthAuditIdentity
  backend : NativeCodexSupervisorBackend
  reviewEpoch : Int
  reviewRound : Int
  selection : DiffReviewSelection
  advisoryExecution : SealedRoleExecution
  executionHost : ExecutionInstance
  sequence : List DiffReviewSequenceEntry
  caseId : Option String
  readyAt : Option Int

namespace DurableDiffReviewRunner

variable (r : DurableDiffReviewRunner)

/-- `_sequence_entries` -/
def sequenceEntries : Except String (List DiffReviewSequenceEntry) :=
  if r.sequence ≠ [] then .ok r.sequence
  else if h : matchingSupervisorAdmission r.advisoryExecution r.audit = true ∧ r.backend.opensFreshSession = true then
    .ok [⟨r.selection, r.advisoryExecution, r.recovery, r.audit, r.backend, r.executionHost, h.1, h.2⟩]
  else .error "provider attempt sequence entry is invalid"

/-- `_TOKEN` of the runtime: letters of both cases and digits, then also `.`, `_`, `:`, `/` and `-`. -/
def isRuntimeToken (text : String) : Bool :=
  headTail Char.isAlphanum (fun c => c.isAlphanum || c ∈ ['.', '_', ':', '/', '-']) 127 text

/-- The entry has a position the configured profiles allow, with the profile of that position. -/
def AtProfile (e : DiffReviewSequenceEntry) : Prop :=
  e.selection.resolved ≤ r.recovery.runtimeBinding.reviewMaxSupervisorAttemptsPerRound ∧
    r.recovery.runtimeBinding.supervisorProfileIdentities[e.selection.resolved - 1]? = some e.audit.profileIdentity

instance (e : DiffReviewSequenceEntry) : Decidable (r.AtProfile e) := inferInstanceAs (Decidable (_ ∧ _))

/-- Every later format of a position comes with the format before it. -/
def FormatsFollow (entries : List DiffReviewSequenceEntry) : Prop :=
  ∀ e ∈ entries, e.selection.physicalFormatOutputOrdinal ≠ 0 → ∃ previous ∈ entries,
    previous.selection.resolved = e.selection.resolved ∧
      previous.selection.physicalFormatOutputOrdinal = e.selection.physicalFormatOutputOrdinal - 1

instance (entries : List DiffReviewSequenceEntry) : Decidable (FormatsFollow entries) := by
  unfold FormatsFollow
  infer_instance

/-- `validate_sequence` -/
def validateSequence : Except String (List DiffReviewSequenceEntry) := do
  let entries ← r.sequenceEntries
  refuse (¬ r.caseId.any isRuntimeToken ∨ ¬ r.readyAt.any (fun readyAt => 0 ≤ readyAt) ∨
    r.dependencyBinding ≠ (r.identity.repositoryId, r.identity.taskId, r.sealedCandidateSha) ∨ entries = [] ∨
    (∃ e ∈ entries, matchingSupervisorAdmission e.advisoryExecution e.audit = false ∨
      matchingExecutionHost e.advisoryExecution e.executionHost = false) ∨
    r.recovery.runtimeBinding.reviewMaxSupervisorAttemptsPerRound < (entries.map (·.selection.resolved)).dedup.length ∨
    (∃ e ∈ entries, ¬ r.AtProfile e) ∨
    entries.map (·.position) ≠ sortBy id (entries.map (·.position)) ∨
    ¬ FormatsFollow entries ∨
    (entries.map (·.selection.providerAttemptId)).dedup.length ≠ entries.length ∨
    (∃ e ∈ entries, e.recovery.taskId ≠ r.recovery.taskId ∨ e.recovery.candidateSha ≠ r.recovery.candidateSha ∨
      e.recovery.runtimeBinding.same r.recovery.runtimeBinding = false ∨ e.backend.opensFreshSession = false) ∨
    matchingSupervisorAdmission r.advisoryExecution r.audit = false ∨
    matchingExecutionHost r.advisoryExecution r.executionHost = false)
    "provider attempt runner context has drifted"
  refuse (∃ e ∈ entries, ∃ completion ∈ e.backend.harnessCompletion, completion ≠ productionDeadline)
    "provider attempt completion policy has drifted"
  return entries

/-- The coordinate that an entry reserves. -/
def coordinate (e : DiffReviewSequenceEntry) : Coordinate :=
  ⟨r.reviewEpoch, r.reviewRound, e.selection.resolved, e.selection.physicalFormatOutputOrdinal⟩

/-! ## What validation establishes -/

variable {r} {entries : List DiffReviewSequenceEntry}

theorem validateSequence_ok (h : r.validateSequence = .ok entries) :
    r.sequenceEntries = .ok entries ∧ entries ≠ [] ∧
      (entries.map (·.position)).Pairwise (· ≤ ·) ∧ FormatsFollow entries := by
  simp only [validateSequence, bind_eq_ok, exists_unit, refuse_eq_ok, pure_eq_ok, not_or, not_not] at h
  obtain ⟨entries', hentries, ⟨-, -, -, hne, -, -, -, hsorted, hformats, -⟩, -, rfl⟩ := h
  refine ⟨hentries, hne, ?_, hformats⟩
  rw [hsorted]
  exact sortBy_pairwise id _

/-- Between two neighbours of a list in strict order there is nothing. -/
theorem between {α κ : Type} [LinearOrder κ] {key : α → κ} {l l₁ l₂ : List α} {a b x : α}
    (h : (l.map key).Pairwise (· < ·)) (hl : l = l₁ ++ a :: b :: l₂) (hx : x ∈ l) : key x ≤ key a ∨ key b ≤ key x := by
  rw [List.pairwise_map, hl, List.pairwise_append] at h
  obtain ⟨-, hright, hacross⟩ := h
  rw [List.pairwise_cons, List.pairwise_cons] at hright
  rw [hl, List.mem_append, List.mem_cons, List.mem_cons] at hx
  rcases hx with hx | rfl | rfl | hx
  · exact .inl (hacross x hx a List.mem_cons_self).le
  · exact .inl le_rfl
  · exact .inr le_rfl
  · exact .inr (hright.2.1 x hx).le

theorem position_lt {a b : DiffReviewSequenceEntry} : a.position < b.position ↔ a.selection.resolved < b.selection.resolved ∨
    (a.selection.resolved = b.selection.resolved ∧
      a.selection.physicalFormatOutputOrdinal < b.selection.physicalFormatOutputOrdinal) := Prod.Lex.toLex_lt_toLex

/-- No position is left out before an entry. -/
def PositionsFollow (entries : List DiffReviewSequenceEntry) : Prop :=
  ∀ e ∈ entries, e.selection.resolved ≠ 1 → ∃ previous ∈ entries, previous.selection.resolved + 1 = e.selection.resolved

/-- The ledger accepts an entry after another of the round. -/
theorem next_iff (hepoch : 0 ≤ r.reviewEpoch) (hround : 1 ≤ r.reviewRound) {a b : DiffReviewSequenceEntry} :
    (r.coordinate a).Next (r.coordinate b) ↔
      (b.selection.resolved = a.selection.resolved ∧
        b.selection.physicalFormatOutputOrdinal = a.selection.physicalFormatOutputOrdinal + 1) ∨
      (b.selection.resolved = a.selection.resolved + 1 ∧ b.selection.physicalFormatOutputOrdinal = 0) := by
  have hpos := b.selection.resolved_pos
  have hordinal := b.selection.ordinal
  refine (Coordinate.next_iff (a := r.coordinate a) (b := r.coordinate b) rfl rfl).trans ?_
  simp only [coordinate]
  omega

/-- The ledger accepts an entry as the first of the round. -/
theorem first_iff {b : DiffReviewSequenceEntry} : coordinateTransitionIsValid none (r.coordinate b) = true ↔
    0 ≤ r.reviewEpoch ∧ 1 ≤ r.reviewRound ∧ b.selection.resolved = 1 ∧ b.selection.physicalFormatOutputOrdinal = 0 := by
  refine Coordinate.first_iff.trans ?_
  simp only [coordinate]
  omega

/-- An entry after the first follows one of the same profile or of the profile before. -/
theorem InSequence.follows (hepoch : 0 ≤ r.reviewEpoch) (hround : 1 ≤ r.reviewRound) {first : DiffReviewSequenceEntry}
    {rest : List DiffReviewSequenceEntry} (h : InSequence (some (r.coordinate first)) (rest.map r.coordinate)) :
    ∀ e ∈ rest, e.selection.resolved = first.selection.resolved ∨
      ∃ previous ∈ first :: rest, previous.selection.resolved + 1 = e.selection.resolved := by
  induction rest generalizing first with
  | nil =>
    intro e he
    cases he
  | cons a rest ih =>
    rw [List.map_cons, inSequence_cons] at h
    obtain ⟨hnext, hrest⟩ := h
    have hstep : a.selection.resolved = first.selection.resolved ∨
        ∃ previous ∈ first :: a :: rest, previous.selection.resolved + 1 = a.selection.resolved := by
      rcases (next_iff hepoch hround).1 hnext with ⟨hsame, -⟩ | ⟨hlater, -⟩
      · exact .inl hsame
      · exact .inr ⟨first, List.mem_cons_self, hlater.symm⟩
    intro e he
    rcases List.mem_cons.1 he with rfl | he
    · exact hstep
    · rcases ih hrest e he with hsame | ⟨previous, hmem, hprevious⟩
      · rw [hsame]
        exact hstep
      · exact .inr ⟨previous, List.mem_cons_of_mem _ hmem, hprevious⟩

/-- In a sequence that the ledger accepts no position is repeated and none is left out. -/
theorem InSequence.complete (hne : entries ≠ []) (h : InSequence none (entries.map r.coordinate)) :
    0 ≤ r.reviewEpoch ∧ 1 ≤ r.reviewRound ∧ (entries.map (·.position)).Nodup ∧ PositionsFollow entries := by
  obtain ⟨first, rest, rfl⟩ := List.exists_cons_of_ne_nil hne
  have hincreasing := h.increasing
  rw [List.map_cons, inSequence_cons] at h
  obtain ⟨hfirst, hrest⟩ := h
  obtain ⟨hepoch, hround, hone, -⟩ := first_iff.1 hfirst
  refine ⟨hepoch, hround, ?_, fun e he hlater => ?_⟩
  · refine List.pairwise_map.2 ((List.pairwise_map.1 hincreasing).imp fun {a b} hlt heq => ?_)
    have hsame : r.coordinate a = r.coordinate b := by
      have hpair := Prod.mk.inj (toLex.injective heq)
      simp only [coordinate, hpair]
    rw [hsame] at hlt
    exact lt_irrefl _ hlt
  · rcases List.mem_cons.1 he with rfl | he
    · exact absurd hone hlater
    · rcases InSequence.follows hepoch hround hrest e he with hsame | hprevious
      · exact absurd (hsame.trans hone) hlater
      · exact hprevious

/-- The ledger accepts a sorted sequence in which no position is repeated and no position and no format is left out. -/
theorem inSequence_of_follow (hepoch : 0 ≤ r.reviewEpoch) (hround : 1 ≤ r.reviewRound)
    (hsorted : (entries.map (·.position)).Pairwise (· ≤ ·)) (hdistinct : (entries.map (·.position)).Nodup)
    (hformats : FormatsFollow entries) (hpositions : PositionsFollow entries) : InSequence none (entries.map r.coordinate) := by
  have hstrict : (entries.map (·.position)).Pairwise (· < ·) :=
    (hsorted.and hdistinct).imp fun h => lt_of_le_of_ne h.1 h.2
  constructor
  · intro c hc
    obtain ⟨rest, hrest⟩ := List.head?_eq_some_iff.1 hc
    obtain ⟨first, entries', rfl, rfl, -⟩ := List.map_eq_cons_iff.1 hrest
    rw [List.map_cons, List.pairwise_cons] at hstrict
    -- what would come before the first entry comes after it
    have hbefore : ∀ e ∈ first :: entries', ¬ e.position < first.position := by
      intro e he hlt
      rcases List.mem_cons.1 he with rfl | he
      · exact lt_irrefl _ hlt
      · exact lt_asymm hlt (hstrict.1 _ (List.mem_map_of_mem he))
    refine first_iff.2 ⟨hepoch, hround, ?_, ?_⟩
    · by_contra hone
      obtain ⟨previous, hmem, hprevious⟩ := hpositions first List.mem_cons_self hone
      exact hbefore previous hmem (position_lt.2 (.inl (by omega)))
    · by_contra hzero
      obtain ⟨previous, hmem, hsame, hprevious⟩ := hformats first List.mem_cons_self hzero
      exact hbefore previous hmem (position_lt.2 (.inr ⟨hsame, by omega⟩))
  · rw [List.isChain_map, List.isChain_iff_forall_rel_of_append_cons_cons]
    intro a b l₁ l₂ hl
    have hnothing : ∀ e ∈ entries, ¬ (a.position < e.position ∧ e.position < b.position) := by
      rintro e he ⟨hafter, hbefore⟩
      rcases between hstrict hl he with hle | hle
      · exact absurd hafter (not_lt.2 hle)
      · exact absurd hbefore (not_lt.2 hle)
    have hb : b ∈ entries := by
      rw [hl]
      simp
    have hlt : a.position < b.position := by
      rw [List.pairwise_map, hl, List.pairwise_append, List.pairwise_cons] at hstrict
      exact hstrict.2.1.1 b List.mem_cons_self
    refine (next_iff hepoch hround).2 ?_
    rw [position_lt] at hlt
    by_cases hzero : b.selection.physicalFormatOutputOrdinal = 0
    · by_cases hone : b.selection.resolved = 1
      · have := a.selection.resolved_pos
        omega
      · obtain ⟨previous, hmem, hprevious⟩ := hpositions b hb hone
        have hgap := hnothing previous hmem
        rw [position_lt, position_lt] at hgap
        omega
    · obtain ⟨previous, hmem, hsame, hprevious⟩ := hformats b hb hzero
      have hgap := hnothing previous hmem
      rw [position_lt, position_lt] at hgap
      omega

end DurableDiffReviewRunner

open DurableDiffReviewRunner

/-- A validated sequence is a legal run of coordinates exactly when it repeats no position and leaves none out. -/
theorem validated_sequence_exact (r : DurableDiffReviewRunner) (entries : List DiffReviewSequenceEntry)
    (h : r.validateSequence = .ok entries) :
    InSequence none (entries.map r.coordinate) ↔ 0 ≤ r.reviewEpoch ∧ 1 ≤ r.reviewRound ∧ (entries.map (·.position)).Nodup ∧
      ∀ e ∈ entries, e.selection.resolved ≠ 1 → ∃ previous ∈ entries, previous.selection.resolved + 1 = e.selection.resolved := by
  obtain ⟨-, hne, hsorted, hformats⟩ := validateSequence_ok h
  constructor
  · exact InSequence.complete hne
  · rintro ⟨hepoch, hround, hdistinct, hpositions⟩
    exact inSequence_of_follow hepoch hround hsorted hdistinct hformats hpositions

namespace Sample

/-- A configuration of two Supervisor profiles. -/
def reviewed : RuntimeBinding where
  resolvedDigest := digest 1
  workerProfileIdentity := digest 2
  supervisorProfileIdentities := [digest 3, digest 4]
  reviewCompleteRounds := 1
  reviewMaxRounds := 2
  reviewMaxSupervisorAttemptsPerRound := 2
  reviewOnFinalFindings := "worker-final-repair-then-merge"
  reviewPolicyDigest := text 5
  profiles := by decide
  reviewPolicy := .inr ⟨by decide, by decide, rfl, rfl, Hex.isHex_text _⟩

def host : ExecutionInstance := ⟨"repository", "task", "candidate", "receipt", "host", "deployment", 1, "fence"⟩
def profile : ProviderProfile := ⟨"sol", "xhigh", none⟩

def select (attempt : String) (profile : Fin 2) (ordinal : Fin 3) : DiffReviewSelection :=
  ⟨attempt, profile + 1, 0, ordinal, Nat.le_add_left 1 _, Nat.le_of_lt_succ ordinal.isLt, fun h => absurd rfl h⟩

def entry (attempt : String) (p : Fin 2) (ordinal : Fin 3) : DiffReviewSequenceEntry where
  selection := select attempt p ordinal
  advisoryExecution := ⟨.supervisor, profile, host⟩
  recovery := { context .supervisor 1 (digest 3) with runtimeBinding := reviewed }
  audit := ⟨profile, digest (p + 3)⟩
  backend := ⟨true, none⟩
  executionHost := host
  admitted := by simp [matchingSupervisorAdmission]
  callable := rfl

def runner (sequence : List DiffReviewSequenceEntry) : DurableDiffReviewRunner where
  identity := identity
  recovery := { context .supervisor 1 (digest 3) with runtimeBinding := reviewed }
  sealedCandidateSha := "candidate"
  dependencyBinding := (identity.repositoryId, identity.taskId, "candidate")
  audit := ⟨profile, digest 3⟩
  backend := ⟨true, none⟩
  reviewEpoch := 0
  reviewRound := 1
  selection := select "a" 0 0
  advisoryExecution := ⟨.supervisor, profile, host⟩
  executionHost := host
  sequence := sequence
  caseId := some "case"
  readyAt := some 10

end Sample

open Sample

/-- A sequence of one entry, for the second profile, is validated: no ledger begins with it. -/
theorem second_profile_validated : (runner [entry "a" 1 0]).validateSequence = .ok [entry "a" 1 0] ∧
    ¬ InSequence none ([entry "a" 1 0].map (runner [entry "a" 1 0]).coordinate) := by
  refine ⟨by decide +kernel, fun h => ?_⟩
  cases h.head _ rfl

/-- Two formats of the first profile and then the second profile. -/
theorem validated_sequence_exact_three :
    InSequence none ([entry "a" 0 0, entry "b" 0 1, entry "c" 1 0].map
      (runner [entry "a" 0 0, entry "b" 0 1, entry "c" 1 0]).coordinate) :=
  (validated_sequence_exact _ _ (by decide +kernel)).2 ⟨by decide, by decide, by decide, by decide⟩

end Roundwright.Provider
