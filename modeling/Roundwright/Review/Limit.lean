/-
The end of a review: the one final repair of a Worker is consumed by a row of its own, after which no Supervisor attempt
of the task is prepared. The row is looked at when an attempt is prepared and nowhere else, so an attempt that was
prepared before it still opens its session and its turn.
-/
import Roundwright.Review.Store
import Roundwright.Provider.Advance

namespace Roundwright.Review

open Lib State Recovery Provider Relation

/-! ## The store -/

/-- `review_limit_finalizations`; the disposition has one value. -/
structure FinalizationRow where
  taskId : String
  finalization : Gate.ReviewLimitFinalization
deriving DecidableEq

/-- PRIMARY KEY. -/
def FinalizationRow.clash (a b : FinalizationRow) : Bool := a.taskId == b.taskId

/-- The database with the finalizations. What `reviews` holds of them for the provider is not read. -/
structure LimitStore where
  reviews : Store
  finalizations : Table FinalizationRow.clash

namespace LimitStore

variable (s : LimitStore)

def ledger : Ledger := s.reviews.ledger

/-- What the provider operations see. -/
def providerView : Recovery.Store :=
  { s.reviews.providerView with reviewLimitFinalizations := s.finalizations.rows.map (·.taskId) }

/-- The rows of `provider_attempts`. -/
def attempts : List AttemptRow := s.reviews.provider.providerAttempts.rows

def finalization? (taskId : String) : Option Gate.ReviewLimitFinalization :=
  (s.finalizations.rows.find? fun r => r.taskId = taskId).map (·.finalization)

end LimitStore

/-! ## `record_review_limit_finalization` -/

structure FinalizationRequest where
  findingsFingerprint : String
  workerRepairFingerprint : String
  candidateSha : String
  workerThreadIdentity : String
  runtimeBinding : RuntimeBinding

/-- The review whose findings the candidate repairs and the Worker that repaired them. Every join is on a key. -/
def LimitStore.repair? (s : LimitStore) (taskId : String) (r : FinalizationRequest) : Option (DiffReviewDispatch × String) := do
  let candidate ← s.reviews.candidates.rows.find? fun row =>
    row.taskId = taskId ∧ row.candidate.candidateSha = r.candidateSha ∧
      row.candidate.completionEvidenceFingerprint = r.workerRepairFingerprint
  let implementation ← s.reviews.implementations.rows.find? fun row =>
    row.dispatch.implementationAttemptId = candidate.candidate.implementationAttemptId
  let route ← s.reviews.repairRoutes.rows.find? fun row =>
    implementation.dispatch.repairDiffReviewId = some row.diffReviewAttemptId ∧
      row.consumedBy = some implementation.dispatch.implementationAttemptId ∧ row.taskId = taskId
  let review ← s.reviews.diffReviews.rows.find? fun row =>
    row.dispatch.diffReviewAttemptId = route.diffReviewAttemptId ∧
      implementation.dispatch.repairCandidateSha = some row.dispatch.candidateSha
  let _ ← s.reviews.diffArtifacts.rows.find? fun row =>
    row.diffReviewAttemptId = route.diffReviewAttemptId ∧ row.verdict = .findings ∧ row.contentDigest = r.findingsFingerprint
  return (review.dispatch, implementation.dispatch.workerThreadIdentity)

/-- The Worker that the findings are routed to. -/
def LimitStore.findingsWorker? (s : LimitStore) (taskId : String) (r : FinalizationRequest) : Option String :=
  (s.reviews.diffArtifacts.rows.filter fun row => row.verdict = .findings ∧
    row.contentDigest = r.findingsFingerprint).findSome? fun row =>
    (s.reviews.repairRoutes.rows.find? fun route =>
      route.diffReviewAttemptId = row.diffReviewAttemptId ∧ route.taskId = taskId).map (·.workerThreadIdentity)

/-- The last round of a review under the policy of a binding; its policy on final findings is the only one. -/
def DiffReviewDispatch.terminal (d : DiffReviewDispatch) (b : RuntimeBinding) : Bool :=
  d.reviewPolicy.reviewRound = b.reviewMaxRounds ∧ d.reviewPolicy.reviewMode = .converging ∧
    d.reviewPolicy.completeRounds = b.reviewCompleteRounds ∧ d.reviewPolicy.maxRounds = b.reviewMaxRounds ∧
    d.reviewPolicy.maxSupervisorAttemptsPerRound = b.reviewMaxSupervisorAttemptsPerRound ∧
    b.reviewOnFinalFindings = "worker-final-repair-then-merge" ∧ d.reviewPolicy.policyDigest = b.reviewPolicyDigest

section Finalization

variable (host : Host) (identity : TaskIdentity) (r : FinalizationRequest)

/-- The receipt of a repair. -/
def receiptOf (d : DiffReviewDispatch) : Gate.ReviewLimitFinalization where
  reviewRound := d.reviewPolicy.reviewRound
  findingsFingerprint := r.findingsFingerprint
  workerRepairFingerprint := r.workerRepairFingerprint
  candidateSha := r.candidateSha
  workerThreadIdentity := r.workerThreadIdentity
  diffReviewAttemptId := d.diffReviewAttemptId
  configurationDigest := r.runtimeBinding.resolvedDigest.text
  reviewPolicyDigest := d.reviewPolicy.policyDigest
  receiptFingerprint := (host.hexdigest
    ("\x00".intercalate [identity.taskId, d.diffReviewAttemptId, toString d.reviewPolicy.reviewRound, r.findingsFingerprint, r.workerRepairFingerprint, r.candidateSha, r.workerThreadIdentity, r.runtimeBinding.resolvedDigest.text,
    d.reviewPolicy.policyDigest, "REVIEW_LIMIT_REACHED_WORKER_FINALIZED"])).text

/-- The transaction of `record_review_limit_finalization`. -/
def finalize (lease : Option TransitionLease) (now : Int) : Tx Error LimitStore Gate.ReviewLimitFinalization := do
  Tx.query fun s => requireCurrentTransitionLease s.ledger lease identity.repositoryId now
  let _ ← Tx.query fun s => requireMatchingTask host s.ledger identity none
  Tx.query fun s => requireRuntimeBinding s.ledger s.reviews.provider.reviewPolicies identity.taskId r.runtimeBinding
  let review ← Tx.query fun s => do
    let (review, worker) ← demand (s.repair? identity.taskId r)
      (.state "review-limit finalization does not match the final Worker repair")
    refuse ((s.ledger.seal? identity.taskId).map (·.candidateSha) ≠ some r.candidateSha ∨ worker ≠ r.workerThreadIdentity ∨
        s.findingsWorker? identity.taskId r ≠ some r.workerThreadIdentity)
      (.state "review-limit finalization does not match the final Worker repair")
    return review
  Tx.check (refuse (review.terminal r.runtimeBinding = false)
    (.state "review-limit finalization is not a terminal persisted review"))
  let receipt := receiptOf host identity r review
  Tx.write fun s =>
    match s.finalization? identity.taskId with
    | none => do
      let finalizations ← demand (s.finalizations.insert? ⟨identity.taskId, receipt⟩) .integrity
      return { s with finalizations }
    | some stored => do
      refuse (stored ≠ receipt) (.state "review-limit finalization has already been consumed")
      return s
  return receipt

/-- `record_review_limit_finalization` -/
def recordReviewLimitFinalization (lease : Option TransitionLease) (now : Int) :
    Tx Error LimitStore Gate.ReviewLimitFinalization := do
  Tx.check (validateTaskIdentity host identity)
  Tx.check (State.requireFingerprint r.findingsFingerprint)
  Tx.check (State.requireFingerprint r.workerRepairFingerprint)
  Tx.check (refuse (isHex 40 r.candidateSha = false) (.state "review-limit candidate identity is invalid"))
  Tx.check (refuse (r.workerThreadIdentity = "") (.state "review-limit Worker identity is invalid"))
  Tx.check (refuse (r.runtimeBinding.hasReviewPolicy = false)
    (.state "review-limit finalization requires a pinned review policy binding"))
  transaction (finalize host identity r lease now)

end Finalization

/-! ## Interleavings -/

/-- What the recording of a review makes of an attempt: it is accepted, or no longer. -/
def Reviewed (a b : AttemptRow) : Prop :=
  b = a ∨ ∃ state review, (state = .accepted ∨ state = .invalidated) ∧ b = { a with state, acceptedReviewIdentity := review }

/-- A step of a run. The provider operations and the operations of reviews may write the review tables as they like; of
the attempts the latter write only whether their review is accepted. -/
inductive Step (host : Host) (s s' : LimitStore) : Prop where
  | call (call : Provider.Call) (ran : s'.reviews.provider = (call.run host s.providerView).2)
      (limits : s'.finalizations = s.finalizations)
  | finalize (identity : TaskIdentity) (r : FinalizationRequest) (lease : Option TransitionLease) (now : Int)
    (ran : s' = (recordReviewLimitFinalization host identity r lease now s).2)
  | review (attempts : ∀ b ∈ s'.attempts, ∃ a ∈ s.attempts, Reviewed a b) (limits : s'.finalizations = s.finalizations)

/-! ## Attempts -/

section Attempts

variable {host : Host} {s s' : Recovery.Store}

/-- What becomes of an attempt: it is prepared only if it was, and its session and its turn change only while it is. -/
structure Carries (a b : AttemptRow) : Prop where
  attemptId : b.attemptId = a.attemptId
  taskId : b.taskId = a.taskId
  role : b.role = a.role
  prepared : b.state = .prepared → a.state = .prepared
  session : a.state ≠ .prepared → b.sessionIdentity = a.sessionIdentity
  turn : a.state ≠ .prepared → b.externalTurnIdentity = a.externalTurnIdentity

theorem Carries.refl (a : AttemptRow) : Carries a a := ⟨rfl, rfl, rfl, id, fun _ => rfl, fun _ => rfl⟩

theorem Carries.restate {a : AttemptRow} {state : AttemptState} {review : Option String}
    (h : state = .prepared → a.state = .prepared) :
    Carries a { a with state, acceptedReviewIdentity := review } :=
  ⟨rfl, rfl, rfl, h, fun _ => rfl, fun _ => rfl⟩

theorem Reviewed.carries {a b : AttemptRow} (h : Reviewed a b) : Carries a b := by
  rcases h with rfl | ⟨state, review, hstate, rfl⟩
  · exact .refl b
  · refine .restate fun hprepared => ?_
    rcases hstate with h | h <;> rw [h] at hprepared <;> cases hprepared

theorem Carries.of_moved {row row' : AttemptRow} (h : Moved s s' row row') (hrow : Carries row row') :
    ∀ b ∈ s'.providerAttempts.rows, ∃ a ∈ s.providerAttempts.rows, Carries a b := by
  intro b hb
  rw [h.rows] at hb
  obtain ⟨a, ha, rfl⟩ := List.mem_map.1 hb
  refine ⟨a, ha, ?_⟩
  split
  · rename_i hid
    obtain rfl := Table.eq_of_key AttemptRow.attemptId_key ha (providerAttempt?_eq_some.1 h.found).1 hid
    exact hrow
  · exact .refl a

/-- Where the row of a recovery comes from. -/
theorem Carries.recovered {row : AttemptRow} {next : Option AttemptState} (h : ∀ state, next = some state → MovesTo row state) :
    Carries row { row.revalidated with state := next.getD row.revalidated.state } := by
  have hrow : Carries row row.revalidated := by
    unfold AttemptRow.revalidated
    split
    · exact .restate nofun
    · exact .refl row
  cases next with
  | none => exact hrow
  | some state =>
    refine ⟨hrow.attemptId, hrow.taskId, hrow.role, ?_, hrow.session, hrow.turn⟩
    rintro rfl
    exact (h .prepared rfl).elim

/-- A call carries every attempt on, or has prepared it. -/
theorem Effect.carries {call : Provider.Call} (h : Provider.Effect host s s' call) :
    ∀ b ∈ s'.providerAttempts.rows, (∃ a ∈ s.providerAttempts.rows, Carries a b) ∨
      ∃ identity c request lease observed, call = .prepare identity c request lease observed ∧ b.role = request.role ∧
        b.taskId = identity.taskId ∧ b.sessionIdentity = none ∧ b.externalTurnIdentity = none := by
  have hsame : s'.providerAttempts = s.providerAttempts →
      ∀ b ∈ s'.providerAttempts.rows, ∃ a ∈ s.providerAttempts.rows, Carries a b := by
    intro heq b hb
    rw [heq] at hb
    exact ⟨b, hb, .refl b⟩
  intro b hb
  cases h with
  | quiet same => exact .inl (hsame (congrArg Tables.attempts same) b hb)
  | prepared number p absent wellFormed rows frame =>
    rw [rows] at hb
    rcases List.mem_append.1 hb with hb | hb
    · exact .inl ⟨b, hb, .refl b⟩
    · obtain rfl := List.mem_singleton.1 hb
      exact .inr ⟨_, _, _, _, _, rfl, rfl, rfl, rfl, rfl⟩
  | claimed row found untouched rows frame => exact .inl (hsame (congrArg Tables.attempts frame) b hb)
  | opened row state was moved rows frame =>
    refine .inl (Carries.of_moved moved ⟨rfl, rfl, rfl, id, fun hne => absurd state hne, fun _ => rfl⟩ b hb)
  | dispatched row state opened checkpointed moved frame =>
    refine .inl (Carries.of_moved moved ⟨rfl, rfl, rfl, nofun, fun _ => rfl, fun hne => absurd state hne⟩ b hb)
  | completed row state moved frame => exact .inl (Carries.of_moved moved ⟨rfl, rfl, rfl, nofun, fun _ => rfl, fun _ => rfl⟩ b hb)
  | rejected row state moved frame => exact .inl (Carries.of_moved moved ⟨rfl, rfl, rfl, nofun, fun _ => rfl, fun _ => rfl⟩ b hb)
  | accepted row role state moved frame => exact .inl (Carries.of_moved moved (.restate nofun) b hb)
  | settled row state outcome role unaccepted settles moved persisted frame =>
    refine .inl (Carries.of_moved moved ⟨rfl, rfl, rfl, ?_, fun _ => rfl, fun _ => rfl⟩ b hb)
    rintro rfl
    rcases settles with h | ⟨h, -⟩ <;> cases h
  | recovered row d task attempt decision moved persisted ended frame =>
    exact .inl (Carries.of_moved moved (.recovered fun state => recoveryDecision_movesTo decision) b hb)

theorem prepare_open (identity : TaskIdentity) (c : RecoveryContext) (request : PrepareRequest)
    (lease : Option TransitionLease) (observed : Int) :
    Tx.Atomic (fun s _ => request.role = .supervisor → identity.taskId ∉ s.reviewLimitFinalizations)
      (Call.run host (.prepare identity c request lease observed)) := by
  refine .map (.check_bind fun p _ => .bind_read (.mapError (.transaction fun s a s' h => ?_)) fun replayed _ => ?_)
  · simp only [prepare, Tx.query_bind, exists_unit, refuse_eq_ok, not_and] at h
    obtain ⟨-, _, -, -, hopen, -⟩ := h
    exact hopen
  · cases replayed <;> rfl

theorem Call.carries (call : Provider.Call) (s : Recovery.Store) :
    ∀ b ∈ (call.run host s).2.providerAttempts.rows, (∃ a ∈ s.providerAttempts.rows, Carries a b) ∨
      (b.sessionIdentity = none ∧ b.externalTurnIdentity = none ∧
        (b.role = .supervisor → b.taskId ∉ s.reviewLimitFinalizations)) := by
  intro b hb
  rcases call.effect s with hsame | heffect
  · rw [hsame] at hb
    exact .inl ⟨b, hb, .refl b⟩
  · rcases Effect.carries heffect b hb with hcarried | ⟨identity, c, request, lease, observed, rfl, hrole, htask, hsession, hturn⟩
    · exact .inl hcarried
    · rcases prepare_open identity c request lease observed s with hsame | hopen
      · rw [hsame] at hb
        exact .inl ⟨b, hb, .refl b⟩
      · refine .inr ⟨hsession, hturn, ?_⟩
        rw [hrole, htask]
        exact hopen

end Attempts

/-! ## Every run -/

section Run

variable {host : Host} {start s s' : LimitStore}

variable (host) in
/-- A finalization adds its row to those that are there, or changes nothing. -/
theorem recordReviewLimitFinalization_effect (identity : TaskIdentity) (r : FinalizationRequest)
    (lease : Option TransitionLease) (now : Int) :
    Tx.Atomic (fun s s' => s'.reviews = s.reviews ∧ ∃ new, s'.finalizations.rows = s.finalizations.rows ++ new)
      (recordReviewLimitFinalization host identity r lease now) := by
  refine .check_bind fun _ _ => .check_bind fun _ _ => .check_bind fun _ _ => .check_bind fun _ _ => .check_bind fun _ _ =>
    .check_bind fun _ _ => .transaction fun s a s' h => ?_
  simp only [finalize, Tx.query_bind, Tx.check_bind, Tx.write_bind, Tx.pure_ok, exists_unit] at h
  obtain ⟨-, _, -, -, review, -, -, s₁, hwrite, -, rfl⟩ := h
  split at hwrite
  · simp only [bind_eq_ok, demand_eq_ok, pure_eq_ok] at hwrite
    obtain ⟨finalizations, hinsert, rfl⟩ := hwrite
    exact ⟨rfl, _, (Table.insert?_eq_some.1 hinsert).2⟩
  · simp only [bind_eq_ok, exists_unit, pure_eq_ok] at hwrite
    obtain ⟨-, rfl⟩ := hwrite
    exact ⟨rfl, [], (List.append_nil _).symm⟩

/-- The attempts and the finalizations after a step. -/
theorem Step.carries (h : Step host s s') :
    (∀ b ∈ s'.attempts, (∃ a ∈ s.attempts, Carries a b) ∨ (b.sessionIdentity = none ∧ b.externalTurnIdentity = none ∧
      (b.role = .supervisor → ∀ r ∈ s.finalizations.rows, r.taskId ≠ b.taskId))) ∧
    (s'.finalizations = s.finalizations ∨
    (s'.attempts = s.attempts ∧ ∃ new, s'.finalizations.rows = s.finalizations.rows ++ new)) := by
  cases h with
  | call call ran limits =>
    refine ⟨fun b hb => ?_, .inl limits⟩
    rw [LimitStore.attempts, ran] at hb
    rcases Call.carries call s.providerView b hb with hcarried | ⟨hsession, hturn, hopen⟩
    · exact .inl hcarried
    · refine .inr ⟨hsession, hturn, fun hrole r hr htask => hopen hrole ?_⟩
      exact List.mem_map.2 ⟨r, hr, htask⟩
  | finalize identity r lease now ran =>
    have heffect : s'.reviews = s.reviews ∧ ∃ new, s'.finalizations.rows = s.finalizations.rows ++ new := by
      rcases recordReviewLimitFinalization_effect host identity r lease now s with hsame | heffect
      · rw [ran, hsame]
        exact ⟨rfl, [], (List.append_nil _).symm⟩
      · rw [ran]
        exact heffect
    have hattempts : s'.attempts = s.attempts := by
      unfold LimitStore.attempts
      rw [heffect.1]
    refine ⟨fun b hb => .inl ?_, .inr ⟨hattempts, heffect.2⟩⟩
    rw [hattempts] at hb
    exact ⟨b, hb, .refl b⟩
  | review attempts limits =>
    refine ⟨fun b hb => .inl ?_, .inl limits⟩
    obtain ⟨a, ha, hreviewed⟩ := attempts b hb
    exact ⟨a, ha, hreviewed.carries⟩

theorem Step.finalizations (h : Step host s s') : ∀ r ∈ s.finalizations.rows, r ∈ s'.finalizations.rows := by
  intro r hr
  rcases h.carries.2 with hsame | ⟨-, new, hrows⟩
  · rw [hsame]
    exact hr
  · rw [hrows]
    exact List.mem_append_left _ hr

/-- A finalization that is written finds no prepared Supervisor attempt of its task. -/
def Quiesced (s s' : LimitStore) : Prop :=
  ∀ r ∈ s'.finalizations.rows, r ∉ s.finalizations.rows →
    ∀ a ∈ s.attempts, a.taskId = r.taskId → a.role = .supervisor → a.state ≠ .prepared

/-- No Supervisor attempt of a finalized task is prepared. -/
def Closed (s : LimitStore) : Prop :=
  ∀ r ∈ s.finalizations.rows, ∀ a ∈ s.attempts, a.taskId = r.taskId → a.role = .supervisor → a.state ≠ .prepared

theorem Closed.step (hclosed : Closed s) (h : Step host s s') (hquiesced : Quiesced s s') : Closed s' := by
  intro r hr b hb htask hrole hprepared
  obtain ⟨hattempts, hlimits⟩ := h.carries
  by_cases hold : r ∈ s.finalizations.rows
  · rcases hattempts b hb with ⟨a, ha, hcarries⟩ | ⟨-, -, hopen⟩
    · exact hclosed r hold a ha (hcarries.taskId.symm.trans htask) (hcarries.role.symm.trans hrole) (hcarries.prepared hprepared)
    · exact hopen hrole r hold htask.symm
  · -- the row is new, so the attempts are those that it found
    rcases hlimits with hsame | ⟨hsame, -⟩
    · rw [hsame] at hr
      exact hold hr
    · rw [hsame] at hb
      exact hquiesced r hr hold b hb htask hrole hprepared

theorem Closed.run (hstart : start.finalizations.rows = [])
    (hrun : ReflTransGen (fun a b => Step host a b ∧ Quiesced a b) start s) : Closed s := by
  induction hrun with
  | refl =>
    intro r hr
    rw [hstart] at hr
    cases hr
  | tail _ hstep ih => exact ih.step hstep.1 hstep.2

/-- After a finalization the Supervisor attempts of its task keep the sessions and turns they have. -/
def Quiet (s s' : LimitStore) : Prop :=
  ∀ r ∈ s.finalizations.rows, ∀ b ∈ s'.attempts, b.taskId = r.taskId → b.role = .supervisor → ∀ identity,
    (b.sessionIdentity = some identity → ∃ a ∈ s.attempts, a.attemptId = b.attemptId ∧ a.sessionIdentity = some identity) ∧
    (b.externalTurnIdentity = some identity → ∃ a ∈ s.attempts, a.attemptId = b.attemptId ∧ a.externalTurnIdentity = some identity)

theorem Closed.quiet (hclosed : Closed s) (h : Step host s s') : Quiet s s' := by
  intro r hr b hb htask hrole identity
  rcases h.carries.1 b hb with ⟨a, ha, hcarries⟩ | ⟨hsession, hturn, -⟩
  · have hstate := hclosed r hr a ha (hcarries.taskId.symm.trans htask) (hcarries.role.symm.trans hrole)
    refine ⟨fun hrecorded => ⟨a, ha, hcarries.attemptId.symm, ?_⟩, fun hrecorded => ⟨a, ha, hcarries.attemptId.symm, ?_⟩⟩
    · rw [← hcarries.session hstate]
      exact hrecorded
    · rw [← hcarries.turn hstate]
      exact hrecorded
  · refine ⟨fun hrecorded => ?_, fun hrecorded => ?_⟩
    · rw [hsession] at hrecorded
      cases hrecorded
    · rw [hturn] at hrecorded
      cases hrecorded

theorem finalization_final {later : LimitStore} (hrun : ReflTransGen (Step host) s later) :
    ∀ r ∈ s.finalizations.rows, r ∈ later.finalizations.rows ∧ ∀ r' ∈ later.finalizations.rows, r'.taskId = r.taskId → r' = r := by
  intro r hr
  have hkept : r ∈ later.finalizations.rows := by
    induction hrun with
    | refl => exact hr
    | tail _ hstep ih => exact hstep.finalizations r ih
  refine ⟨hkept, fun r' hr' htask => ?_⟩
  have hkey : Table.IsKey FinalizationRow.clash (·.taskId) := fun a b h => by simp [FinalizationRow.clash, h]
  exact Table.eq_of_key hkey hr' hkept htask

/-- The final repair closes the review of a task. In every run a task has one finalization, which stays; and where every
finalization is written while no Supervisor attempt of its task is prepared, no Supervisor attempt of a finalized task
records a session or a turn. -/
theorem final_repair_closes_review (hstart : start.finalizations.rows = []) :
    (∀ s later, ReflTransGen (Step host) start s → ReflTransGen (Step host) s later →
      ∀ r ∈ s.finalizations.rows, r ∈ later.finalizations.rows ∧ ∀ r' ∈ later.finalizations.rows, r'.taskId = r.taskId → r' = r) ∧
    ∀ s s', ReflTransGen (fun a b => Step host a b ∧ Quiesced a b) start s → Step host s s' → Quiet s s' := by
  refine ⟨fun s later _ hlater => finalization_final hlater, fun s s' hrun hstep => ?_⟩
  exact (Closed.run hstart hrun).quiet hstep

end Run

/-! ## A repair in the last round -/

namespace Sample

open Provider.Sample (identity lease digest text)

/-- Two rounds, the last of them converging. -/
def limited : RuntimeBinding where
  resolvedDigest := digest 1
  workerProfileIdentity := digest 2
  supervisorProfileIdentities := [digest 3]
  reviewCompleteRounds := 1
  reviewMaxRounds := 2
  reviewMaxSupervisorAttemptsPerRound := 1
  reviewOnFinalFindings := "worker-final-repair-then-merge"
  reviewPolicyDigest := text 9
  profiles := Provider.Sample.runtime.profiles
  reviewPolicy := .inr (by decide +kernel)

def candidate : String := (Hex.ofNat 40 1).text
def reviewed : String := (Hex.ofNat 40 2).text

def request : FinalizationRequest := ⟨text 20, text 21, candidate, "worker", limited⟩

def review : DiffReviewDispatch :=
  ⟨"review", "implementation", "reviewer", "reviewing", "round", "message", identity.baseSha, reviewed, text 11,
    text 12, 1, (digest 3).text, ⟨0, 2, .converging, 1, 2, 1, text 9⟩, 0, 2⟩

def repair : ImplementationDispatch :=
  ⟨"repair", "repairer", "plan", "accepted", "worker", "turn", text 13, some "review", some reviewed, ["finding"]⟩

/-- The findings of the last round are repaired, and nothing is finalized. -/
def start : LimitStore where
  reviews :=
    { provider :=
        { Provider.Sample.start with
          ledger := { Provider.Sample.start.ledger with runtimeBindings := ⟨[limited.columns "task"], by simp⟩ }
          reviewPolicies := ⟨[limited.reviewPolicyColumns "task"], by simp⟩ }
      plans := .empty
      planContents := .empty
      planFindings := .empty
      submittedPlans := .empty
      acceptedPlans := .empty
      doneCriteria := .empty
      planReviews := .empty
      planReviewArtifacts := .empty
      planReviewRoutes := .empty
      implementations := ⟨[⟨"task", repair, .recorded⟩], by simp⟩
      candidates := ⟨[⟨"task", ⟨"repair", identity.baseSha, candidate, text 21, text 22⟩⟩], by simp⟩
      verifications := .empty
      diffReviews := ⟨[⟨"task", review, .recorded, none, 1⟩], by simp⟩
      diffArtifacts := ⟨[⟨"review", "task", .findings, ["finding"], [], text 20⟩], by simp⟩
      repairRoutes := ⟨[⟨"review", "task", "worker", ["finding"], some "repair", none⟩], by simp⟩
      reviewItems := .empty
      provenance := .empty }
  finalizations := .empty

/-- An attempt that a review has accepted. -/
def acceptedAttempt : AttemptRow where
  attemptId := "reviewer"
  taskId := "task"
  role := .supervisor
  attemptNumber := 1
  processLeaseId := "process"
  processLeaseExpiresAt := 50
  sessionIdentity := some "reviewing"
  externalTurnIdentity := some "round"
  inputFingerprint := text 1
  outputPointer := some "output"
  completionEvidenceFingerprint := some (text 2)
  acceptedReviewIdentity := some "review"
  state := .accepted
  selectedProfileIdentity := (Provider.Sample.digest 3).text
  logicalProfilePosition := 0
  physicalFormatOutputOrdinal := 0

/-- The start, after an accepted review. -/
def attended : LimitStore :=
  { start with reviews :=
    { start.reviews with provider := { start.reviews.provider with providerAttempts := ⟨[acceptedAttempt], by simp⟩ } } }

def finalized (s : LimitStore) : LimitStore := (recordReviewLimitFinalization .sample identity request (some lease) 10 s).2

/-- A provider operation that leaves the reviews alone. -/
def after (call : Provider.Call) (s : LimitStore) : LimitStore :=
  { s with reviews := { s.reviews with provider := (call.run .sample s.providerView).2 } }

def supervisor : RecoveryContext :=
  ⟨"task", text 1, text 2, text 3, text 4, none, none, text 5, text 6, limited, some (Hex.ofNat 40 1).text, some "case",
    some ⟨.ofNat 40 1, none, "case", digest 4, 2, limited, .supervisor, digest 3, digest 5, true, 0, 100⟩⟩

def prepared : LimitStore :=
  after (.prepare identity supervisor ⟨"attempt", .supervisor, "process", 50, text 7, none, 0, 0, none, none⟩ (some lease) 10) start

def opened : LimitStore := after (.session identity supervisor "attempt" "session" (some lease) 10) (finalized prepared)

/-- What is said of an attempt. -/
def sessions (s : LimitStore) : List (String × ProviderRole × String × Option String) :=
  s.attempts.map fun r => (r.taskId, r.role, r.attemptId, r.sessionIdentity)

theorem course :
    (finalized attended).finalizations.rows.map (·.taskId) = ["task"] ∧
    sessions (finalized attended) = [("task", .supervisor, "reviewer", some "reviewing")] ∧
    (finalized prepared).finalizations.rows.map (·.taskId) = ["task"] ∧
    sessions (finalized prepared) = [("task", .supervisor, "attempt", none)] ∧
    sessions opened = [("task", .supervisor, "attempt", some "session")] := by
  decide +kernel

theorem step_finalized (s : LimitStore) : Step .sample s (finalized s) := .finalize identity request (some lease) 10 rfl

theorem step_after (call : Provider.Call) (s : LimitStore) : Step .sample s (after call s) := .call call rfl rfl

theorem mem_finalized {s : LimitStore} (h : (finalized s).finalizations.rows.map (·.taskId) = ["task"]) :
    ∃ r ∈ (finalized s).finalizations.rows, r.taskId = "task" := by
  have hmem : "task" ∈ (finalized s).finalizations.rows.map (·.taskId) := by
    rw [h]
    exact List.mem_cons_self
  exact List.mem_map.1 hmem

end Sample

/-- Whatever is done after the finalization, the accepted attempt keeps the session and the turn it has. -/
theorem final_repair_closes_review_unattended :
    (∃ r ∈ (Sample.finalized Sample.attended).finalizations.rows, r.taskId = "task") ∧
    Sample.sessions (Sample.finalized Sample.attended) = [("task", .supervisor, "reviewer", some "reviewing")] ∧
    ∀ s', Step .sample (Sample.finalized Sample.attended) s' → Quiet (Sample.finalized Sample.attended) s' := by
  refine ⟨Sample.mem_finalized Sample.course.1, Sample.course.2.1, fun s' hstep => ?_⟩
  have hquiesced : Quiesced Sample.attended (Sample.finalized Sample.attended) := by
    intro r _ _ a ha _ _
    rw [List.mem_singleton.1 ha]
    decide
  exact (final_repair_closes_review rfl).2 _ _ (.single ⟨Sample.step_finalized _, hquiesced⟩) hstep

/-- A Supervisor attempt that was prepared before the finalization opens its session after it. -/
theorem final_repair_leaves_review_open :
    ¬ ∀ (host : Host) (start s s' : LimitStore), start.finalizations.rows = [] → ReflTransGen (Step host) start s →
    Step host s s' →
      Quiet s s' := by
  intro hclaim
  obtain ⟨-, -, hfinalized, hbefore, hafter⟩ := Sample.course
  have hrun : ReflTransGen (Step .sample) Sample.start (Sample.finalized Sample.prepared) :=
    .tail (.single (Sample.step_after _ _)) (Sample.step_finalized _)
  have hquiet := hclaim .sample Sample.start _ _ rfl hrun (Sample.step_after _ _ : Step .sample _ Sample.opened)
  obtain ⟨r, hr, htask⟩ := Sample.mem_finalized hfinalized
  have hopened : ("task", ProviderRole.supervisor, "attempt", some "session") ∈ Sample.sessions Sample.opened := by
    rw [hafter]
    exact List.mem_cons_self
  obtain ⟨b, hb, hcolumns⟩ := List.mem_map.1 hopened
  simp only [Prod.mk.injEq] at hcolumns
  obtain ⟨hbtask, hbrole, hbid, hbsession⟩ := hcolumns
  obtain ⟨a, ha, -, hasession⟩ := (hquiet r hr b hb (hbtask.trans htask.symm) hbrole "session").1 hbsession
  have hmem : (a.taskId, a.role, a.attemptId, a.sessionIdentity) ∈ Sample.sessions (Sample.finalized Sample.prepared) :=
    List.mem_map_of_mem ha
  rw [hbefore, List.mem_singleton, hasession] at hmem
  simp at hmem

end Roundwright.Review
