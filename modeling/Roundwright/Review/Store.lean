/-
The planning and review tables over the provider tables: plans with their findings and reviews, implementations with
their candidates, and the reviews of candidates with the findings they route. The provider operations see the review
tables through the few columns they read, and findings of a plan are routed through the columns of the
transition log's own model.
-/
import Roundwright.Lib.Script
import Roundwright.Final.Decision
import Roundwright.Provider.Recover

namespace Roundwright.Review

open Lib State Recovery Provider

/-! ## Plans -/

inductive PlanAttemptKind where
  | initial | revision

/-- `PlanningInput` -/
structure PlanningInput where
  taskSummary : String
  nonGoals : List String
  acceptanceCriteria : List String
  expectedFiles : List String
  testPlan : List String
  risks : List String
  recoveryNotes : List String

/-- `WorkerPlan` -/
structure WorkerPlan extends PlanningInput where
  trueBlockers : List String

/-- The columns of `worker_plan_attempts` a replayed dispatch must repeat. -/
structure PlanDispatchColumns where
  providerAttemptId : String
  workerThreadIdentity : String
  sourceDigest : String
  inputDigest : String
  taskSummary : String
  parentPlanAttemptId : Option String
  kind : PlanAttemptKind
  revisionFindingsDigest : String
  externalTurnIdentity : String
  processLeaseId : String
  processLeaseExpiresAt : Int
  contextDigest : String

/-- `worker_plan_attempts` -/
structure PlanRow where
  planAttemptId : String
  taskId : String
  columns : PlanDispatchColumns
  state : PlanAttemptState
  ownerBlockerDigest : String

def PlanRow.clash (a b : PlanRow) : Bool :=
  a.planAttemptId == b.planAttemptId || a.columns.providerAttemptId == b.columns.providerAttemptId

/-- `worker_plan_artifacts`, the JSON text of the plan kept as the plan. -/
structure PlanContentRow where
  planAttemptId : String
  taskId : String
  plan : WorkerPlan
  contentDigest : String

def PlanContentRow.clash (a b : PlanContentRow) : Bool := a.planAttemptId == b.planAttemptId

/-- `accepted_plan_reviews` -/
structure AcceptedPlanRow where
  taskId : String
  planAttemptId : String
  reviewIdentity : String
  reviewDigest : String

def AcceptedPlanRow.clash (a b : AcceptedPlanRow) : Bool :=
  a.taskId == b.taskId || a.planAttemptId == b.planAttemptId || a.reviewIdentity == b.reviewIdentity

/-- `deterministic_done_criteria` -/
structure DoneCriteriaRow where
  taskId : String
  planAttemptId : String
  criteria : List String
  criteriaDigest : String

def DoneCriteriaRow.clash (a b : DoneCriteriaRow) : Bool := a.taskId == b.taskId || a.planAttemptId == b.planAttemptId

/-! ## Reviews of plans -/

inductive PlanReviewVerdict where
  | pass | findings

inductive PlanReviewState where
  | dispatched | recorded | invalidated
deriving DecidableEq

/-- `PlanReviewDispatch` -/
structure PlanReviewDispatch where
  reviewAttemptId : String
  providerAttemptId : String
  supervisorSessionIdentity : String
  externalTurnIdentity : String
  planAttemptId : String
  sourceDigest : String
  planDigest : String
  inputDigest : String

/-- `plan_review_attempts` -/
structure PlanReviewAttemptRow where
  taskId : String
  dispatch : PlanReviewDispatch
  state : PlanReviewState
  createdAt : Int

def PlanReviewAttemptRow.clash (a b : PlanReviewAttemptRow) : Bool :=
  a.dispatch.reviewAttemptId == b.dispatch.reviewAttemptId || a.dispatch.providerAttemptId == b.dispatch.providerAttemptId

/-- The columns of `plan_review_artifacts` a replay must repeat, their JSON texts kept as lists. -/
structure PlanReviewContent where
  verdict : PlanReviewVerdict
  findings : List String
  missingTests : List String
  ambiguousCriteria : List String
  residualRisks : List String
  passFollowUps : List String
  contentDigest : String

structure PlanReviewArtifactRow where
  reviewAttemptId : String
  taskId : String
  content : PlanReviewContent

def PlanReviewArtifactRow.clash (a b : PlanReviewArtifactRow) : Bool := a.reviewAttemptId == b.reviewAttemptId

/-- `plan_review_routes` -/
structure PlanReviewRouteRow where
  reviewAttemptId : String
  taskId : String
  planAttemptId : String
  workerThreadIdentity : String
  findingIds : List String

def PlanReviewRouteRow.clash (a b : PlanReviewRouteRow) : Bool := a.reviewAttemptId == b.reviewAttemptId

/-! ## Implementations -/

/-- `ImplementationDispatch` -/
structure ImplementationDispatch where
  implementationAttemptId : String
  providerAttemptId : String
  planAttemptId : String
  acceptedPlanReviewIdentity : String
  workerThreadIdentity : String
  externalTurnIdentity : String
  inputDigest : String
  repairDiffReviewId : Option String
  repairCandidateSha : Option String
  routedFindingIds : List String

/-- `implementation_attempts` -/
structure ImplementationAttemptRow where
  taskId : String
  dispatch : ImplementationDispatch
  state : ImplementationState

def ImplementationAttemptRow.clash (a b : ImplementationAttemptRow) : Bool :=
  a.dispatch.implementationAttemptId == b.dispatch.implementationAttemptId || a.dispatch.providerAttemptId ==
    b.dispatch.providerAttemptId

/-- `implementation_candidates` -/
structure CandidateRow where
  taskId : String
  candidate : ImplementationCandidateRow

def CandidateRow.clash (a b : CandidateRow) : Bool :=
  a.candidate.implementationAttemptId == b.candidate.implementationAttemptId ||
    (a.taskId == b.taskId && a.candidate.candidateSha == b.candidate.candidateSha)

inductive VerificationKind where
  | test | build

inductive VerificationOutcome where
  | pass | notApplicable

/-- `CandidateVerification` -/
structure CandidateVerification where
  verificationId : String
  kind : VerificationKind
  outcome : VerificationOutcome
  evidenceFingerprint : String
  justification : String

/-- `candidate_verifications` -/
structure VerificationRow where
  taskId : String
  candidateSha : String
  verification : CandidateVerification

def VerificationRow.clash (a b : VerificationRow) : Bool :=
  a.taskId == b.taskId && a.candidateSha == b.candidateSha && a.verification.verificationId == b.verification.verificationId

/-! ## Reviews of candidates -/

inductive ReviewMode where
  | complete | converging
deriving DecidableEq

/-- `_ReviewPolicyProjection`; there is one policy on final findings. -/
structure ReviewPolicyProjection where
  reviewEpoch : Int
  reviewRound : Int
  reviewMode : ReviewMode
  completeRounds : Int
  maxRounds : Int
  maxSupervisorAttemptsPerRound : Int
  policyDigest : String

/-- `DiffReviewDispatch` -/
structure DiffReviewDispatch where
  diffReviewAttemptId : String
  implementationAttemptId : String
  providerAttemptId : String
  supervisorSessionIdentity : String
  externalTurnIdentity : String
  messageIdentity : String
  baseSha : String
  candidateSha : String
  verificationDigest : String
  inputDigest : String
  withinRoundAttempt : Int
  selectedProfileIdentity : String
  reviewPolicy : ReviewPolicyProjection
  physicalFormatOutputOrdinal : Int
  digestVersion : Nat

/-- `diff_review_attempts` with its row of `diff_review_digest_versions`. -/
structure DiffReviewAttemptRow where
  taskId : String
  dispatch : DiffReviewDispatch
  state : DiffReviewState
  acceptedReviewIdentity : Option String
  createdAt : Int

def DiffReviewAttemptRow.clash (a b : DiffReviewAttemptRow) : Bool :=
  a.dispatch.diffReviewAttemptId == b.dispatch.diffReviewAttemptId || a.dispatch.providerAttemptId ==
    b.dispatch.providerAttemptId || a.dispatch.supervisorSessionIdentity == b.dispatch.supervisorSessionIdentity

/-- The claim of a findings route by the dispatch of its repair. -/
structure RepairClaim where
  implementationAttemptId : String
  providerAttemptId : String
  externalTurnIdentity : String
  ownerToken : String

/-- `diff_review_routes`; the four columns of the claim are set and cleared together. -/
structure RepairRouteRow where
  diffReviewAttemptId : String
  taskId : String
  workerThreadIdentity : String
  findingIds : List String
  consumedBy : Option String
  claim : Option RepairClaim

def RepairRouteRow.clash (a b : RepairRouteRow) : Bool := a.diffReviewAttemptId == b.diffReviewAttemptId

/-! ## Review items -/

/-- `review_item_provenance` -/
structure ProvenanceRow where
  itemId : String
  taskId : String
  candidateSha : String
  reviewIdentity : String
  source : Final.ReviewItemSource
  sourceAttemptId : String

def ProvenanceRow.clash (a b : ProvenanceRow) : Bool :=
  a.itemId == b.itemId && a.reviewIdentity == b.reviewIdentity && a.source == b.source && a.sourceAttemptId == b.sourceAttemptId

/-! ## The store -/

/-- The database. What `provider` holds of the review tables is not read: `Store.providerView` gives its operations the
rows of the tables here. -/
structure Store where
  provider : Recovery.Store
  plans : Table PlanRow.clash
  planContents : Table PlanContentRow.clash
  planFindings : Table PlanFindingRow.clash
  submittedPlans : Table SubmittedPlanRow.clash
  acceptedPlans : Table AcceptedPlanRow.clash
  doneCriteria : Table DoneCriteriaRow.clash
  planReviews : Table PlanReviewAttemptRow.clash
  planReviewArtifacts : Table PlanReviewArtifactRow.clash
  planReviewRoutes : Table PlanReviewRouteRow.clash
  implementations : Table ImplementationAttemptRow.clash
  candidates : Table CandidateRow.clash
  verifications : Table VerificationRow.clash
  diffReviews : Table DiffReviewAttemptRow.clash
  diffArtifacts : Table DiffArtifactRow.clash
  repairRoutes : Table RepairRouteRow.clash
  reviewItems : Table Final.ReviewItemRow.clash
  provenance : Table ProvenanceRow.clash

/-! ## Views of the tables -/

def PlanReviewAttemptRow.review (r : PlanReviewAttemptRow) : PlanReviewRow :=
  ⟨r.dispatch.reviewAttemptId, r.taskId, r.dispatch.providerAttemptId⟩

def DiffReviewAttemptRow.review (r : DiffReviewAttemptRow) : DiffReviewRow :=
  ⟨r.dispatch.diffReviewAttemptId, r.taskId, r.dispatch.providerAttemptId, r.state, r.acceptedReviewIdentity⟩

def ImplementationAttemptRow.implementation (r : ImplementationAttemptRow) : ImplementationRow :=
  ⟨r.dispatch.implementationAttemptId, r.taskId, r.dispatch.providerAttemptId, r.dispatch.workerThreadIdentity,
    r.dispatch.externalTurnIdentity, r.state, r.dispatch.repairCandidateSha⟩

namespace Store

variable (s : Store)

def ledger : Ledger := s.provider.ledger

/-- What the provider operations see. -/
def providerView : Recovery.Store :=
  { s.provider with
    planReviews := s.planReviews.rows.map PlanReviewAttemptRow.review
    diffReviews := s.diffReviews.rows.map DiffReviewAttemptRow.review
    implementations := s.implementations.rows.map ImplementationAttemptRow.implementation
    implementationCandidates := s.candidates.rows.map CandidateRow.candidate }

end Store

end Roundwright.Review
