/-
Findings that send a task back: a rejected plan returns from plan review to planning, a diff review
with findings returns the task from diff review to implementing. Both write the transition log in the
transaction that keeps their own evidence, so they are modelled with the plan and review tables.
-/
import Roundwright.State.Lifecycle

namespace Roundwright.State

open Lib

/-! ## Tables -/

/-- `PlanAttemptState` -/
inductive PlanAttemptState where
  | dispatched | recorded | ownerBlocked
deriving DecidableEq

/-- The columns of `worker_plan_attempts` that routing reads. -/
structure PlanAttemptRow where
  planAttemptId : String
  taskId : String
  state : PlanAttemptState

def PlanAttemptRow.clash (a b : PlanAttemptRow) : Bool := a.planAttemptId == b.planAttemptId

/-- `worker_plan_artifacts` -/
structure PlanArtifactRow where
  planAttemptId : String
  taskId : String
  contentDigest : String

def PlanArtifactRow.clash (a b : PlanArtifactRow) : Bool := a.planAttemptId == b.planAttemptId

/-- `submitted_plan_reviews` -/
structure SubmittedPlanRow where
  taskId : String
  planAttemptId : String
  planDigest : String
deriving DecidableEq

def SubmittedPlanRow.clash (a b : SubmittedPlanRow) : Bool :=
  a.taskId == b.taskId || a.planAttemptId == b.planAttemptId

/-- `worker_plan_findings` -/
structure PlanFindingRow where
  findingId : String
  taskId : String
  planAttemptId : String
  findingDigest : String
  createdAt : Int

def PlanFindingRow.clash (a b : PlanFindingRow) : Bool := a.findingId == b.findingId

/-- `DiffReviewVerdict` -/
inductive DiffReviewVerdict where
  | pass | findings
deriving DecidableEq

/-- `diff_review_artifacts` -/
structure DiffArtifactRow where
  diffReviewAttemptId : String
  taskId : String
  verdict : DiffReviewVerdict
  findings : List String
  passFollowUps : List String
  contentDigest : String

def DiffArtifactRow.clash (a b : DiffArtifactRow) : Bool := a.diffReviewAttemptId == b.diffReviewAttemptId

/-- The columns of `diff_review_routes` that recording writes. -/
structure DiffRouteRow where
  diffReviewAttemptId : String
  taskId : String
  workerThreadIdentity : String
  findingIds : List String

def DiffRouteRow.clash (a b : DiffRouteRow) : Bool := a.diffReviewAttemptId == b.diffReviewAttemptId

/-- The columns of `diff_review_attempts` that recording reads and writes. -/
structure DiffAttemptRow where
  diffReviewAttemptId : String
  recorded : Bool
  createdAt : Int

def DiffAttemptRow.clash (a b : DiffAttemptRow) : Bool := a.diffReviewAttemptId == b.diffReviewAttemptId

/-- The ledger with the plan and review tables; `workerThread` is the thread column of
`implementation_attempts`. -/
structure Workspace where
  ledger : Ledger
  planAttempts : Table PlanAttemptRow.clash
  planArtifacts : Table PlanArtifactRow.clash
  submittedPlans : Table SubmittedPlanRow.clash
  planFindings : Table PlanFindingRow.clash
  diffAttempts : Table DiffAttemptRow.clash
  diffArtifacts : Table DiffArtifactRow.clash
  diffRoutes : Table DiffRouteRow.clash
  workerThread : String → Option String

/-! ## Rejected plans -/

/-- `_require_current_lease`, on a lease that may be missing. -/
def requireLease (l : Ledger) (lease : Option TransitionLease) (repositoryId : String) (observed : Int) :
    Except Error Unit := do
  let lease ← demand lease (.gitIdentity "a current transition lease is required")
  requireCurrentLease l lease repositoryId observed

/-- `_text` -/
def planText (value name : String) : Except Error String := do
  let normalized := collapseSpaces value
  refuse (normalized = "" ∨ 2000 < normalized.length) (.workerPlanning (name ++ " is invalid"))
  return normalized

/-- `_items`: the distinct normalized texts in order. -/
def planItems (values : List String) (name : String) : Except Error (List String) := do
  let texts ← values.mapM fun value => planText value name
  let normalized := sortBy id texts.dedup
  refuse (normalized = []) (.workerPlanning (name ++ " must not be empty"))
  return normalized

/-- The identifier of one finding. -/
def findingIdentifier (host : Host) (taskId planAttemptId finding : String) : String :=
  let inner := (host.digestJson (.obj [("finding", .str finding)])).text
  let digest := (host.digestJson (.obj [("task", .str taskId), ("plan", .str planAttemptId), ("finding", .str inner)])).text
  "finding-" ++ String.ofList (digest.toList.take 24)

/-- `_finding_identifiers` -/
def findingIdentifiers (host : Host) (taskId planAttemptId : String) (findings : List String) : List String × String :=
  let identifiers := findings.map (findingIdentifier host taskId planAttemptId)
  (identifiers, (host.digestJson (.obj [("task", .str taskId), ("plan", .str planAttemptId),
    ("findings", .arr (identifiers.map .str))])).text)

/-- The replay branch of `route_plan_findings`: the findings and their transition are committed. -/
def requireRoutedFindings (w : Workspace) (taskId planAttemptId : String) (identifiers : List String)
    (evidence : String) : Except Error Unit := do
  let rows := w.planFindings.rows.filter fun r => r.taskId = taskId ∧ r.planAttemptId = planAttemptId
  refuse (sortBy id (rows.map (·.findingId)) ≠ sortBy id identifiers)
    (.workerPlanning "planning state does not retain the exact routed findings")
  refuse (evidenceCommitted w.ledger taskId evidence = false)
    (.workerPlanning "planning state is not a committed findings-routing replay")

/-- The review target checks of `route_plan_findings`. -/
def requireReviewTarget (w : Workspace) (taskId planAttemptId : String) : Except Error Unit := do
  let attempt ← demand (w.planAttempts.rows.find? fun r => r.planAttemptId = planAttemptId ∧ r.taskId = taskId)
    (.workerPlanning "plan attempt does not match the task")
  refuse (attempt.state ≠ .recorded) (.workerPlanning "plan attempt is not in the required state")
  let target := w.submittedPlans.rows.find? fun r => r.taskId = taskId
  let artifact := w.planArtifacts.rows.find? fun r => r.planAttemptId = planAttemptId ∧ r.taskId = taskId
  refuse (target.map (fun r => (r.planAttemptId, some r.planDigest)) ≠
      some (planAttemptId, artifact.map (·.contentDigest)))
    (.workerPlanning "plan findings do not match the submitted review target")

/-- The findings loop of `route_plan_findings`. -/
def recordPlanFindings (host : Host) (taskId planAttemptId : String) (observed : Int) :
    List (String × String) → Workspace → Except Error Workspace
  | [], w => .ok w
  | (finding, findingId) :: rest, w => do
    let digest := (host.digestJson (.obj [("finding", .str finding)])).text
    match w.planFindings.rows.find? fun r => r.findingId = findingId with
    | none => do
      let planFindings ← demand (w.planFindings.insert? ⟨findingId, taskId, planAttemptId, digest, observed⟩) .integrity
      recordPlanFindings host taskId planAttemptId observed rest { w with planFindings }
    | some row => do
      refuse ((row.taskId, row.planAttemptId, row.findingDigest) ≠ (taskId, planAttemptId, digest))
        (.workerPlanning "plan finding identity conflicts with committed state")
      recordPlanFindings host taskId planAttemptId observed rest w

/-- The branch of `route_plan_findings` that moves the task. -/
def reopenPlanning (host : Host) (identity : TaskIdentity) (planAttemptId : String) (findings identifiers : List String)
    (evidence : String) (observed : Int) : Tx Error Workspace Unit := do
  Tx.query fun w => requireReviewTarget w identity.taskId planAttemptId
  Tx.write (recordPlanFindings host identity.taskId planAttemptId observed (findings.zip identifiers))
  Tx.query fun w => refuse (evidenceCommitted w.ledger identity.taskId evidence)
    (.workerPlanning "findings-routing evidence has already been committed")
  Tx.write fun w => do
    let ledger ← recordTransition identity.taskId .planReview .planning evidence w.ledger
    return { w with ledger, submittedPlans := w.submittedPlans.keep fun r => r.taskId ≠ identity.taskId }

def routePlanFindings (host : Host) (identity : TaskIdentity) (planAttemptId : String) (findings : List String)
    (lease : Option TransitionLease) (now : Int) : Tx Error Workspace (List String) := do
  Tx.check (refuse (isLeaseToken planAttemptId = false) (.workerPlanning "plan attempt identity is invalid"))
  let normalized ← Tx.check (planItems findings "plan findings")
  Tx.check (refuse (now ≤ 0) (.workerPlanning "planning clock is invalid"))
  Tx.query fun w => requireLease w.ledger lease identity.repositoryId now
  let state ← Tx.query fun w => requireMatchingTask host w.ledger identity none
  let (identifiers, findingsDigest) := findingIdentifiers host identity.taskId planAttemptId normalized
  let evidence := (host.digestJson (.obj [("event", .str "plan-revision-open"), ("target", .str planAttemptId),
    ("findings", .str findingsDigest)])).text
  match state with
  | .planning => do
    Tx.query fun w => requireRoutedFindings w identity.taskId planAttemptId identifiers evidence
    return identifiers
  | .planReview => do
    reopenPlanning host identity planAttemptId normalized identifiers evidence now
    return identifiers
  | _ => Tx.check (.error (.workerPlanning "plan findings require the submitted plan-review state"))

/-! ## Diff reviews with findings -/

/-- What `record_diff_review` takes from its dispatch and its normalized output. -/
structure DiffReviewInput where
  diffReviewAttemptId : String
  implementationAttemptId : String
  candidateSha : String
  verdict : DiffReviewVerdict
  findings : List String
  passFollowUps : List String
  boundOutputDigest : String

/-- What the checks outside the lifecycle tables returned: everything before the product transaction
opens, the recovery scope, the authenticated dispatch, the canonical review items, and everything after
the product transaction has committed. -/
structure DiffReviewChecks where
  before : Except Error Unit
  scope : Except Error Unit
  dispatch : Except Error Unit
  reviewItems : Except Error Unit
  after : Except Error Unit

/-- The artifact part of the product transaction. -/
def recordDiffArtifact (taskId : String) (input : DiffReviewInput) (w : Workspace) : Except Error Workspace :=
  let expected : DiffArtifactRow := ⟨input.diffReviewAttemptId, taskId, input.verdict, input.findings,
    input.passFollowUps, input.boundOutputDigest⟩
  match w.diffArtifacts.rows.find? fun r => r.diffReviewAttemptId = input.diffReviewAttemptId with
  | none => do
    let diffArtifacts ← demand (w.diffArtifacts.insert? expected) .integrity
    return { w with
      diffArtifacts
      diffAttempts := w.diffAttempts.update
        (fun r => if r.diffReviewAttemptId = input.diffReviewAttemptId then { r with recorded := true } else r) fun a b => by
        dsimp only [DiffAttemptRow.clash]; split <;> split <;> rfl }
  | some row => do
    refuse ((row.verdict, row.findings, row.passFollowUps, row.contentDigest) ≠
      (expected.verdict, expected.findings, expected.passFollowUps, expected.contentDigest))
      (.candidateReview "diff review output conflicts with committed content")
    return w

/-- The identifier of one diff finding. -/
def diffFindingId (host : Host) (taskId candidateSha finding : String) : String :=
  let digest := (host.digestJson (.obj [("task", .str taskId), ("candidate", .str candidateSha), ("finding", .str finding)])).text
  "diff-finding-" ++ String.ofList (digest.toList.take 24)

/-- The route part of the product transaction. -/
def recordDiffRoute (host : Host) (taskId : String) (input : DiffReviewInput) (w : Workspace) : Except Error Workspace := do
  let thread ← demand (w.workerThread input.implementationAttemptId)
    (.candidateReview "review target Worker thread is unavailable")
  let ids := input.findings.map (diffFindingId host taskId input.candidateSha)
  match w.diffRoutes.rows.find? fun r => r.diffReviewAttemptId = input.diffReviewAttemptId with
  | none => do
    let diffRoutes ← demand (w.diffRoutes.insert? ⟨input.diffReviewAttemptId, taskId, thread, ids⟩) .integrity
    return { w with diffRoutes }
  | some row => do
    refuse ((row.workerThreadIdentity, row.findingIds) ≠ (thread, ids))
      (.candidateReview "diff review findings route conflicts with committed state")
    return w

/-- The FINDINGS branch of the product transaction: route, review items and transition. -/
def routeDiffFindings (host : Host) (identity : TaskIdentity) (input : DiffReviewInput) (checks : DiffReviewChecks) :
    Tx Error Workspace Unit := do
  Tx.write (recordDiffRoute host identity.taskId input)
  Tx.query fun w => refuse (w.diffAttempts.rows.all fun r => r.diffReviewAttemptId ≠ input.diffReviewAttemptId)
    (.candidateReview "diff review timestamp is unavailable")
  Tx.check checks.reviewItems
  Tx.query fun w => refuse (evidenceCommitted w.ledger identity.taskId input.boundOutputDigest)
    (.candidateReview "diff review transition evidence has already been committed")
  Tx.query fun w => refuse ((w.ledger.task? identity.taskId).all (·.blockedFromState ≠ none))
    (.candidateReview "diff review findings transition is unavailable")
  Tx.query fun w => refuse ((w.ledger.task? identity.taskId).all (·.state ≠ .diffReview))
    (.candidateReview "diff review findings transition is unavailable")
  Tx.write fun w => do
    let ledger ← recordTransition identity.taskId .diffReview .implementing input.boundOutputDigest w.ledger
    return { w with ledger }

/-- The product transaction of `record_diff_review`. -/
def recordDiffReviewBody (host : Host) (identity : TaskIdentity) (input : DiffReviewInput)
    (lease : Option TransitionLease) (now : Int) (checks : DiffReviewChecks) : Tx Error Workspace Unit := do
  Tx.query fun w => requireLease w.ledger lease identity.repositoryId now
  let _ ← Tx.query fun w => requireMatchingTask host w.ledger identity (some .diffReview)
  match input.verdict with
  | .findings => do
    Tx.check checks.scope
    Tx.check checks.dispatch
    Tx.write (recordDiffArtifact identity.taskId input)
    routeDiffFindings host identity input checks
  | .pass => Tx.write (recordDiffArtifact identity.taskId input)

/-- `record_diff_review`: what happens before the product transaction can stop it, what happens after
can raise and no longer undo it. -/
def recordDiffReview (host : Host) (identity : TaskIdentity) (input : DiffReviewInput) (lease : Option TransitionLease)
    (now : Int) (checks : DiffReviewChecks) (w : Workspace) : Except Error Unit × Workspace :=
  match checks.before with
  | .error e => (.error e, w)
  | .ok () =>
    match transaction (recordDiffReviewBody host identity input lease now checks) w with
    | (.ok (), w') => (checks.after, w')
    | (.error e, w') => (.error e, w')

end Roundwright.State
