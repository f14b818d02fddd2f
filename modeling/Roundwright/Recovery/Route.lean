/-
Recovery routes. A failure that allows a fallback gives out a route, which is spent on one successor: it is
fenced for a reservation, consumed once the successor is admitted, and given back only while no successor
can be seen. Every operation is one transaction of its own.
-/
import Roundwright.Recovery.Denial

namespace Roundwright.Recovery

open Lib State

variable (host : Host)

/-! ## Reads -/

/-- `_route_payload` -/
def routePayload (recordDigest : Digest) (binding : FailureBinding)
    (targetProfileDigest targetRouteDigest coordinateDigest remainingBudgetDigest : Digest) : Json :=
  .obj [("schema", .str "roundwright-durable-recovery-route/v1"), ("record_digest", .digest recordDigest),
    ("binding", binding.payload), ("target_role", .str binding.role.value),
    ("target_profile_digest", .digest targetProfileDigest), ("target_route_digest", .digest targetRouteDigest),
    ("coordinate_digest", .digest coordinateDigest), ("remaining_budget_digest", .digest remainingBudgetDigest)]

/-- `_read_route_source` -/
def readRouteSource (s : Store) (identity : TaskIdentity) (recordDigest : Digest) (binding : FailureBinding) :
    Except Error FailureRecord := do
  let record ← demand (s.record? identity.taskId recordDigest) (.failureRecovery "durable recovery route source is unavailable")
  refuse (record.digest host ≠ recordDigest ∨ record.binding ≠ binding)
    (.failureRecovery "durable recovery route source has drifted")
  record.requireFailureCompatibility
  refuse (record.recordSchema ≠ .v3 ∨ record.evidenceConfidence ≠ .verified ∨ record.failure = .unknown)
    (.failureRecovery "durable recovery route requires current verified evidence")
  requireAttemptAdmission host s identity binding
  return record

/-- The route of a task. -/
def Store.taskRoute? (s : Store) (routeDigest : Digest) (taskId : String) : Option RouteRow :=
  s.routes.rows.find? fun r => r.routeDigest = routeDigest ∧ r.taskId = taskId

/-- `provider_successor`: a later attempt of the same role. -/
def Store.providerSuccessor (s : Store) (attemptId taskId : String) : Bool :=
  s.providerAttempts.rows.any fun source => source.attemptId = attemptId ∧ source.taskId = taskId ∧
    s.providerAttempts.rows.any fun target => target.taskId = source.taskId ∧ target.role = source.role ∧
      source.attemptNumber < target.attemptNumber

/-- `dependency_successor` -/
def Store.dependencySuccessor (s : Store) (attemptId : String) : Bool :=
  s.successors.rows.any fun r => r.predecessor.val = attemptId

/-- `_require_no_recovery_successor` -/
def requireNoRecoverySuccessor (s : Store) (identity : TaskIdentity) (authorization : RouteAuthorization) : Except Error Unit := do
  let admitted : Error := .failureRecovery "durable recovery route successor is already admitted"
  refuse (s.successorAdmission? authorization.routeDigest ≠ none) admitted
  refuse (s.dependencySuccessor authorization.binding.attemptIdentity.val ∨
    s.providerSuccessor authorization.binding.attemptIdentity.val identity.taskId) admitted

/-- Whether a route was consumed for a reservation. -/
def RouteState.consumedFor (reservation : Digest) : RouteState → Bool
  | .consumed digest _ => digest = reservation
  | _ => false

/-! ## Writes -/

/-- `UPDATE recovery_route_authorizations SET state = … WHERE route_digest=? AND task_id=? AND …`, unless no row is
updated. -/
def Store.moveRoute (s : Store) (routeDigest : Digest) (taskId : String) (expected : RouteState → Bool) (state : RouteState) :
    Option Store :=
  let selected (r : RouteRow) : Bool := r.routeDigest = routeDigest ∧ r.taskId = taskId ∧ expected r.state
  if s.routes.rows.countP selected = 1 then
    some { s with routes := s.routes.update (fun r => if selected r then { r with state } else r) (by
      intro a b
      split <;> split <;> rfl) }
  else none

/-- The values a caller presents of the target. -/
structure RouteTarget where
  role : FailureRole
  profileDigest : Digest
  routeDigest : Digest
  coordinateDigest : Digest
  remainingBudgetDigest : Digest
deriving DecidableEq

def RouteAuthorization.target (a : RouteAuthorization) : RouteTarget :=
  ⟨a.binding.role, a.targetProfileDigest, a.targetRouteDigest, a.coordinateDigest, a.remainingBudgetDigest⟩

/-- The route is stored under the repository as it is presented. -/
def routeMatches (identity : TaskIdentity) (authorization : RouteAuthorization) (row : RouteRow) : Bool :=
  row.repositoryId = identity.repositoryId ∧ row.toRouteAuthorization = authorization

/-- The transaction of `issue_durable_recovery_route_authorization`. -/
def issueRoute (identity : TaskIdentity) (recordDigest : Digest) (binding : FailureBinding) (target : RouteTarget) :
    Tx Error Store RouteAuthorization := do
  let _ ← Tx.query fun s => requireMatchingTask host s.ledger identity none
  let record ← Tx.query fun s => readRouteSource host s identity recordDigest binding
  Tx.check (refuse (record.action ≠ .preboundFallback ∨ record.retryable = false ∨ target.role ≠ binding.role)
    (.failureRecovery "durable recovery route source is not eligible"))
  Tx.check (refuse (record.failure = .formatInvalid ∧
    (binding.role ≠ .supervisor ∨ target.profileDigest ≠ binding.profileIdentity))
      (.failureRecovery "format correction cannot change profiles"))
  Tx.query fun s => refuse ((s.ledger.task? identity.taskId).map (·.identity.repositoryId) ≠ some identity.repositoryId)
    (.failureRecovery "durable recovery route authority has drifted")
  let authorization : RouteAuthorization :=
    ⟨host.digestValue (routePayload recordDigest binding target.profileDigest target.routeDigest target.coordinateDigest
      target.remainingBudgetDigest), recordDigest, binding, target.profileDigest, target.routeDigest, target.coordinateDigest,
      target.remainingBudgetDigest⟩
  Tx.query fun s => refuse ((s.routes.rows.find? fun r => r.taskId = identity.taskId ∧ r.recordDigest = recordDigest ∧
    r.targetRouteDigest = target.routeDigest).any fun r => r.routeDigest ≠ authorization.routeDigest)
    (.failureRecovery "durable recovery route ordering conflicts")
  Tx.write fun s =>
    match s.route? authorization.routeDigest with
    | none => do
      let routes ← demand (s.routes.insert? ⟨authorization, identity.taskId, identity.repositoryId, .issued⟩) .integrity
      return { s with routes }
    | some row => do
      refuse (row.taskId ≠ identity.taskId ∨ routeMatches identity authorization row = false)
        (.failureRecovery "durable recovery route conflicts")
      return s
  return authorization

/-- The transaction of `consume_durable_recovery_route_authorization`. -/
def consumeRoute (identity : TaskIdentity) (authorization : RouteAuthorization) (reservation : Digest)
    (target : RouteTarget) (observed : Int) : Tx Error Store Unit := do
  let _ ← Tx.query fun s => requireMatchingTask host s.ledger identity none
  Tx.query fun s => refuse (((s.taskRoute? authorization.routeDigest identity.taskId).any fun row =>
      routeMatches identity authorization row ∧ row.state = .issued) = false ∨ target ≠ authorization.target)
    (.failureRecovery "durable recovery route consumption has drifted")
  let _ ← Tx.query fun s => readRouteSource host s identity authorization.recordDigest authorization.binding
  Tx.write fun s => demand (s.moveRoute authorization.routeDigest identity.taskId (· = .issued)
    (.consumed reservation observed)) (.failureRecovery "durable recovery route is already consumed")

/-- The transaction of `begin_durable_recovery_route_reservation`. -/
def beginReservation (identity : TaskIdentity) (authorization : RouteAuthorization) (reservation : Digest) (target : RouteTarget) :
    Tx Error Store Bool := do
  let _ ← Tx.query fun s => requireMatchingTask host s.ledger identity none
  let drifted : Error := .failureRecovery "durable recovery route reservation has drifted"
  let row ← Tx.query fun s => demand (s.taskRoute? authorization.routeDigest identity.taskId) drifted
  Tx.check (refuse (routeMatches identity authorization row = false ∨ target ≠ authorization.target) drifted)
  let _ ← Tx.query fun s => readRouteSource host s identity authorization.recordDigest authorization.binding
  Tx.query fun s => requireScopeOpen host s identity.taskId (authorization.binding.role.value ++ ":" ++ identity.taskId)
  if row.state = .issued then do
    Tx.write fun s => demand (s.moveRoute authorization.routeDigest identity.taskId (· = .issued)
      (.reserving reservation)) (.failureRecovery "durable recovery route reservation is unavailable")
    return true
  else do
    Tx.check (refuse (row.state ≠ .reserving reservation) (.failureRecovery "durable recovery route is already admitted"))
    return false

/-- The end of the two commits: the fenced route is consumed, or was consumed already for the reservation. -/
def commitRoute (identity : TaskIdentity) (authorization : RouteAuthorization) (reservation : Digest) (observed : Int)
    (drifted : Error) (s : Store) : Except Error Store :=
  match s.moveRoute authorization.routeDigest identity.taskId (· = .reserving reservation) (.consumed reservation observed) with
  | some s' => .ok s'
  | none => do
    refuse (((s.taskRoute? authorization.routeDigest identity.taskId).any fun row => row.state.consumedFor reservation) = false)
      drifted
    return s

/-- The transaction of `commit_durable_recovery_route_reservation`. -/
def commitReservation (identity : TaskIdentity) (authorization : RouteAuthorization) (reservation : Digest) (observed : Int) :
    Tx Error Store Unit := do
  let _ ← Tx.query fun s => requireMatchingTask host s.ledger identity none
  let _ ← Tx.query fun s => readRouteSource host s identity authorization.recordDigest authorization.binding
  Tx.write (commitRoute identity authorization reservation observed (.failureRecovery "durable recovery route commit has drifted"))

/-- The transaction of `commit_durable_recovery_route_successor_admission`. -/
def commitSuccessorAdmission (identity : TaskIdentity) (authorization : RouteAuthorization) (reservation : Digest)
    (targetAttemptId : String) (targetRequestDigest : Digest) (observed : Int) : Tx Error Store Unit := do
  let _ ← Tx.query fun s => requireMatchingTask host s.ledger identity none
  let _ ← Tx.query fun s => readRouteSource host s identity authorization.recordDigest authorization.binding
  let drifted : Error := .failureRecovery "durable recovery successor admission has drifted"
  let expected : SuccessorAdmissionRow :=
    ⟨authorization.routeDigest, identity.taskId, identity.repositoryId, reservation, targetAttemptId, targetRequestDigest⟩
  Tx.write fun s =>
    match s.successorAdmission? authorization.routeDigest with
    | none => do
      let successorAdmissions ← demand (s.successorAdmissions.insert? expected) .integrity
      return { s with successorAdmissions }
    | some row => do
      refuse (row ≠ expected) drifted
      return s
  Tx.write (commitRoute identity authorization reservation observed drifted)

/-- The transaction that gives a route back: the route must be stored in the expected state, and no successor
may be seen. `refund` is the answer of the budget ledger when it is asked. -/
def returnRoute (identity : TaskIdentity) (authorization : RouteAuthorization) (expected : RouteState → Bool)
    (refund : Option (Except Error Unit)) (drifted : Error) : Tx Error Store Unit := do
  let _ ← Tx.query fun s => requireMatchingTask host s.ledger identity none
  Tx.query fun s => refuse (((s.taskRoute? authorization.routeDigest identity.taskId).any fun row =>
    expected row.state ∧ routeMatches identity authorization row) = false) drifted
  let _ ← Tx.query fun s => readRouteSource host s identity authorization.recordDigest authorization.binding
  Tx.query fun s => requireNoRecoverySuccessor s identity authorization
  Tx.check (refund.getD (.ok ()))
  Tx.write fun s => demand (s.moveRoute authorization.routeDigest identity.taskId expected .issued) drifted

/-- The transaction of `abandon_durable_recovery_route_reservation`. -/
def abandonReservation (identity : TaskIdentity) (authorization : RouteAuthorization) (reservation : Digest)
    (refund : Option (Except Error Unit)) : Tx Error Store Unit :=
  returnRoute host identity authorization (· = .reserving reservation) refund
    (.failureRecovery "durable recovery route abandonment has drifted")

/-- The transaction of `release_durable_recovery_route_authorization`. -/
def releaseRoute (identity : TaskIdentity) (authorization : RouteAuthorization) (reservation : Digest) : Tx Error Store Unit :=
  returnRoute host identity authorization (RouteState.consumedFor reservation) none
    (.failureRecovery "durable recovery route release has drifted")

/-! ## Calls -/

inductive RouteCall where
  | issue (identity : TaskIdentity) (recordDigest : Digest) (binding : FailureBinding) (target : RouteTarget) (observed : Int)
  | consume (identity : TaskIdentity) (authorization : RouteAuthorization) (reservation : Digest) (target : RouteTarget)
    (observed : Int)
  | beginReservation (identity : TaskIdentity) (authorization : RouteAuthorization) (reservation : Digest) (target : RouteTarget)
  | commitReservation (identity : TaskIdentity) (authorization : RouteAuthorization) (reservation : Digest) (observed : Int)
  | commitSuccessor (identity : TaskIdentity) (authorization : RouteAuthorization) (reservation : Digest)
    (targetAttemptId : String) (targetRequestDigest : Digest) (observed : Int)
  | abandon (identity : TaskIdentity) (authorization : RouteAuthorization) (reservation : Digest)
    (refund : Option (Except Error Unit))
  | release (identity : TaskIdentity) (authorization : RouteAuthorization) (reservation : Digest)

inductive RouteAnswer where
  | issued (authorization : RouteAuthorization)
  | begun (acquired : Bool)
  | done
deriving DecidableEq

/-- The operations on routes, each with the checks of its arguments and its transaction. -/
def RouteCall.run : RouteCall → Store → Except Error RouteAnswer × Store
  | .issue identity recordDigest binding target observed =>
    (Tx.check (refuse (observed ≤ 0) (.failureRecovery "durable recovery route time is invalid")) >>= fun _ =>
      transaction (.issued <$> issueRoute host identity recordDigest binding target) : Tx Error Store RouteAnswer)
  | .consume identity authorization reservation target observed =>
    transaction ((fun _ => .done) <$> consumeRoute host identity authorization reservation target observed)
  | .beginReservation identity authorization reservation target =>
    transaction (.begun <$> Recovery.beginReservation host identity authorization reservation target)
  | .commitReservation identity authorization reservation observed =>
    (Tx.check (refuse (observed ≤ 0) (.failureRecovery "durable recovery route commit is invalid")) >>= fun _ =>
      transaction ((fun _ => .done) <$> Recovery.commitReservation host identity authorization reservation observed) :
        Tx Error Store RouteAnswer)
  | .commitSuccessor identity authorization reservation targetAttemptId targetRequestDigest observed =>
    (Tx.check (refuse (targetAttemptId = "" ∨ observed ≤ 0) (.failureRecovery "durable recovery successor admission is invalid"))
      >>= fun _ => transaction ((fun _ => .done) <$> commitSuccessorAdmission host identity authorization reservation
        targetAttemptId targetRequestDigest observed) : Tx Error Store RouteAnswer)
  | .abandon identity authorization reservation refund =>
    transaction ((fun _ => .done) <$> abandonReservation host identity authorization reservation refund)
  | .release identity authorization reservation =>
    transaction ((fun _ => .done) <$> releaseRoute host identity authorization reservation)

end Roundwright.Recovery
