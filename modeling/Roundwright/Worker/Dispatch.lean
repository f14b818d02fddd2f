/-
The production coding dispatch: admission, the dispatch claim, the session and its turns, the tool requests of a
conversation and the submission of their results. A dispatch is a program of questions to the environment, statements on
the coding store and transactions on the provider attempts, and its process can die between any two of them.
-/
import Roundwright.Worker.Store

namespace Roundwright.Worker

open Lib State Recovery Provider

/-! ## Results -/

inductive WorkerResultKind where
  | accepted | blocked | invalid | incomplete | ambiguous
deriving DecidableEq

structure CodexWorkerResult where
  kind : WorkerResultKind
  sessionIdentity : Option String
  turnIdentity : Option String
  output : Option Json
  failure : Option CodexFailure
  blocker : Option String
  diagnostic : Option WorkerParserDiagnostic
  outcomeSource : Option WorkerOutcomeSource
  category : Option SdkCategory

/-- The result of a dispatch whose effects are not known. -/
def CodexWorkerResult.ambiguous (session turn : Option String) : CodexWorkerResult :=
  ⟨.ambiguous, session, turn, none, none, none, none, none, none⟩

/-- `_sdk_error_category` -/
def sdkErrorCategory : CodexFailure → SdkCategory
  | .sandboxOrApprovalDenied => .sandbox
  | .authMissing | .authExpired | .authRejected => .unauthorized
  | .providerOutage | .transportOrProviderOutage => .connection
  | _ => .missingOrUnknown

def CodexWorkerResult.failed (session turn : Option String) (failure : CodexFailure) : CodexWorkerResult :=
  ⟨.blocked, session, turn, none, some failure, some "sdk-turn-failed", none, some .sdkTurnFailed, some (sdkErrorCategory failure)⟩

/-- `_normalized_output` -/
def normalizedOutput : StructuredOutput → Option Json
  | none => none
  | some (fields, length) => if fields = [] ∨ 1000000 < length then none else some (.obj fields)

/-- The last part of the adapter's dispatch. -/
def NativeWorkerResponse.result (session turn : String) : NativeWorkerResponse → CodexWorkerResult
  | .accepted output =>
    match normalizedOutput output with
    | some output => ⟨.accepted, some session, some turn, some output, none, none, none, none, none⟩
    | none => ⟨.invalid, some session, some turn, none, none, none, some .shape, none, none⟩
  | .blocked failure blocker source category =>
    ⟨.blocked, some session, some turn, none, some failure, some blocker, none, some source, category⟩
  | .invalid diagnostic => ⟨.invalid, some session, some turn, none, none, none, some diagnostic, none, none⟩
  | .incomplete => ⟨.incomplete, some session, some turn, none, none, none, none, none, none⟩
  | .ambiguous => .ambiguous (some session) (some turn)

/-! ## Dispatch -/

/-- What a dispatch is called with: the request, the candidate of its receipt and the lifecycle that owns the
attempt. -/
structure Call (taskId attemptId : String) where
  action : WorkerAction
  inputDigest : Digest
  resumeSessionIdentity : Option String
  candidateSha : Sha
  identity : TaskIdentity
  recovery : RecoveryContext
  lease : Option TransitionLease
  observedAt : Int

/-- What a dispatch keeps in memory: its checkpoints, the turn of every submission and the sequences that were
submitted. -/
structure Memory where
  session : Option String
  turn : Option String
  submissionTurns : List (Nat × String)
  acknowledged : List Nat

def Memory.submissionTurn? (m : Memory) (sequence : Nat) : Option String :=
    (m.submissionTurns.find? fun t => t.1 = sequence).map (·.2)

section Dispatch

variable (host : Host) (self : Nat) {taskId attemptId : String} (call : Call taskId attemptId)

/-- `except RoleCapabilityError` -/
def onRole (e : Raised) : Raised → Raised
  | .error (.roleCapability _) => e
  | other => other

/-- `except CodingWorkerStateError` -/
def onCodingState (e : Raised) : Raised → Raised
  | .error (.codingWorkerState _) => e
  | other => other

/-- `admit`: the reservation and the scope are read again before every effect. -/
def admitEffect : Program Unit := do
  require .budget
  Script.mapError (require .scope) fun _ => worker "Worker durable scope admission is denied"

/-- An identity of the provider. -/
def identityOf (q : Ask) (name : String) : Program String := do
  let identity ← ask q (·.identity)
  Script.check (refuse (isName identity = false) (worker ("native Worker " ++ name ++ " identity is invalid")))
  return identity

/-- The local checkpoint of `record_session`. -/
def recordSession (session : String) : Program Memory := do
  let _ ← transact "production Worker session checkpoint failed"
    (recordSessionIdentity host call.identity call.recovery attemptId session call.lease call.observedAt) id
  require .callerSession
  return ⟨some session, none, [], []⟩

/-- The local checkpoint of `record_turn`. -/
def recordTurn (m : Memory) (session turn : String) : Program Memory := do
  Script.check (refuse (m.session ≠ some session) (shadow "coding turn checkpoint is not session-bound"))
  let _ ← transact "production Worker turn checkpoint failed"
    (recordExternalTurn host call.identity call.recovery attemptId session turn call.lease call.observedAt) id
  require .callerTurn
  return { m with turn := some turn }

/-- `claim_dispatch` of the lifecycle. -/
def checkpointDispatch : Program Unit := do
  let _ ← transact "production Worker dispatch claim is unavailable"
    (claimWorkerDispatch host call.identity call.recovery attemptId call.lease call.observedAt) (⟨self, .dispatched⟩ :: ·)

/-- The check for unresolved effects of the attempt. -/
def requireReconciled (taskId attemptId : String) (acknowledged : List Nat) : Program Unit := do
  let unresolved ← Script.mapError (requiresReconciliation taskId attemptId acknowledged)
    (onCodingState (shadow "coding reconciliation is unavailable"))
  Script.check (refuse (unresolved = true) (shadow "coding effect requires durable reconciliation"))

/-! ### Tools -/

/-- The digest of a tool request. -/
def NativeWorkerToolRequest.digest (r : NativeWorkerToolRequest) : Digest :=
  host.digestValue (.obj [("sequence", .num r.sequence), ("tool", .str r.tool.value), ("path", .ofOption r.path),
    ("content_digest", .ofDigest (r.content.map fun text => host.digestValue (.str text))),
    ("command", match r.command with
      | some command => .arr (command.map .str)
      | none => .null)])

/-- The digest of a tool result; the feedback is not in it. -/
def NativeWorkerToolResult.digest (r : NativeWorkerToolResult) : Digest :=
  host.digestValue (.obj [("sequence", .num r.sequence), ("tool", .str r.tool.value), ("outcome", .str r.outcome.value),
    ("before_digest", .ofDigest r.evidence.beforeDigest), ("after_digest", .ofDigest r.evidence.afterDigest),
    ("exit_code", match r.evidence.exitCode with
      | some code => .num code
      | none => .null),
    ("output_digest", .ofDigest r.evidence.outputDigest)])

/-- A result that passes its own check. -/
def makeResult (r : NativeWorkerToolResult) : Program NativeWorkerToolResult := do
  Script.check r.check
  return r

/-- `_persist_tool_event` -/
def persistToolEvent (session turn : String) (request : NativeWorkerToolRequest) (result : NativeWorkerToolResult)
    (lifecycle : Lifecycle) : Program Unit := do
  let record : CodingToolEventRecord :=
    ⟨taskId, call.inputDigest, call.action, attemptId, session, turn, call.candidateSha, request.sequence, request.tool,
      request.digest host, result.digest host, result.outcome, result.evidence, lifecycle⟩
  Script.check (record.check.mapError Raised.error)
  Script.mapError (append record) (onCodingState (shadow "coding tool event checkpoint failed"))

/-- The local tool runs. -/
def runTool (request : NativeWorkerToolRequest) : Program (Except ToolFailure ToolRun) :=
  Script.commit (.tool request) fun i w => (i.tool, { w with log := ⟨self, .ran request.sequence⟩ :: w.log })

/-- The result of a local tool with its lifecycle. -/
def toolResult (request : NativeWorkerToolRequest) : Except ToolFailure ToolRun → Program (NativeWorkerToolResult × Lifecycle)
  | .ok run =>
    if run.fits = false then do
      let result ← makeResult ⟨request.sequence, request.tool, .feedbackBudgetExceeded, run.evidence, none⟩
      return (result, ⟨.completed, .notRequested, .clear⟩)
    else do
      let result ← makeResult ⟨request.sequence, request.tool, run.outcome, run.evidence, run.feedback⟩
      return (result, ⟨.started, .notRequested, .submissionUncertain⟩)
  | .error failure => do
    let result ← makeResult ⟨request.sequence, request.tool, failure.outcome, .none, none⟩
    let lifecycle ← Script.check (demand failure.lifecycle (shadow "coding tool returned invalid lifecycle evidence"))
    return (result, lifecycle)

/-- `_execute_request` -/
def executeRequest (m : Memory) (request : NativeWorkerToolRequest) : Program NativeWorkerToolResult := do
  require .receipt
  require .capabilityReceipt
  let session ← Script.check (demand m.session (shadow "coding tool effect lacks durable turn checkpoint"))
  let turn ← Script.check (demand m.turn (shadow "coding tool effect lacks durable turn checkpoint"))
  requireReconciled taskId attemptId m.acknowledged
  let claimed ← claimEffect self taskId attemptId request.sequence (request.digest host)
  if claimed then do
    let answer ← runTool self request
    let (result, lifecycle) ← toolResult request answer
    persistToolEvent host call session turn request result lifecycle
    return result
  else do
    let result ← makeResult ⟨request.sequence, request.tool, .ambiguous, .none, none⟩
    persistToolEvent host call session turn request result ⟨.failed, .notRequested, .terminalUncertain⟩
    return result

/-- `authorized_tool_request`: a tool that is not granted is answered without being handed to the runtime. -/
def authorizedToolRequest (m : Memory) (request : NativeWorkerToolRequest) : Program NativeWorkerToolResult := do
  let granted ← Script.handle (do admitEffect; require (.capability request.tool); return true) fun
    | .error (.roleCapability _) => pure false
    | e => Script.check (.error e)
  if granted then executeRequest host self call m request
  else makeResult ⟨request.sequence, request.tool, .denied, .none, none⟩

/-- `submission` -/
def submission (taskId attemptId : String) (m : Memory) (sequence : Nat) (state : SubmissionState) (next : Option String) :
    Program Memory := do
  let missing : Raised := shadow "coding submission lacks durable turn checkpoint"
  let session ← Script.check (demand m.session missing)
  let turn ← Script.check (demand (if state = .intent then m.turn else m.submissionTurn? sequence) missing)
  Script.mapError (recordSubmission self ⟨taskId, attemptId, session, turn, sequence⟩ state next)
    (onCodingState (shadow "coding submission checkpoint failed"))
  let m := if state = .intent then { m with submissionTurns := (sequence, turn) :: m.submissionTurns } else m
  return if state = .submitted then { m with acknowledged := sequence :: m.acknowledged } else m

/-! ### The conversation -/

/-- The result goes to the provider, whose next turn is checkpointed. -/
def submitResult (m : Memory) (session : String) (result : NativeWorkerToolResult) : Program (Memory × String) := do
  admitEffect
  require (.submit result)
  admitEffect
  let next ← identityOf .turnIdentity "turn"
  let m ← recordTurn host call m session next
  return (m, next)

/-- `_consume_steps` with the number of steps that are left. -/
def consumeSteps (session : String) : Nat → Nat → Memory → Program NativeWorkerResponse
  | 0, _, _ => Script.check (.error .protocol)
  | left + 1, expected, m => do
    admitEffect
    match ← ask .readStep (·.step) with
    | .response response => return response
    | .request request => do
      Script.check (refuse (request.sequence ≠ expected) .protocol)
      let result ← authorizedToolRequest host self call m request
      Script.check (refuse ((result.sequence, result.tool) ≠ (request.sequence, request.tool)) .protocol)
      admitEffect
      let m ← submission self taskId attemptId m request.sequence .intent none
      let (m, next) ← Script.onError (submitResult host call m session result) do
        admitEffect
        let _ ← submission self taskId attemptId m request.sequence .uncertain none
      admitEffect
      let m ← submission self taskId attemptId m request.sequence .submitted (some next)
      consumeSteps session left (expected + 1) m

/-- `_MAX_TOOL_STEPS` -/
def maxToolSteps : Nat := 32

/-! ### The adapter -/

/-- The handlers of the session and of the first turn. A failure before there is a session gets an identity of its
own. -/
def fallback {α : Type} (attemptId : String) (session turn : Option String) : Raised → Program (Except CodexWorkerResult α)
  | .adapter failure => do
    let session ← Script.check (match session with
      | some session => .ok session
      | none => (preDispatchFailureIdentity host .worker attemptId).mapError Raised.error)
    return .error (.failed (some session) turn failure)
  | .error (.codexWorker message) => Script.check (.error (worker message))
  | _ => return .error (.ambiguous session turn)

/-- The handlers of the conversation. -/
def conversationFallback {α : Type} (session turn : String) : Raised → Program (Except CodexWorkerResult α)
  | .adapter failure => return .error (.failed (some session) (some turn) failure)
  | _ => return .error (.ambiguous (some session) (some turn))

/-- One `try` of the adapter's dispatch: a handler returns from the dispatch or raises. -/
def attempt {α : Type} (x : Program α) (handler : Raised → Program (Except CodexWorkerResult α))
    (next : α → Program CodexWorkerResult) : Program CodexWorkerResult := do
  match ← Script.handle (do return .ok (← x)) handler with
  | .ok a => next a
  | .error result => return result

/-- `CodexWorkerAdapter.dispatch`. The identity of a session that is not the one asked for ends it. -/
def adapterDispatch : Program CodexWorkerResult := do
  Script.mapError admitEffect (onRole (worker "Worker advisory admission is denied"))
  attempt (do admitEffect; checkpointDispatch host self call; identityOf .openSession "session")
      (fallback host attemptId none none) fun session =>
    if call.resumeSessionIdentity.any (· ≠ session) then return .ambiguous (some session) none
    else attempt (do admitEffect; recordSession host call session) (fallback host attemptId (some session) none) fun m =>
      attempt (do admitEffect; identityOf .startTurn "turn") (fallback host attemptId (some session) none) fun turn =>
        attempt (do admitEffect; recordTurn host call m session turn)
            (fallback host attemptId (some session) (some turn)) fun m =>
          attempt (do
              let response ← consumeSteps host self call session maxToolSteps 1 m
              return (response, ← identityOf .turnIdentity "turn"))
            (conversationFallback session turn) fun (response, turn) => return response.result session turn

/-! ### The runtime -/

/-- `record_terminal_failure` -/
def recordTerminalFailure (result : CodexWorkerResult) : Program Unit := do
  let message := "production Worker terminal failure persistence failed"
  let incomplete := shadow "production Worker terminal failure is incomplete"
  let failure ← Script.check (demand result.failure incomplete)
  let session ← Script.check (demand result.sessionIdentity incomplete)
  let record ← Script.check ((failureBinding (call.recovery.candidateSha.getD call.identity.baseSha)
    ("sha256:" ++ call.recovery.policyFingerprint) call.recovery.runtimeBinding.resolvedDigest.text
      ("worker:" ++ call.identity.taskId)
    .worker call.recovery.runtimeBinding.workerProfileIdentity.text session attemptId >>=
    fun binding => classifyNativeFailure .worker binding failure).mapError fun _ => shadow message)
  let digest ← transact message (DenialCall.run host (.failure call.identity record call.observedAt)) id
  let stored ← transact message (Tx.query fun s => do
    let _ ← requireMatchingTask host s.ledger call.identity none
    let row ← demand (s.failureRecords.rows.find? fun r => r.recordDigest = digest ∧ r.taskId = call.identity.taskId)
      (.failureRecovery "durable failure record is unavailable")
    row.record.requireFailureCompatibility
    requireAttemptAdmission host s call.identity row.record.binding
    return row.record) id
  Script.check (refuse (stored ≠ record) (shadow "production Worker failure read-back drifted"))
  let recovered ← transact message
    (recoverAttempt host call.identity call.recovery ⟨attemptId, none, 1⟩ call.lease call.observedAt) id
  Script.check (refuse (recovered.state ≠ if result.turnIdentity = none then .blocked else .ambiguous)
    (shadow "production Worker terminal failure recovery is incomplete"))

/-- `ProductionCodingWorkerRuntime.dispatch` -/
def dispatch : Program CodexWorkerResult := do
  Script.mapError (require .activation) (onRole (shadow "production coding activation is unavailable"))
  Script.check (refuse (call.action = .planning) (shadow "planning requests require the separate no-tools entrypoint"))
  require .receipt
  require .dispatchable
  Script.mapError (require .reservation) (onRole (shadow "production coding budget admission is denied"))
  requireReconciled taskId attemptId []
  let result ← adapterDispatch host self call
  if result.kind = .blocked then do
    recordTerminalFailure host call result
    return result
  else return result

end Dispatch

end Roundwright.Worker
