/-
The durable events of a coding Worker: the claims on its local effects, the submissions of their results and the records
of its tools. Every statement is an action of its own. The log beside the tables is not in the database: it lists what
the processes have done, newest first.
-/
import Roundwright.Lib.Script
import Roundwright.Provider.Recover

namespace Roundwright.Worker

open Lib State Recovery Provider

/-! ## Tools -/

inductive WorkerAction where
  | planning | implementation | repair
deriving DecidableEq

inductive WorkerTool where
  | workspaceRead | workspaceWrite | validationExecute
deriving DecidableEq

def WorkerTool.value : WorkerTool → String
  | .workspaceRead => "workspace-read"
  | .workspaceWrite => "workspace-write"
  | .validationExecute => "validation-execute"

inductive ToolOutcome where
  | allowed | failed | feedbackBudgetExceeded | denied | timedOut | cancelled | ambiguous
deriving DecidableEq

def ToolOutcome.value : ToolOutcome → String
  | .allowed => "allowed"
  | .failed => "failed"
  | .feedbackBudgetExceeded => "feedback-budget-exceeded"
  | .denied => "denied"
  | .timedOut => "timed-out"
  | .cancelled => "cancelled"
  | .ambiguous => "ambiguous"

/-- The outcomes that come without evidence. -/
def ToolOutcome.bare (o : ToolOutcome) : Bool := o = .denied ∨ o = .timedOut ∨ o = .cancelled ∨ o = .ambiguous

/-- What a local tool leaves as evidence. -/
structure ToolEvidence where
  beforeDigest : Option Digest
  afterDigest : Option Digest
  exitCode : Option Int
  outputDigest : Option Digest
deriving DecidableEq

def ToolEvidence.none : ToolEvidence := ⟨.none, .none, .none, .none⟩

inductive CodingProcessState where
  | started | completed | failed
deriving DecidableEq

inductive CodingCancellationState where
  | notRequested | requested | confirmed
deriving DecidableEq

inductive CodingAmbiguityState where
  | clear | submissionUncertain | terminalUncertain
deriving DecidableEq

structure Lifecycle where
  process : CodingProcessState
  cancellation : CodingCancellationState
  ambiguity : CodingAmbiguityState
deriving DecidableEq

/-! ## Records of tools -/

/-- The token of this store: letters, digits and `-._:/`, at most 128 of them. -/
def isEventToken (text : String) : Bool :=
  headTail Char.isAlphanum (fun c => c.isAlphanum || c ∈ ['.', '_', ':', '/', '-']) 127 text

/-- `CodingToolEventRecord` -/
structure CodingToolEventRecord where
  taskId : String
  objectiveDigest : Digest
  action : WorkerAction
  implementationAttemptId : String
  sessionIdentity : String
  externalTurnIdentity : String
  candidateSha : Sha
  sequence : Nat
  tool : WorkerTool
  requestDigest : Digest
  resultDigest : Digest
  outcome : ToolOutcome
  evidence : ToolEvidence
  lifecycle : Lifecycle
deriving DecidableEq

/-- `invalid_metadata` -/
def CodingToolEventRecord.invalidMetadata (r : CodingToolEventRecord) : Bool :=
  (r.tool = .validationExecute ∧ (r.evidence.beforeDigest ≠ none ∨ r.evidence.afterDigest ≠ none)) ∨
    ((r.tool = .workspaceRead ∨ r.tool = .workspaceWrite) ∧ (r.evidence.exitCode ≠ none ∨ r.evidence.outputDigest ≠ none)) ∨
    (r.tool = .workspaceRead ∧ r.evidence.beforeDigest ≠ none)

/-- `invalid_lifecycle` -/
def CodingToolEventRecord.invalidLifecycle (r : CodingToolEventRecord) : Bool :=
  r.lifecycle.process = .completed ∧ (r.lifecycle.ambiguity ≠ .clear ∨ r.lifecycle.cancellation ≠ .notRequested)

/-- `CodingToolEventRecord.__post_init__` -/
def CodingToolEventRecord.check (r : CodingToolEventRecord) : Except Error Unit :=
  refuse (¬ (isEventToken r.taskId ∧ isEventToken r.implementationAttemptId ∧ isEventToken r.sessionIdentity ∧
      isEventToken r.externalTurnIdentity) ∨ r.sequence < 1 ∨ (r.outcome.bare ∧ r.evidence ≠ .none) ∨ r.invalidMetadata ∨
      r.invalidLifecycle)
    (.codingWorkerState "coding tool event is invalid")

/-- `coding_tool_events`: PRIMARY KEY (task_id, implementation_attempt_id, session_identity, external_turn_identity,
sequence); the digest and the JSON text of the record are functions of the record. -/
def CodingToolEventRecord.clash (a b : CodingToolEventRecord) : Bool :=
  a.taskId = b.taskId ∧ a.implementationAttemptId = b.implementationAttemptId ∧ a.sessionIdentity = b.sessionIdentity ∧
    a.externalTurnIdentity = b.externalTurnIdentity ∧ a.sequence = b.sequence

/-! ## Claims and submissions -/

/-- `coding_effect_claims` -/
structure EffectClaimRow where
  taskId : String
  implementationAttemptId : String
  sequence : Nat
  requestDigest : Digest

/-- PRIMARY KEY (task_id, implementation_attempt_id, sequence). -/
def EffectClaimRow.clash (a b : EffectClaimRow) : Bool :=
  a.taskId = b.taskId ∧ a.implementationAttemptId = b.implementationAttemptId ∧ a.sequence = b.sequence

/-- `coding_effect_intents`, the table of the time before the claims; it is only read. -/
structure EffectIntentRow where
  taskId : String
  implementationAttemptId : String

inductive SubmissionState where
  | intent | submitted | uncertain
deriving DecidableEq

structure SubmissionKey where
  taskId : String
  implementationAttemptId : String
  sessionIdentity : String
  externalTurnIdentity : String
  sequence : Nat
deriving DecidableEq

/-- `coding_tool_submissions` -/
structure SubmissionRow where
  key : SubmissionKey
  state : SubmissionState
  nextTurnIdentity : Option String

/-- PRIMARY KEY. -/
def SubmissionRow.clash (a b : SubmissionRow) : Bool := a.key = b.key

/-- The row after an UPDATE of the rows with a key, whatever their state is. -/
def SubmissionRow.move (key : SubmissionKey) (state : SubmissionState) (next : Option String) (r : SubmissionRow) : SubmissionRow :=
  if r.key = key then { r with state, nextTurnIdentity := next } else r

@[simp] theorem SubmissionRow.move_key (key : SubmissionKey) (state : SubmissionState) (next : Option String) (r : SubmissionRow) :
    (r.move key state next).key = r.key := by
  unfold move
  split <;> rfl

structure CodingStore where
  claims : Table EffectClaimRow.clash
  intents : List EffectIntentRow
  submissions : Table SubmissionRow.clash
  events : Table CodingToolEventRecord.clash

def CodingStore.empty : CodingStore := ⟨.empty, [], .empty, .empty⟩

/-- `UPDATE coding_tool_submissions SET state, next_turn_identity WHERE` the key. -/
def CodingStore.moveSubmission (c : CodingStore) (key : SubmissionKey) (state : SubmissionState)
    (next : Option String) : CodingStore :=
  { c with submissions := c.submissions.update (·.move key state next) fun a b => by simp [SubmissionRow.clash] }

/-! ## The world of the processes -/

inductive Deed where
  /-- The dispatch claim of the attempt. -/
  | dispatched
  /-- `claim_effect` has returned `True`. -/
  | claimed (sequence : Nat)
  /-- The local tool has run. -/
  | ran (sequence : Nat)
  /-- The submission was recorded as submitted. -/
  | submitted (sequence : Nat)
deriving DecidableEq

structure Event where
  process : Nat
  deed : Deed
deriving DecidableEq

structure World where
  provider : Recovery.Store
  coding : CodingStore
  log : List Event

/-- An exception, by the classes that the handlers tell apart. -/
inductive Raised where
  /-- `CodexAdapterError` -/
  | adapter (failure : CodexFailure)
  /-- `_WorkerToolProtocolError` -/
  | protocol
  | error (e : Error)
deriving DecidableEq

def shadow (message : String) : Raised := .error (.workerShadow message)

def worker (message : String) : Raised := .error (.codexWorker message)

def codingState (message : String) : Raised := .error (.codingWorkerState message)

/-! ## Requests and responses -/

structure NativeWorkerToolRequest where
  sequence : Nat
  tool : WorkerTool
  path : Option String
  content : Option String
  command : Option (List String)

structure NativeWorkerToolResult where
  sequence : Nat
  tool : WorkerTool
  outcome : ToolOutcome
  evidence : ToolEvidence
  feedback : Option String

/-- The part of `NativeWorkerToolResult.__post_init__` that the types leave open. -/
def NativeWorkerToolResult.check (r : NativeWorkerToolResult) : Except Raised Unit :=
  refuse (r.sequence = 0 ∨ (r.feedback.any fun text => 65536 < text.utf8ByteSize) ∨
    (r.outcome.bare ∧ r.feedback ≠ none)) (worker "native Worker tool result is invalid")

inductive WorkerParserDiagnostic where
  | syntaxError | shape | action | status | blocker | exactTurn | nonFinal

inductive WorkerOutcomeSource where
  | sdkTurnFailed | providerStructuredBlocked

/-- The structured output of an accepted response: its fields, and the length of its canonical JSON text, or nothing
when it has none. -/
abbrev StructuredOutput := Option (List (String × Json) × Nat)

/-- `NativeWorkerResponse`, by its kind. -/
inductive NativeWorkerResponse where
  | accepted (output : StructuredOutput)
  | blocked (failure : CodexFailure) (blocker : String) (source : WorkerOutcomeSource) (category : Option SdkCategory)
  | invalid (diagnostic : WorkerParserDiagnostic)
  | incomplete
  | ambiguous

inductive NativeWorkerTurnStep where
  | request (request : NativeWorkerToolRequest)
  | response (response : NativeWorkerResponse)

/-- A local tool that has run: what it answers with, and whether the frame of its result fits. -/
structure ToolRun where
  outcome : ToolOutcome
  evidence : ToolEvidence
  feedback : Option String
  fits : Bool

/-- `CodingToolError`; the lifecycle is missing when its texts name none. -/
structure ToolFailure where
  outcome : ToolOutcome
  lifecycle : Option Lifecycle

/-! ## Questions

What the model leaves open is asked of the environment. A check passes or raises; the capability, budget and scope
checks are checks in this sense, and so are the calls of the provider that return nothing. -/

inductive Ask where
  | activation | receipt | dispatchable | reservation | budget | scope | capabilityReceipt | capability (tool : WorkerTool)
  | openSession | callerSession | startTurn | turnIdentity | callerTurn | readStep | submit (result : NativeWorkerToolResult)
  | tool (request : NativeWorkerToolRequest)
  | statement
  | provider

/-- An answer has a part for every kind of question. -/
structure Reply where
  check : Except Raised Unit
  identity : Except Raised String
  step : Except Raised NativeWorkerTurnStep
  tool : Except Raised (Except ToolFailure ToolRun)
  /-- The database has failed. -/
  fails : Bool
  /-- The connection that reads the attempt back after its commit has failed. -/
  late : Bool

abbrev Program := Script Ask Raised Reply World

variable {α : Type}

/-- A question that changes nothing. -/
def ask (q : Ask) (answer : Reply → Except Raised α) : Program α := Script.commit q fun i w => (answer i, w)

def require (q : Ask) : Program Unit := ask q (·.check)

/-- `SELECT` -/
def select (message : String) (read : CodingStore → α) : Program α :=
  Script.commit .statement fun i w => (if i.fails then .error (codingState message) else .ok (read w.coding), w)

/-- `INSERT` or `UPDATE` with its commit. -/
def write (message : String) (statement : World → Option World) : Program Unit :=
  Script.commit .statement fun i w =>
    match if i.fails then none else statement w with
    | some w' => (.ok (), w')
    | none => (.error (codingState message), w)

/-- A transaction on the provider attempts; whatever it raises is replaced. -/
def transact (message : String) (x : Tx Error Recovery.Store α) (done : List Event → List Event) : Program α :=
  Script.commit .provider fun i w =>
    if i.fails then (.error (shadow message), w)
    else
      match x w.provider with
      | (.error _, provider) => (.error (shadow message), { w with provider })
      | (.ok a, provider) => if i.late then (.error (shadow message), { w with provider }) else (.ok a,
          { w with provider, log := done w.log })

/-! ## The store -/

section Store

variable (self : Nat) (taskId attemptId : String)

/-- `claim_effect` -/
def claimEffect (sequence : Nat) (requestDigest : Digest) : Program Bool := do
  Script.check (refuse (¬ (isEventToken taskId ∧ isEventToken attemptId) ∨ sequence < 1)
    (codingState "coding effect intent is invalid"))
  let existing ← select "coding effect intent checkpoint failed" fun c =>
    (c.claims.rows.find? fun r => r.taskId = taskId ∧ r.implementationAttemptId = attemptId ∧ r.sequence = sequence).map
      (·.requestDigest)
  match existing with
  | some digest => do
    Script.check (refuse (digest ≠ requestDigest) (codingState "coding effect intent replay conflicts"))
    return false
  | none => do
    write "coding effect intent checkpoint failed" fun w =>
      (w.coding.claims.insert? ⟨taskId, attemptId, sequence, requestDigest⟩).map fun claims =>
        { w with coding := { w.coding with claims }, log := ⟨self, .claimed sequence⟩ :: w.log }
    return true

/-- `requires_reconciliation` -/
def requiresReconciliation (acknowledged : List Nat) : Program Bool := do
  Script.check (refuse (¬ (isEventToken taskId ∧ isEventToken attemptId) ∨ acknowledged.any (· < 1))
    (codingState "coding reconciliation lookup is invalid"))
  let submissions ← select "coding reconciliation lookup failed" fun c => c.submissions.rows.any fun r =>
    r.key.taskId = taskId ∧ r.key.implementationAttemptId = attemptId ∧ (r.state = .intent ∨ r.state = .uncertain)
  let claims ← select "coding reconciliation lookup failed" fun c =>
    (c.claims.rows.filter fun r => r.taskId = taskId ∧ r.implementationAttemptId = attemptId).map (·.sequence)
  let legacy ← select "coding reconciliation lookup failed" fun c =>
    c.intents.any fun r => r.taskId = taskId ∧ r.implementationAttemptId = attemptId
  return submissions || legacy || claims.any (· ∉ acknowledged)

/-- `record_submission` -/
def recordSubmission (key : SubmissionKey) (state : SubmissionState) (next : Option String) : Program Unit := do
  Script.check (refuse (¬ (isEventToken key.taskId ∧ isEventToken key.implementationAttemptId ∧ isEventToken key.sessionIdentity ∧
      isEventToken key.externalTurnIdentity) ∨ key.sequence < 1 ∨
      (next.any fun turn => state ≠ .submitted ∨ isEventToken turn = false))
    (codingState "coding submission transition is invalid"))
  let existing ← select "coding submission checkpoint failed" fun c =>
    (c.submissions.rows.find? fun r => r.key = key).map fun r => (r.state, r.nextTurnIdentity)
  match existing with
  | some value =>
    if value = (state, next) then return ()
    else if value = (.intent, none) ∧ (state = .submitted ∨ state = .uncertain) then
      write "coding submission checkpoint failed" fun w =>
        some { w with
          coding := w.coding.moveSubmission key state next
          log := if state = .submitted then ⟨self, .submitted key.sequence⟩ :: w.log else w.log }
    else Script.check (.error (codingState "coding submission transition conflicts"))
  | none => do
    Script.check (refuse (state = .submitted) (codingState "coding submission lacks intent"))
    write "coding submission checkpoint failed" fun w =>
      (w.coding.submissions.insert? ⟨key, state, next⟩).map fun submissions => { w with coding := { w.coding with submissions } }

/-- `append` -/
def append (record : CodingToolEventRecord) : Program Unit := do
  let existing ← select "coding tool store append failed" fun c => c.events.rows.find? fun r => r.clash record
  match existing with
  | some stored => Script.check (refuse (stored ≠ record) (codingState "coding tool event replay conflicts"))
  | none =>
    write "coding tool store append failed" fun w =>
      (w.coding.events.insert? record).map fun events => { w with coding := { w.coding with events } }

end Store

end Roundwright.Worker
