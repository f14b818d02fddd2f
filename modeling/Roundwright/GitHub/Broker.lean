/-
The mutation broker: `submit` and `reconcile` as programs over the world of a call, stage by stage.

A stage ends in a result for the caller or in an exception that the broker lets through. A checkpoint that
is refused or cannot be written is no exception: the stage that asked for it goes on without it.
-/
import Roundwright.GitHub.Read

namespace Roundwright.GitHub

open Lib

/-! ## Payloads -/

def isLogin (text : String) : Bool :=
  1 ≤ text.length ∧ text.length ≤ 39 ∧ text.toList.all fun c => c.isAlphanum || c == '-'

/-- The fields of the outbound payload of an operation, in order. -/
def GitHubMutationOperation.payloadFields : GitHubMutationOperation → List String
  | .createPullRequest => ["body", "title"]
  | .comment => ["body"]
  | .requestReview => ["reviewers"]
  | _ => []

/-- The outbound material of a mutation, canonical and of the operation's fields. -/
structure GhMutationPayload where
  operation : GitHubMutationOperation
  values : List (String × String)
  fields : values.map Prod.fst = operation.payloadFields
  logins : ∀ reviewers, values.lookup "reviewers" = some reviewers → (reviewers.splitOn ",").all isLogin = true

namespace GhMutationPayload

variable (payload : GhMutationPayload)

def value (key : String) : Except Error String :=
  demand (payload.values.lookup key) (.gitHubRuntime "gh mutation payload field is unavailable")

/-- `require_matches` -/
def requireMatches (host : Host) (intent : GitHubMutationIntent) : Except Error Unit := do
  refuse (intent.operation ≠ payload.operation) (.gitHubRuntime "gh mutation payload operation does not match intent")
  match intent.mutation with
  | .comment _ bodyDigest =>
    let body ← payload.value "body"
    refuse (bodyDigest ≠ host.digestValue (.arr [.str "comment-body", .str body]))
      (.gitHubRuntime "gh comment payload does not match intent")
  | .createPullRequest _ p =>
    let title ← payload.value "title"
    let body ← payload.value "body"
    refuse (p.titleDigest ≠ host.digestValue (.arr [.str "pull-request-title", .str title]) ∨
      p.bodyDigest ≠ host.digestValue (.arr [.str "pull-request-body", .str body]))
      (.gitHubRuntime "gh pull request payload does not match intent")
  | .requestReview _ _ reviewersDigest =>
    let text ← payload.value "reviewers"
    let reviewers := text.splitOn ","
    refuse (¬ reviewers.Pairwise (· < ·) ∨ reviewersDigest ≠ host.digestValue (reviewersJson reviewers))
      (.gitHubRuntime "gh reviewer payload does not match intent")
  | _ => return ()

end GhMutationPayload

/-! ## Brokers and calls -/

/-- The seam to the owner transport: the health it observed and whether owner dependency controls are
required. -/
structure GhBrokerExecutor where
  health : GitHubCapabilityHealth
  requiresOwnerDependencyControl : Bool

/-- A broker object, without the receipts it remembers. -/
structure Broker where
  journal : Bool
  executor : Option GhBrokerExecutor
  clockIsDefault : Bool
  checkpointObserver : Bool

/-- One call: `suppliesSemantics` says that the caller passed a plan, a command or a read-back of its
own. -/
structure BrokerCall where
  broker : Broker
  authority : Authority
  intent : GitHubMutationIntent
  context : MutationBrokerContext
  payload : Option GhMutationPayload
  suppliesSemantics : Bool

inductive BrokerMutationResult where
  | receipt (receipt : SemanticMutationReceipt)
  | failure (failure : GitHubFailure) (reconciliationRequired : Bool)

/-- What a call ends in when it does not die. -/
abbrev Outcome := Except Error BrokerMutationResult

/-- The outcome of a mutation that was handed over, and the locator it came with. -/
abbrev Execution := Except GitHubFailure MutationDisposition × Option CreatedResourceLocator

namespace BrokerCall

variable {host : Host} (call : BrokerCall)

def plan (host : Host) : BrokerSemanticPlan := brokerSemanticPlan host call.intent

def key (host : Host) : Digest :=
  journalKey host call.intent.repository call.intent.operation call.intent.idempotencyKey

def health : Option GitHubCapabilityHealth := call.broker.executor.map GhBrokerExecutor.health

def fails (kind : GitHubFailureKind) (reason : String) : GitHubFailure := ⟨kind, .mutation call.intent.operation, reason⟩

def denied (reason : String) : Outcome := .ok (.failure (call.fails .policyDenied reason) false)

def stale (reason : String) : Outcome := .ok (.failure (call.fails .staleResponse reason) false)

/-- A failure after which the mutation has to be reconciled. -/
def unreconciled (reason : String) : Outcome := .ok (.failure (call.fails .staleResponse reason) true)

/-! ## The steps of a stage -/

/-- The reading of an injected clock, which the context has to attest. -/
def clockReading (now : Option Int) : Except Error Int := do
  let now ← demand now (.gitHubRuntime "trusted broker clock is unavailable")
  refuse (call.context.evaluatedAt ≠ now) (.gitHubRuntime "caller authorization time does not match broker clock")
  return now

/-- `_now` -/
def now : BrokerProc host (Except Error Int) :=
  if call.broker.clockIsDefault then return .ok call.context.evaluatedAt
  else Proc.action .clock (fun w _ => w) fun _ i => call.clockReading i.now

/-- The dependency controls of the context and of the owner at an instant. -/
def dependencyControls (now : Int) : Except Error Int := do
  refuse (contextDependencyControl call.authority call.intent call.context now = false)
    (.gitHubRuntime "broker dependency preflight blocked execution")
  refuse ((∃ e ∈ call.broker.executor, e.requiresOwnerDependencyControl = true) ∧
    call.authority.ownerControl call.intent call.context now = false)
    (.gitHubRuntime "owner broker dependency control is unavailable")
  return now

/-- The instant of the call, once the dependency controls admit it. -/
def preflight : BrokerProc host (Except Error Int) :=
  if contextDependencyControl call.authority call.intent call.context call.context.evaluatedAt then do
    let now ← call.now
    return now.bind call.dependencyControls
  else return .error (.gitHubRuntime "broker dependency preflight blocked execution")

/-- `_require_capabilities` -/
def requireCapabilities (host : Host) (now : Int) : Except Error Unit :=
  match call.health with
  | none => .ok ()
  | some health =>
    let plan := call.plan host
    requireFreshCapabilities health (plan.preDispatchReads.map (fun r => .read r.operation) ++
      [.read plan.readback.request.operation, .mutation call.intent.operation]) now

/-- The bundle of the call, or the failure that `_authorize` returns. -/
def authorize (host : Host) (now : Int) : Except Error (Except GitHubFailure SchemaV2AuthorizationBundle) := do
  call.requireCapabilities host now
  let boundHealth := if call.broker.clockIsDefault then none else call.health
  let bundle ← schemaV2AuthorizationBundle host call.authority call.context now boundHealth
  return (authorizeIntent call.intent call.context).map fun _ => bundle

/-- `self._completed.get(intent.identity())` -/
def recallReceipt : BrokerProc host (Option SemanticMutationReceipt) :=
  Proc.action .recallReceipt (fun w _ => w) fun w _ => w.completed (call.intent.identity host)

/-- `self._completed[intent.identity()] = receipt`, or its removal. -/
def remember (receipt : Option SemanticMutationReceipt) : BrokerProc host Unit :=
  Proc.action .remember
    (fun w _ => { w with completed := Function.update w.completed (call.intent.identity host) receipt }) fun _ _ => ()

/-- The checkpoint observer looks at an entry that was stored. -/
def observeCheckpoint (entry : MutationJournalEntry) : BrokerProc host (Option MutationJournalEntry) :=
  if call.broker.checkpointObserver then Proc.action .checkpoint (fun w _ => w) fun _ _ => some entry
  else return some entry

/-- `_journal_transition` -/
def journalTransition (entry : MutationJournalEntry) (request : TransitionRequest) :
    BrokerProc host (Option MutationJournalEntry) :=
  journaled (transition entry request) >>= fun
    | .error _ => return none
    | .ok updated => call.observeCheckpoint updated

/-- A transition that only changes the lifecycle. -/
def moveTo (lifecycle : JournalLifecycle) : TransitionRequest := ⟨lifecycle, none, none, none⟩

/-- A checkpoint of a call that may have no journal: the entry to go on with, if the checkpoint stands. -/
def checkpoint (entry : Option MutationJournalEntry) (request : TransitionRequest) :
    BrokerProc host (Option (Option MutationJournalEntry)) :=
  match entry with
  | none => return some none
  | some entry => do
    let updated ← call.journalTransition entry request
    return updated.map some

/-- A checkpoint whose result the stage ignores. -/
def noteCheckpoint (entry : Option MutationJournalEntry) (request : TransitionRequest) (outcome : Outcome) :
    BrokerProc host Outcome :=
  match entry with
  | none => return outcome
  | some entry => do
    let _ ← call.journalTransition entry request
    return outcome

/-- `_semantic_receipt` over the identities taken from the read that shows the effect. -/
def semanticReceipt (host : Host) (bundle : SchemaV2AuthorizationBundle) (preDigest preCompleteness : Option Digest)
    (observed : CompleteRead) (locator : Option CreatedResourceLocator) (disposition : MutationDisposition)
    (entry : Option MutationJournalEntry) : Except Error SemanticMutationReceipt := do
  let postDigest ← postStateDigest host call.intent observed.1
  let affected ← affectedIdentity host call.intent observed.1 locator
  let binding ← demand call.context.policy.binding .attribute
  let created := entry.bind fun e => e.createdResource.map (CreatedResourceLocator.identity host)
  refuse (call.intent.operation.allocates ∧ created = none)
    (.gitHubRuntime "allocated mutation receipt lacks durable locator")
  let preCompleteness ← demand preCompleteness (.gitHubRuntime "pre-state completeness digest is invalid")
  let postCompleteness ← demand observed.2 (.gitHubRuntime "post-state completeness digest is invalid")
  let preDigest ← demand preDigest (.gitHubRuntime "pre-state digest is invalid")
  let receipt : SemanticMutationReceipt :=
    { repository := call.intent.repository, operation := call.intent.operation, idempotencyKey := call.intent.idempotencyKey
      authorizationBundleIdentity := (entry.map fun e => e.evidence.authorizationBundleIdentity).getD (bundle.identity host)
      intentIdentity := call.intent.identity host, semanticPlanIdentity := (call.plan host).identity host
      semanticReadbackIdentity := (call.plan host).readback.identity host
      preStateCompletenessIdentity := preCompleteness, postStateCompletenessIdentity := postCompleteness
      publicPayloadDigest := host.digestValue (.arr [.str "public-payload", call.intent.payloadJson])
      policyBindingDigest := binding.digest, configurationDigest := call.context.configurationDigest
      deploymentFingerprint := binding.deploymentFingerprint, taskFingerprint := binding.taskFingerprint
      baseSha := call.context.baseSha, candidateSha := call.context.candidateSha, gateIdentity := call.context.gateIdentity
      preStateDigest := preDigest, postStateDigest := postDigest, affectedIdentity := affected
      createdResourceIdentity := created
      evaluatedAt := (entry.map fun e => e.evidence.evaluatedAt).getD bundle.evaluatedAt
      freshUntil := (entry.map fun e => e.evidence.freshUntil).getD bundle.freshUntil
      timeIdentity := (entry.map fun e => e.evidence.timeIdentity).getD bundle.timeIdentity, disposition }
  receipt.check host
  return receipt

/-! ## Execution -/

/-- The health that the executor asks of its operation. -/
def executorHealth (host : Host) (executor : GhBrokerExecutor) (bundle : SchemaV2AuthorizationBundle) (now : Int) :
    Except GitHubFailure Unit := do
  match healthFailure (.mutation call.intent.operation) executor.health none with
  | some failure => .error failure
  | none =>
    refuse (call.broker.clockIsDefault = false ∧ (bundle.capabilityHealthIdentity ≠ executor.health.identity host ∨
      executor.health.freshAt now = false ∨
      (executor.health.forOperation (.mutation call.intent.operation)).all (fun h => h.freshAt now) = false))
      (call.fails .staleResponse "operation health is stale")

/-- The sealed request to the owner, when payload, entry and bundle belong together. -/
def sealedRequest (host : Host) (payload : GhMutationPayload) (bundle : SchemaV2AuthorizationBundle)
    (entry : MutationJournalEntry) : Except Error OwnerMutationRequest := do
  payload.requireMatches host call.intent
  let plan := call.plan host
  refuse (entry.lifecycle ≠ .executionStarted ∨ entry.evidence.preStateReadIdentity ≠ plan.preDispatchReadsIdentity
    host) (.gitHubRuntime "broker journal execution seal is unavailable")
  let preState ← demand entry.preState (.gitHubRuntime "broker journal execution seal is unavailable")
  let context := bundle.context
  refuse (∃ p ∈ call.intent.pullRequestPayload, call.intent.repository ≠ context.repository ∨ p.baseSha ≠ context.baseSha ∨
    p.headSha ≠ context.mutationContext.candidateSha ∨ p.baseRef ≠ context.baseRef ∨ p.headRef ≠ context.headRef ∨
    context.baseRepository ≠ context.repository ∨ context.headRepository ≠ context.repository)
    (.gitHubRuntime "broker pull request context evidence drifted")
  refuse (entry.evidence.timeIdentity ≠ timeIdentityOf host entry.evidence.evaluatedAt entry.evidence.freshUntil)
    (.gitHubRuntime "owner mutation time seal drifted")
  return { intentIdentity := call.intent.identity host, operation := call.intent.operation
           authorizationBundleIdentity := bundle.identity host, semanticPlanIdentity := plan.identity host
           journalIdentity := entry.key host, repository := call.intent.repository
           targetNumber := call.intent.targetNumber, markerDigest := call.intent.bodyDigest
           candidateSha := context.mutationContext.candidateSha, pullRequest := call.intent.pullRequestPayload
           idempotencyIdentity := plan.idempotencyIdentity, command := plan.command
           deploymentIdentity := context.mutationContext.deploymentFingerprint, preStateIdentity := preState.identity
           evaluatedAt := entry.evidence.evaluatedAt, freshUntil := entry.evidence.freshUntil
           timeIdentity := entry.evidence.timeIdentity, capabilityHealthIdentity := bundle.capabilityHealthIdentity }

/-- `_validate_created_resource_locator` -/
def validateCreatedResourceLocator (request : OwnerMutationRequest) (locator : Option CreatedResourceLocator) : Bool :=
  match call.intent.operation, locator with
  | .createPullRequest, some (.pullRequest repository _ _ baseSha headSha markerDigest) =>
    repository = request.repository ∧ some baseSha = request.pullRequest.map PullRequestPayload.baseSha ∧
      some headSha = request.pullRequest.map PullRequestPayload.headSha ∧ some markerDigest = request.markerDigest
  | .comment, some (.comment repository issueNumber _ markerDigest) =>
    repository = request.repository ∧ some issueNumber = request.targetNumber ∧ some markerDigest = request.markerDigest
  | .createPullRequest, _ | .comment, _ => false
  | _, locator => locator = none

/-- What the broker makes of the owner's answer. -/
def ownerExecution (host : Host) (request : OwnerMutationRequest) : OwnerAnswer → Execution
  | .other => (.error (call.fails .policyDenied "brokered gh mutation payload is invalid"), none)
  | .denied requestIdentity =>
    if requestIdentity ≠ request.identity host then
      (.error (call.fails .policyDenied "brokered gh mutation payload is invalid"), none)
    else (.error (call.fails .policyDenied "owner mutation transport denied fixed request"), none)
  | .accepted fact =>
    if fact.requestIdentity = request.identity host ∧ fact.operation = call.intent.operation ∧
        call.validateCreatedResourceLocator request fact.createdResource = true then
      (.ok .accepted, fact.createdResource)
    else (.error (call.fails .policyDenied "brokered gh mutation payload is invalid"), none)

def dispatch (request : OwnerMutationRequest) : BrokerProc host Execution :=
  Proc.action .dispatch (fun w _ => { w with requests := w.requests ++ [request] }) fun _ i =>
    call.ownerExecution host request i.fact

/-- `_GhBrokerExecutor.execute` -/
def executorExecute (executor : GhBrokerExecutor) (payload : GhMutationPayload) (bundle : SchemaV2AuthorizationBundle)
    (entry : MutationJournalEntry) (now : Int) : BrokerProc host Execution :=
  match call.executorHealth host executor bundle now with
  | .error failure => return (.error failure, none)
  | .ok () =>
    match call.sealedRequest host payload bundle entry with
    | .error _ => return (.error (call.fails .policyDenied "brokered gh mutation payload is invalid"), none)
    | .ok request => call.dispatch request

/-- `_execute` -/
def execute (bundle : SchemaV2AuthorizationBundle) (entry : Option MutationJournalEntry) (now : Int) :
    BrokerProc host Execution :=
  match call.broker.executor, call.payload with
  | some _, none => return (.error (call.fails .policyDenied "brokered gh mutation payload is unavailable"), none)
  | some executor, some payload =>
    match entry with
    | none => return (.error (call.fails .policyDenied "live mutation lacks durable journal evidence"), none)
    | some entry => call.executorExecute executor payload bundle entry now
  | none, some _ => return (.error (call.fails .policyDenied "adapter does not accept brokered mutation payloads"), none)
  | none, none =>
    Proc.action .submit (fun w _ => { w with submissions := w.submissions ++ [call.intent] }) fun _ i => (i.submitted, none)

/-! ## Submission -/

def binding (host : Host) (bundle : SchemaV2AuthorizationBundle) (entry : Option MutationJournalEntry) : ReadBinding :=
  ⟨call.context, bundle.identity host, call.plan host, entry⟩

/-- The end of a submission whose read-back shows the effect. -/
def finishVerified (entry : Option MutationJournalEntry) (receipt : SemanticMutationReceipt) : BrokerProc host Outcome :=
  call.remember (some receipt) >>= fun _ =>
    match entry with
    | none => return .ok (.receipt receipt)
    | some entry =>
      call.journalTransition entry ⟨.verified, some receipt, none, none⟩ >>= fun
        | some _ => return .ok (.receipt receipt)
        | none => do
          call.remember none
          return call.unreconciled "verified mutation receipt was not persisted"

/-- The read-back of a mutation that was handed over. -/
def verifyReadback (bundle : SchemaV2AuthorizationBundle) (pre : Option (Digest × Digest))
    (entry : Option MutationJournalEntry) (disposition : MutationDisposition)
    (created : Option CreatedResourceLocator) : BrokerProc host Outcome :=
  match postReadbackForLocator host call.intent created with
  | none => return call.denied "created resource locator is unavailable"
  | some readback =>
    completeBrokerRead (call.binding host bundle entry) readback.request >>= fun
      | .error e => return .error e
      | .ok after =>
        if readbackMatches readback call.intent after.1 created then
          match call.semanticReceipt host bundle (pre.map Prod.fst) (pre.map Prod.snd) after created disposition entry with
          | .error e => return .error e
          | .ok receipt => call.finishVerified entry receipt
        else call.noteCheckpoint entry (moveTo .ambiguous) (call.unreconciled "mutation requires semantic reconciliation")

/-- The lifecycle in which an entry is left when its mutation was not accepted. -/
def unacceptedLifecycle (entry : Option MutationJournalEntry) : JournalLifecycle :=
  if ∃ e ∈ entry, e.lifecycle = .executionStarted then .ambiguous else .denied

/-- The checkpoints after an accepted mutation. -/
def finishAccepted (bundle : SchemaV2AuthorizationBundle) (pre : Option (Digest × Digest))
    (entry : Option MutationJournalEntry) (disposition : MutationDisposition)
    (created : Option CreatedResourceLocator) : BrokerProc host Outcome :=
  let located := if call.intent.operation.allocates then some created else none
  call.checkpoint entry ⟨.transportAccepted, none, none, located⟩ >>= fun
    | none => return call.unreconciled "transport acceptance checkpoint was not persisted"
    | some entry =>
      call.checkpoint entry (moveTo .appliedAwaitingVerification) >>= fun
        | none => return call.unreconciled "verification checkpoint was not persisted"
        | some entry => call.verifyReadback bundle pre entry disposition created

def finishExecution (bundle : SchemaV2AuthorizationBundle) (pre : Option (Digest × Digest))
    (entry : Option MutationJournalEntry) :
    Execution → BrokerProc host Outcome
  | (.error failure, _) => call.noteCheckpoint entry (moveTo (unacceptedLifecycle entry)) (.ok (.failure failure false))
  | (.ok .rejected, _) => call.noteCheckpoint entry (moveTo (unacceptedLifecycle entry))
      (.ok (.failure (call.fails .unavailable "mutation outcome is unavailable") false))
  | (.ok disposition, created) => call.finishAccepted bundle pre entry disposition created

/-- The execution of a mutation that the pre-state does not satisfy yet. -/
def startExecution (bundle : SchemaV2AuthorizationBundle) (now : Int) (pre : Option (Digest × Digest))
    (entry : Option MutationJournalEntry) : BrokerProc host Outcome :=
  call.checkpoint entry (moveTo .executionStarted) >>= fun
    | none => return call.stale "execution checkpoint was not persisted"
    | some entry => call.execute bundle entry now >>= call.finishExecution bundle pre entry

/-- A mutation whose effect the pre-state already shows. -/
def alreadySatisfied (bundle : SchemaV2AuthorizationBundle) (before : GitHubReadResult) (pre : Option (Digest × Digest)) :
    Option MutationJournalEntry → BrokerProc host Outcome
  | none => return call.denied "already-satisfied mutation lacks durable pre-state evidence"
  | some entry =>
    match call.semanticReceipt host bundle (pre.map Prod.fst) (pre.map Prod.snd) (before, pre.map Prod.snd) none
        .alreadyApplied (some entry) with
    | .error e => return .error e
    | .ok receipt =>
      call.journalTransition entry ⟨.verified, some receipt, none, none⟩ >>= fun
        | none => return call.stale "already-satisfied mutation receipt was not persisted"
        | some _ => do
          call.remember (some receipt)
          return .ok (.receipt receipt)

/-- The part of `submit` after the pre-dispatch reads. -/
def submitRead (bundle : SchemaV2AuthorizationBundle) (now : Int) (entry : Option MutationJournalEntry) :
    Except Error (GitHubReadResult × Option (Digest × Digest)) → BrokerProc host Outcome
  | .error e => return .error e
  | .ok (before, pre) =>
    if before.ok then
      call.checkpoint entry ⟨.prestateCaptured, none, pre, none⟩ >>= fun
        | none => return call.stale "pre-state checkpoint was not persisted"
        | some entry =>
          if readbackMatches (call.plan host).readback call.intent before none then call.alreadySatisfied bundle before pre entry
          else call.startExecution bundle now pre entry
    else call.noteCheckpoint entry (moveTo .failed) (call.stale "pre-mutation semantic state is unavailable")

/-- The part of `submit` after a claim of its own, or without a journal. -/
def submitFresh (bundle : SchemaV2AuthorizationBundle) (now : Int) (entry : Option MutationJournalEntry) :
    BrokerProc host Outcome :=
  if call.intent.operation.allocates ∧ call.broker.executor.isNone then
    return call.denied "allocated mutation requires an owner host locator capability"
  else completePreDispatchState (call.binding host bundle entry) >>= call.submitRead bundle now entry

/-! ## Reconciliation -/

/-- The end of a reconciliation whose read-back shows the effect. -/
def finishReconciled (receipt : SemanticMutationReceipt) : Option MutationJournalEntry → BrokerProc host Outcome
  | none => return call.unreconciled "reconciled receipt was not persisted"
  | some entry =>
    call.journalTransition entry ⟨.verified, some receipt, none, none⟩ >>= fun
      | none => return call.unreconciled "reconciled receipt was not persisted"
      | some _ => do
        call.remember (some receipt)
        return .ok (.receipt receipt)

/-- The checkpoint between a started or accepted execution and its verification. -/
def settleEntry (entry : MutationJournalEntry) : BrokerProc host (Option MutationJournalEntry) :=
  match entry.lifecycle with
  | .executionStarted => call.journalTransition entry (moveTo .ambiguous)
  | .transportAccepted => call.journalTransition entry (moveTo .appliedAwaitingVerification)
  | _ => return some entry

/-- The read-back of an entry whose mutation may have been carried out. -/
def reconcileReadback (bundle : SchemaV2AuthorizationBundle) (entry : MutationJournalEntry) (preState : PreStateEvidence) :
    BrokerProc host Outcome :=
  match postReadbackForLocator host call.intent entry.createdResource with
  | none => return call.denied "durable created resource locator is unavailable"
  | some readback =>
    completeBrokerRead (call.binding host bundle (some entry)) readback.request >>= fun
      | .error e => return .error e
      | .ok observed =>
        if readbackMatches readback call.intent observed.1 entry.createdResource then
          match call.semanticReceipt host bundle (some preState.digest) (some preState.completenessIdentity) observed
              entry.createdResource .alreadyApplied (some entry) with
          | .error e => return .error e
          | .ok receipt => call.settleEntry entry >>= call.finishReconciled receipt
        else return call.unreconciled "durable mutation requires semantic reconciliation"

/-- What an entry says about its mutation. -/
def reconcileEntry (bundle : SchemaV2AuthorizationBundle) (entry : MutationJournalEntry) : BrokerProc host Outcome :=
  if entry.lifecycle = .claimed ∨ entry.lifecycle = .prestateCaptured then
    return call.denied "durable mutation has not started execution"
  else
    match entry.preState with
    | none => return call.denied "durable mutation pre-state provenance is unavailable"
    | some preState =>
      match entry.lifecycle, entry.receipt with
      | .verified, some receipt => do
        call.remember (some receipt)
        return .ok (.receipt receipt)
      -- the assertion that a verified entry has a receipt
      | .verified, none => return .error .attribute
      | .denied, _ | .failed, _ => return call.denied "durable mutation lifecycle is terminally denied or failed"
      | _, _ => call.reconcileReadback bundle entry preState

/-- The time and the health that an entry is reconciled under. The owner authorization of the call is for
the same intent, context and instant, so that its second check is the control itself. -/
def reconcileAt (bundle : SchemaV2AuthorizationBundle) (entry : MutationJournalEntry) : Except Error Int →
    BrokerProc host Outcome
  | .error _ => return call.denied "durable authorization time evidence is invalid"
  | .ok now =>
    if now < entry.evidence.evaluatedAt ∨ entry.evidence.freshUntil ≤ now then
      return call.stale "durable authorization evidence has expired"
    else
      match call.requireCapabilities host now with
      | .error _ => return call.denied "durable capability health evidence is unavailable"
      | .ok () =>
        if call.broker.clockIsDefault = false ∧ ∃ h ∈ call.health, bundle.capabilityHealthIdentity ≠ h.identity host then
          return call.denied "durable capability health evidence is unavailable"
        else call.reconcileEntry bundle entry

/-- `_reconcile_journal` -/
def reconcileJournal (bundle : SchemaV2AuthorizationBundle) (entry : MutationJournalEntry) : BrokerProc host Outcome :=
  call.preflight >>= call.reconcileAt bundle entry

/-! ## The two operations -/

/-- What a claim found or made. -/
def submitClaimed (bundle : SchemaV2AuthorizationBundle) (now : Int) :
    Except Error (MutationJournalEntry × Bool) → BrokerProc host Outcome
  | .error _ => return call.denied "durable mutation evidence is unavailable or conflicting"
  | .ok (entry, false) => call.reconcileJournal bundle entry
  | .ok (entry, true) => call.submitFresh bundle now (some entry)

/-- The part of `submit` after the authorization. -/
def submitAuthorized (bundle : SchemaV2AuthorizationBundle) (now : Int) : BrokerProc host Outcome :=
  if call.payload.isSome ∧ call.broker.executor.isNone then
    return call.denied "owner mutation transport capability is unavailable"
  else
    call.recallReceipt >>= fun
      | some prior => return .ok (.receipt prior)
      | none =>
        if call.broker.journal then
          journaled (claim (claimEntry host call.intent call.context bundle)) >>= call.submitClaimed bundle now
        else call.submitFresh bundle now none

/-- The part of `submit` after the preflight. -/
def submitAt : Except Error Int → BrokerProc host Outcome
  | .error _ => return call.denied "owner dependency preflight blocked mutation execution"
  | .ok now =>
    match call.authorize host now with
    | .error _ => return call.denied "broker semantic plan is unavailable or incomplete"
    | .ok (.error failure) => return .ok (.failure failure false)
    | .ok (.ok bundle) => call.submitAuthorized bundle now

def submit : BrokerProc host Outcome :=
  if call.suppliesSemantics then return call.denied "caller-supplied mutation semantics are forbidden"
  else call.preflight >>= call.submitAt

/-- The entry of `find_recovery`. -/
def reconcileFound (bundle : SchemaV2AuthorizationBundle) :
    Except Error (Option MutationJournalEntry) → BrokerProc host Outcome
  | .error _ => return call.denied "durable mutation evidence is unavailable or conflicting"
  | .ok none => return call.denied "durable mutation evidence is missing"
  | .ok (some entry) =>
    if recoverable host call.intent call.context entry then call.reconcileJournal bundle entry
    else return call.denied "durable mutation evidence is unavailable or conflicting"

/-- A reconciliation without a journal. -/
def reconcileObserved (bundle : SchemaV2AuthorizationBundle) : Except Error CompleteRead → BrokerProc host Outcome
  | .error e => return .error e
  | .ok observed =>
    if readbackMatches (call.plan host).readback call.intent observed.1 none then
      match call.semanticReceipt host bundle (observed.1.snapshotDigest host) observed.2 observed none .alreadyApplied none with
      | .error e => return .error e
      | .ok receipt => do
        call.remember (some receipt)
        return .ok (.receipt receipt)
    else return call.unreconciled "interrupted mutation is not semantically reconciled"

/-- The part of `reconcile` after the authorization. -/
def reconcileAuthorized (bundle : SchemaV2AuthorizationBundle) : BrokerProc host Outcome :=
  if call.broker.journal then journaled (findEntry (call.key host)) >>= call.reconcileFound bundle
  else if call.intent.operation.allocates then
    return call.denied "allocated mutation requires an owner host and durable locator evidence"
  else completeBrokerRead (call.binding host bundle none) (call.plan host).readback.request >>= call.reconcileObserved bundle

/-- The part of `reconcile` after the preflight. -/
def reconcilePreflight : Except Error Int → BrokerProc host Outcome
  | .error _ => return call.denied "broker semantic plan is unavailable or incomplete"
  | .ok now =>
    match call.authorize host now with
    | .error _ => return call.denied "broker semantic plan is unavailable or incomplete"
    | .ok (.error failure) => return .ok (.failure failure false)
    | .ok (.ok bundle) => call.reconcileAuthorized bundle

def reconcile : BrokerProc host Outcome :=
  if call.suppliesSemantics then return call.denied "caller-supplied mutation semantics are forbidden"
  else call.preflight >>= call.reconcilePreflight

end BrokerCall

/-! ## Runs of brokers -/

/-- What happens to a journal and the brokers on it: calls, each on the answers it gets before it ends or
dies, and restarts, after which a new broker object remembers nothing. -/
inductive BrokerEvent where
  | submit (call : BrokerCall) (answers : List Answer)
  | reconcile (call : BrokerCall) (answers : List Answer)
  | restart

section Runs

variable {host : Host}

/-- The world after an event. -/
def World.after (w : World host) : BrokerEvent → World host
  | .submit call answers => (call.submit.run answers w).2
  | .reconcile call answers => (call.reconcile.run answers w).2
  | .restart => { w with completed := fun _ => none }

/-- What the call of an event returns, unless it dies. -/
def World.returns (w : World host) : BrokerEvent → Option Outcome
  | .submit call answers => (call.submit.run answers w).1
  | .reconcile call answers => (call.reconcile.run answers w).1
  | .restart => none

def World.run (w : World host) (events : List BrokerEvent) : World host := events.foldl World.after w

/-- A world in which nothing has happened yet, over any journal file. -/
def World.initial (file : JournalFile host) : World host := ⟨file, fun _ => none, [], [], []⟩

end Runs

/-! ## A broker to run -/

namespace BrokerSample

def repository : RepositoryRef := ⟨"owner", "name"⟩

def digest (n : Nat) : Digest := .sha256 (.ofNat 64 n)

def health : GitHubCapabilityHealth where
  observations := allOperations.map fun operation => ⟨operation, .available, 0, digest 1, 1000⟩
  covers := by
    rw [List.map_map]
    exact .of_eq (List.map_id' _)

def context (operation : GitHubMutationOperation) (candidateSha baseSha : String) : MutationBrokerContext where
  policy := ⟨true, some operation, some ⟨"binding", "repository", candidateSha, "deployment", "task"⟩⟩
  deployment := ⟨true, true⟩
  configurationDigest := digest 2
  baseSha := baseSha
  candidateSha := candidateSha
  gateIdentity := digest 3
  mutationContext := ⟨"repository", "deployment", "task", candidateSha⟩
  evidence := ⟨"standing", "source", "revision", "policy", "receipt", "verification", "bound", "active", "transition",
    "digest", "deployed", "verified"⟩
  evaluatedAt := 10
  repository := repository
  baseRepository := repository
  headRepository := repository
  baseRef := "main"
  headRef := "task"

/-- Whatever the context says is authorized. -/
def authority : Authority where
  repositoryPolicy context _ := context.policy
  receiptBound _ := true
  deploymentAuthority context _ := context.deployment
  dependencyControl _ _ := true
  ownerControl _ _ _ := true

/-- Any number of steps that the disk and the adapter carry out, with one result for every read. -/
def answers (count : Nat) (read : GitHubReadResult) : List Answer :=
  List.replicate count ⟨false, none, read, none, .ok .accepted, .other⟩

/-- A journal that does not exist yet. -/
def file : JournalFile Host.sample := ⟨none, none⟩

end BrokerSample

end Roundwright.GitHub
