/-
The projection of a sealed lifecycle chain. Events are what a projected event may hold, so building one refuses nothing
more; the loop checks each event against the plan, its predecessor and the attempts so far, and the end checks that
nothing is left open.
-/
import Roundwright.Identity
import Roundwright.Lib.Prefix
import Roundwright.Lib.Transaction

namespace Roundwright.Lifecycle

open Lib

/-! ## Plans, receipts and events -/

def harnessPlanSchema : String := "roundwright-harness-lifecycle-plan/v1"
def harnessEventSchema : String := "roundwright-harness-lifecycle-event/v1"
def harnessSealReceiptSchema : String := "roundwright-harness-lifecycle-seal-receipt/v1"

inductive LifecycleRole where
  | worker | supervisor
deriving DecidableEq

def LifecycleRole.value : LifecycleRole → String
  | .worker => "worker"
  | .supervisor => "supervisor"

/-- `_TRANSITIONS` -/
inductive Transition where
  | attemptStarted | attemptCompleted | resultAccepted | resultUnaccepted | candidateMoved | formalRoundAdvanced
deriving DecidableEq

def Transition.value : Transition → String
  | .attemptStarted => "attempt_started"
  | .attemptCompleted => "attempt_completed"
  | .resultAccepted => "result_accepted"
  | .resultUnaccepted => "result_unaccepted"
  | .candidateMoved => "candidate_moved"
  | .formalRoundAdvanced => "formal_round_advanced"

/-- `_DISPOSITIONS` -/
inductive Disposition where
  | pending | cancelled | invalidContext | pass | findings | failed | accepted | unaccepted | stale
deriving DecidableEq

def Disposition.value : Disposition → String
  | .pending => "pending"
  | .cancelled => "cancelled"
  | .invalidContext => "invalid_context"
  | .pass => "pass"
  | .findings => "findings"
  | .failed => "failed"
  | .accepted => "accepted"
  | .unaccepted => "unaccepted"
  | .stale => "stale"

inductive ReviewMode where
  | complete | converging
deriving DecidableEq

def ReviewMode.value : ReviewMode → String
  | .complete => "complete"
  | .converging => "converging"

structure LifecyclePlan where
  schema : String
  windowIdentity : Digest
  repositoryIdentity : Digest
  candidateSha : Sha
  readyAt : Nat
  producerIdentity : Digest
  storeIdentity : Digest
  capturePlanDigest : Digest
  reviewEpoch : Nat
  reviewRound : Nat
  reviewMode : ReviewMode

structure LifecycleEvent where
  schema : String
  windowIdentity : Digest
  repositoryIdentity : Digest
  candidateSha : Sha
  sequence : Nat
  occurredAt : Nat
  role : LifecycleRole
  taskIdentity : Digest
  attemptIdentity : Digest
  reviewEpoch : Nat
  reviewRound : Nat
  reviewMode : ReviewMode
  reviewAttempt : Nat
  transition : Transition
  disposition : Disposition
  acceptedResult : Bool
  successorCandidateSha : Option Sha
  predecessorEventDigest : Option Digest
  artifactReferences : List Digest
  attempted : 1 ≤ reviewAttempt

structure SealReceipt where
  schema : String
  status : String
  eventSchema : String
  planDigest : Digest
  windowIdentity : Digest
  repositoryIdentity : Digest
  candidateSha : Sha
  readyAt : Nat
  eventCount : Nat
  headEventDigest : Digest
  headEntryDigest : Digest
  manifestDigest : Digest
  ledgerDigest : Digest
  retentionIdentity : Digest
  receiptDigest : Digest

structure ProjectedLifecycleEvent where
  sequence : Nat
  occurredAt : Nat
  role : LifecycleRole
  taskIdentity : Digest
  attemptIdentity : Digest
  reviewAttempt : Nat
  transition : Transition
  disposition : Disposition
  acceptedResult : Bool
  successorCandidateSha : Option Sha
  predecessorEventDigest : Option Digest
  artifactReferences : List Digest
  eventDigest : Digest

/-- `_safe_token` -/
def safeToken (text : String) : Bool :=
  let lowered := text.toList.map Char.toLower
  headTail Char.isAlphanum (fun c => c.isAlphanum || c ∈ ['.', '_', '-']) 127 text &&
    !(["token", "secret", "credential", "password", "ghp_"].any fun word => lowered.tails.any (word.toList.isPrefixOf ·)) &&
    !"sk-".toList.isPrefixOf lowered

abbrev SafeToken := { text : String // safeToken text = true }

structure LifecycleShadowProjection where
  candidateSha : Sha
  readyAt : Nat
  windowIdentity : Digest
  repositoryIdentity : Digest
  producerIdentity : Digest
  storeIdentity : Digest
  capturePlanDigest : Digest
  planDigest : Digest
  reviewEpoch : Nat
  reviewRound : Nat
  reviewMode : ReviewMode
  events : List ProjectedLifecycleEvent
  acceptedAttemptIdentity : Digest
  ledgerDigest : Digest
  manifestDigest : Digest
  retentionIdentity : Digest
  headEventDigest : Digest
  headEntryDigest : Digest
  classifiedDifferences : List SafeToken := []

/-! ## Digests -/

def LifecyclePlan.payload (plan : LifecyclePlan) : Json := .obj
  [("schema", .str plan.schema), ("window_identity", .digest plan.windowIdentity),
    ("repository_identity", .digest plan.repositoryIdentity), ("candidate_sha", .hex plan.candidateSha),
    ("ready_at", .num plan.readyAt), ("producer_identity", .digest plan.producerIdentity),
    ("store_identity", .digest plan.storeIdentity), ("capture_plan_digest", .digest plan.capturePlanDigest),
    ("review_epoch", .num plan.reviewEpoch), ("review_round", .num plan.reviewRound), ("review_mode", .str plan.reviewMode.value)]

def jsonOption {α : Type} (write : α → Json) : Option α → Json
  | some value => write value
  | none => .null

def LifecycleEvent.payload (e : LifecycleEvent) : Json := .obj
  [("schema", .str e.schema), ("window_identity", .digest e.windowIdentity),
    ("repository_identity", .digest e.repositoryIdentity), ("candidate_sha", .hex e.candidateSha),
      ("sequence", .num e.sequence), ("occurred_at", .num e.occurredAt),
    ("role", .str e.role.value), ("task_identity", .digest e.taskIdentity), ("attempt_identity", .digest e.attemptIdentity),
    ("review_epoch", .num e.reviewEpoch), ("review_round", .num e.reviewRound), ("review_mode", .str e.reviewMode.value),
    ("review_attempt", .num e.reviewAttempt), ("transition", .str e.transition.value), ("disposition", .str e.disposition.value),
    ("accepted_result", .bool e.acceptedResult), ("successor_candidate_sha", jsonOption .hex e.successorCandidateSha),
    ("predecessor_event_digest", jsonOption .digest e.predecessorEventDigest),
    ("artifact_references", .arr (e.artifactReferences.map .digest))]

/-- The receipt without its own digest. -/
def SealReceipt.core (r : SealReceipt) : Json := .obj
  [("schema", .str r.schema), ("status", .str r.status), ("event_schema", .str r.eventSchema),
    ("plan_digest", .digest r.planDigest), ("window_identity", .digest r.windowIdentity),
      ("repository_identity", .digest r.repositoryIdentity),
    ("candidate_sha", .hex r.candidateSha), ("ready_at", .num r.readyAt), ("event_count", .num r.eventCount),
    ("head_event_digest", .digest r.headEventDigest), ("head_entry_digest", .digest r.headEntryDigest),
    ("manifest_digest", .digest r.manifestDigest), ("ledger_digest", .digest r.ledgerDigest),
    ("retention_identity", .digest r.retentionIdentity)]

def LifecycleEvent.digest (host : Host) (e : LifecycleEvent) : Digest := host.digestValue e.payload

/-- `ROUNDLET_LIFECYCLE_PIN.payload()` -/
def roundletLifecyclePin : Json := .obj
  [("repository", .str "ythdelmar68/roundlet"), ("merge_commit", .str "5169a4630de9c1a888e6f46254a5ef21e40c2b8b"),
    ("tree", .str "e84ad8c582f2a5583af99b7a80cdc03249e2d5fa"), ("content_blob", .str "3308a9a74e33f276bab6a5221e974f74a5cd0dc0"),
    ("component_tree", .str "63117b2418ce17d45d099ae6009522a6a83df8ce")]

/-- `contract["producer_identity"]` -/
def producerIdentity (host : Host) : Digest := host.digestValue (.obj
  [("schema", .str "roundwright-generic-lifecycle-producer/v1"), ("roundlet", roundletLifecyclePin),
    ("event_schema", .str harnessEventSchema)])

/-- `contract["repository_identity"]` -/
def repositoryIdentity (host : Host) : Digest := host.digestValue (.obj
  [("schema", .str "roundwright-repository-identity/v1"), ("repository", .str "ythdelmar68/roundwright")])

/-! ## Projection -/

/-- `_validated_plan` -/
def validatedPlan (host : Host) (plan : LifecyclePlan) : Except String Unit :=
  refuse (plan.schema ≠ harnessPlanSchema ∨ plan.producerIdentity ≠ producerIdentity host ∨
    plan.repositoryIdentity ≠ repositoryIdentity host ∨ plan.reviewEpoch < 1 ∨ plan.reviewRound < 1)
    "lifecycle observation plan is invalid"

/-- `_receipt_value` -/
def receiptValue (host : Host) (receipt : SealReceipt) : Except String Unit :=
  refuse (receipt.schema ≠ harnessSealReceiptSchema ∨ receipt.status ≠ "sealed" ∨ receipt.eventSchema ≠ harnessEventSchema ∨
    receipt.eventCount < 1 ∨ receipt.receiptDigest ≠ host.digestValue receipt.core)
    "lifecycle seal receipt is invalid"

/-- The variables of the loop. -/
structure Progress where
  projected : List ProjectedLifecycleEvent
  started : List (Digest × LifecycleEvent)
  completed : List (Digest × Disposition)
  unacceptedAttempts : List Digest
  acceptedAttempt : Option Digest
  acceptedDisposition : Option Disposition
  acceptedCount : Nat
  formalAdvanceCount : Nat
  predecessor : Option Digest

def Progress.initial : Progress := ⟨[], [], [], [], none, none, 0, 0, none⟩

/-- The event has the role, the task and the review attempt of another. -/
def LifecycleEvent.SameAttempt (e start : LifecycleEvent) : Prop :=
  e.role = start.role ∧ e.taskIdentity = start.taskIdentity ∧ e.reviewAttempt = start.reviewAttempt

instance (e start : LifecycleEvent) : Decidable (e.SameAttempt start) := inferInstanceAs (Decidable (_ ∧ _ ∧ _))

/-- The branch of one transition: what it checks, and which variables it sets. -/
def advance (s : Progress) (e : LifecycleEvent) : Except String Progress :=
  let attempt := e.attemptIdentity
  match e.transition with
  | .attemptStarted => do
    refuse ((s.started.lookup attempt).isSome ∨ e.disposition ≠ .pending ∨
      ∃ item ∈ s.completed, item.2 = .invalidContext ∧ item.1 ∉ s.unacceptedAttempts)
      "lifecycle attempt start is invalid"
    return { s with started := s.started ++ [(attempt, e)] }
  | .attemptCompleted => do
    let start ← demand (s.started.lookup attempt) "lifecycle attempt completion is invalid"
    refuse ((s.completed.lookup attempt).isSome ∨ e.disposition = .pending ∨ ¬ e.SameAttempt start)
      "lifecycle attempt completion is invalid"
    return { s with completed := s.completed ++ [(attempt, e.disposition)] }
  | .resultAccepted => do
    let start ← demand (s.started.lookup attempt) "accepted lifecycle result is invalid"
    let disposition ← demand (s.completed.lookup attempt) "accepted lifecycle result is invalid"
    refuse (e.role ≠ .supervisor ∨ (disposition ≠ .pass ∧ disposition ≠ .findings) ∨ ¬ e.SameAttempt start ∨
      s.acceptedAttempt.isSome ∨ e.disposition ≠ .accepted ∨ e.acceptedResult = false)
      "accepted lifecycle result is invalid"
    return { s with
      acceptedAttempt := some attempt, acceptedDisposition := some disposition, acceptedCount := s.acceptedCount + 1 }
  | .resultUnaccepted => do
    let start ← demand (s.started.lookup attempt) "unaccepted lifecycle result is invalid"
    refuse (e.role ≠ .supervisor ∨ s.completed.lookup attempt ≠ some .invalidContext ∨ ¬ e.SameAttempt start ∨
      attempt ∈ s.unacceptedAttempts ∨ e.disposition ≠ .unaccepted ∨ e.acceptedResult = true)
      "unaccepted lifecycle result is invalid"
    return { s with unacceptedAttempts := s.unacceptedAttempts ++ [attempt] }
  | .formalRoundAdvanced => do
    refuse (some attempt ≠ s.acceptedAttempt ∨ s.acceptedDisposition ≠ some .pass ∨ e.role ≠ .supervisor ∨
      e.disposition ≠ .accepted ∨ e.acceptedResult = false)
      "formal lifecycle advancement is invalid"
    return { s with formalAdvanceCount := s.formalAdvanceCount + 1 }
  | .candidateMoved => return s

/-- The event as it is projected: numbered and chained by the loop itself. -/
def projectedEvent (host : Host) (sequence : Nat) (predecessor : Option Digest) (e : LifecycleEvent) : ProjectedLifecycleEvent where
  sequence := sequence
  occurredAt := e.occurredAt
  role := e.role
  taskIdentity := e.taskIdentity
  attemptIdentity := e.attemptIdentity
  reviewAttempt := e.reviewAttempt
  transition := e.transition
  disposition := e.disposition
  acceptedResult := e.acceptedResult
  successorCandidateSha := e.successorCandidateSha
  predecessorEventDigest := predecessor
  artifactReferences := e.artifactReferences
  eventDigest := e.digest host

/-- The event is the one that the plan, its number and its predecessor bind. -/
def InBinding (plan : LifecyclePlan) (sequence : Nat) (predecessor : Option Digest) (e : LifecycleEvent) : Prop :=
  e.schema = harnessEventSchema ∧ e.sequence = sequence ∧ e.predecessorEventDigest = predecessor ∧
    e.windowIdentity = plan.windowIdentity ∧ e.repositoryIdentity = plan.repositoryIdentity ∧ e.candidateSha = plan.candidateSha ∧
    e.reviewEpoch = plan.reviewEpoch ∧ e.reviewRound = plan.reviewRound ∧ e.reviewMode = plan.reviewMode ∧
    plan.readyAt ≤ e.occurredAt

instance (plan : LifecyclePlan) (sequence : Nat) (predecessor : Option Digest) (e : LifecycleEvent) :
    Decidable (InBinding plan sequence predecessor e) := by
  unfold InBinding
  infer_instance

/-- One pass of the loop; `enumerate` counts the events projected so far. -/
def pass (host : Host) (plan : LifecyclePlan) (s : Progress) (e : LifecycleEvent) : Except String Progress := do
  refuse (¬ InBinding plan s.projected.length s.predecessor e) "lifecycle event moved outside its binding"
  let s' ← advance s e
  return { s' with
    projected := s'.projected ++ [projectedEvent host s.projected.length s.predecessor e], predecessor := some (e.digest host) }

/-- The condition that closes the loop. -/
def Progress.Complete (s : Progress) (receipt : SealReceipt) : Prop :=
  s.projected ≠ [] ∧ ((∀ item ∈ s.started, (s.completed.lookup item.1).isSome) ∧ ∀ item ∈ s.completed,
    (s.started.lookup item.1).isSome) ∧
    ((∀ attempt ∈ s.unacceptedAttempts, (attempt, .invalidContext) ∈ s.completed) ∧
      ∀ item ∈ s.completed, item.2 = .invalidContext → item.1 ∈ s.unacceptedAttempts) ∧
    ((s.acceptedAttempt.isSome ∧ s.acceptedCount = 1 ∧
        ((s.acceptedDisposition = some .pass ∧ s.formalAdvanceCount = 1) ∨
          (s.acceptedDisposition = some .findings ∧ s.formalAdvanceCount = 0))) ∨
      (s.acceptedAttempt = none ∧ s.acceptedCount = 0 ∧ s.formalAdvanceCount = 0)) ∧
    some receipt.headEventDigest = s.predecessor

instance (s : Progress) (receipt : SealReceipt) : Decidable (s.Complete receipt) := by
  unfold Progress.Complete
  infer_instance

/-- `project_lifecycle_events` -/
def projectLifecycleEvents (host : Host) (plan : LifecyclePlan) (events : List LifecycleEvent) (receipt : SealReceipt) :
    Except String LifecycleShadowProjection := do
  validatedPlan host plan
  receiptValue host receipt
  refuse (receipt.candidateSha ≠ plan.candidateSha ∨ receipt.readyAt ≠ plan.readyAt ∨ receipt.windowIdentity ≠ plan.windowIdentity ∨
    receipt.repositoryIdentity ≠ plan.repositoryIdentity ∨ receipt.planDigest ≠ host.digestValue plan.payload ∨
    receipt.eventCount ≠ events.length)
    "sealed lifecycle binding drifted"
  let s ← events.foldlM (pass host plan) .initial
  refuse (¬ s.Complete receipt) "lifecycle semantic chain is incomplete"
  return {
    candidateSha := plan.candidateSha
    readyAt := plan.readyAt
    windowIdentity := plan.windowIdentity
    repositoryIdentity := plan.repositoryIdentity
    producerIdentity := plan.producerIdentity
    storeIdentity := plan.storeIdentity
    capturePlanDigest := plan.capturePlanDigest
    planDigest := receipt.planDigest
    reviewEpoch := plan.reviewEpoch
    reviewRound := plan.reviewRound
    reviewMode := plan.reviewMode
    events := s.projected
    acceptedAttemptIdentity := s.acceptedAttempt.getD
      (host.digestValue (.obj [("status", .str "unaccepted"), ("head_event", jsonOption .digest s.predecessor)]))
    ledgerDigest := receipt.ledgerDigest
    manifestDigest := receipt.manifestDigest
    retentionIdentity := receipt.retentionIdentity
    headEventDigest := receipt.headEventDigest
    headEntryDigest := receipt.headEntryDigest }

end Roundwright.Lifecycle
