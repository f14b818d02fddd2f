/-
The Shadow v1 replay: a case of persisted observations, checked one by one against the identities of the case, and
compared with what the case expects. Values are what the constructors of the source let through, so validating them
again finds nothing.
-/
import Roundwright.Shadow.EventGraph
import Roundwright.State.Lifecycle

namespace Roundwright.Shadow

open Lib

/-! ## Enumerations -/

inductive ReplayClassification where
  | exactMatch | expectedNondeterminism | contractMismatch | staleEvidence | incompleteEvidence | forbiddenMutation
deriving DecidableEq

inductive ComparisonOutcome where
  | matched | mismatch | invalid
deriving DecidableEq

inductive MismatchDisposition where
  | inputDrift | normalizationDefect | determinismDefect | semanticRegression | expectedChange | environmentLimitation

inductive ComparisonField where
  | state | gate | identity | applicability | blocker | nextAction
deriving DecidableEq

def EvidenceRole.value : EvidenceRole → String
  | .worker => "worker"
  | .supervisor => "supervisor"

inductive Applicability where
  | applicable | notApplicable
deriving DecidableEq

def Applicability.value : Applicability → String
  | .applicable => "applicable"
  | .notApplicable => "not-applicable"

inductive AttemptDisposition where
  | recorded | accepted | ambiguous
deriving DecidableEq

def AttemptDisposition.value : AttemptDisposition → String
  | .recorded => "recorded"
  | .accepted => "accepted"
  | .ambiguous => "ambiguous"

inductive MutationKind where
  | git | github | repository | queue | branch | worktree | pullRequest | issue | merge | close | cleanup | lifecycle
deriving DecidableEq

def MutationKind.value : MutationKind → String
  | .git => "git"
  | .github => "github"
  | .repository => "repository"
  | .queue => "queue"
  | .branch => "branch"
  | .worktree => "worktree"
  | .pullRequest => "pull-request"
  | .issue => "issue"
  | .merge => "merge"
  | .close => "close"
  | .cleanup => "cleanup"
  | .lifecycle => "lifecycle"

/-! ## Texts and contents -/

/-- `_TOKEN` of the replay: at least one character, no white space and no control character. -/
def isShadowToken (text : String) : Bool := text ≠ "" && text.toList.all fun c => !State.isSpace c && 0x20 ≤ c.toNat

abbrev ShadowToken := { text : String // isShadowToken text = true }

abbrev Bytes := List UInt8

/-- `bytes.hex()` -/
def bytesHex (bytes : Bytes) : String :=
  String.ofList (bytes.flatMap fun b => [hexDigit (b.toNat / 16), hexDigit (b.toNat % 16)])

/-- A host that also hashes bytes: `hexdigestBytes` is SHA-256 of a content. -/
structure ShadowHost extends Host where
  hexdigestBytes : Bytes → PlainDigest

/-! ## Cases -/

/-- The inputs of a replay: their names, digests and contents. -/
structure ReplayInputs (host : ShadowHost) where
  identities : List ShadowToken
  digests : List PlainDigest
  payloads : List Bytes
  named : identities.length = digests.length
  contents : payloads.map host.hexdigestBytes = digests

/-- The resolved configuration; its schema version is one constant everywhere. -/
structure ResolvedConfiguration where
  configurationDigest : Digest
  workerProfileIdentity : Digest
  supervisorProfileIdentities : List Digest
  selectedSupervisorProfileIdentity : Digest
  selected : selectedSupervisorProfileIdentity ∈ supervisorProfileIdentities

def configurationSchemaVersion : String := "roundwright-runtime/v1"

structure ShadowIdentity (host : ShadowHost) where
  sourceId : ShadowToken
  taskId : ShadowToken
  baseSha : Sha
  candidateSha : Sha
  policyIdentity : ShadowToken
  providerAttemptIdentity : ShadowToken
  acceptedReviewIdentity : ShadowToken
  gateIdentity : ShadowToken
  expectedNextAction : ShadowToken
  worktreeIdentity : ShadowToken
  inputs : ReplayInputs host
  referenceResultDigest : PlainDigest
  referenceResultPayload : Bytes
  configuration : ResolvedConfiguration
  inputNames : inputs.identities ≠ [] ∧ inputs.identities.Nodup
  reference : host.hexdigestBytes referenceResultPayload = referenceResultDigest

structure ShadowObservation (host : ShadowHost) where
  eventId : ShadowToken
  role : EvidenceRole
  attemptId : ShadowToken
  attemptDisposition : AttemptDisposition
  state : ShadowToken
  candidateSha : Sha
  gateIdentity : Option ShadowToken
  applicability : Applicability
  blocker : Option ShadowToken
  nextAction : ShadowToken
  sourceId : Option ShadowToken
  taskId : Option ShadowToken
  baseSha : Option Sha
  policyIdentity : Option ShadowToken
  sourceCount : Nat
  notApplicableReason : Option ShadowToken
  requestedMutation : Option MutationKind
  acceptedReviewIdentity : Option ShadowToken
  worktreeIdentity : Option ShadowToken
  worktreeClean : Bool
  inputs : ReplayInputs host
  referenceResultDigest : Option PlainDigest
  referenceResultPayload : Option Bytes
  configuration : ResolvedConfiguration
  counted : 1 ≤ sourceCount
  reference : ∀ payload ∈ referenceResultPayload, referenceResultDigest = some (host.hexdigestBytes payload)

def phaseTwoStates : List String := ["queued", "planning", "plan-review", "implementing", "diff-review", "ready-for-owner"]

/-- `ShadowCase`. Its constructor takes no expected states but those of Phase 2. -/
structure ShadowCase (host : ShadowHost) where
  caseId : ShadowToken
  identity : ShadowIdentity host
  observations : List (ShadowObservation host)
  expectedApplicability : Applicability
  expectedBlocker : Option ShadowToken
  expectedNondeterminism : List ComparisonField
  nonempty : observations ≠ []
  declared : ∀ field ∈ expectedNondeterminism, field = .nextAction

/-! ## Digests -/

def jsonToken (value : Option ShadowToken) : Json := .ofOption (value.map (·.val))

def jsonHex {digits : Nat} : Option (Hex digits) → Json
  | some value => .hex value
  | none => .null

variable {host : ShadowHost}

/-- `_observation_payload` -/
def observationPayload (o : ShadowObservation host) : Json := .obj
  [("event_id", .str o.eventId), ("role", .str o.role.value), ("attempt_id", .str o.attemptId),
    ("attempt_disposition", .str o.attemptDisposition.value), ("state", .str o.state), ("candidate_sha", .hex o.candidateSha),
    ("source_id", jsonToken o.sourceId), ("task_id", jsonToken o.taskId), ("base_sha", jsonHex o.baseSha),
    ("policy_identity", jsonToken o.policyIdentity), ("gate_identity", jsonToken o.gateIdentity),
    ("applicability", .str o.applicability.value), ("blocker", jsonToken o.blocker), ("next_action", .str o.nextAction),
    ("source_count", .num o.sourceCount), ("not_applicable_reason", jsonToken o.notApplicableReason),
    ("requested_mutation", .ofOption (o.requestedMutation.map (·.value))),
    ("accepted_review_identity", jsonToken o.acceptedReviewIdentity), ("worktree_identity", jsonToken o.worktreeIdentity),
    ("worktree_clean", .bool o.worktreeClean), ("input_identities", .arr (o.inputs.identities.map fun t => .str t.val)),
    ("input_digests", .arr (o.inputs.digests.map .hex)), ("reference_result_digest", jsonHex o.referenceResultDigest),
    ("input_payloads", .arr (o.inputs.payloads.map fun p => .str (bytesHex p))),
    ("reference_result_payload", .ofOption (o.referenceResultPayload.map bytesHex)),
    ("configuration_digest", .digest o.configuration.configurationDigest),
    ("configuration_schema_version", .str configurationSchemaVersion),
    ("worker_profile_identity", .digest o.configuration.workerProfileIdentity),
    ("supervisor_profile_identities", .arr (o.configuration.supervisorProfileIdentities.map .digest)),
    ("selected_supervisor_profile_identity", .digest o.configuration.selectedSupervisorProfileIdentity)]

/-- `evidence_digest` -/
def ShadowObservation.evidenceDigest (o : ShadowObservation host) : PlainDigest := host.digestJson (observationPayload o)

/-- The identities of one observation that the identity digests are about. -/
structure BoundIdentity where
  sourceId : Option ShadowToken
  taskId : Option ShadowToken
  baseSha : Option Sha
  candidateSha : Sha
  policyIdentity : Option ShadowToken
  providerAttemptIdentity : ShadowToken
  acceptedReviewIdentity : Option ShadowToken
  gateIdentity : Option ShadowToken
  worktreeIdentity : Option ShadowToken
deriving DecidableEq

def ShadowIdentity.bound (i : ShadowIdentity host) : BoundIdentity :=
  ⟨some i.sourceId, some i.taskId, some i.baseSha, i.candidateSha, some i.policyIdentity, i.providerAttemptIdentity,
    some i.acceptedReviewIdentity, some i.gateIdentity, some i.worktreeIdentity⟩

def ShadowObservation.bound (o : ShadowObservation host) : BoundIdentity :=
  ⟨o.sourceId, o.taskId, o.baseSha, o.candidateSha, o.policyIdentity, o.attemptId, o.acceptedReviewIdentity,
    o.gateIdentity, o.worktreeIdentity⟩

/-- What `_expected_identity_digest` and `_observed_identity_digest` hash. -/
def identitiesPayload (rows : List BoundIdentity) : Json := .obj
  [("source_id", .arr (rows.map fun r => jsonToken r.sourceId)),
    ("task_id", .arr (rows.map fun r => jsonToken r.taskId)), ("base_sha", .arr (rows.map fun r => jsonHex r.baseSha)),
      ("candidate_sha", .arr (rows.map fun r => .hex r.candidateSha)),
    ("policy_identity", .arr (rows.map fun r => jsonToken r.policyIdentity)),
    ("provider_attempt_identity", .arr (rows.map fun r => .str r.providerAttemptIdentity.val)),
    ("accepted_review_identity", .arr (rows.map fun r => jsonToken r.acceptedReviewIdentity)),
    ("gate_identity", .arr (rows.map fun r => jsonToken r.gateIdentity)),
    ("worktree_identity", .arr (rows.map fun r => jsonToken r.worktreeIdentity))]

/-- `_expected_identity_digest` -/
def expectedIdentityDigest (i : ShadowIdentity host) (count : Nat) : PlainDigest :=
  host.digestJson (identitiesPayload (List.replicate count i.bound))

/-- `_observed_identity_digest` -/
def observedIdentityDigest (observations : List (ShadowObservation host)) : PlainDigest :=
  host.digestJson (identitiesPayload (observations.map (·.bound)))

/-! ## Replay -/

/-- An invalid report: its classification and its detail. -/
structure Refusal where
  classification : ReplayClassification
  detail : String

/-- `_forbid_mutation` -/
def forbidMutation : Option MutationKind → Except Refusal Unit
  | none => .ok ()
  | some kind => .error ⟨.forbiddenMutation, "shadow forbids " ++ kind.value ++ " mutation"⟩

/-- The checks of an observation whose event is new. -/
def examine (case : ShadowCase host) (o : ShadowObservation host) : Except Refusal Unit := do
  let i := case.identity
  forbidMutation o.requestedMutation
  refuse (o.candidateSha ≠ i.candidateSha) ⟨.staleEvidence, "candidate-bound evidence is stale"⟩
  refuse (o.configuration.configurationDigest ≠ i.configuration.configurationDigest)
    ⟨.staleEvidence, "resolved configuration evidence has drifted"⟩
  refuse (o.configuration.workerProfileIdentity ≠ i.configuration.workerProfileIdentity ∨
    o.configuration.supervisorProfileIdentities ≠ i.configuration.supervisorProfileIdentities ∨
    o.configuration.selectedSupervisorProfileIdentity ≠ i.configuration.selectedSupervisorProfileIdentity)
    ⟨.staleEvidence, "resolved configuration profile evidence has drifted"⟩
  refuse (o.sourceId = none ∨ o.taskId = none ∨ o.baseSha = none ∨ o.policyIdentity = none)
    ⟨.incompleteEvidence, "bound identity evidence is missing"⟩
  refuse (o.inputs.identities ≠ i.inputs.identities ∨ o.inputs.digests ≠ i.inputs.digests)
    ⟨.staleEvidence, "immutable replay inputs have drifted"⟩
  refuse (o.inputs.payloads ≠ i.inputs.payloads) ⟨.staleEvidence, "immutable replay input content has drifted"⟩
  refuse (o.referenceResultDigest = none) ⟨.incompleteEvidence, "reference result content is missing"⟩
  refuse (o.referenceResultDigest ≠ some i.referenceResultDigest) ⟨.staleEvidence, "reference result content has drifted"⟩
  refuse (o.referenceResultPayload ≠ some i.referenceResultPayload) ⟨.staleEvidence, "reference result payload has drifted"⟩
  refuse (o.worktreeIdentity = none) ⟨.incompleteEvidence, "worktree evidence is missing"⟩
  refuse (o.worktreeClean = false) ⟨.incompleteEvidence, "worktree evidence is dirty"⟩
  refuse (o.attemptDisposition = .ambiguous) ⟨.incompleteEvidence, "ambiguous attempt is not replayable"⟩
  refuse (o.attemptDisposition ≠ .accepted) ⟨.incompleteEvidence, "review evidence is not accepted"⟩
  refuse (o.acceptedReviewIdentity = none) ⟨.incompleteEvidence, "accepted review evidence is missing"⟩
  refuse (o.gateIdentity = none) ⟨.incompleteEvidence, "gate evidence is missing"⟩
  refuse (o.applicability = .notApplicable ∧
    (o.sourceCount ≠ 1 ∨ o.notApplicableReason.map (·.val) ≠ some "isolated-single-source"))
    ⟨.incompleteEvidence, "not-applicable evidence is not justified"⟩

/-- The two accumulators of the loop: the observations kept, and the digest seen for each event. -/
structure Examined (host : ShadowHost) where
  observations : List (ShadowObservation host)
  seen : List (ShadowToken × PlainDigest)

/-- One pass of the loop: a repeat of an event must be exact and is dropped. -/
def pass (case : ShadowCase host) (x : Examined host) (o : ShadowObservation host) : Except Refusal (Examined host) :=
  match x.seen.lookup o.eventId with
  | some prior => do
    refuse (prior ≠ o.evidenceDigest) ⟨.contractMismatch, "replay event identity is ambiguous"⟩
    return x
  | none => do
    examine case o
    return ⟨x.observations ++ [o], x.seen ++ [(o.eventId, o.evidenceDigest)]⟩

/-- `_trace_error` -/
def traceError (states : List String) : Option Refusal :=
  if (∃ s ∈ states, s ∉ phaseTwoStates) ∨ ¬ states.Nodup then
    some ⟨.contractMismatch, "persisted states do not form a deterministic lifecycle trace"⟩
  else if states.length ≠ phaseTwoStates.length ∨ (∃ s ∈ phaseTwoStates, s ∉ states) then
    some ⟨.incompleteEvidence, "persisted lifecycle evidence omits a Phase 2 state"⟩
  else if states ≠ phaseTwoStates then some ⟨.contractMismatch, "persisted states are not in Phase 2 lifecycle order"⟩
  else none

structure FieldComparison where
  field : ComparisonField
  expected : String
  actual : String

def FieldComparison.agrees (c : FieldComparison) : Bool := c.expected = c.actual

/-- `value or "none"` of an optional token: a token is never empty. -/
def orNoneText (value : Option ShadowToken) : String := (value.map (·.val)).getD "none"

/-- The six comparisons; a final observation without a gate identity has been refused before. -/
def comparisons (case : ShadowCase host) (observations : List (ShadowObservation host)) (final : ShadowObservation host) :
    List FieldComparison :=
  [⟨.state, ",".intercalate phaseTwoStates, ",".intercalate (observations.map (·.state.val))⟩,
    ⟨.gate, case.identity.gateIdentity, (final.gateIdentity.map (·.val)).getD ""⟩,
    ⟨.identity, (expectedIdentityDigest case.identity observations.length).text, (observedIdentityDigest observations).text⟩,
    ⟨.applicability, case.expectedApplicability.value, final.applicability.value⟩,
    ⟨.blocker, orNoneText case.expectedBlocker, orNoneText final.blocker⟩,
    ⟨.nextAction, case.identity.expectedNextAction, final.nextAction⟩]

structure ShadowReport where
  outcome : ComparisonOutcome
  classification : ReplayClassification
  replayedStates : List String
  comparisons : List FieldComparison
  detail : String
  disposition : Option MismatchDisposition

/-- `_disposition_for`, which nothing asks about an exact match. -/
def dispositionFor : ReplayClassification → Option MismatchDisposition
  | .exactMatch => none
  | .expectedNondeterminism => some .expectedChange
  | .staleEvidence => some .inputDrift
  | .incompleteEvidence => some .environmentLimitation
  | .forbiddenMutation => some .semanticRegression
  | .contractMismatch => some .inputDrift

/-- `_invalid_report` -/
def invalidReport (r : Refusal) : ShadowReport := ⟨.invalid, r.classification, [], [], r.detail, dispositionFor r.classification⟩

/-- The comparison of a complete trace with the case. -/
def verdict (case : ShadowCase host) (observations : List (ShadowObservation host)) (final : ShadowObservation host) :
    ShadowReport :=
  let states := observations.map (·.state.val)
  let compared := comparisons case observations final
  let differences := compared.filter fun c => c.agrees = false
  if differences = [] then ⟨.matched, .exactMatch, states, compared, "exact deterministic match", none⟩
  else if differences.any fun c => c.field = .identity ∨ c.field = .gate then
    ⟨.invalid, .contractMismatch, states, compared, "bound identity evidence differs", dispositionFor .contractMismatch⟩
  else if differences.all fun c => c.field ∈ case.expectedNondeterminism then
    ⟨.mismatch, .expectedNondeterminism, states, compared, "declared nondeterministic fields differ",
      dispositionFor .expectedNondeterminism⟩
  else ⟨.mismatch, .contractMismatch, states, compared, "deterministic comparison differs", some .semanticRegression⟩

/-- `ShadowExecutor.replay` -/
def replay (case : ShadowCase host) : ShadowReport :=
  match case.observations.foldlM (pass case) ⟨[], []⟩ with
  | .error r => invalidReport r
  | .ok x =>
    match x.observations.getLast? with
    | none => invalidReport ⟨.incompleteEvidence, "worker and supervisor observations are both required"⟩
    | some final =>
      if ¬ (.worker ∈ x.observations.map (·.role) ∧ .supervisor ∈ x.observations.map (·.role)) then
        invalidReport ⟨.incompleteEvidence, "worker and supervisor observations are both required"⟩
      else
        match traceError (x.observations.map (·.state.val)) with
        | some r => invalidReport r
        | none => verdict case x.observations final

end Roundwright.Shadow
