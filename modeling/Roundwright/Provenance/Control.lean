/-
The external selection control and its reconciliation. A control is loaded from pinned bytes; a FINAL one is reconciled
with what was validated, built and observed of the candidate, and the selection that results names all of it by
fingerprint.
-/
import Roundwright.Provenance.Policy

namespace Roundwright.Provenance

open Lib Lib.JsonText

/-! ## Texts -/

/-- `_safe_v2_token` -/
def isV2Token (text : String) : Bool :=
  let lowered := String.ofList (text.toList.map Char.toLower)
  headTail Char.isAlphanum (fun c => c.isAlphanum || c ∈ ['.', '_', '-']) 127 text &&
    (["token", "secret", "credential", "password", "ghp_"].all fun term => occurs term lowered = false) &&
    ("sk-".toList.isPrefixOf lowered.toList) = false

/-- `_safe_profile_id` -/
def isProfileId (text : String) : Bool :=
  (match text.toList.splitOn '/' with
    | [kind, name, version] =>
      kind = "roundwright-shadow-profile".toList &&
        headTail isLowerOrDigit (fun c => isLowerOrDigit c || c ∈ ['.', '_', '-']) 127 (String.ofList name) &&
        version.head? = some 'v' && version.tail ≠ ['0'] && isDecimal version.tail
    | _ => false) && isV2Token (String.ofList (text.toList.map fun c => if c = '/' then '-' else c))

/-- `[0-9]+\.[0-9]+\.[0-9]+` -/
def isNormalizedVersion (text : String) : Bool :=
  let parts := text.toList.splitOn '.'
  parts.length = 3 && parts.all fun part => part ≠ [] && part.all Char.isDigit

/-- `_parse_roundlet_retention_identity` -/
def parseRoundletRetentionIdentity (text : String) : Option (String × String × String) :=
  if text.toList.take 15 = "roundlet-local:".toList then
    match (text.toList.drop 15).splitOn '/' with
    | [run, tail] =>
      match tail.splitOn '-' with
      | [mode, candidate] =>
        if isHex 32 (String.ofList run) ∧ (mode = "rehearsal".toList ∨ mode = "final".toList) ∧
          isHex 40 (String.ofList candidate) then
          some (String.ofList run, String.ofList mode, String.ofList candidate)
        else none
      | _ => none
    | _ => none
  else none

def provenance (message : String) : Error := .provenanceRecord message

section Readers

variable {F : Type}

/-- `value[key]` of a `dict` that has the key. -/
def item (v : Value F) (key : String) : Value F := (v.get? key).getD .null

/-- The text is the one under the key. -/
def reads (v : Value F) (key text : String) : Bool := v.text? key = some text

/-- The value, where `type(value) is int`. -/
def asInt? : Value F → Option Int
  | .int n => some n
  | _ => none

/-- The integer under a key. -/
def int? (v : Value F) (key : String) : Option Int := (v.get? key).bind asInt?

def isNull (v : Value F) (key : String) : Bool :=
  match v.get? key with
  | some .null => true
  | _ => false

/-- The truth value under a key. -/
def bool? (v : Value F) (key : String) : Option Bool :=
  match v.get? key with
  | some (.bool b) => some b
  | _ => none

/-- `_strict_json_object` -/
def strictJsonObject (m : Machine F) (text label : String) : Except Error (Value F) := do
  let v ← demand (loads m.floats text) (provenance s!"{label} is invalid")
  refuse (v.isDict = false) (provenance s!"{label} is invalid")
  return v

end Readers

/-! ## The loaded control -/

structure ExternalSelectionControlExpectation (F : Type) where
  runId : String
  contractId : String
  orchestratorTask : String
  repository : String
  taskId : String
  baseSha : String
  candidateSha : String
  candidateTree : String
  leaf : Int
  route : String
  schema : String
  profile : String
  authorityAgentsBlob : String
  skillBlob : String
  qualificationBlob : String
  payloadDigest : String
  receiptDigest : String
  contractDigest : String
  originTree : String
  authorityBlockDigest : String
  liveLeaf : List (Value F)
  ownerInstructions : List (List (Value F))
  recorderStoreIdentity : String
  recorderStoreContract : String
  recorderBindingDigest : String

inductive ControlMode where
  | rehearsal | final
deriving DecidableEq

def ControlMode.value : ControlMode → String
  | .rehearsal => "REHEARSAL"
  | .final => "FINAL"

/-- `mode.lower()` -/
def ControlMode.lower : ControlMode → String
  | .rehearsal => "rehearsal"
  | .final => "final"

structure ExternalSelectionControl (F : Type) where
  payloadDigest : String
  receiptDigest : String
  contractDigest : String
  retentionIdentity : String
  mode : ControlMode
  captureReady : Bool
  payload : String
  receipt : String
  expected : ExternalSelectionControlExpectation F
  loadFingerprint : String

section Control

variable {F : Type} [DecidableEq F] (m : Machine F)

/-- `expected.__dict__` -/
def ExternalSelectionControlExpectation.fields (e : ExternalSelectionControlExpectation F) : Value F := .dict
  [("run_id", .str e.runId), ("contract_id", .str e.contractId), ("orchestrator_task", .str e.orchestratorTask),
    ("repository", .str e.repository), ("task_id", .str e.taskId), ("base_sha", .str e.baseSha),
      ("candidate_sha", .str e.candidateSha),
    ("candidate_tree", .str e.candidateTree), ("leaf", .int e.leaf), ("route", .str e.route), ("schema", .str e.schema),
    ("profile", .str e.profile), ("authority_agents_blob", .str e.authorityAgentsBlob), ("skill_blob", .str e.skillBlob),
    ("qualification_blob", .str e.qualificationBlob), ("payload_digest", .str e.payloadDigest),
      ("receipt_digest", .str e.receiptDigest),
    ("contract_digest", .str e.contractDigest), ("origin_tree", .str e.originTree),
      ("authority_block_digest", .str e.authorityBlockDigest),
    ("live_leaf", .arr e.liveLeaf), ("owner_instructions", .arr (e.ownerInstructions.map .arr)),
    ("recorder_store_identity", .str e.recorderStoreIdentity), ("recorder_store_contract", .str e.recorderStoreContract),
    ("recorder_binding_digest", .str e.recorderBindingDigest)]

/-- The texts of a selection are those that are expected, the leaf counts for the one that is. -/
def selectionExpected (selection : Value F) (e : ExternalSelectionControlExpectation F) : Bool :=
  reads selection "repository" e.repository && reads selection "worker_task" e.taskId && reads selection "base_sha"
    e.baseSha && reads selection "candidate_sha" e.candidateSha && reads selection "candidate_tree" e.candidateTree &&
    (selection.get? "active_leaf").any (·.same m.floats (.int e.leaf)) && reads selection "route" e.route &&
    reads selection "case_schema" e.schema && reads selection "evidence_profile" e.profile

/-- The authority of the payload is the one that is expected. -/
def authorityExpected (roundlet authority origin external active : Value F) (e : ExternalSelectionControlExpectation F) : Bool :=
  reads roundlet "run_id" e.runId && reads roundlet "contract_id" e.contractId && reads roundlet "orchestrator_task"
    e.orchestratorTask && reads origin "commit" e.baseSha && reads origin "tree" e.originTree &&
    reads active "agents_blob" e.authorityAgentsBlob && reads active "block_sha256" e.authorityBlockDigest &&
    reads external "skill_blob" e.skillBlob && reads external "qualification_blob" e.qualificationBlob &&
    (authority.get? "live_leaf").any (fun leaf => leaf.isDict &&
      Value.sameItems m.floats (["issue_database_id", "issue_node_id", "number", "updated_at", "body_sha256"].map
        (item leaf)) e.liveLeaf) &&
    match authority.get? "owner_instructions" with
    | some (.arr instructions) => instructions.all (·.isDict) &&
      Value.sameItems m.floats (instructions.map fun i => .arr
        (["comment_id", "comment_node_id", "body_sha256"].map (item i))) (e.ownerInstructions.map .arr)
    | _ => false

/-- The receipt is one of these bytes. -/
def receiptExpected (receipt : Value F) (payload : String) (e : ExternalSelectionControlExpectation F) : Bool :=
  reads receipt "schema" "roundwright-provenance-selection-control-receipt/v1" && reads receipt "payload_sha256"
    (m.sha256 payload) && (receipt.get? "payload_bytes").any (·.same m.floats (.int payload.utf8ByteSize)) &&
    reads receipt "contract_sha256" e.contractDigest && reads receipt "read_back" "VERIFIED" &&
      bool? receipt "append_only" = some true

/-- `ExternalSelectionControl.load`, of bytes that are UTF-8 texts. -/
def ExternalSelectionControl.load (payloadBytes receiptBytes : String) (expected : ExternalSelectionControlExpectation F) :
    Except Error (ExternalSelectionControl F) := do
  refuse (isDigest expected.recorderStoreIdentity = false ∨
    expected.recorderStoreContract ≠ "append-only-content-addressed-readback" ∨
    isDigest expected.recorderBindingDigest = false) (provenance "external recorder store expectation is invalid")
  let payload ← strictJsonObject m payloadBytes "external selection control"
  let receipt ← strictJsonObject m receiptBytes "external selection control receipt"
  refuse (m.sha256 payloadBytes ≠ expected.payloadDigest ∨ m.sha256 receiptBytes ≠ expected.receiptDigest)
    (provenance "external selection control bytes are not pinned")
  let receiptInvalid := provenance "external selection control receipt is invalid"
  refuse (receipt.hasKeys ["append_only", "capture_ready", "contract_sha256", "control_mode", "payload_bytes", "payload_sha256", "read_back",
    "retention_identity", "schema"] = false) receiptInvalid
  let retentionIdentity ← demand (receipt.text? "retention_identity") receiptInvalid
  let retention ← demand (parseRoundletRetentionIdentity retentionIdentity) receiptInvalid
  refuse (receiptExpected m receipt payloadBytes expected = false) receiptInvalid
  let selection := item payload "selection"
  let authority := item payload "authority"
  let roundlet := item payload "roundlet"
  refuse (selection.isDict = false ∨ authority.isDict = false ∨ roundlet.isDict = false ∨
    reads payload "schema" "roundwright-provenance-selection-control/v1" = false)
      (provenance "external selection control is invalid")
  let origin := item authority "origin_main"
  let external := item authority "external_validation_contract"
  let active := item authority "active_roundlet_block"
  refuse (origin.isDict = false ∨ external.isDict = false ∨ active.isDict = false)
    (provenance "external selection control authority is invalid")
  refuse (selectionExpected m selection expected = false ∨ authorityExpected m roundlet authority origin external active
    expected = false) (provenance "external selection control binding is invalid")
  let modeInvalid := provenance "external selection control mode is invalid"
  let mode ← demand ([ControlMode.rehearsal, .final].find? fun mode => reads payload "control_mode" mode.value) modeInvalid
  let ready ← demand (bool? payload "capture_ready") modeInvalid
  refuse (isHex 32 expected.runId = false ∨ reads receipt "control_mode" mode.value = false ∨
    bool? receipt "capture_ready" ≠ some ready ∨ retention ≠ (expected.runId, mode.lower, expected.candidateSha)) modeInvalid
  return {
    payloadDigest := m.sha256 payloadBytes
    receiptDigest := m.sha256 receiptBytes
    contractDigest := expected.contractDigest
    retentionIdentity, mode
    captureReady := ready
    payload := payloadBytes
    receipt := receiptBytes
    expected
    loadFingerprint := m.fingerprint (.dict
      [("payload_digest", .str (m.sha256 payloadBytes)), ("receipt_digest", .str (m.sha256 receiptBytes)),
        ("contract_digest", .str expected.contractDigest), ("retention_identity", .str retentionIdentity), ("mode", .str mode.value),
        ("capture_ready", .bool ready), ("expected", expected.fields)]) }

/-- `ExternalSelectionControl.verify_loaded`: the bytes load to the control again. -/
def ExternalSelectionControl.verifyLoaded (c : ExternalSelectionControl F) : Except Error Unit := do
  let invalid := provenance "external selection control seal is invalid"
  let reloaded ← rewrap (load m c.payload c.receipt c.expected) fun _ => invalid
  refuse ((c.payloadDigest, c.receiptDigest, c.contractDigest, c.retentionIdentity, c.mode, c.captureReady) ≠
    (reloaded.payloadDigest, reloaded.receiptDigest, reloaded.contractDigest, reloaded.retentionIdentity, reloaded.mode,
      reloaded.captureReady) ∨ c.loadFingerprint ≠ reloaded.loadFingerprint) invalid

end Control

/-! ## Projections -/

structure NamedContentIdentity where
  name : String
  digest : String
  version : Option String
  valid : isV2Token name = true ∧ isDigest digest = true ∧ version.all isV2Token = true

/-- `_canonical_named_identities` -/
def canonicalNamedIdentities (items : List NamedContentIdentity) (names : List String) (tools : Bool) : Bool :=
  items.map (·.name) = names && items.all fun i => i.version.isSome = tools

structure VerifiedValidationToolchainProjection where
  lockDigest : String
  cacheKey : String
  receiptDigest : String
  requirements : List NamedContentIdentity
  environments : List NamedContentIdentity
  tools : List NamedContentIdentity
  valid : isDigest lockDigest = true ∧ isV2Token cacheKey = true ∧ isDigest receiptDigest = true ∧
    canonicalNamedIdentities requirements ["build", "pipx"] false = true ∧
    canonicalNamedIdentities environments ["python", "build", "pipx"] false = true ∧
    canonicalNamedIdentities tools ["uv", "managed_python", "python", "pipx"] true = true

structure CandidateArtifactProjection where
  repository : String
  taskId : String
  candidateSha : String
  candidateTree : String
  sourceIdentity : String
  sourceDigest : String
  packageDigest : String
  installedEntrypointDigest : String
  valid : isRepository repository = true ∧ isV2Token taskId = true ∧ isHex 40 candidateSha = true ∧ isHex 40 candidateTree = true ∧
    isV2Token sourceIdentity = true ∧ isDigest sourceDigest = true ∧ isDigest packageDigest = true ∧
    isDigest installedEntrypointDigest = true

structure ReviewedGitObservation where
  repository : String
  taskId : String
  candidateSha : String
  bindingFingerprint : String
  identifier : String
  sourceIdentity : String
  sourceClass : String
  normalizedVersion : String
  reportedVersion : String
  artifactDigest : String
  executableDigest : String
  controlFingerprint : String
  valid : isRepository repository = true ∧ isV2Token taskId = true ∧ isHex 40 candidateSha = true ∧
    isDigest bindingFingerprint = true ∧
    isDigest executableDigest = true ∧ isDigest artifactDigest = true ∧ isDigest controlFingerprint = true ∧
      isV2Token identifier = true ∧
    isV2Token sourceIdentity = true ∧ isV2Token sourceClass = true ∧ isNormalizedVersion normalizedVersion = true ∧
    isV2Token reportedVersion = true

section Projections

variable {F : Type} (m : Machine F)

namespace VerifiedValidationToolchainProjection

variable (v : VerifiedValidationToolchainProjection)

/-- `public_payload` -/
def publicPayload : Value F := .dict
  [("lock_digest", .str v.lockDigest), ("cache_key", .str v.cacheKey), ("receipt_digest", .str v.receiptDigest),
    ("requirements", .dict (v.requirements.map fun i => (i.name, .str i.digest))),
    ("environments", .dict (v.environments.map fun i => (i.name, .str i.digest))),
    ("tools", .dict (v.tools.map fun i => (i.name, .dict [("version", (i.version.map .str).getD .null), ("digest", .str i.digest)])))]

def projectionFingerprint : String := m.fingerprint (.dict
  [("lock_digest", .str v.lockDigest), ("cache_key", .str v.cacheKey), ("receipt_digest", .str v.receiptDigest),
    ("requirements", .arr (v.requirements.map fun i => texts [i.name, i.digest])),
    ("environments", .arr (v.environments.map fun i => texts [i.name, i.digest])),
    ("tools", .arr (v.tools.map fun i => .arr [.str i.name, (i.version.map .str).getD .null, .str i.digest]))])

end VerifiedValidationToolchainProjection

def CandidateArtifactProjection.projectionFingerprint (a : CandidateArtifactProjection) : String := m.fingerprint (.dict
  [("repository", .str a.repository), ("task_id", .str a.taskId), ("candidate_sha", .str a.candidateSha),
    ("candidate_tree", .str a.candidateTree), ("source_identity", .str a.sourceIdentity), ("source_digest", .str a.sourceDigest),
    ("package_digest", .str a.packageDigest), ("installed_entrypoint_digest", .str a.installedEntrypointDigest)])

/-- `_payload` -/
def ReviewedGitObservation.payload (o : ReviewedGitObservation) : Value F := .dict
  [("repository", .str o.repository), ("task_id", .str o.taskId), ("candidate_sha", .str o.candidateSha),
    ("binding_fingerprint", .str o.bindingFingerprint), ("identifier", .str o.identifier),
      ("source_identity", .str o.sourceIdentity),
    ("source_class", .str o.sourceClass), ("normalized_version", .str o.normalizedVersion),
      ("reported_version", .str o.reportedVersion),
    ("artifact_digest", .str o.artifactDigest), ("executable_digest", .str o.executableDigest),
    ("control_fingerprint", .str o.controlFingerprint)]

def ReviewedGitObservation.observationFingerprint (o : ReviewedGitObservation) : String := m.fingerprint o.payload

end Projections

structure GitEntrypointControl {F : Type} [DecidableEq F] (m : Machine F) where
  binding : CandidateBinding
  dependencyControl : DependencyExecutionControl m
  now : Int
  valid : 0 ≤ now ∧ dependencyControl.require binding .gitEntrypoint now = .ok ()

/-! ## The selection -/

/-- The columns of `VerifiedProvenanceSelection` that its fingerprint is of. -/
structure SelectionColumns where
  payloadDigest : String
  receiptDigest : String
  contractDigest : String
  retentionIdentity : String
  selectionAt : Int
  candidateFingerprint : String
  validationFingerprint : String
  gitFingerprint : String
  controlFingerprint : String
  recorderStoreFingerprint : String

structure VerifiedProvenanceSelection (F : Type) extends SelectionColumns where
  selectionFingerprint : String
  externalLoadFingerprint : String
  loadedControl : ExternalSelectionControl F
  reconciliationFingerprint : String

section Selection

variable {F : Type} [DecidableEq F] (m : Machine F)

/-- `_payload` -/
def SelectionColumns.value (c : SelectionColumns) : Value F := .dict
  [("payload_digest", .str c.payloadDigest), ("receipt_digest", .str c.receiptDigest),
    ("contract_digest", .str c.contractDigest), ("retention_identity", .str c.retentionIdentity),
      ("selection_at", .int c.selectionAt),
    ("candidate_fingerprint", .str c.candidateFingerprint), ("validation_fingerprint", .str c.validationFingerprint),
    ("git_fingerprint", .str c.gitFingerprint), ("control_fingerprint", .str c.controlFingerprint),
    ("recorder_store_fingerprint", .str c.recorderStoreFingerprint)]

/-- `_validate` -/
def SelectionColumns.validate (c : SelectionColumns) : Except Error Unit :=
  refuse (([c.payloadDigest, c.receiptDigest, c.contractDigest, c.candidateFingerprint, c.validationFingerprint, c.gitFingerprint,
      c.controlFingerprint, c.recorderStoreFingerprint].any fun d => isDigest d = false) ∨
      parseRoundletRetentionIdentity c.retentionIdentity = none ∨ c.selectionAt < 0)
    (provenance "verified provenance selection is invalid")

/-- The fingerprint of a selection with its control. -/
def sealFingerprint (selection loadedControl : String) : String :=
  m.fingerprint (.dict [("selection", .str selection), ("loaded_control", .str loadedControl)])

/-- `_from_reconciliation` -/
def VerifiedProvenanceSelection.fromReconciliation (c : SelectionColumns) (control : ExternalSelectionControl F) :
    Except Error (VerifiedProvenanceSelection F) := do
  c.validate
  return { toSelectionColumns := c
           selectionFingerprint := m.fingerprint c.value
           externalLoadFingerprint := control.loadFingerprint
           loadedControl := control
           reconciliationFingerprint := sealFingerprint m (m.fingerprint c.value) control.loadFingerprint }

/-- `verify_reconciliation` -/
def VerifiedProvenanceSelection.verifyReconciliation (s : VerifiedProvenanceSelection F) : Except Error Unit := do
  s.toSelectionColumns.validate
  refuse (s.selectionFingerprint ≠ m.fingerprint s.value ∨ isDigest s.externalLoadFingerprint = false ∨
      s.reconciliationFingerprint ≠ sealFingerprint m s.selectionFingerprint s.externalLoadFingerprint)
    (provenance "verified provenance selection is unsealed")

/-- `verify_selection_for_durable_record`; the control of the selection is this one when it has the same bytes. -/
def verifySelectionForDurableRecord (control : ExternalSelectionControl F) (s : VerifiedProvenanceSelection F) :
    Except Error Unit := do
  control.verifyLoaded m
  s.verifyReconciliation m
  refuse ((s.loadedControl.payload, s.loadedControl.receipt) ≠ (control.payload, control.receipt) ∨
      s.externalLoadFingerprint ≠ control.loadFingerprint ∨
      (s.payloadDigest, s.receiptDigest, s.contractDigest, s.retentionIdentity) ≠
        (control.payloadDigest, control.receiptDigest, control.contractDigest, control.retentionIdentity))
    (provenance "durable provenance selection binding is invalid")

/-- `_control_fingerprint` -/
def controlFingerprint (c : DependencyExecutionControl m) (now : Int) : Except Error (String × List String) := do
  refuse (c.observations = []) (provenance "dependency control is invalid")
  refuse ((c.observations.any fun o => o.binding ≠ c.policy.binding ∨ o.policyDigest ≠ c.policy.policyDigest) ∨
      ¬ (c.observations.map (·.component)).Nodup ∨
      ¬ (DependencyComponent.all.all fun k => (k ∈ c.observations.map (·.component)) = (k ∈ c.policy.components.map (·.component))))
    (provenance "dependency observations are incomplete")
  rewrap (c.require c.policy.binding .gitEntrypoint now) fun _ => provenance "dependency control is not admitted"
  let fingerprints := (sortBy (·.component.value) c.observations).map (·.fingerprint m)
  return (m.fingerprint (.dict
    [("binding", .str (c.policy.binding.fingerprint m)), ("policy", .str c.policy.coreFingerprint),
      ("observations", texts fingerprints),
        ("admission", texts [c.admission.policyFingerprint, c.admission.receiptDigest, c.admission.reviewerIdentity, c.admission.authorityDigest])]), fingerprints)

/-! ## Reconciliation -/

/-- `CaptureMode.TERMINAL_SNAPSHOT` and the other texts of a selection that is ready for a record. -/
def selectionReady (selection : Value F) : Bool :=
  reads selection "capture_mode" "terminal-snapshot" && reads selection "gate" "recorder-capture-readiness" &&
    isNull selection "blocker" && reads selection "next_action" "record-terminal-snapshot"

/-- The fingerprint of a Git control. -/
def gitControlFingerprint (binding : CandidateBinding) (dependency : String) (now : Int) : String := m.fingerprint (.dict
  [("binding", .str (binding.fingerprint m)), ("dependency", .str dependency), ("now", .int now)])

/-- `_PROVENANCE_EXPORT_ARTIFACT_KINDS` -/
def exportArtifactKinds : List String :=
  ["candidate-source", "candidate-package", "installed-roundwright-entrypoint", "reviewed-git-artifact", "reviewed-git-executable"]

/-- `PROVENANCE_DECISION_PROFILE` -/
def provenanceDecisionProfile : String := "roundwright-shadow-profile/provenance-decision/v1"

def expectedArtifacts (a : CandidateArtifactProjection) (g : ReviewedGitObservation) : Value F := .dict
  [("candidate_source", .dict [("source_identity", .str a.sourceIdentity), ("digest", .str a.sourceDigest)]),
    ("candidate_package", .str a.packageDigest), ("installed_roundwright_entrypoint", .str a.installedEntrypointDigest),
    ("reviewed_git_entrypoint", .dict
      [("binding_fingerprint", .str g.bindingFingerprint), ("identifier", .str g.identifier),
        ("source_identity", .str g.sourceIdentity), ("source_class", .str g.sourceClass),
          ("normalized_version", .str g.normalizedVersion),
        ("reported_version", .str g.reportedVersion), ("artifact_digest", .str g.artifactDigest),
        ("executable_digest", .str g.executableDigest), ("control_fingerprint", .str g.controlFingerprint)]),
    ("export_artifact_kinds", texts exportArtifactKinds)]

/-- The admission as it is written. -/
def TrustedDependencyAdmission.value {m : Machine F} (a : TrustedDependencyAdmission m) : Value F := .dict
  [("policy_fingerprint", .str a.policyFingerprint), ("receipt_digest", .str a.receiptDigest),
    ("reviewer_identity", .str a.reviewerIdentity), ("authority_digest", .str a.authorityDigest)]

def expectedDependency (c : DependencyExecutionControl m) : Value F := .dict
  [("binding_fingerprint", .str (c.policy.binding.fingerprint m)),
    ("policy_fingerprint", .str c.policy.coreFingerprint),
      ("observations", .arr ((sortBy (·.component.value) c.observations).map fun o =>
      .dict [("component", .str o.component.value), ("fingerprint", .str (o.fingerprint m))])),
    ("admission", c.admission.value)]

def expectedRecorderStore (e : ExternalSelectionControlExpectation F) (candidateSha : String) : Value F := .dict
  [("profile", .str provenanceDecisionProfile), ("candidate_sha", .str candidateSha),
    ("recorder_binding_digest", .str e.recorderBindingDigest), ("store_identity", .str e.recorderStoreIdentity),
    ("retention_contract", .str e.recorderStoreContract)]

/-- The fingerprint of a candidate with its artifacts. -/
def candidateFingerprint (repository taskId baseSha candidateSha candidateTree artifacts : String) : String := m.fingerprint (.dict
  [("repository", .str repository), ("task_id", .str taskId), ("base_sha", .str baseSha),
    ("candidate_sha", .str candidateSha), ("candidate_tree", .str candidateTree), ("artifacts", .str artifacts)])

/-- The fingerprint of the controls. -/
def controlsFingerprint (dependency gitControl : String) (observations : List String) : String := m.fingerprint (.dict
  [("dependency", .str dependency), ("git_control", .str gitControl), ("observations", texts observations)])

def expectedPublic (selection : Value F) (e : ExternalSelectionControlExpectation F)
    (candidate validation dependency git recorder : String) :
    Value F := .dict
  [("repository", .str e.repository), ("task_id", .str e.taskId), ("base_sha", .str e.baseSha),
    ("candidate_sha", .str e.candidateSha), ("candidate_tree", .str e.candidateTree), ("route", item selection "route"),
      ("case_schema", item selection "case_schema"),
    ("evidence_profile", item selection "evidence_profile"), ("capture_mode", item selection "capture_mode"),
    ("gate", item selection "gate"), ("blocker", item selection "blocker"), ("next_action", item selection "next_action"),
    ("candidate_fingerprint", .str candidate), ("validation_fingerprint", .str validation),
      ("dependency_fingerprint", .str dependency),
    ("git_fingerprint", .str git), ("recorder_store_fingerprint", .str recorder)]

/-- What is reconciled with the control. -/
structure Evidence where
  validation : VerifiedValidationToolchainProjection
  artifacts : CandidateArtifactProjection
  gitControl : GitEntrypointControl m
  gitObservation : ReviewedGitObservation
  dependencyControl : DependencyExecutionControl m

variable {m}

namespace Evidence

variable (i : Evidence m)

/-- The evidence is of the candidate that is selected. -/
def bound (repository taskId candidateSha candidateTree : String) (selectionAt : Int) : Bool :=
  let binding := i.dependencyControl.policy.binding
  (binding.repository, binding.taskId, binding.candidateSha) = (repository, taskId, candidateSha) &&
    (i.artifacts.repository, i.artifacts.taskId, i.artifacts.candidateSha, i.artifacts.candidateTree) =
      (repository, taskId, candidateSha, candidateTree) &&
    (i.gitControl.binding.repository, i.gitControl.binding.taskId, i.gitControl.binding.candidateSha) =
      (repository, taskId, candidateSha) &&
    i.gitControl.dependencyControl = i.dependencyControl && i.gitControl.now = selectionAt &&
    (i.gitObservation.repository, i.gitObservation.taskId, i.gitObservation.candidateSha) = (repository, taskId, candidateSha) &&
    i.gitObservation.bindingFingerprint = binding.fingerprint m

/-- The artifacts and the reviewed Git are those that were observed. -/
def observed : Bool :=
  (i.dependencyControl.observations.find? fun o => o.component.value = "package").any (fun package =>
    i.artifacts.sourceIdentity = package.sourceIdentity && i.artifacts.packageDigest = package.artifactDigest &&
      i.artifacts.installedEntrypointDigest = package.executableDigest) &&
  (i.dependencyControl.observations.find? fun o => o.component.value = "git-executable").any fun git =>
    (i.gitObservation.identifier, i.gitObservation.sourceIdentity, i.gitObservation.normalizedVersion,
      i.gitObservation.artifactDigest, i.gitObservation.executableDigest) =
        (git.identifier, git.sourceIdentity, git.version, git.artifactDigest, git.executableDigest)

end Evidence

variable (m)

/-- `reconcile_final_provenance_selection` -/
def reconcileFinalProvenanceSelection (control : ExternalSelectionControl F) (i : Evidence m) (now : Int) :
    Except Error (VerifiedProvenanceSelection F) := do
  refuse (now < 0 ∨ control.mode ≠ .final ∨ control.captureReady = false) (provenance "final provenance selection is unavailable")
  control.verifyLoaded m
  let payload ← strictJsonObject m control.payload "external selection control"
  let selection := item payload "selection"
  let freshness := item payload "freshness"
  let e := control.expected
  let invalid := provenance "final provenance selection is invalid"
  refuse (selection.isDict = false ∨ freshness.isDict = false) invalid
  let incomplete := provenance "final provenance selection is incomplete"
  refuse (selection.hasKeys ["repository", "worker_task", "base_sha", "candidate_sha", "candidate_tree", "active_leaf", "route", "case_schema",
      "evidence_profile", "capture_mode", "gate", "blocker", "next_action"] = false ∨
    freshness.hasKeys ["selection_at", "valid_until", "candidate_movement_invalidates"] = false) incomplete
  refuse (payload.hasKeys ["schema", "control_mode", "capture_ready", "roundlet", "selection", "authority", "control_contract_digest",
    "freshness", "validation_toolchain", "artifacts", "dependency_control", "recorder_store",
      "public_safe_projection"] = false) incomplete
  let selectionAt ← demand (int? freshness "selection_at") invalid
  let validUntil ← demand (int? freshness "valid_until") invalid
  refuse (isRepository e.repository = false ∨ isV2Token e.taskId = false ∨
    ([e.baseSha, e.candidateSha, e.candidateTree].any fun sha => isHex 40 sha = false) ∨ selectionExpected m selection e = false ∨
    selectionReady selection = false ∨ selectionAt < 0 ∨ validUntil < selectionAt ∨
    bool? freshness "candidate_movement_invalidates" ≠ some true ∨ ¬ (selectionAt ≤ now ∧ now ≤ validUntil)) invalid
  refuse (i.bound e.repository e.taskId e.candidateSha e.candidateTree selectionAt = false)
    (provenance "final provenance selection binding is invalid")
  rewrap (i.gitControl.dependencyControl.require i.gitControl.binding .gitEntrypoint selectionAt)
    fun _ => provenance "reviewed Git control is not admitted"
  let (dependency, observations) ← controlFingerprint m i.dependencyControl selectionAt
  let gitControl := gitControlFingerprint m i.gitControl.binding dependency i.gitControl.now
  refuse (i.gitObservation.controlFingerprint ≠ gitControl) (provenance "reviewed Git control does not match")
  refuse (i.observed = false) (provenance "reviewed dependency observations do not match")
  refuse ((item payload "validation_toolchain").same m.floats i.validation.publicPayload = false)
    (provenance "strict validation projection does not match")
  refuse ((item payload "artifacts").same m.floats (expectedArtifacts i.artifacts i.gitObservation) = false)
    (provenance "candidate artifact projection does not match")
  refuse ((item payload "dependency_control").same m.floats (expectedDependency m i.dependencyControl) = false)
    (provenance "dependency projection does not match")
  let recorder := item payload "recorder_store"
  refuse (recorder.same m.floats (expectedRecorderStore e e.candidateSha) = false)
    (provenance "recorder store selection does not match")
  let candidate := candidateFingerprint m e.repository e.taskId e.baseSha e.candidateSha e.candidateTree
    (i.artifacts.projectionFingerprint m)
  let validation := i.validation.projectionFingerprint m
  let git := i.gitObservation.observationFingerprint m
  refuse ((item payload "public_safe_projection").same m.floats
      (expectedPublic selection e candidate validation dependency git (m.fingerprint recorder)) = false)
    (provenance "public-safe selection projection does not match")
  refuse (reads payload "control_contract_digest" control.contractDigest = false)
    (provenance "external control contract digest does not match")
  VerifiedProvenanceSelection.fromReconciliation m
    { payloadDigest := control.payloadDigest
      receiptDigest := control.receiptDigest
      contractDigest := control.contractDigest
      retentionIdentity := control.retentionIdentity
      selectionAt
      candidateFingerprint := candidate
      validationFingerprint := validation
      gitFingerprint := git
      controlFingerprint := controlsFingerprint m dependency gitControl observations
      recorderStoreFingerprint := m.fingerprint recorder } control

end Selection

end Roundwright.Provenance
