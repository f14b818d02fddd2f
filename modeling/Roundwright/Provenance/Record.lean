/-
Verified provenance records: the closed document that a reconciled selection is sealed in, its verifier, which reads
every projection back from the document and derives every fingerprint again, and the append-only store of the records.
-/
import Roundwright.Provenance.Control

namespace Roundwright.Provenance

open Lib Lib.JsonText

section Document

variable {F : Type} [DecidableEq F] (m : Machine F)

def recordInvalid : Error := provenance "verified provenance record is invalid"

def recordIncomplete : Error := provenance "verified provenance record is incomplete"

/-! ## Sections of the document -/

/-- The control that a record is of. -/
def checkExternal (external selection fingerprints : Value F) : Bool :=
  ((external.text? "retention_identity").bind parseRoundletRetentionIdentity).any (fun (run, mode, candidate) =>
    reads external "run_id" run && reads external "mode" mode && reads selection "candidate_sha" candidate) &&
    reads external "mode" "final" &&
    (["payload_digest", "receipt_digest", "contract_digest"].all fun name => (external.text? name).any isDigest) &&
    (fingerprints.keys.all fun name => (fingerprints.text? name).any isDigest) &&
    (external.text? "contract_id").any isV2Token && (external.text? "orchestrator_task").any isV2Token

def checkSelection (selection : Value F) : Bool :=
  (selection.text? "repository").any isRepository && (selection.text? "task_id").any isV2Token &&
    (["base_sha", "candidate_sha", "candidate_tree"].all fun name => (selection.text? name).any (isHex 40)) &&
    (int? selection "leaf").any (0 < ·) && (selection.text? "route").any isV2Token &&
    reads selection "case_schema" "roundwright-shadow-case/v2" && (selection.text? "profile").any isProfileId &&
    (["gate", "next_action"].all fun name => (selection.text? name).any isV2Token) && isNull selection "blocker" &&
    (int? selection "selection_at").any (0 ≤ ·)

def checkRecorderStore (store selection : Value F) : Bool :=
  store.hasKeys ["profile", "candidate_sha", "recorder_binding_digest", "store_identity", "retention_contract"] &&
    reads store "profile" provenanceDecisionProfile && (store.text? "candidate_sha" = selection.text? "candidate_sha") &&
    (store.text? "recorder_binding_digest").any isDigest && (store.text? "store_identity").any isDigest &&
    reads store "retention_contract" "append-only-content-addressed-readback"

def checkShapes (validation artifacts : Value F) : Bool :=
  validation.hasKeys ["lock_digest", "cache_key", "receipt_digest", "requirements", "environments", "tools"] &&
    (item validation "requirements").isDict && (item validation "environments").isDict && (item validation "tools").isDict &&
    (item validation "requirements").hasKeys ["build", "pipx"] && (item validation "environments").hasKeys
      ["python", "build", "pipx"] &&
    (item validation "tools").hasKeys ["uv", "managed_python", "python", "pipx"] &&
    artifacts.hasKeys ["candidate_source", "candidate_package", "installed_roundwright_entrypoint",
      "reviewed_git_entrypoint", "export_artifact_kinds"] &&
    (item artifacts "candidate_source").isDict && (item artifacts "candidate_source").hasKeys ["source_identity", "digest"] &&
    (item artifacts "reviewed_git_entrypoint").isDict &&
    (item artifacts "reviewed_git_entrypoint").hasKeys
      ["repository", "task_id", "candidate_sha", "binding_fingerprint", "identifier", "source_identity", "source_class",
        "normalized_version", "reported_version", "artifact_digest", "executable_digest",
      "control_fingerprint"] &&
    (item artifacts "export_artifact_kinds").same m.floats (texts exportArtifactKinds)

/-- The keys of an observation. -/
def observationKeys : List String :=
  ["component", "identifier", "version", "source_identity", "artifact_digest", "executable_digest", "observed_at",
    "policy_digest", "fingerprint"]

def checkDependency (dependency : Value F) : Bool :=
  dependency.hasKeys ["binding_fingerprint", "policy_fingerprint", "policy_digest", "observations", "admission"] &&
    (["binding_fingerprint", "policy_fingerprint", "policy_digest"].all fun name => (dependency.text? name).any isDigest) &&
    (item dependency "admission").isDict &&
    (item dependency "admission").hasKeys ["policy_fingerprint", "receipt_digest", "reviewer_identity", "authority_digest"] &&
    ((item dependency "admission").keys.all fun name => ((item dependency "admission").text? name).any isDigest)

def checkObservation (o : Value F) : Bool :=
  o.isDict && o.hasKeys observationKeys &&
    (["component", "identifier", "source_identity", "version"].all fun name => (o.text? name).any isV2Token) &&
    (int? o "observed_at").any (0 ≤ ·) &&
    ["artifact_digest", "executable_digest", "policy_digest", "fingerprint"].all fun name => (o.text? name).any isDigest

/-! ## Projections read back -/

/-- `NamedContentIdentity(…)` -/
def NamedContentIdentity.mk? (name digest : String) (version : Option String) : Option NamedContentIdentity :=
  if h : isV2Token name = true ∧ isDigest digest = true ∧ version.all isV2Token = true then some ⟨name, digest, version, h⟩ else none

/-- `VerifiedValidationToolchainProjection(…)` of the document. -/
def readValidation (v : Value F) : Option VerifiedValidationToolchainProjection := do
  let lockDigest ← v.text? "lock_digest"
  let cacheKey ← v.text? "cache_key"
  let receiptDigest ← v.text? "receipt_digest"
  let requirements ← ["build", "pipx"].mapM fun name => do NamedContentIdentity.mk? name (← (item v "requirements").text? name) none
  let environments ← ["python", "build", "pipx"].mapM fun name =>
    do NamedContentIdentity.mk? name (← (item v "environments").text? name) none
  let tools ← ["uv", "managed_python", "python", "pipx"].mapM fun name => do
    let tool ← (item v "tools").get? name
    NamedContentIdentity.mk? name (← tool.text? "digest") (tool.text? "version")
  if h : isDigest lockDigest = true ∧ isV2Token cacheKey = true ∧ isDigest receiptDigest = true ∧
      canonicalNamedIdentities requirements ["build", "pipx"] false = true ∧
      canonicalNamedIdentities environments ["python", "build", "pipx"] false = true ∧
      canonicalNamedIdentities tools ["uv", "managed_python", "python", "pipx"] true = true then
    some ⟨lockDigest, cacheKey, receiptDigest, requirements, environments, tools, h⟩
  else none

/-- `CandidateArtifactProjection(…)` of the document. -/
def readArtifacts (selection v : Value F) : Option CandidateArtifactProjection := do
  let repository ← selection.text? "repository"
  let taskId ← selection.text? "task_id"
  let candidateSha ← selection.text? "candidate_sha"
  let candidateTree ← selection.text? "candidate_tree"
  let sourceIdentity ← (item v "candidate_source").text? "source_identity"
  let sourceDigest ← (item v "candidate_source").text? "digest"
  let packageDigest ← v.text? "candidate_package"
  let installed ← v.text? "installed_roundwright_entrypoint"
  if h : isRepository repository = true ∧ isV2Token taskId = true ∧ isHex 40 candidateSha = true ∧ isHex 40 candidateTree = true ∧
      isV2Token sourceIdentity = true ∧ isDigest sourceDigest = true ∧ isDigest packageDigest = true ∧ isDigest installed = true then
    some ⟨repository, taskId, candidateSha, candidateTree, sourceIdentity, sourceDigest, packageDigest, installed, h⟩
  else none

/-- `ReviewedGitObservation(…)` of the document. -/
def readGitObservation (v : Value F) : Option ReviewedGitObservation := do
  let repository ← v.text? "repository"
  let taskId ← v.text? "task_id"
  let candidateSha ← v.text? "candidate_sha"
  let bindingFingerprint ← v.text? "binding_fingerprint"
  let identifier ← v.text? "identifier"
  let sourceIdentity ← v.text? "source_identity"
  let sourceClass ← v.text? "source_class"
  let normalizedVersion ← v.text? "normalized_version"
  let reportedVersion ← v.text? "reported_version"
  let artifactDigest ← v.text? "artifact_digest"
  let executableDigest ← v.text? "executable_digest"
  let controlFingerprint ← v.text? "control_fingerprint"
  if h : isRepository repository = true ∧ isV2Token taskId = true ∧ isHex 40 candidateSha = true ∧
    isDigest bindingFingerprint = true ∧
      isDigest executableDigest = true ∧ isDigest artifactDigest = true ∧ isDigest controlFingerprint = true ∧
      isV2Token identifier = true ∧ isV2Token sourceIdentity = true ∧ isV2Token sourceClass = true ∧
      isNormalizedVersion normalizedVersion = true ∧ isV2Token reportedVersion = true then
    some ⟨repository, taskId, candidateSha, bindingFingerprint, identifier, sourceIdentity, sourceClass,
      normalizedVersion, reportedVersion, artifactDigest, executableDigest, controlFingerprint, h⟩
  else none

/-- `CandidateBinding(…)` of the document. -/
def readBinding (selection : Value F) : Option CandidateBinding := do
  let repository ← selection.text? "repository"
  let taskId ← selection.text? "task_id"
  let candidateSha ← selection.text? "candidate_sha"
  if h : isRepository repository = true ∧ isTask taskId = true ∧ isHex 40 candidateSha = true then
    some ⟨repository, taskId, candidateSha, h⟩
  else none

/-- `ObservedDependency(…)` of the document. -/
def readObservation (binding : CandidateBinding) (v : Value F) : Option ObservedDependency := do
  let component ← (v.text? "component").bind DependencyComponent.ofText?
  let identifier ← v.text? "identifier"
  let version ← v.text? "version"
  let sourceIdentity ← v.text? "source_identity"
  let artifactDigest ← v.text? "artifact_digest"
  let executableDigest ← v.text? "executable_digest"
  let observedAt ← int? v "observed_at"
  let policyDigest ← v.text? "policy_digest"
  if h : isToken identifier = true ∧ isVersion version = true ∧ isToken sourceIdentity = true ∧ occurs "copilot" identifier = false ∧
      isDigest artifactDigest = true ∧ isDigest executableDigest = true ∧ isDigest policyDigest = true ∧ 0 ≤ observedAt then
    some ⟨binding, component, identifier, version, sourceIdentity, artifactDigest, executableDigest, observedAt, policyDigest, h⟩
  else none

/-! ## The verifier -/

/-- What the verifier has read of a document. -/
structure Reading where
  external : Value F
  selection : Value F
  recorderStore : Value F
  dependency : Value F
  validation : VerifiedValidationToolchainProjection
  artifacts : CandidateArtifactProjection
  git : ReviewedGitObservation
  binding : CandidateBinding
  observations : List ObservedDependency

namespace Reading

variable (r : Reading (F := F))

/-- `canonical_observations`, by their fingerprints. -/
def observationFingerprints : List String := (sortBy (·.component.value) r.observations).map (·.fingerprint m)

def dependencyFingerprint : String := m.fingerprint (.dict
  [("binding", .str (r.binding.fingerprint m)), ("policy", item r.dependency "policy_fingerprint"),
    ("observations", texts (r.observationFingerprints m)),
    ("admission", .arr (["policy_fingerprint", "receipt_digest", "reviewer_identity", "authority_digest"].map
      (item (item r.dependency "admission"))))])

def gitControlFingerprint : String := m.fingerprint (.dict
  [("binding", .str (r.binding.fingerprint m)), ("dependency", .str (r.dependencyFingerprint m)),
    ("now", item r.selection "selection_at")])

def candidateFingerprint : String := m.fingerprint (.dict
  [("repository", item r.selection "repository"), ("task_id", item r.selection "task_id"),
    ("base_sha", item r.selection "base_sha"), ("candidate_sha", item r.selection "candidate_sha"),
      ("candidate_tree", item r.selection "candidate_tree"),
    ("artifacts", .str (r.artifacts.projectionFingerprint m))])

def controlFingerprint : String :=
  controlsFingerprint m (r.dependencyFingerprint m) (r.gitControlFingerprint m) (r.observationFingerprints m)

def selectionFingerprint : String := m.fingerprint (.dict
  [("payload_digest", item r.external "payload_digest"), ("receipt_digest", item r.external "receipt_digest"),
    ("contract_digest", item r.external "contract_digest"), ("retention_identity", item r.external "retention_identity"),
    ("selection_at", item r.selection "selection_at"), ("candidate_fingerprint", .str (r.candidateFingerprint m)),
    ("validation_fingerprint", .str (r.validation.projectionFingerprint m)),
      ("git_fingerprint", .str (r.git.observationFingerprint m)),
    ("control_fingerprint", .str (r.controlFingerprint m)), ("recorder_store_fingerprint", .str (m.fingerprint r.recorderStore))])

/-- The fingerprints as they are derived again. -/
def fingerprints : Value F := .dict
  [("candidate", .str (r.candidateFingerprint m)), ("validation", .str (r.validation.projectionFingerprint m)),
    ("artifacts", .str (r.artifacts.projectionFingerprint m)), ("dependency", .str (r.dependencyFingerprint m)),
    ("git", .str (r.git.observationFingerprint m)), ("control", .str (r.controlFingerprint m)),
    ("selection", .str (r.selectionFingerprint m)), ("recorder_store", .str (m.fingerprint r.recorderStore))]

/-- The observations are those of the policy and the admission. -/
def dependencyConsistent (items : List (Value F)) : Bool :=
  (r.observationFingerprints m).map some = items.map (·.text? "fingerprint") &&
    (r.observations.all fun o => reads r.dependency "policy_digest" o.policyDigest) &&
    reads r.dependency "binding_fingerprint" (r.binding.fingerprint m) &&
    ((item r.dependency "admission").text? "policy_fingerprint" = r.dependency.text? "policy_fingerprint")

/-- The projections agree with the observations. -/
def projectionsConsistent : Bool :=
  (r.observations.find? fun o => o.component.value = "package").any (fun package =>
    r.artifacts.sourceIdentity = package.sourceIdentity && r.artifacts.packageDigest = package.artifactDigest &&
      r.artifacts.installedEntrypointDigest = package.executableDigest) &&
  (r.observations.find? fun o => o.component.value = "git-executable").any fun git =>
    reads r.selection "repository" r.git.repository && reads r.selection "task_id" r.git.taskId &&
      reads r.selection "candidate_sha" r.git.candidateSha && r.git.bindingFingerprint = r.binding.fingerprint m &&
      (r.git.identifier, r.git.sourceIdentity, r.git.normalizedVersion, r.git.artifactDigest, r.git.executableDigest) =
        (git.identifier, git.sourceIdentity, git.version, git.artifactDigest, git.executableDigest) &&
      r.git.controlFingerprint = r.gitControlFingerprint m

end Reading

/-- `_verified_record_document` -/
def verifiedRecordDocument (payload : String) : Except Error (Value F) := do
  let value ← strictJsonObject m payload "verified provenance record"
  refuse (value.hasKeys ["schema", "record_digest", "external", "selection", "fingerprints", "validation", "artifacts", "dependency",
    "recorder_store"] = false ∨ reads value "schema" "roundwright-verified-provenance-record/v1" = false) recordInvalid
  refuse (reads value "record_digest" (m.fingerprint (value.without "record_digest")) = false ∨ m.dumps value ≠ payload)
    (provenance "verified provenance record is non-canonical")
  let external := item value "external"
  let selection := item value "selection"
  let fingerprints := item value "fingerprints"
  let validation := item value "validation"
  let artifacts := item value "artifacts"
  let dependency := item value "dependency"
  let recorderStore := item value "recorder_store"
  refuse ([external, selection, fingerprints, validation, artifacts, dependency, recorderStore].any fun v =>
    v.isDict = false) recordInvalid
  refuse (external.hasKeys ["payload_digest", "receipt_digest", "contract_digest", "retention_identity", "run_id", "contract_id",
      "orchestrator_task", "mode"] = false ∨
    selection.hasKeys ["repository", "task_id", "base_sha", "candidate_sha", "candidate_tree", "leaf", "route",
      "case_schema", "profile", "selection_at", "gate", "blocker", "next_action"] = false ∨
    fingerprints.hasKeys ["candidate", "validation", "artifacts", "dependency", "git", "control", "selection",
      "recorder_store"] = false)
    recordIncomplete
  refuse (checkExternal external selection fingerprints = false ∨ checkSelection selection = false) recordInvalid
  refuse (checkRecorderStore recorderStore selection = false) (provenance "verified provenance recorder store is invalid")
  refuse (checkShapes m validation artifacts = false) recordIncomplete
  let readValidation ← demand (readValidation validation) recordInvalid
  let readArtifacts ← demand (readArtifacts selection artifacts) recordInvalid
  let git ← demand (readGitObservation (item artifacts "reviewed_git_entrypoint")) recordInvalid
  let dependencyInvalid := provenance "verified provenance record dependency is invalid"
  refuse (checkDependency dependency = false) dependencyInvalid
  let items ← match item dependency "observations" with
    | .arr (o :: rest) => .ok (o :: rest)
    | _ => .error dependencyInvalid
  let observationsInvalid := provenance "verified provenance record observations are invalid"
  refuse ((items.any fun o => checkObservation o = false) ∨ ¬ (items.map (·.text? "component")).Nodup) observationsInvalid
  let binding ← demand (readBinding selection) observationsInvalid
  let observations ← demand (items.mapM (readObservation binding)) observationsInvalid
  let r : Reading := ⟨external, selection, recorderStore, dependency, readValidation, readArtifacts, git, binding, observations⟩
  refuse (r.dependencyConsistent m items = false) (provenance "verified provenance record dependency is inconsistent")
  refuse (r.projectionsConsistent m = false ∨ fingerprints.same m.floats (r.fingerprints m) = false)
    (provenance "verified provenance record projections are inconsistent")
  return value

/-! ## Records -/

/-- `VerifiedDurableProvenanceRecord` -/
structure VerifiedDurableProvenanceRecord where
  payload : String
  recordDigest : String
  retentionIdentity : String
  candidateSha : String
  authorityFingerprint : String

/-- `VerifiedDurableProvenanceRecord.verify` -/
def VerifiedDurableProvenanceRecord.verify (r : VerifiedDurableProvenanceRecord) : Except Error Unit := do
  let unsealed := provenance "verified durable provenance record is unsealed"
  let document ← verifiedRecordDocument m r.payload
  refuse (reads document "record_digest" r.recordDigest = false ∨
    reads (item document "external") "retention_identity" r.retentionIdentity = false ∨
    reads (item document "selection") "candidate_sha" r.candidateSha = false) unsealed
  refuse (isDigest r.authorityFingerprint = false) unsealed

/-- `ReadBackVerifiedProvenanceRecord` -/
structure ReadBackVerifiedProvenanceRecord where
  payload : String
  recordDigest : String
  retentionIdentity : String
  candidateSha : String

/-- `_read_back_verified_record` -/
def readBackVerifiedRecord (payload : String) : Except Error ReadBackVerifiedProvenanceRecord := do
  let document ← verifiedRecordDocument m payload
  return ⟨payload, (document.text? "record_digest").getD "",
    ((item document "external").text? "retention_identity").getD "", ((item document "selection").text? "candidate_sha").getD ""⟩

/-- An observation as it is written. -/
def ObservedDependency.value (o : ObservedDependency) : Value F := .dict
  [("component", .str o.component.value), ("identifier", .str o.identifier), ("version", .str o.version),
    ("source_identity", .str o.sourceIdentity), ("artifact_digest", .str o.artifactDigest),
    ("executable_digest", .str o.executableDigest), ("observed_at", .int o.observedAt), ("policy_digest", .str o.policyDigest),
    ("fingerprint", .str (o.fingerprint m))]

def externalSection (control : ExternalSelectionControl F) : Value F := .dict
  [("payload_digest", .str control.payloadDigest), ("receipt_digest", .str control.receiptDigest),
    ("contract_digest", .str control.contractDigest), ("retention_identity", .str control.retentionIdentity),
    ("run_id", .str control.expected.runId), ("contract_id", .str control.expected.contractId),
    ("orchestrator_task", .str control.expected.orchestratorTask), ("mode", .str control.mode.lower)]

def selectionSection (binding : CandidateBinding) (value : Value F) (selectionAt : Int) : Value F := .dict
  [("repository", .str binding.repository), ("task_id", .str binding.taskId), ("base_sha", item value "base_sha"),
    ("candidate_sha", .str binding.candidateSha), ("candidate_tree", item value "candidate_tree"),
      ("leaf", item value "active_leaf"),
    ("route", item value "route"), ("case_schema", item value "case_schema"), ("profile", item value "evidence_profile"),
    ("selection_at", .int selectionAt), ("gate", item value "gate"), ("blocker", item value "blocker"),
    ("next_action", item value "next_action")]

def fingerprintsSection (selection : VerifiedProvenanceSelection F) (i : Evidence m) (dependency : String)
    (recorderStore : Value F) :
    Value F := .dict
  [("candidate", .str selection.candidateFingerprint), ("validation", .str (i.validation.projectionFingerprint m)),
    ("artifacts", .str (i.artifacts.projectionFingerprint m)), ("dependency", .str dependency),
    ("git", .str (i.gitObservation.observationFingerprint m)), ("control", .str selection.controlFingerprint),
    ("selection", .str selection.selectionFingerprint), ("recorder_store", .str (m.fingerprint recorderStore))]

def artifactsSection (a : CandidateArtifactProjection) (g : ReviewedGitObservation) : Value F := .dict
  [("candidate_source", .dict [("source_identity", .str a.sourceIdentity), ("digest", .str a.sourceDigest)]),
    ("candidate_package", .str a.packageDigest), ("installed_roundwright_entrypoint", .str a.installedEntrypointDigest),
    ("reviewed_git_entrypoint", g.payload), ("export_artifact_kinds", texts exportArtifactKinds)]

def dependencySection (c : DependencyExecutionControl m) : Value F := .dict
  [("binding_fingerprint", .str (c.policy.binding.fingerprint m)),
    ("policy_fingerprint", .str c.policy.coreFingerprint), ("policy_digest", .str c.policy.policyDigest),
    ("observations", .arr ((sortBy (·.component.value) c.observations).map (·.value m))), ("admission", c.admission.value)]

/-- The fields of the document that a selection is sealed in, without its digest. -/
def recordFields (control : ExternalSelectionControl F) (payload : Value F) (selection : VerifiedProvenanceSelection F)
    (i : Evidence m) (dependency : String) : List (String × Value F) :=
  [("schema", .str "roundwright-verified-provenance-record/v1"), ("external", externalSection control),
    ("selection", selectionSection i.dependencyControl.policy.binding (item payload "selection") selection.selectionAt),
    ("fingerprints", fingerprintsSection m selection i dependency (item payload "recorder_store")),
    ("validation", i.validation.publicPayload), ("artifacts", artifactsSection i.artifacts i.gitObservation),
    ("dependency", dependencySection m i.dependencyControl), ("recorder_store", item payload "recorder_store")]

/-- The document with the digest of its fields. -/
def digested (fields : List (String × Value F)) : Value F :=
    .dict (fields ++ [("record_digest", .str (m.fingerprint (.dict fields)))])

/-- `materialize_verified_provenance_record` -/
def materializeVerifiedProvenanceRecord (control : ExternalSelectionControl F)
    (selection : VerifiedProvenanceSelection F) (i : Evidence m) (now : Int) : Except Error VerifiedDurableProvenanceRecord := do
  verifySelectionForDurableRecord m control selection
  let rebuilt ← reconcileFinalProvenanceSelection m control i now
  refuse (rebuilt.selectionFingerprint ≠ selection.selectionFingerprint ∨
    rebuilt.reconciliationFingerprint ≠ selection.reconciliationFingerprint)
    (provenance "verified durable provenance selection is stale")
  let payload ← strictJsonObject m control.payload "external selection control"
  let (dependency, _) ← controlFingerprint m i.dependencyControl now
  let fields := recordFields m control payload selection i dependency
  let encoded := m.dumps (digested m fields)
  let checked ← verifiedRecordDocument m encoded
  return { payload := encoded
           recordDigest := (checked.text? "record_digest").getD ""
           retentionIdentity := ((item checked "external").text? "retention_identity").getD ""
           candidateSha := ((item checked "selection").text? "candidate_sha").getD ""
           authorityFingerprint := m.fingerprint (.dict
             [("control", .str control.loadFingerprint), ("selection", .str selection.reconciliationFingerprint),
               ("record", .str (m.fingerprint (.dict fields)))]) }

/-- `ReadBackVerifiedProvenanceRecord.verify_against` -/
def ReadBackVerifiedProvenanceRecord.verifyAgainst (r : ReadBackVerifiedProvenanceRecord)
    (control : ExternalSelectionControl F) (selection : VerifiedProvenanceSelection F) (i : Evidence m) (now : Int) :
    Except Error VerifiedDurableProvenanceRecord := do
  let rebuilt ← materializeVerifiedProvenanceRecord m control selection i now
  refuse (rebuilt.payload ≠ r.payload) (provenance "read-back provenance record does not match verified authority")
  return rebuilt

end Document

/-! ## The store -/

/-- What the disk has: the links, and the files under the root of a store by candidate and name. -/
structure Disk where
  links : List (List String)
  files : List ((String × String) × String)

def Disk.put (disk : Disk) (name : String × String) (payload : String) : Disk := { disk with files := (name, payload) :: disk.files }

/-- `VerifiedProvenanceRecordStore` -/
structure RecordStore where
  root : List String
  retentionIdentity : String
  valid : (parseRoundletRetentionIdentity retentionIdentity).isSome = true

/-- `_require_safe_path` -/
def requireSafePath (path : List String) (disk : Disk) : Except Error Unit :=
  refuse (path.inits.any fun p => p ∈ disk.links) (provenance "verified provenance record path must not traverse a link")

/-- The file of a record. -/
def fileName (recordDigest : String) : String := String.ofList (recordDigest.toList.drop 7) ++ ".json"

section Store

variable {F : Type} [DecidableEq F] (m : Machine F)

/-- `append` -/
def RecordStore.append (store : RecordStore) (record : VerifiedDurableProvenanceRecord)
    (control : ExternalSelectionControl F) (selection : VerifiedProvenanceSelection F) (i : Evidence m) (now : Int) :
    Tx Error Disk String := do
  let rebuilt ← Tx.check (materializeVerifiedProvenanceRecord m control selection i now)
  Tx.check (rewrap (record.verify m) fun _ => provenance "verified provenance record is unsealed")
  Tx.check (refuse (record.payload ≠ rebuilt.payload) (provenance "verified provenance record authority does not match"))
  Tx.query (requireSafePath store.root)
  Tx.check (refuse (record.retentionIdentity ≠ store.retentionIdentity)
    (provenance "verified provenance record store binding is invalid"))
  Tx.query (requireSafePath (store.root ++ [record.candidateSha]))
  Tx.query (requireSafePath (store.root ++ [record.candidateSha, fileName record.recordDigest]))
  let stored ← Tx.query fun disk => .ok (disk.files.lookup (record.candidateSha, fileName record.recordDigest))
  match stored with
  | some payload => Tx.check (refuse (payload ≠ record.payload) (provenance "verified provenance record overwrite is forbidden"))
  | none => Tx.write fun disk => .ok (disk.put (record.candidateSha, fileName record.recordDigest) record.payload)
  return record.recordDigest

/-- `read_back` -/
def RecordStore.readBack (store : RecordStore) (candidateSha recordDigest : String) (disk : Disk) :
    Except Error ReadBackVerifiedProvenanceRecord := do
  let invalid := provenance "verified provenance read-back is invalid"
  refuse (isHex 40 candidateSha = false ∨ isDigest recordDigest = false) invalid
  requireSafePath (store.root ++ [candidateSha, fileName recordDigest]) disk
  let payload ← demand (disk.files.lookup (candidateSha, fileName recordDigest))
    (provenance "verified provenance read-back is unavailable")
  let record ← readBackVerifiedRecord m payload
  refuse (record.recordDigest ≠ recordDigest ∨ record.candidateSha ≠ candidateSha ∨
    record.retentionIdentity ≠ store.retentionIdentity) invalid
  return record

end Store

end Roundwright.Provenance
