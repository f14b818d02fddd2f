/-
What a caller presents for a provider attempt: the recovery context with the health receipt that admits its
dispatch, and the checks of both that look at no database.
-/
import Roundwright.Recovery.Store

namespace Roundwright.Provider

open Lib State Recovery

/-- `ProviderHealthReceipt`, with the parts of its observation that are read; `ready` is `HealthState.READY`. -/
structure HealthReceipt where
  contractCommit : Sha
  candidateSha : Option Sha
  caseId : String
  receiptDigest : Digest
  selectionOrdinal : Nat
  configuration : RuntimeBinding
  role : ProviderRole
  profileIdentity : Digest
  healthContractIdentity : Digest
  ready : Bool
  observedAt : Int
  freshUntil : Int
deriving DecidableEq

structure RecoveryContext where
  taskId : String
  repositoryFingerprint : String
  worktreeFingerprint : String
  branchFingerprint : String
  baseFingerprint : String
  candidateFingerprint : Option String
  candidateSha : Option String
  policyFingerprint : String
  deploymentFingerprint : String
  runtimeBinding : RuntimeBinding
  healthContractCommit : Option String
  shadowCaseId : Option String
  healthReceipt : Option HealthReceipt
deriving DecidableEq

/-- `_context_values` -/
def RecoveryContext.values (c : RecoveryContext) : ContextValues :=
  ⟨c.repositoryFingerprint, c.worktreeFingerprint, c.branchFingerprint, c.baseFingerprint, c.candidateFingerprint,
    c.policyFingerprint, c.deploymentFingerprint, completeColumns c.runtimeBinding⟩

/-! ## Formats -/

/-- `_require_token` -/
def requireToken (value name : String) : Except Error Unit :=
  refuse (isName value = false) (.providerRecovery (name ++ " is invalid"))

/-- `_require_fingerprint` -/
def requireFingerprint (value name : String) : Except Error Unit :=
  refuse (isHex 64 value = false) (.providerRecovery (name ++ " is invalid"))

/-- `_validate_context` -/
def validateContext (host : Host) (identity : TaskIdentity) (c : RecoveryContext) : Except Error Unit := do
  refuse (c.taskId ≠ identity.taskId) (.providerRecovery "recovery context does not match the task")
  requireFingerprint c.repositoryFingerprint "repository fingerprint"
  requireFingerprint c.worktreeFingerprint "worktree fingerprint"
  requireFingerprint c.branchFingerprint "branch fingerprint"
  requireFingerprint c.baseFingerprint "base fingerprint"
  requireFingerprint c.policyFingerprint "policy fingerprint"
  requireFingerprint c.deploymentFingerprint "deployment fingerprint"
  let invalid : Error := .providerRecovery "candidate admission is invalid"
  match c.candidateFingerprint with
  | some candidateFingerprint => do
    requireFingerprint candidateFingerprint "candidate fingerprint"
    let candidateSha ← demand c.candidateSha invalid
    refuse (isHex 40 candidateSha = false ∨ candidateFingerprint ≠ fingerprint host candidateSha) invalid
  | none => refuse (c.candidateSha ≠ none) invalid

/-! ## The selected profile -/

/-- The profiles the turn of a role may select. -/
def allowedProfiles (binding : RuntimeBinding) (role : ProviderRole) : List Digest :=
  if role = .supervisor then binding.supervisorProfileIdentities else [binding.workerProfileIdentity]

/-- `_selected_profile_identity` -/
def selectedProfileIdentity (c : RecoveryContext) (role : ProviderRole) (requested : Option String) : Except Error String := do
  let allowed := (allowedProfiles c.runtimeBinding role).map (·.text)
  let selected := requested.getD (allowed.headD "")
  refuse (selected ∉ allowed) (.providerRecovery "selected provider profile identity is invalid")
  return selected

/-- The accounting position of an attempt: the place of its profile in the configuration and its output slot. -/
structure AccountingPosition where
  logicalProfilePosition : Int
  physicalFormatOutputOrdinal : Int

/-- The position checks of `prepare_attempt`; a Supervisor that names no logical position gets that of its profile. -/
def accountingPosition (c : RecoveryContext) (role : ProviderRole) (selected : String) (logical physical : Int) :
    Except Error AccountingPosition :=
  let profiles := c.runtimeBinding.supervisorProfileIdentities.map (·.text)
  if role = .supervisor then do
    let logical := if logical = 0 then (profiles.idxOf selected : Int) + 1 else logical
    refuse (¬ (1 ≤ logical ∧ logical ≤ profiles.length ∧ profiles[(logical - 1).toNat]? = some selected ∧
      0 ≤ physical ∧ physical ≤ 2)) (.providerRecovery "Supervisor accounting position is invalid")
    return ⟨logical, physical⟩
  else do
    refuse (logical ≠ 0 ∨ physical ≠ 0) (.providerRecovery "non-Supervisor accounting position is invalid")
    return ⟨0, 0⟩

/-- `_validate_supervisor_coordinate_request` -/
def validateSupervisorCoordinateRequest (role : ProviderRole) (reviewEpoch reviewRound : Option Int) :
    Except Error (Option (Int × Int)) :=
  if role ≠ .supervisor then do
    refuse (reviewEpoch ≠ none ∨ reviewRound ≠ none) (.providerRecovery "non-Supervisor attempt coordinate is invalid")
    return none
  else
    match reviewEpoch, reviewRound with
    | none, none => .ok none
    | some epoch, some round => do
      refuse (epoch < 0 ∨ round < 1) (.providerRecovery "Supervisor attempt coordinate is invalid")
      return some (epoch, round)
    | _, _ => .error (.providerRecovery "Supervisor attempt coordinate is invalid")

/-! ## Health -/

/-- `required_provider_selections`, by its ordinals. -/
def requiredProviderSelections (binding : RuntimeBinding) : List (ProviderRole × Digest) :=
  [(.planning, binding.workerProfileIdentity), (.worker, binding.workerProfileIdentity)] ++
    binding.supervisorProfileIdentities.map fun profile => (.supervisor, profile)

/-- `authorize` -/
def HealthReceipt.authorizes (receipt : HealthReceipt) (binding : RuntimeBinding) (role : ProviderRole)
    (profileIdentity contractCommit : String) (candidateSha : Option String) (caseId : String) (now : Int) : Bool :=
  receipt.contractCommit.text = contractCommit ∧ receipt.candidateSha.map (·.text) = candidateSha ∧ receipt.caseId = caseId ∧
    receipt.role = role ∧ receipt.profileIdentity.text = profileIdentity ∧ receipt.configuration = binding ∧ receipt.ready ∧
    receipt.observedAt ≤ now ∧ now < receipt.freshUntil

/-- `_require_health_authorization` -/
def requireHealthAuthorization (c : RecoveryContext) (role : ProviderRole) (profileIdentity : String) (observed : Int) :
    Except Error HealthReceipt :=
  let invalid : Error := .providerRecovery "provider health authorization is invalid"
  match c.healthContractCommit, c.shadowCaseId, c.healthReceipt with
  | some contractCommit, some caseId, some receipt => do
    refuse (receipt.authorizes c.runtimeBinding role profileIdentity contractCommit c.candidateSha caseId observed = false) invalid
    refuse ((requiredProviderSelections c.runtimeBinding)[receipt.selectionOrdinal]? ≠ some (role, receipt.profileIdentity)) invalid
    return receipt
  | _, _, _ => .error (.providerRecovery "provider health authorization is incomplete")

/-- `_health_authorization_values` -/
def HealthReceipt.values (receipt : HealthReceipt) (role : ProviderRole) (profileIdentity : String) : HealthValues :=
  ⟨receipt.contractCommit.text, receipt.candidateSha.map (·.text), receipt.caseId, receipt.receiptDigest.text,
    receipt.selectionOrdinal, receipt.freshUntil, receipt.healthContractIdentity.text, role.value, profileIdentity⟩

end Roundwright.Provider
