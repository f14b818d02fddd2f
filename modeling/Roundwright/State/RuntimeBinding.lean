/-
The resolved runtime configuration of a task: the immutable binding a caller presents, the two rows
it was recorded as (`runtime_configuration_bindings`, `runtime_review_policies`), and the check that
the presented binding is still the recorded one.
-/
import Roundwright.State.Ledger

namespace Roundwright.State

open Lib

/-- `RuntimeBinding`. Its `__post_init__` is the two last fields: profiles are distinct and there is
one at least, and a review policy is absent as a whole or complete. The schema version is the
constant the constructor insists on. -/
structure RuntimeBinding where
  resolvedDigest : Digest
  workerProfileIdentity : Digest
  supervisorProfileIdentities : List Digest
  reviewCompleteRounds : Int
  reviewMaxRounds : Int
  reviewMaxSupervisorAttemptsPerRound : Int
  reviewOnFinalFindings : String
  reviewPolicyDigest : String
  profiles : supervisorProfileIdentities ≠ [] ∧ supervisorProfileIdentities.Nodup
  reviewPolicy :
    (reviewCompleteRounds = 0 ∧ reviewMaxRounds = 0 ∧ reviewMaxSupervisorAttemptsPerRound = 0 ∧
      reviewOnFinalFindings = "" ∧ reviewPolicyDigest = "") ∨
    (1 ≤ reviewCompleteRounds ∧ reviewCompleteRounds ≤ reviewMaxRounds ∧
      reviewMaxSupervisorAttemptsPerRound = supervisorProfileIdentities.length ∧
      reviewOnFinalFindings = "worker-final-repair-then-merge" ∧ isHex 64 reviewPolicyDigest = true)
deriving DecidableEq

/-- `runtime_review_policies` -/
structure ReviewPolicyRow where
  taskId : String
  configurationDigest : String
  completeRounds : Int
  maxRounds : Int
  maxSupervisorAttemptsPerRound : Int
  onFinalFindings : String
  policyDigest : String
deriving DecidableEq

def ReviewPolicyRow.clash (a b : ReviewPolicyRow) : Bool := a.taskId == b.taskId

namespace RuntimeBinding

/-- `_SCHEMA` -/
def schemaVersion : String := "roundwright-runtime/v1"

variable (b : RuntimeBinding)

/-- `json.dumps` of the profile identities; a digest has no character that JSON escapes. -/
def supervisorProfilesText : String :=
  "[" ++ ",".intercalate (b.supervisorProfileIdentities.map fun d => "\"" ++ d.text ++ "\"") ++ "]"

/-- `columns`, as the row they are stored in. -/
def columns (taskId : String) : RuntimeBindingRow :=
  ⟨taskId, schemaVersion, b.resolvedDigest.text, b.workerProfileIdentity.text, b.supervisorProfilesText⟩

/-- `fingerprint` -/
def fingerprint (host : Host) : PlainDigest :=
  host.digestJson (.obj [
    ("schema_version", .str schemaVersion),
    ("resolved_digest", .digest b.resolvedDigest),
    ("worker_profile_identity", .digest b.workerProfileIdentity),
    ("supervisor_profile_identities", .arr (b.supervisorProfileIdentities.map .digest)),
    ("review_complete_rounds", .num b.reviewCompleteRounds),
    ("review_max_rounds", .num b.reviewMaxRounds),
    ("review_max_supervisor_attempts_per_round", .num b.reviewMaxSupervisorAttemptsPerRound),
    ("review_on_final_findings", .str b.reviewOnFinalFindings),
    ("review_policy_digest", .str b.reviewPolicyDigest)])

/-- `==`, which leaves the review policy out. -/
def same (b b' : RuntimeBinding) : Bool :=
  b.resolvedDigest = b'.resolvedDigest && b.workerProfileIdentity = b'.workerProfileIdentity &&
    b.supervisorProfileIdentities = b'.supervisorProfileIdentities

theorem same_refl : b.same b = true := by simp [same]

variable {b} in
theorem same_symm {b' : RuntimeBinding} (h : b.same b' = true) : b'.same b = true := by
  simp only [same, Bool.and_eq_true, decide_eq_true_eq] at h ⊢
  exact ⟨⟨h.1.1.symm, h.1.2.symm⟩, h.2.symm⟩

variable {b} in
theorem same_trans {b' b'' : RuntimeBinding} (h : b.same b' = true) (h' : b'.same b'' = true) : b.same b'' = true := by
  simp only [same, Bool.and_eq_true, decide_eq_true_eq] at h h' ⊢
  exact ⟨⟨h.1.1.trans h'.1.1, h.1.2.trans h'.1.2⟩, h.2.trans h'.2⟩

/-- `has_review_policy` -/
def hasReviewPolicy : Bool := b.reviewCompleteRounds ≠ 0

/-- `review_policy_columns`, as the row they are stored in. -/
def reviewPolicyColumns (taskId : String) : ReviewPolicyRow :=
  ⟨taskId, b.resolvedDigest.text, b.reviewCompleteRounds, b.reviewMaxRounds, b.reviewMaxSupervisorAttemptsPerRound,
    b.reviewOnFinalFindings, b.reviewPolicyDigest⟩

end RuntimeBinding

/-- `require_runtime_binding` -/
def requireRuntimeBinding (l : Ledger) (policies : Table ReviewPolicyRow.clash) (taskId : String)
    (binding : RuntimeBinding) : Except Error Unit := do
  refuse (l.runtimeBinding? taskId ≠ some (binding.columns taskId))
    (.state "resolved configuration binding is missing or has drifted")
  refuse (binding.hasReviewPolicy ∧
      (policies.rows.find? fun r => r.taskId = taskId) ≠ some (binding.reviewPolicyColumns taskId))
    (.state "resolved review policy binding is missing or has drifted")

end Roundwright.State
