/-
Upgrading the dependency evidence. `_apply_migrations` brings a database from the version it is at to
the version asked for; the hook of version 84 authenticates the accepted attempts and dispatch claims
it finds, admits the ones whose candidate is still sealed, and binds every accepted result to its
turn. What the hook may admit depends on the version the run started from, so the outcome depends on
where an earlier upgrade stopped: not while it stopped before the admissions table existed, and always
after that.
-/
import Roundwright.Dependency.Invariant
import Roundwright.State.Ownership

namespace Roundwright.Dependency

open Lib State

/-! ## The hook of version 84 -/

def evidenceUnauthenticated : Error := .state "legacy accepted dependency evidence is unauthenticated"

def dispatchUnauthenticated : Error := .state "legacy dependency review dispatch is unauthenticated"

/-- The accepted result of one accepted attempt, from its claim, its outcome and its proposal. -/
def authenticateAccepted (s : Store) (attempt : AttemptRow) : Except Error AcceptedResultRow :=
  match s.claim? attempt.attemptId, s.outcome? attempt.attemptId, s.proposalsOf attempt.attemptId with
  | some (.turnDispatched session turn), some outcome, [proposal] => do
    refuse (outcome.kind ≠ .accepted ∨ outcome.outputDigest ≠ proposal.proposalDigest) evidenceUnauthenticated
    return ⟨attempt.attemptId, session, turn, outcome.outputDigest⟩
  | _, _, _ => .error evidenceUnauthenticated

/-- `authenticated_accepted` -/
def authenticatedAccepted (s : Store) : Except Error (List AcceptedResultRow) :=
  (sortBy (·.attemptId) (s.attempts.rows.filter fun r => r.state = .accepted)).mapM (authenticateAccepted s)

/-- A dispatch claim joined with its attempt, subset and task, and with the seal and the runtime
binding the task has, if any. -/
structure LegacyClaim where
  attempt : AttemptRow
  subset : SubsetRow
  claim : DispatchClaim
  task : TaskRow
  sealRow : Option SealRow
  runtime : Option RuntimeBindingRow

def legacyClaims (s : Store) : List LegacyClaim :=
  (sortBy (·.attemptId) s.claims.rows).filterMap fun c => do
    let attempt ← s.attempt? c.attemptId
    let subset ← s.subset? attempt.snapshotId
    let task ← s.ledger.task? attempt.taskId
    return ⟨attempt, subset, c.claim, task, s.ledger.seal? attempt.taskId, s.ledger.runtimeBinding? attempt.taskId⟩

namespace LegacyClaim

/-- A seal that cannot stand for the task. -/
def SealDrifted (c : LegacyClaim) : Prop :=
  ∃ r ∈ c.sealRow, r.baseSha ≠ c.task.identity.baseSha ∨ isHex 40 r.candidateSha = false ∨ r.stateIdentity = ""

instance (c : LegacyClaim) : Decidable c.SealDrifted := by unfold SealDrifted; infer_instance

/-- The joined rows disagree with each other, with the runtime binding or with the attempt as it reads back. -/
def Drifted (c : LegacyClaim) (retained : AttemptRow) (subset : AffectedSubset) : Prop :=
  c.subset.taskId ≠ c.attempt.taskId ∨ c.attempt.configurationDigest ≠ c.subset.configurationDigest ∨ c.SealDrifted ∨
  c.runtime.map (·.schemaVersion) ≠ some "roundwright-runtime/v1" ∨
  c.runtime.map (·.resolvedDigest) ≠ some c.attempt.configurationDigest.text ∨
  retained.taskId ≠ c.attempt.taskId ∨ retained.snapshotId ≠ subset.snapshotId ∨
  retained.profileIdentity ≠ c.attempt.profileIdentity ∨
  retained.configurationDigest ≠ c.attempt.configurationDigest ∨ subset.taskId ≠ c.subset.taskId ∨
  subset.candidateSha ≠ c.subset.candidateSha ∨ subset.policyDigest ≠ c.subset.policyDigest ∨
  subset.configurationDigest ≠ c.subset.configurationDigest

instance (c : LegacyClaim) (retained : AttemptRow) (subset : AffectedSubset) : Decidable (c.Drifted retained subset) := by
  unfold Drifted; infer_instance

/-- `historical_only`: the task is not sealed at the candidate of the claim. -/
def HistoricalOnly (c : LegacyClaim) : Prop := c.sealRow.map (·.candidateSha) ≠ some c.subset.candidateSha.text

instance (c : LegacyClaim) : Decidable c.HistoricalOnly := inferInstanceAs (Decidable (_ ≠ _))

/-- The admission a claim stands for. -/
def expected (host : Host) (c : LegacyClaim) : Admission :=
  expectedAdmission c.attempt.taskId ⟨c.subset.candidateSha, c.subset.policyDigest, c.attempt.configurationDigest,
    c.attempt.profileIdentity⟩ (admittedSession host c.attempt.attemptId c.claim) c.attempt.attemptId

end LegacyClaim

/-- A review error met while a claim is read back means the claim is not authenticated. -/
def reviewAsUnauthenticated : Error → Error
  | .dependencyReview _ => dispatchUnauthenticated
  | e => e

/-- Admit a claim whose admission is missing: refused once the run started at a version that had the
table, and only for an accepted attempt whose candidate is sealed. -/
def admitLegacy (host : Host) (source : Nat) (accepted : List AcceptedResultRow) (c : LegacyClaim) (s : Store) :
    Except Error Store := do
  refuse (74 ≤ source) (.state "legacy dependency review admission is missing")
  if (∃ r ∈ accepted, r.attemptId = c.attempt.attemptId) ∧ ¬ c.HistoricalOnly then do
    let admissions ← insertRow s.admissions ⟨c.attempt.attemptId, c.expected host⟩
    return { s with admissions }
  else return s

/-- One pass of the loop over the claims. -/
def migrateClaim (host : Host) (source : Nat) (accepted : List AcceptedResultRow) (s : Store) (c : LegacyClaim) :
    Except Error Store := do
  let (retained, subset) ← rewrap (readAttempt host s c.attempt.attemptId) reviewAsUnauthenticated
  refuse (c.Drifted retained subset) dispatchUnauthenticated
  refuse (c.HistoricalOnly ∧ ¬ ∃ r ∈ accepted, r.attemptId = c.attempt.attemptId) dispatchUnauthenticated
  match s.admission? c.attempt.attemptId with
  | none => admitLegacy host source accepted c s
  | some existing => do
    refuse (existing ≠ c.expected host) (.state "legacy dependency review admission has drifted")
    return s

/-- One pass of the loop over the accepted results. -/
def migrateAccepted (s : Store) (row : AcceptedResultRow) : Except Error Store :=
  match s.acceptedResult? row.attemptId with
  | none => do
    let acceptedResults ← insertRow s.acceptedResults row
    return { s with acceptedResults }
  | some existing => do
    refuse (existing ≠ (row.sessionIdentity, row.turnIdentity, row.outputDigest))
      (.state "legacy accepted dependency evidence has drifted")
    return s

/-- `_migrate_dependency_review_evidence_bindings` -/
def migrateEvidenceBindings (host : Host) (source : Nat) (s : Store) : Except Error Store := do
  let accepted ← authenticatedAccepted s
  let s ← (legacyClaims s).foldlM (migrateClaim host source accepted) s
  accepted.foldlM migrateAccepted s

/-! ## A run of migrations -/

/-- A database with a migration history `1..version`: the dependency tables over the ledger, and the
tables of the other subsystems. A table that a later version creates has no rows. -/
structure Database (ρ : Type) where
  version : Nat
  store : Store
  rest : ρ

/-- What the statements and the other hooks of a migration do to the tables of the other subsystems;
from version 66 on they write to no others. -/
abbrev OtherTables (ρ : Type) : Type := Nat → Database ρ → Except Error ρ

section Migrations

variable {ρ : Type} (host : Host) (other : OtherTables ρ)

/-- What a migration does to the dependency tables: version 74 creates the admissions, version 79 copies
the claims over, and version 84 creates the accepted results and runs its hook. -/
def migrateStore (source version : Nat) (s : Store) : Except Error Store :=
  if version = 84 then migrateEvidenceBindings host source s else .ok s

/-- One migration, in a run that found the database at version `source`. -/
def applyMigration (source : Nat) (db : Database ρ) (version : Nat) : Except Error (Database ρ) := do
  let rest ← other version db
  let store ← migrateStore host source version db.store
  return ⟨version, store, rest⟩

/-- What a run does after the last migration. -/
def finishMigrations (db : Database ρ) : Except Error (Database ρ) := do
  let ledger ← backfillTaskOwnership host db.store.ledger
  validateTaskOwnership host ledger
  let _ ← demand ledger.stateIdentity (.state "state identity is missing")
  return { db with store := { db.store with ledger } }

/-- `_apply_migrations` with the migrations up to `target`, on a database that has a history. -/
def applyMigrations (target : Nat) (db : Database ρ) : Except Error (Database ρ) := do
  refuse (target < db.version) (.state "database schema is from a future version")
  let migrated ← (List.range' (db.version + 1) (target - db.version)).foldlM (applyMigration host other db.version) db
  finishMigrations host migrated

/-- `_verify_migrations` -/
def verifyMigrations (target : Nat) (db : Database ρ) : Except Error Unit := do
  refuse (target < db.version) (.state "database schema is from a future version")
  refuse (db.version ≠ target) (.state "database schema is not fully migrated")
  validateTaskOwnership host db.store.ledger
  let _ ← demand db.store.ledger.stateIdentity (.state "state identity is missing")

/-- An upgrade that stops at a version, and a second one from there. -/
def upgradeVia (stop : Nat) (db : Database ρ) : Except Error (Database ρ) := do
  let stopped ← applyMigrations host other stop db
  applyMigrations host other 84 stopped

end Migrations

variable {source : Nat}

/-! ## The hook and the version a run starts from -/

section Hook

variable {host : Host} {s s' : Store} {accepted : List AcceptedResultRow}

/-- The hook looks at the version only to ask whether it had the admissions table. -/
theorem migrateEvidenceBindings_congr {source source' : Nat} (h : 74 ≤ source ↔ 74 ≤ source') (s : Store) :
    migrateEvidenceBindings host source s = migrateEvidenceBindings host source' s := by
  have hadmit : admitLegacy host source = admitLegacy host source' := by
    funext accepted c s
    simp only [admitLegacy, refuse, h]
  have hclaim : migrateClaim host source = migrateClaim host source' := by
    funext accepted s c
    simp only [migrateClaim, hadmit]
  simp only [migrateEvidenceBindings, hclaim]

/-- Without claims the version does not matter. -/
theorem migrateEvidenceBindings_noClaims (h : legacyClaims s = []) (source source' : Nat) :
    migrateEvidenceBindings host source s = migrateEvidenceBindings host source' s := by
  simp only [migrateEvidenceBindings, h, List.foldlM_nil]

/-- A run that started with the admissions table refuses a claim without admission. -/
theorem migrateClaim_refused (h : 74 ≤ source) {c : LegacyClaim}
    (hnone : s.admission? c.attempt.attemptId = none) : migrateClaim host source accepted s c ≠ .ok s' := by
  intro hok
  simp only [migrateClaim, hnone, bind_eq_ok, exists_unit, admitLegacy, refuse_eq_ok] at hok
  obtain ⟨-, -, -, -, hnot, -⟩ := hok
  exact hnot h

theorem migrateEvidenceBindings_refused (h : 74 ≤ source) (hempty : s.admissions.rows = [])
    (hclaims : legacyClaims s ≠ []) : migrateEvidenceBindings host source s ≠ .ok s' := by
  intro hok
  obtain ⟨c, rest, hc⟩ := List.exists_cons_of_ne_nil hclaims
  simp only [migrateEvidenceBindings, bind_eq_ok, hc, List.foldlM_cons] at hok
  obtain ⟨accepted, -, s₁, ⟨s₂, hclaim, -⟩, -⟩ := hok
  exact migrateClaim_refused h (by simp [Store.admission?, hempty]) hclaim

theorem migrateClaim_ledger {c : LegacyClaim} (h : migrateClaim host source accepted s c = .ok s') :
    s'.ledger = s.ledger := by
  simp only [migrateClaim, bind_eq_ok, Prod.exists, exists_unit] at h
  obtain ⟨_, _, -, -, -, h⟩ := h
  split at h
  · simp only [admitLegacy, bind_eq_ok, exists_unit] at h
    obtain ⟨-, h⟩ := h
    split at h
    · simp only [bind_eq_ok, pure_eq_ok] at h
      obtain ⟨_, -, rfl⟩ := h
      rfl
    · rw [pure_eq_ok.1 h]
  · simp only [bind_eq_ok, exists_unit, pure_eq_ok] at h
    rw [h.2]

theorem migrateAccepted_ledger {row : AcceptedResultRow} (h : migrateAccepted s row = .ok s') : s'.ledger = s.ledger := by
  unfold migrateAccepted at h
  split at h
  · simp only [bind_eq_ok, pure_eq_ok] at h
    obtain ⟨_, -, rfl⟩ := h
    rfl
  · simp only [bind_eq_ok, exists_unit, pure_eq_ok] at h
    rw [h.2]

theorem migrateEvidenceBindings_ledger (h : migrateEvidenceBindings host source s = .ok s') :
    s'.ledger = s.ledger := by
  simp only [migrateEvidenceBindings, bind_eq_ok] at h
  obtain ⟨accepted, -, s₁, hclaims, hresults⟩ := h
  have h₁ := foldlM_induction (P := fun t : Store => t.ledger = s.ledger)
    (fun c _ t t' ht hc => (migrateClaim_ledger hc).trans ht) rfl hclaims
  exact foldlM_induction (P := fun t : Store => t.ledger = s.ledger)
    (fun r _ t t' ht hr => (migrateAccepted_ledger hr).trans ht) h₁ hresults

end Hook

variable {versions : List Nat}

/-! ## Runs taken apart -/

section Runs

variable {ρ : Type} {host : Host} {other : OtherTables ρ} {db db' : Database ρ}

/-- Ownership and identity are in order, so a run finishes without a change. -/
def Settled (host : Host) (db : Database ρ) : Prop :=
  validateTaskOwnership host db.store.ledger = .ok () ∧ db.store.ledger.stateIdentity ≠ none

theorem finishMigrations_settled (h : Settled host db) : finishMigrations host db = .ok db := by
  obtain ⟨identity, hid⟩ := Option.ne_none_iff_exists'.1 h.2
  simp only [finishMigrations, backfillTaskOwnership_valid h.1, ok_bind, h.1, hid, demand]
  rfl

theorem verifyMigrations_ok {k : Nat} (h : verifyMigrations host k db = .ok ()) : db.version = k ∧ Settled host db := by
  simp only [verifyMigrations, bind_eq_ok, exists_unit, refuse_eq_ok, demand_eq_ok, not_not] at h
  obtain ⟨-, hversion, hvalid, identity, hid, -⟩ := h
  exact ⟨hversion, hvalid, by simp [hid]⟩

theorem applyMigration_ok {source version : Nat} (h : applyMigration host other source db version = .ok db') :
    db'.version = version ∧ db'.store.ledger = db.store.ledger ∧ (version ≠ 84 → db'.store = db.store) := by
  simp only [applyMigration, bind_eq_ok, pure_eq_ok] at h
  obtain ⟨rest, -, store, hstore, rfl⟩ := h
  unfold migrateStore at hstore
  split at hstore
  · rename_i hv
    exact ⟨rfl, migrateEvidenceBindings_ledger hstore, fun hne => absurd hv hne⟩
  · obtain rfl := Except.ok.inj hstore
    exact ⟨rfl, rfl, fun _ => rfl⟩

/-- The migrations of a run, one after the other. -/
def migrateFrom (host : Host) (other : OtherTables ρ) (source : Nat) (versions : List Nat) (db : Database ρ) :
    Except Error (Database ρ) := versions.foldlM (applyMigration host other source) db

theorem migrateFrom_settled (hs : Settled host db)
    (h : migrateFrom host other source versions db = .ok db') : Settled host db' := by
  refine foldlM_induction (P := Settled host) (fun v _ a b ha hb => ?_) hs h
  have hl := (applyMigration_ok hb).2.1
  rw [Settled, hl]
  exact ha

/-- The versions `k+1..m`. -/
def versionsTo (k m : Nat) : List Nat := List.range' (k + 1) (m - k)

theorem versionsTo_append {k m n : Nat} (hkm : k ≤ m) (hmn : m ≤ n) :
    versionsTo k n = versionsTo k m ++ versionsTo m n := by
  simp only [versionsTo]
  rw [show n - k = (m - k) + (n - m) by omega, ← List.range'_append_1]
  congr 2; omega

theorem applyMigrations_settled {target : Nat} (hs : Settled host db) (hv : db.version ≤ target) :
    applyMigrations host other target db = migrateFrom host other db.version (versionsTo db.version target) db := by
  simp only [applyMigrations, refuse_of_not (not_lt.2 hv), ok_bind, migrateFrom, versionsTo]
  cases h : List.foldlM (applyMigration host other db.version) db (List.range' (db.version + 1) (target - db.version)) with
  | error e => rfl
  | ok migrated => rw [ok_bind, finishMigrations_settled (migrateFrom_settled hs h)]

/-- After a run the database is at the version asked for. -/
theorem migrateFrom_version {source k m : Nat} (hk : db.version = k) (hkm : k ≤ m)
    (h : migrateFrom host other source (versionsTo k m) db = .ok db') : db'.version = m := by
  rcases Nat.eq_or_lt_of_le hkm with rfl | hlt
  · rw [versionsTo, Nat.sub_self] at h
    rw [← pure_eq_ok.1 h, hk]
  · rw [versionsTo_append (Nat.le_sub_one_of_lt hlt) (Nat.sub_le m 1), migrateFrom, List.foldlM_append, bind_eq_ok] at h
    obtain ⟨db₁, -, h⟩ := h
    have hlast : versionsTo (m - 1) m = [m] := by
      rw [versionsTo, show m - (m - 1) = 1 by omega, show m - 1 + 1 = m by omega]; rfl
    rw [hlast, List.foldlM_cons, bind_eq_ok] at h
    obtain ⟨db₂, h₂, h⟩ := h
    rw [← pure_eq_ok.1 h]
    exact (applyMigration_ok h₂).1

/-- The version a run started from matters to migration 84 only. -/
theorem migrateFrom_congr {source k : Nat} (h : 84 ∈ versions → (74 ≤ source ↔ 74 ≤ k))
    (db : Database ρ) :
    migrateFrom host other source versions db = migrateFrom host other k versions db := by
  have hstep : ∀ version ∈ versions, ∀ db : Database ρ,
      applyMigration host other source db version = applyMigration host other k db version := by
    intro version hv db
    simp only [applyMigration, migrateStore]
    split
    · rename_i heq
      rw [migrateEvidenceBindings_congr (h (heq ▸ hv))]
    · rfl
  clear h
  unfold migrateFrom
  induction versions generalizing db with
  | nil => rfl
  | cons v rest ih =>
    rw [List.foldlM_cons, List.foldlM_cons, hstep v List.mem_cons_self db]
    congr 1
    funext db₁
    exact ih db₁ fun w hw => hstep w (List.mem_cons_of_mem v hw)

/-- An upgrade in two runs is the same migrations, the later ones under the version it stopped at. -/
theorem upgradeVia_settled {k m : Nat} (hk : db.version = k) (hs : Settled host db) (hkm : k ≤ m) (hm : m ≤ 84) :
    upgradeVia host other m db =
      (migrateFrom host other k (versionsTo k m) db >>= migrateFrom host other m (versionsTo m 84)) := by
  subst hk
  rw [upgradeVia, applyMigrations_settled hs hkm]
  cases h : migrateFrom host other db.version (versionsTo db.version m) db with
  | error e => rfl
  | ok stopped =>
    have hversion := migrateFrom_version rfl hkm h
    rw [ok_bind, ok_bind, applyMigrations_settled (migrateFrom_settled hs h) (hversion ▸ hm), hversion]

theorem applyMigrations_split {k m : Nat} (hk : db.version = k) (hs : Settled host db) (hkm : k ≤ m) (hm : m ≤ 84) :
    applyMigrations host other 84 db =
      (migrateFrom host other k (versionsTo k m) db >>= migrateFrom host other k (versionsTo m 84)) := by
  subst hk
  rw [applyMigrations_settled hs (hkm.trans hm), migrateFrom, versionsTo_append hkm hm, List.foldlM_append]
  rfl

/-- Only migration 84 writes to the dependency tables. -/
theorem migrateFrom_store (hv : 84 ∉ versions)
    (h : migrateFrom host other source versions db = .ok db') : db'.store = db.store :=
  foldlM_induction (P := fun d : Database ρ => d.store = db.store)
    (fun _ hmem _ _ ha hb => ((applyMigration_ok hb).2.2 fun heq => hv (heq ▸ hmem)).trans ha) rfl h

theorem not_mem_versionsTo {k m : Nat} (hm : m < 84) : 84 ∉ versionsTo k m := by
  rw [versionsTo, List.mem_range'_1]; omega

/-- The last migration of an upgrade that stopped before it, over the tables the upgrade found. -/
theorem migrateFrom_last {source m : Nat} (hm : m < 84) :
    migrateFrom host other source (versionsTo m 84) db =
      (migrateFrom host other source (versionsTo m 83) db >>= fun d => applyMigration host other source d 84) := by
  rw [versionsTo_append (Nat.le_of_lt_succ hm) (by decide : 83 ≤ 84), migrateFrom, List.foldlM_append]
  congr 1
  funext d
  rw [show versionsTo 83 84 = [84] by rfl, List.foldlM_cons]
  exact bind_pure _

end Runs

/-! ## Where an upgrade stops -/

/-- A database that verifies at a schema version without admissions and accepted results. -/
structure Legacy {ρ : Type} (host : Host) (k : Nat) (db : Database ρ) : Prop where
  verified : verifyMigrations host k db = .ok ()
  admissions : db.store.admissions.rows = []
  acceptedResults : db.store.acceptedResults.rows = []

namespace Sample

/-- The accepted attempt as a database of version 67 holds it: no admission, no accepted result. -/
def legacy : Database Unit := ⟨67, { accepted with admissions := .empty, acceptedResults := .empty }, ()⟩

/-- The other subsystems have nothing to migrate. -/
def noOther : OtherTables Unit := fun _ _ => .ok ()

end Sample

end Roundwright.Dependency
