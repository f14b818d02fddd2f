/-
The coordinates of reviews that are older than their ledger. The hook of version 73 binds every diff review to a
coordinate, in the order of the attempt numbers, and refuses reviews that contradict each other. Its check and that of
the ledger agree on which coordinate may follow another; they differ on the first one of a task, which the hook takes as
it is and the ledger wants to be the origin of a round.
-/
import Roundwright.Provider.Coordinate

namespace Roundwright.Provider

open Lib State Recovery

variable {s s' : Store} {taskId : String}

/-! ## The hook of version 73 -/

/-- `diff_review_attempts` as it was before version 73, with the columns of the coordinate. -/
structure LegacyReviewRow where
  diffReviewAttemptId : String
  taskId : String
  providerAttemptId : String
  selectedProfileIdentity : String
  reviewEpoch : Int
  reviewRound : Int
  logicalProfilePosition : Int
  physicalFormatOutputOrdinal : Int

namespace LegacyReviewRow

def clash (a b : LegacyReviewRow) : Bool :=
  a.diffReviewAttemptId == b.diffReviewAttemptId || a.providerAttemptId == b.providerAttemptId

def coordinate (r : LegacyReviewRow) : Coordinate :=
  ⟨r.reviewEpoch, r.reviewRound, r.logicalProfilePosition, r.physicalFormatOutputOrdinal⟩

end LegacyReviewRow

/-- `_supervisor_coordinate_transition_is_valid` -/
def supervisorCoordinateTransitionIsValid (previous : Option Coordinate) (current : Coordinate) : Bool :=
  if current.epoch < 0 ∨ current.round < 1 ∨ current.logical < 1 ∨
      ¬ (current.physical = 0 ∨ current.physical = 1 ∨ current.physical = 2) then false
  else
    match previous with
    -- the first row can be older than the ledger
    | none => true
    | some prior =>
      if current.epoch = prior.epoch ∧ current.round = prior.round then
        (current.logical = prior.logical ∧ current.physical = prior.physical + 1) ∨
          (current.logical = prior.logical + 1 ∧ current.physical = 0)
      else if current.epoch = prior.epoch then
        current.round = prior.round + 1 ∧ current.logical = 1 ∧ current.physical = 0
      else
        current.epoch = prior.epoch + 1 ∧ (current.round = prior.round ∨ current.round = 1) ∧ current.logical = 1 ∧
          current.physical = 0

/-- The reviews with their attempts, by task and attempt number. -/
def legacyReviews (reviews : Table LegacyReviewRow.clash) (s : Store) : List (LegacyReviewRow × AttemptRow) :=
  sortBy (fun p => toLex (p.2.taskId, toLex (p.2.attemptNumber, p.2.attemptId)))
    (reviews.rows.filterMap fun r =>
      (s.providerAttempts.rows.find? fun a => a.attemptId = r.providerAttemptId ∧ a.taskId = r.taskId).map fun a => (r, a))

/-- `previous_by_task`, `seen` and the rows written so far. -/
structure LegacyCursor where
  previousByTask : String → Option Coordinate
  seen : List (String × Coordinate)
  coordinates : Table CoordinateRow.clash

/-- The coordinate of a review. -/
def legacyCoordinate (p : LegacyReviewRow × AttemptRow) : CoordinateRow :=
  ⟨p.2.attemptId, p.2.taskId, p.1.reviewEpoch, p.1.reviewRound, p.1.logicalProfilePosition,
    p.1.physicalFormatOutputOrdinal, p.2.selectedProfileIdentity⟩

/-- One pass of the loop. -/
def migrateCoordinate (cursor : LegacyCursor) (p : LegacyReviewRow × AttemptRow) : Except Error LegacyCursor := do
  refuse (p.2.role ≠ .supervisor ∨ p.2.selectedProfileIdentity ≠ p.1.selectedProfileIdentity)
    (.state "legacy supervisor review coordinate is contradictory")
  refuse ((p.2.taskId, p.1.coordinate) ∈ cursor.seen) (.state "legacy supervisor review coordinates are duplicated")
  refuse (supervisorCoordinateTransitionIsValid (cursor.previousByTask p.2.taskId) p.1.coordinate = false)
    (.state "legacy supervisor review coordinates are not monotonic")
  let coordinates ← demand (cursor.coordinates.insert? (legacyCoordinate p)) .integrity
  return ⟨Function.update cursor.previousByTask p.2.taskId (some p.1.coordinate),
    (p.2.taskId, p.1.coordinate) :: cursor.seen, coordinates⟩

/-- `_migrate_supervisor_attempt_coordinates`, after the statement of version 73 has created the table. -/
def migrateSupervisorAttemptCoordinates (reviews : Table LegacyReviewRow.clash) (s : Store) : Except Error Store := do
  let cursor ← (legacyReviews reviews s).foldlM migrateCoordinate ⟨fun _ => none, [], .empty⟩
  return { s with coordinates := cursor.coordinates }

/-! ## The two checks -/

/-- Both checks let the same coordinates follow each other. -/
theorem supervisorCoordinateTransitionIsValid_some (prior current : Coordinate) :
    supervisorCoordinateTransitionIsValid (some prior) current = coordinateTransitionIsValid (some prior) current := by
  have hphysical : (current.physical = 0 ∨ current.physical = 1 ∨ current.physical = 2) ↔ 0 ≤ current.physical ∧
    current.physical ≤ 2 := by
    omega
  simp only [supervisorCoordinateTransitionIsValid, coordinateTransitionIsValid, hphysical]

/-- The ledger wants more of the first one. -/
theorem coordinateTransitionIsValid_none {c : Coordinate} : coordinateTransitionIsValid none c = true ↔
    supervisorCoordinateTransitionIsValid none c = true ∧ c.logical = 1 ∧ c.physical = 0 := by
  simp only [supervisorCoordinateTransitionIsValid, coordinateTransitionIsValid]
  split <;> split <;> simp <;> omega

/-! ## What the hook writes -/

/-- The coordinates of the reviews of a task. -/
def legacyLedger (l : List (LegacyReviewRow × AttemptRow)) (taskId : String) : List Coordinate :=
  (l.filter fun p => p.2.taskId = taskId).map (·.1.coordinate)

/-- What the loop has written for the reviews it has passed. -/
structure Passed (done : List (LegacyReviewRow × AttemptRow)) (cursor : LegacyCursor) : Prop where
  rows : cursor.coordinates.rows = done.map legacyCoordinate
  role : ∀ p ∈ done, p.2.role = .supervisor
  previous : ∀ taskId, cursor.previousByTask taskId = (legacyLedger done taskId).getLast?
  head : ∀ taskId, ∀ c ∈ (legacyLedger done taskId).head?, supervisorCoordinateTransitionIsValid none c = true
  chain : ∀ taskId, (legacyLedger done taskId).IsChain Coordinate.Next

theorem Passed.next {done : List (LegacyReviewRow × AttemptRow)} {cursor cursor' : LegacyCursor}
    {p : LegacyReviewRow × AttemptRow} (h : Passed done cursor) (hpass : migrateCoordinate cursor p = .ok cursor') :
    Passed (done ++ [p]) cursor' := by
  simp only [migrateCoordinate, bind_eq_ok, exists_unit, refuse_eq_ok, not_or, not_not, Bool.not_eq_false, demand_eq_ok,
    pure_eq_ok] at hpass
  obtain ⟨⟨hrole, -⟩, -, hvalid, coordinates, hinsert, rfl⟩ := hpass
  rw [h.previous] at hvalid
  have hself : legacyLedger (done ++ [p]) p.2.taskId = legacyLedger done p.2.taskId ++ [p.1.coordinate] := by
    simp [legacyLedger]
  have hother : ∀ {taskId}, taskId ≠ p.2.taskId → legacyLedger (done ++ [p]) taskId = legacyLedger done taskId := by
    intro taskId hne
    simp [legacyLedger, Ne.symm hne]
  -- the ledger of the row's own task grows, the others stay
  refine ⟨?_, ?_, fun taskId => ?_, fun taskId => ?_, fun taskId => ?_⟩
  · rw [(Table.insert?_eq_some.1 hinsert).2, h.rows, List.map_append]
    rfl
  · intro q hq
    rcases List.mem_append.1 hq with hq | hq
    · exact h.role q hq
    · rw [List.mem_singleton.1 hq]
      exact hrole
  all_goals by_cases htask : taskId = p.2.taskId
  · subst htask
    rw [hself, List.getLast?_append]
    simp
  · rw [hother htask, ← h.previous]
    exact Function.update_of_ne htask _ _
  · subst htask
    rw [hself]
    cases hledger : legacyLedger done p.2.taskId with
    | nil =>
      rw [hledger] at hvalid
      rintro _ ⟨⟩
      exact hvalid
    | cons c rest =>
      have hhead := h.head p.2.taskId
      rw [hledger] at hhead
      exact hhead
  · rw [hother htask]
    exact h.head taskId
  · subst htask
    rw [hself]
    refine List.isChain_append.2 ⟨h.chain _, .singleton _, fun c hc d hd => ?_⟩
    rw [Option.mem_def] at hc
    rw [hc, supervisorCoordinateTransitionIsValid_some] at hvalid
    cases hd
    exact hvalid
  · rw [hother htask]
    exact h.chain taskId

theorem Passed.start : Passed [] ⟨fun _ => none, [], .empty⟩ := by
  refine ⟨rfl, fun p hp => ?_, fun _ => rfl, fun taskId c hc => ?_, fun _ => .nil⟩
  · cases hp
  · cases hc

variable {reviews : Table LegacyReviewRow.clash}

theorem migrateSupervisorAttemptCoordinates_ok (h : migrateSupervisorAttemptCoordinates reviews s = .ok s') :
    ∃ cursor, Passed (legacyReviews reviews s) cursor ∧ s' = { s with coordinates := cursor.coordinates } := by
  simp only [migrateSupervisorAttemptCoordinates, bind_eq_ok, pure_eq_ok] at h
  obtain ⟨cursor, hfold, rfl⟩ := h
  exact ⟨cursor, foldlM_passes (P := Passed) (fun _ _ _ _ hpassed hpass => hpassed.next hpass) .start hfold, rfl⟩

theorem mem_legacyReviews {p : LegacyReviewRow × AttemptRow} (h : p ∈ legacyReviews reviews s) :
    p.1 ∈ reviews.rows ∧ s.providerAttempt? p.2.attemptId = some p.2 := by
  simp only [legacyReviews, mem_sortBy, List.mem_filterMap, Option.map_eq_some_iff] at h
  obtain ⟨r, hr, a, ha, rfl⟩ := h
  exact ⟨hr, providerAttempt?_eq_some.2 ⟨List.mem_of_find?_eq_some ha, rfl⟩⟩

/-- The ledger of a task is what the hook has read of it, in the same order. -/
theorem coordinateHistory_migrated {cursor : LegacyCursor} (h : Passed (legacyReviews reviews s) cursor) (taskId : String) :
    coordinateHistory { s with coordinates := cursor.coordinates } taskId =
      ((legacyReviews reviews s).filter fun p => p.2.taskId = taskId).map fun p => (legacyCoordinate p, p.2) := by
  have hjoined : ∀ l : List (LegacyReviewRow × AttemptRow), (∀ p ∈ l, p ∈ legacyReviews reviews s) →
      (((l.map legacyCoordinate).filter fun r => r.taskId = taskId).filterMap fun r =>
        ((coordinateAttempt? { s with coordinates := cursor.coordinates } r).filter fun a => a.role = .supervisor).map
          fun a => (r, a)) =
      (l.filter fun p => p.2.taskId = taskId).map fun p => (legacyCoordinate p, p.2) := by
    intro l hl
    induction l with
    | nil => rfl
    | cons p rest ih =>
      have hp := hl p List.mem_cons_self
      have hattempt : coordinateAttempt? { s with coordinates := cursor.coordinates } (legacyCoordinate p) = some p.2 :=
        coordinateAttempt?_eq_some.2 ⟨(mem_legacyReviews hp).2, rfl⟩
      have hrest := ih fun q hq => hl q (List.mem_cons_of_mem _ hq)
      by_cases htask : p.2.taskId = taskId
      · have hrow : (legacyCoordinate p).taskId = taskId := htask
        rw [List.map_cons, List.filter_cons, if_pos (by rw [hrow]; simp),
          List.filterMap_cons_some (b := (legacyCoordinate p, p.2)) (by simp [hattempt, h.role p hp, Option.filter]), hrest,
          List.filter_cons, if_pos (by rw [htask]; simp), List.map_cons]
      · have hrow : (legacyCoordinate p).taskId ≠ taskId := htask
        rw [List.map_cons, List.filter_cons, if_neg (by simpa using hrow), hrest, List.filter_cons, if_neg (by simpa using htask)]
  rw [coordinateHistory, show Table.rows _ = (legacyReviews reviews s).map legacyCoordinate from h.rows, hjoined _ fun _ hp => hp]
  refine sortBy_eq_self (List.pairwise_map.2 ?_)
  refine ((sortBy_pairwise _ _).filter _).imp_of_mem fun {p q} hp hq hle => ?_
  simp only [List.mem_filter, decide_eq_true_eq] at hp hq
  rw [Prod.Lex.toLex_le_toLex, hp.2, hq.2] at hle
  exact (hle.resolve_left (lt_irrefl _)).2

/-! ## Agreement -/

/-- The task goes on after the upgrade: its ledger is accepted, and so is whatever may follow it. -/
def Resumes (s : Store) (taskId : String) : Prop :=
  requireMonotonicSupervisorCoordinates s taskId none = .ok () ∧
    ∀ next, coordinateTransitionIsValid (ledger s taskId).getLast? next = true →
      requireMonotonicSupervisorCoordinates s taskId (some next) = .ok ()

/-- The first review of the task, by its attempt number, is at the first profile and its first output. -/
def StartsAtOrigin (reviews : Table LegacyReviewRow.clash) (s : Store) (taskId : String) : Prop :=
  ∀ p, ((legacyReviews reviews s).filter fun p => p.2.taskId = taskId).head? = some p →
    p.1.logicalProfilePosition = 1 ∧ p.1.physicalFormatOutputOrdinal = 0

theorem resumes_iff : Resumes s taskId ↔ ValidLedger s taskId := by
  constructor
  · rintro ⟨h, -⟩
    exact (requireMonotonicSupervisorCoordinates_ok.1 h).1
  · intro h
    refine ⟨requireMonotonicSupervisorCoordinates_ok.2 ⟨h, nofun⟩, fun next hnext =>
      requireMonotonicSupervisorCoordinates_ok.2 ⟨h, ?_⟩⟩
    rintro _ ⟨⟩
    exact hnext

/-- Migration and ledger agree exactly on the tasks that start at the origin. -/
theorem migrated_ledger_resumes_iff {reviews : Table LegacyReviewRow.clash} (taskId : String)
    (migrated : migrateSupervisorAttemptCoordinates reviews s = .ok s') : Resumes s' taskId ↔ StartsAtOrigin reviews s taskId := by
  obtain ⟨cursor, hpassed, rfl⟩ := migrateSupervisorAttemptCoordinates_ok migrated
  have hhistory := coordinateHistory_migrated hpassed taskId
  have hledger : ledger { s with coordinates := cursor.coordinates } taskId = legacyLedger (legacyReviews reviews s) taskId := by
    rw [ledger, hhistory, List.map_map]
    rfl
  have hhead := hpassed.head taskId
  rw [resumes_iff]
  -- the rule for a new ledger differs from the migration's in the first row only
  constructor
  · intro hvalid p hp
    have hfirst : (legacyLedger (legacyReviews reviews s) taskId).head? = some p.1.coordinate := by
      rw [legacyLedger, List.head?_map, hp]
      rfl
    have horigin := hvalid.sequence.head p.1.coordinate (by rw [hledger]; exact hfirst)
    exact (coordinateTransitionIsValid_none.1 horigin).2
  · intro horigin
    refine ⟨fun r hr _ => ?_, ?_, ?_⟩
    · rw [show Table.rows _ = (legacyReviews reviews s).map legacyCoordinate from hpassed.rows, List.mem_map] at hr
      obtain ⟨p, hp, rfl⟩ := hr
      exact ⟨p.2, coordinateAttempt?_eq_some.2 ⟨(mem_legacyReviews hp).2, rfl⟩, hpassed.role p hp, rfl⟩
    · intro c hc
      rw [hledger] at hc
      rw [legacyLedger, List.head?_map, Option.mem_def, Option.map_eq_some_iff] at hc
      obtain ⟨p, hp, rfl⟩ := hc
      refine coordinateTransitionIsValid_none.2 ⟨hhead _ ?_, horigin p hp⟩
      rw [legacyLedger, List.head?_map, hp]
      rfl
    · rw [hledger]
      exact hpassed.chain taskId

namespace Sample

/-- A task whose second Supervisor was the first one to review the diff. -/
def legacyReviewer : AttemptRow where
  attemptId := "attempt"
  taskId := "task"
  role := .supervisor
  attemptNumber := 1
  processLeaseId := "process"
  processLeaseExpiresAt := 50
  sessionIdentity := none
  externalTurnIdentity := none
  inputFingerprint := text 7
  outputPointer := none
  completionEvidenceFingerprint := none
  acceptedReviewIdentity := none
  state := .prepared
  selectedProfileIdentity := text 3
  logicalProfilePosition := 2
  physicalFormatOutputOrdinal := 0

/-- Its database, and its review at a logical position. -/
def legacy : Store := { start with providerAttempts := ⟨[legacyReviewer], List.pairwise_singleton _ _⟩ }

def legacyReview (logical : Int) : Table LegacyReviewRow.clash :=
  ⟨[⟨"review", "task", "attempt", text 3, 0, 1, logical, 0⟩], List.pairwise_singleton _ _⟩

/-- Whether the ledger accepts what the hook has written, if it has written it. -/
def accepts (x : Except Error Store) : Option Bool :=
  match x with
  | .ok s => some (requireMonotonicSupervisorCoordinates s "task" none).isOk
  | .error _ => none

/-- The hook takes either position, and the ledger the first one only. -/
theorem legacy_migrates :
    accepts (migrateSupervisorAttemptCoordinates (legacyReview 1) legacy) = some true ∧
    accepts (migrateSupervisorAttemptCoordinates (legacyReview 2) legacy) = some false := by
  decide +kernel

theorem accepts_eq_some {x : Except Error Store} {b : Bool} (h : accepts x = some b) :
    ∃ s, x = .ok s ∧ (requireMonotonicSupervisorCoordinates s "task" none).isOk = b := by
  cases x with
  | error e => cases h
  | ok s => exact ⟨s, rfl, Option.some.inj h⟩

end Sample

open Sample in
theorem migrated_ledger_resumes_iff_origin :
    ∃ s', migrateSupervisorAttemptCoordinates (legacyReview 1) legacy = .ok s' ∧ Resumes s' "task" := by
  obtain ⟨s', hmigrated, -⟩ := accepts_eq_some legacy_migrates.1
  refine ⟨s', hmigrated, (migrated_ledger_resumes_iff "task" hmigrated).2 fun p hp => ?_⟩
  have hmem := (mem_legacyReviews (List.mem_filter.1 (List.mem_of_mem_head? hp)).1).1
  rw [List.mem_singleton.1 hmem]
  exact ⟨rfl, rfl⟩

/-- The task whose first review is at the second profile is upgraded, and its ledger is refused from then on. -/
theorem migrated_ledger_drifts :
    ¬ ∀ (reviews : Table LegacyReviewRow.clash) (s s' : Store), migrateSupervisorAttemptCoordinates reviews s = .ok s' →
      ∀ taskId, Resumes s' taskId := by
  intro hclaim
  obtain ⟨s', hmigrated, hrefused⟩ := Sample.accepts_eq_some Sample.legacy_migrates.2
  rw [(hclaim _ _ s' hmigrated "task").1] at hrefused
  cases hrefused

end Roundwright.Provider
