/-
The ledger of Supervisor coordinates. Every coordinate is checked against the last one of its task in the order of the
attempt numbers, and a preparation that names it for the first time may be the replay of an older attempt. While a
replay names no coordinate for an attempt that a later one has overtaken, the ledger is one sequence in which each
coordinate may follow the one before; a single such replay puts the newest coordinate in front of older ones, and the
task prepares no further coordinate.
-/
import Roundwright.Provider.Machine
import Mathlib.Data.List.Chain
import Mathlib.Data.List.MinMax
import Mathlib.Data.Prod.Lex

namespace Roundwright.Provider

open Lib State Recovery

variable {host : Host} {s s' : Store} {taskId : String}

/-! ## Sequences of coordinates -/

/-- The lexicographic order of coordinates. -/
def Coordinate.key (c : Coordinate) : Int ×ₗ Int ×ₗ Int ×ₗ Int := toLex (c.epoch, toLex (c.round, toLex (c.logical, c.physical)))

/-- One coordinate may follow the other. -/
def Coordinate.Next (prior current : Coordinate) : Prop := coordinateTransitionIsValid (some prior) current = true

theorem Coordinate.Next.lt {a b : Coordinate} (h : a.Next b) : a.key < b.key := by
  simp only [Next, coordinateTransitionIsValid] at h
  simp only [key, Prod.Lex.toLex_lt_toLex]
  split at h
  · cases h
  · split at h
    · simp only [decide_eq_true_eq] at h
      omega
    · split at h <;> simp only [decide_eq_true_eq] at h <;> omega

/-- Coordinates that are accepted one after the other. -/
structure InSequence (previous : Option Coordinate) (l : List Coordinate) : Prop where
  head : ∀ c ∈ l.head?, coordinateTransitionIsValid previous c = true
  chain : l.IsChain Coordinate.Next

variable {previous : Option Coordinate}

theorem InSequence.nil : InSequence previous [] := ⟨nofun, .nil⟩

variable {l : List Coordinate}

theorem inSequence_cons {c : Coordinate} :
    InSequence previous (c :: l) ↔ coordinateTransitionIsValid previous c = true ∧ InSequence (some c) l := by
  constructor
  · rintro ⟨hhead, hchain⟩
    refine ⟨hhead c rfl, ?_, hchain.tail⟩
    exact (List.isChain_cons.1 hchain).1
  · rintro ⟨hvalid, hhead, hchain⟩
    refine ⟨?_, List.isChain_cons.2 ⟨hhead, hchain⟩⟩
    rintro _ ⟨⟩
    exact hvalid

/-- A sequence goes on with whatever may follow its last coordinate. -/
theorem InSequence.append {c : Coordinate} (h : InSequence previous l)
    (hvalid : coordinateTransitionIsValid (l.getLast?.or previous) c = true) : InSequence previous (l ++ [c]) := by
  induction l generalizing previous with
  | nil => exact inSequence_cons.2 ⟨hvalid, .nil⟩
  | cons a rest ih =>
    obtain ⟨hhead, hrest⟩ := inSequence_cons.1 h
    refine inSequence_cons.2 ⟨hhead, ih hrest ?_⟩
    rw [List.getLast?_cons] at hvalid
    cases hlast : rest.getLast? with
    | none => simpa [hlast] using hvalid
    | some b => simpa [hlast] using hvalid

theorem InSequence.increasing (h : InSequence previous l) :
    l.Pairwise fun a b => a.key < b.key := by
  have hkeys : (l.map Coordinate.key).IsChain (· < ·) := ( List.isChain_map _).2 (h.chain.imp fun _ _ hnext => hnext.lt)
  exact List.pairwise_map.1 hkeys.pairwise

/-! ## The ledger of a task -/

/-- The coordinates of a task, in the order of the attempt numbers. -/
def ledger (s : Store) (taskId : String) : List Coordinate := (coordinateHistory s taskId).map (·.1.coordinate)

/-- Every coordinate belongs to a Supervisor attempt with its profile, and they are one sequence. -/
structure ValidLedger (s : Store) (taskId : String) : Prop where
  attempts : ∀ r ∈ s.coordinates.rows, r.taskId = taskId →
    ∃ a, coordinateAttempt? s r = some a ∧ a.role = .supervisor ∧ a.selectedProfileIdentity = r.profileIdentity
  sequence : InSequence none (ledger s taskId)

theorem checkHistory_ok {previous last : Option Coordinate} {l : List (CoordinateRow × AttemptRow)} :
    checkHistory previous l = .ok last ↔ (∀ p ∈ l, p.2.selectedProfileIdentity = p.1.profileIdentity) ∧
      InSequence previous (l.map (·.1.coordinate)) ∧ last = (l.map (·.1.coordinate)).getLast?.or previous := by
  induction l generalizing previous with
  | nil => simp [checkHistory, InSequence.nil, eq_comm]
  | cons p rest ih =>
    obtain ⟨r, a⟩ := p
    simp only [checkHistory, bind_eq_ok, exists_unit, refuse_eq_ok, not_or, not_not, Bool.not_eq_false, ih,
      List.map_cons, inSequence_cons, List.forall_mem_cons, List.getLast?_cons]
    constructor
    · rintro ⟨⟨hprofile, hvalid⟩, hprofiles, hsequence, rfl⟩
      refine ⟨⟨hprofile, hprofiles⟩, ⟨hvalid, hsequence⟩, ?_⟩
      cases (rest.map (·.1.coordinate)).getLast? <;> rfl
    · rintro ⟨⟨hprofile, hprofiles⟩, ⟨hvalid, hsequence⟩, rfl⟩
      refine ⟨⟨hprofile, hvalid⟩, hprofiles, hsequence, ?_⟩
      cases (rest.map (·.1.coordinate)).getLast? <;> rfl

theorem mem_coordinateHistory {p : CoordinateRow × AttemptRow} :
    p ∈ coordinateHistory s taskId ↔
      p.1 ∈ s.coordinates.rows ∧ p.1.taskId = taskId ∧ coordinateAttempt? s p.1 = some p.2 ∧ p.2.role = .supervisor := by
  obtain ⟨r, a⟩ := p
  simp only [coordinateHistory, mem_sortBy, List.mem_filterMap, List.mem_filter, decide_eq_true_eq,
    Option.map_eq_some_iff, Option.filter_eq_some_iff, Prod.mk.injEq]
  constructor
  · rintro ⟨_, ⟨hmem, htask⟩, _, ⟨hattempt, hrole⟩, rfl, rfl⟩
    exact ⟨hmem, htask, hattempt, hrole⟩
  · rintro ⟨hmem, htask, hattempt, hrole⟩
    exact ⟨r, ⟨hmem, htask⟩, a, ⟨hattempt, hrole⟩, rfl, rfl⟩

theorem requireMonotonicSupervisorCoordinates_ok {prospective : Option Coordinate} :
    requireMonotonicSupervisorCoordinates s taskId prospective = .ok () ↔
      ValidLedger s taskId ∧ ∀ c ∈ prospective, coordinateTransitionIsValid (ledger s taskId).getLast? c = true := by
  simp only [requireMonotonicSupervisorCoordinates, bind_eq_ok, exists_unit, refuse_eq_ok, checkHistory_ok, Option.or_none]
  constructor
  · rintro ⟨hattempts, _, ⟨hprofiles, hsequence, rfl⟩, hprospective⟩
    refine ⟨⟨fun r hr htask => ?_, hsequence⟩, fun c hc => ?_⟩
    · have hattempt : ∃ a, coordinateAttempt? s r = some a ∧ a.role = .supervisor := by
        by_contra hnone
        refine hattempts (List.any_eq_true.2 ⟨r, hr, ?_⟩)
        simpa [htask, Option.any_eq_true] using hnone
      obtain ⟨a, ha, hrole⟩ := hattempt
      exact ⟨a, ha, hrole, hprofiles (r, a) (mem_coordinateHistory.2 ⟨hr, htask, ha, hrole⟩)⟩
    · by_contra hvalid
      rw [Option.mem_def] at hc
      subst hc
      exact hprospective (by simpa [ledger] using hvalid)
  · rintro ⟨⟨hattempts, hsequence⟩, hprospective⟩
    refine ⟨fun hany => ?_, _, ⟨fun p hp => ?_, hsequence, rfl⟩, fun hany => ?_⟩
    · obtain ⟨r, hr, hbad⟩ := List.any_eq_true.1 hany
      simp only [decide_eq_true_eq] at hbad
      obtain ⟨a, ha, hrole, -⟩ := hattempts r hr hbad.1
      exact hbad.2 (by simp [ha, hrole])
    · obtain ⟨hmem, htask, hattempt, -⟩ := mem_coordinateHistory.1 hp
      obtain ⟨a, ha, -, hprofile⟩ := hattempts p.1 hmem htask
      rw [hattempt] at ha
      cases ha
      exact hprofile
    · obtain ⟨c, hc, hbad⟩ := (Option.any_eq_true _ _).1 hany
      rw [decide_eq_true_eq] at hbad
      exact hbad (hprospective c hc)

/-! ## Reservations -/

theorem CoordinateRow.attemptId_key : Table.IsKey CoordinateRow.clash (·.attemptId) := by
  intro a b h
  simp [CoordinateRow.clash, show a.attemptId = b.attemptId from h]

variable {a : AttemptRow}

theorem coordinateAttempt?_eq_some {r : CoordinateRow} :
    coordinateAttempt? s r = some a ↔ s.providerAttempt? r.attemptId = some a ∧ a.taskId = r.taskId := by
  rw [← taskAttempt?_eq_some, coordinateAttempt?]
  simp only [and_comm]

/-- The attempts of a ledger have distinct places in it. -/
theorem history_nodup (s : Store) (l : List CoordinateRow) (h : (l.map (·.attemptId)).Nodup) :
    ((l.filterMap fun r => ((coordinateAttempt? s r).filter fun a => a.role = .supervisor).map fun a => (r, a)).map fun p =>
      toLex (p.2.attemptNumber, p.2.attemptId)).Nodup := by
  refine List.pairwise_map.2 (List.pairwise_filterMap.2 ((List.pairwise_map.1 h).imp fun {r r'} hne p hp p' hp' => ?_))
  simp only [Option.map_eq_some_iff, Option.filter_eq_some_iff] at hp hp'
  obtain ⟨a, ⟨ha, -⟩, rfl⟩ := hp
  obtain ⟨a', ⟨ha', -⟩, rfl⟩ := hp'
  intro hkey
  have hid : a.attemptId = a'.attemptId := congrArg (fun k => (ofLex k).2) hkey
  rw [(providerAttempt?_eq_some.1 (coordinateAttempt?_eq_some.1 ha).1).2,
    (providerAttempt?_eq_some.1 (coordinateAttempt?_eq_some.1 ha').1).2] at hid
  exact hne hid

theorem coordinateHistory_congr
    (hrows : (s'.coordinates.rows.filter fun r => r.taskId = taskId) = s.coordinates.rows.filter fun r =>
    r.taskId = taskId) (hattempts : ∀ r ∈ s.coordinates.rows, r.taskId = taskId → coordinateAttempt? s' r = coordinateAttempt? s r) :
    coordinateHistory s' taskId = coordinateHistory s taskId := by
  unfold coordinateHistory
  rw [hrows]
  congr 1
  refine List.filterMap_congr fun r hr => ?_
  simp only [List.mem_filter, decide_eq_true_eq] at hr
  rw [hattempts r hr.1 hr.2]

theorem ledger_congr (hattempts : s'.providerAttempts = s.providerAttempts)
    (hcoordinates : s'.coordinates = s.coordinates) (taskId : String) : ledger s' taskId = ledger s taskId := by
  unfold ledger coordinateHistory coordinateAttempt?
  rw [hattempts, hcoordinates]

/-- A coordinate of the newest attempt goes to the end of the ledger. -/
theorem coordinateHistory_append {r : CoordinateRow} (hrows : s'.coordinates.rows = s.coordinates.rows ++ [r])
    (hattempts : ∀ x ∈ s.coordinates.rows, x.taskId = r.taskId → coordinateAttempt? s' x = coordinateAttempt? s x)
    (ha : coordinateAttempt? s' r = some a) (hrole : a.role = .supervisor)
    (hnewest : ∀ p ∈ coordinateHistory s r.taskId, p.2.attemptNumber < a.attemptNumber) :
    coordinateHistory s' r.taskId = coordinateHistory s r.taskId ++ [(r, a)] := by
  have hjoined : ((s'.coordinates.rows.filter fun x => x.taskId = r.taskId).filterMap fun x =>
        ((coordinateAttempt? s' x).filter fun a => a.role = .supervisor).map fun a => (x, a)) =
      ((s.coordinates.rows.filter fun x => x.taskId = r.taskId).filterMap fun x =>
        ((coordinateAttempt? s x).filter fun a => a.role = .supervisor).map fun a => (x, a)) ++ [(r, a)] := by
    rw [hrows, List.filter_append, List.filterMap_append]
    congr 1
    · refine List.filterMap_congr fun x hx => ?_
      simp only [List.mem_filter, decide_eq_true_eq] at hx
      rw [hattempts x hx.1 hx.2]
    · simp [ha, hrole, Option.filter]
  rw [coordinateHistory, hjoined]
  refine sortBy_append_last (history_nodup s _ ?_) fun p hp => ?_
  · exact ((s.coordinates.keys_nodup CoordinateRow.attemptId_key).sublist (List.filter_sublist.map _))
  · exact Prod.Lex.toLex_lt_toLex.2 (.inl (hnewest p (mem_sortBy.2 hp)))

/-- What a committed preparation has done to the attempts and their coordinates. -/
inductive Reserves (s s' : Store) (request : PrepareRequest) : Prop where
  | same (attempts : s'.providerAttempts = s.providerAttempts) (coordinates : s'.coordinates = s.coordinates)
  | prepared (row : AttemptRow) (rows : s'.providerAttempts.rows = s.providerAttempts.rows ++ [row])
    (coordinates : s'.coordinates = s.coordinates)
  | reserved (row : AttemptRow) (r : CoordinateRow) (found : s'.providerAttempt? row.attemptId = some row)
    (role : row.role = .supervisor) (attempt : r.attemptId = row.attemptId) (task : r.taskId = row.taskId)
    (profile : row.selectedProfileIdentity = r.profileIdentity) (unreserved : ∀ x ∈ s.coordinates.rows, x.attemptId ≠ row.attemptId)
    (valid : coordinateTransitionIsValid (ledger { s' with coordinates := s.coordinates } r.taskId).getLast? r.coordinate = true)
    (rows : s'.coordinates.rows = s.coordinates.rows ++ [r])
    (newest : (s'.providerAttempts = s.providerAttempts ∧ row.attemptId = request.attemptId ∧ request.reviewEpoch ≠ none) ∨
      (s'.providerAttempts.rows = s.providerAttempts.rows ++ [row] ∧
        ∀ a ∈ s.providerAttempts.rows, a.taskId = row.taskId → a.role = .supervisor → a.attemptNumber < row.attemptNumber))

/-- A preparation that names the first coordinate of an attempt that is there: no coordinate belongs to a newer attempt
of the task. -/
def InOrder (s : Store) (request : PrepareRequest) : Prop :=
  request.reviewEpoch ≠ none → ∀ row, s.providerAttempt? request.attemptId = some row →
    (∀ r ∈ s.coordinates.rows, r.attemptId ≠ row.attemptId) →
    ∀ r ∈ s.coordinates.rows, r.taskId = row.taskId → ∀ a, coordinateAttempt? s r = some a → a.attemptNumber < row.attemptNumber

theorem Reserves.coordinateAttempt? {request : PrepareRequest} (h : Reserves s s' request) {r : CoordinateRow}
    (hattempt : coordinateAttempt? s r = some a) : coordinateAttempt? s' r = some a := by
  have happended : ∀ {row : AttemptRow}, s'.providerAttempts.rows = s.providerAttempts.rows ++ [row] →
      Provider.coordinateAttempt? s' r = some a := by
    intro row hrows
    unfold Provider.coordinateAttempt? at hattempt ⊢
    rw [hrows]
    exact find?_append_some hattempt
  have hsame : s'.providerAttempts = s.providerAttempts → Provider.coordinateAttempt? s' r = some a := by
    intro hattempts
    unfold Provider.coordinateAttempt? at hattempt ⊢
    rw [hattempts]
    exact hattempt
  cases h with
  | same attempts coordinates => exact hsame attempts
  | prepared row rows coordinates => exact happended rows
  | reserved row r found role attempt task profile unreserved valid rows newest =>
    rcases newest with ⟨hattempts, -, -⟩ | ⟨hrows, -⟩
    · exact hsame hattempts
    · exact happended hrows

theorem ValidLedger.congr (h : ValidLedger s taskId)
    (hrows : (s'.coordinates.rows.filter fun r => r.taskId = taskId) = s.coordinates.rows.filter fun r =>
    r.taskId = taskId) (hattempts : ∀ r a, coordinateAttempt? s r = some a → coordinateAttempt? s' r = some a) :
      ValidLedger s' taskId := by
  refine ⟨fun r hr htask => ?_, ?_⟩
  · have hmem : r ∈ s'.coordinates.rows.filter fun r => r.taskId = taskId := by simp [hr, htask]
    rw [hrows, List.mem_filter] at hmem
    obtain ⟨a, ha, hrole, hprofile⟩ := h.attempts r hmem.1 htask
    exact ⟨a, hattempts r a ha, hrole, hprofile⟩
  · unfold ledger
    rw [coordinateHistory_congr hrows fun r hr htask => ?_]
    · exact h.sequence
    · obtain ⟨a, ha, -⟩ := h.attempts r hr htask
      rw [ha, hattempts r a ha]

/-- A preparation in order keeps every ledger valid. -/
theorem Reserves.valid {request : PrepareRequest} (h : Reserves s s' request) (horder : InOrder s request)
    (hv : ∀ taskId, ValidLedger s taskId) (taskId : String) : ValidLedger s' taskId := by
  have hattempts : ∀ r a, Provider.coordinateAttempt? s r = some a → Provider.coordinateAttempt? s' r = some a :=
    fun r a => h.coordinateAttempt?
  cases h with
  | same _ coordinates => exact (hv taskId).congr (by rw [coordinates]) hattempts
  | prepared _ _ coordinates => exact (hv taskId).congr (by rw [coordinates]) hattempts
  | reserved row r found role attempt task profile unreserved valid rows newest =>
    by_cases htask : r.taskId = taskId
    · subst htask
      have hkept : ∀ x ∈ s.coordinates.rows, x.taskId = r.taskId →
          Provider.coordinateAttempt? s' x = Provider.coordinateAttempt? s x := by
        intro x hx hxtask
        obtain ⟨a, ha, -⟩ := (hv r.taskId).attempts x hx hxtask
        rw [ha, hattempts x a ha]
      have hrow : Provider.coordinateAttempt? s' r = some row :=
        coordinateAttempt?_eq_some.2 ⟨by rw [attempt]; exact found, task.symm⟩
      have hnewest : ∀ p ∈ coordinateHistory s r.taskId, p.2.attemptNumber < row.attemptNumber := by
        rintro ⟨x, a⟩ hp
        obtain ⟨hx, hxtask, ha, hrole⟩ := mem_coordinateHistory.1 hp
        rcases newest with ⟨hsame, hid, hcoordinate⟩ | ⟨-, hnewest⟩
        · have hfound : s.providerAttempt? request.attemptId = some row := by
            rw [← hid]
            unfold Store.providerAttempt? at found ⊢
            rw [← hsame]
            exact found
          exact horder hcoordinate row hfound unreserved x hx (hxtask.trans task) a ha
        · obtain ⟨hfound, hatask⟩ := coordinateAttempt?_eq_some.1 ha
          exact hnewest a (providerAttempt?_eq_some.1 hfound).1 (hatask.trans (hxtask.trans task)) hrole
      have hhistory : coordinateHistory { s' with coordinates := s.coordinates } r.taskId = coordinateHistory s r.taskId :=
        coordinateHistory_congr rfl hkept
      refine ⟨fun x hx hxtask => ?_, ?_⟩
      · rw [rows, List.mem_append, List.mem_singleton] at hx
        rcases hx with hx | rfl
        · obtain ⟨a, ha, hrole, hprofile⟩ := (hv r.taskId).attempts x hx hxtask
          exact ⟨a, hattempts x a ha, hrole, hprofile⟩
        · exact ⟨row, hrow, role, profile⟩
      · rw [ledger, coordinateHistory_append rows hkept hrow role hnewest, List.map_append]
        refine (hv r.taskId).sequence.append ?_
        rw [ledger, hhistory] at valid
        rw [Option.or_none]
        exact valid
    · refine (hv taskId).congr ?_ hattempts
      rw [rows, filter_append_none]
      simpa using htask

/-! ## Preparations -/

theorem reserveCoordinate_ok {row : CoordinateRow} (h : reserveCoordinate row s = .ok s') :
    s' = s ∨ ((∀ x ∈ s.coordinates.rows, x.attemptId ≠ row.attemptId) ∧
      coordinateTransitionIsValid (ledger s row.taskId).getLast? row.coordinate = true ∧
      s'.coordinates.rows = s.coordinates.rows ++ [row] ∧ s' = { s with coordinates := s'.coordinates }) := by
  unfold reserveCoordinate at h
  split at h
  · simp only [bind_eq_ok, pure_eq_ok] at h
    obtain ⟨-, -, -, -, rfl⟩ := h
    exact .inl rfl
  · rename_i hnone
    simp only [bind_eq_ok, exists_unit, demand_eq_ok, pure_eq_ok] at h
    obtain ⟨-, -, -, hmonotonic, coordinates, hinsert, rfl⟩ := h
    refine .inr ⟨find?_key_none.1 hnone, ?_, (Table.insert?_eq_some.1 hinsert).2, rfl⟩
    exact (requireMonotonicSupervisorCoordinates_ok.1 hmonotonic).2 row.coordinate rfl

theorem lt_nextAttemptNumber {role : ProviderRole} (ha : a ∈ s.providerAttempts.rows) (htask : a.taskId = taskId)
    (hrole : a.role = role) : a.attemptNumber < nextAttemptNumber s taskId role := by
  have hmem : a.attemptNumber ∈
      (s.providerAttempts.rows.filter fun r => r.taskId = taskId ∧ r.role = role).map (·.attemptNumber) :=
    List.mem_map.2 ⟨a, by simp [ha, htask, hrole], rfl⟩
  exact Nat.lt_succ_of_le (List.le_max_of_le' 0 hmem le_rfl)

section Prepare

variable {identity : TaskIdentity} {c : RecoveryContext} {request : PrepareRequest} {p : Preparation}
  {lease : Option TransitionLease} {observed : Int}

/-- Only a Supervisor that names an epoch has a coordinate. -/
theorem preflightAttemptPreparation_coordinate
    (h : preflightAttemptPreparation host identity c request observed = .ok p) (hsome : p.coordinate ≠ none) :
    request.role = .supervisor ∧ request.reviewEpoch ≠ none := by
  simp only [preflightAttemptPreparation, bind_eq_ok, pure_eq_ok] at h
  obtain ⟨-, -, -, -, -, -, -, -, -, -, profile, -, position, -, coordinate, hcoordinate, receipt, -, rfl⟩ := h
  unfold validateSupervisorCoordinateRequest at hcoordinate
  split at hcoordinate
  · simp only [bind_eq_ok, pure_eq_ok] at hcoordinate
    obtain ⟨-, -, rfl⟩ := hcoordinate
    exact absurd rfl hsome
  · rename_i hrole
    refine ⟨not_not.1 hrole, fun hepoch => hsome ?_⟩
    rw [hepoch] at hcoordinate
    cases hround : request.reviewRound with
    | none =>
      rw [hround] at hcoordinate
      exact (Except.ok.inj hcoordinate).symm
    | some round =>
      rw [hround] at hcoordinate
      cases hcoordinate

theorem prepare_reserves (hpreflight : preflightAttemptPreparation host identity c request observed = .ok p)
    {replayed : Option AttemptRow} (h : prepare host identity c request p lease observed s = (.ok replayed, s')) :
    Reserves s s' request := by
  simp only [prepare, Tx.query_bind, Tx.write_bind, exists_unit] at h
  obtain ⟨-, _, -, -, -, s₁, hbinding, -, existing, hexisting, h⟩ := h
  have hframe₁ := recordRuntimeBinding_frame hbinding
  have hattempts₁ : s₁.providerAttempts = s.providerAttempts := by rw [hframe₁]
  have hcoordinates₁ : s₁.coordinates = s.coordinates := by rw [hframe₁]
  -- a replayed attempt is there already; a fresh one is inserted before its coordinate
  cases existing with
  | some row =>
    simp only [replayPreparation, Tx.query_bind, Tx.check_bind, Tx.write_bind, Tx.pure_ok, exists_unit, refuse_eq_ok,
      Bool.not_eq_false] at h
    obtain ⟨s₂, hcontext, _, -, hreplays, s₃, hreserve, -, rfl⟩ := h
    have hframe₂ := persistContext_frame hcontext
    obtain ⟨hfound, htask⟩ := taskAttempt?_eq_some.1 (Except.ok.inj hexisting)
    rw [hframe₁] at hfound
    have hid := (providerAttempt?_eq_some.1 hfound).2
    have hframe₃ := reserveSupervisorCoordinate_frame hreserve
    have hattempts : s₃.providerAttempts = s.providerAttempts := by rw [hframe₃, hframe₂, hframe₁]
    have hcoordinates₂ : s₂.coordinates = s.coordinates := by rw [hframe₂, hframe₁]
    cases hcoordinate : p.coordinate with
    | none =>
      rw [hcoordinate] at hreserve
      cases hreserve
      exact .same hattempts hcoordinates₂
    | some coordinate =>
      obtain ⟨epoch, round⟩ := coordinate
      rw [hcoordinate] at hreserve
      obtain ⟨hsupervisor, hepoch⟩ := preflightAttemptPreparation_coordinate hpreflight
        (by rw [hcoordinate]; exact Option.some_ne_none _)
      simp only [AttemptRow.replays, decide_eq_true_eq] at hreplays
      rcases reserveCoordinate_ok hreserve with rfl | ⟨hunreserved, hvalid, hrows, -⟩
      · exact .same hattempts hcoordinates₂
      · refine .reserved row ⟨request.attemptId, identity.taskId, epoch, round, p.position.logicalProfilePosition,
          p.position.physicalFormatOutputOrdinal, p.profile⟩ ?_ (hreplays.1.trans hsupervisor) hid.symm htask.symm
            hreplays.2.2.2.2.1 ?_ ?_ ?_
          (.inl ⟨hattempts, hid, hepoch⟩)
        · unfold Store.providerAttempt? at hfound ⊢
          rw [hattempts, hid]
          exact hfound
        · rw [hid, ← hcoordinates₂]
          exact hunreserved
        · have hledger : ledger { s₃ with coordinates := s.coordinates } identity.taskId = ledger s₂ identity.taskId := by
            refine ledger_congr ?_ ?_ _
            · rw [hframe₃]
            · exact hcoordinates₂.symm
          rw [show _ = ledger s₂ identity.taskId from hledger]
          exact hvalid
        · rw [hrows, hcoordinates₂]
  | none =>
    simp only [freshPreparation, Tx.write_bind, Tx.pure_ok] at h
    obtain ⟨s₂, hinsert, s₃, hreserve, s₄, hcontext, s₅, hhealth, s₆, hcheckpoint, -, rfl⟩ := h
    simp only [insertAttempt, bind_eq_ok, demand_eq_ok, pure_eq_ok] at hinsert
    obtain ⟨-, -, -, -, attempts, hinsert, rfl⟩ := hinsert
    obtain ⟨-, hrows⟩ := Table.insert?_eq_some.1 hinsert
    rw [hattempts₁] at hrows
    have hframe₃ := reserveSupervisorCoordinate_frame hreserve
    have hframe₄ := persistContext_frame hcontext
    have hframe₅ : s₅ = { s₄ with healthAuthorizations := s₅.healthAuthorizations, healthSeals := s₅.healthSeals } := by
      simp only [persistHealthAuthorization, bind_eq_ok, demand_eq_ok, pure_eq_ok] at hhealth
      obtain ⟨-, -, -, -, _, -, _, -, rfl⟩ := hhealth
      rfl
    have hframe₆ := checkpoint_frame hcheckpoint
    have hattempts : s₆.providerAttempts = attempts := by rw [hframe₆, hframe₅, hframe₄, hframe₃]
    have hcoordinates : s₆.coordinates = s₃.coordinates := by rw [hframe₆, hframe₅, hframe₄]
    cases hcoordinate : p.coordinate with
    | none =>
      rw [hcoordinate] at hreserve
      cases hreserve
      exact .prepared _ (by rw [hattempts, hrows]) (hcoordinates.trans hcoordinates₁)
    | some coordinate =>
      obtain ⟨epoch, round⟩ := coordinate
      rw [hcoordinate] at hreserve
      obtain ⟨hsupervisor, -⟩ := preflightAttemptPreparation_coordinate hpreflight (by rw [hcoordinate]; exact Option.some_ne_none _)
      rcases reserveCoordinate_ok hreserve with rfl | ⟨hunreserved, hvalid, hreserved, -⟩
      · exact .prepared _ (by rw [hattempts, hrows]) (hcoordinates.trans hcoordinates₁)
      · refine .reserved (preparedRow identity.taskId (nextAttemptNumber s₁ identity.taskId request.role) request p)
          ⟨request.attemptId, identity.taskId, epoch, round, p.position.logicalProfilePosition,
          p.position.physicalFormatOutputOrdinal, p.profile⟩
          ?_ hsupervisor rfl rfl rfl ?_ ?_ ?_ (.inr ⟨by rw [hattempts, hrows], fun a ha htask hrole => ?_⟩)
        · refine providerAttempt?_eq_some.2 ⟨?_, rfl⟩
          rw [hattempts, hrows]
          exact List.mem_append_right _ (List.mem_singleton.2 rfl)
        · rw [← hcoordinates₁]
          exact hunreserved
        · have hledger : ledger { s₆ with coordinates := s.coordinates } identity.taskId =
              ledger { s₁ with providerAttempts := attempts } identity.taskId := by
            refine ledger_congr ?_ ?_ _
            · exact hattempts
            · exact hcoordinates₁.symm
          rw [show _ = ledger { s₁ with providerAttempts := attempts } identity.taskId from hledger]
          exact hvalid
        · rw [hcoordinates, hreserved]
          exact congrArg (· ++ _) (congrArg Table.rows hcoordinates₁)
        · exact lt_nextAttemptNumber (by rw [hattempts₁]; exact ha) htask (hrole.trans hsupervisor.symm)

end Prepare

/-! ## Runs -/

/-- A preparation, for any task, under a condition on the state before it. -/
def PrepareStep (host : Host) (permits : Store → PrepareRequest → Prop) (s s' : Store) : Prop :=
  ∃ identity c request lease observed, permits s request ∧
    s' = ((Call.prepare identity c request lease observed).run host s).2

def PrepareRun (host : Host) (permits : Store → PrepareRequest → Prop) : Store → Store → Prop :=
  Relation.ReflTransGen (PrepareStep host permits)

theorem prepareAttempt_reserves (identity : TaskIdentity) (c : RecoveryContext) (request : PrepareRequest)
    (lease : Option TransitionLease) (observed : Int) :
    Tx.Atomic (Reserves · · request) ((Call.prepare identity c request lease observed).run host) := by
  refine .map (.check_bind fun p hpreflight => .bind_read (.mapError (.transaction fun s a s' h => ?_)) fun replayed s => ?_)
  · exact prepare_reserves hpreflight h
  · cases replayed <;> rfl

theorem PrepareStep.valid (h : PrepareStep host InOrder s s') (hv : ∀ taskId, ValidLedger s taskId) (taskId : String) :
    ValidLedger s' taskId := by
  obtain ⟨identity, c, request, lease, observed, horder, rfl⟩ := h
  have hatomic : Tx.Atomic (Reserves · · request) ((Call.prepare identity c request lease observed).run host) :=
    prepareAttempt_reserves identity c request lease observed
  rcases hatomic s with hsame | hreserves
  · rw [hsame]
    exact hv taskId
  · exact hreserves.valid horder hv taskId

/-- Nothing of the task is missing from its ledger. -/
theorem ValidLedger.perm (h : ValidLedger s taskId) :
    ((coordinateHistory s taskId).map (·.1)).Perm (s.coordinates.rows.filter fun r => r.taskId = taskId) := by
  refine ((sortBy_perm _ _).map _).trans (.of_eq ?_)
  have hjoined : ∀ l : List CoordinateRow, (∀ r ∈ l, ∃ a, coordinateAttempt? s r = some a ∧ a.role = .supervisor) →
      (l.filterMap fun r => ((coordinateAttempt? s r).filter fun a => a.role = .supervisor).map fun a => (r, a)).map (·.1) = l := by
    intro l hl
    induction l with
    | nil => rfl
    | cons r rest ih =>
      obtain ⟨a, ha, hrole⟩ := hl r List.mem_cons_self
      rw [List.filterMap_cons_some (b := (r, a)) (by simp [ha, hrole, Option.filter]), List.map_cons,
        ih fun x hx => hl x (List.mem_cons_of_mem _ hx)]
  refine hjoined _ fun r hr => ?_
  simp only [List.mem_filter, decide_eq_true_eq] at hr
  obtain ⟨a, ha, hrole, -⟩ := h.attempts r hr.1 hr.2
  exact ⟨a, ha, hrole⟩

/-- The ledger of Supervisor coordinates stays valid. In every run of preparations from a database without coordinates,
in which no replay names the first coordinate of an attempt while a newer one of its task has a coordinate, the
coordinates of each task in the order of the attempt numbers are accepted one after the other, increase and never
repeat, and `_require_monotonic_supervisor_coordinates` reports no drift. -/
theorem supervisor_ledger_valid {start s : Store} (unused : start.coordinates.rows = [])
    (run : PrepareRun host InOrder start s) (taskId : String) :
    ((coordinateHistory s taskId).map (·.1)).Perm (s.coordinates.rows.filter fun r => r.taskId = taskId) ∧
    InSequence none (ledger s taskId) ∧ (ledger s taskId).Pairwise (fun a b => a.key < b.key) ∧ (ledger s taskId).Nodup ∧
    requireMonotonicSupervisorCoordinates s taskId none = .ok () := by
  have hstart : ∀ taskId, ValidLedger start taskId := by
    intro taskId
    refine ⟨fun r hr => ?_, ?_⟩
    · rw [unused] at hr
      cases hr
    · have hempty : ledger start taskId = [] := by
        unfold ledger coordinateHistory
        rw [unused]
        rfl
      rw [hempty]
      exact .nil
  have hvalid : ∀ taskId, ValidLedger s taskId :=
    run_induction (P := fun s => ∀ taskId, ValidLedger s taskId) (fun _ _ hstep hv => hstep.valid hv) run hstart
  have hincreasing := (hvalid taskId).sequence.increasing
  refine ⟨(hvalid taskId).perm, (hvalid taskId).sequence, hincreasing, ?_, ?_⟩
  · refine hincreasing.imp fun hlt heq => ?_
    rw [heq] at hlt
    exact lt_irrefl _ hlt
  · exact requireMonotonicSupervisorCoordinates_ok.2 ⟨hvalid taskId, nofun⟩

namespace Sample

def supervisor : RecoveryContext := context .supervisor 2 (digest 3)

/-- A preparation of a Supervisor, with or without a coordinate. -/
def reservation (attemptId : String) (coordinate : Option (Int × Int)) : PrepareRequest :=
  ⟨attemptId, .supervisor, "process", 50, text 7, none, 0, 0, coordinate.map (·.1), coordinate.map (·.2)⟩

def reserve (attemptId : String) (coordinate : Option (Int × Int)) : Call :=
  .prepare identity supervisor (reservation attemptId coordinate) (some lease) 10

def first : After (reserve "first" none) start := ⟨_, rfl⟩
def second : After (reserve "second" (some (0, 1))) first.1 := ⟨_, rfl⟩

/-- The first attempt names its coordinate after the second one. -/
def overtaken : After (reserve "first" (some (0, 2))) second.1 := ⟨_, rfl⟩

theorem reservations :
    (first.1.providerAttempt? "second").isNone = true ∧ ledger second.1 "task" = [⟨0, 1, 1, 0⟩] ∧
    (requireMonotonicSupervisorCoordinates overtaken.1 "task" none).isOk = false := by
  decide +kernel

end Sample

open Sample in
theorem supervisor_ledger_valid_second :
    ledger second.1 "task" = [⟨0, 1, 1, 0⟩] ∧
    requireMonotonicSupervisorCoordinates second.1 "task" none = .ok () := by
  obtain ⟨hnone, hledger, -⟩ := reservations
  have hrun : PrepareRun .sample InOrder start second.1 := by
    refine .tail (.single ⟨_, _, reservation "first" none, _, _, ?_, first.2⟩)
      ⟨_, _, reservation "second" (some (0, 1)), _, _, ?_, second.2⟩
    · exact fun hepoch => absurd rfl hepoch
    · intro _ row hrow
      exact nomatch (Option.isNone_iff_eq_none.1 hnone).symm.trans hrow
  exact ⟨hledger, (supervisor_ledger_valid rfl hrun "task").2.2.2.2⟩

open Sample in
/-- The replay of an older attempt puts its new coordinate in front of that of a newer one. -/
theorem supervisor_ledger_drifts :
    ¬ ∀ (start s : Store) (taskId : String), start.coordinates.rows = [] → PrepareRun .sample (fun _ _ => True) start s →
      InSequence none (ledger s taskId) ∧ (ledger s taskId).Pairwise (fun a b => a.key < b.key) ∧ (ledger s taskId).Nodup ∧
      requireMonotonicSupervisorCoordinates s taskId none = .ok () := by
  intro hclaim
  have hrun : PrepareRun .sample (fun _ _ => True) start overtaken.1 :=
    .tail (.tail (.single ⟨_, _, _, _, _, trivial, first.2⟩) ⟨_, _, _, _, _, trivial, second.2⟩)
      ⟨_, _, _, _, _, trivial, overtaken.2⟩
  have hdrifts := reservations.2.2
  rw [(hclaim start overtaken.1 "task" rfl hrun).2.2.2] at hdrifts
  cases hdrifts

end Roundwright.Provider
