/-
The completion of a planning turn, in whatever state it is tried: what its transaction demands, when it writes
something, and what it leaves as it was.
-/
import Roundwright.Planning.Recording
import Roundwright.Provider.Machine

namespace Roundwright.Planning

open Lib State Provider

variable {host : Host} {identity : TaskIdentity} {c : RecoveryContext} {attemptId ptr evidence output : String}
  {lease : Option TransitionLease} {observed : Int} {p q p' : Recovery.Store} {row : AttemptRow}

/-! ## The provider tables -/

/-- The call may act on the attempt, of which `q` has the context. -/
structure Authorized (host : Host) (identity : TaskIdentity) (c : RecoveryContext) (attemptId : String)
    (lease : Option TransitionLease) (observed : Int) (p q : Recovery.Store) (row : AttemptRow) : Prop where
  lease : Gate.requireLease p.ledger lease identity.repositoryId observed = .ok ()
  task : ∃ state, requireMatchingTask host p.ledger identity none = .ok state
  context : persistContext attemptId c p = .ok q
  attempt : attemptRow q identity.taskId attemptId = .ok row
  health : ∃ sealed, requirePersistedHealthAuthorization host q attemptId c row.role row.selectedProfileIdentity
    observed = .ok sealed

theorem authorizeAttempt_iff {sealed : String} :
    authorizeAttempt host identity c attemptId none lease observed p = (.ok (row, sealed), q) ↔
      Gate.requireLease p.ledger lease identity.repositoryId observed = .ok () ∧
      (∃ state, requireMatchingTask host p.ledger identity none = .ok state) ∧ persistContext attemptId c p = .ok q ∧
      attemptRow q identity.taskId attemptId = .ok row ∧
      requirePersistedHealthAuthorization host q attemptId c row.role row.selectedProfileIdentity observed = .ok sealed := by
  simp only [authorizeAttempt, Tx.query_bind, Tx.write_bind, Tx.pure_ok, exists_unit, Prod.mk.injEq]
  constructor
  · rintro ⟨hlease, state, htask, -, q', hcontext, row', hrow, sealed', hsealed, ⟨rfl, rfl⟩, rfl⟩
    exact ⟨hlease, ⟨state, htask⟩, hcontext, hrow, hsealed⟩
  · rintro ⟨hlease, ⟨state, htask⟩, hcontext, hrow, hsealed⟩
    exact ⟨hlease, state, htask, rfl, q, hcontext, row, hrow, sealed, hsealed, ⟨rfl, rfl⟩, rfl⟩

theorem persistCompletionOutput_ok {message : String} : persistCompletionOutput attemptId output message p = .ok p' ↔
    (Store.completionOutput? p attemptId = none ∧ ∃ completionOutputs, p.completionOutputs.insert? ⟨attemptId, output⟩ =
    some completionOutputs ∧
      p' = { p with completionOutputs }) ∨ (Store.completionOutput? p attemptId = some output ∧ p' = p) := by
  unfold persistCompletionOutput
  cases hbound : Store.completionOutput? p attemptId with
  | none =>
    simp only [bind_eq_ok, demand_eq_ok, pure_eq_ok]
    constructor
    · rintro ⟨completionOutputs, hinsert, rfl⟩
      exact .inl ⟨trivial, completionOutputs, hinsert, rfl⟩
    · rintro (⟨-, completionOutputs, hinsert, rfl⟩ | ⟨hnone, -⟩)
      · exact ⟨completionOutputs, hinsert, rfl⟩
      · cases hnone
  | some bound =>
    simp only [bind_eq_ok, exists_unit, refuse_eq_ok, pure_eq_ok, not_not]
    constructor
    · rintro ⟨rfl, rfl⟩
      exact .inr ⟨rfl, rfl⟩
    · rintro (⟨hnone, -⟩ | ⟨hsame, rfl⟩)
      · cases hnone
      · exact ⟨Option.some.inj hsame, rfl⟩

/-- The row that a completion writes. -/
def completedRow (ptr evidence : String) (r : AttemptRow) : AttemptRow :=
  { r with outputPointer := some ptr, completionEvidenceFingerprint := some evidence, state := .completed }

/-- The turn has no output yet, or not all of it: it is dispatched, or it is completed so and its content is not
bound. -/
def TurnOpen (p : Recovery.Store) (row : AttemptRow) (attemptId ptr evidence output : String) : Prop :=
  (row.state = .dispatched ∧ (∀ bound, Store.completionOutput? p attemptId = some bound → bound = output) ∧
      (completedRow ptr evidence row).wellFormed = true) ∨
    (row.state = .completed ∧ row.outputPointer = some ptr ∧ row.completionEvidenceFingerprint = some evidence ∧
      Store.completionOutput? p attemptId = none)

/-- The turn was completed by the same output. -/
def TurnReplayed (p : Recovery.Store) (row : AttemptRow) (attemptId ptr evidence output : String) : Prop :=
  row.state = .completed ∧ row.outputPointer = some ptr ∧ row.completionEvidenceFingerprint = some evidence ∧
    Store.completionOutput? p attemptId = some output

theorem completeOutput_iff : completeOutput host identity c attemptId ptr evidence output lease observed p = (.ok (), p') ↔
    ∃ q row, Authorized host identity c attemptId lease observed p q row ∧
      ((row.state = .completed ∧ (row.outputPointer = some ptr ∧ row.completionEvidenceFingerprint = some evidence) ∧
          persistCompletionOutput attemptId output "completed output replay conflicts with committed content" q = .ok p') ∨
        (row.state = .dispatched ∧ (∀ bound, Store.completionOutput? q attemptId = some bound → bound = output) ∧
          ∃ q', updateAttempt attemptId (completedRow ptr evidence) q = .ok q' ∧
            persistCompletionOutput attemptId output "completed output conflicts with committed content" q' = .ok p')) := by
  have hbound : ∀ o : Option String, (¬ o.any (fun bound => decide (bound ≠ output)) = true) ↔ ∀ bound, o = some bound →
    bound = output := by
    intro o
    cases o with
    | none => simp
    | some bound => simp
  unfold completeOutput
  rw [Tx.bind_ok]
  constructor
  · rintro ⟨⟨row, sealed⟩, q, hauthorized, h⟩
    obtain ⟨hlease, htask, hcontext, hrow, hsealed⟩ := authorizeAttempt_iff.1 hauthorized
    refine ⟨q, row, ⟨hlease, htask, hcontext, hrow, sealed, hsealed⟩, ?_⟩
    dsimp only at h
    split at h
    · rename_i hstate
      simp only [Tx.check_bind, Tx.write_ok, exists_unit, refuse_eq_ok, not_or, not_not] at h
      exact .inl ⟨hstate, h⟩
    · simp only [Tx.query_bind, Tx.check_bind, Tx.write_bind, Tx.write_ok, exists_unit, refuse_eq_ok, not_not] at h
      obtain ⟨hstate, hfits, hwritten⟩ := h
      exact .inr ⟨hstate, (hbound _).1 hfits, hwritten⟩
  · rintro ⟨q, row, ⟨hlease, htask, hcontext, hrow, sealed, hsealed⟩, h⟩
    refine ⟨(row, sealed), q, authorizeAttempt_iff.2 ⟨hlease, htask, hcontext, hrow, hsealed⟩, ?_⟩
    dsimp only
    rcases h with ⟨hstate, hsame, hpersist⟩ | ⟨hstate, hfits, hwritten⟩
    · rw [if_pos hstate]
      simp only [Tx.check_bind, Tx.write_ok, exists_unit, refuse_eq_ok, not_or, not_not]
      exact ⟨hsame, hpersist⟩
    · rw [if_neg (by rw [hstate]; decide)]
      simp only [Tx.query_bind, Tx.check_bind, Tx.write_bind, Tx.write_ok, exists_unit, refuse_eq_ok, not_not]
      exact ⟨hstate, (hbound _).2 hfits, hwritten⟩

/-- What the completion leaves of everything else, and the row that is read back after it. -/
structure Completed (identity : TaskIdentity) (attemptId ptr : String) (p p' : Recovery.Store) (role : ProviderRole) : Prop where
  ledger : p'.ledger = p.ledger
  planReviews : p'.planReviews = p.planReviews
  diffReviews : p'.diffReviews = p.diffReviews
  attempt : ∃ row, attemptRow p' identity.taskId attemptId = .ok row ∧ row.attemptId = attemptId ∧ row.role = role ∧
    row.state = .completed ∧
    row.outputPointer = some ptr

theorem attemptId_of_row (h : attemptRow p identity.taskId attemptId = .ok row) : row.attemptId = attemptId :=
  (providerAttempt?_eq_some.1 (attemptRow_ok.1 h).1).2

theorem completeOutput_cases (h : completeOutput host identity c attemptId ptr evidence output lease observed p = (.ok (), p')) :
    ∃ q row, Authorized host identity c attemptId lease observed p q row ∧ Completed identity attemptId ptr p p' row.role ∧
      ((TurnReplayed q row attemptId ptr evidence output ∧ p' = q) ∨
        (TurnOpen q row attemptId ptr evidence output ∧
          (p'.providerAttempts ≠ p.providerAttempts ∨ p'.completionOutputs ≠ p.completionOutputs))) := by
  obtain ⟨q, row, hauthorized, h⟩ := completeOutput_iff.1 h
  have hframe := persistContext_frame hauthorized.context
  have hfound := (attemptRow_ok.1 hauthorized.attempt).1
  have hid := attemptId_of_row hauthorized.attempt
  refine ⟨q, row, hauthorized, ?_⟩
  -- a replay finds its evidence in the row; a first completion writes it
  rcases h with ⟨hstate, ⟨hptr, hevidence⟩, hpersist⟩ | ⟨hstate, hfits, q', hupdate, hpersist⟩
  · have hframe' := persistCompletionOutput_frame hpersist
    have hread : attemptRow p' identity.taskId attemptId = .ok row := by
      rw [hframe']
      exact hauthorized.attempt
    refine ⟨⟨by rw [hframe', hframe], by rw [hframe', hframe], by rw [hframe', hframe],
      row, hread, hid, rfl, hstate, hptr⟩, ?_⟩
    rcases persistCompletionOutput_ok.1 hpersist with ⟨hnone, outputs, hinsert, rfl⟩ | ⟨hbound, rfl⟩
    · refine .inr ⟨.inr ⟨hstate, hptr, hevidence, hnone⟩, .inr fun heq => ?_⟩
      have hlength := congrArg (fun t : Table CompletionOutputRow.clash => t.rows.length) heq
      have hsame : q.completionOutputs = p.completionOutputs := by rw [hframe]
      dsimp only at hlength
      rw [(Table.insert?_eq_some.1 hinsert).2, hsame, List.length_append, List.length_singleton] at hlength
      omega
    · exact .inl ⟨⟨hstate, hptr, hevidence, hbound⟩, rfl⟩
  · obtain ⟨hmoved, hframe'⟩ := updateAttempt_ok hupdate hfound fun _ => rfl
    have hframe'' := persistCompletionOutput_frame hpersist
    have hread : p'.providerAttempt? attemptId = some (completedRow ptr evidence row) := by
      have hread := hmoved.attempt?
      rw [hid] at hread
      rw [hframe'']
      exact hread
    refine ⟨⟨by rw [hframe'', hframe', hframe], by rw [hframe'', hframe', hframe], by rw [hframe'', hframe', hframe],
      completedRow ptr evidence row, attemptRow_ok.2 ⟨hread, (attemptRow_ok.1 hauthorized.attempt).2⟩, hid, rfl, rfl, rfl⟩, ?_⟩
    refine .inr ⟨.inl ⟨hstate, hfits, ?_⟩, .inl fun heq => ?_⟩
    · simp only [updateAttempt, bind_eq_ok, exists_unit, refuse_eq_ok] at hupdate
      by_contra hbad
      refine hupdate.1 (List.any_eq_true.2 ⟨row, (providerAttempt?_eq_some.1 hfound).1, ?_⟩)
      rw [decide_eq_true_eq]
      exact ⟨hid, by simpa using hbad⟩
    · have hold : p'.providerAttempt? attemptId = some row := by
        unfold Recovery.Store.providerAttempt? at hfound ⊢
        rw [heq]
        rw [hframe] at hfound
        exact hfound
      rw [hread, Option.some.injEq] at hold
      rw [← hold] at hstate
      cases hstate

theorem completeOutput_of_open (hauthorized : Authorized host identity c attemptId lease observed p q row)
    (hopen : TurnOpen q row attemptId ptr evidence output) :
    ∃ p', completeOutput host identity c attemptId ptr evidence output lease observed p = (.ok (), p') := by
  have hfound := (attemptRow_ok.1 hauthorized.attempt).1
  obtain ⟨hmem, hid⟩ := providerAttempt?_eq_some.1 hfound
  -- an output that is not bound can be
  have hinsert : ∀ q' : Recovery.Store, Store.completionOutput? q' attemptId = none →
      ∃ completionOutputs, q'.completionOutputs.insert? ⟨attemptId, output⟩ = some completionOutputs := by
    intro q' hnone
    unfold Store.completionOutput? at hnone
    rw [Option.map_eq_none_iff, List.find?_eq_none] at hnone
    exact Table.insert?_of_apart fun a ha => by simpa [CompletionOutputRow.clash] using hnone a ha
  rcases hopen with ⟨hstate, hfits, hwell⟩ | ⟨hstate, hptr, hevidence, hnone⟩
  · obtain ⟨attempts, hattempts⟩ : ∃ attempts, q.providerAttempts.update? (fun r =>
        if r.attemptId = attemptId then completedRow ptr evidence r else r) = some attempts := by
      refine Table.update?_of_apart fun a b hab => ?_
      split at hab <;> split at hab <;> exact hab
    have hupdate : updateAttempt attemptId (completedRow ptr evidence) q = .ok { q with providerAttempts := attempts } := by
      simp only [updateAttempt, bind_eq_ok, exists_unit, refuse_eq_ok, demand_eq_ok, pure_eq_ok]
      refine ⟨fun hany => ?_, attempts, hattempts, rfl⟩
      obtain ⟨r, hr, hbad⟩ := List.any_eq_true.1 hany
      rw [decide_eq_true_eq] at hbad
      obtain rfl := Table.eq_of_key AttemptRow.attemptId_key hr hmem (hbad.1.trans hid.symm)
      rw [hwell] at hbad
      cases hbad.2
    have hsame : Store.completionOutput? { q with providerAttempts := attempts } attemptId = Store.completionOutput? q
      attemptId := rfl
    cases hbound : Store.completionOutput? q attemptId with
    | none =>
      obtain ⟨outputs, houtputs⟩ := hinsert { q with providerAttempts := attempts } (hsame.trans hbound)
      exact ⟨_, completeOutput_iff.2 ⟨q, row, hauthorized, .inr ⟨hstate, hfits, _, hupdate,
        persistCompletionOutput_ok.2 (.inl ⟨hsame.trans hbound, outputs, houtputs, rfl⟩)⟩⟩⟩
    | some bound =>
      obtain rfl := hfits bound hbound
      exact ⟨_, completeOutput_iff.2 ⟨q, row, hauthorized, .inr ⟨hstate, hfits, _, hupdate,
        persistCompletionOutput_ok.2 (.inr ⟨hsame.trans hbound, rfl⟩)⟩⟩⟩
  · obtain ⟨outputs, houtputs⟩ := hinsert q hnone
    exact ⟨_, completeOutput_iff.2 ⟨q, row, hauthorized, .inl ⟨hstate, ⟨hptr, hevidence⟩,
      persistCompletionOutput_ok.2 (.inl ⟨hnone, outputs, houtputs, rfl⟩)⟩⟩⟩

/-! ## The row that is read back -/

/-- Reviews of both kinds name the attempt. -/
def ReviewedTwice (p : Recovery.Store) (taskId attemptId : String) : Prop :=
  (p.planReviews.find? fun r => r.providerAttemptId = attemptId ∧ r.taskId = taskId).isSome ∧
    (p.diffReviews.find? fun r => r.providerAttemptId = attemptId ∧ r.taskId = taskId).isSome

instance (p : Recovery.Store) (taskId attemptId : String) : Decidable (ReviewedTwice p taskId attemptId) := by
  unfold ReviewedTwice
  infer_instance

theorem pointer_start (planAttemptId : String) : pointerStartsWith (some (pointer planAttemptId)) "plan-review:" = false ∧
    pointerStartsWith (some (pointer planAttemptId)) "diff-review:" = false := by
  have htext : (pointer planAttemptId).toList = 'p' :: 'l' :: 'a' :: 'n' :: ':' :: planAttemptId.toList := by
    unfold pointer
    rw [String.toList_append]
    rfl
  unfold pointerStartsWith
  rw [Option.any_some, Option.any_some, htext]
  exact ⟨rfl, rfl⟩

theorem acceptedReviewKind_completed {planAttemptId : String} (hstate : row.state = .completed)
    (hptr : row.outputPointer = some (pointer planAttemptId)) :
    acceptedReviewKind p identity row = .invalid ↔ row.role = .supervisor ∧ ReviewedTwice p identity.taskId row.attemptId := by
  have haccepted : ∀ start review, row.acceptedFor start review = true := by
    intro start review
    unfold AttemptRow.acceptedFor
    rw [hstate]
    simp
  obtain ⟨hplan, hdiff⟩ := pointer_start planAttemptId
  unfold acceptedReviewKind ReviewedTwice
  by_cases hrole : row.role = .supervisor
  · rw [if_neg (not_not.2 hrole)]
    cases p.planReviews.find? fun r => r.providerAttemptId = row.attemptId ∧ r.taskId = identity.taskId <;>
      cases p.diffReviews.find? fun r => r.providerAttemptId = row.attemptId ∧ r.taskId = identity.taskId <;>
      simp [hrole, haccepted, hptr, hplan, hdiff]
  · rw [if_pos hrole]
    simp [hrole]

theorem readAttempt_completed {planAttemptId : String} {role : ProviderRole}
    (h : Completed identity attemptId (pointer planAttemptId) p p' role)
    (htask : ∃ state, requireMatchingTask host p.ledger identity none = .ok state) :
    (¬ (role = .supervisor ∧ ReviewedTwice p identity.taskId attemptId) ∧
        ∃ row, readAttempt host identity attemptId none p' = .ok row ∧ row.state = .completed) ∨
      ((role = .supervisor ∧ ReviewedTwice p identity.taskId attemptId) ∧
        readAttempt host identity attemptId none p' = .error (.providerRecovery "accepted supervisor review is invalid")) := by
  obtain ⟨state, hstate⟩ := htask
  obtain ⟨row, hrow, hid, hrole, hcompleted, hptr⟩ := h.attempt
  have htwice : ReviewedTwice p' identity.taskId attemptId ↔ ReviewedTwice p identity.taskId attemptId := by
    unfold ReviewedTwice
    rw [h.planReviews, h.diffReviews]
  have hkind : acceptedReviewKind p' identity row = .invalid ↔ row.role = .supervisor ∧
    ReviewedTwice p' identity.taskId row.attemptId :=
    acceptedReviewKind_completed hcompleted hptr
  rw [hrole, hid, htwice] at hkind
  have hmatch : requireMatchingTask host p'.ledger identity none = .ok state := by
    rw [h.ledger]
    exact hstate
  by_cases hinvalid : role = .supervisor ∧ ReviewedTwice p identity.taskId attemptId
  · refine .inr ⟨hinvalid, ?_⟩
    simp only [readAttempt, hmatch, hrow, readConnection, ok_bind, hkind.2 hinvalid]
    rfl
  · refine .inl ⟨hinvalid, row, ?_, hcompleted⟩
    have hvalid : acceptedReviewKind p' identity row ≠ .invalid := fun h => hinvalid (hkind.1 h)
    simp only [readAttempt, hmatch, hrow, readConnection, ok_bind]
    rw [refuse_of_not hvalid, ok_bind, if_neg (by rw [hcompleted]; simp)]
    rfl

/-! ## The completion within the recording -/

theorem admitOutput_ok {call : RecordPlanCall} {s : Store} {plan : WorkerPlan} {dispatch : PlanningDispatch}
    (h : admitOutput host identity call s = .ok (plan, dispatch)) :
    isLeaseToken call.planAttemptId = true ∧ isHex 64 call.completionEvidenceFingerprint = true ∧
      isLeaseToken dispatch.providerAttemptId = true ∧ call.output.plan.normalized = .ok plan ∧
      readDispatch host s identity call.planAttemptId = .ok dispatch ∧
      requireUnowned host s identity call.planAttemptId (plan.digest host) = .ok () := by
  unfold admitOutput at h
  simp only [bind_eq_ok, exists_unit, requireToken, requireFingerprint, refuse_eq_ok, pure_eq_ok] at h
  obtain ⟨hid, hevidence, output, hnormal, -, found, hdispatch, hanswers, hunowned, hresult⟩ := h
  obtain ⟨rfl, rfl⟩ := Prod.mk.inj hresult
  simp only [WorkerPlanOutput.normalized, bind_eq_ok, exists_unit, requireToken, refuse_eq_ok, pure_eq_ok] at hnormal
  obtain ⟨-, hprovider, -, -, -, -, plan, hplan, rfl⟩ := hnormal
  have hsame : call.output.providerAttemptId = found.providerAttemptId := by
    have hall : WorkerPlanOutput.answers { call.output with plan } found = true := by simpa using hanswers
    unfold WorkerPlanOutput.answers at hall
    exact (of_decide_eq_true hall).1
  rw [hsame] at hprovider
  exact ⟨by simpa using hid, by simpa using hevidence, by simpa using hprovider, hplan, hdispatch, hunowned⟩

section Completing

variable {call : RecordPlanCall} {s : Store} {plan : WorkerPlan} {dispatch : PlanningDispatch}

/-- The formats that the completion checks are those that were checked before. -/
theorem recordCompletedOutput_run (hid : isLeaseToken call.planAttemptId = true)
    (hevidence : isHex 64 call.completionEvidenceFingerprint = true)
    (hprovider : isLeaseToken dispatch.providerAttemptId = true) (hcontext : validateContext host identity c = .ok ()) :
    recordCompletedOutput host identity c dispatch.providerAttemptId (pointer call.planAttemptId) call.completionEvidenceFingerprint
        (plan.digest host) lease observed p =
      (transaction (completeOutput host identity c dispatch.providerAttemptId (pointer call.planAttemptId) call.completionEvidenceFingerprint
        (plan.digest host) lease observed) >>= fun _ => Tx.query (readAttempt host identity dispatch.providerAttemptId none)) p := by
  have hpointer : Recovery.isName (pointer call.planAttemptId) = true := by
    have htext : (pointer call.planAttemptId).toList = 'p' :: 'l' :: 'a' :: 'n' :: ':' :: call.planAttemptId.toList := by
      unfold pointer
      rw [String.toList_append]
      rfl
    unfold isLeaseToken at hid
    unfold Recovery.isName
    rw [htext]
    cases hchars : call.planAttemptId.toList with
    | nil =>
      rw [hchars] at hid
      cases hid
    | cons first rest =>
      rw [hchars, Bool.and_eq_true] at hid
      simp only [List.all_cons, hid.1, hid.2, Bool.true_or, Bool.and_true]
      decide
  have htoken : Provider.requireToken dispatch.providerAttemptId "attempt identity" = .ok () :=
    refuse_of_not (by rw [show Recovery.isName dispatch.providerAttemptId = true from hprovider]; decide)
  have hptr : Provider.requireToken (pointer call.planAttemptId) "output pointer" = .ok () :=
    refuse_of_not (by rw [hpointer]; decide)
  have hfingerprint : Provider.requireFingerprint call.completionEvidenceFingerprint "completion evidence fingerprint" = .ok () :=
    refuse_of_not (by rw [hevidence]; decide)
  have houtput : (if plan.digest host = "" then Except.ok () else Provider.requireFingerprint
      (plan.digest host) "output fingerprint") = (.ok () : Except Error Unit) := by
    split
    · rfl
    · exact refuse_of_not (by unfold WorkerPlan.digest; rw [Hex.isHex_text]; decide)
  unfold recordCompletedOutput
  simp only [Tx.run_check_bind, hcontext, htoken, hptr, hfingerprint, houtput]

theorem completeTurn_of_run {r : Except Error AttemptRow}
    (h : recordCompletedOutput host identity c dispatch.providerAttemptId (pointer call.planAttemptId)
    call.completionEvidenceFingerprint
      (plan.digest host) call.lease (call.now.getD call.completedAt) s.provider = (r, p')) :
    completeTurn host identity c call plan dispatch s = match r with
      | .ok row => (refuse (row.state ≠ .completed) (.workerPlanning "Worker plan provider turn is not completed"),
          s.withProvider p')
      | .error e => (.error (planningError e), s.withProvider p') := by
  unfold completeTurn
  simp only [bind, Tx.mapError, Tx.on, h]
  cases r with
  | error e => rfl
  | ok row => rfl

/-- The completion of a turn is refused and changes nothing, or it is a replay, or it writes. Where it goes through,
only reviews of both kinds keep the row from being read back. -/
theorem completeTurn_cases (hadmitted : admitOutput host identity call s = .ok (plan, dispatch)) :
    (∃ p' q row, validateContext host identity c = .ok () ∧
        Authorized host identity c dispatch.providerAttemptId call.lease (call.now.getD call.completedAt) s.provider q row ∧
        Completed identity dispatch.providerAttemptId (pointer call.planAttemptId) s.provider p' row.role ∧
        ((TurnReplayed q row dispatch.providerAttemptId (pointer call.planAttemptId) call.completionEvidenceFingerprint (plan.digest host) ∧
            p' = q) ∨
          (TurnOpen q row dispatch.providerAttemptId (pointer call.planAttemptId) call.completionEvidenceFingerprint
            (plan.digest host) ∧
            (p'.providerAttempts ≠ s.provider.providerAttempts ∨ p'.completionOutputs ≠ s.provider.completionOutputs))) ∧
        ((¬ (row.role = .supervisor ∧ ReviewedTwice s.provider identity.taskId dispatch.providerAttemptId) ∧
            completeTurn host identity c call plan dispatch s = (.ok (), s.withProvider p')) ∨
          ((row.role = .supervisor ∧ ReviewedTwice s.provider identity.taskId dispatch.providerAttemptId) ∧
            ∃ e, e ≠ ownerInput ∧ completeTurn host identity c call plan dispatch s = (.error e, s.withProvider p')))) ∨
      ((validateContext host identity c = .ok () → ∀ q row,
          Authorized host identity c dispatch.providerAttemptId call.lease (call.now.getD call.completedAt) s.provider q row →
          ¬ TurnOpen q row dispatch.providerAttemptId (pointer call.planAttemptId) call.completionEvidenceFingerprint
            (plan.digest host)) ∧
        ∃ e, completeTurn host identity c call plan dispatch s = (.error e, s)) := by
  obtain ⟨hid, hevidence, hprovider, -, -, -⟩ := admitOutput_ok hadmitted
  cases hcontext : validateContext host identity c with
  | error e =>
    refine .inr ⟨fun h => (by cases h), planningError e, ?_⟩
    refine completeTurn_of_run (?_ : _ = (.error e, s.provider))
    unfold recordCompletedOutput
    simp only [Tx.run_check_bind, hcontext]
  | ok u =>
    have hrun := @recordCompletedOutput_run host identity c call.lease (call.now.getD call.completedAt) s.provider call
      plan dispatch hid hevidence hprovider hcontext
    rcases transaction_cases (completeOutput host identity c dispatch.providerAttemptId (pointer call.planAttemptId)
        call.completionEvidenceFingerprint (plan.digest host) call.lease (call.now.getD call.completedAt)) s.provider with
      ⟨u, p', hbody, htransaction⟩ | ⟨e, hbody, htransaction⟩
    · obtain ⟨q, row, hauthorized, hcompleted, hcases⟩ := completeOutput_cases hbody
      refine .inl ⟨p', q, row, rfl, hauthorized, hcompleted, hcases, ?_⟩
      rcases readAttempt_completed hcompleted hauthorized.task with ⟨hvalid, read, hread, hstate⟩ | ⟨hinvalid, hread⟩
      · refine .inl ⟨hvalid, ?_⟩
        have hdone : recordCompletedOutput host identity c dispatch.providerAttemptId (pointer call.planAttemptId)
            call.completionEvidenceFingerprint (plan.digest host) call.lease (call.now.getD call.completedAt)
              s.provider = (.ok read, p') := by
          rw [hrun]
          simp only [bind, htransaction, Tx.query, hread]
        rw [completeTurn_of_run hdone]
        dsimp only
        rw [refuse_of_not (not_not.2 hstate)]
      · refine .inr ⟨hinvalid, .workerPlanning "accepted supervisor review is invalid", by decide, ?_⟩
        refine completeTurn_of_run (?_ : _ = (.error (.providerRecovery "accepted supervisor review is invalid"), p'))
        rw [hrun]
        simp only [bind, htransaction, Tx.query, hread]
    · refine .inr ⟨fun _ q row hauthorized hopen => ?_, planningError e, ?_⟩
      · obtain ⟨p', hgo⟩ := completeOutput_of_open hauthorized hopen
        rw [hgo] at hbody
        cases hbody
      · refine completeTurn_of_run (?_ : _ = (.error e, s.provider))
        rw [hrun]
        simp only [bind, htransaction]

end Completing

end Roundwright.Planning
