/-
Routes are used once. In every interleaving of the operations on routes, by any number of processes, a
successor admission stays as it was written; a route whose successor can be seen is never given back; and
while a reservation holds a route no other reservation gets at it.

Everything follows from what a call that returns has done: it moved the state of one route in one of the
eight ways of `Move`, or it issued a route.
-/
import Roundwright.Recovery.Route

namespace Roundwright.Recovery

open Lib State

variable {host : Host} {s s' : Store}

/-! ## Routes by their digest -/

theorem RouteRow.routeDigest_key : Table.IsKey RouteRow.clash (·.routeDigest) := by
  intro a b h
  simp [RouteRow.clash, show a.routeDigest = b.routeDigest from h]

variable {routeDigest : Digest}

variable {row : RouteRow}

theorem Store.route?_eq_some :
    s.route? routeDigest = some row ↔ row ∈ s.routes.rows ∧ row.routeDigest = routeDigest :=
  Table.find?_key RouteRow.routeDigest_key

theorem Store.taskRoute?_eq_some {taskId : String} (h : s.taskRoute? routeDigest taskId = some row) :
    s.route? routeDigest = some row ∧ row.taskId = taskId := by
  have hsel := List.find?_some h
  simp only [decide_eq_true_eq] at hsel
  exact ⟨Store.route?_eq_some.2 ⟨List.mem_of_find?_eq_some h, hsel.1⟩, hsel.2⟩

/-- One route is in another state, and nothing else has changed in the table. -/
structure Moved (s s' : Store) (row : RouteRow) (state : RouteState) : Prop where
  found : s.route? row.routeDigest = some row
  routes : s'.routes.rows = s.routes.rows.map fun r => if r.routeDigest = row.routeDigest then { r with state } else r

variable {state : RouteState}

theorem Moved.route? (h : Moved s s' row state) :
    s'.route? row.routeDigest = some { row with state } := by
  obtain ⟨hmem, -⟩ := Store.route?_eq_some.1 h.found
  refine Store.route?_eq_some.2 ⟨?_, rfl⟩
  rw [h.routes]
  exact List.mem_map.2 ⟨row, hmem, if_pos rfl⟩

theorem Moved.route?_other (h : Moved s s' row state)
    (hne : routeDigest ≠ row.routeDigest) : s'.route? routeDigest = s.route? routeDigest := by
  unfold Store.route?
  rw [h.routes, find?_map_key (g := fun r : RouteRow => r.routeDigest) fun a => by split <;> rfl]
  cases hfind : s.routes.rows.find? fun r => r.routeDigest = routeDigest with
  | none => rfl
  | some other =>
    have hdigest : other.routeDigest = routeDigest := by simpa using List.find?_some hfind
    rw [Option.map_some, if_neg (by rw [hdigest]; exact hne)]

/-- Nothing has changed, in the state the route is in. -/
theorem Moved.same (h : s.route? routeDigest = some row) : Moved s s row row.state := by
  obtain ⟨hmem, hdigest⟩ := Store.route?_eq_some.1 h
  refine ⟨by rw [hdigest]; exact h, ?_⟩
  rw [List.map_congr_left (g := id) fun r hr => ?_, List.map_id]
  split
  · rename_i heq
    rw [Table.eq_of_key RouteRow.routeDigest_key hr hmem heq]
    rfl
  · rfl

theorem Store.moveRoute_ok {taskId : String} {expected : RouteState → Bool}
    (h : s.moveRoute routeDigest taskId expected state = some s') :
    ∃ row, row.routeDigest = routeDigest ∧ row.taskId = taskId ∧ expected row.state = true ∧ Moved s s' row state ∧
      s' = { s with routes := s'.routes } := by
  unfold Store.moveRoute at h
  simp only [Option.ite_none_right_eq_some, Option.some.injEq] at h
  obtain ⟨hcount, rfl⟩ := h
  obtain ⟨row, hrow, hsel⟩ := List.countP_pos_iff.1 (by rw [hcount]; exact Nat.one_pos)
  simp only [decide_eq_true_eq] at hsel
  obtain ⟨hdigest, htask, hstate⟩ := hsel
  refine ⟨row, hdigest, htask, hstate, ⟨Store.route?_eq_some.2 ⟨hrow, rfl⟩, ?_⟩, rfl⟩
  rw [Table.update_rows]
  refine List.map_congr_left fun r hr => ?_
  by_cases heq : r.routeDigest = row.routeDigest
  · obtain rfl := Table.eq_of_key RouteRow.routeDigest_key hr hrow heq
    simp [hdigest, htask, hstate]
  · rw [if_neg heq, if_neg]
    simp [show r.routeDigest ≠ routeDigest from hdigest ▸ heq]

/-! ## What a call that returns has done -/

/-- The route a call is about; a route that is issued is not there before. -/
def RouteCall.routeDigest? : RouteCall → Option Digest
  | .issue .. => none
  | .consume _ authorization .. | .beginReservation _ authorization .. | .commitReservation _ authorization ..
  | .commitSuccessor _ authorization .. | .abandon _ authorization .. | .release _ authorization .. =>
      some authorization.routeDigest

/-- The reservation a call is made for. -/
def RouteCall.reservation? : RouteCall → Option Digest
  | .issue .. => none
  | .consume _ _ reservation .. | .beginReservation _ _ reservation .. | .commitReservation _ _ reservation ..
  | .commitSuccessor _ _ reservation .. | .abandon _ _ reservation .. | .release _ _ reservation => some reservation

/-- The moves of a route under a call and its answer. -/
inductive Move : RouteCall → RouteAnswer → RouteState → RouteState → Prop where
  | consume {identity a d target observed} : Move (.consume identity a d target observed) .done .issued (.consumed d observed)
  | acquire {identity a d target} : Move (.beginReservation identity a d target) (.begun true) .issued (.reserving d)
  | resume {identity a d target} : Move (.beginReservation identity a d target) (.begun false) (.reserving d) (.reserving d)
  | commit {identity a d observed} :
    Move (.commitReservation identity a d observed) .done (.reserving d) (.consumed d observed)
  | committed {identity a d observed earlier} :
    Move (.commitReservation identity a d observed) .done (.consumed d earlier) (.consumed d earlier)
  | succeed {identity a d attempt request observed} :
    Move (.commitSuccessor identity a d attempt request observed) .done (.reserving d) (.consumed d observed)
  | admitted {identity a d attempt request observed earlier} :
    Move (.commitSuccessor identity a d attempt request observed) .done (.consumed d earlier) (.consumed d earlier)
  | abandon {identity a d refund} : Move (.abandon identity a d refund) .done (.reserving d) .issued
  | release {identity a d earlier} : Move (.release identity a d) .done (.consumed d earlier) .issued

/-- A successor of the route can be seen: its admission, a dependency review that follows the source attempt,
or a later provider attempt. -/
def Succeeded (s : Store) (row : RouteRow) : Prop :=
  s.successorAdmission? row.routeDigest ≠ none ∨ s.dependencySuccessor row.binding.attemptIdentity.val = true ∨
    s.providerSuccessor row.binding.attemptIdentity.val row.taskId = true

inductive RouteEffect (s s' : Store) (c : RouteCall) (answer : RouteAnswer) : Prop where
  | issued (row : RouteRow) (about : c.routeDigest? = none) (state : row.state = .issued)
    (fresh : s.route? row.routeDigest = none) (returned : answer = .issued row.toRouteAuthorization)
      (rows : s'.routes.rows = s.routes.rows ++ [row])
    (frame : s' = { s with routes := s'.routes })
  | reissued (authorization : RouteAuthorization) (about : c.routeDigest? = none)
      (returned : answer = .issued authorization) (same : s' = s)
  | moved (row : RouteRow) (state : RouteState) (about : c.routeDigest? = some row.routeDigest)
    (move : Move c answer row.state state) (moved : Moved s s' row state)
    (guarded : state = .issued → ¬ Succeeded s row)
    (admissions : ∃ new, s'.successorAdmissions.rows = s.successorAdmissions.rows ++ new)
    (frame : s' = { s with routes := s'.routes, successorAdmissions := s'.successorAdmissions })

variable {authorization : RouteAuthorization}

theorem issueRoute_effect {identity : TaskIdentity} {recordDigest : Digest} {binding : FailureBinding}
    {target : RouteTarget} {observed : Int} (h : issueRoute host identity recordDigest binding target s = (.ok authorization, s')) :
    RouteEffect s s' (.issue identity recordDigest binding target observed) (.issued authorization) := by
  simp only [issueRoute, Tx.query_bind, Tx.check_bind, Tx.write_bind, Tx.pure_ok, exists_unit] at h
  obtain ⟨_, -, record, -, -, -, -, -, s₁, hwrite, rfl, rfl⟩ := h
  split at hwrite
  · rename_i hfresh
    simp only [bind_eq_ok, demand_eq_ok, pure_eq_ok] at hwrite
    obtain ⟨routes, hinsert, rfl⟩ := hwrite
    exact .issued _ rfl rfl hfresh rfl (Table.insert?_eq_some.1 hinsert).2 rfl
  · simp only [bind_eq_ok, pure_eq_ok] at hwrite
    obtain ⟨-, -, rfl⟩ := hwrite
    exact .reissued _ rfl rfl rfl

theorem commitRoute_ok {identity : TaskIdentity} {reservation : Digest} {observed : Int} {drifted : Error}
    (h : commitRoute identity authorization reservation observed drifted s = .ok s') :
    ∃ row state, row.routeDigest = authorization.routeDigest ∧ Moved s s' row state ∧ s' = { s with routes := s'.routes } ∧
      ((row.state = .reserving reservation ∧ state = .consumed reservation observed) ∨
        ∃ earlier, row.state = .consumed reservation earlier ∧ state = .consumed reservation earlier) := by
  unfold commitRoute at h
  split at h
  · rename_i s₁ hmove
    cases h
    obtain ⟨row, hdigest, -, hstate, hmoved, hframe⟩ := Store.moveRoute_ok hmove
    exact ⟨row, _, hdigest, hmoved, hframe, .inl ⟨of_decide_eq_true hstate, rfl⟩⟩
  · simp only [bind_eq_ok, exists_unit, refuse_eq_ok, pure_eq_ok, Bool.not_eq_false, Option.any_eq_true] at h
    obtain ⟨⟨row, hfound, hstate⟩, rfl⟩ := h
    obtain ⟨hroute, -⟩ := Store.taskRoute?_eq_some hfound
    obtain ⟨-, hdigest⟩ := Store.route?_eq_some.1 hroute
    refine ⟨row, row.state, hdigest, Moved.same hroute, rfl, .inr ?_⟩
    unfold RouteState.consumedFor at hstate
    split at hstate
    · rename_i digest earlier heq
      obtain rfl := of_decide_eq_true hstate
      exact ⟨earlier, heq, heq⟩
    · cases hstate

theorem returnRoute_ok {identity : TaskIdentity} {expected : RouteState → Bool} {refund : Option (Except Error Unit)}
    {drifted : Error} {u : Unit} (h : returnRoute host identity authorization expected refund drifted s = (.ok u, s')) :
    ∃ row, row.routeDigest = authorization.routeDigest ∧ expected row.state = true ∧ Moved s s' row .issued ∧
      ¬ Succeeded s row ∧ s' = { s with routes := s'.routes } := by
  simp only [returnRoute, Tx.query_bind, Tx.check_bind, Tx.write_ok, exists_unit, demand_eq_ok, refuse_eq_ok,
    Bool.not_eq_false, Option.any_eq_true] at h
  obtain ⟨_, -, ⟨stored, hfound, hmatch⟩, _, -, hnone, -, hmove⟩ := h
  obtain ⟨row, hdigest, htask, hstate, hmoved, hframe⟩ := Store.moveRoute_ok hmove
  refine ⟨row, hdigest, hstate, hmoved, ?_, hframe⟩
  -- the row that is moved is the row that was compared
  obtain ⟨hstored, -⟩ := Store.taskRoute?_eq_some hfound
  have hrow := hmoved.found
  rw [hdigest, hstored, Option.some.injEq] at hrow
  subst hrow
  simp only [routeMatches, decide_eq_true_eq] at hmatch
  obtain ⟨-, -, hauth⟩ := hmatch
  simp only [requireNoRecoverySuccessor, bind_eq_ok, exists_unit, refuse_eq_ok, not_not, not_or] at hnone
  obtain ⟨hadmission, hdependency, hprovider⟩ := hnone
  rintro (hs | hs | hs)
  · exact hs (by rw [hdigest]; exact hadmission)
  · exact hdependency (by rw [← hauth]; exact hs)
  · exact hprovider (by rw [← hauth, ← htask]; exact hs)

variable {d : Digest} {a : RouteAuthorization}

theorem beginReservation_effect {identity : TaskIdentity} {target : RouteTarget} {acquired : Bool}
    (h : beginReservation host identity a d target s = (.ok acquired, s')) :
    RouteEffect s s' (.beginReservation identity a d target) (.begun acquired) := by
  simp only [beginReservation, Tx.query_bind, Tx.check_bind, exists_unit, demand_eq_ok] at h
  obtain ⟨_, -, row, hfound, -, _, -, -, h⟩ := h
  obtain ⟨hroute, -⟩ := Store.taskRoute?_eq_some hfound
  obtain ⟨-, hdigest⟩ := Store.route?_eq_some.1 hroute
  split at h
  · rename_i hissued
    simp only [Tx.write_bind, Tx.pure_ok, demand_eq_ok] at h
    obtain ⟨s₁, hmove, rfl, rfl⟩ := h
    obtain ⟨moved, hmdigest, -, hstate, hmoved, hframe⟩ := Store.moveRoute_ok hmove
    refine .moved moved _ (by rw [hmdigest]; rfl) ?_ hmoved (fun hi => (by cases hi)) ⟨[], ?_⟩ ?_
    · rw [of_decide_eq_true hstate]
      exact .acquire
    · rw [hframe, List.append_nil]
    · rw [hframe]
  · simp only [Tx.check_bind, Tx.pure_ok, exists_unit, refuse_eq_ok, not_not] at h
    obtain ⟨hstate, rfl, rfl⟩ := h
    refine .moved row row.state (by rw [hdigest]; rfl) ?_ (Moved.same hroute) (fun hi => ?_) ⟨[], (List.append_nil _).symm⟩ rfl
    · rw [hstate]
      exact .resume
    · rw [hstate] at hi
      cases hi

theorem consumeRoute_effect {identity : TaskIdentity} {target : RouteTarget} {observed : Int} {u : Unit}
    (h : consumeRoute host identity a d target observed s = (.ok u, s')) :
    RouteEffect s s' (.consume identity a d target observed) .done := by
  simp only [consumeRoute, Tx.query_bind, Tx.write_ok, exists_unit, demand_eq_ok] at h
  obtain ⟨_, -, -, _, -, hmove⟩ := h
  obtain ⟨row, hdigest, -, hstate, hmoved, hframe⟩ := Store.moveRoute_ok hmove
  refine .moved row _ (by rw [hdigest]; rfl) ?_ hmoved (fun hi => (by cases hi)) ⟨[], ?_⟩ ?_
  · rw [of_decide_eq_true hstate]
    exact .consume
  · rw [hframe, List.append_nil]
  · rw [hframe]

theorem commitReservation_effect {identity : TaskIdentity} {observed : Int} {u : Unit}
    (h : commitReservation host identity a d observed s = (.ok u, s')) :
    RouteEffect s s' (.commitReservation identity a d observed) .done := by
  simp only [commitReservation, Tx.query_bind, Tx.write_ok] at h
  obtain ⟨_, -, _, -, hcommit⟩ := h
  obtain ⟨row, state, hdigest, hmoved, hframe, hstate⟩ := commitRoute_ok hcommit
  refine .moved row state (by rw [hdigest]; rfl) ?_ hmoved (fun hi => ?_) ⟨[], by rw [hframe, List.append_nil]⟩ (by rw [hframe])
  · rcases hstate with ⟨hold, rfl⟩ | ⟨earlier, hold, rfl⟩ <;> rw [hold]
    · exact .commit
    · exact .committed
  · rcases hstate with ⟨-, rfl⟩ | ⟨earlier, -, rfl⟩ <;> cases hi

theorem commitSuccessor_effect {identity : TaskIdentity} {attempt : String} {request : Digest} {observed : Int}
    {u : Unit} (h : commitSuccessorAdmission host identity a d attempt request observed s = (.ok u, s')) :
    RouteEffect s s' (.commitSuccessor identity a d attempt request observed) .done := by
  simp only [commitSuccessorAdmission, Tx.query_bind, Tx.write_bind, Tx.write_ok] at h
  obtain ⟨_, -, _, -, s₁, hadmit, hcommit⟩ := h
  have hadmitted : s₁ = { s with successorAdmissions := s₁.successorAdmissions } ∧
      ∃ new, s₁.successorAdmissions.rows = s.successorAdmissions.rows ++ new := by
    split at hadmit
    · simp only [bind_eq_ok, demand_eq_ok, pure_eq_ok] at hadmit
      obtain ⟨admissions, hinsert, rfl⟩ := hadmit
      exact ⟨rfl, _, (Table.insert?_eq_some.1 hinsert).2⟩
    · simp only [bind_eq_ok, pure_eq_ok] at hadmit
      obtain ⟨-, -, rfl⟩ := hadmit
      exact ⟨rfl, [], (List.append_nil _).symm⟩
  obtain ⟨hframe₁, new, hnew⟩ := hadmitted
  obtain ⟨row, state, hdigest, hmoved, hframe, hstate⟩ := commitRoute_ok hcommit
  have hroutes : s₁.routes = s.routes := by rw [hframe₁]
  refine .moved row state (by rw [hdigest]; rfl) ?_ ⟨?_, ?_⟩ (fun hi => ?_) ⟨new, ?_⟩ ?_
  · rcases hstate with ⟨hold, rfl⟩ | ⟨earlier, hold, rfl⟩ <;> rw [hold]
    · exact .succeed
    · exact .admitted
  · have hfound := hmoved.found
    unfold Store.route? at hfound ⊢
    rw [hroutes] at hfound
    exact hfound
  · rw [hmoved.routes, hroutes]
  · rcases hstate with ⟨-, rfl⟩ | ⟨earlier, -, rfl⟩ <;> cases hi
  · rw [hframe]
    exact hnew
  · rw [hframe, hframe₁]

variable {c : RouteCall}

theorem RouteCall.effect {answer : RouteAnswer} (h : c.run host s = (.ok answer, s')) : RouteEffect s s' c answer := by
  cases c with
  | issue identity recordDigest binding target observed =>
    obtain ⟨-, -, h⟩ := Tx.check_bind.1 h
    obtain ⟨authorization, hbody, rfl⟩ := Tx.map_ok.1 (transaction_ok.1 h)
    exact issueRoute_effect hbody
  | consume identity a d target observed =>
    obtain ⟨u, hbody, rfl⟩ := Tx.map_ok.1 (transaction_ok.1 h)
    exact consumeRoute_effect hbody
  | beginReservation identity a d target =>
    obtain ⟨acquired, hbody, rfl⟩ := Tx.map_ok.1 (transaction_ok.1 h)
    exact beginReservation_effect hbody
  | commitReservation identity a d observed =>
    obtain ⟨-, -, h⟩ := Tx.check_bind.1 h
    obtain ⟨u, hbody, rfl⟩ := Tx.map_ok.1 (transaction_ok.1 h)
    exact commitReservation_effect hbody
  | commitSuccessor identity a d attempt request observed =>
    obtain ⟨-, -, h⟩ := Tx.check_bind.1 h
    obtain ⟨u, hbody, rfl⟩ := Tx.map_ok.1 (transaction_ok.1 h)
    exact commitSuccessor_effect hbody
  | abandon identity a d refund =>
    obtain ⟨u, hbody, rfl⟩ := Tx.map_ok.1 (transaction_ok.1 h)
    obtain ⟨row, hdigest, hstate, hmoved, hnone, hframe⟩ := returnRoute_ok hbody
    refine .moved row _ (by rw [hdigest]; rfl) ?_ hmoved (fun _ => hnone) ⟨[], by rw [hframe, List.append_nil]⟩ (by rw [hframe])
    rw [of_decide_eq_true hstate]
    exact .abandon
  | release identity a d =>
    obtain ⟨u, hbody, rfl⟩ := Tx.map_ok.1 (transaction_ok.1 h)
    obtain ⟨row, hdigest, hstate, hmoved, hnone, hframe⟩ := returnRoute_ok hbody
    refine .moved row _ (by rw [hdigest]; rfl) ?_ hmoved (fun _ => hnone) ⟨[], by rw [hframe, List.append_nil]⟩ (by rw [hframe])
    unfold RouteState.consumedFor at hstate
    split at hstate
    · rename_i digest earlier heq
      rw [heq, of_decide_eq_true hstate]
      exact .release
    · cases hstate

theorem RouteCall.raised {e : Error} (h : c.run host s = (.error e, s')) : s' = s := by
  have hchecked : ∀ {x : Except Error Unit} {body : Tx Error Store RouteAnswer},
      (Tx.check x >>= fun _ => transaction body) s = (.error e, s') → s' = s := by
    intro x body hc
    cases x with
    | error e' => exact (Prod.mk.inj hc).2.symm
    | ok u => exact transaction_error hc
  cases c with
  | issue => exact hchecked h
  | commitReservation => exact hchecked h
  | commitSuccessor => exact hchecked h
  | consume => exact transaction_error h
  | beginReservation => exact transaction_error h
  | abandon => exact transaction_error h
  | release => exact transaction_error h

/-! ## Interleavings -/

/-- What the other operations do: routes and successor admissions are not theirs, an attempt keeps its place, and
no successor of a dependency review goes away. -/
structure Outside (s s' : Store) : Prop where
  routes : s'.routes = s.routes
  admissions : s'.successorAdmissions = s.successorAdmissions
  attempts : ∀ r ∈ s.providerAttempts.rows, ∃ r' ∈ s'.providerAttempts.rows,
    r'.attemptId = r.attemptId ∧ r'.taskId = r.taskId ∧ r'.role = r.role ∧ r'.attemptNumber = r.attemptNumber
  successors : s.successors.rows ⊆ s'.successors.rows

/-- A call and what it came to. -/
structure RouteEvent where
  call : RouteCall
  result : Except Error RouteAnswer

/-- The calls of any number of processes in the order of their transactions, with whatever else happens in
between. A process that dies between two calls makes no more of them. -/
inductive Trace (host : Host) (s : Store) : List RouteEvent → Store → Prop where
  | start : Trace host s [] s
  | call {events : List RouteEvent} {s' : Store} (c : RouteCall) :
    Trace host s events s' → Trace host s (events ++ [⟨c, (c.run host s').1⟩]) (c.run host s').2
  | other {events : List RouteEvent} {s' s'' : Store} : Trace host s events s' → Outside s' s'' → Trace host s events s''

/-- The route is given back for a reservation. -/
def RouteEvent.returns (e : RouteEvent) (routeDigest d : Digest) : Prop :=
  e.result = .ok .done ∧ e.call.routeDigest? = some routeDigest ∧
    ((∃ identity a refund, e.call = .abandon identity a d refund) ∨ ∃ identity a, e.call = .release identity a d)

/-! ## Holding a route -/

/-- The reservation holds the route. -/
def Held (d routeDigest : Digest) (s : Store) : Prop :=
  ∃ row, s.route? routeDigest = some row ∧ (row.state = .reserving d ∨ ∃ observed, row.state = .consumed d observed)

/-- A call that returns on a held route is for the reservation that holds it; it keeps it held or gives it back. -/
theorem Move.held {answer : RouteAnswer} {old new : RouteState} (h : Move c answer old new)
    (hold : old = .reserving d ∨ ∃ observed, old = .consumed d observed) :
    c.reservation? = some d ∧ answer ≠ .begun true ∧ ((new = .reserving d ∨ ∃ observed, new = .consumed d observed) ∨
      (answer = .done ∧ ((∃ identity a refund, c = .abandon identity a d refund) ∨ ∃ identity a, c = .release identity a d))) := by
  cases h <;> simp_all [RouteCall.reservation?]

theorem Held.call {d routeDigest : Digest} {answer : RouteAnswer} (h : Held d routeDigest s)
    (hcall : c.run host s = (.ok answer, s')) :
    Held d routeDigest s' ∨ (RouteEvent.mk c (.ok answer)).returns routeDigest d := by
  obtain ⟨row, hrow, hstate⟩ := h
  cases RouteCall.effect hcall with
  | issued new habout hnew hfresh hret hrows hframe =>
    refine .inl ⟨row, ?_, hstate⟩
    unfold Store.route? at hrow ⊢
    rw [hrows]
    exact find?_append_some hrow
  | reissued a habout hret hsame => exact .inl ⟨row, hsame ▸ hrow, hstate⟩
  | moved row' state habout hmove hmoved hguard hadm hframe =>
    by_cases hdigest : routeDigest = row'.routeDigest
    · subst hdigest
      have hsame := hmoved.found
      rw [hrow, Option.some.injEq] at hsame
      subst hsame
      obtain ⟨-, -, hnew | ⟨hdone, hreturn⟩⟩ := hmove.held hstate
      · exact .inl ⟨_, hmoved.route?, hnew⟩
      · exact .inr ⟨congrArg Except.ok hdone, habout, hreturn⟩
    · exact .inl ⟨row, by rw [hmoved.route?_other hdigest]; exact hrow, hstate⟩

variable {events : List RouteEvent}

theorem Held.trace {d routeDigest : Digest} (h : Held d routeDigest s) (htrace : Trace host s events s') :
    Held d routeDigest s' ∨ ∃ e ∈ events, e.returns routeDigest d := by
  induction htrace with
  | start => exact .inl h
  | @call events s' c _ ih =>
    rcases ih with ih | ⟨e, he, hr⟩
    · rcases hrun : c.run host s' with ⟨e | answer, s''⟩
      · rw [RouteCall.raised hrun]
        exact .inl ih
      · rcases ih.call hrun with hheld | hret
        · exact .inl hheld
        · exact .inr ⟨_, List.mem_append_right _ (List.mem_singleton_self _), hret⟩
    · exact .inr ⟨e, List.mem_append_left _ he, hr⟩
  | other _ hout ih =>
    rcases ih with ⟨row, hrow, hstate⟩ | hret
    · refine .inl ⟨row, ?_, hstate⟩
      unfold Store.route? at hrow ⊢
      rw [hout.routes]
      exact hrow
    · exact .inr hret

/-- Whoever holds the route, a call for another reservation raises. -/
theorem Held.excludes {d routeDigest : Digest} (h : Held d routeDigest s) (habout : c.routeDigest? = some routeDigest)
    {answer : RouteAnswer} (hcall : c.run host s = (.ok answer, s')) :
    c.reservation? = some d ∧ answer ≠ .begun true := by
  obtain ⟨row, hrow, hstate⟩ := h
  cases RouteCall.effect hcall with
  | issued new hissue hnew hfresh hret hrows hframe => cases habout.symm.trans hissue
  | reissued a hissue hret hsame => cases habout.symm.trans hissue
  | moved row' state habout' hmove hmoved hguard hadm hframe =>
    have hsame := hmoved.found
    rw [← Option.some.inj (habout.symm.trans habout'), hrow, Option.some.injEq] at hsame
    subst hsame
    obtain ⟨hres, hans, -⟩ := hmove.held hstate
    exact ⟨hres, hans⟩

/-! ## Successors -/

theorem SuccessorAdmissionRow.routeDigest_key : Table.IsKey SuccessorAdmissionRow.clash (·.routeDigest) := by
  intro a b h
  simp [SuccessorAdmissionRow.clash, show a.routeDigest = b.routeDigest from h]

/-- What stays of a store in a step: successor admissions, routes but for their states, and what makes a
successor seen. -/
structure Grows (s s' : Store) : Prop where
  admissions : s.successorAdmissions.rows ⊆ s'.successorAdmissions.rows
  routes : ∀ routeDigest row, s.route? routeDigest = some row → ∃ row', s'.route? routeDigest = some row' ∧
    row'.toRouteAuthorization = row.toRouteAuthorization ∧ row'.taskId = row.taskId
  attempts : ∀ r ∈ s.providerAttempts.rows, ∃ r' ∈ s'.providerAttempts.rows,
    r'.attemptId = r.attemptId ∧ r'.taskId = r.taskId ∧ r'.role = r.role ∧ r'.attemptNumber = r.attemptNumber
  successors : s.successors.rows ⊆ s'.successors.rows

theorem Grows.refl (s : Store) : Grows s s :=
  ⟨List.Subset.refl _, fun _ row h => ⟨row, h, rfl, rfl⟩, fun r hr => ⟨r, hr, rfl, rfl, rfl, rfl⟩, List.Subset.refl _⟩

theorem Grows.trans {a b c : Store} (h₁ : Grows a b) (h₂ : Grows b c) : Grows a c := by
  refine ⟨List.Subset.trans h₁.admissions h₂.admissions, fun routeDigest row hrow => ?_, fun r hr => ?_,
    List.Subset.trans h₁.successors h₂.successors⟩
  · obtain ⟨row', hrow', ha, ht⟩ := h₁.routes routeDigest row hrow
    obtain ⟨row'', hrow'', ha', ht'⟩ := h₂.routes routeDigest row' hrow'
    exact ⟨row'', hrow'', ha'.trans ha, ht'.trans ht⟩
  · obtain ⟨r', hr', hi, ht, hrole, hn⟩ := h₁.attempts r hr
    obtain ⟨r'', hr'', hi', ht', hrole', hn'⟩ := h₂.attempts r' hr'
    exact ⟨r'', hr'', hi'.trans hi, ht'.trans ht, hrole'.trans hrole, hn'.trans hn⟩

theorem Outside.grows (h : Outside s s') : Grows s s' := by
  refine ⟨by rw [h.admissions]; exact List.Subset.refl _, fun routeDigest row hrow => ⟨row, ?_, rfl, rfl⟩, h.attempts, h.successors⟩
  unfold Store.route? at hrow ⊢
  rw [h.routes]
  exact hrow

theorem RouteEffect.grows {answer : RouteAnswer} (h : RouteEffect s s' c answer) : Grows s s' := by
  cases h with
  | issued new habout hnew hfresh hret hrows hframe =>
    refine ⟨by rw [hframe]; exact List.Subset.refl _, fun routeDigest row hrow => ⟨row, ?_, rfl, rfl⟩,
      fun r hr => ⟨r, ?_, rfl, rfl, rfl, rfl⟩, by rw [hframe]; exact List.Subset.refl _⟩
    · unfold Store.route? at hrow ⊢
      rw [hrows]
      exact find?_append_some hrow
    · rw [hframe]
      exact hr
  | reissued a habout hret hsame => rw [hsame]; exact Grows.refl s
  | moved row' state habout hmove hmoved hguard hadm hframe =>
    obtain ⟨new, hnew⟩ := hadm
    refine ⟨by rw [hnew]; exact List.subset_append_left _ _, fun routeDigest row hrow => ?_,
      fun r hr => ⟨r, ?_, rfl, rfl, rfl, rfl⟩, by rw [hframe]; exact List.Subset.refl _⟩
    · by_cases hdigest : routeDigest = row'.routeDigest
      · subst hdigest
        have hsame := hmoved.found
        rw [hrow, Option.some.injEq] at hsame
        subst hsame
        exact ⟨_, hmoved.route?, rfl, rfl⟩
      · exact ⟨row, by rw [hmoved.route?_other hdigest]; exact hrow, rfl, rfl⟩
    · rw [hframe]
      exact hr

theorem Trace.grows (h : Trace host s events s') : Grows s s' := by
  induction h with
  | start => exact Grows.refl s
  | @call events s' c _ ih =>
    rcases hrun : c.run host s' with ⟨e | answer, s''⟩
    · rw [RouteCall.raised hrun]
      exact ih
    · exact ih.trans (RouteCall.effect hrun).grows
  | other _ hout ih => exact ih.trans hout.grows

/-- A successor that can be seen stays seen. -/
theorem Succeeded.grow {row row' : RouteRow} (h : Succeeded s row) (hg : Grows s s')
    (hrow : row'.toRouteAuthorization = row.toRouteAuthorization) (htask : row'.taskId = row.taskId) : Succeeded s' row' := by
  unfold Succeeded
  rw [hrow, htask]
  rcases h with h | h | h
  · obtain ⟨a, ha⟩ := Option.ne_none_iff_exists'.1 h
    obtain ⟨hmem, hdigest⟩ := (Table.find?_key SuccessorAdmissionRow.routeDigest_key).1 ha
    refine .inl (Option.ne_none_iff_exists'.2 ⟨a, ?_⟩)
    exact (Table.find?_key SuccessorAdmissionRow.routeDigest_key).2 ⟨hg.admissions hmem, hdigest⟩
  · obtain ⟨r, hr, hpred⟩ := List.any_eq_true.1 h
    exact .inr (.inl (List.any_eq_true.2 ⟨r, hg.successors hr, hpred⟩))
  · simp only [Store.providerSuccessor, List.any_eq_true, decide_eq_true_eq] at h ⊢
    obtain ⟨source, hsource, hid, ht, target, htarget, htt, htr, hlt⟩ := h
    obtain ⟨source', hs', hid', hst', hsr', hsn'⟩ := hg.attempts source hsource
    obtain ⟨target', ht', -, htt', htr', htn'⟩ := hg.attempts target htarget
    refine .inr (.inr ⟨source', hs', hid'.trans hid, hst'.trans ht, target', ht', ?_, ?_, ?_⟩)
    · rw [htt', hst', htt]
    · rw [htr', hsr', htr]
    · rw [hsn', htn']
      exact hlt

/-- A route whose successor can be seen is not given back. -/
theorem Succeeded.stays {row : RouteRow} (htrace : Trace host s events s') (hrow : s.route? routeDigest = some row)
    (h : Succeeded s row) (hstate : row.state ≠ .issued) :
    ∃ row', s'.route? routeDigest = some row' ∧ row'.state ≠ .issued := by
  induction htrace with
  | start => exact ⟨row, hrow, hstate⟩
  | @call events s' c hpre ih =>
    obtain ⟨row', hrow', hstate'⟩ := ih
    rcases hrun : c.run host s' with ⟨e | answer, s''⟩
    · rw [RouteCall.raised hrun]
      exact ⟨row', hrow', hstate'⟩
    · obtain ⟨row₁, hrow₁, hauth, htask⟩ := hpre.grows.routes routeDigest row hrow
      obtain rfl : row₁ = row' := Option.some.inj (hrow₁.symm.trans hrow')
      have hseen := h.grow hpre.grows hauth htask
      cases RouteCall.effect hrun with
      | issued new habout hnew hfresh hret hrows hframe =>
        refine ⟨row₁, ?_, hstate'⟩
        unfold Store.route? at hrow' ⊢
        rw [hrows]
        exact find?_append_some hrow'
      | reissued a habout hret hsame => exact ⟨row₁, hsame ▸ hrow', hstate'⟩
      | moved moved state habout hmove hmoved hguard hadm hframe =>
        by_cases hdigest : routeDigest = moved.routeDigest
        · subst hdigest
          have hsame := hmoved.found
          rw [hrow', Option.some.injEq] at hsame
          subst hsame
          exact ⟨_, hmoved.route?, fun hissued => hguard hissued hseen⟩
        · exact ⟨row₁, by rw [hmoved.route?_other hdigest]; exact hrow', hstate'⟩
  | other _ hout ih =>
    obtain ⟨row', hrow', hstate'⟩ := ih
    refine ⟨row', ?_, hstate'⟩
    unfold Store.route? at hrow' ⊢
    rw [hout.routes]
    exact hrow'

/-- From any state on, along every interleaving: a route has at most one successor admission, which stays as it is;
once a successor can be seen, a route that is out is never issued again; from the moment a reservation acquires
the route until it is given back for it, a call for another reservation raises; and the route is acquired at
most once between two times it is given back. -/
theorem recovery_route_one_use {s₁ s₂ : Store} {events : List RouteEvent} (htrace : Trace host s₁ events s₂) (routeDigest : Digest) :
    (∀ a ∈ s₁.successorAdmissions.rows, a.routeDigest = routeDigest → a ∈ s₂.successorAdmissions.rows ∧
      ∀ b ∈ s₂.successorAdmissions.rows, b.routeDigest = routeDigest → b = a) ∧
    (∀ row, s₁.route? routeDigest = some row → Succeeded s₁ row →
      ∀ row₂, s₂.route? routeDigest = some row₂ → row₂.state ≠ .issued →
        ∀ later s₃, Trace host s₂ later s₃ → ∃ row₃, s₃.route? routeDigest = some row₃ ∧ row₃.state ≠ .issued) ∧
    (∀ s₀ identity a d target, a.routeDigest = routeDigest →
      (RouteCall.beginReservation identity a d target).run host s₀ = (.ok (.begun true), s₁) →
        (∀ e ∈ events, ¬ e.returns routeDigest d) →
          ∀ c : RouteCall, c.routeDigest? = some routeDigest → ∀ d', c.reservation? = some d' → d' ≠ d →
            ∃ e, c.run host s₂ = (.error e, s₂)) ∧
    (∀ s₀ identity a d target, a.routeDigest = routeDigest →
      (RouteCall.beginReservation identity a d target).run host s₀ = (.ok (.begun true), s₁) →
        ∀ identity' a' d' target' s₃, a'.routeDigest = routeDigest →
          (RouteCall.beginReservation identity' a' d' target').run host s₂ = (.ok (.begun true), s₃) →
            ∃ e ∈ events, e.returns routeDigest d) := by
  have hacquired : ∀ s₀ identity a d target, a.routeDigest = routeDigest →
      (RouteCall.beginReservation identity a d target).run host s₀ = (.ok (.begun true), s₁) → Held d routeDigest s₁ := by
    intro s₀ identity a d target ha hbegin
    cases RouteCall.effect hbegin with
    | issued new hissue hnew hfresh hret hrows hframe => cases hissue
    | reissued a hissue hret hsame => cases hissue
    | moved row state habout hmove hmoved hguard hadm hframe =>
      obtain rfl := ha.symm.trans (Option.some.inj habout)
      refine ⟨_, hmoved.route?, .inl ?_⟩
      generalize row.state = old at hmove
      cases hmove
      rfl
  -- while a route is held no other acquisition goes through; it is free again only when returned
  refine ⟨fun a ha hdigest => ?_, fun row hrow hseen row₂ hrow₂ hstate later s₃ hlater => ?_, ?_, ?_⟩
  · have hmem := htrace.grows.admissions ha
    exact ⟨hmem, fun b hb hb' => Table.eq_of_key SuccessorAdmissionRow.routeDigest_key hb hmem (hb'.trans hdigest.symm)⟩
  · obtain ⟨row', hrow', hauth, htask⟩ := htrace.grows.routes routeDigest row hrow
    obtain rfl : row' = row₂ := Option.some.inj (hrow'.symm.trans hrow₂)
    exact (hseen.grow htrace.grows hauth htask).stays hlater hrow₂ hstate
  · intro s₀ identity a d target ha hbegin hnone c habout d' hd' hne
    rcases (hacquired s₀ identity a d target ha hbegin).trace htrace with hheld | ⟨e, he, hret⟩
    · rcases hrun : c.run host s₂ with ⟨e | answer, s₃⟩
      · exact ⟨e, by rw [RouteCall.raised hrun]⟩
      · obtain ⟨hsame, -⟩ := hheld.excludes habout hrun
        exact absurd (Option.some.inj (hd'.symm.trans hsame)) hne
    · exact absurd hret (hnone e he)
  · intro s₀ identity a d target ha hbegin identity' a' d' target' s₃ ha' hagain
    rcases (hacquired s₀ identity a d target ha hbegin).trace htrace with hheld | hret
    · obtain ⟨-, hnot⟩ := hheld.excludes (c := .beginReservation identity' a' d' target') (congrArg some ha') hagain
      exact absurd rfl hnot
    · exact hret

namespace Sample

/-- The service fails in a way that allows a fallback. -/
def outage : RecordFields :=
  ⟨binding, .transientService, .verifiedService, true, .preboundFallback, false, .verified, .v3, false, none⟩
def outageRecord : FailureRecord := ⟨outage, by decide⟩
def outageDigest : Digest := outageRecord.digest .sample

def target : RouteTarget := ⟨.dependencyReview, digest 20, digest 21, digest 22, digest 23⟩

def route : RouteAuthorization :=
  ⟨Host.sample.digestValue (routePayload outageDigest binding (digest 20) (digest 21) (digest 22) (digest 23)),
    outageDigest, binding, digest 20, digest 21, digest 22, digest 23⟩

def failed : Store := ((DenialCall.failure identity outageRecord 1).run .sample admitted).2
def routed : Store := ((RouteCall.issue identity outageDigest binding target 2).run .sample failed).2
def acquire (d : Nat) : RouteCall := .beginReservation identity route (digest d) target
def acquired : Store := ((acquire 30).run .sample routed).2
def admission : RouteCall := .commitSuccessor identity route (digest 30) "successor" (digest 31) 3

theorem acquired_answer : ((acquire 30).run .sample routed).1 = .ok (.begun true) := by decide +kernel

theorem admission_answer : (admission.run .sample acquired).1 = .ok .done := by decide +kernel

end Sample

open Sample in
/-- After the successor is admitted the route is held still, and another reservation is refused. -/
theorem recovery_route_one_use_admitted :
    (admission.run .sample acquired).1 = .ok .done ∧
    ∃ e, (acquire 40).run .sample (admission.run .sample acquired).2 =
      (.error e, (admission.run .sample acquired).2) := by
  refine ⟨admission_answer, ?_⟩
  have hstart : Trace .sample acquired [] acquired := .start
  have htrace := hstart.call admission
  have hbegin : (acquire 30).run .sample routed = (.ok (.begun true), acquired) :=
    Prod.ext acquired_answer (by rw [acquired])
  have hnone : ∀ e ∈ [] ++ [RouteEvent.mk admission (admission.run .sample acquired).1],
      ¬ e.returns route.routeDigest (digest 30) := by
    intro e he
    obtain rfl : e = _ := by simpa using he
    rintro ⟨-, -, ⟨_, _, _, hcall⟩ | ⟨_, _, hcall⟩⟩ <;> cases hcall
  obtain ⟨-, -, hexcluded, -⟩ := recovery_route_one_use htrace route.routeDigest
  exact hexcluded routed identity route (digest 30) target rfl hbegin hnone
    (acquire 40) rfl (digest 40) rfl (by decide +kernel)

end Roundwright.Recovery
