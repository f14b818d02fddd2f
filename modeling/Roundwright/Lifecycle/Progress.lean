/-
The loop of the lifecycle projection. Its variables are functions of the events done so far, so that it is a law about
prefixes: each event is in its binding, and allowed by the events before it.
-/
import Roundwright.Lifecycle.Projection

namespace Roundwright.Lifecycle

open Lib

variable {host : Host} {plan : LifecyclePlan} {receipt : SealReceipt} {events done : List LifecycleEvent}
  {e x : LifecycleEvent} {t : Transition} {attempt : Digest} {s : Progress}

/-! ## The events of an attempt -/

/-- The event is a transition of the attempt. -/
def LifecycleEvent.Is (e : LifecycleEvent) (t : Transition) (attempt : Digest) : Prop :=
  e.transition = t ∧ e.attemptIdentity = attempt

instance (e : LifecycleEvent) (t : Transition) (attempt : Digest) : Decidable (e.Is t attempt) := inferInstanceAs (Decidable (_ ∧ _))

/-- The first event of an attempt with a transition. -/
def firstOf (t : Transition) (attempt : Digest) (done : List LifecycleEvent) : Option LifecycleEvent :=
    done.find? fun e => e.Is t attempt

/-- The accepted result. -/
def acceptedOf (done : List LifecycleEvent) : Option LifecycleEvent := done.find? fun e => e.transition = .resultAccepted

theorem firstOf_some (h : firstOf t attempt done = some e) : e ∈ done ∧ e.Is t attempt :=
  ⟨List.mem_of_find?_eq_some h, by simpa using List.find?_some h⟩

theorem firstOf_none : firstOf t attempt done = none ↔ ∀ e ∈ done, ¬ e.Is t attempt := by
  unfold firstOf
  simp only [List.find?_eq_none, decide_eq_true_eq]

theorem acceptedOf_some (h : acceptedOf done = some e) : e ∈ done ∧ e.transition = .resultAccepted :=
  ⟨List.mem_of_find?_eq_some h, by simpa using List.find?_some h⟩

theorem acceptedOf_none : acceptedOf done = none ↔ ∀ e ∈ done, e.transition ≠ .resultAccepted := by
  unfold acceptedOf
  simp only [List.find?_eq_none, decide_eq_true_eq, ne_eq]

theorem firstOf_append_of_ne (h : e.transition ≠ t) : firstOf t attempt (done ++ [e]) = firstOf t attempt done := by
  unfold firstOf
  rw [List.find?_append, List.find?_singleton, if_neg (by simp [LifecycleEvent.Is, h]), Option.or_none]

theorem firstOf_append_of_isSome (h : (firstOf t attempt done).isSome) : firstOf t attempt (done ++ [e]) = firstOf t
    attempt done := by
  unfold firstOf at *
  rw [List.find?_append, Option.or_of_isSome h]

theorem acceptedOf_append_of_ne (h : e.transition ≠ .resultAccepted) : acceptedOf (done ++ [e]) = acceptedOf done := by
  unfold acceptedOf
  rw [List.find?_append, List.find?_singleton, if_neg (by simp [h]), Option.or_none]

theorem acceptedOf_append (hnone : acceptedOf done = none) (h : e.transition = .resultAccepted) :
    acceptedOf (done ++ [e]) = some e := by
  unfold acceptedOf at *
  rw [List.find?_append, hnone, List.find?_singleton, if_pos (by simp [h]), Option.none_or]

/-! ## The loop -/

/-- The records of one transition, under their attempts. -/
def recorded {β : Type} (t : Transition) (f : LifecycleEvent → β) (done : List LifecycleEvent) : List (Digest × β) :=
  (done.filter fun e => e.transition = t).map fun e => (e.attemptIdentity, f e)

theorem recorded_append {β : Type} {f : LifecycleEvent → β} (h : e.transition = t) :
    recorded t f (done ++ [e]) = recorded t f done ++ [(e.attemptIdentity, f e)] := by
  unfold recorded
  rw [List.filter_append, List.map_append, List.filter_cons_of_pos (by simpa using h), List.filter_nil]
  rfl

theorem recorded_append_of_ne {β : Type} {f : LifecycleEvent → β} (h : e.transition ≠ t) :
    recorded t f (done ++ [e]) = recorded t f done := by
  unfold recorded
  rw [List.filter_append, List.filter_cons_of_neg (by simpa using h), List.filter_nil, List.append_nil]

theorem lookup_recorded {β : Type} {f : LifecycleEvent → β} : (recorded t f done).lookup attempt =
    (firstOf t attempt done).map f := by
  induction done with
  | nil => rfl
  | cons e done ih =>
    unfold recorded firstOf at *
    by_cases ht : e.transition = t
    · rw [List.filter_cons_of_pos (by simpa using ht), List.map_cons, List.lookup_cons, List.find?_cons]
      by_cases ha : e.attemptIdentity = attempt
      · have his : e.Is t attempt := ⟨ht, ha⟩
        simp [ha, his]
      · have hnot : ¬ e.Is t attempt := fun h => ha h.2
        have hne : (attempt == e.attemptIdentity) = false := by simpa using fun h => ha h.symm
        simp only [hne, hnot, decide_false]
        exact ih
    · have hnot : ¬ e.Is t attempt := fun h => ht h.1
      rw [List.filter_cons_of_neg (by simpa using ht), List.find?_cons_of_neg (by simpa using hnot)]
      exact ih

theorem mem_recorded {β : Type} {f : LifecycleEvent → β} {item : Digest × β} :
    item ∈ recorded t f done ↔ ∃ e ∈ done, e.transition = t ∧ item = (e.attemptIdentity, f e) := by
  unfold recorded
  simp only [List.mem_map, List.mem_filter, decide_eq_true_eq, and_assoc]
  exact exists_congr fun e => and_congr_right' (and_congr_right' eq_comm)

/-- The event as it is projected, when it is numbered and chained as its binding asks. -/
def LifecycleEvent.projected (host : Host) (e : LifecycleEvent) : ProjectedLifecycleEvent :=
  projectedEvent host e.sequence e.predecessorEventDigest e

/-- The variables of the loop after these events. -/
def Progress.of (host : Host) (done : List LifecycleEvent) : Progress where
  projected := done.map (·.projected host)
  started := recorded .attemptStarted id done
  completed := recorded .attemptCompleted (·.disposition) done
  unacceptedAttempts := (recorded .resultUnaccepted id done).map (·.1)
  acceptedAttempt := (acceptedOf done).map (·.attemptIdentity)
  acceptedDisposition := (acceptedOf done).bind fun a => (firstOf .attemptCompleted a.attemptIdentity done).map (·.disposition)
  acceptedCount := (acceptedOf done).toList.length
  formalAdvanceCount := done.countP fun e => e.transition = .formalRoundAdvanced
  predecessor := done.getLast?.map (·.digest host)

theorem Progress.of_nil : Progress.of host [] = .initial := rfl

theorem Progress.lookup_started : (Progress.of host done).started.lookup attempt = firstOf .attemptStarted attempt done := by
  show (recorded _ id done).lookup attempt = _
  rw [lookup_recorded, Option.map_id_fun, id]

theorem Progress.lookup_completed :
    (Progress.of host done).completed.lookup attempt = (firstOf .attemptCompleted attempt done).map (·.disposition) :=
    lookup_recorded

theorem Progress.mem_unaccepted : attempt ∈ (Progress.of host done).unacceptedAttempts ↔
    ∃ u ∈ done, u.Is .resultUnaccepted attempt := by
  show attempt ∈ (recorded _ id done).map (·.1) ↔ _
  simp only [List.mem_map, mem_recorded]
  constructor
  · rintro ⟨item, ⟨u, hu, ht, rfl⟩, rfl⟩
    exact ⟨u, hu, ht, rfl⟩
  · rintro ⟨u, hu, ht, rfl⟩
    exact ⟨_, ⟨u, hu, ht, rfl⟩, rfl⟩

/-- Every attempt whose completion says its context was invalid has its unaccepted result. -/
def Settled (done : List LifecycleEvent) : Prop :=
  ∀ c ∈ done, c.transition = .attemptCompleted → c.disposition = .invalidContext →
    ∃ u ∈ done, u.Is .resultUnaccepted c.attemptIdentity

theorem settled_iff : Settled done ↔
    ∀ item ∈ (Progress.of host done).completed, item.2 = .invalidContext → item.1 ∈ (Progress.of host done).unacceptedAttempts := by
  simp only [Progress.mem_unaccepted]
  constructor
  · rintro h item hitem hinvalid
    obtain ⟨c, hc, ht, rfl⟩ := mem_recorded.1 hitem
    exact h c hc ht hinvalid
  · intro h c hc ht hinvalid
    exact h (c.attemptIdentity, c.disposition) (mem_recorded.2 ⟨c, hc, ht, rfl⟩) hinvalid

/-- What the events before it must be for an event to be taken. -/
def Allowed (done : List LifecycleEvent) (e : LifecycleEvent) : Prop :=
  match e.transition with
  | .attemptStarted => firstOf .attemptStarted e.attemptIdentity done = none ∧ e.disposition = .pending ∧ Settled done
  | .attemptCompleted => firstOf .attemptCompleted e.attemptIdentity done = none ∧ e.disposition ≠ .pending ∧
    ∃ s, firstOf .attemptStarted e.attemptIdentity done = some s ∧ e.SameAttempt s
  | .resultAccepted => acceptedOf done = none ∧ e.role = .supervisor ∧ e.disposition = .accepted ∧ e.acceptedResult = true ∧
    (∃ s, firstOf .attemptStarted e.attemptIdentity done = some s ∧ e.SameAttempt s) ∧
    ∃ c, firstOf .attemptCompleted e.attemptIdentity done = some c ∧ (c.disposition = .pass ∨ c.disposition = .findings)
  | .resultUnaccepted => (∀ u ∈ done, ¬ u.Is .resultUnaccepted e.attemptIdentity) ∧ e.role = .supervisor ∧
    e.disposition = .unaccepted ∧ e.acceptedResult = false ∧
    (∃ s, firstOf .attemptStarted e.attemptIdentity done = some s ∧ e.SameAttempt s) ∧
    ∃ c, firstOf .attemptCompleted e.attemptIdentity done = some c ∧ c.disposition = .invalidContext
  | .formalRoundAdvanced => e.role = .supervisor ∧ e.disposition = .accepted ∧ e.acceptedResult = true ∧
    ∃ a, acceptedOf done = some a ∧ a.attemptIdentity = e.attemptIdentity ∧
      ∃ c, firstOf .attemptCompleted e.attemptIdentity done = some c ∧ c.disposition = .pass
  | .candidateMoved => True

/-- The accepted attempt has been completed. -/
def AcceptedCompleted (done : List LifecycleEvent) : Prop :=
  ∀ a, acceptedOf done = some a → (firstOf .attemptCompleted a.attemptIdentity done).isSome

theorem allowed_accepted (ht : e.transition = .resultAccepted) (h : Allowed done e) : acceptedOf done = none := by
  unfold Allowed at h
  rw [ht] at h
  exact h.1

theorem acceptedOf_of_allowed (h : Allowed done e) :
    acceptedOf (done ++ [e]) = if e.transition = .resultAccepted then some e else acceptedOf done := by
  split
  · rename_i ht
    exact acceptedOf_append (allowed_accepted ht h) ht
  · rename_i ht
    exact acceptedOf_append_of_ne ht

theorem acceptedDisposition_of_allowed (hcompleted : AcceptedCompleted done) (h : Allowed done e) :
    (Progress.of host (done ++ [e])).acceptedDisposition =
      if e.transition = .resultAccepted then (firstOf .attemptCompleted e.attemptIdentity done).map (·.disposition)
      else (Progress.of host done).acceptedDisposition := by
  show (acceptedOf (done ++ [e])).bind _ = _
  rw [acceptedOf_of_allowed h]
  split
  · rename_i ht
    rw [Option.bind_some, firstOf_append_of_ne (by simp [ht])]
  · show _ = (acceptedOf done).bind _
    cases haccepted : acceptedOf done with
    | none => rfl
    | some a => rw [Option.bind_some, Option.bind_some, firstOf_append_of_isSome (hcompleted a haccepted)]

/-- The variables that a transition sets, after an event that is taken. -/
theorem Progress.of_append (hcompleted : AcceptedCompleted done) (h : Allowed done e) :
    Progress.of host (done ++ [e]) =
      { projected := (Progress.of host done).projected ++ [e.projected host]
        started := if e.transition = .attemptStarted then (Progress.of host done).started ++ [(e.attemptIdentity, e)]
          else (Progress.of host done).started
        completed := if e.transition = .attemptCompleted then
            (Progress.of host done).completed ++ [(e.attemptIdentity, e.disposition)]
          else (Progress.of host done).completed
        unacceptedAttempts := if e.transition = .resultUnaccepted then
            (Progress.of host done).unacceptedAttempts ++ [e.attemptIdentity]
          else (Progress.of host done).unacceptedAttempts
        acceptedAttempt := if e.transition = .resultAccepted then some e.attemptIdentity else (Progress.of host done).acceptedAttempt
        acceptedDisposition := if e.transition = .resultAccepted then
            (firstOf .attemptCompleted e.attemptIdentity done).map (·.disposition)
          else (Progress.of host done).acceptedDisposition
        acceptedCount := if e.transition = .resultAccepted then (Progress.of host done).acceptedCount + 1
          else (Progress.of host done).acceptedCount
        formalAdvanceCount := if e.transition = .formalRoundAdvanced then (Progress.of host done).formalAdvanceCount + 1
          else (Progress.of host done).formalAdvanceCount
        predecessor := some (e.digest host) } := by
  rw [← acceptedDisposition_of_allowed hcompleted h]
  unfold Progress.of
  rw [Progress.mk.injEq, acceptedOf_of_allowed h]
  refine ⟨List.map_append, ?_, ?_, ?_, ?_, rfl, ?_, ?_, ?_⟩
  · split
    · exact recorded_append ‹_›
    · exact recorded_append_of_ne ‹_›
  · split
    · exact recorded_append ‹_›
    · exact recorded_append_of_ne ‹_›
  · split
    · rw [recorded_append ‹_›, List.map_append]
      rfl
    · rw [recorded_append_of_ne ‹_›]
  · split <;> rfl
  · split
    · rename_i ht
      rw [allowed_accepted ht h]
      rfl
    · rfl
  · rw [List.countP_append, List.countP_singleton]
    split <;> simp_all
  · rw [List.getLast?_concat]
    rfl

/-- A transition is advanced over exactly when it is allowed, and sets the variables as they are after it. -/
theorem advance_ok (hcompleted : AcceptedCompleted done) :
    advance (.of host done) e = .ok s ↔ Allowed done e ∧ s = { Progress.of host (done ++ [e]) with
      projected := (Progress.of host done).projected, predecessor := (Progress.of host done).predecessor } := by
  rw [and_congr_right fun h => by rw [Progress.of_append hcompleted h]]
  -- the branches of `advance` and of `Allowed` name the same lookups
  cases ht : e.transition with
  | attemptStarted =>
    simp only [advance, Allowed, ht, Progress.lookup_started, bind_eq_ok, exists_unit, refuse_eq_ok, pure_eq_ok, not_or,
      not_not, Option.not_isSome_iff_eq_none, reduceCtorEq, if_true, if_false]
    rw [@settled_iff host done]
    simp only [not_exists, not_and, not_not, and_assoc, eq_comm]
  | attemptCompleted =>
    simp only [advance, Allowed, ht, Progress.lookup_started, Progress.lookup_completed, bind_eq_ok, demand_eq_ok,
      exists_unit, refuse_eq_ok, pure_eq_ok, not_or, not_not, Option.not_isSome_iff_eq_none, Option.map_eq_none_iff,
        reduceCtorEq, if_true, if_false]
    constructor
    · rintro ⟨start, hstart, ⟨hfresh, hdisposition, hsame⟩, rfl⟩
      exact ⟨⟨hfresh, hdisposition, start, hstart, hsame⟩, rfl⟩
    · rintro ⟨⟨hfresh, hdisposition, start, hstart, hsame⟩, rfl⟩
      exact ⟨start, hstart, ⟨hfresh, hdisposition, hsame⟩, rfl⟩
  | resultAccepted =>
    simp only [advance, Allowed, ht, Progress.lookup_started, Progress.lookup_completed, bind_eq_ok, demand_eq_ok,
      exists_unit, refuse_eq_ok, pure_eq_ok, not_or, not_not, Option.not_isSome_iff_eq_none, reduceCtorEq, if_true,
        if_false, Bool.not_eq_false]
    constructor
    · rintro ⟨start, hstart, disposition, hlookup, ⟨hrole, hkind, hsame, hnone, hdisposition, hflag⟩, rfl⟩
      obtain ⟨c, hc, rfl⟩ := Option.map_eq_some_iff.1 hlookup
      refine ⟨⟨Option.map_eq_none_iff.1 hnone, hrole, hdisposition, hflag, ⟨start, hstart, hsame⟩, c, hc, ?_⟩, ?_⟩
      · exact (not_and_or.1 hkind).imp not_not.1 not_not.1
      · rw [hc]
        rfl
    · rintro ⟨⟨hnone, hrole, hdisposition, hflag, ⟨start, hstart, hsame⟩, c, hc, hkind⟩, rfl⟩
      refine ⟨start, hstart, c.disposition, Option.map_eq_some_iff.2 ⟨c, hc, rfl⟩,
        ⟨hrole, fun h => hkind.elim h.1 h.2, hsame, Option.map_eq_none_iff.2 hnone, hdisposition, hflag⟩, ?_⟩
      rw [hc]
      rfl
  | resultUnaccepted =>
    simp only [advance, Allowed, ht, Progress.lookup_started, Progress.lookup_completed, Progress.mem_unaccepted,
      bind_eq_ok, demand_eq_ok, exists_unit, refuse_eq_ok, pure_eq_ok, not_or, not_not, reduceCtorEq, if_true, if_false,
        Bool.not_eq_true,
      not_exists, not_and]
    constructor
    · rintro ⟨start, hstart, ⟨hrole, hlookup, hsame, hfresh, hdisposition, hflag⟩, rfl⟩
      obtain ⟨c, hc, hinvalid⟩ := Option.map_eq_some_iff.1 hlookup
      exact ⟨⟨hfresh, hrole, hdisposition, hflag, ⟨start, hstart, hsame⟩, c, hc, hinvalid⟩, rfl⟩
    · rintro ⟨⟨hfresh, hrole, hdisposition, hflag, ⟨start, hstart, hsame⟩, c, hc, hinvalid⟩, rfl⟩
      exact ⟨start, hstart, ⟨hrole, Option.map_eq_some_iff.2 ⟨c, hc, hinvalid⟩, hsame, hfresh, hdisposition, hflag⟩, rfl⟩
  | candidateMoved =>
    simp only [advance, Allowed, ht, pure_eq_ok, reduceCtorEq, if_false, true_and]
    exact eq_comm
  | formalRoundAdvanced =>
    simp only [advance, Allowed, ht, bind_eq_ok, exists_unit, refuse_eq_ok, pure_eq_ok, not_or, not_not, reduceCtorEq,
      if_true, if_false, Bool.not_eq_false]
    constructor
    · rintro ⟨⟨hnames, hpass, hrole, hdisposition, hflag⟩, rfl⟩
      obtain ⟨a, ha, hid⟩ := Option.map_eq_some_iff.1 hnames.symm
      have hdone : (Progress.of host done).acceptedDisposition =
          (acceptedOf done).bind fun a => (firstOf .attemptCompleted a.attemptIdentity done).map (·.disposition) := rfl
      rw [hdone, ha, Option.bind_some, hid] at hpass
      obtain ⟨c, hc, hkind⟩ := Option.map_eq_some_iff.1 hpass
      exact ⟨⟨hrole, hdisposition, hflag, a, ha, hid, c, hc, hkind⟩, rfl⟩
    · rintro ⟨⟨hrole, hdisposition, hflag, a, ha, hid, c, hc, hkind⟩, rfl⟩
      refine ⟨⟨?_, ?_, hrole, hdisposition, hflag⟩, rfl⟩
      · show _ = (acceptedOf done).map _
        rw [ha, Option.map_some, hid]
      · show (acceptedOf done).bind _ = _
        rw [ha, Option.bind_some, hid, hc, Option.map_some, hkind]

/-- An event that is taken: in its binding, and allowed. -/
def Taken (host : Host) (plan : LifecyclePlan) (done : List LifecycleEvent) (e : LifecycleEvent) : Prop :=
  InBinding plan done.length (done.getLast?.map (·.digest host)) e ∧ Allowed done e

theorem acceptedCompleted_of (h : Prefixwise (Taken host plan) done) : AcceptedCompleted done := by
  intro a ha
  obtain ⟨hmem, ht⟩ := acceptedOf_some ha
  obtain ⟨i, hi⟩ := List.mem_iff_getElem?.1 hmem
  have hallowed := (h i a hi).2
  simp only [Allowed, ht] at hallowed
  obtain ⟨-, -, -, -, -, c, hc, -⟩ := hallowed
  rw [Option.isSome_iff_ne_none, ne_eq, firstOf_none, not_forall]
  obtain ⟨hcmem, hcis⟩ := firstOf_some hc
  exact ⟨c, fun hnot => hnot (List.mem_of_mem_take hcmem) hcis⟩

theorem pass_ok (hdone : Prefixwise (Taken host plan) done) :
    pass host plan (.of host done) e = .ok s ↔ Taken host plan done e ∧ s = .of host (done ++ [e]) := by
  have hcompleted := acceptedCompleted_of hdone
  have hlength : (Progress.of host done).projected.length = done.length := List.length_map _
  simp only [pass, bind_eq_ok, exists_unit, refuse_eq_ok, not_not, pure_eq_ok, advance_ok hcompleted, hlength]
  constructor
  · rintro ⟨hbound, s', ⟨hallowed, rfl⟩, rfl⟩
    refine ⟨⟨hbound, hallowed⟩, ?_⟩
    rw [Progress.of_append hcompleted hallowed, LifecycleEvent.projected, hbound.2.1, hbound.2.2.1]
  · rintro ⟨⟨hbound, hallowed⟩, rfl⟩
    refine ⟨hbound, _, ⟨hallowed, rfl⟩, ?_⟩
    rw [Progress.of_append hcompleted hallowed, LifecycleEvent.projected, hbound.2.1, hbound.2.2.1]
    rfl

theorem loop_ok : events.foldlM (pass host plan) .initial = .ok s ↔ Prefixwise (Taken host plan) events ∧ s = .of host events := by
  rw [← @Progress.of_nil host]
  exact foldlM_prefixwise fun done e s hdone => pass_ok hdone

end Roundwright.Lifecycle
